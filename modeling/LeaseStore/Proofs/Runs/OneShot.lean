/-
LeaseStore.Proofs.Runs.OneShot — a refusal is told of once.

An action asks the service for something at one point, and the session after it
depends on the reply (`Session.asks_perform`). So engines that share a service
go on alike whether a request was refused or was never sent
(`Pool.Alike.through`): the refusal is in the reply to that one action, and
nowhere else. What the call makes of that reply is settled by the call alone
(`Request.bears`), so it holds however the steps of all tasks fall from then on.

* `refusals_are_told_of_once` — what becomes of the request whose action meets
  the refusal, and that no task notices anything else of it.
-/
import LeaseStore.Proofs.Runs.Setbacks

namespace LeaseStore

variable {σ : Type} {p : Part σ Traffic}

/-! ## Sessions -/

/-- The connector of the engine meets snags, and so does the backend that it is
linked to. -/
structure Engine.MeetsSnags (p : Part σ Traffic) (e : Engine (σ × Option Snag)) : Prop where
  connector : e.connector.MeetsSnags p
  link : ∀ l, e.link = some l → l.backend.MeetsSnags p

namespace Session

variable {s s' : Session (σ × Option Snag)}

theorem meetsSnags_perform (h : s.engine.MeetsSnags p) (a : Action) :
    (s.perform a).2.engine.MeetsSnags p where
  connector := by
    rw [(s.keeps_perform a).connector]
    exact h.connector
  link l hl := by
    obtain hold | ⟨config, st, -, hopen⟩ := s.opens_perform a l hl
    · exact h.link l hold
    · exact h.connector.opens config st _ hopen

/-- An action asks the service for something that meets snags, and the session
after it depends on the reply. -/
def Asks (p : Part σ Traffic) (s : Session (σ × Option Snag)) (a : Action) : Prop :=
  ∃ (g : σ × Option Snag → a.Reply × (σ × Option Snag))
    (after : a.Reply → Session (σ × Option Snag)),
    LeaseStore.MeetsSnags p (fun e n r => a.Refused e n r) g ∧
      ∀ x, (s.withStore x).perform a = ((g x).1, (after (g x).1).withStore (g x).2)

/-- An action that asks nothing of the service. -/
theorem Asks.still {a : Action} (reply : a.Reply) (after : Session (σ × Option Snag))
    (h : ∀ x, (s.withStore x).perform a = (reply, after.withStore x)) : s.Asks p a :=
  ⟨fun x => (reply, x), fun _ => after, .still reply, h⟩

/-- What connecting answers once the collection has been asked for. -/
def provided (config : Config) : Except BackendError Unit → Except StoreError Config
  | .error e => .error (provisioningError config.collectionRef e)
  | .ok () => .ok config

/-- The session with a link to this backend, if connecting succeeded. -/
def linkedOn (s : Session (σ × Option Snag)) (b : Backend (σ × Option Snag))
    (c : CollectionRef) : Except StoreError Config → Session (σ × Option Snag)
  | .error _ => s
  | .ok _ => { s with engine := { s.engine with link := some ⟨b, c⟩ } }

theorem asks_connect (h : s.engine.MeetsSnags p) : s.Asks p .connect := by
  cases hconfig : s.engine.config with
  | unset =>
    refine .still (.error .uninitialized) s fun x => ?_
    have hconfig' : (s.withStore x).engine.config = .unset := hconfig
    simp only [perform, connect, hconfig']
  | ready config =>
    cases hl : s.engine.link with
    | some l => exact .still (.ok config) s fun x => connect_of_linked hconfig hl
    | none =>
      have hrun (x : σ × Option Snag) : (s.withStore x).perform .connect = _ :=
        connect_of_unlinked (s := s.withStore x) hconfig hl
      -- the connector asks the service for nothing, so it does not see the snag
      have hopen (x : σ × Option Snag) : s.engine.connector config x =
          ((s.engine.connector config s.world.store).1, x) :=
        Prod.ext (h.connector.reply config x _) (h.connector.same config x)
      cases hfirst : (s.engine.connector config s.world.store).1 with
      | error err =>
        refine .still (.error err) s fun x => ?_
        rw [hrun]
        simp only [withStore, hopen x, hfirst]
      | ok b =>
        have hensure := (h.connector.opens config _ b hfirst).ensure config.collectionRef
        refine ⟨_, s.linkedOn b config.collectionRef, hensure.map (provided config) ?_,
          fun x => ?_⟩
        · rintro e n _ hplain rfl
          exact reports_provisioningError hplain _
        · rw [hrun]
          simp only [withStore, hopen x, hfirst]
          rcases b.ensure config.collectionRef x with ⟨_ | _, y⟩ <;> rfl

theorem asks_perform (h : s.engine.MeetsSnags p) (hp : p.Lawful) (a : Action) : s.Asks p a := by
  -- an engine that is not linked sends nothing, and one that is sends what its backend makes of it
  have hrequest {β : Type} (f : Link (σ × Option Snag) → Answering (σ × Option Snag) β)
      (hf : ∀ l, s.engine.link = some l → LeaseStore.MeetsSnags p Failing (f l)) :
      ∃ g : Answering (σ × Option Snag) β, LeaseStore.MeetsSnags p Failing g ∧
        ∀ x, (s.withStore x).request f = ((g x).1, s.withStore (g x).2) := by
    cases hl : s.engine.link with
    | none => exact ⟨_, .still _, fun x => request_unlinked (s := s.withStore x) hl f⟩
    | some l => exact ⟨f l, hf l hl, fun x => request_eq (s := s.withStore x) hl f⟩
  cases a with
  | connect => exact asks_connect h
  | now => exact .still s.world.clock s fun _ => rfl
  | count n => exact .still () (s.count n) fun _ => rfl
  | pause d => exact .still () { s with world := s.world.later d.millisUp } fun _ => rfl
  | draw bound =>
    refine .still (s.world.draw bound).1
      { s with world := { s.world with draws := s.world.draws.tail } } fun x => ?_
    have hdraw : ((s.withStore x).world.draw bound).1 = (s.world.draw bound).1 :=
      World.draw_fst_congr (w := (s.withStore x).world) (u := s.world) rfl bound
    exact ((s.withStore x).perform_draw bound).trans (Prod.ext hdraw rfl)
  | read id =>
    obtain ⟨g, hg, heq⟩ := hrequest (fun l => l.backend.read l.collection id)
      fun l hl => (h.link l hl).read l.collection id
    exact ⟨g, fun _ => s, hg, heq⟩
  | list =>
    obtain ⟨g, hg, heq⟩ := hrequest (fun l => l.backend.list l.collection)
      fun l hl => (h.link l hl).list l.collection
    exact ⟨g, fun _ => s, hg, heq⟩
  | create r =>
    obtain ⟨g, hg, heq⟩ := hrequest (fun l => l.backend.create l.collection r)
      fun l hl => (h.link l hl).create l.collection r
    exact ⟨g, fun _ => s, hg, heq⟩
  | upsert r w =>
    obtain ⟨g, hg, heq⟩ := hrequest (fun l => l.backend.upsert l.collection r w)
      fun l hl => (h.link l hl).upsert l.collection r w
    exact ⟨g, fun _ => s, hg, heq⟩
  | health =>
    obtain ⟨g, hg, heq⟩ := hrequest (fun l => l.backend.health) fun l hl => (h.link l hl).health
    exact ⟨g, fun _ => s, hg, heq⟩
  | delete id =>
    cases hl : s.engine.link with
    | none =>
      refine .still (.error unlinked) s fun x => ?_
      have hl' : (s.withStore x).engine.link = none := hl
      simp only [perform, hl']
    | some l =>
      have hmeets := h.link l hl
      refine ⟨_, fun _ => s, (hmeets.delete l.collection id).toMeetsSnags, fun x => ?_⟩
      have hl' : (s.withStore x).engine.link = some l := hl
      simp only [perform, hl', Backend.delete_eq_of_delay (hmeets.delay l.collection id _)]
      rfl
  | deleteWave ids =>
    cases hl : s.engine.link with
    | none =>
      refine .still (ids.map fun _ => .error unlinked) s fun x => ?_
      have hl' : (s.withStore x).engine.link = none := hl
      simp only [perform, hl']
    | some l =>
      have hmeets := h.link l hl
      refine ⟨_, fun _ => s, hmeets.deleteEach hp l.collection ids, fun x => ?_⟩
      have hl' : (s.withStore x).engine.link = some l := hl
      simp only [perform, hl', Backend.deleteWave_of_delay (hmeets.delay l.collection)]
      rfl

/-- One session is another, but for how alike their stores are. -/
def Alike (p : Part σ Traffic) (s s' : Session (σ × Option Snag)) : Prop :=
  ∃ y, Traffic.Alike p s.world.store y ∧ s' = s.withStore y

theorem Alike.perform (h : s.Alike p s') (hmeets : s.engine.MeetsSnags p) (hp : p.Lawful)
    (a : Action) :
    (s'.perform a).1 = (s.perform a).1 ∧ (s.perform a).2.Alike p (s'.perform a).2 := by
  obtain ⟨y, hy, rfl⟩ := h
  obtain ⟨g, after, hg, heq⟩ := asks_perform hmeets hp a
  obtain ⟨hreply, halike⟩ := hg.alike hy
  have hself : s.perform a = _ := heq s.world.store
  rw [hself, heq y, hreply]
  exact ⟨rfl, _, halike, rfl⟩

theorem clear_perform (hmeets : s.engine.MeetsSnags p) (hp : p.Lawful) (a : Action)
    (h : s.world.store.2 = none) : (s.perform a).2.world.store.2 = none := by
  obtain ⟨g, after, hg, heq⟩ := asks_perform hmeets hp a
  have hself : s.perform a = _ := heq s.world.store
  rcases hstore : s.world.store with ⟨st, o⟩
  rw [hstore] at h hself
  obtain rfl : o = none := h
  rw [hself]
  exact hg.clear st

/-- The action that has met the snag is replied to accordingly. -/
theorem refused_perform (hmeets : s.engine.MeetsSnags p) (hp : p.Lawful) (a : Action) {sn : Snag}
    (hfree : (p.get s.world.store.1).Free) (hplain : sn.refusal.Plain)
    (hsnag : s.world.store.2 = some sn) (hmet : (s.perform a).2.world.store.2 = none) :
    a.Refused sn.refusal sn.after (s.perform a).1 := by
  obtain ⟨g, after, hg, heq⟩ := asks_perform hmeets hp a
  have hself : s.perform a = _ := heq s.world.store
  rcases hstore : s.world.store with ⟨st, o⟩
  rw [hstore] at hfree hsnag hself
  obtain rfl : o = some sn := hsnag
  rw [hself] at hmet ⊢
  exact hg.refused hfree hplain hmet

end Session

/-! ## Pools -/

/-- The task once its next action has been replied to. -/
def Task.after (task : Task) (a : Action) (next : a.Reply → Call Answer) (r : a.Reply) : Task :=
  { task with past := ⟨a, r⟩ :: task.past, rest := next r }

namespace Pool

variable {P P' : Pool (σ × Option Snag)}

/-- One pool is another, but for how alike their stores are. Their engines meet
snags. -/
structure Alike (p : Part σ Traffic) (P P' : Pool (σ × Option Snag)) : Prop where
  meets : ∀ k, (P.engines k).MeetsSnags p
  engines : P'.engines = P.engines
  tasks : P'.tasks = P.tasks
  world : ∃ y, Traffic.Alike p P.world.store y ∧ P'.world = { P.world with store := y }

theorem Alike.session (h : P.Alike p P') (task : Task) :
    (P.session task).Alike p (P'.session task) := by
  obtain ⟨y, hy, hworld⟩ := h.world
  refine ⟨y, hy, ?_⟩
  simp only [Pool.session, h.engines, hworld]
  rfl

theorem Alike.act (h : P.Alike p P') (hp : p.Lawful) (k : Nat) (task : Task) (a : Action)
    (next : a.Reply → Call Answer) : (P.act k task a next).Alike p (P'.act k task a next) := by
  obtain ⟨hreply, y, hy, hsession⟩ := (h.session task).perform (h.meets task.engine) hp a
  have hmeets := Session.meetsSnags_perform (s := P.session task) (h.meets task.engine) a
  refine ⟨fun n => ?_, ?_, ?_, y, hy, congrArg Session.world hsession⟩
  · show (Function.update P.engines task.engine _ n).MeetsSnags p
    by_cases hn : n = task.engine
    · rw [hn, Function.update_self]
      exact hmeets
    · rw [Function.update_of_ne hn]
      exact h.meets n
  · have hengine : ((P'.session task).perform a).2.engine =
        ((P.session task).perform a).2.engine := by
      rw [hsession]
      rfl
    show Function.update P'.engines task.engine ((P'.session task).perform a).2.engine =
      Function.update P.engines task.engine ((P.session task).perform a).2.engine
    rw [h.engines, hengine]
  · show Function.update P'.tasks k (some (task.after a next ((P'.session task).perform a).1)) =
      Function.update P.tasks k (some (task.after a next ((P.session task).perform a).1))
    rw [h.tasks, hreply]

/-- **What happens to two pools that are alike happens alike.** -/
theorem Alike.meet (h : P.Alike p P') (hp : p.Lawful) (incident : Incident) :
    (P.meet incident).Alike p (P'.meet incident) := by
  obtain ⟨y, hy, hworld⟩ := h.world
  match incident with
  | .clock t =>
    refine ⟨h.meets, h.engines, h.tasks, y, hy, ?_⟩
    simp only [Pool.meet, hworld]
  | .turn (.wait ms) =>
    refine ⟨h.meets, h.engines, h.tasks, y, hy, ?_⟩
    simp only [Pool.meet, take, hworld]
    rfl
  | .turn (.start k engine errand) =>
    simp only [Pool.meet, take, start, h.tasks]
    split
    case h_1 => exact h
    case h_2 =>
      refine ⟨h.meets, h.engines, ?_, h.world⟩
      simp only [enter, h.tasks]
  | .turn (.step k) =>
    simp only [Pool.meet, take, step, h.tasks]
    split
    case h_1 => exact h
    case h_2 task _ =>
      split
      case h_1 => exact h
      case h_2 a next _ => exact h.act hp k task a next

/-- Induction on the incidents. -/
theorem Alike.through (h : P.Alike p P') (hp : p.Lawful) (incidents : List Incident) :
    (P.through incidents).Alike p (P'.through incidents) := by
  induction incidents generalizing P P' with
  | nil => exact h
  | cons incident incidents ih => exact ih (h.meet hp incident)

/-- The pool with a snag ahead of the requests to come. -/
def expecting (P : Pool (σ × Option Snag)) (sn : Snag) : Pool (σ × Option Snag) :=
  { P with world := { P.world with store := (P.world.store.1, some sn) } }

theorem Alike.free (h : P.Alike p P') : (p.get P.world.store.1).Free := by
  obtain ⟨y, hy, -⟩ := h.world
  exact hy.free

/-- Whether the request is withheld makes no difference. -/
theorem Alike.expecting (h : P.Alike p P) (hp : p.Lawful) (n : Nat) (e : ServiceError)
    (withheld withheld' : Bool) :
    (P.expecting ⟨n, e, withheld⟩).Alike p (P.expecting ⟨n, e, withheld'⟩) where
  meets := h.meets
  engines := rfl
  tasks := rfl
  world := ⟨(P.world.store.1, some ⟨n, e, withheld'⟩),
    ⟨h.free, ⟨_, h.free, (hp.set_get _).symm⟩, withheld', rfl⟩, rfl⟩

/-- Where there is no snag, none comes up. -/
theorem Alike.clear_through (h : P.Alike p P) (hp : p.Lawful) (hclear : P.world.store.2 = none)
    (incidents : List Incident) : (P.through incidents).world.store.2 = none := by
  refine (through_induction (I := fun P => P.Alike p P ∧ P.world.store.2 = none)
    ?_ ?_ ?_ ⟨h, hclear⟩ incidents).2
  · rintro P k engine errand ⟨h, hclear⟩ -
    exact ⟨⟨h.meets, rfl, rfl, h.world⟩, hclear⟩
  · rintro P k task a next ⟨h, hclear⟩ - -
    exact ⟨h.act hp k task a next,
      Session.clear_perform (s := P.session task) (h.meets task.engine) hp a hclear⟩
  · rintro P t ⟨h, hclear⟩
    exact ⟨h.meet hp (.clock t), hclear⟩

section Tasks

variable {τ : Type} {T : Pool τ} {e : ServiceError} {k : Nat} {task : Task} {a : Action}
  {next : a.Reply → Call Answer}

/-- What is left of each request bears refusals. -/
def Bears (e : ServiceError) (T : Pool τ) : Prop :=
  ∀ k task q, T.tasks k = some task → task.errand = .request q → task.rest.Always (q.Bears e)

theorem Bears.through (h : T.Bears e) (hplain : e.Plain) (incidents : List Incident) :
    (T.through incidents).Bears e := by
  refine through_induction (I := Bears e) ?_ ?_ (fun _ _ h => h) h incidents
  · intro T k engine errand h _ n task q htask herrand
    obtain ⟨-, rfl⟩ | ⟨-, hold⟩ := tasks_enter htask
    · obtain rfl : errand = .request q := herrand
      exact Request.bears hplain q
    · exact h n task q hold herrand
  · intro T k task a next h htask hrest n task' q htask' herrand
    obtain ⟨-, rfl⟩ | ⟨-, hold⟩ := tasks_act htask'
    · have hbears := h k task q htask herrand
      rw [hrest] at hbears
      exact hbears.2 _
    · exact h n task' q hold herrand

theorem step_eq (htask : T.tasks k = some task) (hrest : task.rest = .act a next) :
    T.step k = T.act k task a next := by
  simp only [step, htask, hrest]

theorem tasks_act_self :
    (T.act k task a next).tasks k =
      some (task.after a next ((T.session task).perform a).1) :=
  Function.update_self ..

/-- Whatever else happens, and however far the task has got by then: once it is
done, `Q` holds of its answer. -/
def Answers (T : Pool τ) (k : Nat) (Q : Answer → Prop) : Prop :=
  ∀ later, ∃ task, (T.through later).tasks k = some task ∧
    Q (task.rest.run ((T.through later).session task)).1

theorem answers_of_endsWith {Q : Answer → Prop} (htask : T.tasks k = some task)
    (hends : task.rest.EndsWith Q) : T.Answers k Q := by
  intro later
  obtain ⟨task', htask', hends'⟩ : ∃ task', (T.through later).tasks k = some task' ∧
      task'.rest.EndsWith Q := by
    refine through_induction (I := fun T => ∃ task, T.tasks k = some task ∧ task.rest.EndsWith Q)
      ?_ ?_ (fun _ _ h => h) ⟨task, htask, hends⟩ later
    · rintro T n engine errand ⟨task, htask, hends⟩ hnone
      have hk : k ≠ n := by
        rintro rfl
        rw [hnone] at htask
        cases htask
      exact ⟨task, (Function.update_of_ne hk _ _).trans htask, hends⟩
    · rintro T n task' a next ⟨task, htask, hends⟩ htask' hrest
      by_cases hk : k = n
      · subst hk
        obtain rfl := Option.some.inj (htask.symm.trans htask')
        rw [hrest] at hends
        exact ⟨_, tasks_act_self, hends _ ((T.session task).sane_perform a)⟩
      · exact ⟨task, (Function.update_of_ne hk _ _).trans htask, hends⟩
  exact ⟨task', htask', hends'.path _⟩

end Tasks

end Pool

/-- The world around a service that has no snag ahead. -/
def World.smooth (w : World σ) : World (σ × Option Snag) := ⟨w.clock, w.draws, (w.store, none)⟩

theorem Pool.alike_fresh {k : Connector (σ × Option Snag)} (hk : k.MeetsSnags p) (hp : p.Lawful)
    (configs : Nat → Once Config) {w : World σ} (h : (p.get w.store).Free) :
    (Pool.fresh k configs w.smooth).Alike p (Pool.fresh k configs w.smooth) where
  meets _ := ⟨hk, fun _ hl => nomatch hl⟩
  engines := rfl
  tasks := rfl
  world := ⟨_, .refl hp h, rfl⟩

/-- The request is about a lock. -/
def Request.AboutLock : Request → Prop
  | tryToLock _ _ _ | tryToUnlock _ _ | lockWithRetry _ _ _ _ => True
  | _ => False

open Fleet Pool Operation in
/-- **A refusal is told of once.** Engines share a service in the cloud, and
whatever has happened so far, no refusal is set. One of their tasks is about to
take an action for its request, and request number `n` of those that the action
makes, from zero, is refused with a status and a code that name no outcome.
However everything goes on from there:

* the answer is a failure that tells of the refusal; if it was a delete of a
  wave, the failure entry of its id does;
* an attempt to lock or to unlock is lost, and of attempts with pauses in
  between it is the one under way;
* if it was a delete to clean up, the answer is what it is if nothing is refused;
* no task ever notices whether the refused request was sent at all, and nothing
  else is refused. -/
theorem refusals_are_told_of_once (kind : Cloud) (configs : Nat → Once Config) (w : World Fleet)
    (hfree : (kind.traffic.get w.store).Free) (incidents : List Incident) {e : ServiceError}
    (hplain : e.Plain) (n k : Nat) {task : Task} {q : Request} {a : Action}
    {next : a.Reply → Call Answer} :
    let p := (Pool.fresh kind.connector configs w.smooth).through incidents
    let refused := (p.expecting ⟨n, e, false⟩).step k
    let withheld := (p.expecting ⟨n, e, true⟩).step k
    p.tasks k = some task → task.errand = .request q → task.rest = .act a next →
    refused.world.store.2 = none →
      (¬ q.CleansUp a → ¬ q.AboutLock → (∀ ids, a ≠ .deleteWave ids) →
        refused.Answers k (Answer.Tells e)) ∧
      (∀ ids, q = .deleteMany ids → ∀ wave, a = .deleteWave wave →
        refused.Answers k fun answer =>
          ∃ b : BulkDelete, answer = .report (.ok b) ∧ b.Enters e wave n) ∧
      (¬ q.CleansUp a →
        ((∃ id owner seconds, q = .tryToLock id owner seconds) ∨
          ∃ id owner, q = .tryToUnlock id owner) →
        refused.Answers k (· = .truth (.ok false))) ∧
      (¬ q.CleansUp a → ∀ id owner seconds policy, q = .lockWithRetry id owner seconds policy →
        ∃ rest task', refused.tasks k = some task' ∧
          Loses policy (Operation.tryToLock id owner seconds) policy.attempts rest ∧
          task'.rest = rest >>= fun answer => .done (.retried answer)) ∧
      (q.CleansUp a → ∃ answer,
        refused.Answers k (· = answer) ∧ (p.step k).Answers k (· = answer)) ∧
      ∀ later,
        (refused.through later).tasks = (withheld.through later).tasks ∧
        (refused.through later).world.store.2 = none ∧
        (kind.traffic.get (refused.through later).world.store.1).Free := by
  intro p refused withheld htask herrand hrest hmet
  have hlawful := kind.traffic_lawful
  have hself : p.Alike kind.traffic p :=
    (alike_fresh kind.meetsSnags hlawful configs hfree).through hlawful incidents
  have hrefused : refused = (p.expecting ⟨n, e, false⟩).act k task a next := step_eq htask hrest
  have hreply : a.Refused e n (((p.expecting ⟨n, e, false⟩).session task).perform a).1 := by
    rw [hrefused] at hmet
    exact Session.refused_perform (hself.meets task.engine) hlawful a hself.free hplain rfl hmet
  have htask' : refused.tasks k = some (task.after a next _) := hrefused ▸ tasks_act_self
  have hfresh : (Pool.fresh kind.connector configs w.smooth).Bears e :=
    fun _ _ _ htask => nomatch htask
  -- whatever the task has been through, what is left of its call bears a refusal
  have hbears : task.rest.Always (q.Bears e) :=
    hfresh.through hplain incidents k task q htask herrand
  rw [hrest] at hbears
  obtain ⟨hmoot, hsuffers⟩ := hbears.1
  refine ⟨fun hclean hlock hwave => ?_, ?_, ?_, ?_, fun hclean => ?_, fun later => ?_⟩
  · have hends := hsuffers hclean n _ hreply
    refine answers_of_endsWith htask' ?_
    cases q with
    | tryToLock | tryToUnlock | lockWithRetry => exact absurd trivial hlock
    | deleteMany ids =>
      cases a with
      | deleteWave ids => exact absurd rfl (hwave ids)
      | _ => exact hends
    | _ => exact hends
  · rintro ids rfl wave rfl
    exact answers_of_endsWith htask' (hsuffers (fun hclean => nomatch hclean.2) n _ hreply)
  · rintro hclean (⟨id, owner, seconds, rfl⟩ | ⟨id, owner, rfl⟩)
    · exact answers_of_endsWith htask' (hsuffers hclean n _ hreply)
    · exact answers_of_endsWith htask' (hsuffers hclean n _ hreply)
  · rintro hclean id owner seconds policy rfl
    obtain ⟨rest, hloses, hrest'⟩ := hsuffers hclean n _ hreply
    exact ⟨rest, _, htask', hloses, hrest'⟩
  · obtain ⟨answer, hends⟩ := hmoot hclean
    have hplainly : (p.step k).tasks k = some (task.after a next _) :=
      (step_eq htask hrest).symm ▸ tasks_act_self
    exact ⟨answer, answers_of_endsWith htask' (hends _), answers_of_endsWith hplainly (hends _)⟩
  -- whether the request was sent or not, the stores differ in the traffic only
  · have hstep (withheld : Bool) : refused.Alike kind.traffic _ :=
      (hself.expecting hlawful n e false withheld).meet hlawful (.turn (.step k))
    exact ⟨((hstep true).through hlawful later).tasks.symm,
      (hstep false).clear_through hlawful hmet later, ((hstep false).through hlawful later).free⟩

/-- The service is busy. -/
def ServiceError.busy : ServiceError := ⟨503, some "ServerBusy", "too many requests"⟩

open Fleet in
/-- A new engine over the document database that is about to create a record. -/
abbrev Pool.unprovided : Pool (Fleet × Option Snag) :=
  let config : Config :=
    { storageType := "document", collection := "items",
      connectionString := "AccountEndpoint=https://x/;AccountKey=YWJj==" }
  (Pool.fresh Cloud.document.connector (fun _ => .ready config)
    (World.smooth ⟨Instant.epoch, [], {}⟩)).through
      [.turn (.start 0 0 (.request (.create { id := "a" })))]

open Fleet Pool in
/-- The database is created and the container is not, and the engine may try
again. -/
theorem refusals_are_told_of_once_container :
    let refused := (unprovided.expecting ⟨1, .busy, false⟩).step 0
    let withheld := (unprovided.expecting ⟨1, .busy, true⟩).step 0
    refused.world.store.1.documents.databases = ["fleetsim"] ∧
      refused.Answers 0 (Answer.Tells .busy) ∧
      ∀ later, (refused.through later).tasks = (withheld.through later).tasks := by
  intro refused withheld
  have hplain : ServiceError.busy.Plain := ⟨by decide, by decide⟩
  have hmet : refused.world.store.2 = none := by decide +kernel
  obtain ⟨htold, -, -, -, -, hlater⟩ := refusals_are_told_of_once .document _
    ⟨Instant.epoch, [], {}⟩ rfl [.turn (.start 0 0 (.request (.create { id := "a" })))] hplain 1 0
    rfl rfl rfl hmet
  exact ⟨by decide +kernel, htold (fun hclean => nomatch hclean.2) id nofun,
    fun later => (hlater later).1⟩

end LeaseStore
