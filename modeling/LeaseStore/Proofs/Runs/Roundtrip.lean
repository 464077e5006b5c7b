/-
LeaseStore.Proofs.Runs.Roundtrip — what is written is what is read.

A write that succeeds answers the record that it has stored: every field as
the caller gave it, but for the time of the write and a token of its own. From
then on the record stands under its id until someone stores another one there
or removes it (`Pool.Untouched`), whatever else the engines do, and whichever
of them reads it.

* `Request.run_restamped` — the time and the token that the caller's record
  carries have no part in it; an upsert only presents the token.
* `Pool.Able.look_through` — a record that nobody touches stays.
* `writes_read_back` — on any of the backends, from any state that engines can
  have come to.
-/
import LeaseStore.Proofs.Interleaving.Tokens
import LeaseStore.Proofs.Runs.Reach
import LeaseStore.Proofs.Runs.Writing
import LeaseStore.Proofs.Store.Stamps

namespace LeaseStore

variable {σ : Type} {V : View σ} {c : CollectionRef}

/-! ## What a caller's record says of time and version -/

namespace Request

/-- The same write of a record that carries another time and another token. An
upsert presents the token of its own record all the same. -/
def restamped (time : Instant) (token : String) : Request → Request
  | create r => create { r with modifiedAt := time, token }
  | upsert r => upsertWithToken { r with modifiedAt := time, token } r.token
  | upsertWithToken r shown => upsertWithToken { r with modifiedAt := time, token } shown
  | q => q

end Request

namespace Session

/-- Writes of this session take no notice of the tokens of their records. -/
def Stamps (s : Session σ) : Prop := ∀ l, s.engine.link = some l → l.backend.Stamps

variable {s : Session σ}

theorem request_congr {α : Type} {f g : Link σ → Answering σ α}
    (h : ∀ l, s.engine.link = some l → f l = g l) : s.request f = s.request g := by
  cases hl : s.engine.link with
  | none => rw [request_unlinked hl, request_unlinked hl]
  | some l => rw [request_eq hl, request_eq hl, h l hl]

theorem Stamps.perform_create (h : s.Stamps) (r : Record) (token : String) :
    s.perform (.create { r with token }) = s.perform (.create r) :=
  request_congr fun l hl => (h l hl).create l.collection r token

theorem Stamps.perform_upsert (h : s.Stamps) (r : Record) (w : WriteCondition) (token : String) :
    s.perform (.upsert { r with token } w) = s.perform (.upsert r w) :=
  request_congr fun l hl => (h l hl).upsert l.collection r w token

end Session

namespace Operation

open Call

variable {s : Session σ}

theorem run_insert_restamped (h : s.Stamps) (r : Record) (time : Instant) (token : String) :
    (insert { r with modifiedAt := time, token }).run s = (insert r).run s := by
  have hrun (r : Record) : (insert r).run s =
      (settle r .create (s.perform (.create (r.touchAt s.world.clock))).1).run
        (s.perform (.create (r.touchAt s.world.clock))).2 := rfl
  rw [hrun, hrun r, ← h.perform_create (r.touchAt s.world.clock) token]
  rfl

theorem run_replace_restamped (h : s.Stamps) (r : Record) (w : WriteCondition) (time : Instant)
    (token : String) :
    (replace { r with modifiedAt := time, token } w).run s = (replace r w).run s := by
  have hrun (r : Record) : (replace r w).run s =
      (settle r .upsert (s.perform (.upsert (r.touchAt s.world.clock) w)).1).run
        (s.perform (.upsert (r.touchAt s.world.clock) w)).2 := rfl
  rw [hrun, hrun r, ← h.perform_upsert (r.touchAt s.world.clock) w token]
  rfl

theorem run_connected_congr {α : Type} {x y : Config → Call (Except StoreError α)}
    (h : ∀ config, (x config).run s.connect.2 = (y config).run s.connect.2) :
    (connected x).run s = (connected y).run s := by
  rw [run_connected_eq, run_connected_eq]
  cases s.connect.1 with
  | error err => rfl
  | ok config => exact h config

end Operation

open Operation in
/-- **A write does not depend on the time and the token of its record**, but
for the token that an upsert presents. -/
theorem Request.run_restamped {s : Session σ} (h : s.connect.2.Stamps) (q : Request)
    (time : Instant) (token : String) : (q.restamped time token).call.run s = q.call.run s := by
  have hrecord {x y : Call (Except StoreError Record)} (heq : x.run s = y.run s) :
      (x >>= fun a => Call.done (Answer.record a)).run s =
        (y >>= fun a => Call.done (Answer.record a)).run s := by
    rw [Call.run_map, Call.run_map, heq]
  have hwrite (r : Record) (w : WriteCondition) :
      (Operation.write { r with modifiedAt := time, token } w).run s =
        (Operation.write r w).run s := by
    rw [write_eq, write_eq]
    exact run_connected_congr fun _ => run_replace_restamped h r w time token
  cases q with
  | create r =>
    refine hrecord ?_
    rw [create_eq, create_eq]
    exact run_connected_congr fun _ => run_insert_restamped h r time token
  | upsert r => exact hrecord (hwrite r (.ofToken r.token))
  | upsertWithToken r shown => exact hrecord (hwrite r (.ofToken shown))
  | get | contains | getAll | delete | deleteMany | tryToLock | tryToUnlock | lockWithRetry
  | healthCheck => rfl

/-! ## What touches a record -/

/-- The ids under which an exchange has stored a record or removed one. -/
def Exchange.touched : Exchange → List String
  | ⟨.create r, .ok _⟩ | ⟨.upsert r _, .ok _⟩ => [r.id]
  | ⟨.delete id, .ok ()⟩ => [id]
  | ⟨.deleteWave ids, replies⟩ => (ids.zip replies).filterMap fun
    | (id, .ok ()) => some id
    | _ => none
  | _ => []

/-- The event has stored or removed a record under the id, where `c` holds its
records. -/
def Event.Touches (V : View σ) (c : CollectionRef) (id : String) (e : Event σ) : Prop :=
  id ∈ e.exchange.touched ∧ ∃ c', e.collection = some c' ∧ V.shelf c' = V.shelf c

namespace View

variable {s s' : σ} {c' : CollectionRef} {id id' : String}

theorem Stored.look_of_ne {r : Record} (h : V.Stored s s' c r)
    (hne : V.shelf c' = V.shelf c → id' ≠ r.id) : V.look s' c' id' = V.look s c' id' := by
  rw [h.look, if_neg fun hat => hne hat.1 hat.2]

theorem Removed.look_of_ne (h : V.Removed s s' c id)
    (hne : V.shelf c' = V.shelf c → id' ≠ id) : V.look s' c' id' = V.look s c' id' := by
  rw [h.look, if_neg fun hat => hne hat.1 hat.2]

theorem Drops.look_of_untouched {reply : Except BackendError Unit} (h : V.Drops s s' c id reply)
    (hnot : V.shelf c' = V.shelf c → id' ∉ (⟨.delete id, reply⟩ : Exchange).touched) :
    V.look s' c' id' = V.look s c' id' := by
  cases h with
  | removed _ hremoved =>
    exact hremoved.look_of_ne fun hshelf heq => hnot hshelf (List.mem_singleton.2 heq)
  | kept hsame => exact hsame.look c' id'

/-- Induction on the ids. -/
theorem DropsAll.look_of_untouched {ids : List String} {replies : List (Except BackendError Unit)}
    (h : V.DropsAll c s ids s' replies)
    (hnot : V.shelf c' = V.shelf c → id' ∉ (⟨.deleteWave ids, replies⟩ : Exchange).touched) :
    V.look s' c' id' = V.look s c' id' := by
  induction h with
  | nil s => rfl
  | @cons s t u id ids r rs hdrop _ ih =>
    refine (ih fun hshelf hmem => hnot hshelf ?_).trans
      (hdrop.look_of_untouched fun hshelf hmem => hnot hshelf ?_)
    · cases r with
      | error e => exact hmem
      | ok u => exact List.mem_cons_of_mem _ hmem
    · cases r with
      | error e => cases hmem
      | ok u =>
        obtain rfl := List.mem_singleton.1 hmem
        exact List.mem_cons_self

theorem Writes.look_of_ne {r : Record} {admitted : Prop} {refusal : BackendError}
    {reply : Except BackendError Record} (h : V.Writes s s' c r admitted refusal reply)
    (hne : V.shelf c' = V.shelf c → (∃ stored, reply = .ok stored) → id' ≠ r.id) :
    V.look s' c' id' = V.look s c' id' := by
  cases h with
  | stored _ hstored => exact hstored.look_of_ne fun hshelf => hne hshelf ⟨_, rfl⟩
  | refused _ hsame => exact hsame.look c' id'
  | failed _ hsame => exact hsame.look c' id'

end View

namespace Session

variable {s : Session σ} {c' : CollectionRef} {id : String}

/-- What is asked of the store leaves a record that it does not touch. Cases on
the action. -/
theorem Fit.look_perform_linked (h : s.Fit V c) {l : Link σ} (hl : s.engine.link = some l)
    {a : Action} (ha : a.NeedsLink)
    (hw : ∀ r w, a = .upsert r w → ∃ token, w = .ofToken token)
    (hnot : V.shelf c' = V.shelf c → id ∉ (⟨a, (s.perform a).1⟩ : Exchange).touched) :
    V.look (s.perform a).2.world.store c' id = V.look s.world.store c' id := by
  cases a with
  | connect | now | count | pause | draw => exact ha.elim
  | read id' =>
    obtain ⟨reply, st, heq, hreads⟩ := h.perform_read hl id'
    rw [heq]
    exact hreads.same.look c' id
  | list =>
    obtain ⟨reply, st, heq, hlists⟩ := h.perform_list hl
    rw [heq]
    exact hlists.same.look c' id
  | health =>
    obtain ⟨reply, st, heq, hanswers⟩ := h.perform_health hl
    rw [heq]
    exact hanswers.same.look c' id
  | create r =>
    obtain ⟨reply, st, heq, hwrites⟩ := h.perform_create hl r
    rw [heq] at hnot ⊢
    refine hwrites.look_of_ne ?_
    rintro hshelf ⟨stored, rfl⟩ rfl
    exact hnot hshelf List.mem_cons_self
  | upsert r w =>
    obtain ⟨token, rfl⟩ := hw r w rfl
    obtain ⟨reply, st, heq, hwrites⟩ := h.perform_upsert hl r token
    rw [heq] at hnot ⊢
    refine hwrites.look_of_ne ?_
    rintro hshelf ⟨stored, rfl⟩ rfl
    exact hnot hshelf List.mem_cons_self
  | delete id' =>
    obtain ⟨reply, st, heq, hdrops⟩ := h.perform_delete hl id'
    rw [heq] at hnot ⊢
    exact hdrops.look_of_untouched hnot
  | deleteWave ids =>
    obtain ⟨replies, st, heq, hall⟩ := h.perform_deleteWave hl ids
    rw [heq] at hnot ⊢
    exact hall.look_of_untouched hnot

/-- **An action leaves a record that it does not touch.** -/
theorem Fit.look_perform (h : s.Fit V c) {a : Action}
    (hw : ∀ r w, a = .upsert r w → ∃ token, w = .ofToken token)
    (hnot : V.shelf c' = V.shelf c → s.engine.linked? = some c →
      id ∉ (⟨a, (s.perform a).1⟩ : Exchange).touched) :
    V.look (s.perform a).2.world.store c' id = V.look s.world.store c' id := by
  by_cases hneeds : a.NeedsLink
  · cases hl : s.engine.link with
    | none => rw [perform_unlinked hl hneeds]
    | some l =>
      refine h.look_perform_linked hl hneeds hw fun hshelf => hnot hshelf ?_
      rw [Engine.linked?, hl, Option.map_some, (h.link l hl).2.1]
  · cases a with
    | connect =>
      obtain ⟨hconnects, -⟩ := h.connect
      exact hconnects.same.look c' id
    | now | count | pause => rfl
    | draw bound => rw [perform_draw]
    | read | list | create | upsert | delete | deleteWave | health => exact absurd trivial hneeds

end Session

/-! ## Pools -/

namespace Pool

variable {p : Pool σ}

/-- An engine of the pool, on the pool's world. -/
def on (p : Pool σ) (k : Nat) : Session σ := ⟨p.engines k, p.world⟩

/-- The pool once an engine has answered a request by itself. -/
def after (p : Pool σ) (k : Nat) (q : Request) : Pool σ :=
  let s := (q.call.run (p.on k)).2
  { p with engines := Function.update p.engines k s.engine, world := s.world }

/-- While these incidents happen, no record is stored or removed under the id
by any of the tasks. -/
def Untouched (V : View σ) (c : CollectionRef) (id : String) (p : Pool σ)
    (incidents : List Incident) : Prop :=
  ∀ e ∈ (p.through incidents).trace.drop p.trace.length, ¬ e.Touches V c id

theorem Able.after (h : p.Able V) (k : Nat) (q : Request) : (p.after k q).Able V :=
  ⟨h.hosts.update (q.call.keeps_run (p.on k)) fun c hsuits =>
    (Errand.request q).lasts (h.hosts k c hsuits), h.conduct⟩

/-- An action that a task has before it is taken in a fit session, on a
condition that a token asks for. -/
theorem Able.fit (h : p.Able V) {k : Nat} {task : Task} {a : Action}
    {next : a.Reply → Call Answer} (htask : p.tasks k = some task)
    (hrest : task.rest = .act a next) :
    (∃ c, (p.session task).Fit V c) ∧ ∀ r w, a = .upsert r w → ∃ token, w = .ofToken token := by
  obtain ⟨c, hsuits⟩ := (p.engines task.engine).exists_suits
  refine ⟨⟨c, h.hosts task.engine c hsuits⟩, ?_⟩
  rintro r w rfl
  have hconduct := h.conduct k task htask
  rw [hrest] at hconduct
  obtain ⟨-, t, before, -, hwrites⟩ := hconduct.1
  exact Errand.ofToken_of_writes hwrites

theorem Able.passes_act (h : p.Able V) {k : Nat} {task : Task} {a : Action}
    {next : a.Reply → Call Answer} (htask : p.tasks k = some task)
    (hrest : task.rest = .act a next) :
    V.Passes p.world.store (p.act k task a next).world.store := by
  obtain ⟨⟨c, hfit⟩, hw⟩ := h.fit htask hrest
  exact (hfit.perform hw).1.passes

theorem Able.look_act (h : p.Able V) {k : Nat} {task : Task} {a : Action}
    {next : a.Reply → Call Answer} (htask : p.tasks k = some task)
    (hrest : task.rest = .act a next) {id : String}
    (hnot : ¬ (p.event k task a).Touches V c id) :
    V.look (p.act k task a next).world.store c id = V.look p.world.store c id := by
  obtain ⟨⟨c', hfit⟩, hw⟩ := h.fit htask hrest
  refine hfit.look_perform hw fun hshelf hlinked hmem => hnot ⟨hmem, c', hlinked, hshelf.symm⟩

/-- What lasts, lasts through all incidents. -/
theorem Able.passes_through (h : p.Able V) (incidents : List Incident) :
    V.Passes p.world.store (p.through incidents).world.store := by
  refine (through_induction (I := fun q => q.Able V ∧ V.Passes p.world.store q.world.store)
    ?_ ?_ ?_ ⟨h, (View.Same.refl _).toPasses⟩ incidents).2
  · exact fun q k engine errand ⟨hable, hpasses⟩ _ =>
      ⟨⟨hable.hosts, fun n task => conduct_enter hable.conduct⟩, hpasses⟩
  · exact fun q k task a next ⟨hable, hpasses⟩ htask hrest =>
      ⟨hable.act htask hrest, hpasses.trans (hable.passes_act htask hrest)⟩
  · exact fun q t ⟨hable, hpasses⟩ => ⟨⟨hable.hosts.clock t, hable.conduct⟩, hpasses⟩

/-- **What happens leaves a record that nobody touches.** By the actions of the
tasks: the trace grows by each of them. -/
theorem Able.look_through (h : p.Able V) {incidents : List Incident} {id : String}
    (huntouched : p.Untouched V c id incidents) :
    V.look (p.through incidents).world.store c id = V.look p.world.store c id := by
  suffices hall : (p.through incidents).Able V ∧
      ∃ events, (p.through incidents).trace = p.trace ++ events ∧
        ((∀ e ∈ events, ¬ e.Touches V c id) →
          V.look (p.through incidents).world.store c id = V.look p.world.store c id) by
    obtain ⟨-, events, htrace, hlook⟩ := hall
    refine hlook fun e he => huntouched e ?_
    rw [htrace, List.drop_left]
    exact he
  refine through_induction (I := fun q => q.Able V ∧ ∃ events, q.trace = p.trace ++ events ∧
    ((∀ e ∈ events, ¬ e.Touches V c id) → V.look q.world.store c id = V.look p.world.store c id))
    ?_ ?_ ?_ ⟨h, [], (List.append_nil _).symm, fun _ => rfl⟩ incidents
  · rintro q k engine errand ⟨hable, hlook⟩ -
    exact ⟨⟨hable.hosts, fun n task => conduct_enter hable.conduct⟩, hlook⟩
  · rintro q k task a next ⟨hable, events, htrace, hlook⟩ htask hrest
    refine ⟨hable.act htask hrest, events ++ [q.event k task a], ?_, fun hnot => ?_⟩
    · rw [← List.append_assoc, ← htrace]
      rfl
    · rw [hable.look_act htask hrest (hnot _ (by simp))]
      exact hlook fun e he => hnot e (List.mem_append_left _ he)
  · rintro q t ⟨hable, hlook⟩
    exact ⟨⟨hable.hosts.clock t, hable.conduct⟩, hlook⟩

/-- Whatever happens, an engine keeps what it is bound to, and its link is one
that its connector has opened. -/
theorem keeps_through (h : ∀ k, (p.engines k).Opened) (incidents : List Incident) (n : Nat) :
    (p.engines n).Keeps ((p.through incidents).engines n) ∧
      ((p.through incidents).engines n).Opened := by
  refine through_induction (I := fun q => ∀ n, (p.engines n).Keeps (q.engines n) ∧
    (q.engines n).Opened) (fun _ _ _ _ hall _ => hall) ?_ (fun _ _ hall => hall)
    (fun n => ⟨.refl _, h n⟩) incidents n
  intro q k task a next hall htask hrest n
  obtain ⟨hkeeps, hopened⟩ := hall n
  have hlater := q.keeps_act k task a next n
  refine ⟨hkeeps.trans hlater, hopened.of_opens hlater ?_⟩
  show Engine.Opens _ (Function.update q.engines task.engine _ n)
  by_cases hn : n = task.engine
  · rw [hn, Function.update_self]
    exact (q.session task).opens_perform a
  · rw [Function.update_of_ne hn]
    exact fun _ hl => .inl hl

/-- So it does when one engine answers a request by itself. -/
theorem keeps_after (h : ∀ k, (p.engines k).Opened) (k : Nat) (q : Request) (n : Nat) :
    (p.engines n).Keeps ((p.after k q).engines n) ∧ ((p.after k q).engines n).Opened := by
  by_cases hn : n = k
  · subst hn
    show Engine.Keeps _ (Function.update p.engines n _ n) ∧
      Engine.Opened (Function.update p.engines n _ n)
    rw [Function.update_self]
    have hlater := q.call.keeps_run (p.on n)
    exact ⟨hlater, (h n).of_opens hlater (q.call.opens_run (p.on n))⟩
  · show Engine.Keeps _ (Function.update p.engines k _ n) ∧
      Engine.Opened (Function.update p.engines k _ n)
    rw [Function.update_of_ne hn]
    exact ⟨.refl _, h n⟩

/-- The trace accounts for what the store holds, through all incidents. -/
theorem Accounted.through (hp : p.Sane V) (h : p.Accounted V) (incidents : List Incident) :
    (p.through incidents).Sane V ∧ (p.through incidents).Accounted V := by
  refine through_induction (I := fun q => q.Sane V ∧ q.Accounted V) ?_ ?_ ?_ ⟨hp, h⟩ incidents
  · rintro q k engine errand ⟨hsane, haccount⟩ -
    exact ⟨hsane.enter k engine errand, haccount.pinned, haccount.written, haccount.spent⟩
  · rintro q k task a next ⟨hsane, haccount⟩ htask hrest
    exact ⟨hsane.act htask hrest, haccount.act hsane (hsane.event htask hrest)⟩
  · rintro q t ⟨hsane, haccount⟩
    exact ⟨⟨hsane.sound, hsane.tidy, hsane.engines, hsane.conduct, hsane.linked⟩,
      haccount.pinned, haccount.written, haccount.spent⟩

end Pool

/-! ## Writing and reading -/

open Operation Session in
/-- A write that succeeds has stored the caller's record as of the clock, under
a token of its own. -/
theorem Request.stored_of_record? {q : Request} {r stored : Record} (hq : q.record? = some r)
    {s : Session σ} (h : s.Fit V c) (hok : (q.call.run s).1 = .record (.ok stored)) :
    stored = { r with modifiedAt := s.world.clock, token := stored.token } ∧
      V.Stored s.world.store (q.call.run s).2.world.store c stored := by
  have hputs {admitted fine : Prop} {reply : Except StoreError Record} {s' : Session σ}
      (hrun : q.call.run s = (.record reply, s')) (h : Puts V c r admitted fine s s' reply) :
      stored = { r with modifiedAt := s.world.clock, token := stored.token } ∧
        V.Stored s.world.store (q.call.run s).2.world.store c stored := by
    rw [hrun] at hok ⊢
    cases hok
    cases h with
    | stored _ hstored => exact ⟨rfl, hstored⟩
  cases q with
  | get | contains | getAll | delete | deleteMany | tryToLock | tryToUnlock | lockWithRetry
  | healthCheck => cases hq
  | create r₀ =>
    cases hq
    obtain ⟨reply, s', heq, -, hput⟩ := run_create h r
    exact hputs (run_answer heq) hput
  | upsert r₀ =>
    cases hq
    obtain ⟨reply, s', heq, -, hput⟩ := run_write h r r.token
    exact hputs (run_answer heq) hput
  | upsertWithToken r₀ shown =>
    cases hq
    obtain ⟨reply, s', heq, -, hput⟩ := run_write h r shown
    exact hputs (run_answer heq) hput

/-- Of the records that a store holds, one stands under an id. -/
theorem View.Holds.filter_eq_singleton {st : σ} {rs : List Record} (h : V.Holds st c rs)
    {r : Record} (hr : r ∈ rs) : rs.filter (·.id = r.id) = [r] := by
  have hordered : (rs.filter (·.id = r.id)).Pairwise fun a b => compare a.id b.id = .lt :=
    h.ordered.sublist List.filter_sublist
  have hmem (x : Record) : x ∈ rs.filter (·.id = r.id) ↔ x ∈ rs ∧ x.id = r.id := by
    simp [List.mem_filter]
  match hfilter : rs.filter (·.id = r.id) with
  | [] => exact absurd ((hmem r).2 ⟨hr, rfl⟩) (by simp [hfilter])
  | [x] =>
    have hx : r ∈ [x] := hfilter ▸ (hmem r).2 ⟨hr, rfl⟩
    obtain rfl := List.mem_singleton.1 hx
    exact hfilter
  | x :: y :: rest =>
    rw [hfilter] at hordered hmem
    have hlt : compare x.id y.id = .lt := (List.pairwise_cons.1 hordered).1 y List.mem_cons_self
    rw [((hmem x).1 List.mem_cons_self).2, ((hmem y).1 (by simp)).2, Std.compare_self] at hlt
    cases hlt

namespace Session

variable {s : Session σ} {r : Record}

/-- A read finds what is held and has not expired. -/
theorem Fit.get_of_look (h : s.Fit V c) (hready : s.Ready V)
    (hlook : V.look s.world.store c r.id = some r) (hlive : r.isExpiredAt s.world.clock = false) :
    ((Request.get r.id).call.run s).1 = .record (.ok r) := by
  obtain ⟨reply, s', heq, -, hgets⟩ := Operation.run_get h r.id
  have hrun : (Request.get r.id).call.run s = (.record reply, s') := run_answer heq
  rw [hrun]
  cases hgets with
  | found hfound =>
    obtain rfl := Option.some.inj (hfound.symm.trans hlook)
    rfl
  | missing hdead =>
    have hexpired : r.isExpiredAt s.world.clock = true := hdead r hlook
    rw [hlive] at hexpired
    cases hexpired
  | failed hnot => exact absurd hready hnot

/-- A scan lists it, and nothing else under its id. -/
theorem Fit.getAll_of_look (h : s.Fit V c) (hready : s.Ready V)
    (hlook : V.look s.world.store c r.id = some r) (hlive : r.isExpiredAt s.world.clock = false) :
    ∃ rs, (Request.getAll.call.run s).1 = .records (.ok rs) ∧ rs.filter (·.id = r.id) = [r] := by
  obtain ⟨reply, s', heq, -, hscans⟩ := Operation.run_getAll h
  have hrun : Request.getAll.call.run s = (.records reply, s') := run_answer heq
  rw [hrun]
  cases hscans with
  | @listed rs hholds =>
    refine ⟨_, rfl, ?_⟩
    have hone : rs.filter (·.id = r.id) = [r] :=
      hholds.filter_eq_singleton ((hholds.mem_iff r).2 hlook)
    rw [List.filter_filter, List.filter_congr fun x _ => Bool.and_comm .., ← List.filter_filter,
      hone]
    simp [hlive]
  | failed hnot => exact absurd hready hnot

end Session

namespace Fleet

/-- New engines on a shared backend are fit. -/
theorem able_shared {kind : BackendKind} {w : World Fleet} (h : Vacant kind w.store)
    (configs : Nat → Once Config) :
    (Pool.fresh (shared kind) configs w).Able (view kind) :=
  ⟨fun _ _ hsuits => ⟨sound_of_vacant h, steady_shared kind, hsuits, fun _ hl => nomatch hl⟩,
    fun _ _ htask => nomatch htask⟩

end Fleet

open Pool Fleet in
/-- **What is written is what is read.** Engines share a backend of any kind,
to which nothing had been put before they began and for which no failure is
planned. Whatever they have come to, let one of them answer a create or an
upsert of `r` by itself. The answer does not depend on the time and the token
that `r` carries, but for the token that an upsert presents.

If the write succeeds, the record it answers is `r` as of the clock, under a
token that no write has been given before. Until a record is stored or removed
under its id again, every engine on the same collection that can connect reads
just this record while it has not expired, and lists it once. -/
theorem writes_read_back (kind : BackendKind) (configs : Nat → Once Config) (w : World Fleet)
    (hvacant : Vacant kind w.store) (hcalm : (view kind).Calm w.store) (before : List Incident)
    {k : Nat} {config : Config} (hconfig : configs k = .ready config) {q : Request} {r : Record}
    (hq : q.record? = some r) :
    let p := (fresh (shared kind) configs w).through before
    (∀ time token, (q.restamped time token).call.run (p.on k) = q.call.run (p.on k)) ∧
    ∀ s, (q.call.run (p.on k)).1 = .record (.ok s) →
      s = { r with modifiedAt := p.world.clock, token := s.token } ∧
      WriteCondition.IsToken s.token ∧
      (∀ e ∈ p.trace, ∀ r', e.stored? = some r' → r'.token ≠ s.token) ∧
      ∀ incidents,
        (p.after k q).Untouched (view kind) config.collectionRef r.id incidents →
        ∀ n config', configs n = .ready config' → Reaches kind config' →
          (view kind).shelf config'.collectionRef = (view kind).shelf config.collectionRef →
          let p' := (p.after k q).through incidents
          s.isExpiredAt p'.world.clock = false →
            ((Request.get r.id).call.run (p'.on n)).1 = .record (.ok s) ∧
            ∃ rs, (Request.getAll.call.run (p'.on n)).1 = .records (.ok rs) ∧
              rs.filter (·.id = r.id) = [s] := by
  intro p
  have hopened (k : Nat) : ((fresh (shared kind) configs w).engines k).Opened :=
    fun _ hl => nomatch hl
  have hkeeps := keeps_through hopened before
  have hable : p.Able (view kind) := (able_shared hvacant configs).through before
  have hfit : (p.on k).Fit (view kind) config.collectionRef := by
    refine hable.hosts k _ fun config' h => ?_
    rw [(hkeeps k).1.config] at h
    cases hconfig.symm.trans h
    rfl
  refine ⟨fun time token => q.run_restamped ?_ time token, fun s hok => ?_⟩
  -- backends of these kinds stamp what they write, whatever time and token it carries
  · intro l hl
    have hconnects := (p.on k).keeps_connect
    obtain ⟨c, f, hb⟩ := (hkeeps k).2.of_opens hconnects (p.on k).opens_connect l hl
    rw [hconnects.connector, show (p.on k).engine.connector = shared kind from
      (hkeeps k).1.connector] at hb
    exact stamps_shared kind hb
  · obtain ⟨hs, hstored⟩ := q.stored_of_record? hq hfit hok
    -- a token that was not issued before the write is on no record stored before
    obtain ⟨-, haccount⟩ :=
      (accounted_fresh hvacant configs).through (sane_fresh hvacant configs) before
    refine ⟨hs, (view kind).isToken_of_unissued hstored.fresh, fun e he r' hr' htok => ?_, ?_⟩
    · obtain ⟨c, hpinned⟩ := haccount.pinned e he r' hr'
      exact hpinned.issued (htok ▸ hstored.fresh)
    · intro incidents huntouched n config' hconfig' hreaches hshelf p' hlive
      have hid : s.id = r.id := (congrArg Record.id hs).trans rfl
      have hable' : p'.Able (view kind) := (hable.after k q).through incidents
      have hlook : (view kind).look p'.world.store config'.collectionRef s.id = some s := by
        rw [(view kind).look_of_shelf hshelf, hid, (hable.after k q).look_through huntouched,
          ← hid]
        exact (hstored.look _ _).trans (if_pos ⟨rfl, rfl⟩)
      have hengine : (p'.engines n).config = .ready config' ∧
          (p'.engines n).connector = shared kind := by
        obtain ⟨hkeeps₁, hopened₁⟩ := keeps_after (fun k => (hkeeps k).2) k q n
        have hkeeps₂ := (keeps_through
          (fun n => (keeps_after (fun k => (hkeeps k).2) k q n).2) incidents n).1
        have hall := ((hkeeps n).1.trans hkeeps₁).trans hkeeps₂
        exact ⟨hall.config.trans hconfig', hall.connector⟩
      have hfit' : (p'.on n).Fit (view kind) config'.collectionRef := by
        refine hable'.hosts n _ fun config'' h => ?_
        cases hengine.1.symm.trans h
        rfl
      -- no failure comes to be planned, before the write, by it or after it
      have hcalm' : (view kind).Calm p'.world.store := by
        have hbefore := (able_shared hvacant configs).passes_through before
        have hwrite := ((Errand.request q).lasts hfit).passes
        have hsince := (hable.after k q).passes_through incidents
        exact hsince.calm (hwrite.calm (hbefore.calm hcalm))
      have hready : (p'.on n).Ready (view kind) := by
        refine ⟨hcalm', config', hengine.1, ?_⟩
        rw [show (p'.on n).engine.connector = shared kind from hengine.2]
        exact shared_ok hreaches _
      rw [← hid]
      exact ⟨hfit'.get_of_look hready hlook hlive, hfit'.getAll_of_look hready hlook hlive⟩

/-- The record that the caller is answered, if there is one. -/
def Answer.record? : Answer → Option Record
  | .record (.ok r) => some r
  | _ => none

theorem Answer.eq_of_record? {a : Answer} {r : Record} (h : a.record? = some r) :
    a = .record (.ok r) := by
  match a with
  | .record (.ok _) =>
    cases h
    rfl

/-- A record that claims a version and a time of its own. -/
def forgery : Record :=
  { id := "a", token := "\"mine\"", data := "x", expiresAt := Instant.epoch.after 60,
    modifiedAt := Instant.epoch.after 99 }

/-- Another record is created, and the clock is set. -/
def prelude : List Incident :=
  .turn (.start 0 1 (.request (.create { id := "b" }))) ::
    List.replicate 4 (.turn (.step 0)) ++ [.clock (Instant.epoch.after 5)]

/-- The other record is deleted again, and time passes. -/
def sequel : List Incident :=
  .turn (.start 1 1 (.request (.delete "b"))) ::
    List.replicate 3 (.turn (.step 1)) ++ [.turn (.wait 9000)]

open Pool Fleet Fixture in
/-- The store takes the forged record for a new one, and what is read is what
it made of it. -/
theorem writes_read_back_forgery :
    let p := blank.through prelude
    let q := Request.upsertWithToken forgery ""
    let s : Record :=
      { forgery with token := "\"0000000000000001-b06c6e60\"", modifiedAt := Instant.epoch.after 5 }
    let p' := (p.after 0 q).through sequel
    Vacant .memory blank.world.store ∧ (view .memory).Calm blank.world.store ∧
      (q.call.run (p.on 0)).1 = .record (.ok s) ∧
      (p.after 0 q).Untouched (view .memory) items "a" sequel ∧
      s.isExpiredAt p'.world.clock = false ∧
      ((Request.get "a").call.run (p'.on 1)).1 = .record (.ok s) := by
  intro p q s p'
  have hcalm : (view .memory).Calm blank.world.store := calm_of_empty FaultPlan.empty_default
  have hwritten : (q.call.run (p.on 0)).1 = .record (.ok s) :=
    Answer.eq_of_record? (by decide +kernel)
  have huntouched : (p.after 0 q).Untouched (view .memory) items "a" sequel := by
    have htouched : (((p.after 0 q).through sequel).trace.drop (p.after 0 q).trace.length).map
        (·.exchange.touched) = [[], [], ["b"]] := by
      decide +kernel
    rintro e he ⟨hmem, -⟩
    have hids := List.mem_map_of_mem (f := fun e : Event Fleet => e.exchange.touched) he
    rw [htouched] at hids
    simp only [List.mem_cons, List.not_mem_nil, or_false] at hids
    obtain hids | hids | hids := hids <;> rw [hids] at hmem <;> simp at hmem
  have hlive : s.isExpiredAt p'.world.clock = false := by decide +kernel
  have hback := writes_read_back .memory (fun _ => .ready (memoryConfig "items"))
    ⟨Instant.epoch, [], {}⟩ vacant_blank hcalm prelude (k := 0) rfl (q := q) (r := forgery) rfl
  obtain ⟨-, -, -, hread⟩ := hback.2 s hwritten
  obtain ⟨hget, -⟩ := hread sequel huntouched 1 (memoryConfig "items") rfl trivial rfl hlive
  exact ⟨vacant_blank, hcalm, hwritten, huntouched, hlive, hget⟩

end LeaseStore
