/-
LeaseStore.Proofs.Interleaving.Race — a race for a free lock has one winner.

Several owners try to take the lock of one record at the same time. Their
reads and writes may fall between each other in any order, on any engines
that share the store. Two things make sure that one of them wins: nobody is
kept out by an attempt that itself comes to nothing, because only a write
that went through changes the record; and after that write whoever read the
record before presents a token that is used up, while whoever reads it later
sees a lock that outlasts the race.

So a race is in one of two phases (`Contest.Phase`): nobody has sent a write,
or one racer has written the lock and no other has. Every turn keeps to them
(`Contest.Standing.act`).

* `one_racer_wins` — of any number of attempts by different owners on a
  record that is free and stays live, exactly one succeeds.
-/
import LeaseStore.Proofs.Agreement.Sessions
import LeaseStore.Proofs.Calls.Binding
import LeaseStore.Proofs.Calls.Contention
import LeaseStore.Proofs.Interleaving.Tokens

namespace LeaseStore

variable {σ : Type} {V : View σ}

/-! ## One pool after another -/

theorem Engine.Serves.keeps {e e' : Engine σ} {c : CollectionRef} {s s' : σ}
    (h : e.Serves V c s) (hkeeps : e.Keeps e') (hlawful : e'.Lawful V s') : e'.Serves V c s' := by
  obtain ⟨config, hconfig, rfl, hopens⟩ := h.ready
  refine ⟨hlawful, ⟨config, hkeeps.config.trans hconfig, rfl, ?_⟩, fun l hl => ?_⟩
  · rw [hkeeps.connector]
    exact hopens
  · obtain ⟨config', hconfig', hcollection⟩ :=
      hkeeps.bound (fun l hl => ⟨config, hconfig, h.linked l hl⟩) l hl
    rw [hkeeps.config, hconfig] at hconfig'
    cases hconfig'
    exact hcollection

/-- Without planned failures a record that is there is read. -/
theorem View.Reads.of_calm {s s' : σ} {c : CollectionRef} {id : String} {r : Record}
    {reply : Except BackendError Record} (h : V.Reads s s' c id reply) (hcalm : V.Calm s)
    (hthere : V.Provided s c) (hlook : V.look s c id = some r) : reply = .ok r := by
  cases h with
  | found hlook' _ => rw [Option.some.inj (hlook'.symm.trans hlook)]
  | absent hnone _ => rw [hlook] at hnone; cases hnone
  | failed hfail _ => exact absurd ⟨hcalm, hthere⟩ hfail

namespace Pool

/-- What the task of this number has done, the latest exchange first. -/
def past (p : Pool σ) (k : Nat) : List Exchange := ((p.tasks k).map (·.past)).getD []

variable {p q : Pool σ}

theorem past_of_tasks {k : Nat} {task : Task} (h : p.tasks k = some task) :
    p.past k = task.past := by
  simp [past, h]

theorem past_enter {k : Nat} (hfree : p.tasks k = none) (engine : Nat) (errand : Errand) (n : Nat) :
    (p.enter k { engine, errand, rest := errand.call }).past n = p.past n := by
  by_cases hn : n = k
  · subst hn
    simp [past, enter, hfree]
  · simp [past, enter, hn]

theorem past_act {k : Nat} {task : Task} (h : p.tasks k = some task) (a : Action)
    (next : a.Reply → Call Answer) (n : Nat) : (p.act k task a next).past n =
      if n = k then (p.event k task a).exchange :: p.past k else p.past n := by
  by_cases hn : n = k
  · subst hn
    simp [past, act, event, h]
  · simp [past, act, hn]

/-- What a task has done is the action just now, if it was its own, or older. -/
theorem mem_past_act {k : Nat} {task : Task} (h : p.tasks k = some task) {a : Action}
    {next : a.Reply → Call Answer} {n : Nat} {y : Exchange}
    (hy : y ∈ (p.act k task a next).past n) :
    n = k ∧ y = (p.event k task a).exchange ∨ y ∈ p.past n := by
  rw [past_act h] at hy
  split at hy
  case isTrue hn =>
    subst hn
    exact (List.mem_cons.1 hy).imp_left (⟨rfl, ·⟩)
  case isFalse => exact .inr hy

/-- One pool is another, some turns later. -/
structure Follows (p q : Pool σ) : Prop where
  tasks : ∀ k task, p.tasks k = some task →
    ∃ task', q.tasks k = some task' ∧ task'.errand = task.errand ∧ task'.engine = task.engine
  past : ∀ k, p.past k ⊆ q.past k
  trace : p.trace <+: q.trace
  engines : ∀ n, (p.engines n).Keeps (q.engines n)

theorem Follows.refl (p : Pool σ) : p.Follows p :=
  ⟨fun _ task h => ⟨task, h, rfl, rfl⟩, fun _ => List.Subset.refl _, List.prefix_refl _,
    fun _ => .refl _⟩

theorem Follows.trans {p' : Pool σ} (h : p.Follows q) (h' : q.Follows p') : p.Follows p' := by
  refine ⟨fun k task htask => ?_, fun k => List.Subset.trans (h.past k) (h'.past k),
    h.trace.trans h'.trace,
    fun n => (h.engines n).trans (h'.engines n)⟩
  obtain ⟨task', htask', herrand, hengine⟩ := h.tasks k task htask
  obtain ⟨task'', htask'', herrand', hengine'⟩ := h'.tasks k task' htask'
  exact ⟨task'', htask'', herrand'.trans herrand, hengine'.trans hengine⟩

theorem Follows.enter {k : Nat} (hfree : p.tasks k = none) (engine : Nat) (errand : Errand) :
    p.Follows (p.enter k { engine, errand, rest := errand.call }) := by
  refine ⟨fun n task htask => ⟨task, ?_, rfl, rfl⟩, fun n => ?_, List.prefix_refl _,
    fun _ => .refl _⟩
  · have hn : n ≠ k := by
      rintro rfl
      rw [hfree] at htask
      cases htask
    simpa [Pool.enter, hn] using htask
  · rw [past_enter hfree]
    exact List.Subset.refl _

theorem Follows.act {k : Nat} {task : Task} (htask : p.tasks k = some task) (a : Action)
    (next : a.Reply → Call Answer) : p.Follows (p.act k task a next) := by
  refine ⟨fun n task' htask' => ?_, fun n => ?_, List.prefix_append _ _, fun n => ?_⟩
  · by_cases hn : n = k
    · subst hn
      obtain rfl : task = task' := Option.some.inj (htask.symm.trans htask')
      exact ⟨_, Function.update_self .., rfl, rfl⟩
    · refine ⟨task', ?_, rfl, rfl⟩
      simpa [Pool.act, hn] using htask'
  · rw [past_act htask]
    split
    case isTrue hn =>
      rw [hn]
      exact List.subset_cons_self _ _
    case isFalse => exact List.Subset.refl _
  · show Engine.Keeps _ (Function.update p.engines task.engine _ n)
    by_cases hn : n = task.engine
    · subst hn
      rw [Function.update_self]
      exact Session.keeps_perform (p.session task) a
    · rw [Function.update_of_ne hn]
      exact .refl _

theorem Follows.wait (p : Pool σ) (ms : Nat) :
    p.Follows { p with world := p.world.later ms } :=
  ⟨(Follows.refl p).tasks, (Follows.refl p).past, List.prefix_refl _, fun _ => .refl _⟩

/-- Every run follows its beginning. -/
theorem Follows.run (p : Pool σ) (turns : List Turn) : p.Follows (p.run turns) :=
  run_induction (I := p.Follows) (fun _ _ _ _ h hfree => h.trans (.enter hfree _ _))
    (fun _ _ _ _ _ h htask _ => h.trans (.act htask _ _)) (fun _ _ h => h.trans (.wait _ _))
    (.refl p) turns

end Pool

/-! ## The rules of a race -/

/-- A race for the lock of a record: the numbers of the tasks that take part,
and for each the engine it is on, the owner and the seconds it asks for. -/
structure Contest where
  collection : CollectionRef
  record : Record
  racers : List Nat
  engine : Nat → Nat
  owner : Nat → Owner
  seconds : Nat → Nat

namespace Contest

/-- What a racer goes about. -/
def errand (x : Contest) (k : Nat) : Errand :=
  .request (.tryToLock x.record.id (x.owner k) (x.seconds k))

/-- The racer has read the clock, and this is what it read. -/
def Reading (x : Contest) (p : Pool σ) (k : Nat) (t : Instant) : Prop :=
  k ∈ x.racers ∧ ⟨.now, t⟩ ∈ p.past k

/-- The record as a racer who wins by the reading `t` leaves it. -/
def taken (x : Contest) (k : Nat) (t : Instant) (token : String) : Record :=
  { (x.record.touchAt t).lockAt (x.owner k) (x.seconds k) t with token }

/-- The record is stored and free, and racers of different owners are about
to start. -/
structure Begins (V : View σ) (x : Contest) (p : Pool σ) : Prop where
  racers : x.racers ≠ []
  owners : ∀ k ∈ x.racers, ∀ k' ∈ x.racers, x.owner k = x.owner k' → k = k'
  ahead : ∀ k ∈ x.racers, p.tasks k = none
  stored : V.look p.world.store x.collection x.record.id = some x.record
  unlocked : x.record.isLockedAt p.world.clock = false

/-- Between `p` and `q` the racers have gone about nothing but the lock, each
reading of theirs finds the record live and comes before every deadline
that they could set, and nobody else has changed the record. -/
structure Fair (V : View σ) (x : Contest) (p q : Pool σ) : Prop where
  errand : ∀ k ∈ x.racers, ∀ task, q.tasks k = some task →
    task.errand = x.errand k ∧ task.engine = x.engine k
  live : ∀ k t, x.Reading q k t → x.record.isExpiredAt t = false
  lasting : ∀ k t k' t', x.Reading q k t → x.Reading q k' t' → t' < t.after (x.seconds k)
  others : ∀ e ∈ q.trace.drop p.trace.length, e.task ∉ x.racers →
    V.look e.after.store x.collection x.record.id = V.look e.before.store x.collection x.record.id

variable {x : Contest} {p₀ p q : Pool σ} {held : Record}

/-- A race that was fair in the end was fair all along. -/
theorem Fair.of_follows (h : x.Fair V p₀ q) (hbegan : p₀.trace <+: p.trace) (hpq : p.Follows q) :
    x.Fair V p₀ p := by
  have hreading {k : Nat} {t : Instant} (ht : x.Reading p k t) : x.Reading q k t :=
    ⟨ht.1, hpq.past k ht.2⟩
  refine ⟨fun k hk task htask => ?_, fun k t ht => h.live k t (hreading ht),
    fun k t k' t' ht ht' => h.lasting k t k' t' (hreading ht) (hreading ht'), fun e he => ?_⟩
  · obtain ⟨task', htask', herrand, hengine⟩ := hpq.tasks k task htask
    rw [← herrand, ← hengine]
    exact h.errand k hk task' htask'
  · refine h.others e ?_
    obtain ⟨events, hevents⟩ := hpq.trace
    rw [← hevents, List.drop_append_of_le_length hbegan.length_le]
    exact List.mem_append_left _ he

/-! ## The course of a race -/

/-- What surrounds a race that has begun in `p₀`: no failure is planned, the
engines of the racers lead to the record, and the racers do what an attempt
to lock does. -/
structure Setting (V : View σ) (x : Contest) (p₀ p : Pool σ) : Prop where
  began : p₀.trace <+: p.trace
  clock : p₀.world.clock ≤ p.world.clock
  calm : V.Calm p.world.store
  pinned : V.Pinned p.world.store x.collection x.record
  engines : ∀ k ∈ x.racers, ∃ c, (p.engines (x.engine k)).Serves V c p.world.store ∧
    V.shelf c = V.shelf x.collection
  attempts : ∀ k ∈ x.racers, ∀ task, p.tasks k = some task →
    task.rest.Along (Attempting x.record.id)
      (fun past a => ∃ res, a = .truth res ∧ Decided x.record.id (x.owner k) past res) task.past

/-- The lock is still to be had and no racer has sent a write, or one racer
has written it and no other has. -/
inductive Phase (x : Contest) (p : Pool σ) (held : Record) : Prop
  | opened : held = x.record → (∀ k ∈ x.racers, ¬ Tried (p.past k)) → Phase x p held
  | won {k : Nat} {t : Instant} {token : String} : x.Reading p k t →
      Operation.Wrote (p.past k) → held = x.taken k t token → token ≠ x.record.token →
      (∀ k' ∈ x.racers, k' ≠ k → ¬ Operation.Wrote (p.past k')) → Phase x p held

/-- What the racers have seen when `held` is what is stored. -/
structure Standing (V : View σ) (x : Contest) (p₀ p : Pool σ) (held : Record) : Prop where
  look : V.look p.world.store x.collection x.record.id = some held
  connects : ∀ k ∈ x.racers, ∀ err, ⟨.connect, .error err⟩ ∉ p.past k
  readings : ∀ k t, x.Reading p k t → p₀.world.clock ≤ t
  reads : ∀ k ∈ x.racers, ∀ reply, ⟨.read x.record.id, reply⟩ ∈ p.past k →
    reply = .ok x.record ∨ reply = .ok held
  phase : x.Phase p held

/-- The lock is not on a record whose own fields have changed. -/
theorem Phase.expiresAt (h : x.Phase p held) : held.expiresAt = x.record.expiresAt := by
  cases h with
  | opened hheld => rw [hheld]
  | won _ _ hheld => rw [hheld]; rfl

/-- A racer is not kept from deciding: it has connected, and has read a
record that is live. -/
theorem Standing.not_hindered (h : x.Standing V p₀ p held) (hfair : x.Fair V p₀ p) {k : Nat}
    (hk : k ∈ x.racers) : ¬ Hindered x.record.id (p.past k) := by
  intro hhindered
  cases hhindered with
  | connect hmem => exact h.connects k hk _ hmem
  | read hmem => obtain hreply | hreply := h.reads k hk _ hmem <;> cases hreply
  | @expired v t hread hnow hexp =>
    have hsame : v.expiresAt = x.record.expiresAt := by
      obtain hreply | hreply := h.reads k hk _ hread <;> cases hreply
      · rfl
      · exact h.phase.expiresAt
    have hlive := hfair.live k t ⟨hk, hnow⟩
    rw [Record.isExpiredAt, ← hsame] at hlive
    rw [Record.isExpiredAt, hlive] at hexp
    cases hexp

/-! ## One turn of a race -/

/-- What a racer may do without changing how the race stands. -/
structure Harmless (x : Contest) (start : Instant) (held : Record) (y : Exchange) : Prop where
  connect : ∀ err, y ≠ ⟨.connect, .error err⟩
  reading : ∀ t, y = ⟨.now, t⟩ → start ≤ t
  read : ∀ reply, y = ⟨.read x.record.id, reply⟩ → reply = .ok held
  unstored : ∀ r w stored, y ≠ ⟨.upsert r w, .ok stored⟩
  write : y.IsWrite → held ≠ x.record

/-- A turn that leaves the record, and in which the racers have done nothing
but what is harmless. -/
theorem Standing.of_harmless (h : x.Standing V p₀ p held)
    (hlook : V.look q.world.store x.collection x.record.id =
      V.look p.world.store x.collection x.record.id)
    (hkept : ∀ k ∈ x.racers, p.past k ⊆ q.past k)
    (hnew : ∀ k ∈ x.racers, ∀ y ∈ q.past k, y ∈ p.past k ∨ x.Harmless p₀.world.clock held y) :
    x.Standing V p₀ q held := by
  have hwrote {k : Nat} (hk : k ∈ x.racers) (h : Operation.Wrote (q.past k)) :
      Operation.Wrote (p.past k) := by
    obtain ⟨r, w, stored, hmem⟩ := h
    obtain hold | hy := hnew k hk _ hmem
    · exact ⟨r, w, stored, hold⟩
    · exact absurd rfl (hy.unstored r w stored)
  refine ⟨hlook.trans h.look, fun k hk err herr => ?_, fun k t ht => ?_,
    fun k hk reply hreply => ?_, ?_⟩
  · obtain hold | hy := hnew k hk _ herr
    · exact h.connects k hk err hold
    · exact hy.connect err rfl
  · obtain hold | hy := hnew k ht.1 _ ht.2
    · exact h.readings k t ⟨ht.1, hold⟩
    · exact hy.reading t rfl
  · obtain hold | hy := hnew k hk _ hreply
    · exact h.reads k hk reply hold
    · exact .inr (hy.read reply rfl)
  · cases h.phase with
    | opened hheld htried =>
      refine .opened hheld fun k hk htried' => ?_
      obtain ⟨y, hmem, hwrite⟩ := htried'
      obtain hold | hy := hnew k hk y hmem
      · exact htried k hk ⟨y, hold, hwrite⟩
      · exact hy.write hwrite hheld
    | @won k t token ht hwon hheld hne hothers =>
      obtain ⟨r, w, stored, hmem⟩ := hwon
      exact .won ⟨ht.1, hkept k ht.1 ht.2⟩ ⟨r, w, stored, hkept k ht.1 hmem⟩ hheld hne
        fun k' hk' hne' hwrote' => hothers k' hk' hne' (hwrote hk' hwrote')

/-- The collection that a racer's event was on is where the record is. -/
theorem Setting.shelf_of_collection (h : x.Setting V p₀ p) {k : Nat} (hk : k ∈ x.racers)
    {task : Task} (hengine : task.engine = x.engine k) {a : Action} {c : CollectionRef}
    (hc : (p.event k task a).collection = some c) : V.shelf c = V.shelf x.collection := by
  obtain ⟨c', hserves, hshelf⟩ := h.engines k hk
  change (p.engines task.engine).linked? = some c at hc
  rw [hengine] at hc
  obtain ⟨l, hl, rfl⟩ := Option.map_eq_some_iff.1 hc
  rw [hserves.linked l hl]
  exact hshelf

section Turn

variable {k : Nat} {task : Task} {a : Action} {next : a.Reply → Call Answer}

theorem Setting.attempting (h : x.Setting V p₀ p) (hk : k ∈ x.racers)
    (htask : p.tasks k = some task) (hrest : task.rest = .act a next) :
    Attempting x.record.id (p.past k) a := by
  have hattempt := h.attempts k hk task htask
  rw [hrest] at hattempt
  rw [Pool.past_of_tasks htask]
  exact hattempt.1

/-- Whatever a racer does but write is harmless. Cases on the action: an
attempt to lock takes no others, and it deletes nothing as long as the record
is live. -/
theorem Standing.harmless_of_ne_upsert (hp : p.Sane V) (h : x.Setting V p₀ p)
    (hst : x.Standing V p₀ p held) (hfair : x.Fair V p₀ p) (hk : k ∈ x.racers)
    (htask : p.tasks k = some task) (hrest : task.rest = .act a next)
    (ha : ∀ r w, a ≠ .upsert r w) :
    (∀ c id, V.look (p.act k task a next).world.store c id = V.look p.world.store c id) ∧
      x.Harmless p₀.world.clock held (p.event k task a).exchange := by
  have hattempting := h.attempting hk htask hrest
  have he := hp.event htask hrest
  have hdoes := he.does
  have hengine := (hfair.errand k hk task htask).2
  cases a with
  | connect =>
    obtain ⟨c, hserves, -⟩ := h.engines k hk
    rw [← hengine] at hserves
    obtain ⟨config, l, st, hconnect, -⟩ :=
      Session.connect_of_serves (s := p.session task) hp.sound h.calm hserves
    have hreply : (p.event k task .connect).exchange = ⟨.connect, .ok config⟩ := by
      show (⟨.connect, ((p.session task).connect).1⟩ : Exchange) = _
      rw [hconnect]
    rw [hreply]
    exact ⟨hdoes.2.look, by rintro _ ⟨⟩, by rintro _ ⟨⟩, by rintro _ ⟨⟩, by rintro _ _ _ ⟨⟩,
      fun h => h.elim⟩
  | now =>
    obtain ⟨-, hworld⟩ := hdoes
    have hstore : (p.act k task .now next).world = p.world := hworld
    rw [hstore]
    refine ⟨fun _ _ => rfl, by rintro _ ⟨⟩, ?_, by rintro _ ⟨⟩, by rintro _ _ _ ⟨⟩,
      fun h => h.elim⟩
    rintro t ⟨⟩
    exact h.clock
  | count c =>
    refine ⟨fun _ _ => rfl, by rintro _ ⟨⟩, by rintro _ ⟨⟩, by rintro _ ⟨⟩, by rintro _ _ _ ⟨⟩,
      fun h => h.elim⟩
  | read id =>
    obtain rfl : id = x.record.id := hattempting
    obtain ⟨c, hc, -, hreads⟩ := hdoes
    refine ⟨hreads.same.look, by rintro _ ⟨⟩, by rintro _ ⟨⟩, ?_, by rintro _ _ _ ⟨⟩,
      fun h => h.elim⟩
    rintro reply ⟨⟩
    have hlook : V.look p.world.store c x.record.id = some held := by
      rw [V.look_of_shelf (h.shelf_of_collection hk hengine hc)]
      exact hst.look
    exact hreads.of_calm h.calm (he.provided c hc) hlook
  | delete id => exact absurd hattempting (hst.not_hindered hfair hk)
  | upsert r w => exact absurd rfl (ha r w)
  | list | create | deleteWave | health | pause | draw => exact hattempting.elim

/-- A racer writes what it has read before, at a reading at which it found
the lock free. -/
theorem Standing.writes (hp : p.Sane V) (hst : x.Standing V p₀ p held) (hfair : x.Fair V p₀ p)
    (hk : k ∈ x.racers) (htask : p.tasks k = some task) {r : Record}
    {w : WriteCondition} {next : Except BackendError Record → Call Answer}
    (hrest : task.rest = .act (.upsert r w) next) :
    ∃ t v, x.Reading p k t ∧ (v = x.record ∨ v = held) ∧
      v.isLockedByOthersAt (x.owner k) t = false ∧
      r = (v.touchAt t).lockAt (x.owner k) (x.seconds k) t ∧ w = .ofToken v.token := by
  have hallowed := (hp.event htask hrest).allowed
  obtain ⟨-, t, before, hpast, hwrites⟩ := hallowed
  change task.past = _ at hpast
  change task.errand.Writes t before r w at hwrites
  rw [(hfair.errand k hk task htask).1] at hwrites
  obtain ⟨v, hread, hfree, hr, hw⟩ := hwrites
  have hmem (y : Exchange) (hy : y ∈ ⟨.now, t⟩ :: before) : y ∈ p.past k := by
    rw [Pool.past_of_tasks htask, hpast]
    exact hy
  refine ⟨t, v, ⟨hk, hmem _ List.mem_cons_self⟩, ?_, hfree, hr, hw⟩
  obtain hreply | hreply := hst.reads k hk _ (hmem _ (List.mem_cons_of_mem _ hread))
  · exact .inl (Except.ok.inj hreply)
  · exact .inr (Except.ok.inj hreply)

/-- As long as the lock is to be had, the write of a racer goes through. -/
theorem Standing.act_opened (hp : p.Sane V) (h : x.Setting V p₀ p)
    (hst : x.Standing V p₀ p held) (hfair : x.Fair V p₀ p) (hk : k ∈ x.racers)
    (htask : p.tasks k = some task) {r : Record} {w : WriteCondition}
    {next : Except BackendError Record → Call Answer}
    (hrest : task.rest = .act (.upsert r w) next) (hheld : held = x.record)
    (htried : ∀ k ∈ x.racers, ¬ Tried (p.past k)) :
    ∃ held', x.Standing V p₀ (p.act k task (.upsert r w) next) held' := by
  obtain ⟨t, v, ht, hv, -, hr, rfl⟩ := hst.writes hp hfair hk htask hrest
  obtain rfl : v = x.record := by
    obtain rfl | rfl := hv
    · rfl
    · exact hheld
  have hid : r.id = x.record.id := by
    rw [hr]
    rfl
  have he := hp.event htask hrest
  obtain ⟨c, hc, -, hwrites⟩ := he.does
  have hshelf := h.shelf_of_collection hk (hfair.errand k hk task htask).2 hc
  have hadmitted : (WriteCondition.ofToken x.record.token).Meets (V.look p.world.store c r.id) := by
    rw [WriteCondition.ofToken_of_isToken h.pinned.isToken, hid, V.look_of_shelf hshelf, hst.look,
      hheld]
    exact ⟨x.record, rfl, rfl⟩
  obtain ⟨stored, hreply⟩ := (hwrites.of_calm h.calm (he.provided c hc)).1.2 hadmitted
  have hexchange : (p.event k task (.upsert r (.ofToken x.record.token))).exchange =
      ⟨.upsert r (.ofToken x.record.token), .ok stored⟩ :=
    congrArg (Exchange.mk _) hreply
  rw [hreply] at hwrites
  -- of what the racers have done, only the write is new: the rest stands as it did
  cases hwrites with
  | @stored token _ hstored =>
    have hpast := Pool.past_act htask (.upsert r (.ofToken x.record.token)) next
    rw [hexchange] at hpast
    have hmem {n : Nat} {y : Exchange}
        (hy : y ∈ (p.act k task (.upsert r (.ofToken x.record.token)) next).past n)
        (hne : ¬ y.IsWrite) : y ∈ p.past n := by
      obtain ⟨-, rfl⟩ | hold := Pool.mem_past_act htask hy
      · exact absurd trivial hne
      · exact hold
    refine ⟨x.taken k t token, ?_, fun n hn err herr => ?_, fun n t' ht' => ?_,
      fun n hn reply hread => ?_, .won (k := k) (t := t) ⟨hk, ?_⟩ ?_ rfl ?_ ?_⟩
    · refine (hstored.look x.collection x.record.id).trans ?_
      rw [if_pos ⟨hshelf.symm, hid.symm⟩, hr]
      rfl
    · exact hst.connects n hn err (hmem herr not_false)
    · exact hst.readings n t' ⟨ht'.1, hmem ht'.2 not_false⟩
    · obtain hreply | hreply := hst.reads n hn reply (hmem hread not_false)
      · exact .inl hreply
      · exact .inl (hheld ▸ hreply)
    · rw [hpast k, if_pos rfl]
      exact List.mem_cons_of_mem _ ht.2
    · rw [hpast k, if_pos rfl]
      exact ⟨_, _, _, List.mem_cons_self⟩
    · rintro rfl
      exact h.pinned.issued hstored.fresh
    · intro k' hk' hne hwrote
      rw [hpast k', if_neg hne] at hwrote
      exact htried k' hk' hwrote.tried

/-- Once the lock is taken, the write of a racer is refused: either it asks for
the version from before, or it has seen the lock and would not write. -/
theorem Standing.harmless_of_upsert (hp : p.Sane V) (h : x.Setting V p₀ p)
    (hst : x.Standing V p₀ p held) (hfair : x.Fair V p₀ p)
    (howners : ∀ k ∈ x.racers, ∀ k' ∈ x.racers, x.owner k = x.owner k' → k = k')
    (hk : k ∈ x.racers) (htask : p.tasks k = some task) {r : Record} {w : WriteCondition}
    {next : Except BackendError Record → Call Answer}
    (hrest : task.rest = .act (.upsert r w) next) {k₀ : Nat} {t₀ : Instant} {token : String}
    (ht₀ : x.Reading p k₀ t₀) (hwon : Operation.Wrote (p.past k₀))
    (hheld : held = x.taken k₀ t₀ token) (hne : token ≠ x.record.token) :
    (∀ c id, V.look (p.act k task (.upsert r w) next).world.store c id =
        V.look p.world.store c id) ∧
      x.Harmless p₀.world.clock held (p.event k task (.upsert r w)).exchange := by
  have hother : k₀ ≠ k := by
    rintro rfl
    exact h.attempting hk htask hrest hwon.tried
  obtain ⟨t, v, ht, hv, hfree, hr, rfl⟩ := hst.writes hp hfair hk htask hrest
  have he := hp.event htask hrest
  obtain ⟨c, hc, -, hwrites⟩ := he.does
  -- the racer asks for the version it has read: the one from before, or the one that is stored
  obtain rfl | rfl := hv
  · have hrefused : ¬ (WriteCondition.ofToken x.record.token).Meets
        (V.look p.world.store c r.id) := by
      intro hmeets
      obtain ⟨hlook, hshelf, hid⟩ := h.pinned.eq_of_meets hmeets
      rw [hid, V.look_of_shelf hshelf, hst.look, hheld, Option.some.injEq] at hlook
      exact hne (congrArg Record.token hlook)
    obtain ⟨hiff, hnot⟩ := hwrites.of_calm h.calm (he.provided c hc)
    obtain ⟨hreply, hsame⟩ := hnot fun hstored => hrefused (hiff.1 hstored)
    have hexchange : (p.event k task (.upsert r (.ofToken x.record.token))).exchange =
        ⟨.upsert r (.ofToken x.record.token), .error .preconditionFailed⟩ :=
      congrArg (Exchange.mk _) hreply
    rw [hexchange]
    refine ⟨hsame.look, by rintro _ ⟨⟩, by rintro _ ⟨⟩, by rintro _ ⟨⟩, by rintro _ _ _ ⟨⟩,
      fun _ heq => ?_⟩
    rw [hheld] at heq
    exact hne (congrArg Record.token heq)
  -- the lock lasts at every reading of the race, so the racer had found it taken
  · have hlocked : v.isLockedAt t = true := by
      rw [Record.isLockedAt_iff, hheld]
      exact hfair.lasting k₀ t₀ k t ht₀ ht
    have howner : v.isOwnedBy (x.owner k) = false := by
      rw [← Bool.not_eq_true, Record.isOwnedBy_iff, hheld]
      exact fun heq => hother (howners k₀ ht₀.1 k hk heq)
    rw [Record.isLockedByOthersAt, hlocked, howner] at hfree
    cases hfree

theorem Setting.act (hp : p.Sane V) (h : x.Setting V p₀ p) (htask : p.tasks k = some task)
    (hrest : task.rest = .act a next) : x.Setting V p₀ (p.act k task a next) := by
  have hfollows := Pool.Follows.act htask a next
  have hdoes := (hp.event htask hrest).does
  have hq := hp.act htask hrest
  refine ⟨h.began.trans hfollows.trace, Instant.le_trans h.clock hdoes.clock_le,
    hdoes.moves.passes.calm h.calm, h.pinned.moves hdoes.moves, fun n hn => ?_,
    fun n hn task' htask' => ?_⟩
  · obtain ⟨c, hserves, hshelf⟩ := h.engines n hn
    exact ⟨c, hserves.keeps (hfollows.engines _) (hq.engines _), hshelf⟩
  · obtain ⟨rfl, rfl⟩ | ⟨-, hold⟩ := Pool.tasks_act htask'
    · have hattempt := h.attempts n hn task htask
      rw [hrest] at hattempt
      exact hattempt.2 _
    · exact h.attempts n hn task' hold

theorem Standing.act (hp : p.Sane V) (h : x.Setting V p₀ p) (hst : x.Standing V p₀ p held)
    (howners : ∀ k ∈ x.racers, ∀ k' ∈ x.racers, x.owner k = x.owner k' → k = k')
    (htask : p.tasks k = some task) (hrest : task.rest = .act a next)
    (hfair : x.Fair V p₀ (p.act k task a next)) :
    ∃ held', x.Standing V p₀ (p.act k task a next) held' := by
  have hfollows := Pool.Follows.act htask a next
  have hfair' := hfair.of_follows h.began hfollows
  -- most actions leave the record, and then it is enough that they are harmless
  have hstay (hlook : V.look (p.act k task a next).world.store x.collection x.record.id =
        V.look p.world.store x.collection x.record.id)
      (hharmless : k ∈ x.racers → x.Harmless p₀.world.clock held (p.event k task a).exchange) :
      ∃ held', x.Standing V p₀ (p.act k task a next) held' := by
    refine ⟨held, hst.of_harmless hlook (fun n _ => hfollows.past n) fun n hn y hy => ?_⟩
    obtain ⟨rfl, rfl⟩ | hold := Pool.mem_past_act htask hy
    · exact .inr (hharmless hn)
    · exact .inl hold
  by_cases hk : k ∈ x.racers
  · by_cases ha : ∃ r w, a = .upsert r w
    · obtain ⟨r, w, rfl⟩ := ha
      cases hst.phase with
      | opened hheld htried => exact hst.act_opened hp h hfair' hk htask hrest hheld htried
      | won ht hwon hheld hne _ =>
        obtain ⟨hlook, hharmless⟩ := hst.harmless_of_upsert hp h hfair' howners hk htask hrest ht
          hwon hheld hne
        exact hstay (hlook _ _) fun _ => hharmless
    · obtain ⟨hlook, hharmless⟩ := hst.harmless_of_ne_upsert hp h hfair' hk htask hrest
        fun r w heq => ha ⟨r, w, heq⟩
      exact hstay (hlook _ _) fun _ => hharmless
  · refine hstay (hfair.others (p.event k task a) ?_ hk) fun hk' => absurd hk' hk
    show _ ∈ (p.trace ++ [p.event k task a]).drop _
    rw [List.drop_append_of_le_length h.began.length_le]
    simp

end Turn

theorem Setting.enter (h : x.Setting V p₀ p) {k engine : Nat} {errand : Errand}
    (hfree : p.tasks k = none)
    (hfair : x.Fair V p₀ (p.enter k { engine, errand, rest := errand.call })) :
    x.Setting V p₀ (p.enter k { engine, errand, rest := errand.call }) := by
  refine ⟨h.began, h.clock, h.calm, h.pinned, h.engines, fun n hn task' htask' => ?_⟩
  obtain ⟨rfl, rfl⟩ | ⟨-, hold⟩ := Pool.tasks_enter htask'
  · obtain rfl : errand = x.errand n := (hfair.errand n hn _ htask').1
    exact (Operation.along_tryToLock_attempting _ _ _).wrap .truth
      fun past res hdecided => ⟨res, rfl, hdecided⟩
  · exact h.attempts n hn task' hold

/-- A race that began with the lock to be had. -/
theorem Begins.standing (h : x.Begins V p₀) : x.Standing V p₀ p₀ x.record := by
  have hpast (k : Nat) (hk : k ∈ x.racers) : p₀.past k = [] := by
    simp [Pool.past, h.ahead k hk]
  refine ⟨h.stored, fun k hk err => ?_, fun k t ht => ?_, fun k hk reply hreply => ?_,
    .opened rfl fun k hk => ?_⟩
  · simp [hpast k hk]
  · exact absurd ht.2 (by simp [hpast k ht.1])
  · exact absurd hreply (by simp [hpast k hk])
  · rw [hpast k hk]
    exact not_tried_nil

/-- **The course of a race.** What a fair run keeps, from what each turn keeps. -/
theorem Begins.run (hp : p₀.Sane V) (hbegins : x.Begins V p₀) (hsetting : x.Setting V p₀ p₀)
    (turns : List Turn) (hfair : x.Fair V p₀ (p₀.run turns)) :
    x.Setting V p₀ (p₀.run turns) ∧ ∃ held, x.Standing V p₀ (p₀.run turns) held := by
  have hrun := (Pool.Sane.run_induction (V := V) (I := fun p => p₀.trace <+: p.trace ∧
    (x.Fair V p₀ p → x.Setting V p₀ p ∧ ∃ held, x.Standing V p₀ p held)) ?_ ?_ ?_ hp
    ⟨List.prefix_refl _, fun _ => ⟨hsetting, x.record, hbegins.standing⟩⟩ turns).2.2
  · exact hrun hfair
  · rintro p k engine errand - ⟨hbegan, h⟩ hfree
    have hfollows := Pool.Follows.enter hfree engine errand
    refine ⟨hbegan, fun hfair => ?_⟩
    obtain ⟨hsetting, held, hst⟩ := h (hfair.of_follows hbegan hfollows)
    refine ⟨hsetting.enter hfree hfair, held,
      hst.of_harmless rfl (fun n _ => hfollows.past n) fun n _ y hy => .inl ?_⟩
    rw [Pool.past_enter hfree] at hy
    exact hy
  · rintro p k task a next hp ⟨hbegan, h⟩ htask hrest -
    have hfollows := Pool.Follows.act htask a next
    refine ⟨hbegan.trans hfollows.trace, fun hfair => ?_⟩
    obtain ⟨hsetting, held, hst⟩ := h (hfair.of_follows hbegan hfollows)
    exact ⟨hsetting.act hp htask hrest, hst.act hp hsetting hbegins.owners htask hrest hfair⟩
  · rintro p ms - ⟨hbegan, h⟩
    refine ⟨hbegan, fun hfair => ?_⟩
    obtain ⟨hsetting, held, hst⟩ := h (hfair.of_follows hbegan (Pool.Follows.wait p ms))
    exact ⟨⟨hsetting.began, Instant.le_trans hsetting.clock (p.world.clock.le_shift ms),
      hsetting.calm, hsetting.pinned, hsetting.engines, hsetting.attempts⟩, held,
      hst.of_harmless rfl (fun n _ => List.Subset.refl _) fun n _ y hy => .inl hy⟩

end Contest

/-! ## Answers -/

/-- The turn is a step of the task of this number. -/
def Turn.isStepOf (k : Nat) : Turn → Bool
  | step n => n = k
  | _ => false

namespace Pool

variable {p : Pool σ}

/-- The answer of the task of this number, once it has ended. -/
def answer? (p : Pool σ) (k : Nat) : Option Answer :=
  (p.tasks k).bind fun task =>
    match task.rest with
    | .done a => some a
    | .act .. => none

theorem tasks_start_of_some {k : Nat} {task : Task} (htask : p.tasks k = some task)
    (n engine : Nat) (errand : Errand) : (p.start n engine errand).tasks k = some task := by
  unfold start
  split
  case h_1 => exact htask
  case h_2 hfree =>
    have hk : k ≠ n := by
      rintro rfl
      rw [htask] at hfree
      cases hfree
    simpa [enter, hk] using htask

theorem tasks_step_of_ne {k n : Nat} (hk : k ≠ n) : (p.step n).tasks k = p.tasks k := by
  unfold step
  split
  case h_1 => rfl
  case h_2 =>
    split
    case h_1 => rfl
    case h_2 => simp [act, hk]

theorem exists_tasks_step {k : Nat} {task : Task} (htask : p.tasks k = some task) {a : Action}
    {next : a.Reply → Call Answer} (hrest : task.rest = .act a next) :
    ∃ r, (p.step k).tasks k =
      some { task with past := ⟨a, r⟩ :: task.past, rest := next r } := by
  refine ⟨((p.session task).perform a).1, ?_⟩
  simp [step, htask, hrest, act]

/-- A call that ends within `n` actions has ended after `n` steps of its own,
whatever else happens in between. Induction on the turns. -/
theorem answered_of_steps {k : Nat} {task : Task} (htask : p.tasks k = some task) {n : Nat}
    (hends : task.rest.EndsWithin n) (turns : List Turn)
    (hsteps : n ≤ turns.countP (·.isStepOf k)) : (p.run turns).answer? k ≠ none := by
  induction turns generalizing p task n with
  | nil =>
    obtain ⟨engine, errand, past, rest⟩ := task
    cases rest with
    | done a => simp [run, answer?, htask]
    | act a next =>
      -- no turns are left, so no steps were asked for, but the call has an action to go
      obtain rfl : n = 0 := by simpa using hsteps
      exact hends.elim
  | cons turn turns ih =>
    rw [List.countP_cons] at hsteps
    cases turn with
    | start m engine errand =>
      exact ih (tasks_start_of_some htask m engine errand) hends
        (by simpa [Turn.isStepOf] using hsteps)
    | wait ms => exact ih htask hends (by simpa [Turn.isStepOf] using hsteps)
    | step m =>
      by_cases hm : k = m
      · subst hm
        simp only [Turn.isStepOf, decide_true, if_true] at hsteps
        cases hrest : task.rest with
        | done a =>
          have hsame : p.take (.step k) = p := by simp only [take, step, htask, hrest]
          have htask' : (p.take (.step k)).tasks k = some task := by rw [hsame, htask]
          exact ih htask' (hrest ▸ Call.endsWithin_done 0 a) (Nat.zero_le _)
        | act a next =>
          rw [hrest] at hends
          cases n with
          | zero => exact hends.elim
          | succ n =>
            obtain ⟨r, hstep⟩ := exists_tasks_step htask hrest
            exact ih hstep (hends r) (Nat.le_of_succ_le_succ hsteps)
      · refine ih (p := p.step m) ((tasks_step_of_ne hm).trans htask) hends ?_
        simpa [Turn.isStepOf, Ne.symm hm] using hsteps

end Pool

namespace Contest

variable {x : Contest} {p₀ p : Pool σ} {held : Record}

/-- However far a racer has come, it needs few actions more. -/
theorem endsWithin_run (hahead : ∀ k ∈ x.racers, p₀.tasks k = none) (turns : List Turn) :
    ∀ k ∈ x.racers, ∀ task, (p₀.run turns).tasks k = some task → task.errand = x.errand k →
      task.rest.EndsWithin Operation.attemptBound := by
  refine Pool.run_induction (I := fun p => ∀ k ∈ x.racers, ∀ task, p.tasks k = some task →
    task.errand = x.errand k → task.rest.EndsWithin Operation.attemptBound) ?_ ?_ ?_ ?_ turns
  · intro p n engine errand h _ k hk task htask herrand
    obtain ⟨rfl, rfl⟩ | ⟨-, hold⟩ := Pool.tasks_enter htask
    · obtain rfl : errand = x.errand k := herrand
      exact (Operation.endsWithin_tryToLock _ _ _).bind (m := 0) fun _ => trivial
    · exact h k hk task hold herrand
  · intro p n task₀ a next h htask₀ hrest k hk task htask herrand
    obtain ⟨rfl, rfl⟩ | ⟨-, hold⟩ := Pool.tasks_act htask
    · have hends := h k hk task₀ htask₀ herrand
      rw [hrest] at hends
      exact Call.EndsWithin.mono (n := 11) (hends _) (by decide)
    · exact h k hk task hold herrand
  · exact fun p ms h => h
  · intro k hk task htask
    rw [hahead k hk] at htask
    cases htask

/-- What a racer is answered once it has ended: true exactly if it has
written. It cannot have been kept out while the lock was to be had, for it
then read the record free, and it wrote what it had read. -/
theorem Standing.answer (h : x.Setting V p₀ p) (hst : x.Standing V p₀ p held)
    (hfair : x.Fair V p₀ p) {k : Nat} (hk : k ∈ x.racers) {a : Answer}
    (ha : p.answer? k = some a) :
    (a = .truth (.ok true) ∧ Operation.Wrote (p.past k)) ∨
      (a = .truth (.ok false) ∧ ¬ Operation.Wrote (p.past k) ∧
        (Tried (p.past k) ∨ Contended x.record.id (x.owner k) (p.past k))) := by
  obtain ⟨task, htask, hdone⟩ := Option.bind_eq_some_iff.1 ha
  have hattempt := h.attempts k hk task htask
  have hnot := hst.not_hindered hfair hk
  rw [Pool.past_of_tasks htask] at hnot ⊢
  cases hrest : task.rest with
  | act a next =>
    rw [hrest] at hdone
    cases hdone
  | done a' =>
    rw [hrest] at hdone hattempt
    obtain rfl := Option.some.inj hdone
    obtain ⟨res, rfl, hdecided⟩ := hattempt
    rcases res with err | _ | _
    · exact absurd hdecided hnot
    · obtain ⟨hwrote, htried | hcontended | hhindered⟩ := hdecided
      · exact .inr ⟨rfl, hwrote, .inl htried⟩
      · exact .inr ⟨rfl, hwrote, .inr hcontended⟩
      · exact absurd hhindered hnot
    · exact .inl ⟨rfl, hdecided⟩

/-- As long as the lock is to be had, nobody is seen to hold it. -/
theorem Standing.not_contended (hst : x.Standing V p₀ p x.record)
    (hunlocked : x.record.isLockedAt p₀.world.clock = false) {k : Nat} (hk : k ∈ x.racers) :
    ¬ Contended x.record.id (x.owner k) (p.past k) := by
  rintro ⟨v, t, hread, hnow, hlocked⟩
  have hstart := hst.readings k t ⟨hk, hnow⟩
  have hlocked : v.isLockedAt t = true := by
    rw [Record.isLockedByOthersAt, Bool.and_eq_true] at hlocked
    exact hlocked.1
  obtain hreply | hreply := hst.reads k hk _ hread
  all_goals
    cases hreply
    rw [← Bool.not_eq_true, Record.isLockedAt_iff, Instant.lt_def] at hunlocked
    rw [Record.isLockedAt_iff, Instant.lt_def] at hlocked
    rw [Instant.le_def] at hstart
    omega

/-- When every racer has been answered, one has won. -/
theorem Begins.outcome (hp : p₀.Sane V) (hbegins : x.Begins V p₀)
    (hsetting : x.Setting V p₀ p₀) {turns : List Turn} (hfair : x.Fair V p₀ (p₀.run turns))
    (hanswered : ∀ k ∈ x.racers, (p₀.run turns).answer? k ≠ none) :
    ∃ winner ∈ x.racers,
      (∀ k ∈ x.racers, (p₀.run turns).answer? k = some (.truth (.ok (decide (k = winner))))) ∧
      ∃ t token, x.Reading (p₀.run turns) winner t ∧
        V.look (p₀.run turns).world.store x.collection x.record.id =
          some (x.taken winner t token) ∧ token ≠ x.record.token := by
  obtain ⟨hsetting', held, hst⟩ := hbegins.run hp hsetting turns hfair
  generalize p₀.run turns = q at *
  cases hst.phase with
  | opened hheld htried =>
    subst hheld
    obtain ⟨k, hk⟩ := List.exists_mem_of_ne_nil _ hbegins.racers
    obtain ⟨a, ha⟩ := Option.ne_none_iff_exists'.1 (hanswered k hk)
    obtain ⟨-, hwrote⟩ | ⟨-, -, hsent | hcontended⟩ := hst.answer hsetting' hfair hk ha
    · exact absurd hwrote.tried (htried k hk)
    · exact absurd hsent (htried k hk)
    · exact absurd hcontended (hst.not_contended hbegins.unlocked hk)
  | @won winner t token ht hwon hheld hne hothers =>
    refine ⟨winner, ht.1, fun k hk => ?_, t, token, ht, hheld ▸ hst.look, hne⟩
    obtain ⟨a, ha⟩ := Option.ne_none_iff_exists'.1 (hanswered k hk)
    rw [ha]
    obtain ⟨rfl, hwrote⟩ | ⟨rfl, hwrote, -⟩ := hst.answer hsetting' hfair hk ha
    · have hk : k = winner := by
        by_contra hkw
        exact hothers k hk hkw hwrote
      rw [decide_eq_true hk]
    · have hk : k ≠ winner := by
        rintro rfl
        exact hwrote hwon
      rw [decide_eq_false hk]

end Contest

open Pool Fleet in
/-- The surroundings of a race on a shared backend. -/
theorem Fleet.setting_of_begins {kind : BackendKind} {configs : Nat → Once Config}
    {w : World Fleet} (hvacant : Vacant kind w.store) (hcalm : (view kind).Calm w.store)
    (before : List Turn) {x : Contest}
    (hengines : ∀ k ∈ x.racers, ∃ config, configs (x.engine k) = .ready config ∧
      Reaches kind config ∧
      (view kind).shelf config.collectionRef = (view kind).shelf x.collection)
    (hbegins : x.Begins (view kind) ((fresh (shared kind) configs w).run before)) :
    x.Setting (view kind) ((fresh (shared kind) configs w).run before)
      ((fresh (shared kind) configs w).run before) := by
  have hsane := sane_fresh hvacant configs
  have hp := hsane.run before
  have hfollows := Follows.run (fresh (shared kind) configs w) before
  refine ⟨List.prefix_refl _, Instant.le_refl _, calm_run hsane hcalm before,
    hp.tidy _ _ _ hbegins.stored, fun k hk => ?_, fun k hk task htask => ?_⟩
  · obtain ⟨config, hconfig, hreaches, hshelf⟩ := hengines k hk
    have hserves : Engine.Serves (view kind) config.collectionRef
        ((fresh (shared kind) configs w).engines (x.engine k)) w.store :=
      ⟨hsane.engines _, ⟨config, hconfig, rfl, shared_ok hreaches⟩, fun _ hl => nomatch hl⟩
    exact ⟨_, hserves.keeps (hfollows.engines _) (hp.engines _), hshelf⟩
  · rw [hbegins.ahead k hk] at htask
    cases htask

open Pool Fleet in
/-- **A race for a free lock has exactly one winner.** After any run of new
engines on an empty backend without planned failures, let racers of different
owners try to take the lock of a record that is stored and not locked, on
engines that lead to it. Their turns come in any order, and whatever else
happens leaves the record alone; the clock readings of the racers find the
record live and come before every deadline that they could set.

A racer that has begun is answered after twelve steps of its own at most,
whatever the others do. And when all are answered, one of them, the winner,
is answered true and all others false; the record is stored as it was but for
the lock, which is the winner's by a reading of the winner, holds at every
reading of the race, and carries a new token. -/
theorem one_racer_wins (kind : BackendKind) (configs : Nat → Once Config) (w : World Fleet)
    (hvacant : Vacant kind w.store) (hcalm : (view kind).Calm w.store)
    (before turns : List Turn) (x : Contest)
    (hengines : ∀ k ∈ x.racers, ∃ config, configs (x.engine k) = .ready config ∧
      Reaches kind config ∧
      (view kind).shelf config.collectionRef = (view kind).shelf x.collection)
    (hbegins : x.Begins (view kind) ((fresh (shared kind) configs w).run before))
    (hfair : x.Fair (view kind) ((fresh (shared kind) configs w).run before)
      ((fresh (shared kind) configs w).run (before ++ turns))) :
    (∀ k ∈ x.racers, ((fresh (shared kind) configs w).run (before ++ turns)).tasks k ≠ none →
      ∀ more, 12 ≤ more.countP (Turn.isStepOf k) →
        ((fresh (shared kind) configs w).run (before ++ turns ++ more)).answer? k ≠ none) ∧
    ((∀ k ∈ x.racers,
        ((fresh (shared kind) configs w).run (before ++ turns)).answer? k ≠ none) →
      ∃ winner ∈ x.racers,
        (∀ k ∈ x.racers, ((fresh (shared kind) configs w).run (before ++ turns)).answer? k =
          some (.truth (.ok (decide (k = winner))))) ∧
        ∃ t token,
          x.Reading ((fresh (shared kind) configs w).run (before ++ turns)) winner t ∧
          (view kind).look ((fresh (shared kind) configs w).run (before ++ turns)).world.store
            x.collection x.record.id = some { x.record with
              token, modifiedAt := t, lockOwner := x.owner winner
              lockExpiresAt := t.after (x.seconds winner) } ∧
          token ≠ x.record.token ∧
          ∀ k t', x.Reading ((fresh (shared kind) configs w).run (before ++ turns)) k t' →
            t' < t.after (x.seconds winner)) := by
  have hp := (sane_fresh hvacant configs).run before
  have hsetting := setting_of_begins hvacant hcalm before hengines hbegins
  rw [run_append] at hfair ⊢
  refine ⟨fun k hk hbegun more hmore => ?_, fun hanswered => ?_⟩
  · obtain ⟨task, htask⟩ := Option.ne_none_iff_exists'.1 hbegun
    rw [run_append, run_append]
    exact answered_of_steps htask (Contest.endsWithin_run hbegins.ahead turns k hk task htask
      (hfair.errand k hk task htask).1) more hmore
  · obtain ⟨winner, hwinner, hanswers, t, token, ht, hlook, hne⟩ :=
      hbegins.outcome hp hsetting hfair hanswered
    exact ⟨winner, hwinner, hanswers, t, token, ht, hlook, hne,
      fun k t' ht' => hfair.lasting winner t k t' ht ht'⟩

/-- A new record, and two owners that have both read it before either writes. -/
def opening : List Turn :=
  .start 0 0 (.request (.create { id := "a" })) :: List.replicate 4 (.step 0)

def duel : List Turn :=
  .start 1 0 (.request (.tryToLock "a" ⟨"x", "node"⟩ 60)) ::
    .start 2 1 (.request (.tryToLock "a" ⟨"y", "node"⟩ 60)) ::
      List.replicate 5 (.step 1) ++ List.replicate 8 (.step 2) ++ List.replicate 3 (.step 1)

/-- The two owners of a duel. -/
def duelists : Contest where
  collection := Pool.items
  record := { id := "a", token := "\"0000000000000000-1234f4af\"" }
  racers := [1, 2]
  engine k := k - 1
  owner k := ⟨if k = 1 then "x" else "y", "node"⟩
  seconds _ := 60

/-- The reading of the clock that an exchange is. -/
def Exchange.time? : Exchange → Option Instant
  | ⟨.now, t⟩ => some t
  | _ => none

open Pool Fleet in
/-- Of the two owners of a duel one wins. -/
theorem one_racer_wins_duel :
    Vacant .memory blank.world.store ∧ (view .memory).Calm blank.world.store ∧
      duelists.Begins (view .memory) (blank.run opening) ∧
      duelists.Fair (view .memory) (blank.run opening) (blank.run (opening ++ duel)) ∧
      ∃ winner ∈ [1, 2], ∀ k ∈ [1, 2], (blank.run (opening ++ duel)).answer? k =
        some (.truth (.ok (decide (k = winner)))) := by
  have hcalm : (view .memory).Calm blank.world.store := calm_of_empty FaultPlan.empty_default
  have hbegins : duelists.Begins (view .memory) (blank.run opening) := by
    refine ⟨by decide, by decide, by decide, ?_, by decide⟩
    decide +kernel
  have htimes : ∀ k ∈ duelists.racers,
      ∀ t ∈ ((blank.run (opening ++ duel)).past k).filterMap Exchange.time?, t = Instant.epoch := by
    decide +kernel
  have hreading {k : Nat} {t : Instant} (ht : duelists.Reading (blank.run (opening ++ duel)) k t) :
      t = Instant.epoch :=
    htimes k ht.1 t (List.mem_filterMap.2 ⟨_, ht.2, rfl⟩)
  have hothers : ∀ n ∈ ((blank.run (opening ++ duel)).trace.drop
      (blank.run opening).trace.length).map (·.task), n ∈ duelists.racers := by
    decide +kernel
  have hanswered : ∀ k ∈ duelists.racers,
      ((blank.run (opening ++ duel)).answer? k).isSome := by
    decide +kernel
  have hfair : duelists.Fair (view .memory) (blank.run opening) (blank.run (opening ++ duel)) := by
    refine ⟨?_, fun k t ht => ?_, fun k t k' t' ht ht' => ?_, fun e he hout => ?_⟩
    · intro k hk task htask
      have herrand : ((blank.run (opening ++ duel)).tasks k).map
          (fun task => (task.errand, task.engine)) =
            some (duelists.errand k, duelists.engine k) := by
        obtain rfl | rfl : k = 1 ∨ k = 2 := by simpa [duelists] using hk
        all_goals rfl
      rw [htask] at herrand
      exact Prod.mk.inj (Option.some.inj herrand)
    · rw [hreading ht]
      decide
    · rw [hreading ht, hreading ht']
      show Instant.epoch < Instant.epoch.after 60
      decide
    · exact absurd (hothers e.task (List.mem_map_of_mem he)) hout
  obtain ⟨-, hone⟩ := one_racer_wins .memory _ _ vacant_blank hcalm opening duel duelists
    (fun k _ => ⟨_, rfl, trivial, rfl⟩) hbegins hfair
  obtain ⟨winner, hwinner, hanswers, -⟩ :=
    hone fun k hk => Option.isSome_iff_ne_none.1 (hanswered k hk)
  exact ⟨vacant_blank, hcalm, hbegins, hfair, winner, hwinner, hanswers⟩

end LeaseStore
