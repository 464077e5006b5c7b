/-
LeaseStore.Proofs.Interleaving.Leases — a lease keeps other owners out.

A lock is a record with an owner and a deadline, and nothing but the
conditional write guards it. Between the read of a caller and its write,
other callers may read, decide and write as they like; the reading of the
clock on which it decides may be old by the time that it writes.

What saves the lease is how versions and readings are ordered. A pool is
`Dated`: no record was modified later than any reading of the clock that
a task took after it had seen that record. So a record either still has
the lock, or was written at the deadline or later (`Record.Guards`), and
every write back by someone else leaves a record of which the same is true
(`Errand.Changes.guards`).

* `lease_outlasts_others` — in every interleaving, whoever takes the lock of
  another did so by a reading that had reached the other's deadline.
-/
import LeaseStore.Proofs.Interleaving.Trace

namespace LeaseStore

variable {σ : Type} {V : View σ}

/-! ## What errands do to a lease -/

namespace Errand

/-- The record that an errand reads and writes back. -/
def rewrites? : Errand → Option String
  | request (.tryToLock id ..) | request (.tryToUnlock id ..)
  | request (.lockWithRetry id ..) | update id _ => some id
  | _ => none

/-- The lock that an errand takes: of which record, for whom, and for how many
seconds. -/
def lock? : Errand → Option (String × Owner × Nat)
  | request (.tryToLock id owner seconds) | request (.lockWithRetry id owner seconds _) =>
    some (id, owner, seconds)
  | _ => none

/-- The owner whose lock an errand takes or gives up. -/
def holder? : Errand → Option Owner
  | request (.tryToLock _ owner _) | request (.lockWithRetry _ owner ..)
  | request (.tryToUnlock _ owner) => some owner
  | _ => none

theorem holder?_of_lock? {e : Errand} {id : String} {owner : Owner} {seconds : Nat}
    (h : e.lock? = some (id, owner, seconds)) : e.holder? = some owner := by
  cases e with
  | update => cases h
  | request q => cases q <;> cases h <;> rfl

theorem rewrites?_of_lock? {e : Errand} {id : String} {owner : Owner} {seconds : Nat}
    (h : e.lock? = some (id, owner, seconds)) : e.rewrites? = some id := by
  cases e with
  | update => cases h
  | request q => cases q <;> cases h <;> rfl

/-- What an errand makes of the version `v` at the reading `t`. -/
structure Changes (e : Errand) (t : Instant) (v r : Record) : Prop where
  modifiedAt : r.modifiedAt = t
  takes : ∀ id owner seconds, e.lock? = some (id, owner, seconds) →
    v.isLockedByOthersAt owner t = false ∧ r.lockOwner = owner ∧
      r.lockExpiresAt = t.after seconds
  keeps : e.lock? = none → (r.lockOwner = v.lockOwner ∧ r.lockExpiresAt = v.lockExpiresAt) ∨
    e.holder? = some v.lockOwner

/-- What is written back comes from a version that was read. -/
theorem Writes.rewrites {e : Errand} {t : Instant} {before : List Exchange} {r : Record}
    {w : WriteCondition} (h : e.Writes t before r w) {id : String} (hid : e.rewrites? = some id) :
    ∃ v, ⟨.read id, .ok v⟩ ∈ before ∧ w = .ofToken v.token ∧ r.id = v.id ∧
      ∀ token, e.Changes t v { r with token } := by
  cases e with
  | update id' edit =>
    cases hid
    obtain ⟨v, hread, rfl, rfl⟩ := h
    exact ⟨v, hread, rfl, rfl, fun token =>
      ⟨rfl, (fun _ _ _ h => nomatch h), fun _ => .inl ⟨rfl, rfl⟩⟩⟩
  | request q =>
    cases q with
    | tryToLock id' owner seconds | lockWithRetry id' owner seconds _ =>
      cases hid
      obtain ⟨v, hread, hfree, rfl, rfl⟩ := h
      refine ⟨v, hread, rfl, rfl, fun token => ⟨rfl, fun _ _ _ hlock => ?_, fun h => nomatch h⟩⟩
      cases hlock
      exact ⟨hfree, rfl, rfl⟩
    | tryToUnlock id' owner =>
      cases hid
      obtain ⟨v, hread, -, rfl, rfl, rfl⟩ := h
      exact ⟨v, hread, rfl, rfl, fun token =>
        ⟨rfl, (fun _ _ _ h => nomatch h), fun _ => .inr rfl⟩⟩
    | _ => cases hid

/-- Whatever is written carries the reading just before. -/
theorem Writes.modifiedAt {e : Errand} {t : Instant} {before : List Exchange} {r : Record}
    {w : WriteCondition} (h : e.Writes t before r w) : r.modifiedAt = t := by
  cases e with
  | update id edit =>
    obtain ⟨v, -, rfl, -⟩ := h
    rfl
  | request q =>
    cases q with
    | upsert | upsertWithToken =>
      obtain ⟨rfl, -⟩ := h
      rfl
    | tryToLock | lockWithRetry =>
      obtain ⟨v, -, -, rfl, -⟩ := h
      rfl
    | tryToUnlock =>
      obtain ⟨v, -, -, -, rfl, -⟩ := h
      rfl
    | _ => exact h.elim

end Errand

/-- The record still has this lock, or was written at its deadline or later. -/
def Record.Guards (r : Record) (owner : Owner) (deadline : Instant) : Prop :=
  (r.lockOwner = owner ∧ r.lockExpiresAt = deadline) ∨ deadline ≤ r.modifiedAt

/-- Someone else finds the record free only once the deadline is reached. -/
theorem Record.Guards.deadline_le {v : Record} {owner other : Owner} {deadline t : Instant}
    (h : v.Guards owner deadline) (hseen : v.modifiedAt ≤ t) (hne : owner ≠ other)
    (hfree : v.isLockedByOthersAt other t = false) : deadline ≤ t := by
  obtain ⟨rfl, rfl⟩ | hlater := h
  · have howned : v.isOwnedBy other = false := by
      simpa [Record.isOwnedBy] using hne
    rw [Record.isLockedByOthersAt, howned, Bool.not_false, Bool.and_true] at hfree
    have hended : ¬ t < v.lockExpiresAt := by
      rw [← Record.isLockedAt_iff, hfree]
      simp
    rw [Instant.lt_def] at hended
    rw [Instant.le_def]
    omega
  · exact Instant.le_trans hlater hseen

/-- What someone else makes of such a record is such a record. -/
theorem Errand.Changes.guards {e : Errand} {t deadline : Instant} {v r : Record} {owner : Owner}
    (h : e.Changes t v r) (hv : v.Guards owner deadline) (hseen : v.modifiedAt ≤ t)
    (hother : e.holder? ≠ some owner) : r.Guards owner deadline := by
  rcases hv with ⟨hsame, hends⟩ | hlater
  · cases hlock : e.lock? with
    | some lock =>
      obtain ⟨id, other, seconds⟩ := lock
      obtain ⟨hfree, -, -⟩ := h.takes id other seconds hlock
      have hne : owner ≠ other := by
        intro heq
        rw [heq, Errand.holder?_of_lock? hlock] at hother
        exact hother rfl
      refine .inr ?_
      rw [h.modifiedAt]
      exact Record.Guards.deadline_le (.inl ⟨hsame, hends⟩) hseen hne hfree
    | none =>
      obtain ⟨howner, hdeadline⟩ | hholder := h.keeps hlock
      · exact .inl ⟨howner.trans hsame, hdeadline.trans hends⟩
      · exact absurd (hsame ▸ hholder) hother
  · refine .inr ?_
    rw [h.modifiedAt]
    exact Instant.le_trans hlater hseen

/-! ## Writes of a lock -/

namespace Event

/-- The reading of the clock that came just before an event, in its task. -/
def reading? (e : Event σ) : Option Instant :=
  match e.past with
  | ⟨.now, t⟩ :: _ => some t
  | _ => none

/-- The event has written a lock: on the record `id` of `c`, for this owner
and this many seconds from the reading `t`. -/
structure TakesLock (V : View σ) (e : Event σ) (c : CollectionRef) (id : String)
    (owner : Owner) (seconds : Nat) (t : Instant) : Prop where
  lock : e.errand.lock? = some (id, owner, seconds)
  reading : e.reading? = some t
  stores : ∃ r, e.Stores V c r ∧ r.id = id

/-- If the event has written the record, then to write it back, and not to
take or give up a lock of this owner. -/
def LeavesLock (V : View σ) (e : Event σ) (c : CollectionRef) (id : String)
    (owner : Owner) : Prop :=
  ∀ r, e.Stores V c r → r.id = id → e.errand.rewrites? = some id ∧ e.errand.holder? ≠ some owner

/-- What was stored carries the reading just before. If it was written back,
it comes from the version that was held. -/
theorem Sane.wrote {e : Event σ} (he : e.Sane V) {r : Record} (h : e.stored? = some r) :
    ∃ t before, e.past = ⟨.now, t⟩ :: before ∧ r.modifiedAt = t ∧
      ∀ id, e.errand.rewrites? = some id → ∃ v c, ⟨.read id, .ok v⟩ ∈ before ∧ r.id = v.id ∧
        e.errand.Changes t v r ∧ e.collection = some c ∧
        (WriteCondition.ofToken v.token).Meets (V.look e.before.store c r.id) := by
  have hdoes := he.does
  have hallowed := he.allowed
  obtain ⟨k, errand, past, ⟨action, reply⟩, c?, before, after⟩ := e
  cases action with
  | create r₀ =>
    obtain ⟨c, hc, -, hwrites⟩ := hdoes
    obtain ⟨-, t, earlier, r₁, hpast, herrand, rfl⟩ := hallowed
    cases hwrites with
    | refused | failed => cases h
    | stored _ hstored =>
      cases h
      refine ⟨t, earlier, hpast, rfl, fun id hid => ?_⟩
      subst herrand
      cases hid
  | upsert r₀ w =>
    obtain ⟨c, hc, -, hwrites⟩ := hdoes
    obtain ⟨-, t, earlier, hpast, hwrote⟩ := hallowed
    cases hwrites with
    | refused | failed => cases h
    | stored hmeets hstored =>
      cases h
      refine ⟨t, earlier, hpast, hwrote.modifiedAt, fun id hid => ?_⟩
      obtain ⟨v, hread, rfl, hv, hchanges⟩ := hwrote.rewrites hid
      exact ⟨v, c, hread, hv, hchanges _, hc, hmeets⟩
  | _ => cases h

end Event

/-! ## Readings -/

namespace Pool

variable {p : Pool σ}

/-- Readings follow the order of the versions: what is held was written by
now, what a task has read is pinned, and the reading on which a task decides is
not before any write that it has seen. -/
structure Dated (V : View σ) (p : Pool σ) : Prop where
  held : ∀ c id r, V.look p.world.store c id = some r → r.modifiedAt ≤ p.world.clock
  reading : ∀ k task t, p.tasks k = some task → ⟨.now, t⟩ ∈ task.past → t ≤ p.world.clock
  seen : ∀ k task id v, p.tasks k = some task → ⟨.read id, .ok v⟩ ∈ task.past →
    v.id = id ∧ v.modifiedAt ≤ p.world.clock ∧
      ∃ c, (p.engines task.engine).linked? = some c ∧ V.Pinned p.world.store c v
  decided : ∀ k task t before id v, p.tasks k = some task → task.past = ⟨.now, t⟩ :: before →
    ⟨.read id, .ok v⟩ ∈ before → v.modifiedAt ≤ t

theorem Dated.enter (h : p.Dated V) (k engine : Nat) (errand : Errand) :
    (p.enter k { engine, errand, rest := errand.call }).Dated V := by
  refine ⟨h.held, ?_, ?_, ?_⟩
  · intro n task t htask ht
    obtain ⟨-, rfl⟩ | ⟨-, hold⟩ := tasks_enter htask
    · cases ht
    · exact h.reading n task t hold ht
  · intro n task id v htask hv
    obtain ⟨-, rfl⟩ | ⟨-, hold⟩ := tasks_enter htask
    · cases hv
    · exact h.seen n task id v hold hv
  · intro n task t before id v htask hpast hv
    obtain ⟨-, rfl⟩ | ⟨-, hold⟩ := tasks_enter htask
    · cases hpast
    · exact h.decided n task t before id v hold hpast hv

theorem Dated.act (hp : p.Sane V) (h : p.Dated V) {k : Nat} {task : Task} {a : Action}
    {next : a.Reply → Call Answer} (htask : p.tasks k = some task)
    (hrest : task.rest = .act a next) : (p.act k task a next).Dated V := by
  have he := hp.event htask hrest
  have hafter := hp.act htask hrest
  have hclock : p.world.clock ≤ (p.act k task a next).world.clock := he.does.clock_le
  have hmoves : V.Moves p.world.store (p.act k task a next).world.store := he.does.moves
  have hnow {t : Instant} (hx : (p.event k task a).exchange = ⟨.now, t⟩) :
      t = p.world.clock ∧ (p.act k task a next).world = p.world := by
    have hdoes := he.does
    rw [hx] at hdoes
    exact hdoes
  -- what is held was stored just now, as of a reading before that, or is as old as it was
  have hheld (c : CollectionRef) (id : String) (r : Record)
      (hr : V.look (p.act k task a next).world.store c id = some r) :
      r.modifiedAt ≤ (p.act k task a next).world.clock := by
    refine Instant.le_trans ?_ hclock
    obtain ⟨r', hstores, -, hlook⟩ | ⟨-, hsame | hnone⟩ := he.cell c id
    · obtain rfl : r' = r := Option.some.inj (hlook.symm.trans hr)
      obtain ⟨t, before, hpast, hmodified, -⟩ := he.wrote hstores.1
      have hpast' : task.past = ⟨.now, t⟩ :: before := hpast
      rw [hmodified]
      exact h.reading k task t htask (by simp [hpast'])
    · exact h.held c id r (hsame.symm.trans hr)
    · exact absurd (hnone.symm.trans hr) (by simp)
  refine ⟨hheld, ?_, ?_, ?_⟩
  · intro n task' t htask' ht
    obtain ⟨rfl, rfl⟩ | ⟨-, hold⟩ := tasks_act htask'
    · obtain hnew | hold := List.mem_cons.1 ht
      · obtain ⟨rfl, -⟩ := hnow hnew.symm
        exact hclock
      · exact Instant.le_trans (h.reading n task t htask hold) hclock
    · exact Instant.le_trans (h.reading n task' t hold ht) hclock
  -- what was read before is still pinned: tokens that are issued stay so
  · intro n task' id v htask' hv
    have hkept {n' : Nat} {task₀ : Task} (hread : p.tasks n' = some task₀)
        (hold : ⟨.read id, .ok v⟩ ∈ task₀.past) :
        v.id = id ∧ v.modifiedAt ≤ (p.act k task a next).world.clock ∧
          ∃ c, ((p.act k task a next).engines task₀.engine).linked? = some c ∧
            V.Pinned (p.act k task a next).world.store c v := by
      obtain ⟨hid, hmodified, c, hc, hpinned⟩ := h.seen n' task₀ id v hread hold
      exact ⟨hid, Instant.le_trans hmodified hclock, c, hp.linked?_act htask hrest hc,
        hpinned.moves hmoves⟩
    obtain ⟨rfl, rfl⟩ | ⟨-, hold⟩ := tasks_act htask'
    · obtain hnew | hold := List.mem_cons.1 hv
      · obtain ⟨c, hc, hlook⟩ := he.look_of_shows (hnew ▸ Exchange.Shows.read id v)
        exact ⟨V.id_of_look hafter.sound hlook, hheld c id v hlook, c,
          hp.linked?_act htask hrest hc, hafter.tidy c id v hlook⟩
      · have hstill := hkept htask hold
        exact hstill
    · exact hkept hold hv
  · intro n task' t before id v htask' hpast hv
    obtain ⟨rfl, rfl⟩ | ⟨-, hold⟩ := tasks_act htask'
    · obtain ⟨hnew, rfl⟩ := List.cons.inj hpast
      obtain ⟨rfl, -⟩ := hnow hnew
      exact (h.seen n task id v htask hv).2.1
    · exact h.decided n task' t before id v hold hpast hv

theorem Dated.run (hp : p.Sane V) (h : p.Dated V) (turns : List Turn) :
    (p.run turns).Dated V := by
  refine (Sane.run_induction (fun _ k engine errand _ h _ => h.enter k engine errand)
    (fun _ _ _ _ _ hp h htask hrest _ => h.act hp htask hrest) (fun p ms _ h => ?_) hp h turns).2
  have hlater : p.world.clock ≤ (p.world.later ms).clock := p.world.clock.le_shift ms
  refine ⟨fun c id r hr => Instant.le_trans (h.held c id r hr) hlater,
    fun k task t htask ht => Instant.le_trans (h.reading k task t htask ht) hlater,
    fun k task id v htask hv => ?_, h.decided⟩
  obtain ⟨hid, hmodified, hpinned⟩ := h.seen k task id v htask hv
  exact ⟨hid, Instant.le_trans hmodified hlater, hpinned⟩

theorem dated_fresh {w : World σ} (hlook : ∀ c id, V.look w.store c id = none)
    (connector : Connector σ) (configs : Nat → Once Config) :
    (fresh connector configs w).Dated V where
  held c id r hr := absurd ((hlook c id).symm.trans hr) (by simp)
  reading _ _ _ htask := nomatch htask
  seen _ _ _ _ htask := nomatch htask
  decided _ _ _ _ _ _ htask := nomatch htask

/-! ## Leases -/

/-- A write back replaces the version that its task has read, at a reading
that is not before that version. -/
theorem Dated.wrote_back (hp : p.Sane V) (h : p.Dated V) {k : Nat} {task : Task} {a : Action}
    {next : a.Reply → Call Answer} (htask : p.tasks k = some task)
    (hrest : task.rest = .act a next) {c : CollectionRef} {r : Record} {id : String}
    (hstores : (p.event k task a).Stores V c r) (hid : task.errand.rewrites? = some id) :
    ∃ t v, (p.event k task a).reading? = some t ∧ r.id = id ∧
      V.look p.world.store c id = some v ∧ v.modifiedAt ≤ t ∧ task.errand.Changes t v r := by
  obtain ⟨hstored, c₁, hc₁, hshelf⟩ := hstores
  obtain ⟨t, before, hpast, -, hback⟩ := (hp.event htask hrest).wrote hstored
  obtain ⟨v, c₂, hread, hv, hchanges, hc₂, hmeets⟩ := hback id hid
  obtain rfl : c₁ = c₂ := Option.some.inj (hc₁.symm.trans hc₂)
  have hpast' : task.past = ⟨.now, t⟩ :: before := hpast
  obtain ⟨hvid, -, c₃, -, hpinned⟩ :=
    h.seen k task id v htask (hpast' ▸ List.mem_cons_of_mem _ hread)
  obtain ⟨hlook, -, -⟩ := hpinned.eq_of_meets hmeets
  refine ⟨t, v, ?_, hv.trans hvid, ?_, h.decided k task t before id v htask hpast' hread, hchanges⟩
  · rw [Event.reading?, hpast]
  · rw [← hvid, ← hv, V.look_of_shelf hshelf.symm]
    exact hlook

/-- Since a lock was taken, and as long as its owner and those who do not
write back leave the record alone, the record guards that lock. -/
def Leased (V : View σ) (p : Pool σ) : Prop :=
  ∀ pre held mid c id owner seconds t, p.trace = pre ++ held :: mid →
    held.TakesLock V c id owner seconds t → (∀ e ∈ mid, e.LeavesLock V c id owner) →
    ∀ r, V.look p.world.store c id = some r → r.Guards owner (t.after seconds)

theorem Leased.act (hp : p.Sane V) (hdated : p.Dated V) (h : p.Leased V) {k : Nat} {task : Task}
    {a : Action} {next : a.Reply → Call Answer} (htask : p.tasks k = some task)
    (hrest : task.rest = .act a next) : (p.act k task a next).Leased V := by
  intro pre held mid c id owner seconds t htrace hheld hleaves r hr
  have he := hp.event htask hrest
  obtain ⟨rfl, -, rfl⟩ | ⟨mid', rfl, htrace'⟩ := concat_eq_append_cons htrace
  · -- the lock was taken just now
    obtain ⟨r', hstores, hid⟩ := hheld.stores
    obtain ⟨t', v, hreading, -, -, -, hchanges⟩ := hdated.wrote_back hp htask hrest hstores
      (Errand.rewrites?_of_lock? hheld.lock)
    obtain rfl : t = t' := Option.some.inj (hheld.reading.symm.trans hreading)
    obtain ⟨-, howner, hdeadline⟩ := hchanges.takes id owner seconds hheld.lock
    obtain ⟨r'', hstores'', -, hlook⟩ | ⟨hnot, -⟩ := he.cell c id
    · obtain rfl : r'' = r := Option.some.inj (hlook.symm.trans hr)
      obtain rfl : r'' = r' := Option.some.inj (hstores''.1.symm.trans hstores.1)
      exact .inl ⟨howner, hdeadline⟩
    · exact absurd hid (hnot r' hstores)
  · have hguards := h pre held mid' c id owner seconds t htrace' hheld
      fun e hmem => hleaves e (List.mem_append_left _ hmem)
    obtain ⟨r', hstores, hid, hlook⟩ | ⟨-, hsame | hnone⟩ := he.cell c id
    · obtain rfl : r' = r := Option.some.inj (hlook.symm.trans hr)
      obtain ⟨hback, hother⟩ := hleaves _ (by simp) r' hstores hid
      obtain ⟨t', v, -, -, hcurrent, hseen, hchanges⟩ :=
        hdated.wrote_back hp htask hrest hstores hback
      exact hchanges.guards (hguards v hcurrent) hseen hother
    · exact hguards r (hsame.symm.trans hr)
    · exact absurd (hnone.symm.trans hr) (by simp)

theorem Leased.run (hp : p.Sane V) (hdated : p.Dated V) (h : p.Leased V) (turns : List Turn) :
    (p.run turns).Leased V := by
  have hboth : (p.run turns).Dated V ∧ (p.run turns).Leased V := by
    refine (Sane.run_induction (I := fun p => p.Dated V ∧ p.Leased V) ?_ ?_ ?_ hp
      ⟨hdated, h⟩ turns).2
    · intro p k engine errand _ h _
      exact ⟨h.1.enter k engine errand, h.2⟩
    · intro p k task a next hp h htask hrest _
      exact ⟨h.1.act hp htask hrest, h.2.act hp h.1 htask hrest⟩
    · intro p ms hp h
      exact ⟨h.1.run hp [.wait ms], h.2⟩
  exact hboth.2

theorem leased_fresh (connector : Connector σ) (configs : Nat → Once Config) (w : World σ) :
    (fresh connector configs w).Leased V := by
  intro pre held mid c id owner seconds t htrace
  exact absurd htrace (by simp [fresh])

end Pool

open Pool Fleet in
/-- **A lease keeps other owners out.** Whoever is told that a lock is theirs
has written it. And if one owner has written a lock, then later another has,
while whatever was stored under the id in between was written back by errands
other than locks and unlocks of the first owner, then the second decided by
a reading of the clock that had reached the deadline of the first. -/
theorem lease_outlasts_others (kind : BackendKind) (configs : Nat → Once Config)
    (w : World Fleet) (hvacant : Vacant kind w.store) (turns : List Turn) :
    (∀ k task id owner seconds, ((fresh (shared kind) configs w).run turns).tasks k = some task →
      task.errand = .request (.tryToLock id owner seconds) →
      task.rest = .done (.truth (.ok true)) →
      ∃ e ∈ ((fresh (shared kind) configs w).run turns).trace, e.task = k ∧
        ∃ c t, e.TakesLock (view kind) c id owner seconds t) ∧
    ∀ pre held mid late post c id owner other seconds seconds' t t',
      ((fresh (shared kind) configs w).run turns).trace =
        pre ++ held :: (mid ++ late :: post) →
      held.TakesLock (view kind) c id owner seconds t →
      late.TakesLock (view kind) c id other seconds' t' → owner ≠ other →
      (∀ e ∈ mid, e.LeavesLock (view kind) c id owner) → t.after seconds ≤ t' := by
  have hsane := sane_fresh hvacant configs
  have hdated := dated_fresh (look_of_vacant hvacant) (shared kind) configs
  refine ⟨fun k task id owner seconds htask herrand hdone => ?_, ?_⟩
  · have hchron := (chronicled_fresh (V := view kind) (shared kind) configs w).run hsane turns
    have hearned := (hsane.run turns).conduct k task htask
    rw [hdone, herrand] at hearned
    obtain ⟨r, condition, stored, hmem⟩ := hearned
    rw [hchron.past k task htask, List.mem_reverse, List.mem_map] at hmem
    obtain ⟨e, he, hx⟩ := hmem
    obtain ⟨hmem, hk⟩ := List.mem_filter.1 he
    have hk' : e.task = k := by simpa using hk
    have herrand' : e.errand = .request (.tryToLock id owner seconds) :=
      (hchron.errand e hmem task (hk' ▸ htask)).trans herrand
    have hstored : e.stored? = some stored := by
      rw [Event.stored?, hx]
      rfl
    obtain ⟨c, hc, -⟩ := (hchron.sane e hmem).stored hstored
    -- back to the pool that the event was about to change, where its reading is known
    obtain ⟨pre, post, hsplit⟩ := List.append_of_mem hmem
    obtain ⟨turns', k', task', a, next, -, htask', hrest', rfl⟩ := exists_turn_of_trace rfl hsplit
    have hlock : task'.errand.lock? = some (id, owner, seconds) := congrArg Errand.lock? herrand'
    obtain ⟨t, -, hreading, hid, -⟩ := (hdated.run hsane turns').wrote_back (hsane.run turns')
      htask' hrest' ⟨hstored, c, hc, rfl⟩ (Errand.rewrites?_of_lock? hlock)
    exact ⟨_, hmem, hk', c, t, hlock, hreading, stored, ⟨hstored, c, hc, rfl⟩, hid⟩
  · intro pre held mid late post c id owner other seconds seconds' t t' htrace hheld hlate hne
      hleaves
    rw [← List.cons_append, ← List.append_assoc] at htrace
    obtain ⟨turns', k, task, a, next, hpre, htask, hrest, rfl⟩ := exists_turn_of_trace rfl htrace
    have hp := hsane.run turns'
    -- up to the second lock, whatever is stored still carries the first, or its deadline has passed
    have hguards := ((leased_fresh (shared kind) configs w).run hsane hdated turns')
      pre held mid c id owner seconds t hpre hheld hleaves
    obtain ⟨r, hstores, -⟩ := hlate.stores
    obtain ⟨t'', v, hreading, -, hlook, hseen, hchanges⟩ := (hdated.run hsane turns').wrote_back hp
      htask hrest hstores (Errand.rewrites?_of_lock? hlate.lock)
    obtain rfl : t' = t'' := Option.some.inj (hlate.reading.symm.trans hreading)
    obtain ⟨hfree, -, -⟩ := hchanges.takes id other seconds' hlate.lock
    exact (hguards v hlook).deadline_le hseen hne hfree

/-- What an event tells of a lock: which its errand takes, by which reading,
and the id of what it has stored where. -/
structure Event.Locking where
  lock : Option (String × Owner × Nat)
  reading : Option Instant
  stored : Option String
  collection : Option CollectionRef
  deriving DecidableEq

def Event.locking (e : Event σ) : Event.Locking :=
  ⟨e.errand.lock?, e.reading?, e.stored?.map (·.id), e.collection⟩

theorem Event.takesLock_of_locking {e : Event σ} {c : CollectionRef} {id : String} {owner : Owner}
    {seconds : Nat} {t : Instant}
    (h : e.locking = ⟨some (id, owner, seconds), some t, some id, some c⟩) :
    e.TakesLock V c id owner seconds t := by
  simp only [Event.locking, Event.Locking.mk.injEq] at h
  obtain ⟨hlock, hreading, hstored, hc⟩ := h
  obtain ⟨r, hr, hid⟩ := Option.map_eq_some_iff.1 hstored
  exact ⟨hlock, hreading, r, ⟨hr, c, hc, rfl⟩, hid⟩

theorem Event.leavesLock_of_locking {e : Event σ} {c : CollectionRef} {id : String} {owner : Owner}
    (h : e.locking.stored = none) : e.LeavesLock V c id owner := by
  intro r hstores
  have hnone : e.stored?.map (·.id) = none := h
  rw [hstores.1] at hnone
  cases hnone

/-- One owner locks a new record for a minute. Another, who came before, tries
when the minute is over. -/
def handover : List Turn :=
  .start 0 0 (.request (.create { id := "a" })) :: List.replicate 4 (.step 0) ++
    .start 1 0 (.request (.tryToLock "a" ⟨"x", "node"⟩ 60)) ::
      .start 2 1 (.request (.tryToLock "a" ⟨"y", "node"⟩ 60)) ::
        List.replicate 2 (.step 2) ++ List.replicate 6 (.step 1) ++
          .wait 60000 :: List.replicate 6 (.step 2)

open Pool Fleet in
/-- The lock is handed over at the deadline, and not before. -/
theorem lease_outlasts_others_handover :
    Vacant .memory blank.world.store ∧
      ∃ pre held mid late post, (blank.run handover).trace = pre ++ held :: (mid ++ late :: post) ∧
        held.TakesLock (view .memory) items "a" ⟨"x", "node"⟩ 60 Instant.epoch ∧
        late.TakesLock (view .memory) items "a" ⟨"y", "node"⟩ 60 (Instant.epoch.after 60) ∧
        (∀ e ∈ mid, e.LeavesLock (view .memory) items "a" ⟨"x", "node"⟩) ∧
        Instant.epoch.after 60 ≤ Instant.epoch.after 60 ∧
        ∃ e ∈ pre ++ held :: (mid ++ late :: post), e.task = 2 ∧
          ∃ c t, e.TakesLock (view .memory) c "a" ⟨"y", "node"⟩ 60 t := by
  obtain ⟨htold, hkept⟩ := lease_outlasts_others .memory _ _ vacant_blank handover
  have hlocks : ((blank.run handover).trace.drop 11).map Event.locking =
      ⟨some ("a", ⟨"x", "node"⟩, 60), some Instant.epoch, some "a", some items⟩ ::
        ([⟨some ("a", ⟨"y", "node"⟩, 60), none, none, some items⟩,
          ⟨some ("a", ⟨"y", "node"⟩, 60), none, none, some items⟩,
          ⟨some ("a", ⟨"y", "node"⟩, 60), some (Instant.epoch.after 60), none, some items⟩] ++
        ⟨some ("a", ⟨"y", "node"⟩, 60), some (Instant.epoch.after 60), some "a", some items⟩ ::
          List.replicate 2 ⟨some ("a", ⟨"y", "node"⟩, 60), none, none, some items⟩) := by
    decide +kernel
  have htask : ((blank.run handover).tasks 2).map (fun task => (task.errand, task.rest)) =
      some (.request (.tryToLock "a" ⟨"y", "node"⟩ 60), .done (.truth (.ok true))) := by
    rfl
  obtain ⟨held, rest, hdrop, hheld, hrest⟩ := List.map_eq_cons_iff.1 hlocks
  obtain ⟨mid, rest', rfl, hmid, hrest'⟩ := List.map_eq_append_iff.1 hrest
  obtain ⟨late, post, rfl, hlate, -⟩ := List.map_eq_cons_iff.1 hrest'
  obtain ⟨task, htask', htold'⟩ := Option.map_eq_some_iff.1 htask
  obtain ⟨herrand, hdone⟩ := Prod.mk.inj htold'
  have htrace := List.take_append_drop 11 (blank.run handover).trace
  rw [hdrop] at htrace
  have hlocked := Event.takesLock_of_locking (V := view .memory) hheld
  have htaken := Event.takesLock_of_locking (V := view .memory) hlate
  have hquiet : ∀ l ∈ mid.map Event.locking, l.stored = none := by
    rw [hmid]
    decide
  have hleaves (e : Event Fleet) (he : e ∈ mid) :
      e.LeavesLock (view .memory) items "a" ⟨"x", "node"⟩ :=
    Event.leavesLock_of_locking (hquiet _ (List.mem_map_of_mem he))
  refine ⟨vacant_blank, _, held, mid, late, post, htrace.symm, hlocked, htaken, hleaves, ?_, ?_⟩
  · exact hkept _ held mid late post _ "a" _ _ 60 60 _ _ htrace.symm hlocked htaken (by decide)
      hleaves
  · rw [htrace]
    exact htold 2 task "a" _ 60 htask' herrand hdone

end LeaseStore
