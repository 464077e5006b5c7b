/-
LeaseStore.Proofs.Runs.Decisions — who is given the lock of a record.

Where nothing fails, one rule answers those who want to take a lock and those
who want to give it up (`lockVerdict`): there has to be a record that has not
expired, and nobody else may hold its lock. The rule is not about who asked
last, or from which engine, but about the record as it stands at the reading of
the clock.

* `lock_decisions_are_exact` — the answers, and what becomes of the store.
* `lock_granted_is_held_iff_lasting` — whoever is told that a lock is theirs
  holds it, and keeps all others out, if it was to last for a second at least.
  A lock for no time at all is granted, and then it is nobody's.
-/
import LeaseStore.Proofs.Isolation.Scope
import LeaseStore.Proofs.Runs.Metering

namespace LeaseStore

variable {σ : Type} {V : View σ} {c : CollectionRef}

/-! ## Deadlines and locks -/

/-- A deadline is in the future, unless it is at once or time has ended. -/
theorem Instant.lt_after_iff {t : Instant} {seconds : Nat} :
    t < t.after seconds ↔ 0 < seconds ∧ t.ms < 9223372036854775807 := by
  have hrange := t.inRange
  rw [Instant.lt_def, Instant.after, Instant.shift, Instant.ms_clamp]
  omega

namespace Record

variable {r : Record} {o owner : Owner} {t : Instant}

theorem isLockedByOthersAt_of_not_locked (h : r.isLockedAt t = false) :
    r.isLockedByOthersAt o t = false := by
  rw [isLockedByOthersAt, h, Bool.false_and]

theorem isLockedByOthersAt_of_held (h : r.isLockedByAt o t = true) :
    r.isLockedByOthersAt o t = false := by
  simp only [isLockedByAt, Bool.and_eq_true] at h
  rw [isLockedByOthersAt, h.2, Bool.not_true, Bool.and_false]

/-- The owner holds a lock that ends in the future. -/
theorem isLockedByAt_iff_of_owner (h : r.lockOwner = owner) :
    r.isLockedByAt owner t = true ↔ t < r.lockExpiresAt := by
  rw [isLockedByAt, Bool.and_eq_true, isLockedAt_iff, isOwnedBy_iff]
  exact and_iff_left h

/-- All others are kept out by it. -/
theorem isLockedByOthersAt_iff_of_owner (h : r.lockOwner = owner) (hne : o ≠ owner) :
    r.isLockedByOthersAt o t = true ↔ t < r.lockExpiresAt := by
  have hnot : r.isOwnedBy o = false := by
    rw [isOwnedBy, h]
    exact decide_eq_false hne.symm
  rw [isLockedByOthersAt, hnot, Bool.not_false, Bool.and_true, isLockedAt_iff]

end Record

/-- The answer to an owner who wants to take the lock of a record, or to give it
up: there has to be a record, and nobody else may hold its lock. -/
def lockVerdict (id : String) (owner : Owner) (t : Instant) : Option Record → Except StoreError Bool
  | none => .error (.notFound id)
  | some r => .ok (!r.isLockedByOthersAt owner t)

/-- All is as it was, but that the record under this id may be gone if it had
expired. -/
def View.Buries (V : View σ) (t : Instant) (c : CollectionRef) (id : String) (s s' : σ) : Prop :=
  ∀ c' id', V.look s' c' id' = V.look s c' id' ∨
    (V.shelf c' = V.shelf c ∧ id' = id) ∧ V.look s' c' id' = none ∧ V.Dead t s c' id'

theorem View.Clears.buries {s s' : σ} {t : Instant} {id : String} (h : V.Clears t s s')
    (hothers : ∀ c' id', ¬ (V.shelf c' = V.shelf c ∧ id' = id) →
      V.look s' c' id' = V.look s c' id') : V.Buries t c id s s' := by
  intro c' id'
  by_cases hat : V.shelf c' = V.shelf c ∧ id' = id
  · obtain hsame | ⟨hnone, r, hr, hexp⟩ := h c' id'
    · exact .inl hsame
    · exact .inr ⟨hat, hnone, View.dead_of_some hr hexp⟩
  · exact .inl (hothers c' id' hat)

namespace Session

variable {s s' : Session σ} {id : String} {owner : Owner} {seconds : Nat} {fine : Prop}
  {reply : Except StoreError Bool}

/-! ## Verdicts -/

/-- Where nothing fails an attempt to lock is answered by the rule. -/
theorem Takes.verdict (h : Takes V c id owner seconds fine s s' reply) (hfine : fine) :
    reply = lockVerdict id owner s.world.clock
      (V.live s.world.clock s.world.store c id) := by
  cases h with
  | taken hlook hexp hfree _ =>
    rw [View.live_eq_some_iff.2 ⟨hlook, hexp⟩, lockVerdict, hfree]
    rfl
  | contended hlook hexp hothers _ =>
    rw [View.live_eq_some_iff.2 ⟨hlook, hexp⟩, lockVerdict, hothers]
    rfl
  | missing hdead _ =>
    rw [View.live_eq_none_iff.2 hdead]
    rfl
  | failed hnot => exact absurd hfine hnot

/-- So is an attempt to unlock. -/
theorem Frees.verdict (h : Frees V c id owner fine s s' reply) (hfine : fine) :
    reply = lockVerdict id owner s.world.clock
      (V.live s.world.clock s.world.store c id) := by
  cases h with
  | released hlook hexp hheld _ =>
    rw [View.live_eq_some_iff.2 ⟨hlook, hexp⟩, lockVerdict,
      Record.isLockedByOthersAt_of_held hheld]
    rfl
  | idle hlook hexp hidle _ =>
    rw [View.live_eq_some_iff.2 ⟨hlook, hexp⟩, lockVerdict,
      Record.isLockedByOthersAt_of_not_locked hidle]
    rfl
  | kept hlook hexp hothers _ =>
    rw [View.live_eq_some_iff.2 ⟨hlook, hexp⟩, lockVerdict, hothers]
    rfl
  | missing hdead _ =>
    rw [View.live_eq_none_iff.2 hdead]
    rfl
  | failed hnot => exact absurd hfine hnot

/-! ## Effects -/

/-- Whoever gets the lock has written it into the record, and nothing else. -/
theorem Takes.stored (h : Takes V c id owner seconds fine s s' (.ok true)) :
    ∃ r token, V.live s.world.clock s.world.store c id = some r ∧
      V.Stored s.world.store s'.world.store c
        { r with lockOwner := owner, lockExpiresAt := s.world.clock.after seconds,
                 modifiedAt := s.world.clock, token } := by
  cases h with
  | @taken r token hlook hexp _ hstored =>
    exact ⟨r, token, View.live_eq_some_iff.2 ⟨hlook, hexp⟩, hstored⟩
  | failed _ hreply => exact absurd rfl hreply

/-- Whoever gives up a lock that they hold has cleared it, and nothing else. -/
theorem Frees.stored (h : Frees V c id owner fine s s' (.ok true)) {r : Record}
    (hlive : V.live s.world.clock s.world.store c id = some r)
    (hlocked : r.isLockedAt s.world.clock = true) :
    ∃ token, V.Stored s.world.store s'.world.store c
      { r with lockOwner := Owner.nobody, lockExpiresAt := Instant.epoch,
               modifiedAt := s.world.clock, token } := by
  obtain ⟨hlook', -⟩ := View.live_eq_some_iff.1 hlive
  cases h with
  | @released r' token hlook _ _ hstored =>
    obtain rfl := Option.some.inj (hlook.symm.trans hlook')
    exact ⟨token, hstored⟩
  | idle hlook _ hidle _ =>
    obtain rfl := Option.some.inj (hlook.symm.trans hlook')
    rw [hidle] at hlocked
    cases hlocked
  | failed _ hreply => exact absurd rfl hreply

/-- A lock that nobody holds is given up without a write. -/
theorem Frees.same (h : Frees V c id owner fine s s' (.ok true)) {r : Record}
    (hlive : V.live s.world.clock s.world.store c id = some r)
    (hidle : r.isLockedAt s.world.clock = false) : V.Same s.world.store s'.world.store := by
  obtain ⟨hlook', -⟩ := View.live_eq_some_iff.1 hlive
  cases h with
  | released hlook _ hheld _ =>
    obtain rfl := Option.some.inj (hlook.symm.trans hlook')
    simp [Record.isLockedByAt, hidle] at hheld
  | idle _ _ _ hsame => exact hsame
  | failed _ hreply => exact absurd rfl hreply

/-- Whoever does not get the lock has changed nothing that is alive. -/
theorem Takes.buries (h : Takes V c id owner seconds fine s s' reply) (hreply : reply ≠ .ok true)
    (hothers : ∀ c' id', ¬ (V.shelf c' = V.shelf c ∧ id' = id) →
      V.look s'.world.store c' id' = V.look s.world.store c' id') :
    V.Buries s.world.clock c id s.world.store s'.world.store := by
  cases h with
  | taken => exact absurd rfl hreply
  | contended _ _ _ hsame => exact (hsame.clears _).buries hothers
  | missing _ hclears => exact hclears.buries hothers
  | failed _ _ hsame => exact (hsame.clears _).buries hothers

/-- Neither has whoever does not get rid of it. -/
theorem Frees.buries (h : Frees V c id owner fine s s' reply) (hreply : reply ≠ .ok true)
    (hothers : ∀ c' id', ¬ (V.shelf c' = V.shelf c ∧ id' = id) →
      V.look s'.world.store c' id' = V.look s.world.store c' id') :
    V.Buries s.world.clock c id s.world.store s'.world.store := by
  cases h with
  | released => exact absurd rfl hreply
  | idle => exact absurd rfl hreply
  | kept _ _ _ hsame => exact (hsame.clears _).buries hothers
  | missing _ hclears => exact hclears.buries hothers
  | failed _ _ hsame => exact (hsame.clears _).buries hothers

end Session

/-! ## Where nothing fails -/

namespace Session

variable {s : Session σ} {id : String} {owner : Owner}

/-- An attempt to lock that is answered by the rule, and does what it says. -/
structure Locks (V : View σ) (c : CollectionRef) (id : String) (owner : Owner) (seconds : Nat)
    (s s' : Session σ) (reply : Except StoreError Bool) : Prop where
  verdict : reply = lockVerdict id owner s.world.clock (V.live s.world.clock s.world.store c id)
  clock : s'.world.clock = s.world.clock
  taken : reply = .ok true → ∃ r token, V.live s.world.clock s.world.store c id = some r ∧
    V.Stored s.world.store s'.world.store c
      { r with lockOwner := owner, lockExpiresAt := s.world.clock.after seconds,
               modifiedAt := s.world.clock, token }
  refused : reply ≠ .ok true → V.Buries s.world.clock c id s.world.store s'.world.store

/-- An attempt to unlock that is answered by the rule, and does what it says. -/
structure Unlocks (V : View σ) (c : CollectionRef) (id : String) (owner : Owner)
    (s s' : Session σ) (path : List Exchange) (reply : Except StoreError Bool) : Prop where
  verdict : reply = lockVerdict id owner s.world.clock (V.live s.world.clock s.world.store c id)
  clock : s'.world.clock = s.world.clock
  released {r : Record} : reply = .ok true → V.live s.world.clock s.world.store c id = some r →
    r.isLockedAt s.world.clock = true →
    ∃ token, V.Stored s.world.store s'.world.store c
      { r with lockOwner := Owner.nobody, lockExpiresAt := Instant.epoch,
               modifiedAt := s.world.clock, token }
  /-- What is nobody's is given up without a write. -/
  idle {r : Record} : V.live s.world.clock s.world.store c id = some r →
    r.isLockedAt s.world.clock = false →
    V.Same s.world.store s'.world.store ∧ ∀ x ∈ path, ¬ x.action.Stores
  refused : reply ≠ .ok true → V.Buries s.world.clock c id s.world.store s'.world.store

/-- An attempt to unlock leaves a lock that is over as it is: it asks the store
for no write. -/
theorem Fit.path_tryToUnlock (h : s.Fit V c) (hready : s.Ready V) {r : Record}
    (hlive : V.live s.world.clock s.world.store c id = some r)
    (hidle : r.isLockedAt s.world.clock = false) :
    ∀ x ∈ (Operation.tryToUnlock id owner).path s, ¬ x.action.Stores := by
  obtain ⟨hlook, hexp⟩ := View.live_eq_some_iff.1 hlive
  obtain ⟨found, s₁, hread, hproceeds, hfinds⟩ := Operation.run_readForLock h id
  rw [Operation.tryToUnlock_eq, Call.path_bind, hread]
  intro x hx
  obtain hlooking | hdoing := List.mem_append.1 hx
  · obtain ⟨past, hreading⟩ := (Operation.along_readForLock id []).path s x hlooking
    intro hstores
    obtain ⟨a, reply⟩ := x
    cases a with
    | create | upsert => exact hreading
    | _ => exact hstores
  · cases hfinds with
    | missing hdead _ =>
      rw [hdead r hlook] at hexp
      cases hexp
    | failed hnot => exact absurd hready hnot
    | lost hnot => exact absurd hready hnot
    | @found l r' hlook' =>
      obtain rfl := Option.some.inj (hlook.symm.trans hlook')
      have hpath : (Operation.letGo r owner).path s₁ = ⟨.now, s₁.world.clock⟩ ::
          Call.path (if !r.isLockedAt s₁.world.clock then
              Call.perform (.count .unlock) >>= fun _ => Call.done (.ok true)
            else Operation.release r owner s₁.world.clock) s₁ := rfl
      rw [hpath, hproceeds.clock, hidle] at hdoing
      obtain rfl | rfl : x = ⟨.now, s.world.clock⟩ ∨ x = ⟨.count .unlock, ()⟩ := by
        simpa [Call.path, Call.perform] using hdoing
      · exact fun h => h
      · exact fun h => h

theorem Fit.locks (h : s.Fit V c) (hready : s.Ready V) (id : String) (owner : Owner)
    (seconds : Nat) :
    ∃ reply, ((Request.tryToLock id owner seconds).call.run s).1 = .truth reply ∧
      Locks V c id owner seconds s ((Request.tryToLock id owner seconds).call.run s).2 reply := by
  have hspares {c' : CollectionRef} {id' : String}
      (hnot : ¬ (V.shelf c' = V.shelf c ∧ id' = id)) : Spares V c c' id' s
        ((Request.tryToLock id owner seconds).call.run s).2 :=
    Request.spares (q := .tryToLock id owner seconds) nofun h fun hshelf hid => hnot ⟨hshelf, hid⟩
  obtain ⟨reply, s', heq, hproceeds, htakes⟩ := Operation.run_tryToLock h id owner seconds
  have hrun : (Request.tryToLock id owner seconds).call.run s = (.truth reply, s') :=
    run_answer heq
  rw [hrun] at hspares ⊢
  refine ⟨reply, rfl, htakes.verdict hready, hproceeds.clock, ?_, ?_⟩
  · rintro rfl
    exact htakes.stored
  · exact fun hreply => htakes.buries hreply fun c' id' hnot => (hspares hnot).look

theorem Fit.unlocks (h : s.Fit V c) (hready : s.Ready V) (id : String) (owner : Owner) :
    ∃ reply, ((Request.tryToUnlock id owner).call.run s).1 = .truth reply ∧
      Unlocks V c id owner s ((Request.tryToUnlock id owner).call.run s).2
        ((Request.tryToUnlock id owner).call.path s) reply := by
  have hspares {c' : CollectionRef} {id' : String}
      (hnot : ¬ (V.shelf c' = V.shelf c ∧ id' = id)) : Spares V c c' id' s
        ((Request.tryToUnlock id owner).call.run s).2 :=
    Request.spares (q := .tryToUnlock id owner) nofun h fun hshelf hid => hnot ⟨hshelf, hid⟩
  obtain ⟨reply, s', heq, hproceeds, hfrees⟩ := Operation.run_tryToUnlock h id owner
  have hrun : (Request.tryToUnlock id owner).call.run s = (.truth reply, s') := run_answer heq
  have hpath : (Request.tryToUnlock id owner).call.path s =
      (Operation.tryToUnlock id owner).path s := Call.path_bind_done ..
  have hverdict := hfrees.verdict hready
  rw [hrun] at hspares ⊢
  rw [hpath]
  refine ⟨reply, rfl, hverdict, hproceeds.clock, ?_, ?_, ?_⟩
  · rintro r rfl hlive hlocked
    exact hfrees.stored hlive hlocked
  · intro r hlive hidle
    have hreply : reply = .ok true := by
      rw [hverdict, hlive, lockVerdict, Record.isLockedByOthersAt_of_not_locked hidle]
      rfl
    subst hreply
    exact ⟨hfrees.same hlive hidle, h.path_tryToUnlock hready hlive hidle⟩
  · exact fun hreply => hfrees.buries hreply fun c' id' hnot => (hspares hnot).look

/-- Once a lock has been given up, what is stored is nobody's. -/
theorem Unlocks.free {s' : Session σ} {path : List Exchange} (hsound : V.Sound s.world.store)
    (h : Unlocks V c id owner s s' path (.ok true)) (hepoch : Instant.epoch ≤ s.world.clock) :
    ∃ r, V.live s.world.clock s'.world.store c id = some r ∧
      r.isLockedAt s.world.clock = false := by
  have hverdict := h.verdict
  cases hlive : V.live s.world.clock s.world.store c id with
  | none =>
    rw [hlive] at hverdict
    cases hverdict
  | some r =>
    obtain ⟨hlook, hexp⟩ := View.live_eq_some_iff.1 hlive
    cases hlocked : r.isLockedAt s.world.clock with
    | false =>
      obtain ⟨hsame, -⟩ := h.idle hlive hlocked
      exact ⟨r, ((hsame.clears _).live c id).trans hlive, hlocked⟩
    | true =>
      obtain ⟨token, hstored⟩ := h.released rfl hlive hlocked
      have hid : id = r.id := (V.id_of_look hsound hlook).symm
      refine ⟨_, View.live_eq_some_iff.2 ⟨(hstored.look c id).trans (if_pos ⟨rfl, hid⟩), hexp⟩, ?_⟩
      have hover : ¬ s.world.clock < Instant.epoch := Int.not_lt.2 hepoch
      rw [← Bool.not_eq_true, Record.isLockedAt_iff]
      exact hover

/-- What whoever gets the lock has put down: it is held, and kept from all
others, if it lasts. -/
theorem Takes.held {s' : Session σ} {seconds : Nat} {fine : Prop} (hsound : V.Sound s.world.store)
    (hbefore : s.world.clock.ms < 9223372036854775807)
    (h : Takes V c id owner seconds fine s s' (.ok true)) :
    ∃ r, V.live s.world.clock s'.world.store c id = some r ∧
      (r.isLockedByAt owner s.world.clock = true ↔ 0 < seconds) ∧
      ∀ other, other ≠ owner →
        (r.isLockedByOthersAt other s.world.clock = true ↔ 0 < seconds) := by
  obtain ⟨r, token, hlive, hstored⟩ := h.stored
  obtain ⟨hlook, hexp⟩ := View.live_eq_some_iff.1 hlive
  have hid : id = r.id := (V.id_of_look hsound hlook).symm
  have hlasts : s.world.clock < s.world.clock.after seconds ↔ 0 < seconds :=
    Instant.lt_after_iff.trans (and_iff_left hbefore)
  refine ⟨_, View.live_eq_some_iff.2 ⟨(hstored.look c id).trans (if_pos ⟨rfl, hid⟩), hexp⟩, ?_, ?_⟩
  · exact (Record.isLockedByAt_iff_of_owner rfl).trans hlasts
  · exact fun other hne => (Record.isLockedByOthersAt_iff_of_owner rfl hne).trans hlasts

/-- Nobody takes a lock that another owner holds, whatever fails; and they are
told so where nothing does. -/
theorem Fit.tryToLock_of_live (h : s.Fit V c) {r : Record}
    (hlive : V.live s.world.clock s.world.store c id = some r) (owner : Owner) (seconds : Nat) :
    let answer := ((Request.tryToLock id owner seconds).call.run s).1
    (r.isLockedByOthersAt owner s.world.clock = true → answer ≠ .truth (.ok true)) ∧
      (s.Ready V → (answer = .truth (.ok false) ↔
        r.isLockedByOthersAt owner s.world.clock = true)) := by
  intro answer
  refine ⟨fun hothers hanswer => ?_, fun hready => ?_⟩
  · obtain ⟨reply, s', heq, -, htakes⟩ := Operation.run_tryToLock h id owner seconds
    have hrun : (Request.tryToLock id owner seconds).call.run s = (.truth reply, s') :=
      run_answer heq
    obtain rfl : reply = .ok true := by
      rw [show answer = .truth reply from congrArg Prod.fst hrun] at hanswer
      cases hanswer
      rfl
    cases htakes with
    | taken hlook _ hfree =>
      obtain rfl := Option.some.inj (hlook.symm.trans (View.live_eq_some_iff.1 hlive).1)
      rw [hfree] at hothers
      cases hothers
    | failed _ hreply => exact hreply rfl
  · obtain ⟨reply, hreply, hlocks⟩ := h.locks hready id owner seconds
    have hverdict := hlocks.verdict
    rw [hlive, lockVerdict] at hverdict
    rw [show answer = .truth reply from hreply, hverdict]
    simp

end Session

/-! ## Engines on a shared backend -/

namespace Session

/-- A fit session in which nothing fails: no failure is planned, and its
connector opens a backend, whatever the store. -/
structure Sure (V : View σ) (c : CollectionRef) (s : Session σ) : Prop where
  fit : s.Fit V c
  calm : V.Calm s.world.store
  opens : ∃ config, s.engine.config = .ready config ∧
    ∀ st, ∃ b, (s.engine.connector config st).1 = .ok b

theorem Sure.ready {s : Session σ} (h : s.Sure V c) : s.Ready V := by
  obtain ⟨config, hconfig, hopens⟩ := h.opens
  exact ⟨h.calm, config, hconfig, hopens _⟩

end Session

namespace Pool

open Fleet

/-- The engines have begun on a shared backend of this kind that meets outages,
with these configurations, and are fit for whatever comes. -/
structure Shares (kind : BackendKind) (configs : Nat → Once Config)
    (p : Pool (Fleet × Outages)) : Prop where
  able : p.Able (view kind).exposed
  config : ∀ k, (p.engines k).config = configs k
  connector : ∀ k, (p.engines k).connector = (shared kind).exposed
  opened : ∀ k, (p.engines k).Opened

namespace Shares

variable {kind : BackendKind} {configs : Nat → Once Config} {p : Pool (Fleet × Outages)}

theorem fresh {w : World (Fleet × Outages)} (h : Vacant kind w.store.1) :
    (Pool.fresh (shared kind).exposed configs w).Shares kind configs :=
  ⟨able_fresh h configs, fun _ => rfl, fun _ => rfl, fun _ _ hl => nomatch hl⟩

theorem through (h : p.Shares kind configs) (incidents : List Incident) :
    (p.through incidents).Shares kind configs where
  able := h.able.through incidents
  config k := (keeps_through h.opened incidents k).1.config.trans (h.config k)
  connector k := (keeps_through h.opened incidents k).1.connector.trans (h.connector k)
  opened k := (keeps_through h.opened incidents k).2

theorem after (h : p.Shares kind configs) (k : Nat) (q : Request) :
    (p.after k q).Shares kind configs where
  able := h.able.after k q
  config n := (keeps_after h.opened k q n).1.config.trans (h.config n)
  connector n := (keeps_after h.opened k q n).1.connector.trans (h.connector n)
  opened n := (keeps_after h.opened k q n).2

variable {k : Nat} {config : Config}

theorem fit (h : p.Shares kind configs) (hconfig : configs k = .ready config) :
    (p.on k).Fit (view kind).exposed config.collectionRef := by
  refine h.able.hosts k _ fun config' h' => ?_
  rw [h.config k, hconfig] at h'
  cases h'
  rfl

theorem sure (h : p.Shares kind configs) (hconfig : configs k = .ready config)
    (hreaches : Reaches kind config) (hcalm : (view kind).exposed.Calm p.world.store) :
    (p.on k).Sure (view kind).exposed config.collectionRef where
  fit := h.fit hconfig
  calm := hcalm
  opens := by
    refine ⟨config, (h.config k).trans hconfig, fun st => ?_⟩
    obtain ⟨b, hb⟩ := shared_ok hreaches st.1
    rw [show (p.on k).engine.connector = _ from h.connector k]
    exact ⟨b.exposed, congrArg (Except.map Backend.exposed) hb⟩

theorem ready (h : p.Shares kind configs) (hconfig : configs k = .ready config)
    (hreaches : Reaches kind config) (hcalm : (view kind).exposed.Calm p.world.store) :
    (p.on k).Ready (view kind).exposed := (h.sure hconfig hreaches hcalm).ready

/-- A request plans no failure. -/
theorem calm_after (h : p.Shares kind configs) (hconfig : configs k = .ready config)
    (hcalm : (view kind).exposed.Calm p.world.store) (q : Request) :
    (view kind).exposed.Calm (p.after k q).world.store :=
  ((Errand.request q).lasts (h.fit hconfig)).passes.calm hcalm

end Shares

end Pool

open Pool Fleet Session in
/-- **Who gets a lock, and who gets rid of it.** Engines share a backend of any
kind, to which nothing had been put before they began. Whatever they have come
to, while no failure is planned but of deletes, an attempt of one of them to lock
a record or to unlock it is answered by the same rule (`lockVerdict`). It does to
the store what the answer says, and otherwise nothing but that an expired record
under the id may go.

Right after a lock has been given up, whoever asks for it gets it. -/
theorem lock_decisions_are_exact (kind : BackendKind) (configs : Nat → Once Config)
    (w : World (Fleet × Outages)) (hvacant : Vacant kind w.store.1) (incidents : List Incident)
    {k : Nat} {config : Config} (hconfig : configs k = .ready config)
    (hreaches : Reaches kind config) (id : String) (owner : Owner) :
    let V := (view kind).exposed
    let c := config.collectionRef
    let p := (fresh (shared kind).exposed configs w).through incidents
    V.Calm p.world.store →
      (∀ seconds,
        let run := (Request.tryToLock id owner seconds).call.run (p.on k)
        ∃ reply, run.1 = .truth reply ∧ Locks V c id owner seconds (p.on k) run.2 reply) ∧
      let q := Request.tryToUnlock id owner
      let run := q.call.run (p.on k)
      ∃ reply, run.1 = .truth reply ∧
        Unlocks V c id owner (p.on k) run.2 (q.call.path (p.on k)) reply ∧
        (reply = .ok true → Instant.epoch ≤ p.world.clock →
          ∀ n config', configs n = .ready config' → Reaches kind config' →
            V.shelf config'.collectionRef = V.shelf c → ∀ other seconds,
              ((Request.tryToLock id other seconds).call.run ((p.after k q).on n)).1 =
                .truth (.ok true)) := by
  intro V c p hcalm
  have hshares : p.Shares kind configs := (Shares.fresh hvacant).through incidents
  have hfit := hshares.fit hconfig
  have hready := hshares.ready hconfig hreaches hcalm
  refine ⟨hfit.locks hready id owner, ?_⟩
  intro q run
  obtain ⟨reply, hreply, hunlocks⟩ := hfit.unlocks hready id owner
  refine ⟨reply, hreply, hunlocks, ?_⟩
  rintro rfl hepoch n config' hconfig' hreaches' hshelf other seconds
  -- after the unlock the record is there and not locked, which all who share the store find
  obtain ⟨r, hlive, hidle⟩ := hunlocks.free hfit.sound hepoch
  have hshares' : (p.after k q).Shares kind configs := hshares.after k q
  obtain ⟨reply', hreply', hlocks⟩ := (hshares'.fit hconfig').locks
    (hshares'.ready hconfig' hreaches' (hshares.calm_after hconfig hcalm q)) id other seconds
  have hclock : ((p.after k q).on n).world.clock = (p.on k).world.clock := hunlocks.clock
  have hlive' : V.live ((p.after k q).on n).world.clock ((p.after k q).on n).world.store
      config'.collectionRef id = some r := by
    rw [hclock, View.live, V.look_of_shelf hshelf]
    exact hlive
  have hverdict := hlocks.verdict
  rw [hlive', lockVerdict, hclock, Record.isLockedByOthersAt_of_not_locked hidle] at hverdict
  rw [hreply', hverdict]
  rfl

/-- What the caller is answered as to whether something is so. -/
def Answer.truth? : Answer → Option Bool
  | .truth (.ok b) => some b
  | _ => none

theorem Answer.eq_of_truth? {a : Answer} {b : Bool} (h : a.truth? = some b) :
    a = .truth (.ok b) := by
  unfold Answer.truth? at h
  split at h
  case h_1 => rw [Option.some.inj h]
  case h_2 => cases h

/-- New engines on an empty memory that meets no outages. -/
abbrev Pool.sheltered : Pool (Fleet × Outages) :=
  .fresh (Fleet.shared .memory).exposed (fun _ => .ready (Fixture.memoryConfig "items"))
    ⟨Instant.epoch, [], ({}, Outages.none)⟩

/-- No outage is before engines on an empty memory that meets none. -/
theorem Pool.calm_unthreatened (configs : Nat → Once Config) (draws : List Nat)
    (incidents : List Incident) :
    (Fleet.view .memory).exposed.Calm ((fresh (Fleet.shared .memory).exposed configs
      ⟨Instant.epoch, draws, ({}, Outages.none)⟩).through incidents).world.store :=
  have hshares : (fresh (Fleet.shared .memory).exposed configs
      ⟨Instant.epoch, draws, ({}, Outages.none)⟩).Shares .memory configs := .fresh rfl
  (hshares.able.passes_through incidents).calm
    ⟨Fleet.calm_of_empty FaultPlan.empty_default, fun _ _ _ => rfl⟩

theorem Pool.calm_sheltered (incidents : List Incident) :
    (Fleet.view .memory).exposed.Calm (sheltered.through incidents).world.store :=
  calm_unthreatened _ _ incidents

/-- A record is created, five seconds after the epoch. -/
def stocking : List Incident :=
  .clock (Instant.epoch.after 5) :: .turn (.start 0 0 (.request (.create { id := "a" }))) ::
    List.replicate 4 (.turn (.step 0))

/-- And another engine takes its lock. -/
def leasing : List Incident :=
  stocking ++ .turn (.start 1 1 (.request (.tryToLock "a" ⟨"x", "node"⟩ 60))) ::
    List.replicate 8 (.turn (.step 1))

open Pool Fleet Session in
/-- Another owner is refused, until the lock has been given up. -/
theorem lock_decisions_are_exact_leasing :
    let p := sheltered.through leasing
    let q := Request.tryToUnlock "a" ⟨"x", "node"⟩
    Vacant .memory sheltered.world.store.1 ∧ (view .memory).exposed.Calm p.world.store ∧
      Instant.epoch ≤ p.world.clock ∧
      ((Request.tryToLock "a" ⟨"y", "node"⟩ 60).call.run (p.on 0)).1 = .truth (.ok false) ∧
      (q.call.run (p.on 1)).1 = .truth (.ok true) ∧
      ((Request.tryToLock "a" ⟨"y", "node"⟩ 60).call.run ((p.after 1 q).on 0)).1 =
        .truth (.ok true) := by
  intro p q
  have hvacant : Vacant .memory sheltered.world.store.1 := rfl
  have hcalm : (view .memory).exposed.Calm p.world.store := calm_sheltered leasing
  have hepoch : Instant.epoch ≤ p.world.clock := by decide +kernel
  obtain ⟨-, reply, hreply, -, hnext⟩ := lock_decisions_are_exact .memory _ _ hvacant leasing
    (k := 1) (show _ = Once.ready (Fixture.memoryConfig "items") from rfl) trivial "a"
    ⟨"x", "node"⟩ hcalm
  have hunlocked : (q.call.run (p.on 1)).1 = .truth (.ok true) :=
    Answer.eq_of_truth? (by decide +kernel)
  have hok : reply = .ok true := Answer.truth.inj (hreply.symm.trans hunlocked)
  exact ⟨hvacant, hcalm, hepoch, Answer.eq_of_truth? (by decide +kernel), hunlocked,
    hnext hok hepoch 0 (Fixture.memoryConfig "items") rfl trivial rfl ⟨"y", "node"⟩ 60⟩

open Pool Fleet Session in
/-- **Whoever is granted a lock holds it, if it lasts.** Engines share a backend
of any kind, to which nothing had been put before they began. Whatever they have
come to, and whichever operations fail, let one of them be told that it has the
lock of a record, before time has ended. The record is locked by its owner then
exactly if the lock was to last for a second at least; and only then are all
others refused at the same reading of the clock. -/
theorem lock_granted_is_held_iff_lasting (kind : BackendKind) (configs : Nat → Once Config)
    (w : World (Fleet × Outages)) (hvacant : Vacant kind w.store.1) (incidents : List Incident)
    {k : Nat} {config : Config} (hconfig : configs k = .ready config) (id : String)
    (owner : Owner) (seconds : Nat) :
    let V := (view kind).exposed
    let p := (fresh (shared kind).exposed configs w).through incidents
    let p' := p.after k (.tryToLock id owner seconds)
    p.world.clock.ms < 9223372036854775807 →
    ((Request.tryToLock id owner seconds).call.run (p.on k)).1 = .truth (.ok true) →
      p'.world.clock = p.world.clock ∧
      ∃ r, V.look p'.world.store config.collectionRef id = some r ∧
        (r.isLockedByAt owner p.world.clock = true ↔ 0 < seconds) ∧
        ∀ n config', configs n = .ready config' →
          V.shelf config'.collectionRef = V.shelf config.collectionRef →
          ∀ other, other ≠ owner → ∀ seconds',
            let answer := ((Request.tryToLock id other seconds').call.run (p'.on n)).1
            (0 < seconds → answer ≠ .truth (.ok true)) ∧
            (Reaches kind config' → V.Calm p'.world.store →
              (answer = .truth (.ok false) ↔ 0 < seconds)) := by
  intro V p p' hbefore hgranted
  have hshares : p.Shares kind configs := (Shares.fresh hvacant).through incidents
  have hfit := hshares.fit hconfig
  obtain ⟨reply, s', heq, hproceeds, htakes⟩ := Operation.run_tryToLock hfit id owner seconds
  have hrun : (Request.tryToLock id owner seconds).call.run (p.on k) = (.truth reply, s') :=
    run_answer heq
  have hworld : p'.world = s'.world := by
    show ((Request.tryToLock id owner seconds).call.run (p.on k)).2.world = s'.world
    rw [hrun]
  have hclock : p'.world.clock = p.world.clock := hworld ▸ hproceeds.clock
  -- the store may have failed on the way, but a lock that was granted has been written
  obtain rfl : reply = .ok true := by
    rw [hrun] at hgranted
    cases hgranted
    rfl
  obtain ⟨r, hlive, hheld, hkept⟩ := htakes.held hfit.sound hbefore
  rw [← hworld] at hlive
  refine ⟨hclock, r, (View.live_eq_some_iff.1 hlive).1, hheld, ?_⟩
  intro n config' hconfig' hshelf other hother seconds'
  have hshares' : p'.Shares kind configs := hshares.after k _
  have hlive' : V.live p'.world.clock p'.world.store config'.collectionRef id = some r := by
    rw [hclock, View.live, V.look_of_shelf hshelf]
    exact hlive
  have hothers : r.isLockedByOthersAt other (p'.on n).world.clock = true ↔ 0 < seconds := by
    rw [show (p'.on n).world.clock = p.world.clock from hclock]
    exact hkept other hother
  obtain ⟨hno, hanswer⟩ := (hshares'.fit hconfig').tryToLock_of_live hlive' other seconds'
  exact ⟨fun hpos => hno (hothers.2 hpos), fun hreaches hcalm =>
    (hanswer (hshares'.ready hconfig' hreaches hcalm)).trans hothers⟩

open Pool Fleet in
/-- A lock for a minute is held, and kept from another owner. -/
theorem lock_granted_is_held_iff_lasting_minute :
    let p := sheltered.through stocking
    let q := Request.tryToLock "a" ⟨"x", "node"⟩ 60
    Vacant .memory sheltered.world.store.1 ∧ p.world.clock.ms < 9223372036854775807 ∧
      (q.call.run (p.on 0)).1 = .truth (.ok true) ∧
      (∃ r, (view .memory).exposed.look (p.after 0 q).world.store items "a" = some r ∧
        r.isLockedByAt ⟨"x", "node"⟩ p.world.clock = true) ∧
      ((Request.tryToLock "a" ⟨"y", "node"⟩ 60).call.run ((p.after 0 q).on 1)).1 =
        .truth (.ok false) := by
  intro p q
  subst p q
  have hvacant : Vacant .memory sheltered.world.store.1 := rfl
  have hbefore : (sheltered.through stocking).world.clock.ms < 9223372036854775807 := by
    decide +kernel
  have hgranted : ((Request.tryToLock "a" ⟨"x", "node"⟩ 60).call.run
      ((sheltered.through stocking).on 0)).1 = .truth (.ok true) :=
    Answer.eq_of_truth? (by decide +kernel)
  have hshares : (sheltered.through stocking).Shares .memory
      fun _ => .ready (Fixture.memoryConfig "items") := (Shares.fresh hvacant).through stocking
  have hcalm := hshares.calm_after (k := 0) rfl (calm_sheltered stocking)
    (.tryToLock "a" ⟨"x", "node"⟩ 60)
  obtain ⟨-, r, hlook, hheld, hothers⟩ := lock_granted_is_held_iff_lasting .memory
    (fun _ => .ready (Fixture.memoryConfig "items")) ⟨Instant.epoch, [], ({}, Outages.none)⟩
    hvacant stocking (k := 0) rfl "a" ⟨"x", "node"⟩ 60 hbefore hgranted
  obtain ⟨-, hanswer⟩ := hothers 1 (Fixture.memoryConfig "items") rfl rfl ⟨"y", "node"⟩
    (by decide) 60
  exact ⟨hvacant, hbefore, hgranted, ⟨r, hlook, hheld.2 (by decide)⟩,
    (hanswer trivial hcalm).2 (by decide)⟩

open Pool Fleet in
/-- Two owners are told at one reading of the clock that a lock is theirs, and
the first was granted what nobody holds. -/
theorem lock_granted_for_no_time :
    let p := sheltered.through stocking
    let q := Request.tryToLock "a" ⟨"x", "node"⟩ 0
    0 ≤ p.world.clock.ms ∧ p.world.clock.ms < 9223372036854775807 ∧
      (q.call.run (p.on 0)).1 = .truth (.ok true) ∧
      (p.after 0 q).world.clock = p.world.clock ∧
      ((view .memory).exposed.look (p.after 0 q).world.store items "a").map
        (·.isLockedByAt ⟨"x", "node"⟩ p.world.clock) = some false ∧
      ((Request.tryToLock "a" ⟨"y", "node"⟩ 60).call.run ((p.after 0 q).on 1)).1 =
        .truth (.ok true) := by
  intro p q
  exact ⟨by decide +kernel, by decide +kernel, Answer.eq_of_truth? (by decide +kernel),
    by decide +kernel, by decide +kernel, Answer.eq_of_truth? (by decide +kernel)⟩

end LeaseStore
