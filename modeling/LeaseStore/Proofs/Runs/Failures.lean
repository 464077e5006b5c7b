/-
LeaseStore.Proofs.Runs.Failures — calls that come to nothing.

A call may fail before it connects, while it reads, while it cleans up or
while it writes. Wherever that is, it has stored nothing, and what it has
removed had expired.

* `failed_calls_keep_live_records` — on any of the backends, in any state that
  engines can have come to and whichever operations fail.
-/
import LeaseStore.Proofs.Runs.Locking
import LeaseStore.Proofs.Runs.Reach
import LeaseStore.Proofs.Runs.Writing

namespace LeaseStore

/-- The call has reported an error, or that it came to nothing. -/
def Answer.Fails : Answer → Prop
  | .unit (.error _) | .record (.error _) | .records (.error _) | .report (.error _) => True
  | .truth (.error _) | .truth (.ok false) => True
  | .retried none | .retried (some (.error _)) | .retried (some (.ok false)) => True
  | _ => False

/-- The request may let time pass. -/
def Request.Waits : Request → Prop
  | .lockWithRetry .. => True
  | _ => False

variable {σ : Type} {V : View σ} {c : CollectionRef}

namespace Session

/-- The request is to give up the lock of a record that is not locked. -/
def Idles (V : View σ) (s : Session σ) (q : Request) : Prop :=
  ∃ id owner config r, q = .tryToUnlock id owner ∧ s.engine.config = .ready config ∧
    V.look s.world.store config.collectionRef id = some r ∧ r.isLockedAt s.world.clock = false

variable {s s' : Session σ} {id : String} {owner : Owner} {seconds : Nat} {fine : Prop}

/-! ## What outcomes clear -/

/-- A read takes nothing away but what has expired. -/
theorem Gets.clears {reply : Except StoreError Record} (h : Gets V c id fine s s' reply) :
    V.Clears s.world.clock s.world.store s'.world.store := by
  cases h with
  | found _ _ hsame _ => exact hsame.clears _
  | missing _ hclears => exact hclears
  | failed _ hsame => exact hsame.clears _

theorem Scans.clears {reply : Except StoreError (List Record)} (h : Scans V c fine s s' reply) :
    V.Clears s.world.clock s.world.store s'.world.store := by
  cases h with
  | listed _ hclears => exact hclears
  | failed _ hsame => exact hsame.clears _

theorem Puts.same_of_error {r : Record} {admitted : Prop} {err : StoreError}
    (h : Puts V c r admitted fine s s' (.error err)) : V.Same s.world.store s'.world.store := by
  cases h <;> assumption

theorem Discards.same_of_error {err : StoreError} (h : Discards V c id s s' (.error err)) :
    V.Same s.world.store s'.world.store := by
  cases h
  assumption

theorem Takes.clears {reply : Except StoreError Bool}
    (h : Takes V c id owner seconds fine s s' reply) (hreply : reply ≠ .ok true) :
    V.Clears s.world.clock s.world.store s'.world.store := by
  cases h with
  | taken => exact absurd rfl hreply
  | contended _ _ _ hsame => exact hsame.clears _
  | missing _ hclears => exact hclears
  | failed _ _ hsame => exact hsame.clears _

/-- Only a lock that was held is given up by a write. -/
theorem Frees.clears {reply : Except StoreError Bool} (h : Frees V c id owner fine s s' reply)
    (hidle : reply ≠ .ok true ∨
      ∃ r, V.look s.world.store c id = some r ∧ r.isLockedAt s.world.clock = false) :
    V.Clears s.world.clock s.world.store s'.world.store := by
  cases h with
  | released hlook _ hheld _ =>
    obtain hreply | ⟨r', hlook', hfree⟩ := hidle
    · exact absurd rfl hreply
    · obtain rfl := Option.some.inj (hlook.symm.trans hlook')
      simp [Record.isLockedByAt, hfree] at hheld
  | idle _ _ _ hsame => exact hsame.clears _
  | kept _ _ _ hsame => exact hsame.clears _
  | missing _ hclears => exact hclears
  | failed _ _ hsame => exact hsame.clears _

theorem Retries.clears {answer : Option (Except StoreError Bool)}
    (h : Retries V c id owner seconds s s' answer) (hanswer : answer ≠ some (.ok true)) :
    V.Clears s'.world.clock s.world.store s'.world.store := by
  cases h with
  | last hsame _ hclock htakes =>
    rw [hclock]
    exact (hsame.clears _).trans (htakes.clears fun hreply => hanswer (congrArg some hreply))
  | gaveUp _ hsame => exact hsame.clears _

end Session

/-! ## One call -/

open Operation in
/-- A bulk of deletes reports an error only if it could not connect. -/
theorem run_deleteMany_of_error {s : Session σ} (h : s.Fit V c) {ids : List String}
    {err : StoreError} (herr : ((deleteMany ids).run s).1 = .error err) :
    s.Proceeds V c ((deleteMany ids).run s).2 ∧
      V.Same s.world.store ((deleteMany ids).run s).2.world.store := by
  let waves : Config → Call (Except StoreError BulkDelete) := fun config =>
    deleteWaves { requested := ids.length } (Operation.waves config.maxPending ids) >>=
      fun report => .done (.ok report)
  have hconnected : deleteMany ids = connected waves := rfl
  obtain ⟨hsame, hproceeds, ⟨err', -, -, hrun⟩ | ⟨config, l, -, -, -, hrun⟩⟩ :=
    run_connected h waves
  · rw [hconnected, hrun]
    exact ⟨hproceeds, hsame⟩
  · rw [hconnected, hrun, Call.run_map] at herr
    cases herr

theorem Session.Proceeds.clears {s s' : Session σ} (h : s.Proceeds V c s')
    (hclears : V.Clears s.world.clock s.world.store s'.world.store) (P : Prop) :
    V.Clears s'.world.clock s.world.store s'.world.store ∧
      (P → s'.world.clock = s.world.clock) := by
  refine ⟨?_, fun _ => h.clock⟩
  rw [h.clock]
  exact hclears

/-- A write that failed has stored nothing. -/
theorem Session.Puts.clears {q : Request} {s s' : Session σ} {r : Record} {admitted fine : Prop}
    {reply : Except StoreError Record} (h : Puts V c r admitted fine s s' reply)
    (hrun : q.call.run s = (.record reply, s')) (hproceeds : s.Proceeds V c s')
    (hfails : (q.call.run s).1.Fails) :
    V.Clears (q.call.run s).2.world.clock s.world.store (q.call.run s).2.world.store ∧
      (¬ q.Waits → (q.call.run s).2.world.clock = s.world.clock) := by
  rw [hrun] at hfails ⊢
  cases reply with
  | ok stored => exact hfails.elim
  | error err => exact hproceeds.clears (h.same_of_error.clears _) _

open Operation in
/-- **A call that comes to nothing has cleared at most what had expired.** Cases
on the request. -/
theorem Request.clears (q : Request) {s : Session σ} (h : s.Fit V c)
    (hfails : (q.call.run s).1.Fails ∨ s.Idles V q) :
    V.Clears (q.call.run s).2.world.clock s.world.store (q.call.run s).2.world.store ∧
      (¬ q.Waits → (q.call.run s).2.world.clock = s.world.clock) := by
  -- only an unlock can be idle; any other request has failed
  have hother (hq : ∀ id owner, q ≠ .tryToUnlock id owner) : (q.call.run s).1.Fails := by
    obtain hfails | ⟨id, owner, -, -, hunlock, -⟩ := hfails
    · exact hfails
    · exact absurd hunlock (hq id owner)
  cases q with
  | get id =>
    obtain ⟨reply, s', heq, hproceeds, hgets⟩ := run_get h id
    have hrun : (Request.get id).call.run s = (.record reply, s') := run_answer heq
    rw [hrun]
    exact hproceeds.clears hgets.clears _
  | contains id =>
    obtain ⟨reply, s', heq, hproceeds, hgets⟩ := run_get h id
    have hrun : (Request.contains id).call.run s = (.truth (found? reply), s') :=
      run_answer (by rw [run_contains, heq])
    rw [hrun]
    exact hproceeds.clears hgets.clears _
  | getAll =>
    obtain ⟨reply, s', heq, hproceeds, hscans⟩ := run_getAll h
    have hrun : Request.getAll.call.run s = (.records reply, s') := run_answer heq
    rw [hrun]
    exact hproceeds.clears hscans.clears _
  | create r =>
    obtain ⟨reply, s', heq, hproceeds, hputs⟩ := run_create h r
    have hrun : (Request.create r).call.run s = (.record reply, s') := run_answer heq
    exact hputs.clears hrun hproceeds (hother fun _ _ => nofun)
  | upsert r =>
    obtain ⟨reply, s', heq, hproceeds, hputs⟩ := run_write h r r.token
    have hrun : (Request.upsert r).call.run s = (.record reply, s') := run_answer heq
    exact hputs.clears hrun hproceeds (hother fun _ _ => nofun)
  | upsertWithToken r token =>
    obtain ⟨reply, s', heq, hproceeds, hputs⟩ := run_write h r token
    have hrun : (Request.upsertWithToken r token).call.run s = (.record reply, s') :=
      run_answer heq
    exact hputs.clears hrun hproceeds (hother fun _ _ => nofun)
  | delete id =>
    obtain ⟨reply, s', heq, hproceeds, hdiscards⟩ := run_delete h id
    have hrun : (Request.delete id).call.run s = (.unit reply, s') := run_answer heq
    have hfails := hother fun _ _ => nofun
    rw [hrun] at hfails ⊢
    cases reply with
    | ok => exact hfails.elim
    | error err => exact hproceeds.clears (hdiscards.same_of_error.clears _) _
  | deleteMany ids =>
    have hrun : (Request.deleteMany ids).call.run s =
        (.report ((Operation.deleteMany ids).run s).1, ((Operation.deleteMany ids).run s).2) :=
      run_answer rfl
    have hfails := hother fun _ _ => nofun
    rw [hrun] at hfails ⊢
    cases herr : ((Operation.deleteMany ids).run s).1 with
    | ok report =>
      rw [herr] at hfails
      exact hfails.elim
    | error err =>
      obtain ⟨hproceeds, hsame⟩ := run_deleteMany_of_error h herr
      exact hproceeds.clears (hsame.clears _) _
  | tryToLock id owner seconds =>
    obtain ⟨reply, s', heq, hproceeds, htakes⟩ := run_tryToLock h id owner seconds
    have hrun : (Request.tryToLock id owner seconds).call.run s = (.truth reply, s') :=
      run_answer heq
    have hfails := hother fun _ _ => nofun
    rw [hrun] at hfails ⊢
    refine hproceeds.clears (htakes.clears ?_) _
    rintro rfl
    exact hfails
  | tryToUnlock id owner =>
    obtain ⟨reply, s', heq, hproceeds, hfrees⟩ := run_tryToUnlock h id owner
    have hrun : (Request.tryToUnlock id owner).call.run s = (.truth reply, s') := run_answer heq
    rw [hrun] at hfails ⊢
    refine hproceeds.clears (hfrees.clears ?_) _
    obtain hfails | ⟨id', owner', config, r, hq, hconfig, hlook, hfree⟩ := hfails
    · refine .inl ?_
      rintro rfl
      exact hfails
    · cases hq
      rw [h.bound config hconfig] at hlook
      exact .inr ⟨r, hlook, hfree⟩
  | lockWithRetry id owner seconds policy =>
    obtain ⟨answer, s', heq, hlasts, hretries⟩ := run_lockWithRetry h id owner seconds policy
    have hrun : (Request.lockWithRetry id owner seconds policy).call.run s =
        (.retried answer, s') := run_answer heq
    have hfails := hother fun _ _ => nofun
    rw [hrun] at hfails ⊢
    refine ⟨hretries.clears ?_, fun hwaits => absurd trivial hwaits⟩
    rintro rfl
    exact hfails
  | healthCheck =>
    obtain ⟨reply, s', heq, hproceeds, hsame⟩ := run_healthCheck h
    have hrun : Request.healthCheck.call.run s = (.unit reply, s') := run_answer heq
    rw [hrun]
    exact hproceeds.clears (hsame.clears _) _

open Fleet in
/-- **Failed calls keep live records.** Engines share a backend of any kind, to
which nothing had been put before they began, and any of whose operations may
fail at any time; tasks have taken turns on it in any way, and the clock has
been set at will. Let one of the engines then carry out a request. If the
answer is an error, or that the request came to nothing, or if the request was
to give up the lock of a record that was not locked, then every record is as it
was, or it is gone and had expired by the end of the call; none was added. Only
attempts to lock with pauses in between let time pass before that. -/
theorem failed_calls_keep_live_records (kind : BackendKind) (configs : Nat → Once Config)
    (w : World (Fleet × Outages)) (hvacant : Vacant kind w.store.1) (incidents : List Incident)
    (k : Nat) (q : Request) :
    let p := (Pool.fresh (shared kind).exposed configs w).through incidents
    let s : Session (Fleet × Outages) := ⟨p.engines k, p.world⟩
    let ended := q.call.run s
    ended.1.Fails ∨ s.Idles (view kind).exposed q →
      (∀ c id, (view kind).look ended.2.world.store.1 c id = (view kind).look s.world.store.1 c id ∨
        (view kind).look ended.2.world.store.1 c id = none ∧
          ∃ r, (view kind).look s.world.store.1 c id = some r ∧
            r.isExpiredAt ended.2.world.clock = true) ∧
      (¬ q.Waits → ended.2.world.clock = s.world.clock) := by
  intro p s ended hfails
  have hable : p.Able (view kind).exposed := (able_fresh hvacant configs).through incidents
  obtain ⟨c, hsuits⟩ := (p.engines k).exists_suits
  exact q.clears (hable.hosts k c hsuits) hfails

/-- The first conditional write fails. -/
def Outages.firstUpsert : Outages := fun op n =>
  if op = .upsert ∧ n = 0 then some (.passing "unreachable") else .none

/-- A world at the epoch whose first conditional write will fail. -/
abbrev World.shaky : World (Fleet × Outages) := ⟨Instant.epoch, [], ({}, .firstUpsert)⟩

/-- A record is created. -/
def creation : List Incident :=
  .turn (.start 0 0 (.request (.create { id := "a" }))) :: List.replicate 4 (.turn (.step 0))

open Fleet Fixture Pool in
/-- New engines on the shared memory, after the creation of a record. -/
abbrev Pool.shaky : Pool (Fleet × Outages) :=
  (Pool.fresh (shared .memory).exposed (fun _ => .ready (memoryConfig "items")) .shaky).through
    creation

/-- An attempt to lock on another engine of this pool. -/
abbrev Pool.shakyLock : Answer × Session (Fleet × Outages) :=
  (Request.tryToLock "a" ⟨"x", "node"⟩ 60).call.run ⟨shaky.engines 1, shaky.world⟩

open Fleet Pool in
/-- An attempt to lock that loses its write leaves the record as it was. -/
theorem failed_calls_keep_live_records_lost_write :
    Vacant .memory World.shaky.store.1 ∧ shakyLock.1.Fails ∧
      (view .memory).look shakyLock.2.world.store.1 items "a" =
        some { id := "a", token := "\"0000000000000000-1234f4af\"" } := by
  have hfails : shakyLock.1.Fails := by
    show Answer.Fails (.truth (.ok false))
    trivial
  have hbefore : (view .memory).look shaky.world.store.1 items "a" =
      some { id := "a", token := "\"0000000000000000-1234f4af\"" } := by
    decide +kernel
  obtain ⟨hkeeps, -⟩ := failed_calls_keep_live_records .memory
    (fun _ => .ready (Fixture.memoryConfig "items")) .shaky rfl creation 1
    (.tryToLock "a" ⟨"x", "node"⟩ 60) (.inl hfails)
  refine ⟨rfl, hfails, ?_⟩
  obtain hsame | ⟨-, r, hr, hexp⟩ := hkeeps items "a"
  · exact hsame.trans hbefore
  · obtain rfl := Option.some.inj (hbefore.symm.trans hr)
    simp [Record.isExpiredAt] at hexp

end LeaseStore
