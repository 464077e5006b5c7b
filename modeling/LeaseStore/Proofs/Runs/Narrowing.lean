/-
LeaseStore.Proofs.Runs.Narrowing — lock operations tell of little.

Whatever fails beneath a lock operation, its caller is told one of four things:
that the lock was given or was not, that there is no such record, or that a
failure is one that no retry mends (`Session.Narrowed`). The exchanges of a call
decide which (`LeaseStore.Proofs.Runs.Trouble`). Here they are set against the
engine: connecting ends with a failure that no retry mends exactly if the engine
has no configuration or its connector has reported it
(`Call.connect_error_mem_path_iff`). And whatever a lock operation writes, it
writes on the condition of the token that came with its latest read
(`KeepsToToken`).

* `lock_paths_narrow_trouble` — for every engine in every state, over any
  backend, if its connector does not speak of records; and when attempts with
  pauses in between come to no answer.
* `lock_paths_leave_unanswered` — a policy that passes its check, and a call with
  it that does not.
-/
import LeaseStore.Proofs.Rules.Delays
import LeaseStore.Proofs.Runs.Rounds

namespace LeaseStore

variable {σ α β : Type}

/-! ## Conditions of writes -/

/-- The record that the latest read was shown, the latest exchange first. -/
def shown? : List Exchange → Option Record
  | [] => none
  | ⟨.read _, reply⟩ :: _ => reply.toOption
  | _ :: past => shown? past

/-- Whatever is written is written on the condition of the token that came with
the latest read before. -/
def KeepsToToken (path : List Exchange) : Prop :=
  ∀ before r w reply after, path = before ++ ⟨.upsert r w, reply⟩ :: after →
    ∃ v, shown? before.reverse = some v ∧ w = .ofToken v.token

namespace Operation

open Call

/-- A write keeps to the token that came with the latest read. -/
def HoldsToken (past : List Exchange) : Action → Prop
  | .upsert _ w => ∃ v, shown? past = some v ∧ w = .ofToken v.token
  | _ => True

variable {past : List Exchange}

theorem along_purge_token (id : String) :
    (purge id).Along HoldsToken (fun _ _ => True) past := by
  refine ⟨trivial, fun _ => ⟨trivial, fun reply => ?_⟩⟩
  match reply with
  | .error .notFound => exact trivial
  | .ok () | .error .alreadyExists | .error .preconditionFailed | .error (.failure ..) =>
    exact ⟨trivial, fun _ => trivial⟩

theorem along_get_token (id : String) :
    (get id).Along HoldsToken (fun past' res => ∀ v, res = .ok v → shown? past' = some v) past := by
  refine ⟨trivial, fun reply => ?_⟩
  match reply with
  | .error err => exact fun v h => nomatch h
  | .ok config =>
    refine ⟨trivial, fun _ => ⟨trivial, fun reply => ?_⟩⟩
    match reply with
    | .error e => exact along_classify (fun _ _ => trivial) fun _ _ v h => nomatch h
    | .ok v =>
      refine ⟨trivial, fun t => ?_⟩
      show Call.Along _ _ _ (if v.isExpiredAt t then _ else _)
      split
      case isTrue =>
        exact along_bind (along_purge_token id) fun _ _ _ => ⟨trivial, fun _ v h => nomatch h⟩
      case isFalse =>
        rintro v' ⟨⟩
        rfl

theorem along_readForLock_token (id : String) :
    (readForLock id).Along HoldsToken
      (fun past' res => ∀ v, res = .ok (some v) → shown? past' = some v) past := by
  refine along_bind (along_get_token id) ?_
  rintro past' (err | v) hshown
  · cases err <;> exact fun v h => nomatch h
  · rintro v' ⟨⟩
    exact hshown v rfl

theorem along_writeBack_token {r v : Record} (hshown : shown? past = some v)
    (htoken : r.token = v.token) :
    (writeBack r).Along HoldsToken (fun _ _ => True) past := by
  refine ⟨⟨v, hshown, htoken ▸ rfl⟩, fun reply => ?_⟩
  match reply with
  | .ok stored => exact ⟨trivial, fun _ => trivial⟩
  | .error e => exact ⟨trivial, fun _ => trivial⟩

theorem along_tryToLock_token (id : String) (owner : Owner) (seconds : Nat) :
    (tryToLock id owner seconds).Along HoldsToken (fun _ _ => True) past := by
  refine along_bind (along_readForLock_token id) ?_
  rintro past' (err | _ | v) hshown
  · exact trivial
  · exact ⟨trivial, fun _ => trivial⟩
  · refine ⟨trivial, fun t => ?_⟩
    show Call.Along _ _ _ (if v.isLockedByOthersAt owner t then _ else _)
    split
    case isTrue => exact ⟨trivial, fun _ => trivial⟩
    case isFalse =>
      refine along_bind (along_writeBack_token (v := v) (hshown v rfl) rfl) ?_
      rintro past'' (_ | _) -
      · exact ⟨trivial, fun _ => trivial⟩
      · exact ⟨trivial, fun _ => trivial⟩

theorem along_tryToUnlock_token (id : String) (owner : Owner) :
    (tryToUnlock id owner).Along HoldsToken (fun _ _ => True) past := by
  refine along_bind (along_readForLock_token id) ?_
  rintro past' (err | _ | v) hshown
  · exact trivial
  · exact ⟨trivial, fun _ => trivial⟩
  · refine ⟨trivial, fun t => ?_⟩
    show Call.Along _ _ _ (if !v.isLockedAt t then _ else release v owner t)
    split
    case isTrue => exact ⟨trivial, fun _ => trivial⟩
    case isFalse hlocked =>
      unfold release
      split
      case h_1 => exact ⟨trivial, fun _ => trivial⟩
      case h_2 released hunlock =>
        have hlocked' : v.isLockedAt t = true := by simpa using hlocked
        obtain ⟨-, rfl⟩ := released_of_unlockAt hlocked' hunlock
        refine along_bind (along_writeBack_token (v := v) (hshown v rfl) rfl) ?_
        rintro past'' (_ | _) -
        · exact ⟨trivial, fun _ => trivial⟩
        · exact ⟨trivial, fun _ => trivial⟩

/-- Induction on the attempts that are left. -/
theorem along_retryFrom_token {p : RetryPolicy} {attempt : Call (Except StoreError Bool)}
    (hattempt : ∀ past, attempt.Along HoldsToken (fun _ _ => True) past) (left n : Nat) :
    (retryFrom p attempt left n).Along HoldsToken (fun _ _ => True) past := by
  induction left generalizing n past with
  | zero => exact trivial
  | succ left ih =>
    rw [retryFrom]
    refine along_bind (hattempt past) ?_
    rintro past' (err | _ | _) -
    · exact trivial
    · dsimp only
      split
      case isTrue => exact trivial
      case isFalse =>
        refine along_perform (a := .draw _) trivial fun jitter => ?_
        cases p.delay? n jitter with
        | none => exact trivial
        | some d => exact ⟨trivial, fun _ => ih (n + 1)⟩
    · exact trivial

end Operation

/-- What is done on the path keeps to the rules, as they stand there.
Induction on the call. -/
theorem Call.Along.path_split {x : Call α} {P : List Exchange → Action → Prop}
    {Q : List Exchange → α → Prop} {past : List Exchange} (h : x.Along P Q past) (s : Session σ)
    {before after : List Exchange} {y : Exchange} (hpath : x.path s = before ++ y :: after) :
    P (before.reverse ++ past) y.action := by
  induction x generalizing past s before with
  | done a => exact absurd hpath (by simp [Call.path])
  | act a next ih =>
    cases before with
    | nil =>
      obtain ⟨rfl, -⟩ := List.cons.inj hpath
      exact h.1
    | cons z before =>
      obtain ⟨rfl, hrest⟩ := List.cons.inj hpath
      rw [List.reverse_cons, List.append_assoc]
      exact ih _ (h.2 _) _ hrest

theorem Call.Along.keepsToToken {x : Call α} {Q : List Exchange → α → Prop}
    (h : x.Along Operation.HoldsToken Q []) (s : Session σ) : KeepsToToken (x.path s) := by
  intro before r w reply after hpath
  have hholds := h.path_split s hpath
  rwa [List.append_nil] at hholds

/-! ## Connecting -/

/-- Induction on the call: the connector stays the same. -/
theorem Call.connectsPlainly_path (x : Call α) {s : Session σ}
    (hconnector : ∀ config st err,
      (s.engine.connector config st).1 = .error err → err.OfConnector) :
    ConnectsPlainly (x.path s) := by
  induction x generalizing s with
  | done a => exact fun err hmem => nomatch hmem
  | act a next ih =>
    intro err hmem
    rcases List.mem_cons.mp hmem with heq | hmem
    · obtain ⟨rfl, hreply⟩ := Exchange.mk.inj heq
      exact Session.connect_impersonal hconnector (eq_of_heq hreply).symm
    · rw [← (s.keeps_perform a).connector] at hconnector
      exact ih _ hconnector err hmem

theorem isStructural_provisioningError (c : CollectionRef) (e : BackendError) :
    (provisioningError c e).isStructural = false := by
  cases e <;> rfl

/-- One attempt to connect ends with a failure that no retry mends if the engine
has no configuration, or if the connector has reported it. -/
theorem Session.Attempts.error_iff {s s' : Session σ} {reply : Except StoreError Config}
    {new : List Contact} (h : Attempts s s' reply new) {err : StoreError}
    (hstructural : err.isStructural = true) :
    reply = .error err ↔ (s.engine.config = .unset ∧ err = .uninitialized) ∨
      ∃ config, .opened config (some err) ∈ new := by
  cases h with
  | unbound hconfig => simp [hconfig, eq_comm]
  | linked hconfig => simp [hconfig]
  | refused hconfig => simp [hconfig, eq_comm]
  | @unprovided c e hconfig =>
    have hexternal : provisioningError c.collectionRef e ≠ err := by
      rintro rfl
      rw [isStructural_provisioningError] at hstructural
      cases hstructural
    simp [hconfig, hexternal]
  | won hconfig => simp [hconfig]

/-- A call has connected, or tried to. -/
def Call.Connects (x : Call α) (s : Session σ) : Prop :=
  ∃ reply, ⟨.connect, reply⟩ ∈ x.path s

/-- What connecting ends with, the engine or its connector has said. Induction
on the call. -/
theorem Call.connect_error_mem_path_iff (x : Call α) (s : Session σ) {err : StoreError}
    (hstructural : err.isStructural = true) :
    ⟨.connect, .error err⟩ ∈ x.path s ↔
      (s.engine.config = .unset ∧ err = .uninitialized ∧ x.Connects s) ∨
        ∃ config, .opened config (some err) ∈ x.contacts s := by
  induction x generalizing s with
  | done a =>
    have hnone : (done a : Call α).contacts s = [] := rfl
    simp [Connects, path, hnone]
  | act a next ih =>
    have hrest := ih (s.perform a).1 (s.perform a).2
    rw [(s.keeps_perform a).config] at hrest
    rw [path, List.mem_cons, hrest, contacts_act]
    simp only [List.mem_append, exists_or]
    by_cases ha : a = .connect
    · subst ha
      have hfirst := s.attempts_connect.error_iff hstructural
      have hconnects : (act .connect next).Connects s := ⟨_, List.mem_cons_self⟩
      have hheq : (⟨.connect, .error err⟩ : Exchange) = ⟨.connect, (s.perform .connect).1⟩ ↔
          s.connect.1 = .error err := by
        simp [eq_comm, Session.perform]
      rw [hheq, hfirst, Session.attempt]
      simp only [hconnects, and_true]
      grind
    · have hheq : (⟨.connect, .error err⟩ : Exchange) ≠ ⟨a, (s.perform a).1⟩ := fun h =>
        ha (congrArg Exchange.action h).symm
      have hfirst : ¬ ∃ config, .opened config (some err) ∈ (perform a).contacts s := by
        rintro ⟨config, hmem⟩
        exact Session.isUse_of_heard (Session.heard_of_adds ha (adds_contacts a s)) _ hmem
      have hconnects : (act a next).Connects s ↔
          (next (s.perform a).1).Connects (s.perform a).2 := by
        refine exists_congr fun reply => List.mem_cons.trans (or_iff_right fun h => ?_)
        exact ha (congrArg Exchange.action h).symm
      simp only [hheq, hfirst, hconnects, false_or]

/-! ## Lock operations -/

/-- What a call that answers so has made of all trouble. Of failures it tells
only that there is no record, exactly if its read found none that has not
expired, and those that no retry mends, exactly if the engine has no
configuration or its connector has reported them. Once it has connected it reads
the record, and never another. What it writes, it writes on the condition of the
token that came with the latest read. -/
structure Session.Narrowed (s : Session σ) (id : String) (x : Call α)
    (answer : Except StoreError Bool) : Prop where
  errors : ∀ err, answer = .error err → err = .notFound id ∨ err.isStructural = true
  missing : answer = .error (.notFound id) ↔ SeesMissing id (x.path s)
  structural : ∀ err, err.isStructural = true →
    (answer = .error err ↔ (s.engine.config = .unset ∧ err = .uninitialized) ∨
      ∃ config, .opened config (some err) ∈ x.contacts s)
  reads : ∀ config, ⟨.connect, .ok config⟩ ∈ x.path s → ∃ reply, ⟨.read id, reply⟩ ∈ x.path s
  only : ∀ id' reply, ⟨.read id', reply⟩ ∈ x.path s → id' = id
  token : KeepsToToken (x.path s)

theorem Narrows.narrowed {s : Session σ} {id : String} {x : Call α}
    {answer : Except StoreError Bool} (h : Narrows id (x.path s) answer) (hconnects : x.Connects s)
    (htoken : KeepsToToken (x.path s)) : s.Narrowed id x answer where
  errors := h.errors
  missing := h.missing
  structural err hstructural := by
    rw [h.structural err hstructural, x.connect_error_mem_path_iff s hstructural]
    simp only [hconnects, and_true]
  reads := h.reads
  only := h.only
  token := htoken

theorem Call.Connects.bind {x : Call α} {s : Session σ} (h : x.Connects s) (f : α → Call β) :
    (x >>= f).Connects s := by
  obtain ⟨reply, hmem⟩ := h
  refine ⟨reply, ?_⟩
  rw [path_bind]
  exact List.mem_append_left _ hmem

/-- Every lock operation begins with a read, and that with connecting. -/
theorem Operation.connects_readForLock {β : Type} (id : String) (s : Session σ)
    (f : Except StoreError (Option Record) → Call β) : (readForLock id >>= f).Connects s := by
  have hget : (get id).Connects s := ⟨_, List.mem_cons_self⟩
  exact (hget.bind _).bind f

theorem Operation.connects_lockWithRetry (id : String) (owner : Owner) (seconds : Nat)
    (p : RetryPolicy) (s : Session σ) : (lockWithRetry id owner seconds p).Connects s := by
  obtain ⟨left, hleft⟩ : ∃ left, p.attempts = left + 1 :=
    Nat.exists_eq_succ_of_ne_zero (Nat.ne_of_gt (Nat.le_max_left 1 _))
  rw [lockWithRetry, hleft, retryFrom]
  exact (connects_readForLock id s _).bind _

open Operation in
/-- Attempts with pauses in between, the answer `none` taken for a lost attempt. -/
theorem Session.narrowed_lockWithRetry {s : Session σ}
    (hconnector : ∀ config st err,
      (s.engine.connector config st).1 = .error err → err.OfConnector)
    (id : String) (owner : Owner) (seconds : Nat) (p : RetryPolicy) :
    let x := lockWithRetry id owner seconds p
    let answer := (x.run s).1
    s.Narrowed id x (answer.getD (.ok false)) ∧ (answer = some (.ok true) ↔ Wrote (x.path s)) := by
  have hattempt := ((yields_tryToLock id owner seconds).mono fun _ _ h => h.apart).and
    (yields_tryToLock_narrows id owner seconds)
  have hplain := (lockWithRetry id owner seconds p).connectsPlainly_path hconnector
  have hpersists := (yields_retryFrom (p := p) hattempt p.attempts 0).path s
  have htoken : KeepsToToken ((lockWithRetry id owner seconds p).path s) :=
    (along_retryFrom_token (fun _ => along_tryToLock_token id owner seconds) _ 0).keepsToToken s
  exact ⟨(hpersists.narrows hplain).narrowed (connects_lockWithRetry id owner seconds p s) htoken,
    hpersists.taken⟩

open Operation in
/-- **Lock operations tell of little.** Take any engine in any state, over any
backend, whose reads, cleanups and writes may end in any way; only the connector
is to speak of no record. An attempt to lock, an attempt to unlock, and attempts
with pauses in between answer with one of the two truths, unless their read
finds no record that has not expired (`SeesMissing`), or connecting ends with a
failure that no retry mends: the engine has no configuration, or the connector has
reported one (`Session.Narrowed`). No conflict, no lock of another owner and no
failure of the backend is ever told.

Whoever wants a lock is told that it is theirs exactly if a write has succeeded.
Whoever gives one up is told so exactly if a write has succeeded, or the record
that was read is not locked (`SeesUnlocked`). Attempts with pauses in between come
to no answer exactly if one of them that is not the last is lost, and the policy
asks for a pause after it that is longer than any duration. By then they have seen
nothing but lost attempts. -/
theorem lock_paths_narrow_trouble (s : Session σ)
    (hconnector : ∀ config st err,
      (s.engine.connector config st).1 = .error err → err.OfConnector)
    (id : String) (owner : Owner) :
    (∀ seconds,
      let x := tryToLock id owner seconds
      let answer := (x.run s).1
      s.Narrowed id x answer ∧ (answer = .ok true ↔ Wrote (x.path s))) ∧
    (let x := tryToUnlock id owner
      let answer := (x.run s).1
      s.Narrowed id x answer ∧
        (answer = .ok true ↔ Wrote (x.path s) ∨ SeesUnlocked id (x.path s))) ∧
    ∀ seconds p,
      let x := lockWithRetry id owner seconds p
      let attempt := tryToLock id owner seconds
      let answer := (x.run s).1
      s.Narrowed id x (answer.getD (.ok false)) ∧
        (answer = some (.ok true) ↔ Wrote (x.path s)) ∧
        (answer = none ↔ ∃ n sₙ s', n + 1 < p.attempts ∧ s.round p attempt n = some sₙ ∧
          attempt.run sₙ = (.ok false, s') ∧
          p.delay? n (s'.world.draw (p.jitterBound n)).1 = none) := by
  refine ⟨fun seconds => ?_, ?_, fun seconds p => ?_⟩
  · have hplain := (tryToLock id owner seconds).connectsPlainly_path hconnector
    obtain ⟨hwrote, hnarrows⟩ := (yields_tryToLock_narrows id owner seconds).path s
    have htoken := (along_tryToLock_token id owner seconds).keepsToToken s
    exact ⟨(hnarrows hplain).narrowed (connects_readForLock id s _) htoken, hwrote⟩
  · have hplain := (tryToUnlock id owner).connectsPlainly_path hconnector
    obtain ⟨hgiven, hnarrows⟩ := (yields_tryToUnlock_narrows id owner).path s
    have htoken := (along_tryToUnlock_token id owner).keepsToToken s
    exact ⟨(hnarrows hplain).narrowed (connects_readForLock id s _) htoken, hgiven⟩
  · obtain ⟨hnarrowed, htaken⟩ := s.narrowed_lockWithRetry hconnector id owner seconds p
    exact ⟨hnarrowed, htaken, lockWithRetry_eq_none_iff id owner seconds p s⟩

instance decidableEqExcept {ε α : Type} [DecidableEq ε] [DecidableEq α] :
    DecidableEq (Except ε α)
  | .error e, .error e' => decidable_of_iff (e = e') (by simp)
  | .ok a, .ok b => decidable_of_iff (a = b) (by simp)
  | .error _, .ok _ => isFalse nofun
  | .ok _, .error _ => isFalse nofun

open Fleet in
/-- A record is stored, and the next write is to fail. -/
def shaken : Session Fleet :=
  (Session.start (Fleet.opening (memoryBackend sharedMemory)) ⟨Instant.epoch, [], {}⟩).live
    [.init (Fixture.memoryConfig "items"), .call (.create { id := "a" }),
      .meanwhile fun w =>
        { w with store := { w.store with faults := { upsert := some { times := some 1 } } } }]

open Operation in
/-- A write fails, which an attempt to lock does not tell of, and the second
attempt succeeds. -/
theorem lock_paths_narrow_trouble_shaken :
    let once := tryToLock "a" ⟨"x", "node"⟩ 60
    let again := lockWithRetry "a" ⟨"x", "node"⟩ 60 {}
    (once.run shaken).1 = .ok false ∧ ¬ Wrote (once.path shaken) ∧
      ¬ SeesMissing "a" (once.path shaken) ∧
      (again.run shaken).1 = some (.ok true) ∧ Wrote (again.path shaken) := by
  intro once again
  have hconnector : ∀ config st err, (shaken.engine.connector config st).1 = .error err →
      err.OfConnector := fun config st err h => nomatch h
  obtain ⟨hlock, -, hretry⟩ := lock_paths_narrow_trouble shaken hconnector "a" ⟨"x", "node"⟩
  have honce : (once.run shaken).1 = .ok false := by decide +kernel
  have hagain : (again.run shaken).1 = some (.ok true) := by decide +kernel
  obtain ⟨hnarrowed, htaken⟩ := hlock 60
  obtain ⟨-, hwrote, -⟩ := hretry 60 {}
  refine ⟨honce, fun hw => ?_, fun hmissing => ?_, hagain, hwrote.mp hagain⟩
  · have hnot := honce.symm.trans (htaken.mpr hw)
    cases hnot
  · have hnot := honce.symm.trans (hnarrowed.missing.mpr hmissing)
    cases hnot

open Fleet in
/-- An engine that is configured for the longest pauses, and a record of which
someone holds the lock. The next number that is drawn is 1000. -/
def barred : Session Fleet :=
  (Session.start (Fleet.opening (memoryBackend sharedMemory))
    ⟨Instant.epoch, [1000], {}⟩).live
    [.init Config.endless, .call (.create { id := "a" }),
      .call (.tryToLock "a" ⟨"x", "node"⟩ 60)]

open Operation in
/-- The connector never fails and the record is there, so another owner is to be told
one of the truths. The first attempt is lost, and there is no pause after it. -/
theorem lock_paths_leave_unanswered :
    let x := lockWithRetry "a" ⟨"y", "node"⟩ 60 Config.endless.lockRetry
    barred.engine.config.get? = some Config.endless ∧
      (∀ config st err, (barred.engine.connector config st).1 ≠ .error err) ∧
      ¬ SeesMissing "a" (x.path barred) ∧ (x.run barred).1 = none ∧
      ¬ ∃ b, (x.run barred).1 = some (.ok b) := by
  intro x
  have hconnector (config : Config) (st : Fleet) (err : StoreError) :
      (barred.engine.connector config st).1 ≠ .error err := fun h => nomatch h
  have hnone : (x.run barred).1 = none := by decide +kernel
  have hnarrowed : barred.Narrowed "a" x ((x.run barred).1.getD (.ok false)) :=
    (barred.narrowed_lockWithRetry (fun config st err h => absurd h (hconnector config st err))
      "a" ⟨"y", "node"⟩ 60 Config.endless.lockRetry).1
  rw [hnone] at hnarrowed
  refine ⟨by decide +kernel, hconnector, fun hmissing => ?_, hnone, ?_⟩
  · cases hnarrowed.missing.mpr hmissing
  · rintro ⟨b, hb⟩
    rw [hnone] at hb
    cases hb

end LeaseStore
