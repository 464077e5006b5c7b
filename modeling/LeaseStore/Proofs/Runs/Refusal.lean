/-
LeaseStore.Proofs.Runs.Refusal — calls of an engine that cannot connect.

Every call connects before it does anything else. If that fails, the call is
over: it tells its caller of the error, or, if it is an attempt to lock or to
unlock and a retry may mend the error, that the attempt was lost
(`Request.refused`). It has counted that attempt at most, and asked nothing of
any store.

* `Request.run_of_refused` — one attempt to connect, one refusal.
* `Request.run_of_structural` — an error that no retry can mend ends attempts
  with pauses in between, too, and nothing is counted.
-/
import LeaseStore.Proofs.Runs.Failures

namespace LeaseStore

variable {σ : Type}

/-- The error that the caller is told of, if there is one. -/
def Answer.error? : Answer → Option StoreError
  | .unit (.error err) | .truth (.error err) | .record (.error err) | .records (.error err)
  | .report (.error err) | .retried (some (.error err)) => some err
  | _ => none

/-- What an attempt comes to that could not read its record. -/
def Operation.unread (err : StoreError) : Except StoreError Bool :=
  (Operation.forLock (.error err)).map fun _ => false

/-- What a request comes to if its engine cannot connect; attempts with pauses
in between, if they end at the first one. -/
def Request.refused (err : StoreError) : Request → Answer
  | get _ | create _ | upsert _ | upsertWithToken _ _ => .record (.error err)
  | contains _ => .truth (Operation.found? (.error err))
  | getAll => .records (.error err)
  | delete _ | healthCheck => .unit (.error err)
  | deleteMany _ => .report (.error err)
  | tryToLock _ _ _ | tryToUnlock _ _ => .truth (Operation.unread err)
  | lockWithRetry _ _ _ _ => .retried (some (.error err))

/-- One session is another, but for what has been counted since. -/
def Session.Metered (s s' : Session σ) : Prop :=
  ∃ metrics, s' = { s with engine := { s.engine with metrics } }

theorem Session.Metered.refl (s : Session σ) : s.Metered s := ⟨s.engine.metrics, rfl⟩

namespace Operation

open Call

variable {s s₁ : Session σ} {err : StoreError}

theorem run_connected_of_error {α : Type} (h : s.connect = (.error err, s₁))
    (x : Config → Call (Except StoreError α)) : (connected x).run s = (.error err, s₁) := by
  rw [run_connected_eq, h]
  rfl

theorem run_get_of_error (h : s.connect = (.error err, s₁)) (id : String) :
    (get id).run s = (.error err, s₁) := run_connected_of_error h _

/-- A lock operation passes an error on, or takes its attempt for lost; an
error that no retry can mend is passed on. -/
theorem forLock_error (err : StoreError) :
    (forLock (.error err) = .error err ∧ unread err = .error err) ∨
      (forLock (.error err) = .ok none ∧ unread err = .ok false ∧ err.isStructural = false) := by
  cases err with
  | notFound | uninitialized | unknownBackend | config => exact .inl ⟨rfl, rfl⟩
  | conflict | lockedByOther | external => exact .inr ⟨rfl, rfl, rfl⟩

theorem unread_of_structural (h : err.isStructural = true) : unread err = .error err := by
  obtain ⟨-, hunread⟩ | ⟨-, -, hpassing⟩ := forLock_error err
  · exact hunread
  · rw [h] at hpassing
    cases hpassing

theorem run_readForLock_of_error (h : s.connect = (.error err, s₁)) (id : String) :
    (readForLock id).run s = (forLock (.error err), s₁) := by
  rw [run_readForLock_eq, run_get_of_error h]

/-- What an attempt comes to that first looks for its record: an error, or the
event of an attempt that was lost. -/
theorem run_attempt_of_error (h : s.connect = (.error err, s₁)) {id : String} {n : Counter}
    {f : Except StoreError (Option Record) → Call (Except StoreError Bool)}
    (herror : ∀ err, f (.error err) = done (.error err))
    (hlost : f (.ok none) = perform (.count n) >>= fun _ => done (.ok false)) :
    ∃ s', (readForLock id >>= f).run s = (unread err, s') ∧ s₁.Metered s' ∧
      (err.isStructural = true → s' = s₁) := by
  rw [run_bind, run_readForLock_of_error h]
  obtain ⟨hread, hunread⟩ | ⟨hread, hunread, hpassing⟩ := forLock_error err
  · rw [hread, hunread, herror]
    exact ⟨s₁, rfl, .refl s₁, fun _ => rfl⟩
  · rw [hread, hunread, hlost]
    refine ⟨s₁.count n, rfl, ⟨_, rfl⟩, fun h => ?_⟩
    rw [h] at hpassing
    cases hpassing

theorem run_tryToLock_of_error (h : s.connect = (.error err, s₁)) (id : String) (owner : Owner)
    (seconds : Nat) :
    ∃ s', (tryToLock id owner seconds).run s = (unread err, s') ∧ s₁.Metered s' ∧
      (err.isStructural = true → s' = s₁) :=
  run_attempt_of_error h (fun _ => rfl) rfl

theorem run_tryToUnlock_of_error (h : s.connect = (.error err, s₁)) (id : String)
    (owner : Owner) :
    ∃ s', (tryToUnlock id owner).run s = (unread err, s') ∧ s₁.Metered s' ∧
      (err.isStructural = true → s' = s₁) :=
  run_attempt_of_error h (fun _ => rfl) rfl

/-- An error that no retry can mend ends attempts with pauses in between at the
first of them. -/
theorem run_lockWithRetry_of_structural (h : s.connect = (.error err, s₁))
    (hstructural : err.isStructural = true) (id : String) (owner : Owner) (seconds : Nat)
    (p : RetryPolicy) : (lockWithRetry id owner seconds p).run s = (some (.error err), s₁) := by
  obtain ⟨s', hrun, -, hsame⟩ := run_tryToLock_of_error h id owner seconds
  obtain ⟨n, hn⟩ : ∃ n, p.attempts = n + 1 :=
    Nat.exists_eq_add_one_of_ne_zero (Nat.pos_iff_ne_zero.1 (Nat.le_max_left 1 p.maxAttempts))
  rw [lockWithRetry, hn, retryFrom, run_bind, hrun, hsame hstructural,
    unread_of_structural hstructural]
  rfl

end Operation

namespace Request

open Operation Session

variable {s s₁ : Session σ} {err : StoreError}

/-- **A call that cannot connect comes to its refusal**, and has counted an
attempt that was lost at most. Cases on the request. -/
theorem run_of_refused (h : s.connect = (.error err, s₁)) {q : Request} (hq : ¬ q.Waits) :
    ∃ s', q.call.run s = (q.refused err, s') ∧ s₁.Metered s' ∧
      (err.isStructural = true → s' = s₁) := by
  have hstay {a : Answer} (hrun : q.call.run s = (a, s₁)) :
      ∃ s', q.call.run s = (a, s') ∧ s₁.Metered s' ∧ (err.isStructural = true → s' = s₁) :=
    ⟨s₁, hrun, .refl s₁, fun _ => rfl⟩
  cases q with
  | get id => exact hstay (run_answer (run_get_of_error h id))
  | contains id => exact hstay (run_answer (by rw [run_contains, run_get_of_error h]))
  | getAll => exact hstay (run_answer (run_connected_of_error h fun _ => scan))
  | create r => exact hstay (run_answer (by rw [create_eq, run_connected_of_error h]))
  | upsert r | upsertWithToken r token =>
    exact hstay (run_answer ((congrArg (Call.run · s) (write_eq r _)).trans
      (run_connected_of_error h _)))
  | delete id => exact hstay (run_answer (run_connected_of_error h fun _ => remove id))
  | deleteMany ids => exact hstay (run_answer (run_connected_of_error h _))
  | tryToLock id owner seconds =>
    obtain ⟨s', hrun, hrest⟩ := run_tryToLock_of_error h id owner seconds
    exact ⟨s', run_answer hrun, hrest⟩
  | tryToUnlock id owner =>
    obtain ⟨s', hrun, hrest⟩ := run_tryToUnlock_of_error h id owner
    exact ⟨s', run_answer hrun, hrest⟩
  | lockWithRetry id owner seconds policy => exact absurd trivial hq
  | healthCheck =>
    exact hstay (run_answer (by rw [healthCheck_eq, run_connected_of_error h]))

/-- A refusal for a reason that no retry can mend tells the reason. -/
theorem error?_refused (hstructural : err.isStructural = true) (q : Request) :
    (q.refused err).error? = some err := by
  cases q with
  | tryToLock | tryToUnlock =>
    rw [refused, unread_of_structural hstructural]
    rfl
  | contains =>
    cases err with
    | uninitialized | unknownBackend | config => rfl
    | notFound | conflict | lockedByOther | external => cases hstructural
  | get | getAll | create | upsert | upsertWithToken | delete | deleteMany | lockWithRetry
  | healthCheck => rfl

/-- **An error that no retry can mend is what every call reports**, and it
counts nothing. -/
theorem run_of_structural (h : s.connect = (.error err, s₁)) (hstructural : err.isStructural = true)
    (q : Request) : q.call.run s = (q.refused err, s₁) := by
  have hrefused (hq : ¬ q.Waits) : q.call.run s = (q.refused err, s₁) := by
    obtain ⟨s', hrun, -, hsame⟩ := run_of_refused h hq
    rw [hrun, hsame hstructural]
  cases q with
  | lockWithRetry id owner seconds policy =>
    exact run_answer (run_lockWithRetry_of_structural h hstructural id owner seconds policy)
  | get | contains | getAll | create | upsert | upsertWithToken | delete | deleteMany | tryToLock
  | tryToUnlock | healthCheck => exact hrefused fun hwaits => hwaits

end Request

end LeaseStore
