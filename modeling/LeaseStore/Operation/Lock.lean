/-
LeaseStore.Operation.Lock — the lease lock of a record.

The operations `try_to_lock`, `try_to_unlock` and `lock_with_retry` of an
`Engine`.

No lock is kept in memory. A caller reads the record, decides by a
reading of the clock, and writes the record back on the condition that
nobody has written it in between. A write that is lost means that the
attempt is lost, whatever the reason; so is a read that the backend
failed. Only a record that is not there and errors that no retry can mend
are reported as such.
-/
import LeaseStore.Backoff
import LeaseStore.Operation.Read

namespace LeaseStore.Operation

open Call

/-- Reads the record that a lock operation is about; nothing if the backend
failed (`read_for_lock`). -/
def readForLock (id : String) : Call (Except StoreError (Option Record)) := do
  match ← get id with
  | .ok r => return .ok (some r)
  | .error (.notFound id) => return .error (.notFound id)
  | .error err => if err.isStructural then return .error err else return .ok none

/-- Writes a record back if its version is still the stored one; whether that
succeeded (`write_conditional`). -/
def writeBack (r : Record) : Call Bool := do
  match ← perform (.upsert r (.ofToken r.token)) with
  | .ok _ =>
    perform (.count .upsert)
    return true
  | .error e =>
    let _ ← classify r.id e
    return false

/-- Tries to take the lock of a record for `seconds`, or to extend it
(`Engine::try_to_lock`). -/
def tryToLock (id : String) (owner : Owner) (seconds : Nat) :
    Call (Except StoreError Bool) := do
  match ← readForLock id with
  | .error err => return .error err
  | .ok none =>
    perform (.count .lockFailed)
    return .ok false
  | .ok (some r) =>
    let now ← perform .now
    if r.isLockedByOthersAt owner now then
      perform (.count .lockContended)
      return .ok false
    else if ← writeBack ((r.touchAt now).lockAt owner seconds now) then
      perform (.count .lockAcquired)
      return .ok true
    else
      perform (.count .lockFailed)
      return .ok false

/-- Gives up the lock that a record was read with, if it is the owner's. -/
def release (r : Record) (owner : Owner) (now : Instant) : Call (Except StoreError Bool) := do
  match (r.touchAt now).unlockAt owner now with
  | .error _ =>
    perform (.count .unlockRefused)
    return .ok false
  | .ok released =>
    if ← writeBack released then
      perform (.count .unlock)
      return .ok true
    else
      perform (.count .unlockRefused)
      return .ok false

/-- Tries to give up the lock of a record (`Engine::try_to_unlock`). A record
that is not locked needs no write. -/
def tryToUnlock (id : String) (owner : Owner) : Call (Except StoreError Bool) := do
  match ← readForLock id with
  | .error err => return .error err
  | .ok none =>
    perform (.count .unlockRefused)
    return .ok false
  | .ok (some r) =>
    let now ← perform .now
    if !r.isLockedAt now then
      perform (.count .unlock)
      return .ok true
    else release r owner now

/-- Pauses after the lost attempt number `n`, from zero, and goes on with
`rest`. The answer is `none` if the pause would be longer than any
duration. -/
def pauseThen (p : RetryPolicy) (n : Nat) (rest : Call (Option (Except StoreError Bool))) :
    Call (Option (Except StoreError Bool)) := do
  let jitter ← perform (.draw (p.jitterBound n))
  match p.delay? n jitter with
  | none => return none
  | some d =>
    perform (.pause d)
    rest

/-- Repeats an attempt that can be lost, up to `left` more times, pausing in
between; `n` attempts have been lost before (`retry_until_acquired`). -/
def retryFrom (p : RetryPolicy) (attempt : Call (Except StoreError Bool)) :
    Nat → Nat → Call (Option (Except StoreError Bool))
  | 0, _ => return some (.ok false)
  | left + 1, n => do
    match ← attempt with
    | .error err => return some (.error err)
    | .ok true => return some (.ok true)
    | .ok false =>
      if left = 0 then return some (.ok false)
      else pauseThen p n (retryFrom p attempt left (n + 1))

/-- Tries to take the lock of a record until it succeeds, an error comes, or the
policy allows no more attempts (`Engine::lock_with_retry`). -/
def lockWithRetry (id : String) (owner : Owner) (seconds : Nat) (p : RetryPolicy) :
    Call (Option (Except StoreError Bool)) :=
  retryFrom p (tryToLock id owner seconds) p.attempts 0

end LeaseStore.Operation
