/-
LeaseStore.Record — records, their expiration and their lease lock.

A `Record`, with its `expires_in_seconds_at` (`expireAfter`), `is_expired_at`,
`lock_at`, `can_unlock_at`, `unlock_at`, `is_locked_at`, `is_locked_by_at` and
`is_locked_by_others_at`.

A record is a plain value: identity, payload, the token of the version it
was read at, an expiration and the lock fields. Nothing here touches a
store. Every rule that depends on time takes the reading of the clock as
an argument:

* a record has expired once its expiration is not in the future
  (`isExpiredAt`), and never does if the expiration is `Instant.never`;
* its lock is held while the lock's own expiration is in the future
  (`isLockedAt`), whoever the recorded owner is.

So a lock needs no release to end. The owner fields of a lock that ran
out stay as they are, and no rule looks at them.
-/
import LeaseStore.Failure
import LeaseStore.Instant

namespace LeaseStore

/-- A record of the store. -/
@[ext] structure Record where
  id : String
  /-- The version marker that the backend assigned; empty before the first write. -/
  token : String := ""
  data : String := ""
  expiresAt : Instant := Instant.never
  modifiedAt : Instant := Instant.epoch
  lockOwner : Owner := Owner.nobody
  lockExpiresAt : Instant := Instant.epoch
  deriving DecidableEq

namespace Record

instance : Inhabited Record := ⟨{ id := "" }⟩

/-! ## Expiration -/

/-- The record has an expiration, and `now` has reached it. -/
def isExpiredAt (r : Record) (now : Instant) : Bool :=
  r.expiresAt ≠ Instant.never && r.expiresAt ≤ now

/-- The record expires `seconds` after `now`. -/
def expireAfter (r : Record) (now : Instant) (seconds : Nat) : Record :=
  { r with expiresAt := now.after seconds }

/-- The record as written at `now`. -/
def touchAt (r : Record) (now : Instant) : Record :=
  { r with modifiedAt := now }

/-! ## The lock -/

/-- The lock is held by someone. -/
def isLockedAt (r : Record) (now : Instant) : Bool := now < r.lockExpiresAt

/-- The recorded owner is this one, whether or not the lock is held. -/
def isOwnedBy (r : Record) (o : Owner) : Bool := r.lockOwner = o

/-- This owner holds the lock. -/
def isLockedByAt (r : Record) (o : Owner) (now : Instant) : Bool :=
  r.isLockedAt now && r.isOwnedBy o

/-- Someone other than this owner holds the lock. -/
def isLockedByOthersAt (r : Record) (o : Owner) (now : Instant) : Bool :=
  r.isLockedAt now && !r.isOwnedBy o

/-- This owner may end the lock: nobody holds it, or this owner does. -/
def canUnlockAt (r : Record) (o : Owner) (now : Instant) : Bool :=
  !r.isLockedAt now || r.isOwnedBy o

/-- Hands the lock to an owner for `seconds`, whoever held it before. -/
def lockAt (r : Record) (o : Owner) (seconds : Nat) (now : Instant) : Record :=
  { r with lockOwner := o, lockExpiresAt := now.after seconds }

/-- The record with its lock fields cleared. -/
def released (r : Record) : Record :=
  { r with lockOwner := Owner.nobody, lockExpiresAt := Instant.epoch }

/-- Ends a lock for its owner. A lock that is no longer held is left as it
is; one that someone else holds is refused. -/
def unlockAt (r : Record) (o : Owner) (now : Instant) : Except StoreError Record :=
  if !r.isLockedAt now then .ok r
  else if r.canUnlockAt o now then .ok r.released
  else .error (.lockedByOther r.id r.lockOwner)

/-! ## Laws -/

theorem isExpiredAt_iff {r : Record} {now : Instant} :
    r.isExpiredAt now = true ↔ r.expiresAt ≠ Instant.never ∧ r.expiresAt ≤ now := by
  simp [isExpiredAt]

theorem isLockedAt_iff {r : Record} {now : Instant} :
    r.isLockedAt now = true ↔ now < r.lockExpiresAt := by
  simp [isLockedAt]

theorem isOwnedBy_iff {r : Record} {o : Owner} :
    r.isOwnedBy o = true ↔ r.lockOwner = o := by
  simp [isOwnedBy]

theorem isLockedByAt_iff {r : Record} {o : Owner} {now : Instant} :
    r.isLockedByAt o now = true ↔ now < r.lockExpiresAt ∧ r.lockOwner = o := by
  simp [isLockedByAt, isLockedAt_iff, isOwnedBy_iff]

theorem isLockedByOthersAt_iff {r : Record} {o : Owner} {now : Instant} :
    r.isLockedByOthersAt o now = true ↔ now < r.lockExpiresAt ∧ r.lockOwner ≠ o := by
  simp [isLockedByOthersAt, isLockedAt_iff, isOwnedBy]

/-- Of any lock that is held, an owner is the holder or someone else is. -/
theorem isLockedAt_eq_or (r : Record) (o : Owner) (now : Instant) :
    r.isLockedAt now = (r.isLockedByAt o now || r.isLockedByOthersAt o now) := by
  cases h : r.isOwnedBy o <;> simp [isLockedByAt, isLockedByOthersAt, h]

/-- Ending a lock is refused exactly to those whom the lock keeps out. -/
theorem canUnlockAt_eq_not (r : Record) (o : Owner) (now : Instant) :
    r.canUnlockAt o now = !r.isLockedByOthersAt o now := by
  cases h : r.isLockedAt now <;> simp [canUnlockAt, isLockedByOthersAt, h]

/-- There are three ways to be answered on ending a lock. -/
theorem unlockAt_cases (r : Record) (o : Owner) (now : Instant) :
    (r.isLockedAt now = false ∧ r.unlockAt o now = .ok r) ∨
    (r.isLockedByAt o now = true ∧ r.unlockAt o now = .ok r.released) ∨
    (r.isLockedByOthersAt o now = true ∧
      r.unlockAt o now = .error (.lockedByOther r.id r.lockOwner)) := by
  cases hlocked : r.isLockedAt now with
  | false => simp [unlockAt, hlocked]
  | true =>
    cases howned : r.isOwnedBy o <;>
      simp [unlockAt, canUnlockAt, isLockedByAt, isLockedByOthersAt, hlocked, howned]

end Record

end LeaseStore
