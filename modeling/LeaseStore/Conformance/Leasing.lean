/-
LeaseStore.Conformance.Leasing — trials of what ends by itself.

The first group tries out that expired records read as absent and give
their ids back; the second tries out the lease lock.
-/
import LeaseStore.Conformance.Writing

namespace LeaseStore.Conformance

open LeaseStore.Operation
open Trial

/-! ## Expiration -/

/-- Reading an expired record removes it. -/
def readPurges {σ : Type} : Trial σ Unit := do
  let expiresAt ← clockPlus (-1000)
  let _ ← succeeds (create { id := "exp-read", expiresAt })
  let before := (← metrics).expiredPurged
  isNotFound (get "exp-read")
  expect ((← metrics).expiredPurged = before + 1)
  let _ ← succeeds (create { id := "exp-read" })

/-- An expired record does not exist. -/
def expiredIsAbsent {σ : Type} : Trial σ Unit := do
  let expiresAt ← clockPlus (-1)
  let _ ← succeeds (create { id := "exp-exists", expiresAt })
  fails (contains "exp-exists")

/-- A scan leaves out expired records and removes them. -/
def scanPurges {σ : Type} : Trial σ Unit := do
  let expiresAt ← clockPlus (-1)
  let _ ← succeeds (create { id := "exp-all-old", expiresAt })
  let live := { id := "exp-all-new" : Record }
  let _ ← succeeds (create (live.expireAfter (← clock) 3600))
  let found := (← succeeds getAll).map (·.id)
  expect ("exp-all-new" ∈ found)
  expect ("exp-all-old" ∉ found)
  let _ ← succeeds (create { id := "exp-all-old" })

/-- A record disappears once its deadline has passed. -/
def deadlinePasses {σ : Type} : Trial σ Unit := do
  let r := { id := "exp-deadline" : Record }
  let _ ← succeeds (create (r.expireAfter (← clock) 1))
  holds (contains "exp-deadline")
  wait 1100
  fails (contains "exp-deadline")

/-! ## Locks -/

/-- One owner holds the lock, and may take it again. -/
def lockExcludes {σ : Type} : Trial σ Unit := do
  let _ ← succeeds (create { id := "lock-mutex" })
  holds (tryToLock "lock-mutex" (owner "nodeA") 60)
  fails (tryToLock "lock-mutex" (owner "nodeB") 60)
  holds (tryToLock "lock-mutex" (owner "nodeA") 60)
  let r ← succeeds (get "lock-mutex")
  expect (r.isLockedByAt (owner "nodeA") (← clock))

/-- An attempt that is lost to the holder writes nothing. -/
def contentionWritesNothing {σ : Type} : Trial σ Unit := do
  let _ ← succeeds (create { id := "lock-nowrite" })
  holds (tryToLock "lock-nowrite" (owner "nodeA") 60)
  let before ← succeeds (get "lock-nowrite")
  fails (tryToLock "lock-nowrite" (owner "nodeB") 60)
  let after ← succeeds (get "lock-nowrite")
  expect (before.token = after.token)

/-- A record that is not there is reported as such by the lock. -/
def lockMissing {σ : Type} : Trial σ Unit :=
  isNotFound (tryToLock "lock-ghost" (owner "nodeA") 5)

/-- A lock ends by itself. -/
def lockExpires {σ : Type} : Trial σ Unit := do
  let _ ← succeeds (create { id := "lock-expiry" })
  holds (tryToLock "lock-expiry" (owner "nodeA") 1)
  wait 1100
  holds (tryToLock "lock-expiry" (owner "nodeB") 1)

/-- Only the holder can give up a lock; a refusal leaves the record as it
was. -/
def unlockNeedsOwner {σ : Type} : Trial σ Unit := do
  let _ ← succeeds (create { id := "lock-unlock" })
  holds (tryToLock "lock-unlock" (owner "nodeA") 60)
  let locked ← succeeds (get "lock-unlock")
  fails (tryToUnlock "lock-unlock" (owner "nodeB"))
  let unchanged ← succeeds (get "lock-unlock")
  expect (unchanged = locked)
  holds (tryToUnlock "lock-unlock" (owner "nodeA"))
  let released ← succeeds (get "lock-unlock")
  expect !(released.isLockedAt (← clock))
  holds (tryToLock "lock-unlock" (owner "nodeB") 60)

/-- The kind of an owner belongs to its identity. -/
def ownerKindCounts {σ : Type} : Trial σ Unit := do
  let _ ← succeeds (create { id := "lock-type" })
  holds (tryToLock "lock-type" ⟨"node1", ownerKind⟩ 60)
  fails (tryToLock "lock-type" ⟨"node1", "device"⟩ 60)

end LeaseStore.Conformance
