/-
LeaseStore.Metrics — what an engine counts.

An engine keeps one count for each kind of event. The counts only grow,
one event at a time; everything else about them is reading.
-/

namespace LeaseStore

/-- The events an engine counts. -/
inductive Counter where
  | get
  | create
  | upsert
  | delete
  | scan
  | notFound
  | conflict
  | backendError
  | lockAcquired
  | lockContended
  | lockFailed
  | unlock
  | unlockRefused
  | expiredPurged
  | cleanupFailure
  deriving DecidableEq, Repr

/-- The counts of one engine (`MetricsSnapshot`). -/
@[ext] structure Metrics where
  gets : Nat := 0
  creates : Nat := 0
  upserts : Nat := 0
  deletes : Nat := 0
  scans : Nat := 0
  notFound : Nat := 0
  conflicts : Nat := 0
  backendErrors : Nat := 0
  locksAcquired : Nat := 0
  locksContended : Nat := 0
  locksFailed : Nat := 0
  unlocks : Nat := 0
  unlocksRefused : Nat := 0
  expiredPurged : Nat := 0
  cleanupFailures : Nat := 0
  deriving DecidableEq, Repr

namespace Counter

/-- Every counter, in the order in which counts are reported. -/
def all : List Counter :=
  [get, create, upsert, delete, scan, notFound, conflict, backendError, lockAcquired,
    lockContended, lockFailed, unlock, unlockRefused, expiredPurged, cleanupFailure]

/-- The name of the event. -/
def name : Counter → String
  | get => "get"
  | create => "create"
  | upsert => "upsert"
  | delete => "delete"
  | scan => "scan"
  | notFound => "not_found"
  | conflict => "conflict"
  | backendError => "backend_error"
  | lockAcquired => "lock_acquired"
  | lockContended => "lock_contended"
  | lockFailed => "lock_failed"
  | unlock => "unlock"
  | unlockRefused => "unlock_refused"
  | expiredPurged => "expired_purged"
  | cleanupFailure => "cleanup_failure"

/-- The name under which its count is reported. -/
def label : Counter → String
  | get => "gets"
  | create => "creates"
  | upsert => "upserts"
  | delete => "deletes"
  | scan => "scans"
  | notFound => "not_found"
  | conflict => "conflicts"
  | backendError => "backend_errors"
  | lockAcquired => "locks_acquired"
  | lockContended => "locks_contended"
  | lockFailed => "locks_failed"
  | unlock => "unlocks"
  | unlockRefused => "unlocks_refused"
  | expiredPurged => "expired_purged"
  | cleanupFailure => "cleanup_failures"

/-- The counter of an event's name. -/
def ofName? (name : String) : Option Counter := all.find? (·.name = name)

end Counter

namespace Metrics

instance : Inhabited Metrics := ⟨{}⟩

/-- The count of one kind of event. -/
def get (m : Metrics) : Counter → Nat
  | .get => m.gets
  | .create => m.creates
  | .upsert => m.upserts
  | .delete => m.deletes
  | .scan => m.scans
  | .notFound => m.notFound
  | .conflict => m.conflicts
  | .backendError => m.backendErrors
  | .lockAcquired => m.locksAcquired
  | .lockContended => m.locksContended
  | .lockFailed => m.locksFailed
  | .unlock => m.unlocks
  | .unlockRefused => m.unlocksRefused
  | .expiredPurged => m.expiredPurged
  | .cleanupFailure => m.cleanupFailures

/-- The counts after one more event. -/
def record (m : Metrics) : Counter → Metrics
  | .get => { m with gets := m.gets + 1 }
  | .create => { m with creates := m.creates + 1 }
  | .upsert => { m with upserts := m.upserts + 1 }
  | .delete => { m with deletes := m.deletes + 1 }
  | .scan => { m with scans := m.scans + 1 }
  | .notFound => { m with notFound := m.notFound + 1 }
  | .conflict => { m with conflicts := m.conflicts + 1 }
  | .backendError => { m with backendErrors := m.backendErrors + 1 }
  | .lockAcquired => { m with locksAcquired := m.locksAcquired + 1 }
  | .lockContended => { m with locksContended := m.locksContended + 1 }
  | .lockFailed => { m with locksFailed := m.locksFailed + 1 }
  | .unlock => { m with unlocks := m.unlocks + 1 }
  | .unlockRefused => { m with unlocksRefused := m.unlocksRefused + 1 }
  | .expiredPurged => { m with expiredPurged := m.expiredPurged + 1 }
  | .cleanupFailure => { m with cleanupFailures := m.cleanupFailures + 1 }

/-- The attempts to lock, however they ended. -/
def lockAttempts (m : Metrics) : Nat :=
  m.locksAcquired + m.locksContended + m.locksFailed

/-- An event adds one to its own count and nothing to the others. -/
theorem get_record (m : Metrics) (c d : Counter) :
    (m.record c).get d = m.get d + (if c = d then 1 else 0) := by
  cases c <;> cases d <;> rfl

end Metrics

end LeaseStore
