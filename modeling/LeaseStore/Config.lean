/-
LeaseStore.Config — what an engine is told.

A configuration picks a backend and binds an engine to one collection.
`Config.check` refuses the first unusable setting in a fixed order; the
connection string is not looked at, since only some backends need one. It
holds secrets, so no diagnostic form shows it.
-/
import LeaseStore.Collection
import LeaseStore.Duration.Text
import LeaseStore.Failure
import LeaseStore.Text.Describe

namespace LeaseStore

open LeaseStore.Text

/-- How often, and after what pauses, a contended lock is tried again
(`LockRetryConfig`). -/
@[ext] structure RetryPolicy where
  maxAttempts : Nat := 5
  initialBackoff : Duration := .ofMillis 100
  maxBackoff : Duration := .ofMillis 5000
  deriving DecidableEq

namespace RetryPolicy

instance : Inhabited RetryPolicy := ⟨{}⟩

/-- A policy must allow an attempt. -/
def check (p : RetryPolicy) : Except ConfigError Unit :=
  if p.maxAttempts = 0 then .error (.belowMinimum "lock_retry.max_attempts" "1" "0")
  else .ok ()

/-- The diagnostic form of a policy. -/
def describe (p : RetryPolicy) : String :=
  describeFields "LockRetryConfig"
    [ ("max_attempts", toString p.maxAttempts),
      ("initial_backoff", p.initialBackoff.describe),
      ("max_backoff", p.maxBackoff.describe) ] false

end RetryPolicy

/-- The configuration of an engine (`StorageConfig`). -/
@[ext] structure Config where
  /-- The name of the backend. -/
  storageType : String
  connectionString : String := ""
  database : String := "fleetsim"
  collection : String
  /-- The throughput to provision a new collection with. -/
  throughput : Nat := 400
  /-- The greatest number of deletes in flight at once. -/
  maxPending : Nat := 25
  lockRetry : RetryPolicy := {}
  deriving DecidableEq

namespace Config

instance : Inhabited Config := ⟨{ storageType := "", collection := "" }⟩

/-- The collection an engine with this configuration works on. -/
def collectionRef (c : Config) : CollectionRef := ⟨c.database, c.collection⟩

/-- Refuses the first setting that cannot be used (`validate`). -/
def check (c : Config) : Except ConfigError Unit :=
  if (trim c.storageType.toList).isEmpty then .error (.empty "storage_type")
  else if c.database = "" then .error (.empty "database")
  else if c.collection = "" then .error (.empty "collection")
  else if c.maxPending = 0 then .error (.belowMinimum "max_pending_operations" "1" "0")
  else c.lockRetry.check

/-- The configuration, if every setting can be used. -/
def checked (c : Config) : Except ConfigError Config := c.check.map fun _ => c

/-- The diagnostic form of a configuration, without its secrets. -/
def describe (c : Config) : String :=
  describeFields "StorageConfig"
    [ ("storage_type", quoted c.storageType),
      ("connection_string", redacted),
      ("database", quoted c.database),
      ("collection", quoted c.collection),
      ("throughput", toString c.throughput),
      ("max_pending_operations", toString c.maxPending),
      ("lock_retry", c.lockRetry.describe) ] false

/-- A configuration that passes its check allows at least one delete at a
time. -/
theorem maxPending_pos_of_check {c : Config} (h : c.check = .ok ()) : 0 < c.maxPending := by
  unfold check at h
  split at h <;> first | contradiction | skip
  split at h <;> first | contradiction | skip
  split at h <;> first | contradiction | skip
  split at h
  · contradiction
  · omega

end Config

end LeaseStore
