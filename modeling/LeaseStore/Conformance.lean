/-
LeaseStore.Conformance — what every backend has to support.

The trials of this list (`run_all`) check, each on an engine of its own,
one part of what an engine promises. Expiration and locks are the engine's
own work, so a backend that passes gives callers the coordination of any
other.
-/
import LeaseStore.Conformance.Leasing
import LeaseStore.Conformance.Many

namespace LeaseStore.Conformance

/-- The trials, by name. -/
def trials (σ : Type) : List (String × Trial σ Unit) :=
  [ ("crud_get_missing_is_not_found", getMissing),
    ("crud_create_then_get_roundtrips_fields", createThenGet),
    ("crud_create_duplicate_is_conflict", createDuplicate),
    ("crud_delete_is_idempotent", deleteTwice),
    ("crud_empty_payload", emptyPayload),
    ("crud_get_all_returns_live_records", scanFindsAll),
    ("token_changes_on_every_write", tokenChanges),
    ("token_stale_write_is_conflict", staleWrite),
    ("token_explicit_token_is_checked", explicitToken),
    ("token_wildcard_is_unconditional", wildcard),
    ("expiration_read_purges_record", readPurges),
    ("expiration_exists_is_false", expiredIsAbsent),
    ("expiration_get_all_filters", scanPurges),
    ("expiration_after_deadline", deadlinePasses),
    ("lock_is_mutually_exclusive", lockExcludes),
    ("lock_contended_attempt_does_not_write", contentionWritesNothing),
    ("lock_missing_record_is_not_found", lockMissing),
    ("lock_expiry_releases", lockExpires),
    ("lock_unlock_requires_ownership", unlockNeedsOwner),
    ("lock_owner_type_distinguishes_owners", ownerKindCounts),
    ("bulk_delete_removes_all", bulkDelete),
    ("concurrent_lockers_have_one_winner", oneLockWinner),
    ("concurrent_writers_one_succeeds", oneWriteWinner) ]

/-- Runs a trial; whether all its expectations were met. -/
def run {σ : Type} (t : Trial σ Unit) (s : Session σ) : Bool × Session σ :=
  let (r, s) := OptionT.run t s
  (r.isSome, s)

end LeaseStore.Conformance
