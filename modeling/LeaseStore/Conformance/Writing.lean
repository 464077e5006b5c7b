/-
LeaseStore.Conformance.Writing — trials of reading and writing.

The first group tries out what creating, reading and deleting records
mean; the second tries out the tokens that make writes conditional.
-/
import LeaseStore.Conformance.Trial

namespace LeaseStore.Conformance

open LeaseStore.Operation
open Trial

/-- The kind of owner that the trials lock records for. -/
def ownerKind : String := "partition"

/-- An owner by its id. -/
def owner (id : String) : Owner := ⟨id, ownerKind⟩

/-! ## Records -/

/-- An id that was never written is not found. -/
def getMissing {σ : Type} : Trial σ Unit := do
  isNotFound (get "crud-missing")
  fails (contains "crud-missing")

/-- Every field survives being created and read. -/
def createThenGet {σ : Type} : Trial σ Unit := do
  let payload := "\x7b\"zone\":\"eu-1\",\"n\":7\x7d"
  let expiresAt ← clockPlus 3600000
  let r := { id := "crud-roundtrip", data := payload, expiresAt : Record }
  let r := r.lockAt (owner "nodeA") 600 (← clock)
  let stored ← succeeds (create r)
  let found ← succeeds (get "crud-roundtrip")
  expect (found = stored)
  expect (found.data = payload)
  expect (found.expiresAt = expiresAt)
  expect (found.lockOwner = owner "nodeA")
  expect (found.lockExpiresAt = r.lockExpiresAt)
  expect (0 < found.modifiedAt.ms)

/-- To create an id that is there is a conflict, and changes nothing. -/
def createDuplicate {σ : Type} : Trial σ Unit := do
  let _ ← succeeds (create { id := "crud-dup", data := "first" })
  isConflict (create { id := "crud-dup", data := "second" })
  expect ((← succeeds (get "crud-dup")).data = "first")

/-- A delete may be repeated. -/
def deleteTwice {σ : Type} : Trial σ Unit := do
  let _ ← succeeds (create { id := "crud-delete" })
  succeeds (delete "crud-delete")
  succeeds (delete "crud-delete")
  succeeds (delete "crud-never-existed")
  isNotFound (get "crud-delete")

/-- An empty payload stays empty. -/
def emptyPayload {σ : Type} : Trial σ Unit := do
  let _ ← succeeds (create { id := "crud-empty" })
  expect ((← succeeds (get "crud-empty")).data = "")

/-- A scan finds every record. -/
def scanFindsAll {σ : Type} : Trial σ Unit := do
  let ids := ["crud-all-0", "crud-all-1", "crud-all-2"]
  forEach (fun id => do let _ ← succeeds (create { id })) ids
  let found := (← succeeds getAll).map (·.id)
  expect (ids.all (· ∈ found))

/-! ## Tokens -/

/-- Each write gives a token that is new and not empty. -/
def tokenChanges {σ : Type} : Trial σ Unit := do
  let first ← succeeds (create { id := "tok-seq", data := "1" })
  expect (first.token ≠ "")
  let second ← succeeds (upsert { first with data := "2" })
  expect (first.token ≠ second.token)
  expect ((← succeeds (get "tok-seq")).token = second.token)

/-- A write with a stale token is a conflict, and the other writer's data
stay. -/
def staleWrite {σ : Type} : Trial σ Unit := do
  let _ ← succeeds (create { id := "tok-stale", data := "0" })
  let mine ← succeeds (get "tok-stale")
  let theirs ← succeeds (get "tok-stale")
  let _ ← succeeds (upsert { theirs with data := "theirs" })
  isConflict (upsert { mine with data := "mine" })
  expect ((← succeeds (get "tok-stale")).data = "theirs")

/-- A token given with a write counts, and not the record's own. -/
def explicitToken {σ : Type} : Trial σ Unit := do
  let stored ← succeeds (create { id := "tok-explicit", data := "0" })
  let edited := { stored with token := "", data := "1" }
  let second ← succeeds (upsertWithToken edited stored.token)
  isConflict (upsertWithToken { edited with data := "2" } stored.token)
  expect ((← succeeds (get "tok-explicit")).token = second.token)

/-- A write without a token, or with the wildcard, is unconditional. -/
def wildcard {σ : Type} : Trial σ Unit := do
  let _ ← succeeds (upsert { id := "tok-wild", data := "a" })
  let _ ← succeeds (upsert { id := "tok-wild", data := "b" })
  let _ ← succeeds (upsertWithToken { id := "tok-wild", data := "c" } WriteCondition.wildcard)
  expect ((← succeeds (get "tok-wild")).data = "c")

end LeaseStore.Conformance
