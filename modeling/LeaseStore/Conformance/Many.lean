/-
LeaseStore.Conformance.Many — trials with many records or many callers.

The callers of these trials make their calls one after another: with a
backend that never waits, that is what calls made at once come to.
-/
import LeaseStore.Conformance.Writing

namespace LeaseStore.Conformance

open LeaseStore.Operation
open Trial

/-- A bulk delete removes every id, also when there are more than may be
deleted at once, and one that is not there. -/
def bulkDelete {σ : Type} : Trial σ Unit := do
  let config ← given (← get).engine.config.get?
  let count := config.maxPending * 2 + 3
  let ids := (List.range count).map fun i => "bulk-" ++ toString i
  forEach (fun id => do let _ ← succeeds (create { id })) ids
  let report ← succeeds (deleteMany (ids ++ ["bulk-missing"]))
  expect report.isComplete
  expect (report.deleted = count + 1)
  forEach (fun id => fails (contains id)) ids

/-- The callers of a race. -/
def racers : List Nat := List.range 8

/-- Of many owners that race for a lock, one wins. -/
def oneLockWinner {σ : Type} : Trial σ Unit := do
  let _ ← succeeds (create { id := "race-lock" })
  let owners := racers.map fun i => owner ("node" ++ toString i)
  let results ← owners.mapM fun o => do return (o, ← call (tryToLock "race-lock" o 60))
  match results.filter (·.2 matches .ok true) with
  | [(winner, _)] =>
    let r ← succeeds (get "race-lock")
    expect (r.isLockedByAt winner (← clock))
  | _ => failure

/-- Of many writers with the same token, one succeeds and the others meet a
conflict. -/
def oneWriteWinner {σ : Type} : Trial σ Unit := do
  let base ← succeeds (create { id := "race-write" })
  let results ← racers.mapM fun i => call (upsert { base with data := "writer-" ++ toString i })
  expect ((results.filter (· matches .ok _)).length = 1)
  expect ((results.filter (· matches .error (.conflict _))).length = 7)

end LeaseStore.Conformance
