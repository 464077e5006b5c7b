/-
LeaseStore.Conformance.Trial — trying out an engine step by step.

A trial runs calls on an engine, one after another, and stops at the first
expectation that is not met. What the calls did up to there stays done.
-/
import LeaseStore.Engine
import LeaseStore.Operation.Lock
import LeaseStore.Operation.Write

namespace LeaseStore

/-- A trial of an engine; no answer means that an expectation was not met. -/
abbrev Trial (σ α : Type) := OptionT (StateM (Session σ)) α

namespace Trial

/-- Runs a call. -/
def call {σ α : Type} (c : Call α) : Trial σ α := OptionT.lift c.run

/-- Expects a fact. -/
def expect {σ : Type} (fact : Bool) : Trial σ Unit := if fact then pure () else failure

/-- Expects an answer to be there. -/
def given {σ α : Type} : Option α → Trial σ α
  | some a => pure a
  | none => failure

/-- Expects a call to succeed. -/
def succeeds {σ α : Type} (c : Call (Except StoreError α)) : Trial σ α := do
  given (← call c).toOption

/-- Expects a call to fail for want of a record. -/
def isNotFound {σ α : Type} (c : Call (Except StoreError α)) : Trial σ Unit := do
  match ← call c with
  | .error (.notFound _) => pure ()
  | _ => failure

/-- Expects a call to meet a conflict. -/
def isConflict {σ α : Type} (c : Call (Except StoreError α)) : Trial σ Unit := do
  match ← call c with
  | .error (.conflict _) => pure ()
  | _ => failure

/-- Expects a call to succeed with a true answer. -/
def holds {σ : Type} (c : Call (Except StoreError Bool)) : Trial σ Unit := do
  expect (← succeeds c)

/-- Expects a call to succeed with a false answer. -/
def fails {σ : Type} (c : Call (Except StoreError Bool)) : Trial σ Unit := do
  expect !(← succeeds c)

/-- Runs a trial for each item. -/
def forEach {σ α : Type} (f : α → Trial σ Unit) : List α → Trial σ Unit
  | [] => pure ()
  | a :: as => do
    f a
    forEach f as

/-- The reading of the clock. -/
def clock {σ : Type} : Trial σ Instant := do return (← get).world.clock

/-- The instant this many milliseconds from now. -/
def clockPlus {σ : Type} (ms : Int) : Trial σ Instant := do
  given (Instant.ofMs? ((← clock).ms + ms))

/-- Lets some milliseconds pass. -/
def wait {σ : Type} (ms : Nat) : Trial σ Unit :=
  modify fun s => { s with world := s.world.later ms }

/-- The counts of the engine. -/
def metrics {σ : Type} : Trial σ Metrics := do return (← get).engine.metrics

end Trial

end LeaseStore
