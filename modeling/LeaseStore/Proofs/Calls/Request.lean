/-
LeaseStore.Proofs.Calls.Request — what is asked of an engine.

A `Request` is one call of an engine with its arguments, and an `Answer`
what the caller gets. An `Errand` is what a caller goes about: a request,
or the update of a record's payload, which is a `get` and then an `upsert`
of what was read with new data and a new expiration.
-/
import LeaseStore.Operation.Lock
import LeaseStore.Operation.Write

namespace LeaseStore

/-- A call of an engine with its arguments. -/
inductive Request where
  | get (id : String)
  | contains (id : String)
  | getAll
  | create (r : Record)
  | upsert (r : Record)
  | upsertWithToken (r : Record) (token : String)
  | delete (id : String)
  | deleteMany (ids : List String)
  | tryToLock (id : String) (owner : Owner) (seconds : Nat)
  | tryToUnlock (id : String) (owner : Owner)
  | lockWithRetry (id : String) (owner : Owner) (seconds : Nat) (policy : RetryPolicy)
  | healthCheck

/-- The record that the request is to store. -/
def Request.record? : Request → Option Record
  | create r | upsert r | upsertWithToken r _ => some r
  | _ => none

/-- What a caller is answered. -/
inductive Answer where
  | unit (r : Except StoreError Unit)
  | truth (r : Except StoreError Bool)
  | record (r : Except StoreError Record)
  | records (r : Except StoreError (List Record))
  | report (r : Except StoreError Operation.BulkDelete)
  /-- The answer after retries, if no pause was too long. -/
  | retried (r : Option (Except StoreError Bool))

/-- The call that a request is. -/
def Request.call : Request → Call Answer
  | get id => do return .record (← Operation.get id)
  | contains id => do return .truth (← Operation.contains id)
  | getAll => do return .records (← Operation.getAll)
  | create r => do return .record (← Operation.create r)
  | upsert r => do return .record (← Operation.upsert r)
  | upsertWithToken r token => do return .record (← Operation.upsertWithToken r token)
  | delete id => do return .unit (← Operation.delete id)
  | deleteMany ids => do return .report (← Operation.deleteMany ids)
  | tryToLock id owner seconds => do return .truth (← Operation.tryToLock id owner seconds)
  | tryToUnlock id owner => do return .truth (← Operation.tryToUnlock id owner)
  | lockWithRetry id owner seconds policy => do
    return .retried (← Operation.lockWithRetry id owner seconds policy)
  | healthCheck => do return .unit (← Operation.healthCheck)

/-- The payload that an edit makes of a record: its data and expiration. -/
abbrev Edit := Record → String × Instant

/-- A record with its payload edited. -/
def Record.edited (r : Record) (edit : Edit) : Record :=
  { r with data := (edit r).1, expiresAt := (edit r).2 }

/-- Reads a record and writes it back with its payload edited. -/
def Operation.update (id : String) (edit : Edit) : Call (Except StoreError Record) := do
  match ← get id with
  | .error err => return .error err
  | .ok r => upsert (r.edited edit)

/-- What a caller goes about. -/
inductive Errand where
  | request (q : Request)
  | update (id : String) (edit : Edit)

/-- The call that an errand is. -/
def Errand.call : Errand → Call Answer
  | request q => q.call
  | update id edit => do return .record (← Operation.update id edit)

end LeaseStore
