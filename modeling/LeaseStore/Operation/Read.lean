/-
LeaseStore.Operation.Read — reading records.

The operations `get`, `exists` (`contains`), `get_all` (`getAll`) and
`health_check` (`healthCheck`) of an `Engine`.

An expired record reads as absent. Whoever meets one asks the backend to
delete it; that cleanup is best effort, so its outcome is counted but
never changes the answer. A scan sorts out the expired records by one
reading of the clock.
-/
import LeaseStore.Call

namespace LeaseStore.Operation

open Call

/-- The counter for a failure of the backend. -/
def counterOf : StoreError → Counter
  | .notFound _ => .notFound
  | .conflict _ => .conflict
  | _ => .backendError

/-- A failure of the backend on the record `id`, counted (`classify`). -/
def classify (id : String) (e : BackendError) : Call StoreError := do
  let err := StoreError.ofBackend id e
  perform (.count (counterOf err))
  return err

/-- Asks the backend to delete an expired record (`purge_expired`). Someone else
may have been faster, which is no failure. -/
def purge (id : String) : Call Unit := do
  perform (.count .delete)
  match ← perform (.delete id) with
  | .ok () => perform (.count .expiredPurged)
  | .error .notFound => return ()
  | .error _ => perform (.count .cleanupFailure)

/-- Asks the backend to delete several expired records, one by one. -/
def purgeAll : List String → Call Unit
  | [] => return ()
  | id :: ids => do
    purge id
    purgeAll ids

/-- The record under an id, if there is one that has not expired
(`Engine::get`). -/
def get (id : String) : Call (Except StoreError Record) := do
  match ← perform .connect with
  | .error err => return .error err
  | .ok _ =>
    perform (.count .get)
    match ← perform (.read id) with
    | .error e => return .error (← classify id e)
    | .ok r =>
      let now ← perform .now
      if r.isExpiredAt now then
        purge id
        perform (.count .notFound)
        return .error (.notFound id)
      else return .ok r

/-- Whether `get` would find a record (`Engine::exists`). -/
def contains (id : String) : Call (Except StoreError Bool) := do
  match ← get id with
  | .ok _ => return .ok true
  | .error (.notFound _) => return .ok false
  | .error err => return .error err

/-- Every record that has not expired, in the order of the backend
(`Engine::get_all`). -/
def getAll : Call (Except StoreError (List Record)) := do
  match ← perform .connect with
  | .error err => return .error err
  | .ok _ =>
    perform (.count .scan)
    match ← perform .list with
    | .error e => return .error (← classify "*" e)
    | .ok rs =>
      let now ← perform .now
      let (expired, live) := rs.partition (·.isExpiredAt now)
      purgeAll (expired.map (·.id))
      return .ok live

/-- Whether the backend can be reached (`Engine::health_check`). An outcome that
means nothing here is wrapped. -/
def healthCheck : Call (Except StoreError Unit) := do
  match ← perform .connect with
  | .error err => return .error err
  | .ok _ =>
    match ← perform .health with
    | .ok () => return .ok ()
    | .error (.failure message transient cause) =>
      return .error (.ofBackend "" (.failure message transient cause))
    | .error e => return .error (.external "health check failed" false (some (.backend e)))

end LeaseStore.Operation
