/-
LeaseStore.Operation.Write — creating, replacing and deleting records.

The operations `create`, `upsert`, `upsert_with_token`, `delete` and
`delete_multi` (`deleteMany`) of an `Engine`.

Every write stamps the record with a reading of the clock. A token makes
a write conditional: it replaces the version that carries the token and no
other. Deleting a record that is not there succeeds.

A bulk delete goes through its ids in waves, the consecutive stretches of
the list that fit the bound on deletes under way, and reports the ids that
could not be deleted.
-/
import LeaseStore.Operation.Read

namespace LeaseStore.Operation

open Call

/-- Stores a record under a new id (`Engine::create`). -/
def create (r : Record) : Call (Except StoreError Record) := do
  match ← perform .connect with
  | .error err => return .error err
  | .ok _ =>
    let now ← perform .now
    match ← perform (.create (r.touchAt now)) with
    | .error e => return .error (← classify r.id e)
    | .ok stored =>
      perform (.count .create)
      return .ok stored

/-- Stores a record on a condition (`Engine::write`). -/
def write (r : Record) (condition : WriteCondition) : Call (Except StoreError Record) := do
  match ← perform .connect with
  | .error err => return .error err
  | .ok _ =>
    let now ← perform .now
    match ← perform (.upsert (r.touchAt now) condition) with
    | .error e => return .error (← classify r.id e)
    | .ok stored =>
      perform (.count .upsert)
      return .ok stored

/-- Stores a record on the condition of its own token (`Engine::upsert`). -/
def upsert (r : Record) : Call (Except StoreError Record) :=
  write r (.ofToken r.token)

/-- Stores a record on the condition of a given token
(`Engine::upsert_with_token`). -/
def upsertWithToken (r : Record) (token : String) : Call (Except StoreError Record) :=
  write r (.ofToken token)

/-- The outcome of a direct delete (`delete_one`). A record that is not there
counts as deleted. -/
def deleted (id : String) : Except BackendError Unit → Call (Except StoreError Unit)
  | .ok () => return .ok ()
  | .error .notFound => return .ok ()
  | .error e => do return .error (← classify id e)

/-- Deletes a record (`Engine::delete`). -/
def delete (id : String) : Call (Except StoreError Unit) := do
  match ← perform .connect with
  | .error err => return .error err
  | .ok _ =>
    perform (.count .delete)
    deleted id (← perform (.delete id))

/-! ## Bulk deletes -/

/-- The report of a bulk delete (`BulkDeleteStats`). -/
structure BulkDelete where
  requested : Nat
  deleted : Nat := 0
  /-- The ids that could not be deleted, in the order of the request. -/
  failures : List (String × StoreError) := []
  deriving DecidableEq, Repr

/-- Every id was deleted (`is_complete`). -/
def BulkDelete.isComplete (b : BulkDelete) : Bool :=
  b.failures.isEmpty && b.deleted = b.requested

/-- A list cut up, given the room left in the current stretch: what goes
there, and the stretches of at most `bound` that follow. -/
def stretches {α : Type} (bound : Nat) : Nat → List α → List α × List (List α)
  | _, [] => ([], [])
  | 0, x :: xs =>
    let (first, others) := stretches bound (bound - 1) xs
    ([], (x :: first) :: others)
  | room + 1, x :: xs =>
    let (first, others) := stretches bound room xs
    (x :: first, others)

/-- The consecutive stretches of a list, each as long as `bound` but
perhaps the last. -/
def waves {α : Type} (bound : Nat) (xs : List α) : List (List α) := (stretches bound 0 xs).2

/-- Counts several events of one kind. -/
def countTimes (c : Counter) : Nat → Call Unit
  | 0 => return ()
  | n + 1 => do
    perform (.count c)
    countTimes c n

/-- Enters the outcomes of a wave into the report. -/
def tally (report : BulkDelete) :
    List (String × Except BackendError Unit) → Call BulkDelete
  | [] => return report
  | (id, r) :: rest => do
    match ← deleted id r with
    | .ok () => tally { report with deleted := report.deleted + 1 } rest
    | .error err => tally { report with failures := report.failures ++ [(id, err)] } rest

/-- Deletes wave after wave. -/
def deleteWaves (report : BulkDelete) : List (List String) → Call BulkDelete
  | [] => return report
  | ids :: rest => do
    countTimes .delete ids.length
    let outcomes ← perform (.deleteWave ids)
    deleteWaves (← tally report (ids.zip outcomes)) rest

/-- Deletes many records, at most as many at a time as the configuration allows
(`Engine::delete_multi`). A failure does not stop the others. -/
def deleteMany (ids : List String) : Call (Except StoreError BulkDelete) := do
  match ← perform .connect with
  | .error err => return .error err
  | .ok config =>
    return .ok (← deleteWaves { requested := ids.length } (waves config.maxPending ids))

/-! ## Laws of waves -/

theorem flatten_stretches {α : Type} (bound room : Nat) (xs : List α) :
    (stretches bound room xs).1 ++ (stretches bound room xs).2.flatten = xs := by
  induction xs generalizing room with
  | nil => cases room <;> rfl
  | cons x xs ih =>
    cases room with
    | zero =>
      simp only [stretches, List.flatten_cons, List.nil_append, List.cons_append]
      rw [ih]
    | succ room =>
      simp only [stretches, List.cons_append]
      rw [ih]

/-- The waves hold the list, in order. -/
theorem flatten_waves {α : Type} (bound : Nat) (xs : List α) :
    (waves bound xs).flatten = xs := by
  have h := flatten_stretches bound 0 xs
  cases xs with
  | nil => rfl
  | cons x xs => simpa [waves, stretches] using h

end LeaseStore.Operation
