/-
LeaseStore.Fixture — collections to try things out on.

Records with numbered ids (`make_id`) and collections of them
(`populated_engine`). The numbers have six digits or more, so the first
million ids are in order.
-/
import LeaseStore.Operation.Write
import LeaseStore.Text.Digits

namespace LeaseStore.Fixture

open LeaseStore.Text

/-- The id of a number. -/
def numberedId (stem : String) (n : Nat) : String := stem ++ ":" ++ decimal 6 n

/-- The configuration of a collection in memory. -/
def memoryConfig (collection : String) : Config := { storageType := "memory", collection }

/-- Creates records with these numbers and an empty object as payload. -/
def populate (stem : String) : List Nat → Call (Except StoreError Unit)
  | [] => return .ok ()
  | n :: ns => do
    match ← Operation.create { id := numberedId stem n, data := "\x7b\x7d" } with
    | .error err => return .error err
    | .ok _ => populate stem ns

end LeaseStore.Fixture
