/-
LeaseStore.BackendKind — the storage technologies and their names.

The `BackendKind`, with its `as_str` (`name`) and `from_str` (`ofName`).

Each technology goes by one or more names, of which one is its own. Blanks
around a name and the case of ASCII letters do not matter.
-/
import LeaseStore.Failure
import LeaseStore.Text.Blank

namespace LeaseStore

open LeaseStore.Text

/-- The storage technologies that an engine can be created for. -/
inductive BackendKind where
  /-- A store within this process. -/
  | memory
  /-- A document database. -/
  | document
  /-- A table service. -/
  | table
  deriving DecidableEq, Repr

namespace BackendKind

/-- Every technology, in the order of the names. -/
def all : List BackendKind := [document, memory, table]

/-- The name of a technology. -/
def name : BackendKind → String
  | memory => "memory"
  | document => "document"
  | table => "table"

/-- All names of a technology. -/
def names : BackendKind → List String
  | memory => ["memory"]
  | document => ["document", "cosmosdb", "cosmos", "sql"]
  | table => ["table", "tablestorage"]

/-- The technology of a name. -/
def ofName? (name : String) : Option BackendKind :=
  all.find? fun kind => lowered (trimmed name) ∈ kind.names

/-- The technology of a name, or the failure to know it. -/
def ofName (name : String) : Except StoreError BackendKind :=
  match ofName? name with
  | some kind => .ok kind
  | none => .error (.unknownBackend name)

end BackendKind

end LeaseStore
