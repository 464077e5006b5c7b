/-
LeaseStore.Catalog — engines by the name of their backend.

The `EngineFactory`.

A catalog knows a connector for each storage technology that was
registered with it, and creates engines for configurations that name one
of them. Engines created from one registration share its connector. A
backend is not contacted before the engine's first operation.
-/
import LeaseStore.BackendKind
import LeaseStore.Engine

namespace LeaseStore

open LeaseStore.Text

/-- The registered connectors. -/
structure Catalog (σ : Type) where
  memory : Option (Connector σ) := none
  document : Option (Connector σ) := none
  table : Option (Connector σ) := none

namespace Catalog

/-- The connector registered for a technology. -/
def connector? {σ : Type} (c : Catalog σ) : BackendKind → Option (Connector σ)
  | .memory => c.memory
  | .document => c.document
  | .table => c.table

/-- Registers a connector in place of any other for its technology. -/
def register {σ : Type} (c : Catalog σ) (kind : BackendKind) (connector : Connector σ) :
    Catalog σ :=
  match kind with
  | .memory => { c with memory := some connector }
  | .document => { c with document := some connector }
  | .table => { c with table := some connector }

/-- Whether a connector is registered for a technology. -/
def isRegistered {σ : Type} (c : Catalog σ) (kind : BackendKind) : Bool :=
  (c.connector? kind).isSome

/-- The diagnostic form of a catalog: the registered technologies. -/
def describe {σ : Type} (c : Catalog σ) : String :=
  describeFields "EngineFactory"
    [ ("registered", describeList ((BackendKind.all.filter c.isRegistered).map (quoted ·.name))) ]
    false

/-- The refusal of a technology without a connector. -/
def unregistered (kind : BackendKind) : StoreError :=
  .config (.invalid "storage_type" ("no connector registered for backend '" ++ kind.name ++ "'"))

/-- An engine for a configuration, bound to it. -/
def create {σ : Type} (c : Catalog σ) (config : Config) : Except StoreError (Engine σ) := do
  let kind ← BackendKind.ofName config.storageType
  match c.connector? kind with
  | none => .error (unregistered kind)
  | some connector =>
    match Engine.init { connector } config with
    | (.error err, _) => .error err
    | (.ok (), e) => .ok e

end Catalog

end LeaseStore
