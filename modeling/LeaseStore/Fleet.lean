/-
LeaseStore.Fleet — everything that several engines may share.

A fleet is the common surroundings of engines that work together: stores
in memory, each by its number, a document database, a table service, and a
probed store. One plan of faults covers all stores in memory. The backends
of a fleet are views of it, so engines connected to the same part see each
other's writes.
-/
import LeaseStore.Catalog
import LeaseStore.Document.Service
import LeaseStore.Faults
import LeaseStore.Memory
import LeaseStore.Probe
import LeaseStore.Table.Connector
import LeaseStore.Table.Service

namespace LeaseStore

/-- The surroundings that engines share. -/
structure Fleet where
  /-- The stores in memory; one that was never written to is empty. -/
  memories : Std.ExtTreeMap Nat MemoryStore := ∅
  faults : FaultPlan := {}
  documents : DocumentService := {}
  tables : TableService := {}
  probe : Probe := {}
  /-- The clients built so far, by endpoint and key. -/
  builds : List String := []
  /-- The failures that each builder of clients still has to report. -/
  buildFailures : Std.ExtTreeMap Nat (List ConnectionError) := ∅

namespace Fleet

instance : Inhabited Fleet := ⟨{}⟩

/-! ## Parts -/

/-- The store in memory that all engines share by default. -/
def sharedMemory : Nat := 0

/-- The store in memory behind the probe. -/
def probedMemory : Nat := 1

/-- The first number of a store that belongs to a catalog. -/
def firstPrivateMemory : Nat := 2

/-- A store in memory. -/
def memory (f : Fleet) (n : Nat) : MemoryStore := f.memories[n]?.getD (.fresh n)

/-- A store in memory, with the plan of faults. -/
def memoryPart (n : Nat) : Part Fleet (MemoryStore × FaultPlan) where
  get f := (f.memory n, f.faults)
  set := fun (store, faults) f => { f with memories := f.memories.insert n store, faults }

/-- The document database. -/
def documentPart : Part Fleet DocumentService :=
  ⟨(·.documents), fun d f => { f with documents := d }⟩

/-- The table service. -/
def tablePart : Part Fleet TableService := ⟨(·.tables), fun t f => { f with tables := t }⟩

/-- What the probe has seen. -/
def probePart : Part Fleet Probe := ⟨(·.probe), fun p f => { f with probe := p }⟩

/-! ## Backends -/

/-- The backend of a store in memory. -/
def memoryBackend (n : Nat) : Backend Fleet := MemoryStore.backend.faulty.within (memoryPart n)

/-- The backend behind the probe. -/
def probeBackend : Backend Fleet := (memoryBackend probedMemory).probed probePart

/-- The client of the document database. -/
def documentClient : DocumentClient Fleet := DocumentService.client.within documentPart

/-- The client of the table service. -/
def tableClient : TableClient Fleet := TableService.client.within tablePart

/-! ## Connectors -/

/-- Opens this backend whatever the configuration. -/
def opening (b : Backend Fleet) : Connector Fleet := fun _ f => (.ok b, f)

/-- Builds a client that is already there: notes the account, and fails as
often as the builder of this number has been told to. -/
def building {Account Client : Type} (n : Nat) (line : Account → String) (client : Client) :
    ClientBuilder Fleet Account Client := fun account f =>
  let f := { f with builds := f.builds ++ [line account] }
  match f.buildFailures[n]? with
  | some (e :: rest) => (.error e, { f with buildFailures := f.buildFailures.insert n rest })
  | _ => (.ok client, f)

/-- How a document account is noted. -/
def documentLine (a : DocumentAccount) : String := a.endpoint ++ " " ++ a.key

/-- How a table account is noted; a hyphen stands for a key that is not
given. -/
def tableLine (a : TableAccount) : String := a.endpoint ++ " " ++ a.key.getD "-"

/-- The connector to the document database; with a number, through the
builder of that number. -/
def documentConnector : Option Nat → Connector Fleet
  | none => DocumentClient.connector (.always documentClient)
  | some n => DocumentClient.connector (building n documentLine documentClient)

/-- The connector to the table service; with a number, through the builder
of that number. -/
def tableConnector : Option Nat → Connector Fleet
  | none => TableClient.connector (.always tableClient)
  | some n => TableClient.connector (building n tableLine tableClient)

end Fleet

end LeaseStore
