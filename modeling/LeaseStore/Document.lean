/-
LeaseStore.Document — records in a document database.

A `DocumentClient` is the interface `DocumentService`, and its `backend` the
`DocumentAdapter` over one.

A `DocumentClient` is what is asked of a document database: databases
that hold containers, containers that hold JSON documents by id, each with
an entity tag that changes with every write, and conditions on that tag.
Any such client makes a backend: a record is one document, and its token
is the entity tag (`LeaseStore.Document.Codec`).
-/
import LeaseStore.Backend
import LeaseStore.Document.Codec
import LeaseStore.Service

namespace LeaseStore

/-- The requests to a document database with state `σ`. -/
structure DocumentClient (σ : Type) where
  /-- Creates a database unless it exists. -/
  createDatabase : String → Requesting σ Unit
  /-- Creates a container with a throughput unless it exists. -/
  createContainer : CollectionRef → Nat → Requesting σ Unit
  read : CollectionRef → String → Requesting σ Json
  /-- Stores a document under a new id. -/
  create : CollectionRef → Json → Requesting σ Json
  /-- Stores a document; with a tag, only in place of the version that
  carries it. -/
  upsert : CollectionRef → Json → Option String → Requesting σ Json
  delete : CollectionRef → String → Requesting σ Unit
  query : CollectionRef → String → Requesting σ (List Json)
  /-- Asks whether the account can be reached. -/
  ping : Requesting σ Unit

namespace DocumentClient

/-- The query for all documents of a container. -/
def selectAll : String := "SELECT * FROM c"

/-- A client as a backend (`DocumentAdapter`). New containers get this
throughput. -/
def backend {σ : Type} (client : DocumentClient σ) (throughput : Nat) : Backend σ where
  name := "document"
  ensure c := fun s =>
    match client.createDatabase c.database s with
    | (.error e, s) => (.error e.toBackendError, s)
    | (.ok (), s) => Backend.asking (client.createContainer c throughput) .ok s
  create c r := Backend.asking (client.create c r.toDocument) Record.ofStored
  upsert c r w := Backend.asking (client.upsert c r.toDocument w.token?) Record.ofStored
  read c id := Backend.asking (client.read c id) Record.ofStored
  startDelete := Backend.immediately fun c id => Backend.asking (client.delete c id) .ok
  list c := Backend.asking (client.query c selectAll) fun docs => docs.mapM Record.ofStored
  health := Backend.asking client.ping .ok

/-- The client of a service that is a part of a larger state. -/
def within {σ τ : Type} (client : DocumentClient τ) (p : Part σ τ) : DocumentClient σ where
  createDatabase database := p.lift (client.createDatabase database)
  createContainer c throughput := p.lift (client.createContainer c throughput)
  read c id := p.lift (client.read c id)
  create c doc := p.lift (client.create c doc)
  upsert c doc tag := p.lift (client.upsert c doc tag)
  delete c id := p.lift (client.delete c id)
  query c text := p.lift (client.query c text)
  ping := p.lift client.ping

end DocumentClient

end LeaseStore
