/-
LeaseStore.Table — records in a table service.

A `TableClient` is the interface `TableService`, and its `backend` the
`TableAdapter` over one.

A `TableClient` is what is asked of a table service: tables of entities
under a pair of keys, each with an entity tag that changes with every
write, and conditions on that tag. Any such client makes a backend: a
collection is one table, whatever its database, and a record is one entity
in a partition of its own (`LeaseStore.Table.Codec`). A conditional
replacement of an entity that is gone is a lost race for the backend, not
a miss.
-/
import LeaseStore.Service
import LeaseStore.Table.Codec

namespace LeaseStore

/-- The requests to a table service with state `σ`. -/
structure TableClient (σ : Type) where
  /-- Creates a table unless it exists. -/
  createTable : String → Requesting σ Unit
  get : String → TableKey → Requesting σ TableEntity
  /-- Stores an entity under new keys. -/
  insert : String → TableEntity → Requesting σ TableEntity
  /-- Stores an entity; with a tag, only in place of the version that
  carries it. -/
  upsert : String → TableEntity → Option String → Requesting σ TableEntity
  delete : String → TableKey → Requesting σ Unit
  query : String → String → Requesting σ (List TableEntity)
  /-- Asks whether the account can be reached. -/
  ping : Requesting σ Unit

namespace TableClient

/-- The filter for the entities of records (`record_filter`). -/
def recordFilter : String := "RowKey eq '" ++ TableKey.recordRow ++ "'"

/-- The failure of a conditional write, as an engine has to see it. -/
def lostRace : BackendError → BackendError
  | .notFound => .preconditionFailed
  | e => e

/-- A client as a backend (`TableAdapter`). -/
def backend {σ : Type} (client : TableClient σ) : Backend σ where
  name := "table"
  ensure c := Backend.asking (client.createTable c.collection) .ok
  create c r := Backend.asking (client.insert c.collection r.toEntity) Record.ofEntity
  upsert c r w := fun s =>
    match client.upsert c.collection r.toEntity w.token? s with
    | (.ok stored, s) => (Record.ofEntity stored, s)
    | (.error e, s) =>
      match w with
      | .always => (.error e.toBackendError, s)
      | .ifToken _ => (.error (lostRace e.toBackendError), s)
  read c id := Backend.asking (client.get c.collection (.ofId id)) Record.ofEntity
  startDelete := Backend.immediately fun c id =>
    Backend.asking (client.delete c.collection (.ofId id)) .ok
  list c := Backend.asking (client.query c.collection recordFilter) fun entities =>
    entities.mapM Record.ofEntity
  health := Backend.asking client.ping .ok

/-- The client of a service that is a part of a larger state. -/
def within {σ τ : Type} (client : TableClient τ) (p : Part σ τ) : TableClient σ where
  createTable table := p.lift (client.createTable table)
  get table key := p.lift (client.get table key)
  insert table e := p.lift (client.insert table e)
  upsert table e tag := p.lift (client.upsert table e tag)
  delete table key := p.lift (client.delete table key)
  query table text := p.lift (client.query table text)
  ping := p.lift client.ping

end TableClient

end LeaseStore
