/-
LeaseStore.Service — requests to a cloud service.

The `Instrumentation` (`Traffic`) of the services within this process, by the
`MockOp` (`ServiceOp`) that is asked for.

A request to a service is answered or refused. The services that run in
this process keep a record of their traffic (`Traffic`): which operations
were asked for, and which refusals they have been told to give. An
operation enters the traffic before it does anything else, and counts even
if it is refused.
-/
import LeaseStore.Backend

namespace LeaseStore

/-- A request to a service with state `σ`, with its answer. -/
abbrev Requesting (σ α : Type) := σ → Except ServiceError α × σ

/-- The kinds of requests. -/
inductive ServiceOp where
  /-- Creating a database, a container or a table. -/
  | provision
  | read
  | create
  | upsert
  | delete
  | query
  | ping
  deriving DecidableEq, Repr

namespace ServiceOp

/-- The name of a kind of request. -/
def name : ServiceOp → String
  | provision => "Provision"
  | read => "Read"
  | create => "Create"
  | upsert => "Upsert"
  | delete => "Delete"
  | query => "Query"
  | ping => "Ping"

/-- The kind of request of a name. -/
def ofName? (name : String) : Option ServiceOp :=
  [provision, read, create, upsert, delete, query, ping].find? (·.name = name)

end ServiceOp

/-- What was asked of a service, and the refusals it will give. -/
structure Traffic where
  /-- Every request so far, the latest first. -/
  requests : List ServiceOp := []
  /-- The refusals to come; those for one kind of request are given in
  order. -/
  refusals : List (ServiceOp × ServiceError) := []
  deriving DecidableEq, Repr

namespace Traffic

/-- The number of requests of a kind, refused ones included. -/
def count (t : Traffic) (op : ServiceOp) : Nat := t.requests.count op

/-- Refuses the next request of a kind, after the refusals set before. -/
def refuseNext (t : Traffic) (op : ServiceOp) (e : ServiceError) : Traffic :=
  { t with refusals := t.refusals ++ [(op, e)] }

/-- A request comes in. The answer is its refusal, if one was set. -/
def enter (t : Traffic) (op : ServiceOp) : Option ServiceError × Traffic :=
  ( (t.refusals.find? (·.1 = op)).map (·.2),
    { requests := op :: t.requests, refusals := t.refusals.eraseP (·.1 = op) } )

/-- A request of a kind: it enters the traffic, and is carried out unless
it is to be refused. -/
def counted {σ α : Type} (p : Part σ Traffic) (op : ServiceOp) (f : Requesting σ α) :
    Requesting σ α := fun s =>
  match (p.get s).enter op with
  | (some e, t) => (.error e, p.set t s)
  | (none, t) => f (p.set t s)

end Traffic

/-- What a backend makes of the answer to a request. -/
def Backend.asking {σ α β : Type} (request : Requesting σ α)
    (f : α → Except BackendError β) : Answering σ β := fun s =>
  match request s with
  | (.error e, s) => (.error e.toBackendError, s)
  | (.ok a, s) => (f a, s)

end LeaseStore
