/-
LeaseStore.Backend — what an engine asks of a storage technology.

The interface `BackendAdapter`.

A backend is a set of operations on a state `σ`, which belongs to the
backend and may be shared with others. Each operation answers and leaves
a new state. A backend assigns a new token on every successful write and
tells the outcomes of `BackendError` apart; it knows nothing about
expiration or locks.

Deletes may take time, and several can be under way at once. Starting one
gives a `Pending`: how long it takes, and what happens when it settles.
-/
import LeaseStore.Collection
import LeaseStore.Record

namespace LeaseStore

/-- An operation on a state, with its answer. -/
abbrev Answering (σ α : Type) := σ → Except BackendError α × σ

/-- A delete under way. -/
structure Pending (σ : Type) where
  /-- The milliseconds it takes. -/
  delay : Nat
  /-- What it does in the end. -/
  settle : Answering σ Unit

/-- The operations of a storage technology. -/
structure Backend (σ : Type) where
  name : String
  /-- Creates the collection if it is missing. -/
  ensure : CollectionRef → Answering σ Unit
  /-- Stores a record under a new id. -/
  create : CollectionRef → Record → Answering σ Record
  /-- Stores a record if the condition admits the version it replaces. -/
  upsert : CollectionRef → Record → WriteCondition → Answering σ Record
  read : CollectionRef → String → Answering σ Record
  startDelete : CollectionRef → String → σ → Pending σ × σ
  /-- Every stored record, expired or not, in the order of the ids. -/
  list : CollectionRef → Answering σ (List Record)
  /-- Whether the backend can be reached. -/
  health : Answering σ Unit

/-- A state `τ` that is a part of the state `σ`. -/
structure Part (σ τ : Type) where
  get : σ → τ
  set : τ → σ → σ

namespace Part

/-- An operation on the part, as one on the whole. -/
def lift {σ τ α : Type} (p : Part σ τ) (f : τ → α × τ) (s : σ) : α × σ :=
  let (a, t) := f (p.get s)
  (a, p.set t s)

end Part

namespace Backend

/-- The delete of a backend that never waits. -/
def immediately {σ : Type} (delete : CollectionRef → String → Answering σ Unit) :
    CollectionRef → String → σ → Pending σ × σ :=
  fun c id s => ({ delay := 0, settle := delete c id }, s)

/-- A backend on a part of a larger state. -/
def within {σ τ : Type} (b : Backend τ) (p : Part σ τ) : Backend σ where
  name := b.name
  ensure c := p.lift (b.ensure c)
  create c r := p.lift (b.create c r)
  upsert c r w := p.lift (b.upsert c r w)
  read c id := p.lift (b.read c id)
  startDelete c id s :=
    let (d, s) := p.lift (b.startDelete c id) s
    ({ delay := d.delay, settle := p.lift d.settle }, s)
  list c := p.lift (b.list c)
  health := p.lift b.health

end Backend

end LeaseStore
