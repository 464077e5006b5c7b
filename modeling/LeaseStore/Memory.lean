/-
LeaseStore.Memory — a store held in memory.

What a `MemoryAdapter` holds and what it does with it: `ensure_collection_exists`
(`ensure`), `create`, `upsert`, `read`, `delete` and `list_all` (`list`).

Every collection is a table of records by id, and reading a whole
collection gives them in the order of the ids. The version tokens count
the successful writes of the store, so no token comes twice. A part that
cannot be foreseen follows the number; it is a parameter of the store, and
nothing here depends on it.
-/
import LeaseStore.Backend
import LeaseStore.Text.Describe
import LeaseStore.Text.Digits

namespace LeaseStore

open LeaseStore.Text

/-- A store held in memory. -/
structure MemoryStore where
  collections : Std.ExtTreeMap CollectionRef (Std.ExtTreeMap String Record) := ∅
  /-- The number of successful writes so far. -/
  writes : Nat := 0
  /-- What follows the number in the token of each write. -/
  salt : Nat → Nat

namespace MemoryStore

/-- A salt that spreads the numbers of the writes over 32 bits, and
differs from seed to seed. -/
def scatter (seed n : Nat) : Nat :=
  ((seed + 1) * 40503 + n * 2654435761 + 305419896) % 4294967296

/-- An empty store. -/
def fresh (seed : Nat) : MemoryStore := { salt := scatter seed }

instance : Inhabited MemoryStore := ⟨fresh 0⟩

/-- The token of the next write (`next_token`). -/
def nextToken (s : MemoryStore) : String :=
  "\"" ++ hex 16 s.writes ++ "-" ++ hex 8 (s.salt s.writes) ++ "\""

/-- The record that the store holds under an id. -/
def get? (s : MemoryStore) (c : CollectionRef) (id : String) : Option Record :=
  s.collections[c]?.bind (·[id]?)

/-- Whether a record is held, expired or not. -/
def contains (s : MemoryStore) (c : CollectionRef) (id : String) : Bool := (s.get? c id).isSome

/-- The number of records held in a collection. -/
def size (s : MemoryStore) (c : CollectionRef) : Nat := (s.collections[c]?.map (·.size)).getD 0

/-- The diagnostic form of a store. -/
def describe (s : MemoryStore) : String :=
  describeFields "MemoryAdapter" [("collections", toString s.collections.size)] true

/-! ## Operations -/

/-- The failure of every operation on a collection that is not there
(`missing_collection`). -/
def missing (c : CollectionRef) : BackendError :=
  .lasting ("collection " ++ c.render ++ " does not exist")

/-- Stores a record in a collection with these records. -/
def put (s : MemoryStore) (c : CollectionRef) (records : Std.ExtTreeMap String Record)
    (r : Record) : Record × MemoryStore :=
  let r := { r with token := s.nextToken }
  (r, { s with
    collections := s.collections.insert c (records.insert r.id r)
    writes := s.writes + 1 })

/-- Creates a collection if it is missing. -/
def ensure (c : CollectionRef) : Answering MemoryStore Unit := fun s =>
  if c ∈ s.collections then (.ok (), s)
  else (.ok (), { s with collections := s.collections.insert c ∅ })

/-- Stores a record under a new id. -/
def create (c : CollectionRef) (r : Record) : Answering MemoryStore Record := fun s =>
  match s.collections[c]? with
  | none => (.error (missing c), s)
  | some records =>
    if r.id ∈ records then (.error .alreadyExists, s)
    else
      let (stored, s) := s.put c records r
      (.ok stored, s)

/-- Whether a condition admits a write, given the record it replaces. A
demand for a version is not met by a record that is gone. -/
def admits (w : WriteCondition) (current : Option Record) : Bool :=
  match w, current with
  | .always, _ => true
  | .ifToken _, none => false
  | .ifToken _, some r => w.admits r.token

/-- Stores a record on a condition. -/
def upsert (c : CollectionRef) (r : Record) (w : WriteCondition) :
    Answering MemoryStore Record := fun s =>
  match s.collections[c]? with
  | none => (.error (missing c), s)
  | some records =>
    if admits w records[r.id]? then
      let (stored, s) := s.put c records r
      (.ok stored, s)
    else (.error .preconditionFailed, s)

/-- Reads a record. -/
def read (c : CollectionRef) (id : String) : Answering MemoryStore Record := fun s =>
  match s.collections[c]? with
  | none => (.error (missing c), s)
  | some records =>
    match records[id]? with
    | none => (.error .notFound, s)
    | some r => (.ok r, s)

/-- Deletes a record. -/
def delete (c : CollectionRef) (id : String) : Answering MemoryStore Unit := fun s =>
  match s.collections[c]? with
  | none => (.error (missing c), s)
  | some records =>
    if id ∈ records then
      (.ok (), { s with collections := s.collections.insert c (records.erase id) })
    else (.error .notFound, s)

/-- Reads every record of a collection. -/
def list (c : CollectionRef) : Answering MemoryStore (List Record) := fun s =>
  match s.collections[c]? with
  | none => (.error (missing c), s)
  | some records => (.ok (records.toList.map (·.2)), s)

/-- The store as a backend (`MemoryAdapter`). -/
def backend : Backend MemoryStore where
  name := "memory"
  ensure := ensure
  create := create
  upsert := upsert
  read := read
  startDelete := Backend.immediately delete
  list := list
  health := fun s => (.ok (), s)

end MemoryStore

end LeaseStore
