/-
LeaseStore.Table.Service — a table service within this process.

The `MockTableService`, with its state and its `row_key_filter`
(`rowOfFilter?`).

The service holds tables of entities in the order of their keys. Its
entity tags number the writes it was asked for; a write takes its number
before anything is looked up, so a refused one has used it up as well.
-/
import LeaseStore.Table
import LeaseStore.Text.Blank
import LeaseStore.Text.Digits

namespace LeaseStore

open LeaseStore.Text

/-- A table service. -/
structure TableService where
  tables : Std.ExtTreeMap String (Std.ExtTreeMap TableKey TableEntity) := ∅
  /-- The number of entity tags given out. -/
  tags : Nat := 0
  traffic : Traffic := {}

namespace TableService

instance : Inhabited TableService := ⟨{}⟩

/-! ## Refusals -/

/-- The refusal of a request to a table that is not there. -/
def noTable (table : String) : ServiceError := ⟨404, some "TableNotFound", "table " ++ table⟩

/-- The refusal of a request for an entity that is not there. -/
def noEntity (key : TableKey) : ServiceError :=
  ⟨404, some ServiceError.resourceNotFound, "entity " ++ key.partition⟩

/-- The refusal to insert what is there. -/
def taken (key : TableKey) : ServiceError :=
  ⟨409, some ServiceError.entityExists, "entity " ++ key.partition ++ " exists"⟩

/-- The refusal of a stale entity tag. -/
def staleTag (key : TableKey) : ServiceError :=
  ⟨412, some ServiceError.conditionNotMet, "etag mismatch on " ++ key.partition⟩

/-- The refusal of a filter that does not ask for a row key. -/
def unsupported (filter : String) : ServiceError :=
  ⟨400, none, "unsupported filter: " ++ filter⟩

/-! ## The state -/

/-- The entity that a table holds under its keys. -/
def entity? (s : TableService) (table : String) (key : TableKey) : Option TableEntity :=
  s.tables[table]?.bind (·[key]?)

/-- The number of entities of a table. -/
def size (s : TableService) (table : String) : Nat := (s.tables[table]?.map (·.size)).getD 0

/-- The entity tag of a number. -/
def tagOf (n : Nat) : String := "W/\"datetime'" ++ decimal 20 n ++ "'\""

/-- The row key that a filter asks for (`row_key_filter`). -/
def rowOfFilter? (filter : String) : Option String :=
  let opening := "RowKey eq '".toList
  let text := trim filter.toList
  if opening.isPrefixOf text then
    let rest := text.drop opening.length
    if rest.getLast? = some '\'' then some (String.ofList rest.dropLast) else none
  else none

/-! ## Requests -/

/-- The traffic of a service. -/
def trafficPart : Part TableService Traffic := ⟨(·.traffic), fun t s => { s with traffic := t }⟩

/-- A request to a table that must be there. -/
def inTable {α : Type} (table : String)
    (f : Std.ExtTreeMap TableKey TableEntity → Requesting TableService α) :
    Requesting TableService α := fun s =>
  match s.tables[table]? with
  | none => (.error (noTable table), s)
  | some rows => f rows s

/-- The entity under a key. -/
def fetch (key : TableKey) (rows : Std.ExtTreeMap TableKey TableEntity) :
    Requesting TableService TableEntity := fun s =>
  match rows[key]? with
  | some e => (.ok e, s)
  | none => (.error (noEntity key), s)

/-- A write that `check` has no objection to, given the stored version. -/
def write (table : String) (e : TableEntity)
    (check : TableKey → Option TableEntity → Option ServiceError) :
    Requesting TableService TableEntity := fun s =>
  let stored := { e with tag := tagOf (s.tags + 1) }
  inTable table (fun rows s =>
    match check e.key rows[e.key]? with
    | some refusal => (.error refusal, s)
    | none => (.ok stored, { s with tables := s.tables.insert table (rows.insert e.key stored) }))
    { s with tags := s.tags + 1 }

/-- The objection to an entity whose keys are taken. -/
def mustBeNew (key : TableKey) (stored : Option TableEntity) : Option ServiceError :=
  if stored.isSome then some (taken key) else none

/-- The objection to a stale entity tag, or to an entity that is gone. -/
def mustMatch (tag : Option String) (key : TableKey) (stored : Option TableEntity) :
    Option ServiceError :=
  match tag, stored with
  | none, _ => none
  | some _, none => some (noEntity key)
  | some tag, some e =>
    if tag = WriteCondition.wildcard ∨ e.tag = tag then none else some (staleTag key)

/-- The requests to the service. -/
def client : TableClient TableService where
  createTable table := Traffic.counted trafficPart .provision fun s =>
    if table ∈ s.tables then (.ok (), s)
    else (.ok (), { s with tables := s.tables.insert table ∅ })
  get table key := Traffic.counted trafficPart .read (inTable table (fetch key))
  insert table e := Traffic.counted trafficPart .create (write table e mustBeNew)
  upsert table e tag := Traffic.counted trafficPart .upsert (write table e (mustMatch tag))
  delete table key := Traffic.counted trafficPart .delete <| inTable table fun rows s =>
    if key ∈ rows then (.ok (), { s with tables := s.tables.insert table (rows.erase key) })
    else (.error (noEntity key), s)
  query table filter := Traffic.counted trafficPart .query fun s =>
    match rowOfFilter? filter with
    | none => (.error (unsupported filter), s)
    | some row =>
      inTable table (fun rows s =>
        (.ok ((rows.toList.map (·.2)).filter (·.key.row = row)), s)) s
  ping := Traffic.counted trafficPart .ping fun s => (.ok (), s)

end TableService

end LeaseStore
