/-
LeaseStore.Table.Codec — records as table entities.

The `TableEntity` of a record, with its `encode` (`toEntity`) and `decode`
(`ofEntity`).

An entity has a partition key, a row key, an entity tag and properties,
each a text or an integer. The partition key of a record's entity is the
record's id and the row key is always the same, so no two records share a
partition. The token is the entity tag. A property that is absent stands
for its default; one that is there must have its type, and the first one
that has not, in the order of the fields, is named by the failure.
-/
import LeaseStore.Record
import Std.Data.ExtTreeMap

namespace LeaseStore

/-- The keys of an entity; entities are in the order of the partition
first. -/
@[ext] structure TableKey where
  partition : String
  row : String
  deriving DecidableEq, Repr

namespace TableKey

instance : Ord TableKey := ⟨compareLex (compareOn partition) (compareOn row)⟩

instance : Std.TransOrd TableKey :=
  inferInstanceAs (Std.TransCmp (compareLex (compareOn partition) (compareOn row)))

instance : Std.LawfulEqOrd TableKey where
  eq_of_compare {a b} h := by
    have h' : (compare a.partition b.partition).then (compare a.row b.row) = .eq := h
    rw [Ordering.then_eq_eq, Std.LawfulEqOrd.compare_eq_iff_eq,
      Std.LawfulEqOrd.compare_eq_iff_eq] at h'
    exact TableKey.ext h'.1 h'.2

instance : Inhabited TableKey := ⟨⟨"", ""⟩⟩

/-- The row key of every record. -/
def recordRow : String := "record"

/-- The keys of the record of an id. -/
def ofId (id : String) : TableKey := ⟨id, recordRow⟩

end TableKey

/-- The value of a property. -/
inductive TableValue where
  | text (s : String)
  | int64 (t : Instant)
  deriving DecidableEq

/-- An entity of a table. -/
@[ext] structure TableEntity where
  key : TableKey
  /-- Assigned by the service; empty before the first write. -/
  tag : String := ""
  properties : Std.ExtTreeMap String TableValue := ∅

namespace TableEntity

instance : Inhabited TableEntity := ⟨{ key := default }⟩

/-- The failure of a property that has another type (`wrong_type`). -/
def mistyped (property expected : String) : BackendError :=
  .lasting ("entity property " ++ property ++ " is not " ++ expected)

/-- The text of a property, empty if it is absent. -/
def text (e : TableEntity) (property : String) : Except BackendError String :=
  match e.properties[property]? with
  | none => .ok ""
  | some (.text s) => .ok s
  | some (.int64 _) => .error (mistyped property "string")

/-- The instant of a property, or another if it is absent. -/
def instant (e : TableEntity) (property : String) (absent : Instant) :
    Except BackendError Instant :=
  match e.properties[property]? with
  | none => .ok absent
  | some (.int64 t) => .ok t
  | some (.text _) => .error (mistyped property "int64")

end TableEntity

namespace Record

/-- The properties of a record's entity. -/
def properties (r : Record) : List (String × TableValue) :=
  [ ("Data", .text r.data),
    ("ExpiresAtUtcMs", .int64 r.expiresAt),
    ("LastModifiedUtcMs", .int64 r.modifiedAt),
    ("LockOwnerId", .text r.lockOwner.id),
    ("LockOwnerType", .text r.lockOwner.kind),
    ("LockExpiresAtUtcMs", .int64 r.lockExpiresAt) ]

/-- The entity of a record (`encode`). -/
def toEntity (r : Record) : TableEntity :=
  { key := .ofId r.id, properties := .ofList r.properties }

/-- The record that an entity describes (`decode`). -/
def ofEntity (e : TableEntity) : Except BackendError Record := do
  let data ← e.text "Data"
  let expiresAt ← e.instant "ExpiresAtUtcMs" Instant.never
  let modifiedAt ← e.instant "LastModifiedUtcMs" Instant.epoch
  let ownerId ← e.text "LockOwnerId"
  let ownerKind ← e.text "LockOwnerType"
  let lockExpiresAt ← e.instant "LockExpiresAtUtcMs" Instant.epoch
  .ok ⟨e.key.partition, e.tag, data, expiresAt, modifiedAt, ⟨ownerId, ownerKind⟩, lockExpiresAt⟩

/-! ## Laws -/

/-- A record that is written and read back under an entity tag is the same
but for the tag. -/
theorem ofEntity_toEntity (r : Record) (tag : String) :
    ofEntity { r.toEntity with tag } = .ok { r with token := tag } := by
  have property (v : String × TableValue) (h : v ∈ r.properties) :
      (Std.ExtTreeMap.ofList r.properties)[v.1]? = some v.2 :=
    Std.ExtTreeMap.getElem?_ofList_of_mem (Std.LawfulEqCmp.compare_eq_iff_eq.2 rfl)
      (by simp [properties]) h
  have all : ∀ v ∈ r.properties, r.toEntity.properties[v.1]? = some v.2 := property
  simp only [properties, List.forall_mem_cons] at all
  obtain ⟨data, expires, modified, ownerId, ownerKind, lockExpires, _⟩ := all
  simp only [ofEntity, TableEntity.text, TableEntity.instant, data, expires, modified, ownerId,
    ownerKind, lockExpires]
  rfl

end Record

end LeaseStore
