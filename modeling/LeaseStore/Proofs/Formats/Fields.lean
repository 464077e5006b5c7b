/-
LeaseStore.Proofs.Formats.Fields — the fields of a record, one by one.

A record has eight fields, each a text or an instant. `Record.field` looks a
record up field by field, so what a codec does can be said once for all of
them. Any values of the right kinds are the fields of a record
(`Record.exists_field_eq`).

A field has a name in each of the written forms: as the member of a document,
with its place in an array, and as the property of an entity.
-/
import LeaseStore.Document.Codec
import LeaseStore.Table.Codec

namespace LeaseStore

/-- The kinds of values of a field. -/
inductive Kind where
  | text
  | time
  deriving DecidableEq

namespace Kind

/-- The JSON values of a kind: a time is an integer of 64 bits with a sign. -/
def Admits : Kind → Json → Prop
  | text, v => ∃ s, v = .string s
  | time, v => ∃ n, v = .int n ∧ -9223372036854775808 ≤ n ∧ n ≤ 9223372036854775807

end Kind

namespace TableValue

/-- The kind of a value. -/
def kind : TableValue → Kind
  | text _ => .text
  | int64 _ => .time

/-- A value as JSON. -/
def toJson : TableValue → Json
  | text s => .string s
  | int64 t => .int t.ms

theorem toJson_inj {x y : TableValue} : x.toJson = y.toJson ↔ x = y := by
  cases x <;> cases y <;> simp [toJson, Instant.ext_iff]

theorem kind_eq_text_iff {x : TableValue} : x.kind = .text ↔ ∃ s, x = text s := by
  cases x <;> simp [kind]

theorem kind_eq_time_iff {x : TableValue} : x.kind = .time ↔ ∃ t, x = int64 t := by
  cases x <;> simp [kind]

end TableValue

/-- A kind admits the values of that kind, written as JSON. -/
theorem Kind.admits_iff {k : Kind} {v : Json} :
    k.Admits v ↔ ∃ x : TableValue, x.kind = k ∧ v = x.toJson := by
  cases k with
  | text =>
    constructor
    · rintro ⟨s, rfl⟩
      exact ⟨.text s, rfl, rfl⟩
    · rintro ⟨x, hx, rfl⟩
      obtain ⟨s, rfl⟩ := TableValue.kind_eq_text_iff.mp hx
      exact ⟨s, rfl⟩
  | time =>
    constructor
    · rintro ⟨n, rfl, hn⟩
      exact ⟨.int64 ⟨n, hn⟩, rfl, rfl⟩
    · rintro ⟨x, hx, rfl⟩
      obtain ⟨t, rfl⟩ := TableValue.kind_eq_time_iff.mp hx
      exact ⟨t.ms, rfl, t.inRange⟩

namespace Record

/-- The fields of a record. -/
inductive Field where
  | id
  | token
  | data
  | expiresAt
  | modifiedAt
  | ownerId
  | ownerKind
  | lockExpiresAt
  deriving DecidableEq

namespace Field

/-- The kind of values that a field takes. -/
def kind : Field → Kind
  | expiresAt | modifiedAt | lockExpiresAt => .time
  | id | token | data | ownerId | ownerKind => .text

/-- What a field is taken for that is not given: a record does not expire, all
other instants are the epoch, and texts are empty. -/
def absent : Field → TableValue
  | expiresAt => .int64 Instant.never
  | modifiedAt | lockExpiresAt => .int64 Instant.epoch
  | id | token | data | ownerId | ownerKind => .text ""

/-- The member of a document. -/
def member : Field → String
  | id => "id"
  | token => "_etag"
  | data => "data"
  | expiresAt => "expiresAtUtcMs"
  | modifiedAt => "lastModifiedUtcMs"
  | ownerId => "lockOwnerId"
  | ownerKind => "lockOwnerType"
  | lockExpiresAt => "lockExpiresAtUtcMs"

/-- The place in an array. -/
def place : Field → Nat
  | id => 0
  | token => 1
  | data => 2
  | expiresAt => 3
  | modifiedAt => 4
  | ownerId => 5
  | ownerKind => 6
  | lockExpiresAt => 7

/-- The property of an entity. The id and the token have places of their own
there: they are the partition key and the tag. -/
def property : Field → String
  | id => "PartitionKey"
  | token => "ETag"
  | data => "Data"
  | expiresAt => "ExpiresAtUtcMs"
  | modifiedAt => "LastModifiedUtcMs"
  | ownerId => "LockOwnerId"
  | ownerKind => "LockOwnerType"
  | lockExpiresAt => "LockExpiresAtUtcMs"

/-- The fields that an entity has properties for. -/
def properties : List Field := [data, expiresAt, modifiedAt, ownerId, ownerKind, lockExpiresAt]

theorem kind_absent (f : Field) : f.absent.kind = f.kind := by
  cases f <;> rfl

theorem memberNames_getElem? (f : Field) : Document.memberNames[f.place]? = some f.member := by
  cases f <;> rfl

end Field

/-- The value of a field. -/
def field (r : Record) : Field → TableValue
  | .id => .text r.id
  | .token => .text r.token
  | .data => .text r.data
  | .expiresAt => .int64 r.expiresAt
  | .modifiedAt => .int64 r.modifiedAt
  | .ownerId => .text r.lockOwner.id
  | .ownerKind => .text r.lockOwner.kind
  | .lockExpiresAt => .int64 r.lockExpiresAt

/-- Any values of the right kinds are the fields of a record. -/
theorem exists_field_eq (x : Field → TableValue) (h : ∀ f, (x f).kind = f.kind) :
    ∃ r : Record, ∀ f, r.field f = x f := by
  obtain ⟨id, hid⟩ := TableValue.kind_eq_text_iff.mp (h .id)
  obtain ⟨token, htoken⟩ := TableValue.kind_eq_text_iff.mp (h .token)
  obtain ⟨data, hdata⟩ := TableValue.kind_eq_text_iff.mp (h .data)
  obtain ⟨expires, hexpires⟩ := TableValue.kind_eq_time_iff.mp (h .expiresAt)
  obtain ⟨modified, hmodified⟩ := TableValue.kind_eq_time_iff.mp (h .modifiedAt)
  obtain ⟨owner, howner⟩ := TableValue.kind_eq_text_iff.mp (h .ownerId)
  obtain ⟨kind, hkind⟩ := TableValue.kind_eq_text_iff.mp (h .ownerKind)
  obtain ⟨lock, hlock⟩ := TableValue.kind_eq_time_iff.mp (h .lockExpiresAt)
  refine ⟨⟨id, token, data, expires, modified, ⟨owner, kind⟩, lock⟩, fun f => ?_⟩
  cases f <;> simp [field, *]

end Record

end LeaseStore
