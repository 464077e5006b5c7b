/-
LeaseStore.Document.Codec — records as JSON documents.

The form `RecordDocument` of a record, with its `encode` (`toDocument`) and
`decode` (`ofStored`).

A document has a member for every field of the record. The token is not
written: the database keeps it as the document's entity tag, and hands it
out with the document. A document that is read may lack any member but the
id, and may have more; but a member that is there must have its type. A
document may also be an array, which gives the values in a fixed order and
may end early.
-/
import LeaseStore.Json
import LeaseStore.Record

namespace LeaseStore

namespace Document

/-- The member that holds the entity tag. -/
def tagName : String := "_etag"

/-- The members that describe a record, in the order that an array gives
them in. -/
def memberNames : List String :=
  ["id", tagName, "data", "expiresAtUtcMs", "lastModifiedUtcMs", "lockOwnerId",
    "lockOwnerType", "lockExpiresAtUtcMs"]

/-- The entity tag of a document. -/
def tag? (doc : Json) : Option String := (doc.member? tagName).bind (·.string?)

/-- The id of a document. -/
def id? (doc : Json) : Option String := (doc.member? "id").bind (·.string?)

/-- How to find the members of a document by name: nothing if its form
cannot describe a record. -/
def lookup? : Json → Option (String → Option Json)
  | .object members => some fun name => members.lookup name
  | .array items =>
    if items.length ≤ memberNames.length then
      some fun name => (memberNames.zip items).lookup name
    else none
  | _ => none

/-- The text of a member, empty if it is absent. -/
def text? (member : Option Json) : Option String :=
  match member with
  | none => some ""
  | some v => v.string?

/-- The instant of a member, or another if it is absent. -/
def instant? (absent : Instant) (member : Option Json) : Option Instant :=
  match member with
  | none => some absent
  | some v => v.int?.bind Instant.ofMs?

end Document

namespace Record

open Document

/-- The members of a record's document. -/
def members (r : Record) : List (String × Json) :=
  [ ("id", .string r.id),
    ("data", .string r.data),
    ("expiresAtUtcMs", .int r.expiresAt.ms),
    ("lastModifiedUtcMs", .int r.modifiedAt.ms),
    ("lockOwnerId", .string r.lockOwner.id),
    ("lockOwnerType", .string r.lockOwner.kind),
    ("lockExpiresAtUtcMs", .int r.lockExpiresAt.ms) ]

/-- The document of a record (`encode`). -/
def toDocument (r : Record) : Json := .object r.members

/-- The record that members describe. -/
def ofMembers? (member : String → Option Json) : Option Record := do
  let id ← (member "id").bind (·.string?)
  let token ← text? (member tagName)
  let data ← text? (member "data")
  let expiresAt ← instant? Instant.never (member "expiresAtUtcMs")
  let modifiedAt ← instant? Instant.epoch (member "lastModifiedUtcMs")
  let ownerId ← text? (member "lockOwnerId")
  let ownerKind ← text? (member "lockOwnerType")
  let lockExpiresAt ← instant? Instant.epoch (member "lockExpiresAtUtcMs")
  return ⟨id, token, data, expiresAt, modifiedAt, ⟨ownerId, ownerKind⟩, lockExpiresAt⟩

/-- The record that a document describes. -/
def ofDocument? (doc : Json) : Option Record := (lookup? doc).bind ofMembers?

/-- The record of a document that a database holds (`decode`). -/
def ofStored (doc : Json) : Except BackendError Record :=
  match ofDocument? doc with
  | some r => .ok r
  | none => .error (.failure "malformed record document" false (some .malformedDocument))

end Record

/-! ## Laws -/

namespace Instant

theorem ofMs?_ms (t : Instant) : ofMs? t.ms = some t := by
  simp [ofMs?, t.inRange]

end Instant

/-- A record that is written and read back under an entity tag is the same
but for the tag. -/
theorem Record.ofDocument?_setMember_toDocument (r : Record) (tag : String) :
    ofDocument? (r.toDocument.setMember Document.tagName (.string tag)) =
      some { r with token := tag } := by
  have time (absent t : Instant) : Document.instant? absent (some (.int t.ms)) = some t :=
    Instant.ofMs?_ms t
  show ofMembers? (fun name =>
    (Json.replaceMember Document.tagName (.string tag) r.members).lookup name) = _
  simp only [ofMembers?, Json.lookup_replaceMember, members, Document.tagName, String.reduceEq,
    ↓reduceIte, List.lookup_cons, String.reduceBEq, BEq.rfl, time]
  rfl

end LeaseStore
