/-
LeaseStore.Document.Service — a document database within this process.

The `MockDocumentService`, with its state and its `next_etag` (`nextTag`).

The service holds databases and containers, and in each container the
documents in the order of their ids. Its entity tags number the writes it
was asked for: a write takes its number once its document is known to have
an id, and a write that is then refused has used it up.
-/
import LeaseStore.Document
import LeaseStore.Text.Blank
import LeaseStore.Text.Digits

namespace LeaseStore

open LeaseStore.Text

/-- A container of documents. -/
structure Container where
  throughput : Nat := 0
  documents : Std.ExtTreeMap String Json := ∅

/-- A document database. -/
structure DocumentService where
  databases : List String := []
  containers : Std.ExtTreeMap CollectionRef Container := ∅
  /-- The number of entity tags given out. -/
  tags : Nat := 0
  traffic : Traffic := {}

namespace DocumentService

instance : Inhabited DocumentService := ⟨{}⟩

/-! ## Refusals -/

/-- The refusal of a request for something that is not there. -/
def absent (what : String) : ServiceError := ⟨404, none, what⟩

/-- The refusal of a document without an id. -/
def withoutId : ServiceError := ⟨400, none, "document has no string id"⟩

/-- The refusal to create what is there. -/
def taken (id : String) : ServiceError := ⟨409, none, "document " ++ id ++ " exists"⟩

/-- The refusal of a stale entity tag. -/
def staleTag (id : String) : ServiceError := ⟨412, none, "etag mismatch on " ++ id⟩

/-- The refusal of a query other than the one for all documents. -/
def unsupported (query : String) : ServiceError := ⟨400, none, "unsupported query: " ++ query⟩

/-! ## The state -/

/-- The document that a container holds under an id. -/
def document? (s : DocumentService) (c : CollectionRef) (id : String) : Option Json :=
  s.containers[c]?.bind (·.documents[id]?)

/-- The throughput of a container. -/
def throughput? (s : DocumentService) (c : CollectionRef) : Option Nat :=
  s.containers[c]?.map (·.throughput)

/-- The entity tag of a number. -/
def tagOf (n : Nat) : String := "\"" ++ hex 8 n ++ "-0000\""

/-- Takes the next entity tag (`next_etag`). -/
def nextTag (s : DocumentService) : String × DocumentService :=
  (tagOf (s.tags + 1), { s with tags := s.tags + 1 })

/-- Puts a document under its id into a container that has this content. -/
def put (s : DocumentService) (c : CollectionRef) (content : Container) (id : String)
    (doc : Json) : DocumentService :=
  { s with
    containers := s.containers.insert c
      { content with documents := content.documents.insert id doc } }

/-- Puts a document into a container without a request. The container
comes into being if it has to; a document without an id is passed over. -/
def place (s : DocumentService) (c : CollectionRef) (doc : Json) : DocumentService :=
  let (tag, s) := s.nextTag
  match Document.id? doc with
  | none => s
  | some id =>
    s.put c (s.containers[c]?.getD {}) id (doc.setMember Document.tagName (.string tag))

/-! ## Requests -/

/-- The traffic of a service. -/
def trafficPart : Part DocumentService Traffic := ⟨(·.traffic), fun t s => { s with traffic := t }⟩

/-- A request to a container that must be there. -/
def inContainer {α : Type} (c : CollectionRef)
    (f : Container → Requesting DocumentService α) : Requesting DocumentService α := fun s =>
  match s.containers[c]? with
  | none => (.error (absent ("container " ++ c.render)), s)
  | some content => f content s

/-- The document under an id. -/
def fetch (id : String) (content : Container) : Requesting DocumentService Json := fun s =>
  match content.documents[id]? with
  | some doc => (.ok doc, s)
  | none => (.error (absent ("document " ++ id)), s)

/-- A write that `check` has no objection to, given the stored version. -/
def write (c : CollectionRef) (doc : Json)
    (check : String → Option Json → Option ServiceError) :
    Requesting DocumentService Json := fun s =>
  match Document.id? doc with
  | none => (.error withoutId, s)
  | some id =>
    let (tag, s) := s.nextTag
    inContainer c (fun content s =>
      match check id content.documents[id]? with
      | some e => (.error e, s)
      | none =>
        let stored := doc.setMember Document.tagName (.string tag)
        (.ok stored, s.put c content id stored)) s

/-- The objection to a document whose id is taken. -/
def mustBeNew (id : String) (stored : Option Json) : Option ServiceError :=
  if stored.isSome then some (taken id) else none

/-- The objection to a stale entity tag. -/
def mustMatch (tag : Option String) (id : String) (stored : Option Json) : Option ServiceError :=
  match tag with
  | none => none
  | some tag =>
    if stored.bind Document.tag? = some tag then none else some (staleTag id)

/-- The requests to the service. -/
def client : DocumentClient DocumentService where
  createDatabase database := Traffic.counted trafficPart .provision fun s =>
    (.ok (), { s with
      databases := if database ∈ s.databases then s.databases else s.databases ++ [database] })
  createContainer c throughput := Traffic.counted trafficPart .provision fun s =>
    if c.database ∉ s.databases then (.error (absent ("database " ++ c.database)), s)
    else if c ∈ s.containers then (.ok (), s)
    else (.ok (), { s with containers := s.containers.insert c { throughput } })
  read c id := Traffic.counted trafficPart .read (inContainer c (fetch id))
  create c doc := Traffic.counted trafficPart .create (write c doc mustBeNew)
  upsert c doc tag := Traffic.counted trafficPart .upsert (write c doc (mustMatch tag))
  delete c id := Traffic.counted trafficPart .delete <| inContainer c fun content s =>
    if id ∈ content.documents then
      (.ok (), { s with
        containers := s.containers.insert c
          { content with documents := content.documents.erase id } })
    else (.error (absent ("document " ++ id)), s)
  query c text := Traffic.counted trafficPart .query fun s =>
    if lowered (trimmed text) = lowered DocumentClient.selectAll then
      inContainer c (fun content s => (.ok (content.documents.toList.map (·.2)), s)) s
    else (.error (unsupported text), s)
  ping := Traffic.counted trafficPart .ping fun s => (.ok (), s)

end DocumentService

end LeaseStore
