/-
LeaseStore.Document.Recorder — a document database that only takes notes.

The recorder notes every request it is sent and answers from a list of
replies. It holds no documents, so it shows what a backend asks for and
what the backend makes of any answer, whether or not a database would ever
give it.
-/
import LeaseStore.Document

namespace LeaseStore

/-- A request as it was sent. -/
inductive DocumentRequest where
  | createDatabase (database : String)
  | createContainer (c : CollectionRef) (throughput : Nat)
  | read (c : CollectionRef) (id : String)
  | create (c : CollectionRef) (doc : Json)
  | upsert (c : CollectionRef) (doc : Json) (tag : Option String)
  | delete (c : CollectionRef) (id : String)
  | query (c : CollectionRef) (text : String)
  | ping

namespace DocumentRequest

/-- A request within a container, in its written form. -/
def within (name : String) (c : CollectionRef) (rest : List Json) : Json :=
  .array (.string name :: .string c.database :: .string c.collection :: rest)

/-- The written form of a request: its name, then what it is about. -/
def toJson : DocumentRequest → Json
  | createDatabase database => .array [.string "create_database", .string database]
  | createContainer c throughput => within "create_container" c [.int throughput]
  | read c id => within "read" c [.string id]
  | create c doc => within "create" c [doc]
  | upsert c doc tag => within "upsert" c [doc, (tag.map Json.string).getD .null]
  | delete c id => within "delete" c [.string id]
  | query c text => within "query" c [.string text]
  | ping => .array [.string "ping"]

end DocumentRequest

/-- The notes of a recorder, and what it answers. -/
structure DocumentRecorder where
  sent : List DocumentRequest := []
  /-- The answer to a query; the first of them is the answer to any other
  request for a document. -/
  replies : List Json := []

namespace DocumentRecorder

/-- Notes a request and gives an answer. -/
def note {α : Type} (r : DocumentRequest) (answer : List Json → α) :
    Requesting DocumentRecorder α := fun s =>
  (.ok (answer s.replies), { s with sent := s.sent ++ [r] })

/-- The requests to a recorder. A write without a reply is answered with
what was written. -/
def client : DocumentClient DocumentRecorder where
  createDatabase database := note (.createDatabase database) fun _ => ()
  createContainer c throughput := note (.createContainer c throughput) fun _ => ()
  read c id := note (.read c id) (·.headD .null)
  create c doc := note (.create c doc) (·.headD doc)
  upsert c doc tag := note (.upsert c doc tag) (·.headD doc)
  delete c id := note (.delete c id) fun _ => ()
  query c text := note (.query c text) id
  ping := note .ping fun _ => ()

end DocumentRecorder

end LeaseStore
