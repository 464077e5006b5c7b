/-
LeaseStore.Probe — a backend that is watched and interfered with.

A probe stands in front of another backend. It writes down every call it
gets, and before it passes a call on it does what its script says for
that operation: nothing, fail, or change a record first, as someone else
might have done just then. Its deletes can be made to take time, and it
knows how many of them were under way at once.
-/
import LeaseStore.Backend

namespace LeaseStore

/-- The operations of a backend. -/
inductive BackendOp where
  | ensure
  | create
  | upsert
  | read
  | delete
  | list
  | health
  deriving DecidableEq, Repr

namespace BackendOp

/-- The name of an operation. -/
def name : BackendOp → String
  | ensure => "ensure"
  | create => "create"
  | upsert => "upsert"
  | read => "read"
  | delete => "delete"
  | list => "list"
  | health => "health"

/-- The operation of a name. -/
def ofName? (name : String) : Option BackendOp :=
  [ensure, create, upsert, read, delete, list, health].find? (·.name = name)

end BackendOp

/-- What a probe does before it passes a call on. -/
inductive Interference where
  | nothing
  /-- The call fails. -/
  | fail (e : BackendError)
  /-- Someone else writes a record. -/
  | write (r : Record)
  /-- Someone else deletes a record. -/
  | remove (id : String)
  deriving DecidableEq

/-- What a probe has seen, and what it is going to do. -/
structure Probe where
  /-- The calls since the last look. -/
  log : List String := []
  /-- The interferences to come; those for one operation happen in order. -/
  script : List (BackendOp × Interference) := []
  /-- The milliseconds that a delete takes. -/
  deleteTime : Nat := 0
  /-- The deletes under way. -/
  deleting : Nat := 0
  /-- The most deletes under way at once since the last look. -/
  mostDeleting : Nat := 0

namespace Probe

instance : Inhabited Probe := ⟨{}⟩

/-- Writes down a call and takes what the script says for it. A call that
is about no record has the empty id, which is not written. -/
def observe (p : Probe) (op : BackendOp) (id : String) : Interference × Probe :=
  let entry := if id = "" then op.name else op.name ++ " " ++ id
  let next := match p.script.find? (·.1 = op) with
    | some (_, i) => i
    | none => .nothing
  (next, { p with log := p.log ++ [entry], script := p.script.eraseP (·.1 = op) })

/-- A delete begins. -/
def beginDelete (p : Probe) : Probe :=
  { p with deleting := p.deleting + 1, mostDeleting := max p.mostDeleting (p.deleting + 1) }

/-- A delete is over. -/
def endDelete (p : Probe) : Probe := { p with deleting := p.deleting - 1 }

/-- Forgets what has been seen so far. -/
def look (p : Probe) : Probe := { p with log := [], mostDeleting := p.deleting }

end Probe

namespace Backend

/-- Deletes a record without its taking time. -/
def deleteNow {σ : Type} (b : Backend σ) (c : CollectionRef) (id : String) :
    Answering σ Unit := fun s =>
  let (d, s) := b.startDelete c id s
  d.settle s

/-- What a probe does with a collection of the backend behind it. -/
def interfere {σ : Type} (b : Backend σ) (c : CollectionRef) : Interference → Answering σ Unit
  | .nothing, s => (.ok (), s)
  | .fail e, s => (.error e, s)
  | .write r, s =>
    match b.upsert c r .always s with
    | (.error e, s) => (.error e, s)
    | (.ok _, s) => (.ok (), s)
  | .remove id, s => b.deleteNow c id s

/-- One operation after another, if the first succeeds. -/
def followedBy {σ α : Type} (f : Answering σ Unit) (g : Answering σ α) : Answering σ α := fun s =>
  match f s with
  | (.error e, s) => (.error e, s)
  | (.ok (), s) => g s

/-- A call that is written down and interfered with. -/
def watched {σ α : Type} (b : Backend σ) (p : Part σ Probe) (c : CollectionRef) (op : BackendOp)
    (id : String) (f : Answering σ α) : Answering σ α := fun s =>
  let (i, s) := p.lift (·.observe op id) s
  followedBy (b.interfere c i) f s

/-- The delete of a backend behind a probe. What the script says for it
happens as it starts, so it may touch a record whose own delete is already
under way; a delete that the script lets fail takes its time all the same. -/
def startProbedDelete {σ : Type} (b : Backend σ) (p : Part σ Probe) (c : CollectionRef)
    (id : String) (s : σ) : Pending σ × σ :=
  let s := p.set (p.get s).beginDelete s
  let (i, s) := p.lift (·.observe .delete id) s
  let (outcome, s) := b.interfere c i s
  let settle (s : σ) : Except BackendError Unit × σ :=
    let s := p.set (p.get s).endDelete s
    match outcome with
    | .error e => (.error e, s)
    | .ok () => b.deleteNow c id s
  ({ delay := (p.get s).deleteTime, settle }, s)

/-- The backend `b` behind a probe. A question about the backend's health
is about no collection, so the script can only make it fail. -/
def probed {σ : Type} (b : Backend σ) (p : Part σ Probe) : Backend σ where
  name := "probe"
  ensure c := b.watched p c .ensure "" (b.ensure c)
  create c r := b.watched p c .create r.id (b.create c r)
  upsert c r w := b.watched p c .upsert r.id (b.upsert c r w)
  read c id := b.watched p c .read id (b.read c id)
  startDelete := b.startProbedDelete p
  list c := b.watched p c .list "" (b.list c)
  health := fun s =>
    match p.lift (·.observe .health "") s with
    | (.fail e, s) => (.error e, s)
    | (_, s) => b.health s

end Backend

end LeaseStore
