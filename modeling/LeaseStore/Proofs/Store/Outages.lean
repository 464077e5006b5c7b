/-
LeaseStore.Proofs.Store.Outages — backends that may fail at any call.

`Outages` say of each operation of a backend which of its calls to come fail,
and how: any pattern at all. An exposed backend (`Backend.exposed`) meets
them before it does anything.

What is left of the laws of a backend then is `Backend.Steady`: a delete may
fail at any time, as long as it leaves the records alone, and the other
operations fail only if a failure is planned for them. So a cleanup may go
wrong as it likes in a state that is calm otherwise.

* `Backend.Lawful.exposed` — a lawful backend is steady when it is exposed.
* `Fleet.steady_exposed` — so are the shared backends of a fleet.
-/
import LeaseStore.Proofs.Store.Fleet

namespace LeaseStore

variable {σ : Type}

/-! ## Outages -/

/-- What becomes of the calls to come, for each operation in order: a call
fails with an error, or it gets through. -/
abbrev Outages := BackendOp → Nat → Option BackendError

namespace Outages

/-- The outages after one more call of an operation. -/
def next (o : Outages) (op : BackendOp) : Outages := fun op' n =>
  if op' = op then o op' (n + 1) else o op' n

/-- No call fails. -/
def none : Outages := fun _ _ => .none

/-- Every delete fails, and nothing else. -/
def deletes : Outages := fun op _ =>
  if op = .delete then some (.passing "unreachable") else .none

/-- Only deletes may fail. -/
def Mild (o : Outages) : Prop := ∀ op, op ≠ .delete → ∀ n, o op n = .none

theorem Mild.next {o : Outages} (h : o.Mild) (op : BackendOp) : (o.next op).Mild := by
  intro op' hop n
  unfold Outages.next
  split <;> exact h op' hop _

end Outages

/-- An operation that meets an outage before it does anything. -/
def Backend.struck {α : Type} (op : BackendOp) (f : Answering σ α) : Answering (σ × Outages) α
  | (s, o) =>
    match o op 0 with
    | some e => (.error e, (s, o.next op))
    | none =>
      let (r, s) := f s
      (r, (s, o.next op))

/-- A backend that meets outages. -/
def Backend.exposed (b : Backend σ) : Backend (σ × Outages) where
  name := b.name
  ensure c := struck .ensure (b.ensure c)
  create c r := struck .create (b.create c r)
  upsert c r w := struck .upsert (b.upsert c r w)
  read c id := struck .read (b.read c id)
  startDelete c id := fun (s, o) =>
    let (d, s) := b.startDelete c id s
    ({ delay := d.delay, settle := struck .delete d.settle }, (s, o))
  list c := struck .list (b.list c)
  health := struck .health b.health

/-- The view of a store that meets outages; it is calm if only deletes may
fail. -/
def View.exposed (V : View σ) : View (σ × Outages) := V.along Prod.fst fun s => s.2.Mild

/-- The connector opens backends that meet outages. -/
def Connector.exposed (k : Connector σ) : Connector (σ × Outages) := fun c (s, o) =>
  ((k c s).1.map Backend.exposed, ((k c s).2, o))

/-! ## Steady backends -/

/-- The outcomes of a delete that may fail for no reason. -/
inductive View.Drops (V : View σ) (s s' : σ) (c : CollectionRef) (id : String) :
    Except BackendError Unit → Prop
  | removed : V.look s c id ≠ none → V.Removed s s' c id → Drops V s s' c id (.ok ())
  | kept {e : BackendError} : V.Same s s' → Drops V s s' c id (.error e)

/-- The operations of a backend do to a view what their names say, though a
delete may fail at any time. -/
structure Backend.Steady (b : Backend σ) (V : View σ) : Prop where
  ensure : ∀ c s, V.Sound s → V.Ensures s (b.ensure c s).2 c (b.ensure c s).1
  create : ∀ c r s, V.Sound s →
    V.Writes s (b.create c r s).2 c r (V.look s c r.id = none) .alreadyExists (b.create c r s).1
  upsert : ∀ c r w s, (∃ token, w = .ofToken token) → V.Sound s →
    V.Writes s (b.upsert c r w s).2 c r (w.Meets (V.look s c r.id)) .preconditionFailed
      (b.upsert c r w s).1
  read : ∀ c id s, V.Sound s → V.Reads s (b.read c id s).2 c id (b.read c id s).1
  delay : ∀ c id s, (b.startDelete c id s).1.delay = 0
  delete : ∀ c id s, V.Sound s → V.Drops s (b.deleteNow c id s).2 c id (b.deleteNow c id s).1
  list : ∀ c s, V.Sound s → V.Lists s (b.list c s).2 c (b.list c s).1
  health : ∀ s, V.Sound s → V.Answers s (b.health s).2 (b.health s).1

/-- A connector opens steady backends, touches no record, and answers
whatever the state. -/
structure Connector.Steady (k : Connector σ) (V : View σ) : Prop where
  same : ∀ c s, V.Same s (k c s).2
  reply : ∀ c s s', (k c s).1 = (k c s').1
  opens : ∀ c s b, (k c s).1 = .ok b → b.Steady V

theorem View.Deletes.drops {V : View σ} {s s' : σ} {c : CollectionRef} {id : String}
    {reply : Except BackendError Unit} (h : V.Deletes s s' c id reply) :
    V.Drops s s' c id reply := by
  cases h with
  | removed hlook hrem => exact .removed hlook hrem
  | absent _ hsame => exact .kept hsame
  | failed _ hsame => exact .kept hsame

namespace Backend

variable {b : Backend σ} {V : View σ}

/-- A backend whose deletes fail only as planned is steady. -/
theorem Lawful.steady (h : b.Lawful V) : b.Steady V where
  ensure := h.ensure
  create := h.create
  upsert := h.upsert
  read := h.read
  delay := h.delay
  delete c id s hs := (h.delete c id s hs).drops
  list := h.list
  health := h.health

/-- An operation meets an outage, or is carried out. -/
theorem struck_cases {α : Type} (op : BackendOp) (f : Answering σ α) (s : σ) (o : Outages) :
    (∃ e, o op 0 = some e ∧ struck op f (s, o) = (.error e, (s, o.next op))) ∨
      struck op f (s, o) = ((f s).1, ((f s).2, o.next op)) := by
  cases h : o op 0 with
  | some e => exact .inl ⟨e, rfl, by simp only [struck, h]⟩
  | none => exact .inr (by simp only [struck, h])

/-- An operation other than a delete keeps its law, where an outage counts as
a failure: none is planned in a calm state. -/
theorem law_of_struck {α : Type} {op : BackendOp} (hop : op ≠ .delete) {f : Answering σ α}
    {L : σ × Outages → σ × Outages → Except BackendError α → Prop} {s : σ} {o : Outages}
    (hfailed : ∀ e o', ¬ o.Mild → V.exposed.Same (s, o) (s, o') → L (s, o) (s, o') (.error e))
    (hthrough : ∀ o', (o.Mild → o'.Mild) → L (s, o) ((f s).2, o') (f s).1) :
    L (s, o) (struck op f (s, o)).2 (struck op f (s, o)).1 := by
  obtain ⟨e, he, heq⟩ | heq := struck_cases op f s o
  · rw [heq]
    have hmild : ¬ o.Mild := by
      intro hmild
      rw [hmild op hop 0] at he
      cases he
    exact hfailed e _ hmild ((View.Same.refl s).along (f := Prod.fst) fun h => h.next op)
  · rw [heq]
    exact hthrough _ fun h => h.next op

/-- **A lawful backend is steady when it is exposed.** -/
theorem Lawful.exposed (h : b.Lawful V) : b.exposed.Steady V.exposed where
  ensure c := fun (s, o) hs =>
    law_of_struck (V := V) (by decide) (L := fun x y reply => V.exposed.Ensures x y c reply)
      (fun _ _ hmild hsame => .failed (fun hc => hmild hc.2) hsame)
      fun _ ho => (h.ensure c s hs).along (f := Prod.fst) ho
  create c r := fun (s, o) hs =>
    law_of_struck (V := V) (by decide)
      (L := fun x y reply =>
        V.exposed.Writes x y c r (V.exposed.look x c r.id = none) .alreadyExists reply)
      (fun _ _ hmild hsame => .failed (fun hc => hmild hc.1.2) hsame)
      fun _ ho => (h.create c r s hs).along (f := Prod.fst) ho
  upsert c r w := fun (s, o) hw hs =>
    law_of_struck (V := V) (by decide)
      (L := fun x y reply =>
        V.exposed.Writes x y c r (w.Meets (V.exposed.look x c r.id)) .preconditionFailed reply)
      (fun _ _ hmild hsame => .failed (fun hc => hmild hc.1.2) hsame)
      fun _ ho => (h.upsert c r w s hw hs).along (f := Prod.fst) ho
  read c id := fun (s, o) hs =>
    law_of_struck (V := V) (by decide) (L := fun x y reply => V.exposed.Reads x y c id reply)
      (fun _ _ hmild hsame => .failed (fun hc => hmild hc.1.2) hsame)
      fun _ ho => (h.read c id s hs).along (f := Prod.fst) ho
  delay c id := fun (s, _) => h.delay c id s
  delete c id := fun (s, o) hs => by
    have hlaw := h.delete c id s hs
    -- a delete is struck once it is under way, so it has begun in either case
    obtain ⟨e, -, heq⟩ | heq :=
      struck_cases .delete (b.startDelete c id s).1.settle (b.startDelete c id s).2 o
    · rw [show b.exposed.deleteNow c id (s, o) = _ from heq]
      exact .kept ((h.started c id s).along (f := Prod.fst) fun hmild => hmild.next .delete)
    · rw [show b.exposed.deleteNow c id (s, o) = _ from heq]
      have hdeletes : V.exposed.Deletes (s, o) ((b.deleteNow c id s).2, o.next .delete) c id
          (b.deleteNow c id s).1 := hlaw.along (f := Prod.fst) fun hmild => hmild.next .delete
      exact hdeletes.drops
  list c := fun (s, o) hs =>
    law_of_struck (V := V) (by decide) (L := fun x y reply => V.exposed.Lists x y c reply)
      (fun _ _ hmild hsame => .failed (fun hc => hmild hc.1.2) hsame)
      fun _ ho => (h.list c s hs).along (f := Prod.fst) ho
  health := fun (s, o) hs =>
    law_of_struck (V := V) (by decide) (L := fun x y reply => V.exposed.Answers x y reply)
      (fun _ _ hmild hsame => .failed (fun hc => hmild hc.2) hsame)
      fun _ ho => (h.health s hs).along (f := Prod.fst) ho

end Backend

/-! ## Fleets -/

namespace Fleet

/-- What the connector of a kind answers does not depend on the state. -/
theorem shared_fst (kind : BackendKind) (c : Config) (f f' : Fleet) :
    (shared kind c f).1 = (shared kind c f').1 := by
  cases kind with
  | memory => rfl
  | document =>
    simp only [shared, documentConnector, DocumentClient.connector]
    split <;> rfl
  | table =>
    simp only [shared, tableConnector, TableClient.connector]
    split <;> rfl

/-- The shared backends are steady, as lawful ones are. -/
theorem steady_shared (kind : BackendKind) : (shared kind).Steady (view kind) where
  same := (lawful_shared kind).same
  reply c f f' := shared_fst kind c f f'
  opens c f b h := ((lawful_shared kind).opens c f b h).steady

/-- **The shared backends are steady when they are exposed.** -/
theorem steady_exposed (kind : BackendKind) :
    (shared kind).exposed.Steady (view kind).exposed where
  same c := fun (f, _) => ((lawful_shared kind).same c f).along (f := Prod.fst) fun h => h
  reply c := fun (f, _) (f', _) => congrArg (Except.map Backend.exposed) (shared_fst kind c f f')
  opens c := fun (f, _) b h => by
    have hlaw := (lawful_shared kind).opens c f
    cases hb : (shared kind c f).1 with
    | error err =>
      simp only [Connector.exposed, hb] at h
      cases h
    | ok b' =>
      simp only [Connector.exposed, hb] at h
      cases h
      exact (hlaw b' hb).exposed

end Fleet

end LeaseStore
