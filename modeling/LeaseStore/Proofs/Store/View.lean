/-
LeaseStore.Proofs.Store.View — what a store holds, in whatever shape.

Records in memory, documents and entities are three shapes of one thing. A
`View` says of a state what the engines can see of it: the record under an
id, the tokens that no write has been given yet, and whether an operation
may fail for reasons of its own. `Backend.Lawful` says what each operation
of a backend does to such a view, and each operation has exactly one law.

The outcome of an operation is one of three kinds, and the laws name them
alike:

* it did its work (`found`, `all`, `stored`, `removed`, `provided`, `reached`);
* it refused, because of what the store holds (`absent`, `refused`);
* it failed, which it can only do if a failure is planned or if the
  collection was never provided for (`failed`).

A refusal and a failure leave every record as it was.
-/
import LeaseStore.Probe

namespace LeaseStore

namespace WriteCondition

/-- The token names one version: it is neither empty nor the wildcard. -/
def IsToken (token : String) : Prop := token ≠ "" ∧ token ≠ wildcard

instance : DecidablePred IsToken := fun _ => inferInstanceAs (Decidable (_ ∧ _))

theorem ofToken_of_isToken {token : String} (h : IsToken token) :
    ofToken token = .ifToken token := by
  obtain ⟨hempty, hwild⟩ := h
  rw [ofToken, if_neg]
  rintro (h | h)
  · exact hempty h
  · exact hwild h

theorem ne_wildcard_of_ofToken {token : String} (h : ∃ t, ifToken token = ofToken t) :
    token ≠ wildcard := by
  obtain ⟨t, h⟩ := h
  rw [ofToken] at h
  split at h
  case isTrue => cases h
  case isFalse hne =>
    cases h
    exact fun heq => hne (.inr heq)

/-- The condition is met by what is stored, if anything is. -/
def Meets : WriteCondition → Option Record → Prop
  | always, _ => True
  | ifToken token, current => ∃ r, current = some r ∧ r.token = token

end WriteCondition

/-- What the engines can see of a state. -/
structure View (σ : Type) where
  /-- The collection that in truth holds what is put into a collection. -/
  shelf : CollectionRef → CollectionRef
  /-- The record that is held under an id. -/
  look : σ → CollectionRef → String → Option Record
  /-- No write has been given this token yet, and one may be. -/
  Unissued : σ → String → Prop
  /-- The collection is there. -/
  Provided : σ → CollectionRef → Prop
  /-- No failure is planned. -/
  Calm : σ → Prop
  /-- What is held describes records, each under its own id. -/
  Sound : σ → Prop
  isToken_of_unissued : ∀ {s t}, Unissued s t → WriteCondition.IsToken t
  id_of_look : ∀ {s c id r}, Sound s → look s c id = some r → r.id = id
  look_of_shelf : ∀ {s c c'}, shelf c = shelf c' → look s c = look s c'

namespace View

variable {σ : Type} (V : View σ)

/-! ## What an operation does to the view -/

/-- What lasts, whatever an operation does. -/
structure Passes (s s' : σ) : Prop where
  sound : V.Sound s → V.Sound s'
  calm : V.Calm s → V.Calm s'
  provided : ∀ c, V.Provided s c → V.Provided s' c
  unissued : ∀ t, V.Unissued s' t → V.Unissued s t

/-- Every record stays as it was. -/
structure Same (s s' : σ) : Prop extends Passes V s s' where
  look : ∀ c id, V.look s' c id = V.look s c id

/-- A record was stored with a token of its own. -/
structure Stored (s s' : σ) (c : CollectionRef) (r : Record) : Prop extends Passes V s s' where
  fresh : V.Unissued s r.token
  issued : ¬ V.Unissued s' r.token
  look : ∀ c' id, V.look s' c' id =
    if V.shelf c' = V.shelf c ∧ id = r.id then some r else V.look s c' id

/-- The record under an id was removed. -/
structure Removed (s s' : σ) (c : CollectionRef) (id : String) : Prop extends Passes V s s' where
  look : ∀ c' id', V.look s' c' id' =
    if V.shelf c' = V.shelf c ∧ id' = id then none else V.look s c' id'

variable {V} in
theorem Same.refl (s : σ) : V.Same s s :=
  ⟨⟨id, id, fun _ => id, fun _ => id⟩, fun _ _ => rfl⟩

variable {V} in
theorem Passes.trans {s t u : σ} (h : V.Passes s t) (h' : V.Passes t u) : V.Passes s u where
  sound := h'.sound ∘ h.sound
  calm := h'.calm ∘ h.calm
  provided c := h'.provided c ∘ h.provided c
  unissued x := h.unissued x ∘ h'.unissued x

variable {V} in
theorem Same.trans {s t u : σ} (h : V.Same s t) (h' : V.Same t u) : V.Same s u :=
  ⟨h.toPasses.trans h'.toPasses, fun c id => (h'.look c id).trans (h.look c id)⟩

/-! ## The outcomes of the operations -/

/-- The outcomes of providing for a collection. -/
inductive Ensures (s s' : σ) (c : CollectionRef) : Except BackendError Unit → Prop
  | provided : V.Same s s' → V.Provided s' c → Ensures s s' c (.ok ())
  | failed {e : BackendError} : ¬ V.Calm s → V.Same s s' → Ensures s s' c (.error e)

/-- The outcomes of a write that is let through on a condition. -/
inductive Writes (s s' : σ) (c : CollectionRef) (r : Record) (admitted : Prop)
    (refusal : BackendError) : Except BackendError Record → Prop
  | stored {token : String} : admitted → V.Stored s s' c { r with token } →
      Writes s s' c r admitted refusal (.ok { r with token })
  | refused : ¬ admitted → V.Same s s' → Writes s s' c r admitted refusal (.error refusal)
  | failed {e : BackendError} : ¬ (V.Calm s ∧ V.Provided s c) → V.Same s s' →
      Writes s s' c r admitted refusal (.error e)

/-- The outcomes of reading a record. -/
inductive Reads (s s' : σ) (c : CollectionRef) (id : String) : Except BackendError Record → Prop
  | found {r : Record} : V.look s c id = some r → V.Same s s' → Reads s s' c id (.ok r)
  | absent : V.look s c id = none → V.Same s s' → Reads s s' c id (.error .notFound)
  | failed {e : BackendError} : ¬ (V.Calm s ∧ V.Provided s c) → V.Same s s' →
      Reads s s' c id (.error e)

/-- The outcomes of deleting a record. -/
inductive Deletes (s s' : σ) (c : CollectionRef) (id : String) : Except BackendError Unit → Prop
  | removed : V.look s c id ≠ none → V.Removed s s' c id → Deletes s s' c id (.ok ())
  | absent : V.look s c id = none → V.Same s s' → Deletes s s' c id (.error .notFound)
  | failed {e : BackendError} : ¬ (V.Calm s ∧ V.Provided s c) → V.Same s s' →
      Deletes s s' c id (.error e)

/-- The list holds every record of a collection once, in the order of the ids. -/
structure Holds (s : σ) (c : CollectionRef) (rs : List Record) : Prop where
  ordered : rs.Pairwise fun a b => compare a.id b.id = .lt
  mem_iff : ∀ r, r ∈ rs ↔ V.look s c r.id = some r

/-- The outcomes of reading a whole collection. -/
inductive Lists (s s' : σ) (c : CollectionRef) : Except BackendError (List Record) → Prop
  | all {rs : List Record} : V.Holds s c rs → V.Same s s' → Lists s s' c (.ok rs)
  | failed {e : BackendError} : ¬ (V.Calm s ∧ V.Provided s c) → V.Same s s' →
      Lists s s' c (.error e)

/-- The outcomes of asking whether the store can be reached. -/
inductive Answers (s s' : σ) : Except BackendError Unit → Prop
  | reached : V.Same s s' → Answers s s' (.ok ())
  | failed {e : BackendError} : ¬ V.Calm s → V.Same s s' → Answers s s' (.error e)

/-! ## What comes before an operation

A step that leaves every record as it was may come first: the outcome is
then one from where that step began. -/

variable {V} {s t u : σ} {c : CollectionRef}

theorem Same.not_calm (h : V.Same s t) (hcalm : ¬ (V.Calm t ∧ V.Provided t c)) :
    ¬ (V.Calm s ∧ V.Provided s c) :=
  fun hc => hcalm ⟨h.calm hc.1, h.provided c hc.2⟩

theorem Stored.of_same {r : Record} (h : V.Same s t) (h' : V.Stored t u c r) :
    V.Stored s u c r where
  toPasses := h.toPasses.trans h'.toPasses
  fresh := h.unissued _ h'.fresh
  issued := h'.issued
  look c' id := by rw [h'.look, h.look]

theorem Removed.of_same {id : String} (h : V.Same s t) (h' : V.Removed t u c id) :
    V.Removed s u c id where
  toPasses := h.toPasses.trans h'.toPasses
  look c' id' := by rw [h'.look, h.look]

theorem Ensures.of_same {reply : Except BackendError Unit} (h : V.Same s t)
    (h' : V.Ensures t u c reply) : V.Ensures s u c reply := by
  cases h' with
  | provided hsame hprov => exact .provided (h.trans hsame) hprov
  | failed hcalm hsame => exact .failed (fun hc => hcalm (h.calm hc)) (h.trans hsame)

theorem Writes.of_same {r : Record} {admitted : Prop} {refusal : BackendError}
    {reply : Except BackendError Record} (h : V.Same s t)
    (h' : V.Writes t u c r admitted refusal reply) : V.Writes s u c r admitted refusal reply := by
  cases h' with
  | stored hadm hst => exact .stored hadm (.of_same h hst)
  | refused hadm hsame => exact .refused hadm (h.trans hsame)
  | failed hcalm hsame => exact .failed (h.not_calm hcalm) (h.trans hsame)

end View

/-- The operations of a backend do to a view what their names say. -/
structure Backend.Lawful {σ : Type} (b : Backend σ) (V : View σ) : Prop where
  ensure : ∀ c s, V.Sound s → V.Ensures s (b.ensure c s).2 c (b.ensure c s).1
  create : ∀ c r s, V.Sound s →
    V.Writes s (b.create c r s).2 c r (V.look s c r.id = none) .alreadyExists (b.create c r s).1
  /-- The condition is one that a token asks for. -/
  upsert : ∀ c r w s, (∃ token, w = .ofToken token) → V.Sound s →
    V.Writes s (b.upsert c r w s).2 c r (w.Meets (V.look s c r.id)) .preconditionFailed
      (b.upsert c r w s).1
  read : ∀ c id s, V.Sound s → V.Reads s (b.read c id s).2 c id (b.read c id s).1
  /-- A delete takes no time, and its start does nothing. -/
  delay : ∀ c id s, (b.startDelete c id s).1.delay = 0
  started : ∀ c id s, V.Same s (b.startDelete c id s).2
  delete : ∀ c id s, V.Sound s → V.Deletes s (b.deleteNow c id s).2 c id (b.deleteNow c id s).1
  list : ∀ c s, V.Sound s → V.Lists s (b.list c s).2 c (b.list c s).1
  health : ∀ s, V.Sound s → V.Answers s (b.health s).2 (b.health s).1

end LeaseStore
