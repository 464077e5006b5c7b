/-
LeaseStore.Proofs.Isolation.Focus — a store seen through one record.

`View.focus` shows of a store what it holds under one id of a collection, and
nothing else. What an operation does to that record it does to the cell, too,
and a state in which the record is as it was has the same cell. So two stores
may be compared cell by cell with all that is known of mirrored stores: they
reply alike to whatever is asked about the record, whatever else they hold.
-/
import LeaseStore.Proofs.Agreement.Bulk
import LeaseStore.Proofs.Isolation.Scope

namespace LeaseStore

variable {σ : Type} {V : View σ}

namespace View

variable {c c' : CollectionRef} {id : String} {s s' : σ}

/-- What can be seen of a state under one id of a collection. -/
def focus (V : View σ) (c : CollectionRef) (id : String) : View σ where
  shelf := V.shelf
  look s c' id' := if V.shelf c' = V.shelf c ∧ id' = id then V.look s c' id' else none
  Unissued := V.Unissued
  Provided := V.Provided
  Calm := V.Calm
  Sound := V.Sound
  isToken_of_unissued := V.isToken_of_unissued
  id_of_look hs hr := by
    split at hr
    case isTrue => exact V.id_of_look hs hr
    case isFalse => cases hr
  look_of_shelf {s c₁ c₂} hshelf := by
    funext id'
    rw [V.look_of_shelf hshelf, hshelf]

theorem look_focus (s : σ) : (V.focus c id).look s c id = V.look s c id := if_pos ⟨rfl, rfl⟩

/-! ## What operations do to a cell -/

theorem Passes.focus (h : V.Passes s s') : (V.focus c id).Passes s s' :=
  ⟨h.sound, h.calm, h.provided, h.unissued⟩

/-- The cell is the same if the record is. -/
theorem Passes.focus_same (h : V.Passes s s') (hlook : V.look s' c id = V.look s c id) :
    (V.focus c id).Same s s' := by
  refine ⟨h.focus, fun c' id' => ?_⟩
  show (if V.shelf c' = V.shelf c ∧ id' = id then V.look s' c' id' else none) =
    if V.shelf c' = V.shelf c ∧ id' = id then V.look s c' id' else none
  split
  case isTrue hat =>
    obtain ⟨hshelf, rfl⟩ := hat
    rw [V.look_of_shelf hshelf, V.look_of_shelf hshelf, hlook]
  case isFalse => rfl

theorem Same.focus (h : V.Same s s') : (V.focus c id).Same s s' :=
  h.toPasses.focus_same (h.look c id)

theorem Stored.focus {r : Record} (h : V.Stored s s' c r) : (V.focus c r.id).Stored s s' c r where
  toPasses := h.toPasses.focus
  fresh := h.fresh
  issued := h.issued
  look c' id' := by
    show (if V.shelf c' = V.shelf c ∧ id' = r.id then V.look s' c' id' else none) =
      if V.shelf c' = V.shelf c ∧ id' = r.id then some r
      else if V.shelf c' = V.shelf c ∧ id' = r.id then V.look s c' id' else none
    rw [h.look]
    split <;> rfl

theorem Removed.focus (h : V.Removed s s' c id) : (V.focus c id).Removed s s' c id where
  toPasses := h.toPasses.focus
  look c' id' := by
    show (if V.shelf c' = V.shelf c ∧ id' = id then V.look s' c' id' else none) =
      if V.shelf c' = V.shelf c ∧ id' = id then none
      else if V.shelf c' = V.shelf c ∧ id' = id then V.look s c' id' else none
    rw [h.look]
    split <;> rfl

theorem Writes.focus {r : Record} {admitted : Prop} {refusal : BackendError}
    {reply : Except BackendError Record} (h : V.Writes s s' c r admitted refusal reply) :
    (V.focus c r.id).Writes s s' c r admitted refusal reply := by
  cases h with
  | stored hadm hstored => exact .stored hadm hstored.focus
  | refused hnot hsame => exact .refused hnot hsame.focus
  | failed hcalm hsame => exact .failed hcalm hsame.focus

theorem Reads.focus {reply : Except BackendError Record} (h : V.Reads s s' c id reply) :
    (V.focus c id).Reads s s' c id reply := by
  cases h with
  | found hlook hsame => exact .found ((look_focus s).trans hlook) hsame.focus
  | absent hnone hsame => exact .absent ((look_focus s).trans hnone) hsame.focus
  | failed hcalm hsame => exact .failed hcalm hsame.focus

theorem Deletes.focus {reply : Except BackendError Unit} (h : V.Deletes s s' c id reply) :
    (V.focus c id).Deletes s s' c id reply := by
  cases h with
  | removed hheld hremoved =>
    exact .removed (fun hnone => hheld ((look_focus s).symm.trans hnone)) hremoved.focus
  | absent hnone hsame => exact .absent ((look_focus s).trans hnone) hsame.focus
  | failed hcalm hsame => exact .failed hcalm hsame.focus

/-- Deletes of the same id, over and over. Induction on them. -/
theorem DeletesAll.focus {ids : List String} {replies : List (Except BackendError Unit)}
    (h : V.DeletesAll c s ids s' replies) (hids : ∀ id' ∈ ids, id' = id) :
    (V.focus c id).DeletesAll c s ids s' replies := by
  induction h with
  | nil s => exact .nil s
  | cons hdel _ ih =>
    obtain ⟨rfl, hrest⟩ := List.forall_mem_cons.1 hids
    exact .cons hdel.focus (ih hrest)

theorem Answers.focus {reply : Except BackendError Unit} (h : V.Answers s s' reply) :
    (V.focus c id).Answers s s' reply := by
  cases h with
  | reached hsame => exact .reached hsame.focus
  | failed hcalm hsame => exact .failed hcalm hsame.focus

/-! ## Bulk deletes -/

/-- Where no failure is planned a delete leaves no record. -/
theorem Deletes.look_eq_none {reply : Except BackendError Unit} (h : V.Deletes s s' c id reply)
    (hcalm : V.Calm s) (hthere : V.Provided s c) : V.look s' c id = none := by
  cases h with
  | removed _ hremoved => rw [hremoved.look, if_pos ⟨rfl, rfl⟩]
  | absent hnone hsame => rw [hsame.look, hnone]
  | failed hfail => exact absurd ⟨hcalm, hthere⟩ hfail

/-- A bulk of deletes leaves none of its records. Induction on the ids: once
a record is gone it stays away. -/
theorem DeletesAll.look_eq_none {ids : List String} {replies : List (Except BackendError Unit)}
    (h : V.DeletesAll c s ids s' replies) (hcalm : V.Calm s) (hthere : V.Provided s c)
    (hid : id ∈ ids ∨ V.look s c id = none) : V.look s' c id = none := by
  induction h with
  | nil s => exact hid.resolve_left (List.not_mem_nil)
  | cons hdel _ ih =>
    have hpasses := hdel.move.passes
    refine ih (hpasses.calm hcalm) (hpasses.provided c hthere) ?_
    obtain hmem | hnone := hid
    · obtain rfl | hrest := List.mem_cons.1 hmem
      · exact .inr (hdel.look_eq_none hcalm hthere)
      · exact .inl hrest
    · obtain hsame | hgone := hdel.look c id
      · exact .inr (hsame.trans hnone)
      · exact .inr hgone

/-! ## Two stores and one record -/

/-- Two stores hold alike records under an id of a collection, and nothing
stands in the way of an operation on either. -/
abbrev Pairs (V : View σ) (c : CollectionRef) (id : String) (ρ : Renaming) (s t : σ) : Prop :=
  (V.focus c id).Mirrors (V.focus c id) c ρ s t

variable {ρ : Renaming} {t t' : σ}

/-- It is enough to know of the record itself. -/
theorem Pairs.intro (hsound : V.Sound s ∧ V.Sound t) (hcalm : V.Calm s ∧ V.Calm t)
    (hlook : Option.Rel (Record.Alike ρ) (V.look s c id) (V.look t c id))
    (hissued : ∀ a b, (a, b) ∈ ρ.pairs → ¬ V.Unissued s a ∧ ¬ V.Unissued t b) :
    V.Pairs c id ρ s t := by
  refine ⟨hsound, hcalm, fun id' => ?_, hissued⟩
  show Option.Rel _ (if V.shelf c = V.shelf c ∧ id' = id then V.look s c id' else none)
    (if V.shelf c = V.shelf c ∧ id' = id then V.look t c id' else none)
  split
  case isTrue hat =>
    obtain ⟨-, rfl⟩ := hat
    exact hlook
  case isFalse => exact .none

theorem Pairs.sound (h : V.Pairs c id ρ s t) : V.Sound s ∧ V.Sound t :=
  Mirrors.sound (V := V.focus c id) (W := V.focus c id) h

theorem Pairs.calm (h : V.Pairs c id ρ s t) : V.Calm s ∧ V.Calm t :=
  Mirrors.calm (V := V.focus c id) (W := V.focus c id) h

theorem Pairs.look (h : V.Pairs c id ρ s t) :
    Option.Rel (Record.Alike ρ) (V.look s c id) (V.look t c id) := by
  have hrecord := h.records id
  rwa [look_focus, look_focus] at hrecord

/-- Whatever name the collection goes by. -/
theorem Pairs.of_shelf (h : V.Pairs c id ρ s t) (hshelf : V.shelf c = V.shelf c') :
    V.Pairs c' id ρ s t := by
  have hrecord := h.look
  rw [V.look_of_shelf hshelf, V.look_of_shelf hshelf] at hrecord
  exact .intro h.sound h.calm hrecord h.issued

end View

end LeaseStore
