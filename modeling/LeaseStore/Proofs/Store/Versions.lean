/-
LeaseStore.Proofs.Store.Versions — a token names one version of one record.

Whatever the operations do to a store comes down to moves: records stay as
they are, one is stored with a token of its own, or one is removed. No move
issues a token twice. So a version that was held once is `Pinned` for ever:
wherever its token turns up, there is that version, under its own id and
nowhere else. In a `Tidy` store every version held is pinned, and the moves
keep a store tidy.
-/
import LeaseStore.Proofs.Store.View

namespace LeaseStore.View

variable {σ : Type} {V : View σ}

/-! ## Moves -/

/-- What one operation does to one record at most. -/
inductive Move (V : View σ) (s s' : σ) : Prop
  | same : V.Same s s' → Move V s s'
  | stored {c : CollectionRef} {r : Record} : V.Stored s s' c r → Move V s s'
  | removed {c : CollectionRef} {id : String} : V.Removed s s' c id → Move V s s'

/-- Any number of moves. -/
inductive Moves (V : View σ) : σ → σ → Prop
  | refl (s : σ) : Moves V s s
  | step {s t u : σ} : V.Moves s t → V.Move t u → Moves V s u

theorem Move.passes {s s' : σ} (h : V.Move s s') : V.Passes s s' := by
  cases h with
  | same h => exact h.toPasses
  | stored h => exact h.toPasses
  | removed h => exact h.toPasses

theorem Moves.passes {s s' : σ} (h : V.Moves s s') : V.Passes s s' := by
  induction h with
  | refl => exact (Same.refl s).toPasses
  | step _ hmove ih => exact ih.trans hmove.passes

theorem Move.moves {s s' : σ} (h : V.Move s s') : V.Moves s s' := .step (.refl s) h

theorem Moves.trans {s t u : σ} (h : V.Moves s t) (h' : V.Moves t u) : V.Moves s u := by
  induction h' with
  | refl => exact h
  | step _ hmove ih => exact .step ih hmove

/-! ## Pinned versions -/

/-- The token of `v` is issued and names this version under this id. -/
structure Pinned (V : View σ) (s : σ) (c : CollectionRef) (v : Record) : Prop where
  isToken : WriteCondition.IsToken v.token
  issued : ¬ V.Unissued s v.token
  only : ∀ c' id r, V.look s c' id = some r → r.token = v.token →
    r = v ∧ V.shelf c' = V.shelf c ∧ id = v.id

/-- Every version that is held is pinned. -/
def Tidy (V : View σ) (s : σ) : Prop := ∀ c id r, V.look s c id = some r → V.Pinned s c r

/-- A store without records is tidy. -/
theorem tidy_of_look {s : σ} (h : ∀ c id, V.look s c id = none) : V.Tidy s := by
  intro c id r hr
  rw [h] at hr
  cases hr

/-- A move issues no token twice, so it cannot give a version's token to
another. -/
theorem Pinned.move {s s' : σ} {c : CollectionRef} {v : Record} (h : V.Pinned s c v)
    (hmove : V.Move s s') : V.Pinned s' c v := by
  refine ⟨h.isToken, fun hun => h.issued (hmove.passes.unissued _ hun), fun c' id r hr htok => ?_⟩
  cases hmove with
  | same hsame => exact h.only c' id r (hsame.look c' id ▸ hr) htok
  | stored hstored =>
    rw [hstored.look] at hr
    split at hr
    case isTrue =>
      cases hr
      exact absurd (htok ▸ hstored.fresh) h.issued
    case isFalse => exact h.only c' id r hr htok
  | removed hremoved =>
    rw [hremoved.look] at hr
    split at hr
    case isTrue => cases hr
    case isFalse => exact h.only c' id r hr htok

theorem Pinned.moves {s s' : σ} {c : CollectionRef} {v : Record} (h : V.Pinned s c v)
    (hmoves : V.Moves s s') : V.Pinned s' c v := by
  induction hmoves with
  | refl => exact h
  | step _ hmove ih => exact ih.move hmove

/-- What was just stored is pinned. -/
theorem Stored.pinned {s s' : σ} {c : CollectionRef} {r : Record} (htidy : V.Tidy s)
    (h : V.Stored s s' c r) : V.Pinned s' c r := by
  refine ⟨V.isToken_of_unissued h.fresh, h.issued, fun c' id r' hr' htok => ?_⟩
  rw [h.look] at hr'
  split at hr'
  case isTrue hcell =>
    cases hr'
    exact ⟨rfl, hcell⟩
  case isFalse => exact absurd (htok ▸ h.fresh) (htidy c' id r' hr').issued

theorem Pinned.of_shelf {s : σ} {c c' : CollectionRef} {v : Record} (h : V.Pinned s c v)
    (hc : V.shelf c' = V.shelf c) : V.Pinned s c' v :=
  ⟨h.isToken, h.issued, fun c'' id r hr htok => by
    obtain ⟨hr', hshelf, hid⟩ := h.only c'' id r hr htok
    exact ⟨hr', hshelf.trans hc.symm, hid⟩⟩

theorem Tidy.move {s s' : σ} (h : V.Tidy s) (hmove : V.Move s s') : V.Tidy s' := by
  intro c id r hr
  cases hmove with
  | same hsame => exact (h c id r (hsame.look c id ▸ hr)).move (.same hsame)
  | stored hstored =>
    have hlook := hr
    rw [hstored.look] at hlook
    split at hlook
    case isTrue hcell =>
      cases hlook
      exact (hstored.pinned h).of_shelf hcell.1
    case isFalse => exact (h c id r hlook).move (.stored hstored)
  | removed hremoved =>
    have hlook := hr
    rw [hremoved.look] at hlook
    split at hlook
    case isTrue => cases hlook
    case isFalse => exact (h c id r hlook).move (.removed hremoved)

theorem Tidy.moves {s s' : σ} (h : V.Tidy s) (hmoves : V.Moves s s') : V.Tidy s' := by
  induction hmoves with
  | refl => exact h
  | step _ hmove ih => exact ih.move hmove

/-! ## Conditional writes -/

/-- A write that asks for the version `v` is let through only where `v`
itself is held. -/
theorem Pinned.eq_of_meets {s : σ} {c c' : CollectionRef} {v : Record} {id : String}
    (h : V.Pinned s c v) (hmeets : (WriteCondition.ofToken v.token).Meets (V.look s c' id)) :
    V.look s c' id = some v ∧ V.shelf c' = V.shelf c ∧ id = v.id := by
  rw [WriteCondition.ofToken_of_isToken h.isToken] at hmeets
  obtain ⟨r, hr, htok⟩ := hmeets
  obtain ⟨rfl, hcell⟩ := h.only c' id r hr htok
  exact ⟨hr, hcell⟩

end LeaseStore.View
