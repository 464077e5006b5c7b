/-
LeaseStore.Proofs.Store.Expiry — what may vanish from a store.

An expired record is as good as absent, and a store may lose it at any time.
Two states that differ in nothing else (`View.Clears`) hold the same live
records (`View.live`). Where a record is absent or expired nothing lives
(`View.Dead`), and as long as nothing is stored there nothing will, for an
expired record does not come back to life.
-/
import LeaseStore.Proofs.Interleaving.Deed

namespace LeaseStore

variable {σ : Type} {V : View σ}

theorem Record.isExpiredAt_mono {r : Record} {t t' : Instant} (h : r.isExpiredAt t = true)
    (hle : t ≤ t') : r.isExpiredAt t' = true := by
  obtain ⟨hnever, hexp⟩ := Record.isExpiredAt_iff.1 h
  exact Record.isExpiredAt_iff.2 ⟨hnever, Instant.le_trans hexp hle⟩

namespace View

/-- Records that had expired by `t` may be gone; all else is as it was. -/
def Clears (V : View σ) (t : Instant) (s s' : σ) : Prop :=
  ∀ c id, V.look s' c id = V.look s c id ∨
    V.look s' c id = none ∧ ∃ r, V.look s c id = some r ∧ r.isExpiredAt t = true

/-- Some records may be gone; all else is as it was. -/
def Thins (V : View σ) (s s' : σ) : Prop :=
  ∀ c id, V.look s' c id = V.look s c id ∨ V.look s' c id = none

/-- What is held under an id, if anything, has expired. -/
def Dead (V : View σ) (t : Instant) (s : σ) (c : CollectionRef) (id : String) : Prop :=
  ∀ r, V.look s c id = some r → r.isExpiredAt t = true

/-- The record under an id, if there is one that has not expired. -/
def live (V : View σ) (t : Instant) (s : σ) (c : CollectionRef) (id : String) : Option Record :=
  (V.look s c id).filter fun r => !r.isExpiredAt t

variable {s s' s'' : σ} {t t' : Instant} {c : CollectionRef} {id : String}

/-! ## Clearing -/

theorem Same.clears (h : V.Same s s') (t : Instant) : V.Clears t s s' :=
  fun c id => .inl (h.look c id)

theorem Removed.clears (h : V.Removed s s' c id) (hdead : V.Dead t s c id) : V.Clears t s s' := by
  intro c' id'
  rw [h.look]
  split
  case isTrue hcell =>
    obtain ⟨hshelf, rfl⟩ := hcell
    rw [V.look_of_shelf hshelf]
    cases hlook : V.look s c id' with
    | none => exact .inl rfl
    | some r => exact .inr ⟨rfl, r, rfl, hdead r hlook⟩
  case isFalse => exact .inl rfl

theorem Clears.trans (h : V.Clears t s s') (h' : V.Clears t s' s'') : V.Clears t s s'' := by
  intro c id
  obtain hsame' | ⟨hnone', r, hr, hexp⟩ := h' c id
  · rw [hsame']
    exact h c id
  · obtain hsame | ⟨hnone, -⟩ := h c id
    · exact .inr ⟨hnone', r, hsame.symm.trans hr, hexp⟩
    · rw [hnone] at hr
      cases hr

/-! ## The living and the dead -/

theorem live_eq_some_iff {r : Record} :
    V.live t s c id = some r ↔ V.look s c id = some r ∧ r.isExpiredAt t = false := by
  simp [live, Option.filter_eq_some_iff]

theorem live_eq_none_iff : V.live t s c id = none ↔ V.Dead t s c id := by
  simp [live, Dead, Option.filter_eq_none_iff]

/-- Clearing does not touch what lives. -/
theorem Clears.live (h : V.Clears t s s') (c : CollectionRef) (id : String) :
    V.live t s' c id = V.live t s c id := by
  obtain hsame | ⟨hnone, r, hr, hexp⟩ := h c id
  · simp [View.live, hsame]
  · simp [View.live, hnone, hr, Option.filter, hexp]

theorem dead_of_none (h : V.look s c id = none) : V.Dead t s c id := by
  intro r hr
  rw [h] at hr
  cases hr

theorem dead_of_some {r : Record} (h : V.look s c id = some r) (hexp : r.isExpiredAt t = true) :
    V.Dead t s c id := by
  intro r' hr'
  rw [h] at hr'
  cases hr'
  exact hexp

theorem Dead.mono (h : V.Dead t s c id) (hle : t ≤ t') : V.Dead t' s c id :=
  fun r hr => Record.isExpiredAt_mono (h r hr) hle

theorem Dead.thins (h : V.Dead t s c id) (hthins : V.Thins s s') : V.Dead t s' c id := by
  intro r hr
  obtain hsame | hnone := hthins c id
  · exact h r (hsame.symm.trans hr)
  · rw [hnone] at hr
    cases hr

/-! ## Thinning -/

theorem Clears.thins (h : V.Clears t s s') : V.Thins s s' := fun c id => (h c id).imp_right And.left

theorem Same.thins (h : V.Same s s') : V.Thins s s' := fun c id => .inl (h.look c id)

theorem Removed.thins (h : V.Removed s s' c id) : V.Thins s s' := by
  intro c' id'
  rw [h.look]
  split
  case isTrue => exact .inr rfl
  case isFalse => exact .inl rfl

theorem Thins.trans (h : V.Thins s s') (h' : V.Thins s' s'') : V.Thins s s'' := by
  intro c id
  obtain hsame' | hnone' := h' c id
  · rw [hsame']
    exact h c id
  · exact .inr hnone'

end View

end LeaseStore
