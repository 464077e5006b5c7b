/-
LeaseStore.Proofs.Agreement.Mirror — two stores that hold alike records.

A store mirrors another, under a renaming, if both hold alike records of a
collection, and the renaming pairs only tokens that were issued. The laws
of the backends determine what an operation does to such stores, where no
failure is planned and the collection is there: both reply alike, and they
mirror each other afterwards. A write that succeeds adds the pair of the
two new tokens to the renaming.
-/
import LeaseStore.Proofs.Agreement.Renaming
import LeaseStore.Proofs.Interleaving.Deed
import Mathlib.Data.List.Sort

namespace LeaseStore

open WriteCondition (IsToken)

/-! ## How a renaming grows -/

/-- The renaming has been extended by tokens issued on either side. -/
structure Renaming.Grows (ρ ρ' : Renaming) (new new' : List String) : Prop where
  within : ρ.Within ρ'
  here : ρ'.pairs.map Prod.fst = ρ.pairs.map Prod.fst ++ new
  there : ρ'.pairs.map Prod.snd = ρ.pairs.map Prod.snd ++ new'

namespace Renaming

variable {ρ ρ' ρ'' : Renaming}

theorem Grows.refl (ρ : Renaming) : ρ.Grows ρ [] [] := ⟨.refl ρ, by simp, by simp⟩

theorem Grows.trans {new new' more more' : List String} (h : ρ.Grows ρ' new new')
    (h' : ρ'.Grows ρ'' more more') : ρ.Grows ρ'' (new ++ more) (new' ++ more') where
  within := h.within.trans h'.within
  here := by rw [h'.here, h.here, List.append_assoc]
  there := by rw [h'.there, h.there, List.append_assoc]

/-- A renaming to which nothing was added is the same. -/
theorem Grows.eq (h : ρ.Grows ρ' [] []) : ρ' = ρ := by
  ext1
  have hhere := h.here
  have hthere := h.there
  rw [List.append_nil] at hhere hthere
  rw [← List.zip_unzip ρ'.pairs, ← List.zip_unzip ρ.pairs, List.unzip_eq_map, List.unzip_eq_map,
    hhere, hthere]

theorem grows_add {a b : String} (hab : IsToken a ∧ IsToken b)
    (ha : ∀ b', (a, b') ∉ ρ.pairs) (hb : ∀ a', (a', b) ∉ ρ.pairs) :
    ρ.Grows (ρ.add a b hab ha hb) [a] [b] where
  within _ _ h := List.mem_append_left _ h
  here := by simp [add]
  there := by simp [add]

end Renaming

namespace View

variable {σ τ : Type}

/-- The two stores hold alike records of the collection `c`, and nothing
stands in the way of an operation on either. -/
structure Mirrors (V : View σ) (W : View τ) (c : CollectionRef) (ρ : Renaming) (s : σ)
    (t : τ) : Prop where
  sound : V.Sound s ∧ W.Sound t
  calm : V.Calm s ∧ W.Calm t
  records : ∀ id, Option.Rel (Record.Alike ρ) (V.look s c id) (W.look t c id)
  issued : ∀ a b, (a, b) ∈ ρ.pairs → ¬ V.Unissued s a ∧ ¬ W.Unissued t b

variable {V : View σ} {W : View τ} {c : CollectionRef} {ρ : Renaming} {s s' : σ} {t t' : τ}

/-! ## Operations that leave every record -/

theorem Mirrors.same (h : V.Mirrors W c ρ s t) (hs : V.Same s s') (ht : W.Same t t') :
    V.Mirrors W c ρ s' t' where
  sound := ⟨hs.sound h.sound.1, ht.sound h.sound.2⟩
  calm := ⟨hs.calm h.calm.1, ht.calm h.calm.2⟩
  records id := by
    rw [hs.look, ht.look]
    exact h.records id
  issued a b hab :=
    ⟨fun hun => (h.issued a b hab).1 (hs.unissued a hun),
      fun hun => (h.issued a b hab).2 (ht.unissued b hun)⟩

theorem Mirrors.reads (h : V.Mirrors W c ρ s t) (hs : V.Provided s c) (ht : W.Provided t c)
    {id : String} {reply reply' : Except BackendError Record} (hreads : V.Reads s s' c id reply)
    (hreads' : W.Reads t t' c id reply') :
    Except.Alike (Record.Alike ρ) reply reply' ∧ V.Mirrors W c ρ s' t' := by
  have hrecords := h.records id
  cases hreads with
  | failed hfail => exact absurd ⟨h.calm.1, hs⟩ hfail
  | found hlook hsame =>
    cases hreads' with
    | failed hfail => exact absurd ⟨h.calm.2, ht⟩ hfail
    | absent hlook' =>
      rw [hlook, hlook'] at hrecords
      cases hrecords
    | found hlook' hsame' =>
      rw [hlook, hlook'] at hrecords
      cases hrecords with
      | some halike => exact ⟨.ok halike, h.same hsame hsame'⟩
  | absent hlook hsame =>
    cases hreads' with
    | failed hfail => exact absurd ⟨h.calm.2, ht⟩ hfail
    | absent hlook' hsame' => exact ⟨.error _, h.same hsame hsame'⟩
    | found hlook' =>
      rw [hlook, hlook'] at hrecords
      cases hrecords

theorem Mirrors.answers (h : V.Mirrors W c ρ s t) {reply reply' : Except BackendError Unit}
    (hanswers : V.Answers s s' reply) (hanswers' : W.Answers t t' reply') :
    reply = reply' ∧ V.Mirrors W c ρ s' t' := by
  cases hanswers with
  | failed hfail => exact absurd h.calm.1 hfail
  | reached hsame =>
    cases hanswers' with
    | failed hfail => exact absurd h.calm.2 hfail
    | reached hsame' => exact ⟨rfl, h.same hsame hsame'⟩

/-- The id is held here if it is held there. -/
theorem Mirrors.look_eq_none_iff (h : V.Mirrors W c ρ s t) (id : String) :
    V.look s c id = none ↔ W.look t c id = none := by
  have hrecords := h.records id
  generalize V.look s c id = x at hrecords
  generalize W.look t c id = y at hrecords
  cases hrecords with
  | some => simp
  | none => simp

/-! ## Lists -/

/-- A list of a whole collection is determined by its ids: they are in order. -/
theorem Holds.map_id_eq {rs rs' : List Record} (h : V.Holds s c rs) (h' : W.Holds t c rs')
    (hids : ∀ id, id ∈ rs.map (·.id) ↔ id ∈ rs'.map (·.id)) : rs.map (·.id) = rs'.map (·.id) := by
  have hirrefl : Std.Irrefl fun a b : String => compare a b = .lt :=
    ⟨fun a => by simp⟩
  have hantisymm : Std.Antisymm fun a b : String => compare a b = .lt :=
    ⟨fun a b hab hba => by
      have hswap : compare a b = (compare b a).swap := Std.OrientedCmp.eq_swap
      rw [hswap, hba] at hab
      cases hab⟩
  have hordered : (rs.map (·.id)).Pairwise fun a b => compare a b = .lt :=
    List.pairwise_map.2 h.ordered
  have hordered' : (rs'.map (·.id)).Pairwise fun a b => compare a b = .lt :=
    List.pairwise_map.2 h'.ordered
  exact hordered.eq_of_mem_iff hordered' hids

/-- An id is listed if a record is held under it. -/
theorem Holds.mem_map_id_iff {rs : List Record} (hs : V.Sound s) (h : V.Holds s c rs)
    (id : String) : id ∈ rs.map (·.id) ↔ V.look s c id ≠ none := by
  rw [List.mem_map]
  constructor
  · intro hmem
    obtain ⟨r, hr, rfl⟩ := hmem
    rw [(h.mem_iff r).1 hr]
    simp
  · intro hheld
    obtain ⟨r, hr⟩ := Option.ne_none_iff_exists'.1 hheld
    obtain rfl := V.id_of_look hs hr
    exact ⟨r, (h.mem_iff r).2 hr, rfl⟩

theorem Mirrors.holds (h : V.Mirrors W c ρ s t) {rs rs' : List Record}
    (hholds : V.Holds s c rs) (hholds' : W.Holds t c rs') :
    List.Forall₂ (Record.Alike ρ) rs rs' := by
  have hids : rs.map (·.id) = rs'.map (·.id) := hholds.map_id_eq hholds' fun id => by
    rw [hholds.mem_map_id_iff h.sound.1, hholds'.mem_map_id_iff h.sound.2, ne_eq, ne_eq,
      h.look_eq_none_iff]
  rw [← List.forall₂_eq_eq_eq, List.forall₂_map_left_iff, List.forall₂_map_right_iff,
    List.forall₂_iff_zip] at hids
  refine List.forall₂_iff_zip.2 ⟨hids.1, fun {r r'} hmem => ?_⟩
  obtain ⟨hr, hr'⟩ := List.of_mem_zip hmem
  have hid : r.id = r'.id := hids.2 hmem
  have hrecords := h.records r.id
  rw [(hholds.mem_iff r).1 hr, hid, (hholds'.mem_iff r').1 hr'] at hrecords
  cases hrecords with
  | some halike => exact halike

theorem Mirrors.lists (h : V.Mirrors W c ρ s t) (hs : V.Provided s c) (ht : W.Provided t c)
    {reply reply' : Except BackendError (List Record)} (hlists : V.Lists s s' c reply)
    (hlists' : W.Lists t t' c reply') :
    Except.Alike (List.Forall₂ (Record.Alike ρ)) reply reply' ∧ V.Mirrors W c ρ s' t' := by
  cases hlists with
  | failed hfail => exact absurd ⟨h.calm.1, hs⟩ hfail
  | all hholds hsame =>
    cases hlists' with
    | failed hfail => exact absurd ⟨h.calm.2, ht⟩ hfail
    | all hholds' hsame' => exact ⟨.ok (h.holds hholds hholds'), h.same hsame hsame'⟩

/-! ## Deletes -/

theorem Mirrors.removed (h : V.Mirrors W c ρ s t) {id : String} (hs : V.Removed s s' c id)
    (ht : W.Removed t t' c id) : V.Mirrors W c ρ s' t' where
  sound := ⟨hs.sound h.sound.1, ht.sound h.sound.2⟩
  calm := ⟨hs.calm h.calm.1, ht.calm h.calm.2⟩
  records id' := by
    rw [hs.look, ht.look]
    by_cases hid : id' = id
    · rw [if_pos ⟨rfl, hid⟩, if_pos ⟨rfl, hid⟩]
      exact .none
    · rw [if_neg fun h => hid h.2, if_neg fun h => hid h.2]
      exact h.records id'
  issued a b hab :=
    ⟨fun hun => (h.issued a b hab).1 (hs.unissued a hun),
      fun hun => (h.issued a b hab).2 (ht.unissued b hun)⟩

theorem Mirrors.deletes (h : V.Mirrors W c ρ s t) (hs : V.Provided s c) (ht : W.Provided t c)
    {id : String} {reply reply' : Except BackendError Unit} (hdel : V.Deletes s s' c id reply)
    (hdel' : W.Deletes t t' c id reply') : reply = reply' ∧ V.Mirrors W c ρ s' t' := by
  have hiff := h.look_eq_none_iff id
  cases hdel with
  | failed hfail => exact absurd ⟨h.calm.1, hs⟩ hfail
  | removed hheld hrem =>
    cases hdel' with
    | failed hfail => exact absurd ⟨h.calm.2, ht⟩ hfail
    | absent hnone => exact absurd (hiff.2 hnone) hheld
    | removed _ hrem' => exact ⟨rfl, h.removed hrem hrem'⟩
  | absent hnone hsame =>
    cases hdel' with
    | failed hfail => exact absurd ⟨h.calm.2, ht⟩ hfail
    | removed hheld => exact absurd (hiff.1 hnone) hheld
    | absent _ hsame' => exact ⟨rfl, h.same hsame hsame'⟩

/-- Induction on the ids. -/
theorem Mirrors.deletesAll {ids : List String} {replies replies' : List (Except BackendError Unit)}
    (hall : V.DeletesAll c s ids s' replies) (h : V.Mirrors W c ρ s t) (hs : V.Provided s c)
    (ht : W.Provided t c) (hall' : W.DeletesAll c t ids t' replies') :
    replies = replies' ∧ V.Mirrors W c ρ s' t' := by
  induction hall generalizing t replies' with
  | nil =>
    cases hall'
    exact ⟨rfl, h⟩
  | cons hdel _ ih =>
    cases hall' with
    | cons hdel' hrest' =>
      obtain ⟨rfl, hmid⟩ := h.deletes hs ht hdel hdel'
      obtain ⟨rfl, hend⟩ := ih hmid (hdel.move.passes.provided c hs)
        (hdel'.move.passes.provided c ht) hrest'
      exact ⟨rfl, hend⟩

/-! ## Writes -/

/-- Two new tokens are new to the renaming, since it pairs issued ones only. -/
theorem Mirrors.stored (h : V.Mirrors W c ρ s t) {r : Record} {a b : String}
    (hs : V.Stored s s' c { r with token := a }) (ht : W.Stored t t' c { r with token := b }) :
    ∃ ρ', ρ.Grows ρ' [a] [b] ∧ Record.Alike ρ' { r with token := a } { r with token := b } ∧
      V.Mirrors W c ρ' s' t' := by
  have hab : IsToken a ∧ IsToken b :=
    ⟨V.isToken_of_unissued hs.fresh, W.isToken_of_unissued ht.fresh⟩
  have ha (b' : String) : (a, b') ∉ ρ.pairs := fun hpair => (h.issued a b' hpair).1 hs.fresh
  have hb (a' : String) : (a', b) ∉ ρ.pairs := fun hpair => (h.issued a' b hpair).2 ht.fresh
  have hgrows := Renaming.grows_add hab ha hb
  have halike : Record.Alike (ρ.add a b hab ha hb) { r with token := a } { r with token := b } :=
    ⟨b, .inl (List.mem_append_right _ (List.mem_singleton.2 rfl)), rfl⟩
  refine ⟨_, hgrows, halike, ⟨hs.sound h.sound.1, ht.sound h.sound.2⟩,
    ⟨hs.calm h.calm.1, ht.calm h.calm.2⟩, fun id => ?_, fun a' b' hpair => ?_⟩
  · rw [hs.look, ht.look]
    by_cases hid : id = r.id
    · rw [if_pos ⟨rfl, hid⟩, if_pos ⟨rfl, hid⟩]
      exact .some halike
    · rw [if_neg fun h => hid h.2, if_neg fun h => hid h.2]
      have hold := h.records id
      generalize V.look s c id = x at hold
      generalize W.look t c id = y at hold
      cases hold with
      | some hr => exact .some (hr.within hgrows.within)
      | none => exact .none
  · obtain hold | hnew := List.mem_append.1 hpair
    · exact ⟨fun hun => (h.issued a' b' hold).1 (hs.unissued a' hun),
        fun hun => (h.issued a' b' hold).2 (ht.unissued b' hun)⟩
    · cases List.mem_singleton.1 hnew
      exact ⟨hs.issued, ht.issued⟩

theorem Mirrors.writes (h : V.Mirrors W c ρ s t) (hs : V.Provided s c) (ht : W.Provided t c)
    {r r' : Record} (hr : r.Alike ρ r') {admitted admitted' : Prop} (hiff : admitted ↔ admitted')
    {refusal : BackendError} {reply reply' : Except BackendError Record}
    (hwrites : V.Writes s s' c r admitted refusal reply)
    (hwrites' : W.Writes t t' c r' admitted' refusal reply') :
    ∃ ρ', ρ.Grows ρ' (reply.toOption.map (·.token)).toList
        (reply'.toOption.map (·.token)).toList ∧
      Except.Alike (Record.Alike ρ') reply reply' ∧ V.Mirrors W c ρ' s' t' := by
  obtain ⟨token, -, rfl⟩ := hr
  cases hwrites with
  | failed hfail => exact absurd ⟨h.calm.1, hs⟩ hfail
  | stored hadm hst =>
    cases hwrites' with
    | failed hfail => exact absurd ⟨h.calm.2, ht⟩ hfail
    | refused hnot => exact absurd (hiff.1 hadm) hnot
    | stored _ hst' =>
      obtain ⟨ρ', hgrows, halike, hmirrors⟩ := h.stored hst hst'
      exact ⟨ρ', hgrows, .ok halike, hmirrors⟩
  | refused hnot hsame =>
    cases hwrites' with
    | failed hfail => exact absurd ⟨h.calm.2, ht⟩ hfail
    | stored hadm => exact absurd (hiff.2 hadm) hnot
    | refused _ hsame' => exact ⟨ρ, .refl ρ, .error _, h.same hsame hsame'⟩

/-- Linked tokens ask for the same version. -/
theorem Mirrors.meets_iff (h : V.Mirrors W c ρ s t) {a b : String} (hab : ρ.Links a b)
    (id : String) : (WriteCondition.ofToken a).Meets (V.look s c id) ↔
      (WriteCondition.ofToken b).Meets (W.look t c id) := by
  obtain hpair | ⟨rfl, hplain⟩ := hab
  · obtain ⟨ha, hb⟩ := ρ.isToken a b hpair
    rw [WriteCondition.ofToken_of_isToken ha, WriteCondition.ofToken_of_isToken hb]
    have hrecords := h.records id
    generalize V.look s c id = x at hrecords
    generalize W.look t c id = y at hrecords
    cases hrecords with
    | none => simp [WriteCondition.Meets]
    | some hr =>
      obtain ⟨token, hlinks, rfl⟩ := hr
      simpa [WriteCondition.Meets] using hlinks.eq_iff (.inl hpair)
  · have halways : WriteCondition.ofToken a = .always := by
      unfold WriteCondition.ofToken
      rw [if_pos]
      by_contra hnot
      exact hplain ⟨fun hempty => hnot (.inl hempty), fun hwild => hnot (.inr hwild)⟩
    rw [halways]
    exact Iff.rfl

end View

end LeaseStore
