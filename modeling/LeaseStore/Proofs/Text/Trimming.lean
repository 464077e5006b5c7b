/-
LeaseStore.Proofs.Text.Trimming — what trimming and small letters do to a text.

A text is its trimmed form between two stretches of blanks (`exists_trim`),
and blanks at its ends make no difference to what is left of it
(`trim_surround`). Nothing is left exactly of a text that is all blank.
Small letters can be compared character by character.
-/
import LeaseStore.Text.Blank
import Mathlib.Data.List.TakeWhile

namespace LeaseStore.Text

/-! ## Trimming -/

/-- Whether a text holds nothing but blanks. -/
def AllBlank (cs : List Char) : Prop := ∀ c ∈ cs, isBlank c = true

instance (cs : List Char) : Decidable (AllBlank cs) :=
  List.decidableBAll (fun c => isBlank c = true) cs

theorem AllBlank.append {cs ds : List Char} (hcs : AllBlank cs) (hds : AllBlank ds) :
    AllBlank (cs ++ ds) :=
  List.forall_mem_append.mpr ⟨hcs, hds⟩

theorem AllBlank.reverse {cs : List Char} (h : AllBlank cs) : AllBlank cs.reverse :=
  fun c hc => h c (List.mem_reverse.mp hc)

/-- The blanks of `isBlank` are no letters of the grammar. -/
theorem AllBlank.notMem {cs : List Char} (h : AllBlank cs) {c : Char} (hc : isBlank c = false) :
    c ∉ cs := by
  intro hmem
  rw [h c hmem] at hc
  exact Bool.noConfusion hc

theorem trim_eq_nil_iff {cs : List Char} : trim cs = [] ↔ AllBlank cs := by
  have hnone : (cs.dropWhile isBlank).reverse.dropWhile isBlank = [] ↔
      cs.dropWhile isBlank = [] := by
    refine ⟨fun h => ?_, fun h => by rw [h]; rfl⟩
    rw [List.dropWhile_eq_nil_iff] at h
    -- the first character that is kept is not blank, so there is none
    by_contra hne
    have hhead := List.head_dropWhile_not isBlank hne
    have hblank := h _ (List.mem_reverse.mpr (List.head_mem hne))
    rw [hhead] at hblank
    exact Bool.noConfusion hblank
  rw [trim, List.reverse_eq_nil_iff, hnone, List.dropWhile_eq_nil_iff]
  rfl

/-- A text is its trimmed form between two stretches of blanks. -/
theorem exists_trim (cs : List Char) :
    ∃ front back, AllBlank front ∧ AllBlank back ∧ cs = front ++ trim cs ++ back := by
  let kept := cs.dropWhile isBlank
  refine ⟨cs.takeWhile isBlank, (kept.reverse.takeWhile isBlank).reverse, ?_, ?_, ?_⟩
  · exact fun c hc => List.mem_takeWhile_imp hc
  · exact fun c hc => List.mem_takeWhile_imp (List.mem_reverse.mp hc)
  · have hkept : trim cs ++ (kept.reverse.takeWhile isBlank).reverse = kept := by
      rw [trim, ← List.reverse_append, List.takeWhile_append_dropWhile, List.reverse_reverse]
    rw [List.append_assoc, hkept, List.takeWhile_append_dropWhile]

theorem trim_append_of_blank {front : List Char} (hfront : AllBlank front) (cs : List Char) :
    trim (front ++ cs) = trim cs := by
  rw [trim, List.dropWhile_append_of_pos hfront, ← trim]

theorem trim_append_blank {back : List Char} (hback : AllBlank back) (cs : List Char) :
    trim (cs ++ back) = trim cs := by
  by_cases hcs : AllBlank cs
  case pos => rw [trim_eq_nil_iff.mpr hcs, trim_eq_nil_iff.mpr (hcs.append hback)]
  case neg =>
    have hne : (cs.dropWhile isBlank).isEmpty = false := by
      rw [List.isEmpty_eq_false_iff, ne_eq, List.dropWhile_eq_nil_iff]
      exact hcs
    rw [trim, List.dropWhile_append, hne, if_neg Bool.false_ne_true, List.reverse_append,
      List.dropWhile_append_of_pos hback.reverse, ← trim]

/-- Blanks at the ends make no difference to what trimming leaves. -/
theorem trim_surround {front back : List Char} (hfront : AllBlank front) (hback : AllBlank back)
    (cs : List Char) : trim (front ++ cs ++ back) = trim cs := by
  rw [trim_append_blank hback, trim_append_of_blank hfront]

/-! ## Small letters -/

theorem toList_lowered (s : String) : (lowered s).toList = s.toList.map Char.toLower := by
  rw [lowered, String.toList_map]

theorem lowered_eq_lowered_iff {s t : String} :
    lowered s = lowered t ↔ s.toList.map Char.toLower = t.toList.map Char.toLower := by
  rw [← String.toList_inj, toList_lowered, toList_lowered]

/-- Characters that are no capitals stay, and capitals become letters. -/
theorem toLower_cases (c : Char) :
    c.toLower = c ∨ (65 ≤ c.toNat ∧ c.toNat ≤ 90 ∧ c.toLower.toNat = c.toNat + 32) := by
  delta Char.toLower
  split
  case isTrue h =>
    have hlow : 65 ≤ c.toNat := h.1
    have hhigh : c.toNat ≤ 90 := h.2
    refine .inr ⟨hlow, hhigh, ?_⟩
    change (c.val + ('a'.val - 'A'.val)).toNat = c.toNat + 32
    rw [UInt32.toNat_add]
    exact Nat.mod_eq_of_lt (by change c.toNat + 32 < _; omega)
  case isFalse => exact .inl rfl

theorem eq_equals_of_toLower {c : Char} (h : c.toLower = '=') : c = '=' := by
  rcases toLower_cases c with heq | ⟨hlow, -, hlower⟩
  · rw [← heq, h]
  · have hequals : c.toLower.toNat = 61 := by rw [h]; rfl
    omega

theorem isBlank_eq_false {c : Char} {n : Nat} (hn : c.toNat = n) (hlow : 33 ≤ n)
    (hhigh : n ≤ 126) : isBlank c = false := by
  subst hn
  simp only [isBlank, Bool.or_eq_false_iff, Bool.and_eq_false_iff, decide_eq_false_iff_not,
    beq_eq_false_iff_ne]
  omega

theorem isBlank_toLower (c : Char) : isBlank c.toLower = isBlank c := by
  rcases toLower_cases c with heq | ⟨hlow, hhigh, hlower⟩
  · rw [heq]
  · have hcapital : isBlank c = false := isBlank_eq_false rfl (by omega) (by omega)
    rw [hcapital]
    exact isBlank_eq_false hlower (by omega) (by omega)

/-- Trimming and small letters can change places. -/
theorem trim_map_toLower (cs : List Char) :
    trim (cs.map Char.toLower) = (trim cs).map Char.toLower := by
  have hblank : isBlank ∘ Char.toLower = isBlank := funext isBlank_toLower
  rw [trim, trim, List.dropWhile_map, hblank, ← List.map_reverse, List.dropWhile_map, hblank,
    ← List.map_reverse]

theorem lowered_trim {cs ds : List Char} (h : cs.map Char.toLower = ds.map Char.toLower) :
    lowered (String.ofList (trim cs)) = lowered (String.ofList (trim ds)) := by
  apply String.toList_inj.mp
  rw [toList_lowered, toList_lowered, String.toList_ofList, String.toList_ofList,
    ← trim_map_toLower, ← trim_map_toLower, h]

end LeaseStore.Text
