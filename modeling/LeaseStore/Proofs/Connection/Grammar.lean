/-
LeaseStore.Proofs.Connection.Grammar — which texts are connection strings.

A piece is a setting when it has an equals sign with something in front of
it that is not blank. Pieces are grammatical when each is a setting and no
two have the same name, which is the key without its blanks and in small
letters. Nothing here follows how the pieces are read: the settings that a
reader has collected are tied to the pieces it has seen by `Holds`, which
each further piece either extends or offends.

* `parse_ok_iff` — a text is read exactly when it has pieces and they are
  grammatical.
* `parse_error_iff` — otherwise the first piece that offends decides the
  error.
* `get?_eq_some_iff` — what is looked up is the value of the piece of that
  name, unless it is blank.
-/
import LeaseStore.Connection.Settings
import LeaseStore.Proofs.Text.Trimming
import Mathlib.Data.List.Nodup
import Mathlib.Data.List.TakeDrop

namespace LeaseStore

open LeaseStore.Text

namespace ConnectionString

/-! ## The grammar -/

/-- The text in front of the first equals sign of a piece. -/
def keyText (piece : List Char) : List Char := piece.takeWhile (· ≠ '=')

/-- The text behind the first equals sign of a piece. -/
def valueText (piece : List Char) : List Char := (piece.dropWhile (· ≠ '=')).drop 1

/-- The key of a piece as keys are compared: without the blanks around it
and in small letters. -/
def nameOf (piece : List Char) : String := lowered (String.ofList (trim (keyText piece)))

/-- The value of a piece, without the blanks around it. -/
def valueOf (piece : List Char) : String := String.ofList (trim (valueText piece))

/-- Whether a piece has an equals sign and a key that is not blank. -/
def IsSetting (piece : List Char) : Prop := '=' ∈ piece ∧ ¬ AllBlank (keyText piece)

instance (piece : List Char) : Decidable (IsSetting piece) :=
  inferInstanceAs (Decidable (_ ∧ _))

/-- What pieces have to be for a connection string to be read. -/
structure Grammatical (pieces : List (List Char)) : Prop where
  settings : ∀ piece ∈ pieces, IsSetting piece
  distinct : (pieces.map nameOf).Nodup

instance (pieces : List (List Char)) : Decidable (Grammatical pieces) :=
  decidable_of_iff ((∀ piece ∈ pieces, IsSetting piece) ∧ (pieces.map nameOf).Nodup)
    ⟨fun h => ⟨h.1, h.2⟩, fun h => ⟨h.settings, h.distinct⟩⟩

/-- What is wrong with a piece, given those in front of it. -/
inductive Offends (before : List (List Char)) (piece : List Char) : ConnectionError → Prop
  | unassigned (hequals : '=' ∉ piece) :
      Offends before piece (.malformed ("segment '" ++ excerpt piece ++ "' is not Key=Value"))
  | nameless (hequals : '=' ∈ piece) (hblank : AllBlank (keyText piece)) :
      Offends before piece (.malformed "empty key")
  | repeated (hsetting : IsSetting piece) (hbefore : nameOf piece ∈ before.map nameOf) :
      Offends before piece (.malformed ("duplicate setting '" ++ nameOf piece ++ "'"))

theorem Grammatical.nil : Grammatical [] := ⟨fun _ h => absurd h List.not_mem_nil, List.nodup_nil⟩

theorem Grammatical.front {before after : List (List Char)}
    (h : Grammatical (before ++ after)) : Grammatical before := by
  refine ⟨fun piece hpiece => h.settings piece (List.mem_append_left _ hpiece), ?_⟩
  have hdistinct := h.distinct
  rw [List.map_append] at hdistinct
  exact List.Nodup.of_append_left hdistinct

/-- A piece may follow others when it is a setting of a new name. -/
theorem grammatical_concat_iff {before : List (List Char)} {piece : List Char} :
    Grammatical (before ++ [piece]) ↔
      Grammatical before ∧ IsSetting piece ∧ nameOf piece ∉ before.map nameOf := by
  constructor
  case mp =>
    intro h
    have hdistinct := h.distinct
    rw [List.map_append, List.map_singleton, List.nodup_append_comm, List.singleton_append,
      List.nodup_cons] at hdistinct
    exact ⟨h.front, h.settings piece (by simp), hdistinct.1⟩
  case mpr =>
    rintro ⟨hbefore, hsetting, hnew⟩
    refine ⟨?_, ?_⟩
    · intro other hother
      rcases List.mem_append.mp hother with hother | hother
      · exact hbefore.settings other hother
      · exact List.mem_singleton.mp hother ▸ hsetting
    · rw [List.map_append, List.map_singleton, List.nodup_append_comm, List.singleton_append,
        List.nodup_cons]
      exact ⟨hnew, hbefore.distinct⟩

/-- A piece either continues grammatical pieces or offends. -/
theorem Grammatical.concat_or_offends {before : List (List Char)} (h : Grammatical before)
    (piece : List Char) : Grammatical (before ++ [piece]) ∨ ∃ e, Offends before piece e := by
  by_cases hequals : '=' ∈ piece
  case neg => exact .inr ⟨_, .unassigned hequals⟩
  by_cases hblank : AllBlank (keyText piece)
  case pos => exact .inr ⟨_, .nameless hequals hblank⟩
  by_cases hbefore : nameOf piece ∈ before.map nameOf
  case pos => exact .inr ⟨_, .repeated ⟨hequals, hblank⟩ hbefore⟩
  exact .inl (grammatical_concat_iff.mpr ⟨h, ⟨hequals, hblank⟩, hbefore⟩)

/-! ## The settings collected so far -/

/-- The settings that have been read are the names and values of the pieces. -/
def Holds (settings : Std.ExtTreeMap String String) (pieces : List (List Char)) : Prop :=
  ∀ name value, settings[name]? = some value ↔
    ∃ piece ∈ pieces, nameOf piece = name ∧ valueOf piece = value

theorem Holds.nil : Holds ∅ [] := by
  intro name value
  simp

theorem Holds.mem_iff {settings : Std.ExtTreeMap String String} {pieces : List (List Char)}
    (h : Holds settings pieces) {name : String} :
    name ∈ settings ↔ name ∈ pieces.map nameOf := by
  rw [Std.ExtTreeMap.mem_iff_isSome_getElem?, Option.isSome_iff_exists, List.mem_map]
  constructor
  case mp =>
    rintro ⟨value, hvalue⟩
    obtain ⟨piece, hpiece, hname, -⟩ := (h name value).mp hvalue
    exact ⟨piece, hpiece, hname⟩
  case mpr =>
    rintro ⟨piece, hpiece, hname⟩
    exact ⟨valueOf piece, (h name _).mpr ⟨piece, hpiece, hname, rfl⟩⟩

theorem Holds.isEmpty_iff {settings : Std.ExtTreeMap String String} {pieces : List (List Char)}
    (h : Holds settings pieces) : settings.isEmpty = true ↔ pieces = [] := by
  rw [Std.ExtTreeMap.isEmpty_iff, Std.ExtTreeMap.eq_empty_iff_forall_not_mem]
  simp only [h.mem_iff]
  rw [← List.eq_nil_iff_forall_not_mem, List.map_eq_nil_iff]

theorem Holds.insert {settings : Std.ExtTreeMap String String} {before : List (List Char)}
    {piece : List Char} (h : Holds settings before) (hnew : nameOf piece ∉ before.map nameOf) :
    Holds (settings.insert (nameOf piece) (valueOf piece)) (before ++ [piece]) := by
  intro name value
  rw [Std.ExtTreeMap.getElem?_insert]
  simp only [List.mem_append, List.mem_singleton, Std.LawfulEqCmp.compare_eq_iff_eq]
  split
  case isTrue heq =>
    subst heq
    constructor
    · intro hvalue
      exact ⟨piece, .inr rfl, rfl, Option.some.inj hvalue⟩
    · rintro ⟨other, hother | rfl, hname, hvalue⟩
      · exact absurd (List.mem_map.mpr ⟨other, hother, hname⟩) hnew
      · rw [hvalue]
  case isFalse hne =>
    rw [h name value]
    constructor
    · rintro ⟨other, hother, hboth⟩
      exact ⟨other, .inl hother, hboth⟩
    · rintro ⟨other, hother | rfl, hname, hvalue⟩
      · exact ⟨other, hother, hname, hvalue⟩
      · exact absurd hname hne

/-! ## One piece -/

theorem lowered_eq_empty_iff {s : String} : lowered s = "" ↔ s = "" := by
  rw [← String.toList_eq_nil_iff, toList_lowered, List.map_eq_nil_iff, String.toList_eq_nil_iff]

theorem nameOf_eq_empty_iff {piece : List Char} :
    nameOf piece = "" ↔ AllBlank (keyText piece) := by
  rw [nameOf, lowered_eq_empty_iff, ← trim_eq_nil_iff, String.ofList_eq_empty_iff]

/-- The text behind the key starts with the equals sign, if there is one. -/
theorem dropWhile_eq (piece : List Char) :
    piece.dropWhile (· ≠ '=') = if '=' ∈ piece then '=' :: valueText piece else [] := by
  induction piece with
  | nil => rfl
  | cons c cs ih =>
    by_cases hc : c = '='
    case pos =>
      subst hc
      rfl
    case neg =>
      have hskip : (c :: cs).dropWhile (· ≠ '=') = cs.dropWhile (· ≠ '=') :=
        List.dropWhile_cons_of_pos (by simpa using hc)
      rw [valueText, hskip, ← valueText, ih]
      simp only [List.mem_cons, Ne.symm hc, false_or]

/-- What one piece does to the settings, in the words of the grammar. -/
theorem addSegment_eq (settings : Std.ExtTreeMap String String) (piece : List Char) :
    addSegment settings piece =
      if '=' ∉ piece then
        .error (.malformed ("segment '" ++ excerpt piece ++ "' is not Key=Value"))
      else if AllBlank (keyText piece) then .error (.malformed "empty key")
      else if nameOf piece ∈ settings then
        .error (.malformed ("duplicate setting '" ++ nameOf piece ++ "'"))
      else .ok (settings.insert (nameOf piece) (valueOf piece)) := by
  rw [addSegment, List.span_eq_takeWhile_dropWhile, dropWhile_eq]
  by_cases hequals : '=' ∈ piece
  case neg => rw [if_neg hequals, if_pos hequals]
  case pos =>
    rw [if_pos hequals, if_neg (not_not_intro hequals)]
    simp only [← nameOf_eq_empty_iff]
    rfl

theorem addSegment_of_offends {settings : Std.ExtTreeMap String String}
    {before : List (List Char)} {piece : List Char} {e : ConnectionError}
    (hholds : Holds settings before) (h : Offends before piece e) :
    addSegment settings piece = .error e := by
  rw [addSegment_eq]
  cases h with
  | unassigned hequals => rw [if_pos hequals]
  | nameless hequals hblank => rw [if_neg (not_not_intro hequals), if_pos hblank]
  | repeated hsetting hbefore =>
    rw [if_neg (not_not_intro hsetting.1), if_neg hsetting.2, if_pos (hholds.mem_iff.mpr hbefore)]

theorem addSegment_of_grammatical {settings : Std.ExtTreeMap String String}
    {before : List (List Char)} {piece : List Char} (hholds : Holds settings before)
    (h : Grammatical (before ++ [piece])) :
    ∃ later, addSegment settings piece = .ok later ∧ Holds later (before ++ [piece]) := by
  obtain ⟨-, hsetting, hnew⟩ := grammatical_concat_iff.mp h
  refine ⟨settings.insert (nameOf piece) (valueOf piece), ?_, hholds.insert hnew⟩
  rw [addSegment_eq, if_neg (not_not_intro hsetting.1), if_neg hsetting.2,
    if_neg (mt hholds.mem_iff.mp hnew)]

/-! ## All pieces -/

/-- Induction on the pieces still to be read; those that have been read
are what the settings hold. -/
theorem foldlM_of_grammatical {before : List (List Char)}
    {settings : Std.ExtTreeMap String String} (hholds : Holds settings before)
    (after : List (List Char)) (h : Grammatical (before ++ after)) :
    ∃ later, after.foldlM addSegment settings = .ok later ∧ Holds later (before ++ after) := by
  induction after generalizing before settings with
  | nil => exact ⟨settings, rfl, by rwa [List.append_nil]⟩
  | cons piece after ih =>
    rw [List.append_cons] at h ⊢
    obtain ⟨middle, hadd, hmiddle⟩ := addSegment_of_grammatical hholds h.front
    obtain ⟨later, hrest, hlater⟩ := ih hmiddle h
    refine ⟨later, ?_, hlater⟩
    rw [List.foldlM_cons, hadd]
    exact hrest

/-- What the first piece that offends, from the left, is blamed for. -/
def FirstOffence (pieces : List (List Char)) (e : ConnectionError) : Prop :=
  ∃ before piece after, pieces = before ++ piece :: after ∧ Grammatical before ∧
    Offends before piece e

theorem foldlM_of_firstOffence {pieces : List (List Char)} {e : ConnectionError}
    (h : FirstOffence pieces e) : pieces.foldlM addSegment ∅ = .error e := by
  obtain ⟨before, piece, after, rfl, hbefore, hoffends⟩ := h
  obtain ⟨settings, hread, hholds⟩ := foldlM_of_grammatical .nil before hbefore
  rw [List.foldlM_append, hread]
  change (piece :: after).foldlM addSegment settings = _
  rw [List.foldlM_cons, addSegment_of_offends (List.nil_append before ▸ hholds) hoffends]
  rfl

/-- Induction on the pieces still to be looked at. -/
theorem grammatical_or_firstOffence_append {before : List (List Char)} (h : Grammatical before)
    (after : List (List Char)) :
    Grammatical (before ++ after) ∨ ∃ e, FirstOffence (before ++ after) e := by
  induction after generalizing before with
  | nil => exact .inl (by rwa [List.append_nil])
  | cons piece after ih =>
    rcases h.concat_or_offends piece with hnext | ⟨e, hoffends⟩
    · rw [List.append_cons]
      exact ih hnext
    · exact .inr ⟨e, before, piece, after, rfl, h, hoffends⟩

theorem grammatical_or_firstOffence (pieces : List (List Char)) :
    Grammatical pieces ∨ ∃ e, FirstOffence pieces e :=
  grammatical_or_firstOffence_append .nil pieces

/-! ## Texts -/

theorem parse_of_grammatical {s : String} (hsome : segments s ≠ [])
    (h : Grammatical (segments s)) :
    ∃ c, parse s = .ok c ∧ Holds c.settings (segments s) := by
  obtain ⟨settings, hread, hholds⟩ := foldlM_of_grammatical .nil (segments s) h
  refine ⟨⟨settings⟩, ?_, hholds⟩
  rw [parse, hread]
  exact if_neg (mt hholds.isEmpty_iff.mp hsome)

theorem parse_of_empty {s : String} (h : segments s = []) :
    parse s = .error (.malformed "no settings") := by
  rw [parse, h, List.foldlM_nil]
  exact if_pos (e := Except.ok ⟨∅⟩) (Holds.nil.isEmpty_iff.mpr rfl)

theorem parse_of_firstOffence {s : String} {e : ConnectionError}
    (h : FirstOffence (segments s) e) : parse s = .error e := by
  rw [parse, foldlM_of_firstOffence h]
  rfl

/-- A text is read exactly when it has pieces and they are grammatical. -/
theorem parse_ok_iff {s : String} :
    (∃ c, parse s = .ok c) ↔ segments s ≠ [] ∧ Grammatical (segments s) := by
  constructor
  case mp =>
    rintro ⟨c, hparse⟩
    refine ⟨fun hnone => ?_, ?_⟩
    · rw [parse_of_empty hnone] at hparse
      cases hparse
    · rcases grammatical_or_firstOffence (segments s) with h | ⟨e, h⟩
      · exact h
      · rw [parse_of_firstOffence h] at hparse
        cases hparse
  case mpr =>
    rintro ⟨hsome, h⟩
    obtain ⟨c, hparse, -⟩ := parse_of_grammatical hsome h
    exact ⟨c, hparse⟩

/-- A text that is not read has no piece, or the first piece that offends
decides the error. -/
theorem parse_error_iff {s : String} {e : ConnectionError} :
    parse s = .error e ↔
      (segments s = [] ∧ e = .malformed "no settings") ∨ FirstOffence (segments s) e := by
  constructor
  case mp =>
    intro hparse
    by_cases hnone : segments s = []
    case pos =>
      rw [parse_of_empty hnone] at hparse
      exact .inl ⟨hnone, (Except.error.inj hparse).symm⟩
    case neg =>
      rcases grammatical_or_firstOffence (segments s) with h | ⟨e', h⟩
      · obtain ⟨c, hread, -⟩ := parse_of_grammatical hnone h
        rw [hread] at hparse
        cases hparse
      · rw [parse_of_firstOffence h] at hparse
        exact .inr (Except.error.inj hparse ▸ h)
  case mpr =>
    rintro (⟨hnone, rfl⟩ | h)
    · exact parse_of_empty hnone
    · exact parse_of_firstOffence h

/-- What has been read holds the pieces of the text. -/
theorem holds_of_parse {s : String} {c : ConnectionString} (h : parse s = .ok c) :
    Holds c.settings (segments s) := by
  obtain ⟨hsome, hgrammatical⟩ := parse_ok_iff.mp ⟨c, h⟩
  obtain ⟨c', hread, hholds⟩ := parse_of_grammatical hsome hgrammatical
  rw [h] at hread
  exact Except.ok.inj hread ▸ hholds

/-- A setting is the value of the piece of its name, unless that is blank. -/
theorem get?_eq_some_iff {s : String} {c : ConnectionString} (h : parse s = .ok c)
    {key value : String} :
    c.get? key = some value ↔
      value ≠ "" ∧ ∃ piece ∈ segments s, nameOf piece = lowered key ∧ valueOf piece = value := by
  rw [get?, Option.filter_eq_some_iff, holds_of_parse h, decide_eq_true_eq, and_comm]

theorem get?_eq_none_iff {s : String} {c : ConnectionString} (h : parse s = .ok c)
    {key : String} :
    c.get? key = none ↔
      ∀ piece ∈ segments s, nameOf piece = lowered key → valueOf piece = "" := by
  rw [Option.eq_none_iff_forall_ne_some]
  simp only [ne_eq, get?_eq_some_iff h]
  constructor
  · intro hnone piece hpiece hname
    by_contra hvalue
    exact hnone _ ⟨hvalue, piece, hpiece, hname, rfl⟩
  · rintro hblank value ⟨hvalue, piece, hpiece, hname, rfl⟩
    exact hvalue (hblank piece hpiece hname)

end ConnectionString

end LeaseStore
