/-
LeaseStore.Proofs.Connection.Restyling — connection strings are read by their
grammar, however they are written.

There are many ways to write the same settings: the pieces in another
order, other capitals in a key, blanks around a key or a value, more
semicolons, and settings without a value. Each is one step of `Restyle`, on
the pieces of a text as they stand; `Restyled` is any number of them. A step
trades pieces for pieces that are read alike (`Alike`), drops or adds pieces
that do not count, or adds one that no lookup finds, so a text that could be
read still can be, and with the same answers (`Restyle.replaces`,
`Restyled.parse`).

* `connection_strings_follow_grammar` — which texts are read, what is found
  in them, what is wrong with the others, and that restyling a text changes
  nothing of it.
-/
import LeaseStore.Connection.Account
import LeaseStore.Proofs.Connection.Grammar
import Mathlib.Logic.Relation

namespace LeaseStore

open LeaseStore.Text

namespace ConnectionString

/-! ## Other ways to write a text -/

/-- The pieces of a text between its semicolons, as they stand. -/
def pieces (s : String) : List (List Char) := s.toList.splitOn ';'

/-- One change of how the pieces of a text are written. -/
inductive Restyle : List (List Char) → List (List Char) → Prop
  | permute {old new : List (List Char)} (hperm : new.Perm old) : Restyle old new
  | recase {before after : List (List Char)} {key key' value : List Char}
      (hkey : '=' ∉ key) (hcase : key'.map Char.toLower = key.map Char.toLower) :
      Restyle (before ++ (key ++ '=' :: value) :: after)
        (before ++ (key' ++ '=' :: value) :: after)
  | pad {before after : List (List Char)} {key value a b c d : List Char} (hkey : '=' ∉ key)
      (ha : AllBlank a) (hb : AllBlank b) (hc : AllBlank c) (hd : AllBlank d) :
      Restyle (before ++ (key ++ '=' :: value) :: after)
        (before ++ ((a ++ key ++ b) ++ '=' :: (c ++ value ++ d)) :: after)
  | separate {before after : List (List Char)} {left right : List Char}
      (hedge : AllBlank left ∨ AllBlank right) :
      Restyle (before ++ (left ++ right) :: after) (before ++ left :: right :: after)
  | declare {before after : List (List Char)} {key blanks : List Char} (hkey : '=' ∉ key)
      (hnamed : ¬ AllBlank key) (hblanks : AllBlank blanks)
      (hfresh : ∀ piece ∈ before ++ after, nameOf piece ≠ nameOf (key ++ '=' :: blanks)) :
      Restyle (before ++ after) (before ++ (key ++ '=' :: blanks) :: after)

/-- A text written in another way, by any number of changes. -/
def Restyled : String → String → Prop :=
  Relation.ReflTransGen fun s t => Restyle (pieces s) (pieces t)

theorem Restyle.restyled {s t : String} (h : Restyle (pieces s) (pieces t)) : Restyled s t :=
  Relation.ReflTransGen.single h

theorem Restyled.trans {s t u : String} (h : Restyled s t) (h' : Restyled t u) : Restyled s u :=
  Relation.ReflTransGen.trans h h'

/-! ## The parts of a piece -/

theorem equals_notMem_keyText (piece : List Char) : '=' ∉ keyText piece := by
  intro hmem
  have h := List.mem_takeWhile_imp hmem
  simp at h

theorem ne_equals_of_notMem {cs : List Char} (h : '=' ∉ cs) :
    ∀ c ∈ cs, decide (c ≠ '=') = true :=
  fun _ hc => decide_eq_true fun heq => h (heq ▸ hc)

theorem keyText_append_valueText {piece : List Char} (h : '=' ∈ piece) :
    keyText piece ++ '=' :: valueText piece = piece := by
  have hrest := dropWhile_eq piece
  rw [if_pos h] at hrest
  rw [keyText, ← hrest, List.takeWhile_append_dropWhile]

theorem keyText_written {key : List Char} (h : '=' ∉ key) (value : List Char) :
    keyText (key ++ '=' :: value) = key := by
  rw [keyText, List.takeWhile_append_of_pos (ne_equals_of_notMem h)]
  simp

theorem valueText_written {key : List Char} (h : '=' ∉ key) (value : List Char) :
    valueText (key ++ '=' :: value) = value := by
  rw [valueText, List.dropWhile_append_of_pos (ne_equals_of_notMem h)]
  simp

theorem keyText_of_notMem {piece : List Char} (h : '=' ∉ piece) : keyText piece = piece :=
  List.takeWhile_eq_self_iff.mpr (ne_equals_of_notMem h)

theorem valueText_of_notMem {piece : List Char} (h : '=' ∉ piece) : valueText piece = [] := by
  rw [valueText, dropWhile_eq, if_neg h]
  rfl

/-- The equals sign is no letter, so it stays where it is. -/
theorem equals_mem_of_recased {key key' : List Char}
    (hcase : key'.map Char.toLower = key.map Char.toLower) (h : '=' ∈ key') : '=' ∈ key := by
  have hlower : '=' ∈ key.map Char.toLower := hcase ▸ List.mem_map_of_mem h
  obtain ⟨c, hc, heq⟩ := List.mem_map.mp hlower
  exact eq_equals_of_toLower heq ▸ hc

theorem equals_notMem_of_allBlank {cs : List Char} (h : AllBlank cs) : '=' ∉ cs :=
  h.notMem (by decide)

/-! ## Pieces that are read alike -/

/-- Two pieces that are settings alike, of one name and one value. -/
structure Alike (p q : List Char) : Prop where
  isSetting : IsSetting p ↔ IsSetting q
  name : nameOf p = nameOf q
  value : valueOf p = valueOf q

theorem Alike.symm {p q : List Char} (h : Alike p q) : Alike q p :=
  ⟨h.isSetting.symm, h.name.symm, h.value.symm⟩

theorem Alike.trans {p q r : List Char} (h : Alike p q) (h' : Alike q r) : Alike p r :=
  ⟨h.isSetting.trans h'.isSetting, h.name.trans h'.name, h.value.trans h'.value⟩

theorem isSetting_written_iff {key : List Char} (h : '=' ∉ key) (value : List Char) :
    IsSetting (key ++ '=' :: value) ↔ ¬ AllBlank key := by
  rw [IsSetting, keyText_written h]
  simp

theorem nameOf_written {key : List Char} (h : '=' ∉ key) (value : List Char) :
    nameOf (key ++ '=' :: value) = lowered (String.ofList (trim key)) := by
  rw [nameOf, keyText_written h]

theorem valueOf_written {key : List Char} (h : '=' ∉ key) (value : List Char) :
    valueOf (key ++ '=' :: value) = String.ofList (trim value) := by
  rw [valueOf, valueText_written h]

theorem allBlank_surround_iff {a b cs : List Char} (ha : AllBlank a) (hb : AllBlank b) :
    AllBlank (a ++ cs ++ b) ↔ AllBlank cs := by
  rw [← trim_eq_nil_iff, trim_surround ha hb, trim_eq_nil_iff]

theorem Alike.pad {key a b c d : List Char} (hkey : '=' ∉ key) (value : List Char)
    (ha : AllBlank a) (hb : AllBlank b) (hc : AllBlank c) (hd : AllBlank d) :
    Alike ((a ++ key ++ b) ++ '=' :: (c ++ value ++ d)) (key ++ '=' :: value) := by
  have hpadded : '=' ∉ a ++ key ++ b := by
    simp [equals_notMem_of_allBlank ha, equals_notMem_of_allBlank hb, hkey]
  refine ⟨?_, ?_, ?_⟩
  · rw [isSetting_written_iff hpadded, isSetting_written_iff hkey, allBlank_surround_iff ha hb]
  · rw [nameOf_written hpadded, nameOf_written hkey, trim_surround ha hb]
  · rw [valueOf_written hpadded, valueOf_written hkey, trim_surround hc hd]

theorem Alike.recase {key key' : List Char} (hkey : '=' ∉ key)
    (hcase : key'.map Char.toLower = key.map Char.toLower) (value : List Char) :
    Alike (key' ++ '=' :: value) (key ++ '=' :: value) := by
  have hkey' : '=' ∉ key' := fun hmem => hkey (equals_mem_of_recased hcase hmem)
  have hname := lowered_trim hcase
  refine ⟨?_, ?_, ?_⟩
  · rw [isSetting_written_iff hkey', isSetting_written_iff hkey]
    refine not_congr ?_
    -- a key is blank exactly when its name is empty
    rw [← keyText_written hkey' value, ← keyText_written hkey value, ← nameOf_eq_empty_iff,
      ← nameOf_eq_empty_iff, nameOf_written hkey', nameOf_written hkey, hname]
  · rw [nameOf_written hkey', nameOf_written hkey, hname]
  · rw [valueOf_written hkey', valueOf_written hkey]

theorem Alike.surround {a b : List Char} (ha : AllBlank a) (hb : AllBlank b)
    (piece : List Char) : Alike (a ++ piece ++ b) piece := by
  by_cases hequals : '=' ∈ piece
  case pos =>
    have hpad := Alike.pad (equals_notMem_keyText piece) (valueText piece) ha
      (b := []) (fun _ h => absurd h List.not_mem_nil)
      (c := []) (fun _ h => absurd h List.not_mem_nil) hb
    rw [List.append_nil, List.nil_append, keyText_append_valueText hequals] at hpad
    have hwhole : a ++ keyText piece ++ '=' :: (valueText piece ++ b) = a ++ piece ++ b := by
      conv_rhs => rw [← keyText_append_valueText hequals]
      simp
    rwa [hwhole] at hpad
  case neg =>
    have hwhole : '=' ∉ a ++ piece ++ b := by
      simp [equals_notMem_of_allBlank ha, equals_notMem_of_allBlank hb, hequals]
    refine ⟨?_, ?_, ?_⟩
    · exact ⟨fun h => absurd h.1 hwhole, fun h => absurd h.1 hequals⟩
    · rw [nameOf, nameOf, keyText_of_notMem hwhole, keyText_of_notMem hequals,
        trim_surround ha hb]
    · rw [valueOf, valueOf, valueText_of_notMem hwhole, valueText_of_notMem hequals]

theorem Alike.trim (piece : List Char) : Alike (trim piece) piece := by
  obtain ⟨a, b, ha, hb, heq⟩ := exists_trim piece
  have h := Alike.surround ha hb (Text.trim piece)
  rw [← heq] at h
  exact h.symm

/-! ## The pieces that count -/

/-- The pieces that count, trimmed. -/
def kept (pieces : List (List Char)) : List (List Char) :=
  (pieces.map trim).filter (!·.isEmpty)

theorem kept_append (p q : List (List Char)) : kept (p ++ q) = kept p ++ kept q := by
  rw [kept, List.map_append, List.filter_append, ← kept, ← kept]

theorem kept_cons_congr {piece other : List Char} (h : Text.trim piece = Text.trim other)
    (p : List (List Char)) : kept (piece :: p) = kept (other :: p) := by
  rw [kept, kept, List.map_cons, List.map_cons, h]

theorem kept_cons_blank {piece : List Char} (h : AllBlank piece) (p : List (List Char)) :
    kept (piece :: p) = kept p := by
  rw [kept, List.map_cons, trim_eq_nil_iff.mpr h]
  rfl

/-- A semicolon at the edge of a piece only adds one that does not count. -/
theorem kept_separate {left right : List Char} (h : AllBlank left ∨ AllBlank right)
    (p : List (List Char)) : kept (left :: right :: p) = kept ((left ++ right) :: p) := by
  rcases h with hleft | hright
  · rw [kept_cons_blank hleft, kept_cons_congr (trim_append_of_blank hleft right)]
  · rw [kept_cons_congr (trim_append_blank hright left), ← List.singleton_append,
      kept_append, kept_cons_blank hright, ← kept_append, List.singleton_append]

theorem kept_cons_of_mem {piece : List Char} (h : '=' ∈ piece) (p : List (List Char)) :
    kept (piece :: p) = Text.trim piece :: kept p := by
  have hne : Text.trim piece ≠ [] := fun hnil =>
    equals_notMem_of_allBlank (trim_eq_nil_iff.mp hnil) h
  rw [kept, List.map_cons, List.filter_cons_of_pos, ← kept]
  simpa using hne

theorem mem_kept {piece : List Char} {p : List (List Char)} (h : piece ∈ kept p) :
    ∃ written ∈ p, piece = Text.trim written := by
  obtain ⟨written, hwritten, heq⟩ := List.mem_map.mp (List.mem_of_mem_filter h)
  exact ⟨written, hwritten, heq.symm⟩

/-! ## One change -/

/-- New pieces that can be read and give every lookup what the old ones gave. -/
structure Replaces (new old : List (List Char)) : Prop where
  grammatical : Grammatical new
  nonempty : new ≠ []
  settings : ∀ name value, value ≠ "" →
    ((∃ piece ∈ new, nameOf piece = name ∧ valueOf piece = value) ↔
      ∃ piece ∈ old, nameOf piece = name ∧ valueOf piece = value)

theorem Grammatical.perm {p q : List (List Char)} (h : Grammatical q) (hperm : p.Perm q) :
    Grammatical p :=
  ⟨fun piece hpiece => h.settings piece (hperm.mem_iff.mp hpiece),
    (hperm.map nameOf).nodup_iff.mpr h.distinct⟩

theorem Replaces.permute {new old : List (List Char)} (h : Grammatical old) (hne : old ≠ [])
    (hperm : new.Perm old) : Replaces new old where
  grammatical := h.perm hperm
  nonempty := fun hnil => hne (List.perm_nil.mp (hnil ▸ hperm.symm))
  settings name value _ := by simp only [hperm.mem_iff]

theorem Replaces.exchange {before after : List (List Char)} {p q : List Char}
    (h : Grammatical (before ++ q :: after)) (halike : Alike p q) :
    Replaces (before ++ p :: after) (before ++ q :: after) where
  grammatical := by
    refine ⟨fun piece hpiece => ?_, ?_⟩
    · rcases List.mem_append.mp hpiece with hbefore | hpiece
      · exact h.settings piece (List.mem_append_left _ hbefore)
      · rcases List.mem_cons.mp hpiece with rfl | hafter
        · exact halike.isSetting.mpr (h.settings q (by simp))
        · exact h.settings piece (by simp [hafter])
    · have hdistinct := h.distinct
      rw [List.map_append, List.map_cons] at hdistinct ⊢
      rwa [halike.name]
  nonempty := by simp
  settings name value _ := by
    simp only [List.mem_append, List.mem_cons, or_and_right, exists_or, exists_eq_left,
      halike.name, halike.value]

theorem Replaces.declare {before after : List (List Char)} {piece : List Char}
    (h : Grammatical (before ++ after)) (hsetting : IsSetting piece)
    (hblank : valueOf piece = "")
    (hfresh : ∀ other ∈ before ++ after, nameOf other ≠ nameOf piece) :
    Replaces (before ++ piece :: after) (before ++ after) where
  grammatical := by
    refine ⟨fun other hother => ?_, ?_⟩
    · rcases List.mem_cons.mp (List.perm_middle.mem_iff.mp hother) with rfl | hold
      · exact hsetting
      · exact h.settings other hold
    · rw [(List.perm_middle.map nameOf).nodup_iff, List.map_cons, List.nodup_cons]
      refine ⟨?_, h.distinct⟩
      rintro hmem
      obtain ⟨other, hother, hname⟩ := List.mem_map.mp hmem
      exact hfresh other hother hname
  nonempty := by simp
  settings name value hvalue := by
    simp only [List.perm_middle.mem_iff, List.mem_cons, or_and_right, exists_or, exists_eq_left,
      hblank, Ne.symm hvalue, and_false, false_or]

/-- One change of how a text is written keeps what can be read from it. -/
theorem Restyle.replaces {old new : List (List Char)} (h : Restyle old new)
    (hgrammatical : Grammatical (kept old)) (hne : kept old ≠ []) :
    Replaces (kept new) (kept old) := by
  cases h with
  | permute hperm =>
    exact .permute hgrammatical hne ((hperm.map _).filter _)
  | recase hkey hcase =>
    rw [kept_append, kept_cons_of_mem (by simp)] at hgrammatical ⊢
    rw [kept_append, kept_cons_of_mem (by simp)]
    exact .exchange hgrammatical
      ((Alike.trim _).trans ((Alike.recase hkey hcase _).trans (Alike.trim _).symm))
  | pad hkey ha hb hc hd =>
    rw [kept_append, kept_cons_of_mem (by simp)] at hgrammatical ⊢
    rw [kept_append, kept_cons_of_mem (by simp)]
    exact .exchange hgrammatical
      ((Alike.trim _).trans ((Alike.pad hkey _ ha hb hc hd).trans (Alike.trim _).symm))
  | separate hedge =>
    rw [kept_append, kept_separate hedge, ← kept_append]
    exact .permute hgrammatical hne (List.Perm.refl _)
  | @declare before after key blanks hkey hnamed hblanks hfresh =>
    rw [kept_append] at hgrammatical
    rw [kept_append, kept_cons_of_mem (by simp), kept_append]
    have halike := Alike.trim (key ++ '=' :: blanks)
    refine .declare hgrammatical ?_ ?_ ?_
    · exact halike.isSetting.mpr ((isSetting_written_iff hkey blanks).mpr hnamed)
    · rw [halike.value, valueOf_written hkey, trim_eq_nil_iff.mpr hblanks]
    · intro other hother
      rw [← kept_append] at hother
      obtain ⟨written, hwritten, rfl⟩ := mem_kept hother
      rw [(Alike.trim written).name, halike.name]
      exact hfresh written hwritten

/-! ## Any number of changes -/

theorem parse_of_replaces {s t : String} {c : ConnectionString} (hparse : parse s = .ok c)
    (h : Replaces (segments t) (segments s)) :
    ∃ d, parse t = .ok d ∧ ∀ key, d.get? key = c.get? key := by
  obtain ⟨d, hd⟩ := parse_ok_iff.mpr ⟨h.nonempty, h.grammatical⟩
  refine ⟨d, hd, fun key => Option.ext fun value => ?_⟩
  rw [get?_eq_some_iff hd, get?_eq_some_iff hparse]
  exact and_congr_right fun hvalue => h.settings _ _ hvalue

/-- A text that can be read can be read however it is written, and every
lookup finds the same. Induction on the changes. -/
theorem Restyled.parse {s t : String} {c : ConnectionString} (h : Restyled s t)
    (hparse : parse s = .ok c) :
    ∃ d, parse t = .ok d ∧ ∀ key, d.get? key = c.get? key := by
  induction h with
  | refl => exact ⟨c, hparse, fun _ => rfl⟩
  | tail _ hstep ih =>
    obtain ⟨middle, hmiddle, hlookup⟩ := ih
    obtain ⟨hsome, hgrammatical⟩ := parse_ok_iff.mp ⟨middle, hmiddle⟩
    obtain ⟨d, hd, hnext⟩ := parse_of_replaces hmiddle (hstep.replaces hgrammatical hsome)
    exact ⟨d, hd, fun key => (hnext key).trans (hlookup key)⟩

theorem require_congr {c d : ConnectionString} (h : ∀ key, d.get? key = c.get? key)
    (key : String) : d.require key = c.require key := by
  rw [require, require, h]

end ConnectionString

/-! ## The accounts -/

theorem DocumentAccount.ofSettings_congr {c d : ConnectionString}
    (h : ∀ key, d.get? key = c.get? key) : ofSettings d = ofSettings c := by
  simp only [ofSettings, ConnectionString.require_congr h]

theorem TableAccount.ofSettings_congr {c d : ConnectionString}
    (h : ∀ key, d.get? key = c.get? key) : ofSettings d = ofSettings c := by
  simp only [ofSettings, ConnectionString.require_congr h, h]

open ConnectionString in
/-- **Connection strings are read by their grammar, however they are
written.** The pieces of a text are those between its semicolons, trimmed,
without the empty ones. A text is read exactly when there is a piece, each
has an equals sign with something in front of it that is not blank, and no
two have the same key, without its blanks and in small letters. A lookup
then finds the trimmed text behind the first equals sign of the piece whose
key is the one asked for, whatever the capitals; it finds nothing when there
is no such piece or that text is empty. A text that is not read has no
piece, or its error is that of the first piece from the left that offends
the grammar. Whoever writes a text that can be read in another way, with the
pieces in another order, other capitals in keys, blanks around keys and
values, more semicolons or blank settings under new keys, changes no lookup,
and neither account that is read from it, nor the error of one that is not. -/
theorem connection_strings_follow_grammar (s : String) :
    ((∃ c, parse s = .ok c) ↔ segments s ≠ [] ∧ Grammatical (segments s)) ∧
    (∀ c, parse s = .ok c → ∀ key,
      (∀ value, c.get? key = some value ↔
        value ≠ "" ∧
          ∃ piece ∈ segments s, nameOf piece = lowered key ∧ valueOf piece = value) ∧
      (c.get? key = none ↔
        ∀ piece ∈ segments s, nameOf piece = lowered key → valueOf piece = "")) ∧
    (∀ e, parse s = .error e ↔
      (segments s = [] ∧ e = .malformed "no settings") ∨ FirstOffence (segments s) e) ∧
    ∀ c t, parse s = .ok c → Restyled s t →
      ∃ d, parse t = .ok d ∧ (∀ key, d.get? key = c.get? key) ∧
        DocumentAccount.ofSettings d = DocumentAccount.ofSettings c ∧
        TableAccount.ofSettings d = TableAccount.ofSettings c := by
  refine ⟨parse_ok_iff, ?_, fun e => parse_error_iff, ?_⟩
  · intro c hparse key
    exact ⟨fun value => get?_eq_some_iff hparse, get?_eq_none_iff hparse⟩
  · intro c t hparse hrestyled
    obtain ⟨d, hd, hlookup⟩ := hrestyled.parse hparse
    exact ⟨d, hd, hlookup, DocumentAccount.ofSettings_congr hlookup,
      TableAccount.ofSettings_congr hlookup⟩

open ConnectionString in
/-- A document account in two ways of writing it: in the second, the key comes
first, in capitals and with blanks around, and a semicolon and a setting
without a value are there besides. -/
theorem connection_strings_follow_grammar_rewritten :
    ∃ c d, parse "AccountEndpoint=https://x/;AccountKey=YWJj==" = .ok c ∧
      parse " ACCOUNTKEY = YWJj==;;AccountEndpoint=https://x/;Region=" = .ok d ∧
      DocumentAccount.ofSettings c = .ok ⟨"https://x/", "YWJj=="⟩ ∧
      DocumentAccount.ofSettings d = .ok ⟨"https://x/", "YWJj=="⟩ := by
  obtain ⟨hreads, hlookups, -, hrestyle⟩ :=
    connection_strings_follow_grammar "AccountEndpoint=https://x/;AccountKey=YWJj=="
  obtain ⟨c, hc⟩ := hreads.mpr (by decide +kernel)
  let endpoint := "AccountEndpoint=https://x/".toList
  have hpermute : Restyled "AccountEndpoint=https://x/;AccountKey=YWJj=="
      "AccountKey=YWJj==;AccountEndpoint=https://x/" :=
    Restyle.restyled (.permute (by decide +kernel))
  have hrecase : Restyled "AccountKey=YWJj==;AccountEndpoint=https://x/"
      "ACCOUNTKEY=YWJj==;AccountEndpoint=https://x/" := by
    have hold : pieces "AccountKey=YWJj==;AccountEndpoint=https://x/" =
        [] ++ ("AccountKey".toList ++ '=' :: "YWJj==".toList) :: [endpoint] := by decide +kernel
    have hnew : pieces "ACCOUNTKEY=YWJj==;AccountEndpoint=https://x/" =
        [] ++ ("ACCOUNTKEY".toList ++ '=' :: "YWJj==".toList) :: [endpoint] := by decide +kernel
    refine Restyle.restyled ?_
    rw [hold, hnew]
    exact .recase (by decide +kernel) (by decide +kernel)
  have hpad : Restyled "ACCOUNTKEY=YWJj==;AccountEndpoint=https://x/"
      " ACCOUNTKEY = YWJj==;AccountEndpoint=https://x/" := by
    have hold : pieces "ACCOUNTKEY=YWJj==;AccountEndpoint=https://x/" =
        [] ++ ("ACCOUNTKEY".toList ++ '=' :: "YWJj==".toList) :: [endpoint] := by decide +kernel
    have hnew : pieces " ACCOUNTKEY = YWJj==;AccountEndpoint=https://x/" =
        [] ++ (([' '] ++ "ACCOUNTKEY".toList ++ [' ']) ++
          '=' :: ([' '] ++ "YWJj==".toList ++ [])) :: [endpoint] := by decide +kernel
    refine Restyle.restyled ?_
    rw [hold, hnew]
    exact .pad (by decide +kernel) (by decide) (by decide) (by decide) (by decide)
  have hseparate : Restyled " ACCOUNTKEY = YWJj==;AccountEndpoint=https://x/"
      " ACCOUNTKEY = YWJj==;;AccountEndpoint=https://x/" := by
    have hold : pieces " ACCOUNTKEY = YWJj==;AccountEndpoint=https://x/" =
        [" ACCOUNTKEY = YWJj==".toList] ++ ([] ++ endpoint) :: [] := by decide +kernel
    have hnew : pieces " ACCOUNTKEY = YWJj==;;AccountEndpoint=https://x/" =
        [" ACCOUNTKEY = YWJj==".toList] ++ [] :: endpoint :: [] := by decide +kernel
    refine Restyle.restyled ?_
    rw [hold, hnew]
    exact .separate (.inl (by decide))
  have hdeclare : Restyled " ACCOUNTKEY = YWJj==;;AccountEndpoint=https://x/"
      " ACCOUNTKEY = YWJj==;;AccountEndpoint=https://x/;Region=" := by
    have hold : pieces " ACCOUNTKEY = YWJj==;;AccountEndpoint=https://x/" =
        [" ACCOUNTKEY = YWJj==".toList, [], endpoint] ++ [] := by decide +kernel
    have hnew : pieces " ACCOUNTKEY = YWJj==;;AccountEndpoint=https://x/;Region=" =
        [" ACCOUNTKEY = YWJj==".toList, [], endpoint] ++ ("Region".toList ++ '=' :: []) :: [] := by
      decide +kernel
    refine Restyle.restyled ?_
    rw [hold, hnew]
    exact .declare (by decide +kernel) (by decide +kernel) (by decide) (by decide +kernel)
  have hall := (((hpermute.trans hrecase).trans hpad).trans hseparate).trans hdeclare
  obtain ⟨d, hd, -, hdocument, -⟩ := hrestyle c _ hc hall
  have hendpoint : c.get? "AccountEndpoint" = some "https://x/" :=
    ((hlookups c hc _).1 _).mpr (by decide +kernel)
  have hkey : c.get? "AccountKey" = some "YWJj==" :=
    ((hlookups c hc _).1 _).mpr (by decide +kernel)
  have haccount : DocumentAccount.ofSettings c = .ok ⟨"https://x/", "YWJj=="⟩ := by
    rw [DocumentAccount.ofSettings, require, hendpoint, require, hkey]
    rfl
  exact ⟨c, d, hc, hd, haccount, hdocument.trans haccount⟩

end LeaseStore
