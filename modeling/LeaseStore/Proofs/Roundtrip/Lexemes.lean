/-
LeaseStore.Proofs.Roundtrip.Lexemes — strings and numbers are read back.

A string is written character by character, and each written character brings
the reader back among plain characters with that character read
(`readStringFrom_escapeChar`); the string is then an induction. A number is
written in decimal digits without a zero in front, so the reader takes all of
them and nothing else, as long as no further digit, point or exponent follows
(`EndsNumber`).

* `readString_quote` — a string in quotes is read back, whatever follows.
* `readNumber_toDigits` — a number of 64 bits is read back as an integer.
-/
import LeaseStore.Json.Lexeme
import LeaseStore.Json.Printer
import LeaseStore.Proofs.Text.Numeral
import Mathlib.Data.List.TakeDrop
import Mathlib.Data.List.TakeWhile
import Mathlib.Data.Nat.Log

namespace LeaseStore.Json

open LeaseStore.Text

/-! ## Strings -/

/-- A control character is written with four digits, the first two zeros. -/
theorem toList_hex_of_lt : ∀ n < 32,
    (hex 4 n).toList = ['0', '0', Nat.digitChar (n / 16), Nat.digitChar (n % 16)] := by
  simp only [hex, padded, String.toList_ofList]
  decide

theorem byteCount_four (a b c d : Char) : 4 ≤ byteCount [a, b, c, d] := by
  have ha := a.utf8Size_pos
  have hb := b.utf8Size_pos
  have hc := c.utf8Size_pos
  have hd := d.utf8Size_pos
  simp only [byteCount, List.foldl_cons, List.foldl_nil]
  omega

/-- Four hexadecimal digits of a control character are read back. -/
theorem readStringFrom_control {c : Char} (hc : c.toNat < 32) (acc rest : List Char) :
    readStringFrom .plain acc ('\\' :: 'u' :: (hex 4 c.toNat).toList ++ rest) =
      readStringFrom .plain (c :: acc) rest := by
  have hhigh := hexValue?_digitChar (c.toNat / 16) (by omega)
  have hlow := hexValue?_digitChar (c.toNat % 16) (by omega)
  have hzero : hexValue? '0' = some 0 := rfl
  have hsum : c.toNat / 16 * 16 + c.toNat % 16 = c.toNat := by omega
  have hchar : numbered c.toNat none = .char c := by
    rw [numbered, if_neg (by omega), if_neg (by omega), Char.ofNat_toNat]
  have hbytes := byteCount_four '0' '0' (Nat.digitChar (c.toNat / 16))
    (Nat.digitChar (c.toNat % 16))
  rw [toList_hex_of_lt _ hc]
  simp [readStringFrom, hzero, hhigh, hlow, hsum, hchar, Nat.not_lt.mpr hbytes]

/-- A character that was written is read back. -/
theorem readStringFrom_escapeChar (c : Char) (acc rest : List Char) :
    readStringFrom .plain acc (escapeChar c ++ rest) = readStringFrom .plain (c :: acc) rest := by
  unfold escapeChar
  split
  case h_8 hquote hslash _ _ _ _ _ =>
    split
    case isTrue hcontrol => exact readStringFrom_control hcontrol acc rest
    case isFalse hplain =>
      have hquote : c ≠ '"' := hquote
      have hslash : c ≠ '\\' := hslash
      rw [List.singleton_append, readStringFrom, if_neg hquote, if_neg hslash, if_neg hplain]
  all_goals simp [readStringFrom, escaped?]

/-- Induction on the characters. -/
theorem readStringFrom_escaped (cs acc rest : List Char) :
    readStringFrom .plain acc (cs.flatMap escapeChar ++ '"' :: rest) =
      .ok (acc.reverse ++ cs, rest) := by
  induction cs generalizing acc with
  | nil => simp [readStringFrom]
  | cons c cs ih =>
    rw [List.flatMap_cons, List.append_assoc, readStringFrom_escapeChar, ih]
    simp

/-- A string in quotes is read back, from behind the first of them. -/
theorem readString_quote (s : String) (rest : List Char) :
    ∃ cs, (quote s).toList ++ rest = '"' :: cs ∧ readString cs = .ok (s, rest) := by
  refine ⟨s.toList.flatMap escapeChar ++ '"' :: rest, ?_, ?_⟩
  · simp [quote]
  · rw [readString, readStringFrom_escaped]
    simp

/-! ## Numbers -/

/-- A text in which no number that stands in front of it goes on. -/
def EndsNumber (rest : List Char) : Prop :=
  ∀ c ∈ rest.head?, c.isDigit = false ∧ c ≠ '.' ∧ c ≠ 'e' ∧ c ≠ 'E'

theorem isSpace_of_isDigit {c : Char} (h : c.isDigit = true) : isSpace c = false := by
  cases hspace : isSpace c with
  | false => rfl
  | true =>
    simp only [isSpace, Bool.or_eq_true, beq_iff_eq] at hspace
    rcases hspace with ((rfl | rfl) | rfl) | rfl <;> contradiction

theorem digitsValue_eq (cs : List Char) : digitsValue cs = Nat.ofDigitChars 10 cs 0 := by
  simp only [digitsValue, Nat.ofDigitChars, Nat.mul_comm]

theorem digitsValue_toDigits (n : Nat) : digitsValue (Nat.toDigits 10 n) = n := by
  rw [digitsValue_eq, Nat.ofDigitChars_toDigits (by decide) (by decide)]

theorem span_toDigits (n : Nat) {rest : List Char} (h : EndsNumber rest) :
    (Nat.toDigits 10 n ++ rest).span Char.isDigit = (Nat.toDigits 10 n, rest) := by
  have hdigits : ∀ c ∈ Nat.toDigits 10 n, c.isDigit = true :=
    fun c hc => Nat.isDigit_of_mem_toDigits (by decide) (by decide) hc
  rw [List.span_eq_takeWhile_dropWhile, List.takeWhile_append_of_pos hdigits,
    List.dropWhile_append_of_pos hdigits]
  cases rest with
  | nil => simp
  | cons c rest =>
    have hc := (h c rfl).1
    simp [hc]

theorem readWhole_toDigits (n : Nat) {rest : List Char} (h : EndsNumber rest) :
    readWhole (Nat.toDigits 10 n ++ rest) = .ok (Nat.toDigits 10 n, rest) := by
  have hread : readDigits (Nat.toDigits 10 n ++ rest) = .ok (Nat.toDigits 10 n, rest) := by
    rw [readDigits, span_toDigits n h]
    have hne : Nat.toDigits 10 n ≠ [] := Nat.toDigits_ne_nil
    cases hdigits : Nat.toDigits 10 n with
    | nil => exact absurd hdigits hne
    | cons d ds => rfl
  rw [readWhole, hread]
  split
  case h_1 d ds rest' heq =>
    obtain ⟨hdigits, -⟩ := Prod.mk.inj (Except.ok.inj heq)
    -- only zero begins with a zero, and it has no second digit
    obtain rfl := eq_zero_of_toDigits_eq_cons hdigits
    simp at hdigits
  case h_2 => rfl

/-! ## Magnitudes -/

namespace Magnitude

theorem le_ofDigitChars (cs : List Char) (n : Nat) : n ≤ Nat.ofDigitChars 10 cs n := by
  induction cs generalizing n with
  | nil => simp
  | cons c cs ih =>
    rw [Nat.ofDigitChars_cons]
    exact le_trans (by omega) (ih _)

/-- All digits are gathered of a number that fits. -/
theorem gather_eq (cs : List Char) (n : Nat)
    (h : Nat.ofDigitChars 10 cs n < 18446744073709551616) :
    gather n cs = (Nat.ofDigitChars 10 cs n, []) := by
  induction cs generalizing n with
  | nil => simp [gather]
  | cons c cs ih =>
    rw [Nat.ofDigitChars_cons] at h ⊢
    have hnext := le_ofDigitChars cs (10 * n + (c.toNat - '0'.toNat))
    rw [gather, Nat.mul_comm n 10, if_pos (by omega), ih _ h]

/-- Rounding at most doubles a number. -/
theorem nearest_le (n : Nat) : nearest n ≤ 2 * n := by
  by_cases hn : n = 0
  case pos =>
    subst hn
    decide
  case neg =>
    have hunit : Nat.pow 2 (n.log2 - 52) ≤ n :=
      le_trans (Nat.pow_le_pow_right (by decide) (by omega)) (Nat.log2_self_le hn)
    have hunits : n / Nat.pow 2 (n.log2 - 52) * Nat.pow 2 (n.log2 - 52) ≤ n :=
      Nat.div_mul_le_self _ _
    rw [nearest]
    split
    · omega
    · rw [Nat.add_mul, Nat.one_mul]
      omega

theorem isTooLarge_toDigits {n : Nat} (h : n < 18446744073709551616) :
    isTooLarge (Nat.toDigits 10 n) [] 0 = false := by
  have hvalue := Nat.ofDigitChars_toDigits (n := n) (b := 10) (by decide) (by decide)
  have hgather : gather 0 (Nat.toDigits 10 n) = (n, []) := by
    have hall := gather_eq (Nat.toDigits 10 n) 0 (by rwa [hvalue])
    rwa [hvalue] at hall
  have hone : nearest (Nat.pow 10 0) = 1 := by decide
  -- twice rounded, a number of 64 bits has at most 66
  have hround : nearest (nearest n) < Nat.pow 2 1024 := by
    have hn := nearest_le n
    have hnn := nearest_le (nearest n)
    have hpow : ∀ k, 66 < k → 2 ^ 66 < Nat.pow 2 k :=
      fun k hk => Nat.pow_lt_pow_right (by decide) hk
    have hlarge := hpow 1024 (by decide)
    generalize Nat.pow 2 1024 = limit at *
    omega
  simp only [isTooLarge, hgather, gather]
  split
  case isTrue => rfl
  case isFalse => simpa [hone, -Nat.pow_eq] using hround

end Magnitude

theorem readFraction_of_endsNumber {rest : List Char} (h : EndsNumber rest) :
    readFraction rest = .ok ([], rest) := by
  cases rest with
  | nil => rfl
  | cons c rest =>
    have hpoint := (h c rfl).2.1
    unfold readFraction
    split
    · simp_all
    · rfl

theorem readExponent_of_endsNumber {rest : List Char} (h : EndsNumber rest) :
    readExponent rest = .ok (none, rest) := by
  cases rest with
  | nil => rfl
  | cons c rest =>
    have hletter := (h c rfl).2.2
    unfold readExponent
    split
    · simp_all
    · simp_all
    · rfl

/-- A number of 64 bits is read back as an integer. -/
theorem readNumber_toDigits {n : Nat} (hn : n < 18446744073709551616) {rest : List Char}
    (h : EndsNumber rest) : readNumber (Nat.toDigits 10 n ++ rest) = .ok (.int n, rest) := by
  obtain ⟨c, cs, htext, hdigit⟩ := exists_toDigits_append n rest
  have hsign : ¬ (Nat.toDigits 10 n ++ rest).head? = some '-' := by
    rw [htext]
    rintro ⟨rfl⟩
    contradiction
  simp only [readNumber, hsign, if_false, bind, Except.bind, readWhole_toDigits n h,
    readFraction_of_endsNumber h, readExponent_of_endsNumber h, Option.getD_none,
    Magnitude.isTooLarge_toDigits hn, digitsValue_toDigits, wholeNumber, hn, if_true]
  simp

end LeaseStore.Json
