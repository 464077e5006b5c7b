/-
LeaseStore.Proofs.Text.Numeral — padded numbers can be read back.

`value` reads digits in a base of at most sixteen. It does not mind zeros
in front, so it undoes `padded` whatever the width is (`value_padded`). Two
numbers that are written alike are therefore the same, also where they need
more digits than the width (`padded_inj`).
-/
import LeaseStore.Text.Digits

namespace LeaseStore.Text

/-- The number that digits stand for, continuing from `n`. -/
def value (base : Nat) (n : Nat) (cs : List Char) : Nat :=
  cs.foldl (fun n c => base * n + (hexValue? c).getD 0) n

theorem value_append (base n : Nat) (cs ds : List Char) :
    value base n (cs ++ ds) = value base (value base n cs) ds :=
  List.foldl_append

theorem hexValue?_digitChar : ∀ d < 16, hexValue? (Nat.digitChar d) = some d := by
  decide

theorem value_digit {base d : Nat} (hd : d < 16) (n : Nat) :
    value base n [Nat.digitChar d] = base * n + d := by
  simp [value, hexValue?_digitChar d hd]

/-- Induction on the number, along the recursion of its digits. -/
theorem value_toDigits {base : Nat} (hb : 1 < base) (hb' : base ≤ 16) (n : Nat) :
    value base 0 (Nat.toDigits base n) = n := by
  induction n using Nat.strongRecOn with
  | ind n ih =>
    rw [Nat.toDigits_eq_if hb]
    split
    case isTrue hn =>
      rw [value_digit (Nat.lt_of_lt_of_le hn hb')]
      omega
    case isFalse hn =>
      have hless : n / base < n := Nat.div_lt_self (by omega) hb
      have hdigit : n % base < 16 :=
        Nat.lt_of_lt_of_le (Nat.mod_lt n (by omega)) hb'
      rw [value_append, ih _ hless, value_digit hdigit]
      exact Nat.div_add_mod n base

/-- Zeros in front do not count. -/
theorem value_replicate_zero (base k : Nat) : value base 0 (List.replicate k '0') = 0 := by
  induction k with
  | zero => rfl
  | succ k ih => exact ih

theorem value_padded {base : Nat} (hb : 1 < base) (hb' : base ≤ 16) (width n : Nat) :
    value base 0 (padded base width n).toList = n := by
  rw [padded, String.toList_ofList, List.leftpad, value_append, value_replicate_zero,
    value_toDigits hb hb']

/-- Two numbers that are written alike are the same. -/
theorem padded_inj {base : Nat} (hb : 1 < base) (hb' : base ≤ 16) {width m n : Nat}
    (h : padded base width m = padded base width n) : m = n := by
  rw [← value_padded hb hb' width m, h, value_padded hb hb']

theorem hex_inj {width m n : Nat} (h : hex width m = hex width n) : m = n :=
  padded_inj (by decide) (by decide) h

theorem decimal_inj {width m n : Nat} (h : decimal width m = decimal width n) : m = n :=
  padded_inj (by decide) (by decide) h

/-! ## The digits themselves -/

theorem dash_notMem_toDigits {base : Nat} (hb : 1 < base) (n : Nat) :
    '-' ∉ Nat.toDigits base n := by
  induction n using Nat.strongRecOn with
  | ind n ih =>
    rw [Nat.toDigits_eq_if hb]
    split
    case isTrue => simp
    case isFalse hn =>
      have hless : n / base < n := Nat.div_lt_self (by omega) hb
      simpa using ih _ hless

/-- The digits of a number and what follows begin with a digit. -/
theorem exists_toDigits_append (n : Nat) (rest : List Char) :
    ∃ c cs, Nat.toDigits 10 n ++ rest = c :: cs ∧ c.isDigit = true := by
  have hdigits : ∀ c ∈ Nat.toDigits 10 n, c.isDigit = true :=
    fun c hc => Nat.isDigit_of_mem_toDigits (by decide) (by decide) hc
  cases hcs : Nat.toDigits 10 n with
  | nil => exact absurd hcs Nat.toDigits_ne_nil
  | cons c cs => exact ⟨c, cs ++ rest, rfl, hdigits c (by simp [hcs])⟩

/-- Only the number zero is written with a zero in front. -/
theorem eq_zero_of_toDigits_eq_cons {n : Nat} {cs : List Char}
    (h : Nat.toDigits 10 n = '0' :: cs) : n = 0 := by
  induction n using Nat.strongRecOn generalizing cs with
  | ind n ih =>
    rw [Nat.toDigits_eq_if (by decide)] at h
    split at h
    case isTrue hn =>
      have hdigit : ∀ d < 10, Nat.digitChar d = '0' → d = 0 := by decide
      exact hdigit n hn (List.cons.inj h).1
    case isFalse hn =>
      cases hfront : Nat.toDigits 10 (n / 10) with
      | nil => exact absurd hfront Nat.toDigits_ne_nil
      | cons d ds =>
        rw [hfront] at h
        obtain ⟨rfl, -⟩ := List.cons.inj h
        have := ih (n / 10) (by omega) hfront
        omega

/-- No number is written with a hyphen, so a hyphen ends it. -/
theorem dash_notMem_hex (width n : Nat) : '-' ∉ (hex width n).toList := by
  rw [hex, padded, String.toList_ofList, List.leftpad]
  simpa using dash_notMem_toDigits (by decide) n

end LeaseStore.Text
