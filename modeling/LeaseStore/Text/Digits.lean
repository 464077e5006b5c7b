/-
LeaseStore.Text.Digits — numbers with a least width.

`padded base width n` writes `n` in `base` with at least `width` digits,
zeros filling the front. A number that needs more digits keeps them all,
so the text always determines the number.
-/

namespace LeaseStore.Text

/-- The digits of `n` in `base`, at least `width` of them. -/
def padded (base width n : Nat) : String :=
  String.ofList ((Nat.toDigits base n).leftpad width '0')

/-- Decimal digits, at least `width` of them. -/
def decimal (width n : Nat) : String := padded 10 width n

/-- Hexadecimal digits in lower case, at least `width` of them. -/
def hex (width n : Nat) : String := padded 16 width n

/-- The value of a decimal digit. -/
def digitValue? (c : Char) : Option Nat :=
  if '0' ≤ c ∧ c ≤ '9' then some (c.toNat - '0'.toNat) else none

/-- The value of a hexadecimal digit of either case. -/
def hexValue? (c : Char) : Option Nat :=
  if '0' ≤ c ∧ c ≤ '9' then some (c.toNat - '0'.toNat)
  else if 'a' ≤ c ∧ c ≤ 'f' then some (c.toNat - 'a'.toNat + 10)
  else if 'A' ≤ c ∧ c ≤ 'F' then some (c.toNat - 'A'.toNat + 10)
  else none

end LeaseStore.Text
