/-
LeaseStore.Json.Magnitude — how large a number in a text may be.

A number that is not an integer of 64 bits is held in binary floating
point, with 53 significant binary digits and values below 2^1024. What is
beyond is refused. The limit is not drawn at the number as written but at
what becomes of it in two steps. First its leading digits, as many as fit
a 64-bit word, are gathered (`gather`); whole digits behind them count as
powers of ten, and digits of the fraction behind them do not count. Then
the word and the power of ten are rounded, each by itself, and so is their
product (`nearest`).
-/

namespace LeaseStore.Json.Magnitude

/-- Appends digits to a number as long as it stays below 2^64: the number,
and the digits left over. -/
def gather (n : Nat) : List Char → Nat × List Char
  | [] => (n, [])
  | c :: cs =>
    let next := n * 10 + (c.toNat - '0'.toNat)
    if next < 18446744073709551616 then gather next cs else (n, c :: cs)

/-- The number nearest to `n` that has at most 53 significant binary
digits. Half way between two of them, the even one is taken. -/
def nearest (n : Nat) : Nat :=
  let unit := Nat.pow 2 (n.log2 - 52)
  let units := n / unit
  let rest := n % unit
  if 2 * rest < unit ∨ 2 * rest = unit ∧ units % 2 = 0 then units * unit else (units + 1) * unit

/-- The number with these digits before and behind the point, times a
power of ten, is too large. -/
def isTooLarge (whole fraction : List Char) (exponent : Int) : Bool :=
  let (n, unread) := gather 0 whole
  let (n, ignored) := gather n fraction
  let power := exponent + unread.length - (fraction.length - ignored.length : Nat)
  if n = 0 ∨ power < 0 then false
  else if power > 308 then true
  else Nat.pow 2 1024 ≤ nearest (nearest n * nearest (Nat.pow 10 power.toNat))

end LeaseStore.Json.Magnitude
