/-
LeaseStore.Duration.Text — durations as text.

Two written forms. `render` writes a duration for configuration, from
years down to nanoseconds, zero parts left out: `1h 30m`, `1year 2months`.
`parse?` reads that form and more: each part is a number, possibly with a
fraction, and a unit; blanks may stand between parts, before a unit and
between the digits of a number. `describe` writes the short decimal form
for diagnostics: `1.5s`, `250ms`.

A month is 30.44 days and a year 365.25 days, both whole seconds.
-/
import LeaseStore.Duration
import LeaseStore.Text.Blank
import LeaseStore.Text.Digits

namespace LeaseStore.Duration

open LeaseStore.Text

/-! ## Units -/

/-- The units a duration may be written in. -/
inductive TimeUnit where
  | nanosecond
  | microsecond
  | millisecond
  | second
  | minute
  | hour
  | day
  | week
  | month
  | year
  deriving DecidableEq, Repr

namespace TimeUnit

/-- The unit a word stands for. Words are told apart by case: `m` is a
minute and `M` a month. -/
def ofWord? (w : String) : Option TimeUnit :=
  if w ∈ ["nanos", "nsec", "ns"] then some nanosecond
  else if w ∈ ["usec", "us", "µs"] then some microsecond
  else if w ∈ ["millis", "msec", "ms"] then some millisecond
  else if w ∈ ["seconds", "second", "secs", "sec", "s"] then some second
  else if w ∈ ["minutes", "minute", "mins", "min", "m"] then some minute
  else if w ∈ ["hours", "hour", "hrs", "hr", "h"] then some hour
  else if w ∈ ["days", "day", "d"] then some day
  else if w ∈ ["weeks", "week", "wks", "wk", "w"] then some week
  else if w ∈ ["months", "month", "M"] then some month
  else if w ∈ ["years", "year", "yrs", "yr", "y"] then some year
  else none

/-- The size of a unit in its base: nanoseconds below the second, whole
seconds from the second on. -/
def size : TimeUnit → Nat
  | nanosecond => 1
  | microsecond => 1000
  | millisecond => 1000000
  | second => 1
  | minute => 60
  | hour => 3600
  | day => 86400
  | week => 604800
  | month => 2630016
  | year => 31557600

/-- A unit whose whole amounts are counted in nanoseconds. -/
def isFine : TimeUnit → Bool
  | nanosecond | microsecond | millisecond => true
  | _ => false

/-- The size against which a fraction of the unit must come out whole:
nanoseconds up to the minute, seconds from the hour on. The nanosecond
takes no fraction at all. -/
def fractionSize? : TimeUnit → Option Nat
  | nanosecond => none
  | microsecond => some 1000
  | millisecond => some 1000000
  | second => some 1000000000
  | minute => some 60000000000
  | u => some u.size

/-- A unit whose fractions are counted in nanoseconds. -/
def fractionIsFine : TimeUnit → Bool
  | microsecond | millisecond | second | minute => true
  | _ => false

end TimeUnit

/-! ## Reading -/

/-- A number that must stay below 2^64. -/
def word? (n : Nat) : Option Nat := if n < 18446744073709551616 then some n else none

/-- A decimal fraction, as written. -/
structure Fraction where
  numerator : Nat
  denominator : Nat
  deriving DecidableEq, Repr

/-- Adds an amount, given as seconds and nanoseconds, to what has been
read so far. Every count on the way must stay below 2^64. -/
def accumulate (total : Duration) (secs nanos : Nat) : Option Duration := do
  let fine ← word? (total.subsecond + nanos)
  let carried ← word? (secs + fine / 1000000000)
  let whole ← word? (total.seconds + carried)
  ofNanos? (whole * 1000000000 + fine % 1000000000)

/-- Adds an amount counted in nanoseconds or in seconds. -/
def accumulateIn (fine : Bool) (total : Duration) (amount : Nat) : Option Duration :=
  if fine then accumulate total 0 amount else accumulate total amount 0

/-- Adds one written part: a whole number, a fraction and a unit word. -/
def addPart (total : Duration) (whole : Nat) (fraction : Option Fraction)
    (unit : List Char) : Option Duration := do
  let u ← TimeUnit.ofWord? (String.ofList unit)
  let total ← accumulateIn u.isFine total (← word? (whole * u.size))
  match fraction with
  | none => some total
  | some f =>
    let scaled ← word? (f.numerator * (← u.fractionSize?))
    if scaled % f.denominator = 0 then
      accumulateIn u.fractionIsFine total (scaled / f.denominator)
    else none

/-- The letters of unit words. -/
def isUnitLetter (c : Char) : Bool :=
  ('a' ≤ c && c ≤ 'z') || ('A' ≤ c && c ≤ 'Z') || c == 'µ'

/-- What part of a duration text is being read. -/
inductive Stage where
  /-- Before the first digit of a part. -/
  | between
  /-- Among the whole digits of a part. -/
  | whole (n : Nat)
  /-- After the decimal point. -/
  | fraction (n : Nat) (f : Fraction)
  /-- Among the letters of the unit, last letter first. -/
  | unit (n : Nat) (f : Option Fraction) (letters : List Char)

/-- A fraction with one more digit. -/
def Fraction.push (f : Fraction) (d : Nat) : Option Fraction := do
  some ⟨← word? (f.numerator * 10 + d), ← word? (f.denominator * 10)⟩

/-- Reads the rest of a duration text. -/
def parseFrom : Stage → Duration → List Char → Option Duration
  | .between, total, [] => some total
  | .between, total, c :: cs =>
    match digitValue? c with
    | some d => parseFrom (.whole d) total cs
    | none => if isBlank c then parseFrom .between total cs else none
  | .whole _, _, [] => none
  | .whole n, total, c :: cs =>
    match digitValue? c with
    | some d => do parseFrom (.whole (← word? (n * 10 + d))) total cs
    | none =>
      if isBlank c then parseFrom (.whole n) total cs
      else if isUnitLetter c then parseFrom (.unit n none [c]) total cs
      else if c = '.' then parseFrom (.fraction n ⟨0, 1⟩) total cs
      else none
  | .fraction _ _, _, [] => none
  | .fraction n f, total, c :: cs =>
    match digitValue? c with
    | some d => do parseFrom (.fraction n (← f.push d)) total cs
    | none =>
      if isBlank c then parseFrom (.fraction n f) total cs
      else if isUnitLetter c ∧ f.denominator ≠ 1 then
        parseFrom (.unit n (some f) [c]) total cs
      else none
  | .unit n f letters, total, [] => addPart total n f letters.reverse
  | .unit n f letters, total, c :: cs =>
    match digitValue? c with
    | some d => do parseFrom (.whole d) (← addPart total n f letters.reverse) cs
    | none =>
      if isBlank c then do parseFrom .between (← addPart total n f letters.reverse) cs
      else if isUnitLetter c then parseFrom (.unit n f (c :: letters)) total cs
      else none

/-- The duration a text stands for. A lone `0` needs no unit; a text
without any number stands for none. -/
def parse? (s : String) : Option Duration :=
  if s = "0" then some zero
  else if s.toList.all isBlank then none
  else parseFrom .between zero s.toList

/-! ## Writing -/

/-- The seconds of a duration, from years down to seconds. -/
def coarseParts (secs : Nat) : List (Nat × String × String) :=
  [ (secs / 31557600, "year", "years"),
    (secs % 31557600 / 2630016, "month", "months"),
    (secs % 31557600 % 2630016 / 86400, "day", "days"),
    (secs % 31557600 % 2630016 % 86400 / 3600, "h", "h"),
    (secs % 31557600 % 2630016 % 86400 % 3600 / 60, "m", "m"),
    (secs % 31557600 % 2630016 % 86400 % 60, "s", "s") ]

/-- The part of a duration below one second. -/
def fineParts (nanos : Nat) : List (Nat × String × String) :=
  [ (nanos / 1000000, "ms", "ms"),
    (nanos / 1000 % 1000, "us", "us"),
    (nanos % 1000, "ns", "ns") ]

/-- One part of a written duration, with its unit in the right number. -/
def renderPart : Nat × String × String → String
  | (n, one, many) => toString n ++ (if n = 1 then one else many)

/-- A duration written with its nonzero parts, largest unit first. -/
def render (d : Duration) : String :=
  let parts := (coarseParts d.seconds ++ fineParts d.subsecond).filter (·.1 ≠ 0)
  if parts.isEmpty then "0s" else " ".intercalate (parts.map renderPart)

/-- A number with a decimal fraction of `width` digits whose trailing
zeros are left out. -/
def trimFraction (whole fraction width : Nat) : String :=
  let digits := (decimal width fraction).toList.reverse.dropWhile (· == '0')
  if digits.isEmpty then toString whole
  else toString whole ++ "." ++ String.ofList digits.reverse

/-- A duration in the largest of the units s, ms, µs and ns of which it
holds at least one. -/
def describe (d : Duration) : String :=
  let fine := d.subsecond
  if d.seconds ≠ 0 then trimFraction d.seconds fine 9 ++ "s"
  else if fine ≥ 1000000 then trimFraction (fine / 1000000) (fine % 1000000) 6 ++ "ms"
  else if fine ≥ 1000 then trimFraction (fine / 1000) (fine % 1000) 3 ++ "µs"
  else toString fine ++ "ns"

end LeaseStore.Duration
