/-
LeaseStore.Duration — spans of time.

A duration is a count of nanoseconds with fewer than 2^64 whole seconds.
Products stop at the longest duration; a sum that would pass it has no
value (`Duration.add?`).
-/

namespace LeaseStore

/-- A span of time in nanoseconds. -/
@[ext] structure Duration where
  nanos : Nat
  inRange : nanos < 18446744073709551616000000000 := by decide
  deriving DecidableEq

namespace Duration

/-- No time at all. -/
def zero : Duration := ⟨0, by decide⟩

instance : Inhabited Duration := ⟨zero⟩

/-- The longest duration. -/
def longest : Duration := ⟨18446744073709551615999999999, by decide⟩

/-- The duration nearest to this many nanoseconds. -/
def clamp (n : Nat) : Duration :=
  ⟨min n 18446744073709551615999999999, by omega⟩

/-- The duration of exactly this many nanoseconds, if there is one. -/
def ofNanos? (n : Nat) : Option Duration :=
  if h : n < 18446744073709551616000000000 then some ⟨n, h⟩ else none

/-- A whole number of milliseconds. -/
def ofMillis (n : Nat) : Duration := clamp (n * 1000000)

/-- The whole seconds of a duration. -/
def seconds (d : Duration) : Nat := d.nanos / 1000000000

/-- The nanoseconds past the last whole second. -/
def subsecond (d : Duration) : Nat := d.nanos % 1000000000

/-- The whole milliseconds of a duration. -/
def millis (d : Duration) : Nat := d.nanos / 1000000

/-- The least whole number of milliseconds that covers a duration. -/
def millisUp (d : Duration) : Nat := (d.nanos + 999999) / 1000000

/-- A duration taken `k` times, or the longest one. -/
def times (d : Duration) (k : Nat) : Duration := clamp (d.nanos * k)

/-- The shorter of two durations. -/
def shorter (a b : Duration) : Duration := if a.nanos ≤ b.nanos then a else b

/-- The sum of two durations, if it is a duration. -/
def add? (a b : Duration) : Option Duration := ofNanos? (a.nanos + b.nanos)

theorem nanos_clamp (n : Nat) :
    (clamp n).nanos = min n 18446744073709551615999999999 := rfl

theorem nanos_shorter (a b : Duration) :
    (a.shorter b).nanos = min a.nanos b.nanos := by
  unfold shorter
  split <;> omega

theorem nanos_le_longest (d : Duration) : d.nanos ≤ longest.nanos :=
  Nat.lt_succ_iff.1 d.inRange

theorem add?_eq_some_iff {a b d : Duration} :
    a.add? b = some d ↔ d.nanos = a.nanos + b.nanos := by
  have hrange := d.inRange
  unfold add? ofNanos?
  split
  · simp [Duration.ext_iff, eq_comm]
  · simp
    omega

theorem add?_eq_none_iff {a b : Duration} :
    a.add? b = none ↔ longest.nanos < a.nanos + b.nanos := by
  have hlongest : longest.nanos = 18446744073709551615999999999 := rfl
  unfold add? ofNanos?
  split <;> simp <;> omega

end Duration

end LeaseStore
