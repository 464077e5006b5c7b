/-
LeaseStore.Instant — points in time.

The clock's milliseconds, and `after_seconds` (`Instant.after`).

An instant is a whole number of milliseconds since the epoch, held in
the range of a signed 64-bit word. Arithmetic that would leave the range
stops at its end (`Instant.clamp`), so a deadline can never wrap round
into the past. `Instant.never` is the reserved expiration that lies
outside the ordinary instants by convention, not by type: it is the
millisecond just before the epoch.
-/

namespace LeaseStore

/-- A point in time, in whole milliseconds since the epoch. -/
@[ext] structure Instant where
  ms : Int
  inRange : -9223372036854775808 ≤ ms ∧ ms ≤ 9223372036854775807 := by decide
  deriving DecidableEq

namespace Instant

/-- The epoch. -/
def epoch : Instant := ⟨0, by decide⟩

/-- The expiration of a record that does not expire. -/
def never : Instant := ⟨-1, by decide⟩

instance : Inhabited Instant := ⟨epoch⟩

instance : LT Instant := ⟨fun a b => a.ms < b.ms⟩

instance : LE Instant := ⟨fun a b => a.ms ≤ b.ms⟩

instance (a b : Instant) : Decidable (a < b) :=
  inferInstanceAs (Decidable (a.ms < b.ms))

instance (a b : Instant) : Decidable (a ≤ b) :=
  inferInstanceAs (Decidable (a.ms ≤ b.ms))

theorem lt_def {a b : Instant} : a < b ↔ a.ms < b.ms := Iff.rfl

theorem le_def {a b : Instant} : a ≤ b ↔ a.ms ≤ b.ms := Iff.rfl

/-- The instant with exactly these milliseconds, if there is one. -/
def ofMs? (n : Int) : Option Instant :=
  if h : -9223372036854775808 ≤ n ∧ n ≤ 9223372036854775807 then some ⟨n, h⟩ else none

/-- The instant nearest to these milliseconds. -/
def clamp (n : Int) : Instant :=
  ⟨max (-9223372036854775808) (min n 9223372036854775807), by omega⟩

theorem ms_clamp (n : Int) :
    (clamp n).ms = max (-9223372036854775808) (min n 9223372036854775807) := rfl

/-- Nothing is lost where the milliseconds fit. -/
theorem clamp_ms (t : Instant) : clamp t.ms = t := by
  have h := t.inRange
  ext
  simp only [ms_clamp]
  omega

/-- The instant `d` milliseconds away from `t`, or the end of time in
that direction. -/
def shift (t : Instant) (d : Int) : Instant := clamp (t.ms + d)

/-- The deadline `seconds` after `now`. The span itself is cut off at the
greatest number of milliseconds before it is added, so a reading before
the epoch never reaches the end of time. -/
def after (now : Instant) (seconds : Nat) : Instant :=
  now.shift (min (seconds * 1000 : Int) 9223372036854775807)

end Instant

end LeaseStore
