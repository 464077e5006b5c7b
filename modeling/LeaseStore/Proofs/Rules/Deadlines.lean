/-
LeaseStore.Proofs.Rules.Deadlines — deadlines, and the end of time.

A deadline lies the asked number of seconds after a reading of the clock, or at
the end of time if that comes first (`Instant.ms_after`). Whoever looks before the
end of time cannot tell that it was cut off: the milliseconds may as well be added
up without a bound. At its deadline a lock is no longer held and a record has
expired, so the one lasts as long as the deadline is to come, and the other begins
when it is not.

* `deadlines_are_exact` — when a lock that was given is held, and when a record
  with an expiration has expired; and no deadline is the one of a record that
  never expires, or comes earlier for being asked for later or for longer.
-/
import LeaseStore.Record

namespace LeaseStore

/-! ## Deadlines in milliseconds -/

namespace Instant

variable {now now' t : Instant} {m n : Nat}

/-- The cut of the span is not seen: what it cuts off lies past the end of time. -/
theorem ms_after (hnow : epoch ≤ now) (n : Nat) :
    (now.after n).ms = min (now.ms + 1000 * n) 9223372036854775807 := by
  have hepoch : 0 ≤ now.ms := hnow
  simp only [after, shift, ms_clamp]
  omega

theorem lt_after_iff_ms (hnow : epoch ≤ now) (ht : t.ms < 9223372036854775807) :
    t < now.after n ↔ t.ms < now.ms + 1000 * n := by
  rw [lt_def, ms_after hnow]
  omega

theorem after_le_iff_ms (hnow : epoch ≤ now) (ht : t.ms < 9223372036854775807) :
    now.after n ≤ t ↔ now.ms + 1000 * n ≤ t.ms := by
  rw [le_def, ms_after hnow]
  omega

/-- No deadline comes before the epoch, which is where `never` is. -/
theorem after_ne_never (hnow : epoch ≤ now) (n : Nat) : now.after n ≠ never := by
  have hepoch : 0 ≤ now.ms := hnow
  have hms := ms_after hnow n
  have hnever : never.ms = -1 := rfl
  intro heq
  rw [heq, hnever] at hms
  omega

/-- Later and for longer: the deadline is no earlier. -/
theorem after_mono (hnow : now ≤ now') (hn : m ≤ n) : now.after m ≤ now'.after n := by
  have hms : now.ms ≤ now'.ms := hnow
  simp only [le_def, after, shift, ms_clamp]
  omega

end Instant

/-! ## Locks and expirations -/

/-- **Deadlines are exact until time ends.** After a lock has been given for some
seconds, the record is locked at an instant exactly if that comes before the
deadline, counted in milliseconds without a bound; after an expiration has been
set, the record has expired exactly from the deadline on, and it has not become
one that never expires. Whoever starts later, or asks for more time, gets no
earlier deadline. -/
theorem deadlines_are_exact (r : Record) (o : Owner) {now : Instant} (hnow : Instant.epoch ≤ now)
    (n : Nat) :
    (∀ t : Instant, t.ms < 9223372036854775807 →
      ((r.lockAt o n now).isLockedAt t = true ↔ t.ms < now.ms + 1000 * n) ∧
      ((r.expireAfter now n).isExpiredAt t = true ↔ now.ms + 1000 * n ≤ t.ms)) ∧
    (r.expireAfter now n).expiresAt ≠ Instant.never ∧
    ∀ (r' : Record) (o' : Owner) (now' : Instant) (n' : Nat), now ≤ now' → n ≤ n' →
      (r.lockAt o n now).lockExpiresAt ≤ (r'.lockAt o' n' now').lockExpiresAt ∧
      (r.expireAfter now n).expiresAt ≤ (r'.expireAfter now' n').expiresAt := by
  have hnever : (r.expireAfter now n).expiresAt ≠ Instant.never := Instant.after_ne_never hnow n
  refine ⟨?_, hnever, ?_⟩
  · intro t ht
    constructor
    · rw [Record.isLockedAt_iff]
      exact Instant.lt_after_iff_ms hnow ht
    · rw [Record.isExpiredAt_iff, and_iff_right hnever]
      exact Instant.after_le_iff_ms hnow ht
  · intro r' o' now' n' hlater hlonger
    have hdeadline : now.after n ≤ now'.after n' := Instant.after_mono hlater hlonger
    exact ⟨hdeadline, hdeadline⟩

/-- A lock for two seconds is over after two seconds, to the millisecond; one for
as many seconds as a word can count outlasts every instant but the last, as does
such an expiration, and to ask for it a second later is no loss. -/
theorem deadlines_are_exact_extremes :
    let r : Record := { id := "a" }
    let now := Instant.epoch.after 1700000000
    let last : Instant := ⟨9223372036854775806, by decide⟩
    Instant.epoch ≤ now ∧
      (r.lockAt ⟨"x", "node"⟩ 2 now).isLockedAt ⟨1700000001999, by decide⟩ = true ∧
      (r.lockAt ⟨"x", "node"⟩ 2 now).isLockedAt ⟨1700000002000, by decide⟩ ≠ true ∧
      (r.lockAt ⟨"x", "node"⟩ 18446744073709551615 now).isLockedAt last = true ∧
      (r.expireAfter now 18446744073709551615).isExpiredAt last ≠ true ∧
      (r.expireAfter now 18446744073709551615).expiresAt ≤
        (r.expireAfter (now.after 1) 18446744073709551615).expiresAt := by
  intro r now last
  have hnow : Instant.epoch ≤ now := by decide
  obtain ⟨hshort, -⟩ := deadlines_are_exact r ⟨"x", "node"⟩ hnow 2
  obtain ⟨hlong, -, hlater⟩ := deadlines_are_exact r ⟨"x", "node"⟩ hnow 18446744073709551615
  have hms : now.ms = 1700000000000 := by decide
  obtain ⟨hheld, hunexpired⟩ := hlong last (by decide)
  refine ⟨hnow, (hshort _ (by decide)).1.2 ?_, mt (hshort _ (by decide)).1.1 ?_, hheld.2 ?_,
    mt hunexpired.1 ?_, (hlater r ⟨"x", "node"⟩ (now.after 1) _ (by decide) (Nat.le_refl _)).2⟩
  all_goals
    rw [hms]
    decide

end LeaseStore
