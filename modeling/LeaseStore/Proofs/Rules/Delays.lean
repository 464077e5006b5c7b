/-
LeaseStore.Proofs.Rules.Delays — how long the pauses between attempts are.

The pause after a lost attempt grows with the number of attempts, up to the
greatest pause of the policy. Nothing on the way there can go wrong: growth ends
below 2^32, and a product that would pass the longest duration stops at it. The
random extra is at most half of the pause (`RetryPolicy.jitterBound_le`), also
where the milliseconds of the pause do not fit a word. What is left is the sum of
the two, and past the longest duration there is none.

* `delays_keep_bounds_iff_fit` — the pause, the bounds of a delay, and when there
  is a delay whatever extra is drawn.
* `delay_passes_longest` — a policy that passes its check, and has no delay after
  the first lost attempt but for a few of the extras that may be drawn.
-/
import LeaseStore.Backoff
import LeaseStore.Config.Text
import Mathlib.Algebra.GroupWithZero.Nat

namespace LeaseStore

namespace RetryPolicy

variable {p : RetryPolicy} {n m jitter : Nat} {d : Duration}

/-! ## Pauses -/

theorem growth_eq (n : Nat) : growth n = if n < 32 then 2 ^ n else 2 ^ 32 - 1 := rfl

/-- Growth never goes back, not even where it ends. -/
theorem growth_mono (h : n ≤ m) : growth n ≤ growth m := by
  simp only [growth_eq]
  split
  case isTrue hn =>
    split
    case isTrue => exact Nat.pow_le_pow_right (by decide) h
    case isFalse =>
      have hpow : 2 ^ n ≤ 2 ^ 31 := Nat.pow_le_pow_right (by decide) (by omega)
      omega
  case isFalse hn =>
    have hm : ¬ m < 32 := by omega
    simp [hm]

theorem nanos_backoff (p : RetryPolicy) (n : Nat) :
    (p.backoff n).nanos =
      min (min (p.initialBackoff.nanos * growth n) Duration.longest.nanos) p.maxBackoff.nanos := by
  rw [backoff, Duration.nanos_shorter, Duration.times, Duration.nanos_clamp]
  rfl

theorem backoff_le (p : RetryPolicy) (n : Nat) : (p.backoff n).nanos ≤ p.maxBackoff.nanos := by
  rw [nanos_backoff]
  exact Nat.min_le_right ..

theorem backoff_mono (p : RetryPolicy) (h : n ≤ m) :
    (p.backoff n).nanos ≤ (p.backoff m).nanos := by
  have hproduct : p.initialBackoff.nanos * growth n ≤ p.initialBackoff.nanos * growth m :=
    Nat.mul_le_mul_left _ (growth_mono h)
  rw [nanos_backoff, nanos_backoff]
  omega

/-! ## Delays -/

/-- A word that is too short for the milliseconds makes the extra smaller. -/
theorem jitterBound_le (p : RetryPolicy) (n : Nat) :
    p.jitterBound n * 1000000 ≤ (p.backoff n).nanos / 2 := by
  unfold jitterBound Duration.millis
  omega

/-- An extra that may be drawn is a duration. -/
theorem nanos_extra (h : jitter ≤ p.jitterBound n) :
    (Duration.ofMillis jitter).nanos = jitter * 1000000 := by
  have hhalf := p.jitterBound_le n
  have hrange := (p.backoff n).inRange
  rw [Duration.ofMillis, Duration.nanos_clamp]
  omega

theorem delay?_eq_some_iff (h : jitter ≤ p.jitterBound n) :
    p.delay? n jitter = some d ↔ d.nanos = (p.backoff n).nanos + jitter * 1000000 := by
  rw [delay?, Duration.add?_eq_some_iff, nanos_extra h]

theorem delay?_eq_none_iff (h : jitter ≤ p.jitterBound n) :
    p.delay? n jitter = none ↔
      Duration.longest.nanos < (p.backoff n).nanos + jitter * 1000000 := by
  rw [delay?, Duration.add?_eq_none_iff, nanos_extra h]

theorem delay?_bounds (h : jitter ≤ p.jitterBound n) (hd : p.delay? n jitter = some d) :
    (p.backoff n).nanos ≤ d.nanos ∧
      d.nanos ≤ (p.backoff n).nanos + (p.backoff n).nanos / 2 := by
  have hsum := (delay?_eq_some_iff h).1 hd
  have hhalf := p.jitterBound_le n
  omega

/-- There is a delay for every extra if there is one for the greatest. -/
theorem forall_delay?_iff (p : RetryPolicy) (n : Nat) :
    (∀ jitter ≤ p.jitterBound n, ∃ d, p.delay? n jitter = some d) ↔
      (p.backoff n).nanos + p.jitterBound n * 1000000 ≤ Duration.longest.nanos := by
  constructor
  · intro hall
    obtain ⟨d, hd⟩ := hall (p.jitterBound n) (Nat.le_refl _)
    have hsum := (delay?_eq_some_iff (Nat.le_refl _)).1 hd
    have hrange := d.nanos_le_longest
    omega
  · intro hfit jitter hjitter
    have hsome : p.delay? n jitter ≠ none := by
      rw [Ne, delay?_eq_none_iff hjitter]
      omega
    exact Option.ne_none_iff_exists'.1 hsome

end RetryPolicy

open RetryPolicy in
/-- **Delays keep their bounds, as long as they fit.** The pause after the lost
attempt number `n` is the first pause taken 2^n times, or 2^32 - 1 times from
the attempt number 32 on, cut off at the longest duration and at the greatest
pause of the policy. It does not shrink from one attempt to the next. A delay is
no shorter than the pause, and longer by half of it at most.

Whatever extra is drawn there is such a delay, exactly if with the greatest extra
the pause is still a duration; it is if it lasts two thirds of the longest one or
less. -/
theorem delays_keep_bounds_iff_fit (p : RetryPolicy) (n : Nat) :
    let c := (p.backoff n).nanos
    let factor := if n < 32 then 2 ^ n else 2 ^ 32 - 1
    c = min (min (p.initialBackoff.nanos * factor) Duration.longest.nanos) p.maxBackoff.nanos ∧
      c ≤ p.maxBackoff.nanos ∧
      (∀ m, n ≤ m → c ≤ (p.backoff m).nanos) ∧
      (∀ jitter ≤ p.jitterBound n,
        (∀ d, p.delay? n jitter = some d → c ≤ d.nanos ∧ d.nanos ≤ c + c / 2) ∧
        (p.delay? n jitter = none ↔ Duration.longest.nanos < c + jitter * 1000000)) ∧
      ((∀ jitter ≤ p.jitterBound n, ∃ d, p.delay? n jitter = some d) ↔
        c + p.jitterBound n * 1000000 ≤ Duration.longest.nanos) ∧
      (3 * c ≤ 2 * Duration.longest.nanos →
        ∀ jitter ≤ p.jitterBound n, ∃ d, p.delay? n jitter = some d) := by
  intro c factor
  have hall := p.forall_delay?_iff n
  refine ⟨p.nanos_backoff n, p.backoff_le n, fun m => p.backoff_mono, ?_, hall, ?_⟩
  · intro jitter hjitter
    exact ⟨fun d => delay?_bounds hjitter, delay?_eq_none_iff hjitter⟩
  · intro hshort
    have hhalf : p.jitterBound n * 1000000 ≤ c / 2 := p.jitterBound_le n
    exact hall.2 (by omega)

/-- After the fourth lost attempt the pause of the policy that is used if none is
given is 800 ms, and each of the 401 extras makes a delay. -/
theorem delays_keep_bounds_iff_fit_usual :
    let p : RetryPolicy := {}
    (p.backoff 3).millis = 800 ∧ 400 ≤ p.jitterBound 3 ∧ ∃ d, p.delay? 3 400 = some d ∧
      (p.backoff 3).nanos ≤ d.nanos ∧ d.nanos ≤ (p.backoff 3).nanos + (p.backoff 3).nanos / 2 := by
  intro p
  have hjitter : 400 ≤ p.jitterBound 3 := by decide
  obtain ⟨-, -, -, hbounds, hall, -⟩ := delays_keep_bounds_iff_fit p 3
  obtain ⟨d, hd⟩ := hall.2 (by decide) 400 hjitter
  exact ⟨by decide, hjitter, d, hd, (hbounds 400 hjitter).1 d hd⟩

/-- A configuration that asks for the longest pause in whole seconds. -/
def Config.endless : Config :=
  { storageType := "memory"
    collection := "c"
    lockRetry :=
      { maxAttempts := 2
        initialBackoff := ⟨18446744073709551615000000000, by decide⟩
        maxBackoff := ⟨18446744073709551615000000000, by decide⟩ } }

/-- The text of it. -/
def Config.endlessText : String :=
  "\x7b\"storage_type\":\"memory\",\"collection\":\"c\"," ++
    "\"lock_retry\":\x7b\"max_attempts\":2," ++
      "\"initial_backoff\":\"18446744073709551615s\"," ++
      "\"max_backoff\":\"18446744073709551615s\"\x7d\x7d"

/-- This configuration can be read, and passes its check. After the first lost
attempt there is no delay with the extras that may be drawn, from one second on. -/
theorem delay_passes_longest :
    let p := Config.endless.lockRetry
    (Config.read Config.endlessText).toOption = some Config.endless ∧
      Config.endless.check.toOption = some () ∧
      1000 ≤ p.jitterBound 0 ∧ p.delay? 0 1000 = none ∧
      ¬ ∀ jitter ≤ p.jitterBound 0, ∃ d, p.delay? 0 jitter = some d := by
  intro p
  have hjitter : 1000 ≤ p.jitterBound 0 := by decide
  have hnone : p.delay? 0 1000 = none := by decide
  refine ⟨by decide +kernel, by decide +kernel, hjitter, hnone, ?_⟩
  intro hall
  obtain ⟨d, hd⟩ := hall 1000 hjitter
  rw [hnone] at hd
  cases hd

end LeaseStore
