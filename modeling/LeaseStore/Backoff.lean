/-
LeaseStore.Backoff — how long to wait before trying a lock again.

The function `compute_backoff` of a `LockRetryConfig`, in three steps: the
capped pause (`RetryPolicy.backoff`), the bound on what is drawn
(`RetryPolicy.jitterBound`), and their sum (`RetryPolicy.delay?`).

The pause grows by the factor two with every lost attempt, up to the
greatest pause of the policy (`RetryPolicy.backoff`). A random extra of
at most half of it keeps callers that lost the same race from coming back
together. Near the longest duration the extra may not fit, and then there
is no delay (`RetryPolicy.delay?`).
-/
import LeaseStore.Config

namespace LeaseStore.RetryPolicy

/-- The number of attempts; there is always one. -/
def attempts (p : RetryPolicy) : Nat := max 1 p.maxAttempts

/-- The growth of the pause after `n` lost attempts; it ends below 2^32. -/
def growth (n : Nat) : Nat := if n < 32 then Nat.pow 2 n else 4294967295

/-- The pause after the lost attempt number `n`, from zero, without its
random extra. -/
def backoff (p : RetryPolicy) (n : Nat) : Duration :=
  (p.initialBackoff.times (growth n)).shorter p.maxBackoff

/-- The greatest random extra, in milliseconds: half the pause, whose
milliseconds are counted in a 64-bit word. -/
def jitterBound (p : RetryPolicy) (n : Nat) : Nat :=
  (p.backoff n).millis % 18446744073709551616 / 2

/-- The pause with a random extra, unless it is longer than any duration
(`compute_backoff`). -/
def delay? (p : RetryPolicy) (n jitter : Nat) : Option Duration :=
  (p.backoff n).add? (Duration.ofMillis jitter)

/-- The least and the greatest delay in milliseconds before each retry, if
every attempt is lost. -/
def delays (p : RetryPolicy) : List (Nat × Nat) :=
  (List.range (p.attempts - 1)).map fun n =>
    ((p.backoff n).millis, (p.backoff n).millis + p.jitterBound n)

end LeaseStore.RetryPolicy
