/-
LeaseStore.Proofs.Runs.Patience — a lock is taken at the first opportunity.

Whoever tries for a lock again and again makes each attempt at one reading of
the clock, and in between there is a pause that the policy and chance decide
(`RetryPolicy.attemptTime?`). As long as another owner holds the lock each of
these attempts is lost and changes nothing (`Session.Waits`), and the first one
that finds the lock over takes it.

* `lock_is_taken_at_first_opportunity` — which attempt that is, what is counted
  until then, and what the clock and the store come to; and, whatever fails,
  how such a call ends.
* `lock_is_left_after_first_attempt` — a policy that passes its check, and asks for
  a pause that there is not.
-/
import LeaseStore.Proofs.Rules.Delays
import LeaseStore.Proofs.Runs.Decisions
import LeaseStore.Proofs.Runs.Rounds

namespace LeaseStore

variable {σ : Type} {V : View σ} {c : CollectionRef}

/-! ## The readings of the clock -/

/-- A whole number of milliseconds. -/
def Duration.Whole (d : Duration) : Prop := 1000000 ∣ d.nanos

instance (d : Duration) : Decidable d.Whole := inferInstanceAs (Decidable (1000000 ∣ d.nanos))

theorem Duration.Whole.millisUp {d : Duration} (h : d.Whole) : d.millisUp = d.millis := by
  unfold Whole at h
  unfold Duration.millisUp Duration.millis
  omega

namespace RetryPolicy

/-- Every pause is a whole number of milliseconds, but for the random extra. -/
structure Whole (p : RetryPolicy) : Prop where
  initial : p.initialBackoff.Whole
  greatest : p.maxBackoff.Whole

/-- The random extra after the lost attempt number `n`, if these numbers are
drawn, zeros follow, and one is drawn for each pause. -/
def jitter (p : RetryPolicy) (draws : List Nat) (n : Nat) : Nat :=
  draws.getD n 0 % (p.jitterBound n + 1)

/-- The reading of the clock for the attempt number `n`, from zero, if the first
one is at `t` and the policy has a pause after each of those before. -/
def attemptTime? (p : RetryPolicy) (draws : List Nat) (t : Instant) : Nat → Option Instant
  | 0 => some t
  | n + 1 => (p.attemptTime? draws t n).bind fun t =>
    (p.delay? n (p.jitter draws n)).map fun d => t.shift d.millis

variable {p : RetryPolicy} {draws : List Nat} {t : Instant} {n m : Nat}

/-- Where there is no attempt, none comes later. Induction on the attempts. -/
theorem attemptTime?_eq_none (h : p.attemptTime? draws t n = none) (hle : n ≤ m) :
    p.attemptTime? draws t m = none := by
  induction hle with
  | refl => exact h
  | step _ ih => rw [attemptTime?, ih, Option.bind_none]

theorem jitter_le (draws : List Nat) (n : Nat) : p.jitter draws n ≤ p.jitterBound n :=
  Nat.lt_succ_iff.mp (Nat.mod_lt _ (Nat.succ_pos _))

theorem Whole.backoff (h : p.Whole) (n : Nat) : (p.backoff n).Whole := by
  have hinitial : 1000000 ∣ p.initialBackoff.nanos * growth n :=
    Nat.dvd_trans h.initial (Nat.dvd_mul_right ..)
  have hgreatest : 1000000 ∣ p.maxBackoff.nanos := h.greatest
  have hrange := p.maxBackoff.inRange
  unfold Duration.Whole RetryPolicy.backoff
  rw [Duration.nanos_shorter, Duration.times, Duration.nanos_clamp]
  -- a product that is cut off is longer than the greatest pause
  rcases Nat.le_total p.maxBackoff.nanos (p.initialBackoff.nanos * growth n) with hle | hle
  · rwa [Nat.min_eq_right (by omega)]
  · rwa [Nat.min_eq_left (by omega), Nat.min_eq_left (by omega)]

theorem Whole.delay (h : p.Whole) {jitter : Nat} (hjitter : jitter ≤ p.jitterBound n)
    {d : Duration} (hd : p.delay? n jitter = some d) : d.Whole := by
  have hbackoff : 1000000 ∣ (p.backoff n).nanos := h.backoff n
  have hbound : p.jitterBound n < 9223372036854775808 := by unfold jitterBound; omega
  have hextra : 1000000 ∣ (Duration.ofMillis jitter).nanos := by
    rw [Duration.ofMillis, Duration.nanos_clamp, Nat.min_eq_left (by omega)]
    exact Nat.dvd_mul_left ..
  unfold delay? Duration.add? Duration.ofNanos? at hd
  split at hd
  case isTrue =>
    obtain rfl := Option.some.inj hd
    exact Nat.dvd_add hbackoff hextra
  case isFalse => cases hd

end RetryPolicy

theorem World.draw_fst (w : World σ) (bound : Nat) :
    (w.draw bound).1.val = w.draws.headD 0 % (bound + 1) := by
  unfold World.draw
  split
  case h_1 hnone => rw [hnone]; exact (Nat.zero_mod _).symm
  case h_2 hdraws => rw [hdraws]; rfl

namespace Session

variable {p : RetryPolicy} {s s' sₙ : Session σ} {n : Nat}

theorem draw_jitter {draws : List Nat} (hdraws : s.world.draws = draws.drop n) :
    (s.world.draw (p.jitterBound n)).1.val = p.jitter draws n := by
  have hhead : (draws.drop n).headD 0 = draws.getD n 0 := by
    rw [List.headD_eq_head?_getD, List.head?_drop, List.getD_eq_getElem?_getD]
  rw [World.draw_fst, hdraws, hhead]
  rfl

/-- A pause of whole milliseconds. -/
theorem paused_eq (h : p.Whole) {draws : List Nat} (hdraws : s.world.draws = draws.drop n) :
    s.paused p n = (p.delay? n (p.jitter draws n)).map fun d =>
      { s with world := { s.world with clock := s.world.clock.shift d.millis,
                                       draws := draws.drop (n + 1) } } := by
  unfold paused
  rw [draw_jitter hdraws, hdraws, List.tail_drop]
  refine Option.map_congr fun d hd => ?_
  rw [(h.delay (p.jitter_le draws n) hd).millisUp]

end Session

/-! ## One attempt -/

namespace Session

variable {s s' sₙ : Session σ} {id : String} {owner : Owner} {seconds : Nat} {r : Record}

theorem Sure.later (h : s.Sure V c) (hkeeps : s.engine.Keeps s'.engine) (hfit : s'.Fit V c)
    (hpasses : V.Passes s.world.store s'.world.store) : s'.Sure V c where
  fit := hfit
  calm := hpasses.calm h.calm
  opens := by
    rw [hkeeps.config, hkeeps.connector]
    exact h.opens

/-- What an attempt for a lock comes to that another owner holds up to a deadline. -/
inductive Contests (V : View σ) (c : CollectionRef) (owner : Owner) (seconds : Nat) (r : Record)
    (s s' : Session σ) : Except StoreError Bool → Prop
  | early : s.world.clock < r.lockExpiresAt → V.Same s.world.store s'.world.store →
      s'.engine.metrics = s.engine.metrics.recordAll [.get, .lockContended] →
      Contests V c owner seconds r s s' (.ok false)
  | due {token : String} : r.lockExpiresAt ≤ s.world.clock →
      V.Stored s.world.store s'.world.store c
        { r with lockOwner := owner, lockExpiresAt := s.world.clock.after seconds,
                 modifiedAt := s.world.clock, token } →
      s'.engine.metrics = s.engine.metrics.recordAll [.get, .upsert, .lockAcquired] →
      Contests V c owner seconds r s s' (.ok true)

theorem Sure.run_tryToLock (h : s.Sure V c)
    (hlive : V.live s.world.clock s.world.store c id = some r) (hne : r.lockOwner ≠ owner)
    (seconds : Nat) :
    ∃ reply s', (Operation.tryToLock id owner seconds).run s = (reply, s') ∧
      s.Proceeds V c s' ∧ Contests V c owner seconds r s s' reply := by
  obtain ⟨hlook, hexp⟩ := View.live_eq_some_iff.1 hlive
  obtain ⟨found, s₁, hread, hproceeds, hfinds⟩ := Operation.run_readForLock h.fit id
  have hlooked := (Operation.yields_readForLock_sought id).path s
  rw [hread] at hlooked
  rw [Operation.tryToLock_eq, Call.run_bind, hread]
  cases hfinds with
  | missing hdead _ =>
    rw [hdead r hlook] at hexp
    cases hexp
  | failed hnot | lost hnot => exact absurd h.ready hnot
  | @found r' l hlook' _ hsame hl =>
    obtain rfl := Option.some.inj (hlook.symm.trans hlook')
    -- a read that finds the record counts once, and nothing else has been done so far
    have hmetrics : s₁.engine.metrics = s.engine.metrics.record .get := by
      have hrun := (Operation.readForLock id).metrics_run s
      rw [hread, (hlooked.found r rfl).2] at hrun
      exact hrun
    have hothers : r.isLockedByOthersAt owner s₁.world.clock = true ↔
        s.world.clock < r.lockExpiresAt := by
      rw [hproceeds.clock]
      exact Record.isLockedByOthersAt_iff_of_owner rfl hne.symm
    by_cases hearly : s.world.clock < r.lockExpiresAt
    · have hgrab : (Operation.grab r owner seconds).run s₁ =
          (.ok false, s₁.count .lockContended) :=
        (Operation.run_grab_eq r owner seconds s₁).trans (if_pos (hothers.2 hearly))
      refine ⟨_, _, hgrab, hproceeds.trans (hproceeds.fit.count _), .early hearly hsame ?_⟩
      exact congrArg (Metrics.record · .lockContended) hmetrics
    -- the deadline has passed, so of the outcomes of the write only its success is left
    · have hlook₁ : V.look s₁.world.store c id = some r := (hsame.look c id).trans hlook
      rw [← hproceeds.clock] at hexp
      obtain ⟨reply, s', hgrab, hproceeds', htakes⟩ :=
        Operation.run_grab hproceeds.fit hl hlook₁ hexp owner seconds
      refine ⟨reply, s', hgrab, hproceeds.trans hproceeds', ?_⟩
      cases htakes with
      | @taken r' token hlook' _ _ hstored =>
        obtain rfl := Option.some.inj (hlook₁.symm.trans hlook')
        rw [hproceeds.clock] at hstored
        refine .due (Int.not_lt.1 hearly) (.of_same hsame hstored) ?_
        have hgrabbed := (Operation.yields_grab_grabbed r owner seconds).path s₁
        have hrun := (Operation.grab r owner seconds).metrics_run s₁
        rw [hgrab] at hgrabbed hrun
        rw [hrun, hgrabbed.taken rfl, hmetrics]
        rfl
      | contended hlook' _ hlocked _ =>
        obtain rfl := Option.some.inj (hlook₁.symm.trans hlook')
        exact absurd (hothers.1 hlocked) hearly
      | missing hdead _ =>
        rw [hdead r hlook₁] at hexp
        cases hexp
      | failed hnot => exact absurd (hsame.calm h.calm) hnot

/-! ## Many attempts -/

/-- What has come to be when the round number `n` begins, as long as another
owner holds the lock of the record. -/
structure Waits (V : View σ) (c : CollectionRef) (p : RetryPolicy) (r : Record)
    (s : Session σ) (n : Nat) (sₙ : Session σ) : Prop where
  sure : sₙ.Sure V c
  same : V.Same s.world.store sₙ.world.store
  time : p.attemptTime? s.world.draws s.world.clock n = some sₙ.world.clock
  draws : sₙ.world.draws = s.world.draws.drop n
  metrics : sₙ.engine.metrics =
    { s.engine.metrics with gets := s.engine.metrics.gets + n,
                            locksContended := s.engine.metrics.locksContended + n }
  early : ∀ i < n, ∀ t, p.attemptTime? s.world.draws s.world.clock i = some t →
    t < r.lockExpiresAt

theorem Sure.waits (h : s.Sure V c) (p : RetryPolicy) (r : Record) : Waits V c p r s 0 s where
  sure := h
  same := .refl _
  time := rfl
  draws := rfl
  metrics := rfl
  early := nofun

/-- One round. -/
theorem Waits.next {p : RetryPolicy} {n : Nat} {s₁ s₂ : Session σ} (h : Waits V c p r s n sₙ)
    (hwhole : p.Whole) (hproceeds : sₙ.Proceeds V c s₁) (hkeeps : sₙ.engine.Keeps s₁.engine)
    (hcontests : Contests V c owner seconds r sₙ s₁ (.ok false))
    (hpaused : s₁.paused p n = some s₂) :
    Waits V c p r s (n + 1) s₂ := by
  cases hcontests with
  | early hearly hsame hmetrics =>
    rw [paused_eq hwhole (hproceeds.draws.trans h.draws), Option.map_eq_some_iff] at hpaused
    obtain ⟨d, hd, rfl⟩ := hpaused
    have hsure := h.sure.later hkeeps hproceeds.fit hproceeds.passes
    refine ⟨?_, h.same.trans hsame, ?_, rfl, ?_, ?_⟩
    · exact ⟨⟨hsure.fit.sound, hsure.fit.connector, hsure.fit.bound, hsure.fit.link⟩, hsure.calm,
        hsure.opens⟩
    · rw [RetryPolicy.attemptTime?, h.time, Option.bind_some, hd, Option.map_some, hproceeds.clock]
    · rw [hmetrics, h.metrics]
      rfl
    · intro i hi t ht
      obtain hlt | rfl := Nat.lt_succ_iff_lt_or_eq.mp hi
      · exact h.early i hlt t ht
      · obtain rfl := Option.some.inj (h.time.symm.trans ht)
        exact hearly

variable {p : RetryPolicy} {n : Nat}

/-- Every round begins before the call ends. -/
theorem clock_le_of_round (hround : s.round p (Operation.tryToLock id owner seconds) n = some sₙ)
    (hn : n < p.attempts) (hfit : sₙ.Fit V c) :
    sₙ.world.clock ≤ ((Operation.lockWithRetry id owner seconds p).run s).2.world.clock := by
  obtain ⟨answer, s', hrest, hlasts, -⟩ :=
    Operation.run_retryFrom hfit p id owner seconds (p.attempts - n) n
  rw [Operation.lockWithRetry, Operation.run_retryFrom_of_round hround hn, hrest]
  exact hlasts.clock

/-- A record that is alive when a call ends was alive at each of its attempts. -/
theorem Waits.live (h : Waits V c p r s n sₙ)
    (hround : s.round p (Operation.tryToLock id owner seconds) n = some sₙ) (hn : n < p.attempts)
    (hlive : V.live ((Operation.lockWithRetry id owner seconds p).run s).2.world.clock
      s.world.store c id = some r) :
    V.live sₙ.world.clock sₙ.world.store c id = some r := by
  obtain ⟨hlook, hexp⟩ := View.live_eq_some_iff.1 hlive
  refine View.live_eq_some_iff.2 ⟨(h.same.look c id).trans hlook, ?_⟩
  by_contra hstale
  have hend := Record.isExpiredAt_mono (Bool.not_eq_false _ ▸ hstale)
    (clock_le_of_round hround hn h.sure.fit)
  rw [hend] at hexp
  cases hexp

/-- Induction on the rounds. -/
theorem Sure.waits_of_round (h : s.Sure V c) (hwhole : p.Whole)
    (hlive : V.live ((Operation.lockWithRetry id owner seconds p).run s).2.world.clock
      s.world.store c id = some r) (hne : r.lockOwner ≠ owner)
    (hround : s.round p (Operation.tryToLock id owner seconds) n = some sₙ) (hn : n < p.attempts) :
    Waits V c p r s n sₙ := by
  induction n generalizing sₙ with
  | zero =>
    obtain rfl := Option.some.inj hround
    exact h.waits p r
  | succ n ih =>
    obtain ⟨s₁, s₂, hround₁, hlost, hpaused⟩ := exists_of_round_succ hround
    have hwaits := ih hround₁ (by omega)
    obtain ⟨reply, s₂', hrun, hproceeds, hcontests⟩ :=
      hwaits.sure.run_tryToLock (hwaits.live hround₁ (by omega) hlive) hne seconds
    obtain ⟨rfl, rfl⟩ := Prod.mk.inj (hlost.symm.trans hrun)
    have hkeeps := (Operation.tryToLock id owner seconds).keeps_run s₁
    rw [hlost] at hkeeps
    exact hwaits.next hwhole hproceeds hkeeps hcontests hpaused

/-- How attempts for a lock come out that another owner holds up to a deadline. -/
inductive Outlasts (V : View σ) (c : CollectionRef) (p : RetryPolicy) (owner : Owner)
    (seconds : Nat) (r : Record) (s s' : Session σ) : Option (Except StoreError Bool) → Prop
  /-- The attempt number `n` is the first that finds the lock over. -/
  | due {n : Nat} {sₙ : Session σ} : n < p.attempts → Waits V c p r s n sₙ →
      Contests V c owner seconds r sₙ s' (.ok true) → s'.world.clock = sₙ.world.clock →
      Outlasts V c p owner seconds r s s' (some (.ok true))
  /-- The last attempt has found it held. -/
  | early {n : Nat} {sₙ : Session σ} : n + 1 = p.attempts → Waits V c p r s n sₙ →
      Contests V c owner seconds r sₙ s' (.ok false) → s'.world.clock = sₙ.world.clock →
      Outlasts V c p owner seconds r s s' (some (.ok false))
  /-- There is no time for the next attempt. -/
  | overlong {n : Nat} {sₙ : Session σ} : n + 1 < p.attempts → Waits V c p r s n sₙ →
      sₙ.world.clock < r.lockExpiresAt →
      p.attemptTime? s.world.draws s.world.clock (n + 1) = none →
      V.Same s.world.store s'.world.store → Outlasts V c p owner seconds r s s' none

theorem Sure.outlasts (h : s.Sure V c) (hwhole : p.Whole)
    (hlive : V.live ((Operation.lockWithRetry id owner seconds p).run s).2.world.clock
      s.world.store c id = some r) (hne : r.lockOwner ≠ owner) :
    let run := (Operation.lockWithRetry id owner seconds p).run s
    Outlasts V c p owner seconds r s run.2 run.1 := by
  obtain ⟨n, hn, sₙ, hround, hends⟩ := Operation.exists_last_attempt id owner seconds p s
  have hwaits := h.waits_of_round hwhole hlive hne hround hn
  obtain ⟨reply, s₁, hrun, hproceeds, hcontests⟩ :=
    hwaits.sure.run_tryToLock (hwaits.live hround hn hlive) hne seconds
  generalize (Operation.lockWithRetry id owner seconds p).run s = run at hends ⊢
  cases hends with
  | decided hrun' hreply =>
    obtain ⟨rfl, rfl⟩ := Prod.mk.inj (hrun'.symm.trans hrun)
    cases hcontests with
    | early => exact absurd rfl hreply
    | due hdue hstored hmetrics =>
      exact .due hn hwaits (.due hdue hstored hmetrics) hproceeds.clock
  | exhausted hrun' hlast =>
    obtain ⟨rfl, rfl⟩ := Prod.mk.inj (hrun'.symm.trans hrun)
    exact .early hlast hwaits hcontests hproceeds.clock
  | overlong hrun' hnext hpaused _ hstore _ =>
    obtain ⟨rfl, rfl⟩ := Prod.mk.inj (hrun'.symm.trans hrun)
    cases hcontests with
    | early hearly hsame _ =>
      rw [paused_eq hwhole (hproceeds.draws.trans hwaits.draws), Option.map_eq_none_iff] at hpaused
      refine .overlong hnext hwaits hearly ?_ (hstore ▸ hwaits.same.trans hsame)
      rw [RetryPolicy.attemptTime?, hwaits.time, Option.bind_some, hpaused, Option.map_none]

section Outcomes

variable {answer : Option (Except StoreError Bool)} {i : Nat} {t : Instant}

/-- Up to the reading of the clock that finds the lock held, all do. -/
theorem Waits.early_of_le (h : Waits V c p r s n sₙ) (hearly : sₙ.world.clock < r.lockExpiresAt)
    (hi : i ≤ n) (ht : p.attemptTime? s.world.draws s.world.clock i = some t) :
    t < r.lockExpiresAt := by
  obtain hlt | rfl := Nat.lt_or_eq_of_le hi
  · exact h.early i hlt t ht
  · obtain rfl := Option.some.inj (h.time.symm.trans ht)
    exact hearly

/-- The lock is taken exactly if one of the attempts finds it over. -/
theorem Outlasts.taken_iff (h : Outlasts V c p owner seconds r s s' answer) :
    answer = some (.ok true) ↔ ∃ i < p.attempts, ∃ t,
      p.attemptTime? s.world.draws s.world.clock i = some t ∧ r.lockExpiresAt ≤ t := by
  cases h with
  | due hn hwaits hcontests _ =>
    cases hcontests with
    | due hdue => exact iff_of_true rfl ⟨_, hn, _, hwaits.time, hdue⟩
  | early hlast hwaits hcontests _ =>
    refine iff_of_false nofun ?_
    rintro ⟨i, hi, t, ht, hdue⟩
    cases hcontests with
    | early hearly =>
      exact absurd (hwaits.early_of_le hearly (by omega) ht) (Int.not_lt.2 hdue)
  | @overlong n _ _ hwaits hearly hnone _ =>
    refine iff_of_false nofun ?_
    rintro ⟨i, -, t, ht, hdue⟩
    obtain hle | hlt := Nat.lt_or_ge n i
    · rw [RetryPolicy.attemptTime?_eq_none hnone hle] at ht
      cases ht
    · exact absurd (hwaits.early_of_le hearly hlt ht) (Int.not_lt.2 hdue)

/-- It is taken by the first attempt that does. -/
theorem Outlasts.of_first (h : Outlasts V c p owner seconds r s s' answer) (hi : i < p.attempts)
    (ht : p.attemptTime? s.world.draws s.world.clock i = some t) (hdue : r.lockExpiresAt ≤ t)
    (hfirst : ∀ j < i, ∀ t', p.attemptTime? s.world.draws s.world.clock j = some t' →
      t' < r.lockExpiresAt) :
    s'.world.clock = t ∧
      s'.engine.metrics =
        { s.engine.metrics with gets := s.engine.metrics.gets + (i + 1),
                                upserts := s.engine.metrics.upserts + 1,
                                locksContended := s.engine.metrics.locksContended + i,
                                locksAcquired := s.engine.metrics.locksAcquired + 1 } ∧
      ∃ token, V.Stored s.world.store s'.world.store c
        { r with lockOwner := owner, lockExpiresAt := t.after seconds, modifiedAt := t,
                 token } := by
  obtain rfl := h.taken_iff.2 ⟨i, hi, t, ht, hdue⟩
  cases h with
  | @due n sₙ _ hwaits hcontests hclock =>
    cases hcontests with
    | @due token hdue' hstored hmetrics =>
      obtain hlt | rfl | hgt := Nat.lt_trichotomy n i
      · exact absurd (hfirst n hlt _ hwaits.time) (Int.not_lt.2 hdue')
      · obtain rfl := Option.some.inj (hwaits.time.symm.trans ht)
        refine ⟨hclock, ?_, token, .of_same hwaits.same hstored⟩
        rw [hmetrics, hwaits.metrics]
        rfl
      · exact absurd (hwaits.early i hgt t ht) (Int.not_lt.2 hdue)

/-- Where no attempt finds the lock over, nothing is written. -/
theorem Outlasts.of_early (h : Outlasts V c p owner seconds r s s' answer)
    (hearly : ∀ i < p.attempts, ∀ t, p.attemptTime? s.world.draws s.world.clock i = some t →
      t < r.lockExpiresAt) :
    V.Same s.world.store s'.world.store ∧
      (∀ t, p.attemptTime? s.world.draws s.world.clock (p.attempts - 1) = some t →
        answer = some (.ok false) ∧ s'.world.clock = t ∧
        s'.engine.metrics =
          { s.engine.metrics with gets := s.engine.metrics.gets + p.attempts,
                                  locksContended :=
                                    s.engine.metrics.locksContended + p.attempts }) ∧
      (p.attemptTime? s.world.draws s.world.clock (p.attempts - 1) = none → answer = none) := by
  cases h with
  | due hn hwaits hcontests _ =>
    cases hcontests with
    | due hdue => exact absurd (hearly _ hn _ hwaits.time) (Int.not_lt.2 hdue)
  | @early n _ hlast hwaits hcontests hclock =>
    cases hcontests with
    | early _ hsame hmetrics =>
      have hn : p.attempts - 1 = n := by omega
      rw [hn, hwaits.time]
      refine ⟨hwaits.same.trans hsame, fun t ht => ⟨rfl, ?_, ?_⟩, nofun⟩
      · exact hclock.trans (Option.some.inj ht)
      · rw [hmetrics, hwaits.metrics, ← hlast]
        rfl
  | overlong hnext _ _ hnone hsame =>
    rw [RetryPolicy.attemptTime?_eq_none hnone (by omega : _ ≤ p.attempts - 1)]
    exact ⟨hsame, fun t ht => (nomatch ht), fun _ => rfl⟩

end Outcomes

end Session

open Pool Fleet Session in
/-- **A lock is taken at the first opportunity.** Engines share a backend of any
kind, to which nothing had been put before they began. Whatever they have come
to, let one of them try for the lock of a record again and again, with pauses of
whole milliseconds, while no failure is planned but of deletes. Another owner
holds the lock up to a deadline, and the record is still alive when the call
ends. Whatever is drawn, the lock is taken exactly if an attempt finds the
deadline passed, and it is the first such attempt that takes it, with nothing
but contended ones before it. Otherwise nothing is written, and after the last
attempt there is no pause. Only if a pause would be longer than any duration is
there no answer.

Whatever the connector and the backends do, an attempt of which the store fails
the read or the write is a lost one; the only errors of an attempt are that there
is no record and those that no retry mends; and the call ends with the first
attempt that is not lost, or with the last one that the policy allows. -/
theorem lock_is_taken_at_first_opportunity (kind : BackendKind) (configs : Nat → Once Config)
    (w : World (Fleet × Outages)) (hvacant : Vacant kind w.store.1) (incidents : List Incident)
    {k : Nat} {config : Config} (hconfig : configs k = .ready config)
    (hreaches : Reaches kind config) (id : String) (owner : Owner) (seconds : Nat)
    {policy : RetryPolicy} (hwhole : policy.Whole) {r : Record} (hne : r.lockOwner ≠ owner) :
    let V := (view kind).exposed
    let c := config.collectionRef
    let p := (fresh (shared kind).exposed configs w).through incidents
    let q := Request.lockWithRetry id owner seconds policy
    let time? := policy.attemptTime? p.world.draws p.world.clock
    let m := (p.on k).engine.metrics
    let run := q.call.run (p.on k)
    (V.Calm p.world.store → V.live run.2.world.clock p.world.store c id = some r →
      (run.1 = .retried (some (.ok true)) ↔
        ∃ i < policy.attempts, ∃ t, time? i = some t ∧ r.lockExpiresAt ≤ t) ∧
      (∀ i < policy.attempts, ∀ t, time? i = some t → r.lockExpiresAt ≤ t →
        (∀ j < i, ∀ t', time? j = some t' → t' < r.lockExpiresAt) →
          run.2.world.clock = t ∧
          run.2.engine.metrics =
            { m with gets := m.gets + (i + 1), upserts := m.upserts + 1,
                     locksContended := m.locksContended + i,
                     locksAcquired := m.locksAcquired + 1 } ∧
          ∃ token, V.Stored p.world.store run.2.world.store c
            { r with lockOwner := owner, lockExpiresAt := t.after seconds, modifiedAt := t,
                     token }) ∧
      ((∀ i < policy.attempts, ∀ t, time? i = some t → t < r.lockExpiresAt) →
        V.Same p.world.store run.2.world.store ∧
        (∀ t, time? (policy.attempts - 1) = some t →
          run.1 = .retried (some (.ok false)) ∧ run.2.world.clock = t ∧
          run.2.engine.metrics =
            { m with gets := m.gets + policy.attempts,
                     locksContended := m.locksContended + policy.attempts }) ∧
        (time? (policy.attempts - 1) = none → run.1 = .retried none))) ∧
    ∀ {τ : Type} (s : Session τ),
      let attempt := Operation.tryToLock id owner seconds
      let m := s.engine.metrics
      let m' := (attempt.run s).2.engine.metrics
      ((∃ x ∈ attempt.path s, x.Defeats) → (attempt.run s).1 = .ok false ∧
        m'.locksFailed = m.locksFailed + 1 ∧ m'.locksContended = m.locksContended ∧
        m'.locksAcquired = m.locksAcquired) ∧
      (∀ err, (attempt.run s).1 = .error err →
        (∃ id', err = .notFound id') ∨ err.isStructural = true) ∧
      ∃ n < policy.attempts, ∃ sₙ, s.round policy attempt n = some sₙ ∧
        ∃ answer, (q.call.run s).1 = .retried answer ∧
          Ends policy attempt policy.attempts n sₙ (answer, (q.call.run s).2) := by
  intro V c p q time? m run
  have hrun {τ : Type} (s : Session τ) : q.call.run s =
      (.retried ((Operation.lockWithRetry id owner seconds policy).run s).1,
        ((Operation.lockWithRetry id owner seconds policy).run s).2) := Call.run_map ..
  refine ⟨fun hcalm hlive => ?_, fun {τ} s => ⟨?_, ?_, ?_⟩⟩
  · have hshares : p.Shares kind configs := (Shares.fresh hvacant).through incidents
    have hsure := hshares.sure hconfig hreaches hcalm
    have hanswer : run.1 = .retried _ := congrArg Prod.fst (hrun (p.on k))
    have hend : run.2 = _ := congrArg Prod.snd (hrun (p.on k))
    rw [hend] at hlive
    have houtlasts := hsure.outlasts hwhole hlive hne
    rw [hanswer, hend, Answer.retried.injEq, Answer.retried.injEq, Answer.retried.injEq]
    exact ⟨houtlasts.taken_iff, fun i hi t => houtlasts.of_first hi, houtlasts.of_early⟩
  · rintro ⟨x, hx, hdefeats⟩
    have htried := (Operation.yields_tryToLock_attempted id owner seconds).path s
    have hmetrics := (Operation.tryToLock id owner seconds).metrics_run s
    obtain ⟨hlost, n, hn, htallied⟩ := htried.defeated fun h => h x hx hdefeats
    refine ⟨hlost, ?_⟩
    rw [hmetrics, htallied]
    obtain rfl | rfl | rfl := hn <;> exact ⟨rfl, rfl, rfl⟩
  · exact ((Operation.yields_tryToLock_attempted id owner seconds).path s).ending
  · obtain ⟨n, hn, sₙ, hround, hends⟩ := Operation.exists_last_attempt id owner seconds policy s
    rw [hrun]
    exact ⟨n, hn, sₙ, hround, _, rfl, hends⟩

/-- Three attempts, forty seconds apart. -/
def RetryPolicy.unhurried : RetryPolicy where
  maxAttempts := 3
  initialBackoff := .ofMillis 40000
  maxBackoff := .ofMillis 40000

open Pool Fleet in
/-- A lock that lasts until 65 seconds after the epoch is taken by the third of
three attempts, 40 seconds apart from 5 seconds on. -/
theorem lock_is_taken_at_first_opportunity_third :
    let p := sheltered.through leasing
    let q := Request.lockWithRetry "a" ⟨"y", "node"⟩ 60 .unhurried
    let run := q.call.run (p.on 0)
    Vacant .memory sheltered.world.store.1 ∧ RetryPolicy.unhurried.Whole ∧
      (view .memory).exposed.Calm p.world.store ∧
      (∃ r, (view .memory).exposed.live run.2.world.clock p.world.store items "a" = some r ∧
        r.lockOwner ≠ ⟨"y", "node"⟩ ∧ r.lockExpiresAt = Instant.epoch.after 65) ∧
      run.1 = .retried (some (.ok true)) ∧ run.2.world.clock = Instant.epoch.after 85 ∧
      run.2.engine.metrics.locksContended = 2 := by
  intro p q run
  subst run q p
  have hvacant : Vacant .memory sheltered.world.store.1 := rfl
  have hwhole : RetryPolicy.unhurried.Whole := ⟨by decide +kernel, by decide +kernel⟩
  have hcalm := calm_sheltered leasing
  have hlease : ((view .memory).exposed.live ((Request.lockWithRetry "a" ⟨"y", "node"⟩ 60
      .unhurried).call.run ((sheltered.through leasing).on 0)).2.world.clock
      (sheltered.through leasing).world.store items "a").map
      (fun r => (r.lockOwner, r.lockExpiresAt)) = some (⟨"x", "node"⟩, Instant.epoch.after 65) := by
    decide +kernel
  obtain ⟨r, hlive, hlease⟩ := Option.map_eq_some_iff.1 hlease
  obtain ⟨howner, hdeadline⟩ := Prod.mk.inj hlease
  have hne : r.lockOwner ≠ ⟨"y", "node"⟩ := by
    rw [howner]
    decide
  have hearly : ∀ j < 2, ∀ t', RetryPolicy.unhurried.attemptTime?
      (sheltered.through leasing).world.draws (sheltered.through leasing).world.clock j = some t' →
      t' < r.lockExpiresAt := by
    have hall : ∀ j < 2, (RetryPolicy.unhurried.attemptTime?
        (sheltered.through leasing).world.draws (sheltered.through leasing).world.clock j).all
        (· < Instant.epoch.after 65) = true := by
      decide +kernel
    intro j hj t' ht'
    have hlt := hall j hj
    rw [ht'] at hlt
    rw [hdeadline]
    exact of_decide_eq_true hlt
  have htime : RetryPolicy.unhurried.attemptTime? (sheltered.through leasing).world.draws
      (sheltered.through leasing).world.clock 2 = some (Instant.epoch.after 85) := by
    decide +kernel
  have hdue : r.lockExpiresAt ≤ Instant.epoch.after 85 := by
    rw [hdeadline]
    decide +kernel
  obtain ⟨htaking, -⟩ := lock_is_taken_at_first_opportunity .memory
    (fun _ => .ready (Fixture.memoryConfig "items")) ⟨Instant.epoch, [], ({}, Outages.none)⟩
    hvacant leasing (k := 0) rfl trivial "a" ⟨"y", "node"⟩ 60 hwhole hne
  obtain ⟨htaken, hfirst, -⟩ := htaking hcalm hlive
  obtain ⟨hclock, hmetrics, -⟩ := hfirst 2 (by decide) _ htime hdue hearly
  refine ⟨hvacant, hwhole, hcalm, ⟨r, hlive, hne, hdeadline⟩,
    htaken.2 ⟨2, by decide, _, htime, hdue⟩, hclock, ?_⟩
  rw [hmetrics]
  decide +kernel

open Pool Fleet in
/-- The lock lasts until 65 seconds after the epoch, and one of two attempts is made,
at the fifth second. The pause after it would be longer than any duration, so there
is no second attempt, and no answer. -/
theorem lock_is_left_after_first_attempt :
    let p := (fresh (shared .memory).exposed (fun _ => .ready Config.endless)
      ⟨Instant.epoch, [1000], ({}, Outages.none)⟩).through leasing
    let policy := Config.endless.lockRetry
    let run := (Request.lockWithRetry "a" ⟨"y", "node"⟩ 60 policy).call.run (p.on 0)
    policy.Whole ∧ policy.attempts = 2 ∧ (view .memory).exposed.Calm p.world.store ∧
      p.world.clock = Instant.epoch.after 5 ∧
      (∃ r, (view .memory).exposed.live run.2.world.clock p.world.store
          Config.endless.collectionRef "a" = some r ∧
        r.lockOwner = ⟨"x", "node"⟩ ∧ r.lockExpiresAt = Instant.epoch.after 65) ∧
      run.1 = .retried none ∧ ∀ b, run.1 ≠ .retried (some (.ok b)) := by
  intro p policy run
  have hanswer : run.1 =
      .retried ((Operation.lockWithRetry "a" ⟨"y", "node"⟩ 60 policy).run (p.on 0)).1 :=
    congrArg Prod.fst (Call.run_map ..)
  have hnone : ((Operation.lockWithRetry "a" ⟨"y", "node"⟩ 60 policy).run (p.on 0)).1.isNone := by
    decide +kernel
  have hlease : ((view .memory).exposed.live run.2.world.clock p.world.store
      Config.endless.collectionRef "a").map (fun r => (r.lockOwner, r.lockExpiresAt)) =
        some (⟨"x", "node"⟩, Instant.epoch.after 65) := by
    decide +kernel
  obtain ⟨r, hlive, hlease⟩ := Option.map_eq_some_iff.1 hlease
  obtain ⟨howner, hdeadline⟩ := Prod.mk.inj hlease
  rw [Option.isNone_iff_eq_none.1 hnone] at hanswer
  refine ⟨⟨by decide +kernel, by decide +kernel⟩, by decide +kernel, calm_unthreatened _ _ leasing,
    by decide +kernel, ⟨r, hlive, howner, hdeadline⟩, hanswer, fun b hb => ?_⟩
  rw [hanswer] at hb
  cases hb

end LeaseStore
