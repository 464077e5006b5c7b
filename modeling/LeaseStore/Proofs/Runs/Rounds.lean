/-
LeaseStore.Proofs.Runs.Rounds — attempts to lock, one round after the other.

Attempts with pauses in between come in rounds: an attempt that is lost, and
the pause after it. Whatever the connector and the backends do, there is a last
round (`Operation.exists_last_round`), and it ends in one of three ways
(`Session.Ends`): with an answer that is not a loss, because no attempt is left,
or because the policy has no pause for it, which is the one way to end without an
answer (`Operation.lockWithRetry_eq_none_iff`). Which attempts are lost is settled
by the exchanges of the attempt (`Operation.Attempted`): those of which the store
has failed the read or the write are.
-/
import LeaseStore.Proofs.Runs.Trouble

namespace LeaseStore

variable {σ : Type}

/-! ## What is counted on the way -/

/-- The counter that an exchange adds to. -/
def Exchange.tallied? : Exchange → Option Counter
  | ⟨.count n, _⟩ => some n
  | _ => none

/-- What is counted in these exchanges, in order. -/
def tallied (xs : List Exchange) : List Counter := xs.filterMap (·.tallied?)

theorem tallied_append (xs ys : List Exchange) : tallied (xs ++ ys) = tallied xs ++ tallied ys :=
  List.filterMap_append

/-- The counts after these events. -/
def Metrics.recordAll (m : Metrics) (ns : List Counter) : Metrics := ns.foldl record m

/-- An engine counts what its exchanges say. Induction on the call. -/
theorem Call.metrics_run {α : Type} (x : Call α) (s : Session σ) :
    (x.run s).2.engine.metrics = s.engine.metrics.recordAll (tallied (x.path s)) := by
  induction x generalizing s with
  | done a => rfl
  | act a next ih =>
    have hrest := ih (s.perform a).1 (s.perform a).2
    by_cases hcount : ∃ n, a = .count n
    · obtain ⟨n, rfl⟩ := hcount
      exact hrest
    · have hnone : Exchange.tallied? ⟨a, (s.perform a).1⟩ = none := by
        cases a with
        | count n => exact absurd ⟨n, rfl⟩ hcount
        | _ => rfl
      have hsame := s.metrics_perform fun n h => hcount ⟨n, h⟩
      rw [run_act, hrest, hsame, path, tallied, tallied, List.filterMap_cons_none hnone]

/-! ## Attempts that the store has failed -/

/-- The store has failed to read a record that may be there, or to write one. -/
def Exchange.Defeats : Exchange → Prop
  | ⟨.read _, .error e⟩ => e ≠ .notFound
  | ⟨.upsert .., .error _⟩ => True
  | _ => False

/-- None of these exchanges is a defeat. -/
def Undefeated (xs : List Exchange) : Prop := ∀ x ∈ xs, ¬ x.Defeats

namespace Operation

open Call

/-- An error that ends attempts to lock: there is no record, or no retry can
mend it. -/
def Ending (err : StoreError) : Prop := (∃ id, err = .notFound id) ∨ err.isStructural = true

/-- What looking for the record makes of its exchanges. -/
structure Sought (xs : List Exchange) (res : Except StoreError (Option Record)) : Prop where
  found : ∀ r, res = .ok (some r) → Undefeated xs ∧ tallied xs = [.get]
  defeated : ¬ Undefeated xs → res = .ok none ∧ ∃ n, n.IsError ∧ tallied xs = [.get, n]
  ending : ∀ err, res = .error err → Ending err

/-- What an attempt to lock makes of its exchanges. -/
structure Attempted (xs : List Exchange) (res : Except StoreError Bool) : Prop where
  defeated : ¬ Undefeated xs →
    res = .ok false ∧ ∃ n, n.IsError ∧ tallied xs = [.get, n, .lockFailed]
  ending : ∀ err, res = .error err → Ending err

theorem ending_forLock {res : Except StoreError Record} {err : StoreError}
    (h : forLock res = .error err) : Ending err := by
  match res with
  | .ok r => cases h
  | .error (.notFound id) => exact .inl ⟨id, (Except.error.inj h).symm⟩
  | .error (.uninitialized) | .error (.unknownBackend _) | .error (.config _) =>
    obtain rfl := Except.error.inj h
    exact .inr rfl
  | .error (.conflict _) | .error (.lockedByOther ..) | .error (.external ..) => cases h

theorem undefeated_append {xs ys : List Exchange} :
    Undefeated (xs ++ ys) ↔ Undefeated xs ∧ Undefeated ys := List.forall_mem_append

theorem undefeated_of_upkeep {xs : List Exchange} (h : ∀ x ∈ xs, x.IsUpkeep) : Undefeated xs := by
  intro x hx hdefeats
  cases h x hx <;> exact hdefeats

/-- A read tells the record that it has found, and that the store has failed. -/
theorem Fetched.sought {id : String} {xs : List Exchange} {res : Except StoreError Record}
    (h : Fetched id xs res) : Sought xs (forLock res) := by
  refine ⟨fun r hr => ?_, fun hdefeated => ?_, fun _ => ending_forLock⟩
  · obtain rfl := eq_ok_of_forLock hr
    cases h with
    | found => exact ⟨by simp [Undefeated, fetching, Exchange.Defeats], rfl⟩
  · cases h with
    | unconnected =>
      refine absurd ?_ hdefeated
      simp [Undefeated, Exchange.Defeats]
    | @refused config e =>
      refine ⟨?_, _, isError_counterOf _, rfl⟩
      cases e with
      | notFound =>
        refine absurd ?_ hdefeated
        simp [Undefeated, fetching, Exchange.Defeats]
      | alreadyExists | preconditionFailed | failure => rfl
    | @expired config v t cleanup _ hclean =>
      have hread : Undefeated (fetching config id (.ok v) [⟨.now, t⟩]) := by
        simp [Undefeated, fetching, Exchange.Defeats]
      exact absurd (undefeated_append.mpr ⟨hread, undefeated_of_upkeep hclean⟩) hdefeated
    | found =>
      refine absurd ?_ hdefeated
      simp [Undefeated, fetching, Exchange.Defeats]

theorem yields_readForLock_sought (id : String) : (readForLock id).Yields Sought := by
  refine (yields_readForLock_fetched id).mono ?_
  rintro xs _ ⟨-, res, hfetched, rfl⟩
  exact hfetched.sought

/-- What an attempt makes of the exchanges after it has found the record. -/
structure Grabbed (ys : List Exchange) (res : Except StoreError Bool) : Prop where
  settled : ∃ b, res = .ok b
  taken : res = .ok true → tallied ys = [.upsert, .lockAcquired]
  defeated : ¬ Undefeated ys → res = .ok false ∧ ∃ n, n.IsError ∧ tallied ys = [n, .lockFailed]

theorem yields_grab_grabbed (v : Record) (owner : Owner) (seconds : Nat) :
    (grab v owner seconds).Yields Grabbed := by
  intro t _
  show Yields (if v.isLockedByOthersAt owner t then _ else _) _
  split
  case isTrue =>
    refine fun _ _ => ⟨⟨false, rfl⟩, nofun, fun hdefeated => absurd ?_ hdefeated⟩
    simp [Undefeated, Exchange.Defeats]
  case isFalse =>
    intro reply _
    match reply with
    | .ok stored =>
      refine fun _ _ _ _ => ⟨⟨true, rfl⟩, fun _ => rfl, fun hdefeated => absurd ?_ hdefeated⟩
      simp [Undefeated, Exchange.Defeats]
    | .error e =>
      exact fun _ _ _ _ => ⟨⟨false, rfl⟩, nofun, fun _ => ⟨rfl, _, isError_counterOf _, rfl⟩⟩

/-- **A failed read or write makes an attempt a lost one**, whatever the connector,
the backend, the clock and chance reply. -/
theorem yields_tryToLock_attempted (id : String) (owner : Owner) (seconds : Nat) :
    (tryToLock id owner seconds).Yields Attempted := by
  rw [tryToLock_eq]
  refine yields_bind (yields_readForLock_sought id) ?_
  rintro xs (err | _ | v) hsought
  · show Attempted (xs ++ []) _
    rw [List.append_nil]
    refine ⟨fun h => ?_, fun err' h => hsought.ending err' ?_⟩
    · cases (hsought.defeated h).1
    · rw [Except.error.inj h]
  · refine fun _ _ => ⟨fun h => ?_, fun err' h => nomatch h⟩
    have hxs : ¬ Undefeated xs := fun hxs => h <| undefeated_append.mpr
      ⟨hxs, by simp [Undefeated, Exchange.Defeats]⟩
    obtain ⟨-, n, hn, htallied⟩ := hsought.defeated hxs
    refine ⟨rfl, n, hn, ?_⟩
    rw [tallied_append, htallied]
    rfl
  · obtain ⟨hxs, htallied⟩ := hsought.found v rfl
    refine (yields_grab_grabbed v owner seconds).mono ?_
    rintro ys res ⟨⟨b, rfl⟩, -, hdefeated⟩
    refine ⟨fun h => ?_, fun err' h => nomatch h⟩
    have hys : ¬ Undefeated ys := fun hys => h (undefeated_append.mpr ⟨hxs, hys⟩)
    obtain ⟨hres, n, hn, htallied'⟩ := hdefeated hys
    refine ⟨hres, n, hn, ?_⟩
    rw [tallied_append, htallied, htallied']
    rfl

end Operation

/-! ## Rounds -/

namespace Session

/-- The session after the pause that follows the lost attempt number `n`, from
zero, if the policy has one. -/
def paused (p : RetryPolicy) (n : Nat) (s : Session σ) : Option (Session σ) :=
  (p.delay? n (s.world.draw (p.jitterBound n)).1).map fun d =>
    { s with world := { s.world with clock := s.world.clock.shift d.millisUp,
                                     draws := s.world.draws.tail } }

/-- The session after an attempt, if that was lost. -/
def afterLoss (attempt : Call (Except StoreError Bool)) (s : Session σ) : Option (Session σ) :=
  match attempt.run s with
  | (.ok false, s') => some s'
  | _ => none

/-- The session in which the round number `n` begins, from zero: the attempts
before it were lost, and there was a pause after each of them. -/
def round (p : RetryPolicy) (attempt : Call (Except StoreError Bool)) (s : Session σ) :
    Nat → Option (Session σ)
  | 0 => some s
  | n + 1 => (s.round p attempt n).bind fun s' => (s'.afterLoss attempt).bind (paused p n)

/-- How attempts with pauses in between end in the round number `n` of `k`,
which begins with the session `s`. -/
inductive Ends (p : RetryPolicy) (attempt : Call (Except StoreError Bool)) (k n : Nat)
    (s : Session σ) : Option (Except StoreError Bool) × Session σ → Prop
  /-- The attempt is not lost, and decides. -/
  | decided {reply : Except StoreError Bool} {s' : Session σ} : attempt.run s = (reply, s') →
      reply ≠ .ok false → Ends p attempt k n s (some reply, s')
  /-- The attempt is lost, and was the last one. -/
  | exhausted {s' : Session σ} : attempt.run s = (.ok false, s') → n + 1 = k →
      Ends p attempt k n s (some (.ok false), s')
  /-- The attempt is lost, and the pause after it would be longer than any
  duration. -/
  | overlong {s' s'' : Session σ} : attempt.run s = (.ok false, s') → n + 1 < k →
      s'.paused p n = none → s''.engine = s'.engine → s''.world.store = s'.world.store →
      s''.world.clock = s'.world.clock → Ends p attempt k n s (none, s'')

variable {p : RetryPolicy} {attempt : Call (Except StoreError Bool)} {s s' s'' : Session σ}
  {n : Nat}

theorem afterLoss_eq_some_iff :
    s.afterLoss attempt = some s' ↔ attempt.run s = (.ok false, s') := by
  unfold afterLoss
  rcases attempt.run s with ⟨_ | _ | _, s₁⟩ <;> simp

theorem round_succ (hround : s.round p attempt n = some s')
    (hlost : attempt.run s' = (.ok false, s'')) :
    s.round p attempt (n + 1) = s''.paused p n := by
  rw [round, hround, Option.bind_some, afterLoss_eq_some_iff.mpr hlost, Option.bind_some]

/-- A round follows on an attempt that was lost. -/
theorem exists_of_round_succ (h : s.round p attempt (n + 1) = some s'') :
    ∃ s₁ s', s.round p attempt n = some s₁ ∧ attempt.run s₁ = (.ok false, s') ∧
      s'.paused p n = some s'' := by
  obtain ⟨s₁, hround, h⟩ := Option.bind_eq_some_iff.mp h
  obtain ⟨s', hlost, hpaused⟩ := Option.bind_eq_some_iff.mp h
  exact ⟨s₁, s', hround, afterLoss_eq_some_iff.mp hlost, hpaused⟩

end Session

namespace Operation

open Call Session

variable {p : RetryPolicy} {attempt : Call (Except StoreError Bool)}
  {rest : Call (Option (Except StoreError Bool))} {s s' : Session σ}

/-- A number is drawn, and the rest goes on from there. The bound is a variable
here: one that is known would be evaluated. -/
theorem run_draw_bind {bound : Nat} {β : Type} (f : Fin (bound + 1) → Call β) :
    (perform (.draw bound) >>= f).run s = (f (s.world.draw bound).1).run
      { s with world := { s.world with draws := s.world.draws.tail } } := by
  rw [run_bind, run_perform, perform_draw]

/-- A pause that the policy has. -/
theorem run_pauseThen_of_paused {n : Nat} (h : s.paused p n = some s') :
    (pauseThen p n rest).run s = rest.run s' := by
  obtain ⟨d, hd, rfl⟩ := Option.map_eq_some_iff.mp h
  rw [pauseThen, run_draw_bind, hd]
  rfl

/-- And one that it does not have. -/
theorem run_pauseThen_of_not_paused {n : Nat} (h : s.paused p n = none) :
    ∃ s', (pauseThen p n rest).run s = (none, s') ∧ s'.engine = s.engine ∧
      s'.world.store = s.world.store ∧ s'.world.clock = s.world.clock := by
  have hd := Option.map_eq_none_iff.mp h
  rw [pauseThen, run_draw_bind, hd]
  exact ⟨_, rfl, rfl, rfl, rfl⟩

theorem run_retryFrom_decided {reply : Except StoreError Bool} (left n : Nat)
    (h : attempt.run s = (reply, s')) (hreply : reply ≠ .ok false) :
    (retryFrom p attempt (left + 1) n).run s = (some reply, s') := by
  rw [retryFrom, run_bind, h]
  rcases reply with err | _ | _
  case error => rfl
  case ok.true => rfl
  case ok.false => exact absurd rfl hreply

theorem run_retryFrom_exhausted (n : Nat) (h : attempt.run s = (.ok false, s')) :
    (retryFrom p attempt 1 n).run s = (some (.ok false), s') := by
  rw [retryFrom, run_bind, h]
  rfl

theorem run_retryFrom_lost (left n : Nat) (h : attempt.run s = (.ok false, s')) :
    (retryFrom p attempt (left + 2) n).run s =
      (pauseThen p n (retryFrom p attempt (left + 1) (n + 1))).run s' := by
  rw [retryFrom, run_bind, h]
  rfl

/-- Induction on the rounds. -/
theorem run_retryFrom_of_round {k n : Nat} (hround : s.round p attempt n = some s') (hn : n < k) :
    (retryFrom p attempt k 0).run s = (retryFrom p attempt (k - n) n).run s' := by
  induction n generalizing s' with
  | zero =>
    obtain rfl := Option.some.inj hround
    rfl
  | succ n ih =>
    obtain ⟨s₁, s₂, hround₁, hlost, hpaused⟩ := exists_of_round_succ hround
    obtain ⟨left, rfl⟩ : ∃ left, k = n + (left + 2) := ⟨k - n - 2, by omega⟩
    have hnow : n + (left + 2) - n = left + 2 := by omega
    have hthen : n + (left + 2) - (n + 1) = left + 1 := by omega
    rw [ih hround₁ (by omega), hnow, hthen, run_retryFrom_lost _ _ hlost,
      run_pauseThen_of_paused hpaused]

/-- **There is a last round.** Induction on the attempts that are left. -/
theorem exists_last_round {k n left : Nat} {s₀ : Session σ} (hleft : n + (left + 1) = k)
    (hround : s₀.round p attempt n = some s) :
    ∃ m < k, ∃ sₘ, s₀.round p attempt m = some sₘ ∧
      Ends p attempt k m sₘ ((retryFrom p attempt (left + 1) n).run s) := by
  induction left generalizing n s with
  | zero =>
    refine ⟨n, by omega, s, hround, ?_⟩
    rcases hattempt : attempt.run s with ⟨reply, s'⟩
    by_cases hreply : reply = .ok false
    · subst hreply
      rw [run_retryFrom_exhausted n hattempt]
      exact .exhausted hattempt hleft
    · rw [run_retryFrom_decided 0 n hattempt hreply]
      exact .decided hattempt hreply
  | succ left ih =>
    rcases hattempt : attempt.run s with ⟨reply, s'⟩
    by_cases hreply : reply = .ok false
    · subst hreply
      rw [run_retryFrom_lost left n hattempt]
      cases hpaused : s'.paused p n with
      | none =>
        obtain ⟨s'', hrun, hengine, hstore, hclock⟩ :=
          run_pauseThen_of_not_paused hpaused
        refine ⟨n, by omega, s, hround, ?_⟩
        rw [hrun]
        exact .overlong hattempt (by omega) hpaused hengine hstore hclock
      | some s'' =>
        rw [run_pauseThen_of_paused hpaused]
        exact ih (by omega) ((round_succ hround hattempt).trans hpaused)
    · refine ⟨n, by omega, s, hround, ?_⟩
      rw [run_retryFrom_decided (left + 1) n hattempt hreply]
      exact .decided hattempt hreply

theorem exists_last_attempt (id : String) (owner : Owner) (seconds : Nat) (p : RetryPolicy)
    (s : Session σ) :
    ∃ m < p.attempts, ∃ sₘ, s.round p (tryToLock id owner seconds) m = some sₘ ∧
      Ends p (tryToLock id owner seconds) p.attempts m sₘ ((lockWithRetry id owner seconds p).run s)
      := by
  have hpos : 0 < p.attempts := Nat.lt_of_lt_of_le Nat.zero_lt_one (Nat.le_max_left ..)
  obtain ⟨left, hleft⟩ := Nat.exists_eq_add_of_lt hpos
  have hattempts : p.attempts = left + 1 := by omega
  rw [lockWithRetry, hattempts]
  exact exists_last_round (by omega) rfl

/-- There is no answer exactly if an attempt that is not the last one is lost, and the
policy has no pause for what is drawn after it. -/
theorem lockWithRetry_eq_none_iff (id : String) (owner : Owner) (seconds : Nat) (p : RetryPolicy)
    (s : Session σ) :
    ((lockWithRetry id owner seconds p).run s).1 = none ↔
      ∃ n sₙ s', n + 1 < p.attempts ∧ s.round p (tryToLock id owner seconds) n = some sₙ ∧
        (tryToLock id owner seconds).run sₙ = (.ok false, s') ∧
        p.delay? n (s'.world.draw (p.jitterBound n)).1 = none := by
  constructor
  · intro hnone
    obtain ⟨n, -, sₙ, hround, hends⟩ := exists_last_attempt id owner seconds p s
    generalize (lockWithRetry id owner seconds p).run s = run at hnone hends
    cases hends with
    | decided | exhausted => cases hnone
    | overlong hlost hnext hpaused =>
      exact ⟨n, sₙ, _, hnext, hround, hlost, Option.map_eq_none_iff.mp hpaused⟩
  · rintro ⟨n, sₙ, s', hnext, hround, hlost, hdelay⟩
    obtain ⟨left, hleft⟩ : ∃ left, p.attempts - n = left + 2 := ⟨p.attempts - n - 2, by omega⟩
    have hpaused : s'.paused p n = none := Option.map_eq_none_iff.mpr hdelay
    obtain ⟨s'', hrun, -⟩ := run_pauseThen_of_not_paused hpaused
    rw [lockWithRetry, run_retryFrom_of_round hround (by omega), hleft,
      run_retryFrom_lost _ _ hlost, hrun]

end Operation

end LeaseStore
