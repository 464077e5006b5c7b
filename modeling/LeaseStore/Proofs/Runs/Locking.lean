/-
LeaseStore.Proofs.Runs.Locking — lock operations that run by themselves.

An attempt to lock or to unlock writes the record back with nothing in
between, so the version it read is still the stored one, and only a failure
can make it lose the write. An attempt that is lost has changed nothing but
for the removal of a record that had expired (`Session.Takes`,
`Session.Frees`). Attempts with pauses in between change nothing before the
last one (`Session.Retries`).
-/
import LeaseStore.Proofs.Calls.Conduct
import LeaseStore.Proofs.Runs.Reading

namespace LeaseStore

variable {σ : Type} {V : View σ} {c : CollectionRef}

namespace Session

/-- The outcomes of looking for a record before its lock is touched. -/
inductive Finds (V : View σ) (c : CollectionRef) (id : String) (fine : Prop) (s s' : Session σ) :
    Except StoreError (Option Record) → Prop
  | found {r : Record} {l : Link σ} : V.look s.world.store c id = some r →
      r.isExpiredAt s.world.clock = false → V.Same s.world.store s'.world.store →
      s'.engine.link = some l → Finds V c id fine s s' (.ok (some r))
  | missing : V.Dead s.world.clock s.world.store c id →
      V.Clears s.world.clock s.world.store s'.world.store →
      Finds V c id fine s s' (.error (.notFound id))
  | failed {err : StoreError} : ¬ fine → V.Same s.world.store s'.world.store →
      Finds V c id fine s s' (.error err)
  | lost : ¬ fine → V.Same s.world.store s'.world.store → Finds V c id fine s s' (.ok none)

/-- The outcomes of an attempt to lock. -/
inductive Takes (V : View σ) (c : CollectionRef) (id : String) (owner : Owner) (seconds : Nat)
    (fine : Prop) (s s' : Session σ) : Except StoreError Bool → Prop
  | taken {r : Record} {token : String} : V.look s.world.store c id = some r →
      r.isExpiredAt s.world.clock = false → r.isLockedByOthersAt owner s.world.clock = false →
      V.Stored s.world.store s'.world.store c
        { (r.touchAt s.world.clock).lockAt owner seconds s.world.clock with token } →
      Takes V c id owner seconds fine s s' (.ok true)
  | contended {r : Record} : V.look s.world.store c id = some r →
      r.isExpiredAt s.world.clock = false → r.isLockedByOthersAt owner s.world.clock = true →
      V.Same s.world.store s'.world.store → Takes V c id owner seconds fine s s' (.ok false)
  | missing : V.Dead s.world.clock s.world.store c id →
      V.Clears s.world.clock s.world.store s'.world.store →
      Takes V c id owner seconds fine s s' (.error (.notFound id))
  | failed {reply : Except StoreError Bool} : ¬ fine → reply ≠ .ok true →
      V.Same s.world.store s'.world.store → Takes V c id owner seconds fine s s' reply

/-- The outcomes of an attempt to unlock. -/
inductive Frees (V : View σ) (c : CollectionRef) (id : String) (owner : Owner) (fine : Prop)
    (s s' : Session σ) : Except StoreError Bool → Prop
  | released {r : Record} {token : String} : V.look s.world.store c id = some r →
      r.isExpiredAt s.world.clock = false → r.isLockedByAt owner s.world.clock = true →
      V.Stored s.world.store s'.world.store c { (r.touchAt s.world.clock).released with token } →
      Frees V c id owner fine s s' (.ok true)
  | idle {r : Record} : V.look s.world.store c id = some r →
      r.isExpiredAt s.world.clock = false → r.isLockedAt s.world.clock = false →
      V.Same s.world.store s'.world.store → Frees V c id owner fine s s' (.ok true)
  | kept {r : Record} : V.look s.world.store c id = some r →
      r.isExpiredAt s.world.clock = false → r.isLockedByOthersAt owner s.world.clock = true →
      V.Same s.world.store s'.world.store → Frees V c id owner fine s s' (.ok false)
  | missing : V.Dead s.world.clock s.world.store c id →
      V.Clears s.world.clock s.world.store s'.world.store →
      Frees V c id owner fine s s' (.error (.notFound id))
  | failed {reply : Except StoreError Bool} : ¬ fine → reply ≠ .ok true →
      V.Same s.world.store s'.world.store → Frees V c id owner fine s s' reply

/-- The outcomes of attempts with pauses in between: the last attempt decides,
or all came to nothing. -/
inductive Retries (V : View σ) (c : CollectionRef) (id : String) (owner : Owner) (seconds : Nat)
    (s s' : Session σ) : Option (Except StoreError Bool) → Prop
  | last {s₁ : Session σ} {reply : Except StoreError Bool} :
      V.Same s.world.store s₁.world.store → s.world.clock ≤ s₁.world.clock →
      s'.world.clock = s₁.world.clock → Takes V c id owner seconds (s₁.Ready V) s₁ s' reply →
      Retries V c id owner seconds s s' (some reply)
  | gaveUp {answer : Option (Except StoreError Bool)} : answer ≠ some (.ok true) →
      V.Same s.world.store s'.world.store → Retries V c id owner seconds s s' answer

variable {s s₁ s' : Session σ} {id : String} {owner : Owner} {seconds : Nat}

/-- To look may come before an attempt, if it has changed nothing. -/
theorem Takes.of_same {fine fine' : Prop} {reply : Except StoreError Bool}
    (hsame : V.Same s.world.store s₁.world.store) (hclock : s₁.world.clock = s.world.clock)
    (hfine : fine → fine') (h : Takes V c id owner seconds fine' s₁ s' reply) :
    Takes V c id owner seconds fine s s' reply := by
  cases h with
  | taken hlook hexp hfree hstored =>
    rw [hsame.look] at hlook
    rw [hclock] at hexp hfree hstored
    exact .taken hlook hexp hfree (.of_same hsame hstored)
  | contended hlook hexp hothers hsame' =>
    rw [hsame.look] at hlook
    rw [hclock] at hexp hothers
    exact .contended hlook hexp hothers (hsame.trans hsame')
  | missing hdead hclears =>
    rw [hclock] at hdead hclears
    exact .missing (fun r hr => hdead r ((hsame.look c id).trans hr))
      ((hsame.clears _).trans hclears)
  | failed hnot hreply hsame' => exact .failed (fun h => hnot (hfine h)) hreply (hsame.trans hsame')

theorem Frees.of_same {fine fine' : Prop} {reply : Except StoreError Bool}
    (hsame : V.Same s.world.store s₁.world.store) (hclock : s₁.world.clock = s.world.clock)
    (hfine : fine → fine') (h : Frees V c id owner fine' s₁ s' reply) :
    Frees V c id owner fine s s' reply := by
  cases h with
  | released hlook hexp hheld hstored =>
    rw [hsame.look] at hlook
    rw [hclock] at hexp hheld hstored
    exact .released hlook hexp hheld (.of_same hsame hstored)
  | idle hlook hexp hidle hsame' =>
    rw [hsame.look] at hlook
    rw [hclock] at hexp hidle
    exact .idle hlook hexp hidle (hsame.trans hsame')
  | kept hlook hexp hothers hsame' =>
    rw [hsame.look] at hlook
    rw [hclock] at hexp hothers
    exact .kept hlook hexp hothers (hsame.trans hsame')
  | missing hdead hclears =>
    rw [hclock] at hdead hclears
    exact .missing (fun r hr => hdead r ((hsame.look c id).trans hr))
      ((hsame.clears _).trans hclears)
  | failed hnot hreply hsame' => exact .failed (fun h => hnot (hfine h)) hreply (hsame.trans hsame')

/-- An attempt that is lost and may be repeated has changed nothing. -/
theorem Takes.same_of_lost {fine : Prop} (h : Takes V c id owner seconds fine s s' (.ok false)) :
    V.Same s.world.store s'.world.store := by
  cases h with
  | contended _ _ _ hsame => exact hsame
  | failed _ _ hsame => exact hsame

/-- Attempts that have changed nothing may come before. -/
theorem Retries.of_same {answer : Option (Except StoreError Bool)}
    (hsame : V.Same s.world.store s₁.world.store) (hclock : s.world.clock ≤ s₁.world.clock)
    (h : Retries V c id owner seconds s₁ s' answer) : Retries V c id owner seconds s s' answer := by
  cases h with
  | last hsame' hclock' hend htakes =>
    exact .last (hsame.trans hsame') (Instant.le_trans hclock hclock') hend htakes
  | gaveUp hanswer hsame' => exact .gaveUp hanswer (hsame.trans hsame')

end Session

namespace Operation

open Call Session

variable {s : Session σ} {l : Link σ}

/-! ## Looking first -/

/-- What a lock operation makes of its read. -/
def forLock : Except StoreError Record → Except StoreError (Option Record)
  | .ok r => .ok (some r)
  | .error (.notFound id) => .error (.notFound id)
  | .error err => if err.isStructural then .error err else .ok none

theorem run_readForLock_eq (id : String) (s : Session σ) :
    (readForLock id).run s = (forLock ((get id).run s).1, ((get id).run s).2) := by
  rw [readForLock, run_bind]
  rcases (get id).run s with ⟨err | r, s'⟩
  · cases err <;> rfl
  · rfl

theorem run_readForLock (h : s.Fit V c) (id : String) :
    ∃ reply s', (readForLock id).run s = (reply, s') ∧ s.Proceeds V c s' ∧
      Finds V c id (s.Ready V) s s' reply := by
  obtain ⟨reply, s', hget, hproceeds, hgets⟩ := run_get h id
  refine ⟨_, _, run_readForLock_eq id s, ?_⟩
  rw [hget]
  refine ⟨hproceeds, ?_⟩
  cases hgets with
  | found hlook hexp hsame hl => exact .found hlook hexp hsame hl
  | missing hdead hclears => exact .missing hdead hclears
  | @failed err hready hsame =>
    cases err with
    | notFound | uninitialized | unknownBackend | config => exact .failed hready hsame
    | conflict | lockedByOther | external => exact .lost hready hsame

/-! ## Writing back -/

/-- What writing back makes of the reply of the store. -/
def wroteBack (id : String) : Except BackendError Record → Call Bool
  | .ok _ => perform (.count .upsert) >>= fun _ => done true
  | .error e => classify id e >>= fun _ => done false

theorem writeBack_eq (r : Record) :
    writeBack r = act (.upsert r (.ofToken r.token)) (wroteBack r.id) := by
  refine congrArg (act (.upsert r (.ofToken r.token))) (funext fun reply => ?_)
  cases reply <;> rfl

theorem run_writeBack_eq (r : Record) (s : Session σ) :
    (writeBack r).run s = (wroteBack r.id (s.perform (.upsert r (.ofToken r.token))).1).run
      (s.perform (.upsert r (.ofToken r.token))).2 := by
  rw [writeBack_eq]
  rfl

/-- What was read is written back unless the store fails. -/
theorem run_writeBack (h : s.Fit V c) (hl : s.engine.link = some l) {r v : Record}
    (hlook : V.look s.world.store c r.id = some v) (htoken : v.token = r.token) :
    ∃ b s', (writeBack r).run s = (b, s') ∧ s.Proceeds V c s' ∧
      ((∃ token, V.Stored s.world.store s'.world.store c { r with token }) ∧ b = true ∨
        ¬ V.Calm s.world.store ∧ V.Same s.world.store s'.world.store ∧ b = false) := by
  obtain ⟨reply, st, heq, hwrites⟩ := h.perform_upsert hl r r.token
  rw [run_writeBack_eq, heq]
  cases hwrites with
  | @stored token _ hstored =>
    have hstore := h.withStore hstored.toPasses
    exact ⟨true, _, rfl, hstore.trans (hstore.fit.count .upsert), .inl ⟨⟨token, hstored⟩, rfl⟩⟩
  | refused hnot hsame =>
    rw [hlook, ← htoken] at hnot
    exact absurd (WriteCondition.meets_ofToken v) hnot
  | failed hcalm hsame =>
    have hstore := h.withStore hsame.toPasses
    refine ⟨false, _, rfl, hstore.trans (hstore.fit.count _), .inr ⟨fun hc => ?_, hsame, rfl⟩⟩
    exact hcalm ⟨hc, (h.link l hl).2.2⟩

/-! ## Attempts to lock -/

/-- What an attempt to lock does with the record it has read. -/
def grab (r : Record) (owner : Owner) (seconds : Nat) : Call (Except StoreError Bool) := do
  let now ← perform .now
  if r.isLockedByOthersAt owner now then
    perform (.count .lockContended)
    return .ok false
  else if ← writeBack ((r.touchAt now).lockAt owner seconds now) then
    perform (.count .lockAcquired)
    return .ok true
  else
    perform (.count .lockFailed)
    return .ok false

/-- Unless another owner holds the lock, the answer is whether the record could
be written back. -/
theorem run_grab_eq (r : Record) (owner : Owner) (seconds : Nat) (s : Session σ) :
    let wrote := (writeBack ((r.touchAt s.world.clock).lockAt owner seconds s.world.clock)).run s
    (grab r owner seconds).run s =
      if r.isLockedByOthersAt owner s.world.clock then (.ok false, s.count .lockContended)
      else (.ok wrote.1, wrote.2.count (if wrote.1 then .lockAcquired else .lockFailed)) := by
  have hrun : (grab r owner seconds).run s =
      Call.run (if r.isLockedByOthersAt owner s.world.clock then
          perform (.count .lockContended) >>= fun _ => done (.ok false)
        else writeBack ((r.touchAt s.world.clock).lockAt owner seconds s.world.clock) >>= fun ok =>
          if ok then perform (.count .lockAcquired) >>= fun _ => done (.ok true)
          else perform (.count .lockFailed) >>= fun _ => done (.ok false)) s := rfl
  intro wrote
  rw [hrun]
  split
  case isTrue => rfl
  case isFalse =>
    rw [run_bind]
    show Call.run (if wrote.1 then _ else _) wrote.2 = _
    cases wrote.1 <;> rfl

theorem run_grab (h : s.Fit V c) (hl : s.engine.link = some l) {id : String} {r : Record}
    (hlook : V.look s.world.store c id = some r) (hexp : r.isExpiredAt s.world.clock = false)
    (owner : Owner) (seconds : Nat) :
    ∃ reply s', (grab r owner seconds).run s = (reply, s') ∧ s.Proceeds V c s' ∧
      Takes V c id owner seconds (V.Calm s.world.store) s s' reply := by
  rw [run_grab_eq]
  split
  case isTrue hothers =>
    exact ⟨_, _, rfl, h.count .lockContended, .contended hlook hexp hothers (.refl _)⟩
  case isFalse hothers =>
    obtain rfl := V.id_of_look h.sound hlook
    obtain ⟨b, s', hwrite, hproceeds, ⟨⟨token, hstored⟩, rfl⟩ | ⟨hcalm, hsame, rfl⟩⟩ :=
      run_writeBack h hl (r := (r.touchAt s.world.clock).lockAt owner seconds s.world.clock)
        hlook rfl
    · rw [hwrite]
      exact ⟨_, _, rfl, hproceeds.trans (hproceeds.fit.count _),
        .taken hlook hexp (Bool.not_eq_true _ ▸ hothers) hstored⟩
    · rw [hwrite]
      exact ⟨_, _, rfl, hproceeds.trans (hproceeds.fit.count _), .failed hcalm (by simp) hsame⟩

theorem tryToLock_eq (id : String) (owner : Owner) (seconds : Nat) :
    tryToLock id owner seconds = readForLock id >>= fun x => match x with
      | .error err => done (.error err)
      | .ok none => perform (.count .lockFailed) >>= fun _ => done (.ok false)
      | .ok (some r) => grab r owner seconds := rfl

/-- **What an attempt to lock comes to.** -/
theorem run_tryToLock (h : s.Fit V c) (id : String) (owner : Owner) (seconds : Nat) :
    ∃ reply s', (tryToLock id owner seconds).run s = (reply, s') ∧ s.Proceeds V c s' ∧
      Takes V c id owner seconds (s.Ready V) s s' reply := by
  obtain ⟨reply, s₁, hread, hproceeds, hfinds⟩ := run_readForLock h id
  rw [tryToLock_eq, run_bind, hread]
  cases hfinds with
  | missing hdead hclears => exact ⟨_, _, rfl, hproceeds, .missing hdead hclears⟩
  | failed hready hsame => exact ⟨_, _, rfl, hproceeds, .failed hready (by simp) hsame⟩
  | lost hready hsame =>
    exact ⟨_, _, rfl, hproceeds.trans (hproceeds.fit.count .lockFailed),
      .failed hready (by simp) hsame⟩
  | found hlook hexp hsame hl =>
    have hlook' := (hsame.look c id).trans hlook
    rw [← hproceeds.clock] at hexp
    obtain ⟨reply, s', hgrab, hproceeds', htakes⟩ :=
      run_grab hproceeds.fit hl hlook' hexp owner seconds
    refine ⟨reply, s', hgrab, hproceeds.trans hproceeds', ?_⟩
    exact htakes.of_same hsame hproceeds.clock fun hready => hsame.calm hready.1

/-! ## Attempts to unlock -/

/-- What an attempt to unlock does with the record it has read. -/
def letGo (r : Record) (owner : Owner) : Call (Except StoreError Bool) := do
  let now ← perform .now
  if !r.isLockedAt now then
    perform (.count .unlock)
    return .ok true
  else release r owner now

theorem tryToUnlock_eq (id : String) (owner : Owner) :
    tryToUnlock id owner = readForLock id >>= fun x => match x with
      | .error err => done (.error err)
      | .ok none => perform (.count .unlockRefused) >>= fun _ => done (.ok false)
      | .ok (some r) => letGo r owner := rfl

/-- A lock that is held is given up by its owner, and by no one else. -/
theorem unlockAt_touchAt {r : Record} {now : Instant} (hlocked : r.isLockedAt now = true)
    (owner : Owner) :
    (r.touchAt now).unlockAt owner now =
      if r.isLockedByAt owner now then .ok (r.touchAt now).released
      else .error (.lockedByOther r.id r.lockOwner) := by
  have htouched : (r.touchAt now).isLockedAt now = true := hlocked
  have howned : (r.touchAt now).isOwnedBy owner = r.isOwnedBy owner := rfl
  simp only [Record.unlockAt, Record.canUnlockAt, Record.isLockedByAt, htouched, howned, hlocked,
    Bool.not_true, Bool.false_eq_true, if_false, Bool.false_or, Bool.true_and]
  rfl

/-- Whoever holds the lock is answered whether the record could be written
back. -/
theorem run_release_eq {r : Record} (s : Session σ) (hlocked : r.isLockedAt s.world.clock = true)
    (owner : Owner) :
    let wrote := (writeBack (r.touchAt s.world.clock).released).run s
    (release r owner s.world.clock).run s =
      if r.isLockedByAt owner s.world.clock then
        (.ok wrote.1, wrote.2.count (if wrote.1 then .unlock else .unlockRefused))
      else (.ok false, s.count .unlockRefused) := by
  intro wrote
  rw [release, unlockAt_touchAt hlocked]
  cases r.isLockedByAt owner s.world.clock with
  | false => rfl
  | true =>
    show Call.run (writeBack (r.touchAt s.world.clock).released >>= _) s = _
    rw [run_bind]
    show Call.run (if wrote.1 then _ else _) wrote.2 = _
    cases wrote.1 <;> rfl

theorem run_release (h : s.Fit V c) (hl : s.engine.link = some l) {id : String} {r : Record}
    (hlook : V.look s.world.store c id = some r) (hexp : r.isExpiredAt s.world.clock = false)
    (hlocked : r.isLockedAt s.world.clock = true) (owner : Owner) :
    ∃ reply s', (release r owner s.world.clock).run s = (reply, s') ∧ s.Proceeds V c s' ∧
      Frees V c id owner (V.Calm s.world.store) s s' reply := by
  rw [run_release_eq s hlocked]
  cases hheld : r.isLockedByAt owner s.world.clock with
  | false =>
    have hothers : r.isLockedByOthersAt owner s.world.clock = true := by
      have hor := r.isLockedAt_eq_or owner s.world.clock
      rwa [hlocked, hheld, Bool.false_or, eq_comm] at hor
    exact ⟨_, _, rfl, h.count .unlockRefused, .kept hlook hexp hothers (.refl _)⟩
  | true =>
    obtain rfl := V.id_of_look h.sound hlook
    obtain ⟨b, s', hwrite, hproceeds, ⟨⟨token, hstored⟩, rfl⟩ | ⟨hcalm, hsame, rfl⟩⟩ :=
      run_writeBack h hl (r := (r.touchAt s.world.clock).released) hlook rfl
    · rw [hwrite]
      exact ⟨_, _, rfl, hproceeds.trans (hproceeds.fit.count _),
        .released hlook hexp hheld hstored⟩
    · rw [hwrite]
      exact ⟨_, _, rfl, hproceeds.trans (hproceeds.fit.count _), .failed hcalm (by simp) hsame⟩

theorem run_letGo_eq (r : Record) (owner : Owner) (s : Session σ) :
    (letGo r owner).run s =
      if r.isLockedAt s.world.clock then (release r owner s.world.clock).run s
      else (.ok true, s.count .unlock) := by
  have hrun : (letGo r owner).run s = Call.run (if !r.isLockedAt s.world.clock then
      perform (.count .unlock) >>= fun _ => done (.ok true)
    else release r owner s.world.clock) s := rfl
  rw [hrun]
  cases r.isLockedAt s.world.clock <;> rfl

theorem run_letGo (h : s.Fit V c) (hl : s.engine.link = some l) {id : String} {r : Record}
    (hlook : V.look s.world.store c id = some r) (hexp : r.isExpiredAt s.world.clock = false)
    (owner : Owner) :
    ∃ reply s', (letGo r owner).run s = (reply, s') ∧ s.Proceeds V c s' ∧
      Frees V c id owner (V.Calm s.world.store) s s' reply := by
  rw [run_letGo_eq]
  cases hlocked : r.isLockedAt s.world.clock with
  | false => exact ⟨_, _, rfl, h.count .unlock, .idle hlook hexp hlocked (.refl _)⟩
  | true => exact run_release h hl hlook hexp hlocked owner

/-- **What an attempt to unlock comes to.** -/
theorem run_tryToUnlock (h : s.Fit V c) (id : String) (owner : Owner) :
    ∃ reply s', (tryToUnlock id owner).run s = (reply, s') ∧ s.Proceeds V c s' ∧
      Frees V c id owner (s.Ready V) s s' reply := by
  obtain ⟨reply, s₁, hread, hproceeds, hfinds⟩ := run_readForLock h id
  rw [tryToUnlock_eq, run_bind, hread]
  cases hfinds with
  | missing hdead hclears => exact ⟨_, _, rfl, hproceeds, .missing hdead hclears⟩
  | failed hready hsame => exact ⟨_, _, rfl, hproceeds, .failed hready (by simp) hsame⟩
  | lost hready hsame =>
    exact ⟨_, _, rfl, hproceeds.trans (hproceeds.fit.count .unlockRefused),
      .failed hready (by simp) hsame⟩
  | found hlook hexp hsame hl =>
    have hlook' := (hsame.look c id).trans hlook
    rw [← hproceeds.clock] at hexp
    obtain ⟨reply, s', hletGo, hproceeds', hfrees⟩ := run_letGo hproceeds.fit hl hlook' hexp owner
    refine ⟨reply, s', hletGo, hproceeds.trans hproceeds', ?_⟩
    exact hfrees.of_same hsame hproceeds.clock fun hready => hsame.calm hready.1

/-! ## Attempts with pauses in between -/

variable {id : String} {owner : Owner} {seconds : Nat}

/-- A pause changes nothing, and then the rest decides. -/
theorem run_pauseThen (h : s.Fit V c) (p : RetryPolicy) (n : Nat)
    {rest : Call (Option (Except StoreError Bool))}
    (hrest : ∀ s₁ : Session σ, s₁.Fit V c → ∃ answer s', rest.run s₁ = (answer, s') ∧
      s₁.Lasts V c s' ∧ Retries V c id owner seconds s₁ s' answer) :
    ∃ answer s', (pauseThen p n rest).run s = (answer, s') ∧ s.Lasts V c s' ∧
      Retries V c id owner seconds s s' answer := by
  obtain ⟨hdraw, hstore⟩ := h.draw (p.jitterBound n)
  -- the reply and the session are named apart: as a pair they would have the bound evaluated
  rw [pauseThen, run_bind, run_perform]
  generalize (s.perform (.draw (p.jitterBound n))).1 = jitter
  generalize (s.perform (.draw (p.jitterBound n))).2 = s₁ at hdraw hstore ⊢
  cases p.delay? n jitter with
  | none =>
    refine ⟨none, s₁, rfl, hdraw, .gaveUp (by simp) ?_⟩
    rw [hstore]
    exact .refl _
  | some d =>
    obtain ⟨hpause, hstore'⟩ := hdraw.fit.pause d
    obtain ⟨answer, s', hrest, hlasts, hretries⟩ := hrest _ hpause.fit
    have hlasts' := hdraw.trans hpause
    refine ⟨answer, s', hrest, hlasts'.trans hlasts, hretries.of_same ?_ hlasts'.clock⟩
    rw [hstore', hstore]
    exact .refl _

/-- Induction on the attempts that are left. -/
theorem run_retryFrom (h : s.Fit V c) (p : RetryPolicy) (id : String) (owner : Owner)
    (seconds left n : Nat) :
    ∃ answer s', (retryFrom p (tryToLock id owner seconds) left n).run s = (answer, s') ∧
      s.Lasts V c s' ∧ Retries V c id owner seconds s s' answer := by
  induction left generalizing s n with
  | zero => exact ⟨_, _, rfl, h.proceeds.lasts, .gaveUp (by simp) (.refl _)⟩
  | succ left ih =>
    obtain ⟨reply, s₁, hattempt, hproceeds, htakes⟩ := run_tryToLock h id owner seconds
    have hlast : Retries V c id owner seconds s s₁ (some reply) :=
      .last (.refl _) (Instant.le_refl _) hproceeds.clock htakes
    rw [retryFrom, run_bind, hattempt]
    match reply with
    | .error err => exact ⟨_, _, rfl, hproceeds.lasts, hlast⟩
    | .ok true => exact ⟨_, _, rfl, hproceeds.lasts, hlast⟩
    | .ok false =>
      dsimp only
      split
      case isTrue => exact ⟨_, _, rfl, hproceeds.lasts, hlast⟩
      case isFalse =>
        obtain ⟨answer, s', hrest, hlasts, hretries⟩ :=
          run_pauseThen hproceeds.fit p n fun s₂ hfit => ih hfit (n + 1)
        refine ⟨answer, s', hrest, hproceeds.lasts.trans hlasts, ?_⟩
        exact hretries.of_same htakes.same_of_lost hproceeds.lasts.clock

/-- **What attempts with pauses in between come to.** -/
theorem run_lockWithRetry (h : s.Fit V c) (id : String) (owner : Owner) (seconds : Nat)
    (p : RetryPolicy) :
    ∃ answer s', (lockWithRetry id owner seconds p).run s = (answer, s') ∧ s.Lasts V c s' ∧
      Retries V c id owner seconds s s' answer :=
  run_retryFrom h p id owner seconds p.attempts 0

end Operation

end LeaseStore
