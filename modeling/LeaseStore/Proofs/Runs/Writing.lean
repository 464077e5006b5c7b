/-
LeaseStore.Proofs.Runs.Writing — writes and deletes that run by themselves.

A write stores the record as of the reading of the clock, under a token of
its own, or it leaves every record as it was (`Session.Puts`). A delete
removes the record or leaves everything (`Session.Discards`), and a bulk of
deletes can only make the store thinner.
-/
import LeaseStore.Operation.Write
import LeaseStore.Proofs.Runs.Reading

namespace LeaseStore

variable {σ : Type} {V : View σ} {c : CollectionRef}

namespace Session

/-- The outcomes of a write of `r` that is let through on a condition. -/
inductive Puts (V : View σ) (c : CollectionRef) (r : Record) (admitted fine : Prop)
    (s s' : Session σ) : Except StoreError Record → Prop
  | stored {token : String} : admitted →
      V.Stored s.world.store s'.world.store c { r.touchAt s.world.clock with token } →
      Puts V c r admitted fine s s' (.ok { r.touchAt s.world.clock with token })
  | refused : ¬ admitted → V.Same s.world.store s'.world.store →
      Puts V c r admitted fine s s' (.error (.conflict r.id))
  | failed {err : StoreError} : ¬ fine → V.Same s.world.store s'.world.store →
      Puts V c r admitted fine s s' (.error err)

/-- The outcomes of a delete. -/
inductive Discards (V : View σ) (c : CollectionRef) (id : String) (s s' : Session σ) :
    Except StoreError Unit → Prop
  | removed : V.look s.world.store c id ≠ none →
      V.Removed s.world.store s'.world.store c id → Discards V c id s s' (.ok ())
  | kept {reply : Except StoreError Unit} : V.Same s.world.store s'.world.store →
      Discards V c id s s' reply

variable {s s₁ s' : Session σ} {id : String} {r : Record} {admitted admitted' fine fine' : Prop}

/-- To connect may come before a write. -/
theorem Puts.of_same {reply : Except StoreError Record}
    (hsame : V.Same s.world.store s₁.world.store) (hclock : s₁.world.clock = s.world.clock)
    (hadmitted : admitted' ↔ admitted) (hfine : fine → fine')
    (h : Puts V c r admitted' fine' s₁ s' reply) :
    Puts V c r admitted fine s s' reply := by
  cases h with
  | stored hadm hstored =>
    rw [hclock] at hstored ⊢
    exact .stored (hadmitted.1 hadm) (.of_same hsame hstored)
  | refused hnot hsame' => exact .refused (fun h => hnot (hadmitted.2 h)) (hsame.trans hsame')
  | failed hnot hsame' => exact .failed (fun h => hnot (hfine h)) (hsame.trans hsame')

theorem Discards.of_same {reply : Except StoreError Unit}
    (hsame : V.Same s.world.store s₁.world.store) (h : Discards V c id s₁ s' reply) :
    Discards V c id s s' reply := by
  cases h with
  | removed hlook hremoved =>
    exact .removed (fun hnone => hlook ((hsame.look c id).trans hnone)) (.of_same hsame hremoved)
  | kept hsame' => exact .kept (hsame.trans hsame')

end Session

namespace Operation

open Call Session

variable {s : Session σ} {l : Link σ}

/-! ## Storing -/

/-- What comes of a write once the store has replied. -/
def settle (r : Record) (n : Counter) :
    Except BackendError Record → Call (Except StoreError Record)
  | .error e => do return .error (← classify r.id e)
  | .ok stored => do
    perform (.count n)
    return .ok stored

/-- What a create does once it is connected. -/
def insert (r : Record) : Call (Except StoreError Record) := do
  let now ← perform .now
  settle r .create (← perform (.create (r.touchAt now)))

/-- What a conditional write does once it is connected. -/
def replace (r : Record) (w : WriteCondition) : Call (Except StoreError Record) := do
  let now ← perform .now
  settle r .upsert (← perform (.upsert (r.touchAt now) w))

theorem create_eq (r : Record) : create r = connected fun _ => insert r := by
  refine congrArg (act .connect) (funext fun x => ?_)
  cases x with
  | error err => rfl
  | ok config =>
    refine congrArg (act .now) (funext fun now => ?_)
    refine congrArg (act (.create (r.touchAt now))) (funext fun reply => ?_)
    cases reply <;> rfl

theorem write_eq (r : Record) (w : WriteCondition) :
    write r w = connected fun _ => replace r w := by
  refine congrArg (act .connect) (funext fun x => ?_)
  cases x with
  | error err => rfl
  | ok config =>
    refine congrArg (act .now) (funext fun now => ?_)
    refine congrArg (act (.upsert (r.touchAt now) w)) (funext fun reply => ?_)
    cases reply <;> rfl

theorem run_settle (h : s.Fit V c) (hl : s.engine.link = some l) {r : Record} (n : Counter)
    {admitted : Prop} {refusal : BackendError}
    (hrefusal : StoreError.ofBackend r.id refusal = .conflict r.id)
    {reply : Except BackendError Record} {st : σ}
    (hwrites : V.Writes s.world.store st c (r.touchAt s.world.clock) admitted refusal reply) :
    ∃ reply' s', (settle r n reply).run (s.withStore st) = (reply', s') ∧ s.Proceeds V c s' ∧
      Puts V c r admitted (V.Calm s.world.store) s s' reply' := by
  cases hwrites with
  | stored hadm hstored =>
    have hstore := h.withStore hstored.toPasses
    exact ⟨_, _, rfl, hstore.trans (hstore.fit.count n), .stored hadm hstored⟩
  | refused hadm hsame =>
    have hstore := h.withStore hsame.toPasses
    refine ⟨.error (.conflict r.id), _, ?_, hstore.trans (hstore.fit.count .conflict),
      .refused hadm hsame⟩
    show (Except.error (StoreError.ofBackend r.id refusal), (s.withStore st).count
      (counterOf (StoreError.ofBackend r.id refusal))) = _
    rw [hrefusal]
    rfl
  | failed hcalm hsame =>
    have hstore := h.withStore hsame.toPasses
    refine ⟨_, _, rfl, hstore.trans (hstore.fit.count _), .failed (fun hc => hcalm ⟨hc, ?_⟩) hsame⟩
    exact (h.link l hl).2.2

theorem run_insert (h : s.Fit V c) (hl : s.engine.link = some l) (r : Record) :
    ∃ reply s', (insert r).run s = (reply, s') ∧ s.Proceeds V c s' ∧
      Puts V c r (V.look s.world.store c r.id = none) (V.Calm s.world.store) s s' reply := by
  obtain ⟨reply, st, heq, hwrites⟩ := h.perform_create hl (r.touchAt s.world.clock)
  have hrun : (insert r).run s =
      (settle r .create (s.perform (.create (r.touchAt s.world.clock))).1).run
        (s.perform (.create (r.touchAt s.world.clock))).2 := rfl
  rw [hrun, heq]
  exact run_settle h hl .create rfl hwrites

theorem run_replace (h : s.Fit V c) (hl : s.engine.link = some l) (r : Record) (token : String) :
    ∃ reply s', (replace r (.ofToken token)).run s = (reply, s') ∧ s.Proceeds V c s' ∧
      Puts V c r ((WriteCondition.ofToken token).Meets (V.look s.world.store c r.id))
        (V.Calm s.world.store) s s' reply := by
  obtain ⟨reply, st, heq, hwrites⟩ := h.perform_upsert hl (r.touchAt s.world.clock) token
  have hrun : (replace r (.ofToken token)).run s =
      (settle r .upsert (s.perform (.upsert (r.touchAt s.world.clock) (.ofToken token))).1).run
        (s.perform (.upsert (r.touchAt s.world.clock) (.ofToken token))).2 := rfl
  rw [hrun, heq]
  exact run_settle h hl .upsert rfl hwrites

/-- **What a create comes to.** -/
theorem run_create (h : s.Fit V c) (r : Record) :
    ∃ reply s', (create r).run s = (reply, s') ∧ s.Proceeds V c s' ∧
      Puts V c r (V.look s.world.store c r.id = none) (s.Ready V) s s' reply := by
  rw [create_eq]
  obtain ⟨hsame, hproceeds, ⟨err, -, hready, hrun⟩ | ⟨config, l, -, -, hl, hrun⟩⟩ :=
    run_connected h fun _ => insert r
  · exact ⟨_, _, hrun, hproceeds, .failed hready hsame⟩
  · obtain ⟨reply, s', hinsert, hproceeds', hputs⟩ := run_insert hproceeds.fit hl r
    refine ⟨reply, s', hrun.trans hinsert, hproceeds.trans hproceeds', ?_⟩
    exact hputs.of_same hsame hproceeds.clock (by rw [hsame.look]) fun hready => hsame.calm hready.1

/-- **What a conditional write comes to.** -/
theorem run_write (h : s.Fit V c) (r : Record) (token : String) :
    ∃ reply s', (write r (.ofToken token)).run s = (reply, s') ∧ s.Proceeds V c s' ∧
      Puts V c r ((WriteCondition.ofToken token).Meets (V.look s.world.store c r.id))
        (s.Ready V) s s' reply := by
  rw [write_eq]
  obtain ⟨hsame, hproceeds, ⟨err, -, hready, hrun⟩ | ⟨config, l, -, -, hl, hrun⟩⟩ :=
    run_connected h fun _ => replace r (.ofToken token)
  · exact ⟨_, _, hrun, hproceeds, .failed hready hsame⟩
  · obtain ⟨reply, s', hreplace, hproceeds', hputs⟩ := run_replace hproceeds.fit hl r token
    refine ⟨reply, s', hrun.trans hreplace, hproceeds.trans hproceeds', ?_⟩
    exact hputs.of_same hsame hproceeds.clock (by rw [hsame.look]) fun hready => hsame.calm hready.1

/-! ## Deleting -/

/-- What a delete does once it is connected. -/
def remove (id : String) : Call (Except StoreError Unit) := do
  perform (.count .delete)
  deleted id (← perform (.delete id))

theorem delete_eq (id : String) : delete id = connected fun _ => remove id := rfl

/-- The outcome of a direct delete counts at most one event. -/
theorem run_deleted (h : s.Fit V c) (id : String) (r : Except BackendError Unit) :
    ∃ reply s', (deleted id r).run s = (reply, s') ∧ s.Proceeds V c s' ∧
      s'.world.store = s.world.store := by
  match r with
  | .ok () | .error .notFound => exact ⟨_, _, rfl, h.proceeds, rfl⟩
  | .error .alreadyExists | .error .preconditionFailed | .error (.failure ..) =>
    exact ⟨_, _, rfl, h.count _, rfl⟩

theorem run_remove (h : s.Fit V c) (hl : s.engine.link = some l) (id : String) :
    ∃ reply s', (remove id).run s = (reply, s') ∧ s.Proceeds V c s' ∧
      Discards V c id s s' reply := by
  have hcount := h.count .delete
  obtain ⟨r, st, heq, hdrops⟩ := hcount.fit.perform_delete hl id
  have hstore := hcount.trans (hcount.fit.withStore hdrops.passes)
  have hrun : (remove id).run s =
      (deleted id ((s.count .delete).perform (.delete id)).1).run
        ((s.count .delete).perform (.delete id)).2 := rfl
  rw [hrun, heq]
  cases hdrops with
  | removed hlook hremoved =>
    exact ⟨_, _, rfl, hstore, .removed hlook hremoved⟩
  | kept hsame =>
    obtain ⟨reply, s', hdeleted, hproceeds, hst⟩ := run_deleted hstore.fit id (.error _)
    refine ⟨reply, s', hdeleted, hstore.trans hproceeds, .kept ?_⟩
    rw [hst]
    exact hsame

/-- **What a delete comes to.** -/
theorem run_delete (h : s.Fit V c) (id : String) :
    ∃ reply s', (delete id).run s = (reply, s') ∧ s.Proceeds V c s' ∧
      Discards V c id s s' reply := by
  rw [delete_eq]
  obtain ⟨hsame, hproceeds, ⟨err, -, hready, hrun⟩ | ⟨config, l, -, -, hl, hrun⟩⟩ :=
    run_connected h fun _ => remove id
  · exact ⟨_, _, hrun, hproceeds, .kept hsame⟩
  · obtain ⟨reply, s', hremove, hproceeds', hdiscards⟩ := run_remove hproceeds.fit hl id
    exact ⟨reply, s', hrun.trans hremove, hproceeds.trans hproceeds', hdiscards.of_same hsame⟩

/-! ## Asking after the backend -/

/-- What a health check makes of the backend's answer. -/
def reached : Except BackendError Unit → Except StoreError Unit
  | .ok () => .ok ()
  | .error (.failure message transient cause) =>
    .error (.ofBackend "" (.failure message transient cause))
  | .error e => .error (.external "health check failed" false (some (.backend e)))

/-- What a health check does once it is connected. -/
def check : Call (Except StoreError Unit) := do
  return reached (← perform .health)

theorem healthCheck_eq : healthCheck = connected fun _ => check := by
  refine congrArg (act .connect) (funext fun x => ?_)
  cases x with
  | error err => rfl
  | ok config =>
    refine congrArg (act .health) (funext fun reply => ?_)
    match reply with
    | .ok () | .error (.failure ..) => rfl
    | .error .notFound | .error .alreadyExists | .error .preconditionFailed => rfl

/-- A health check touches no record. -/
theorem run_healthCheck (h : s.Fit V c) :
    ∃ reply s', healthCheck.run s = (reply, s') ∧ s.Proceeds V c s' ∧
      V.Same s.world.store s'.world.store := by
  rw [healthCheck_eq]
  obtain ⟨hsame, hproceeds, ⟨err, -, -, hrun⟩ | ⟨config, l, -, -, hl, hrun⟩⟩ :=
    run_connected h fun _ => check
  · exact ⟨_, _, hrun, hproceeds, hsame⟩
  · obtain ⟨reply, st, heq, hanswers⟩ := hproceeds.fit.perform_health hl
    have hstore := hproceeds.fit.withStore hanswers.same.toPasses
    have hcheck : check.run s.connect.2 = (reached reply, s.connect.2.withStore st) := by
      show (reached (s.connect.2.perform .health).1, (s.connect.2.perform .health).2) = _
      rw [heq]
    exact ⟨_, _, hrun.trans hcheck, hproceeds.trans hstore, hsame.trans hanswers.same⟩

end Operation

end LeaseStore
