/-
LeaseStore.Proofs.Runs.Setbacks — what a call makes of a refusal.

A service refuses one of the requests that an action makes, and the action is
replied to accordingly (`Action.Refused`). What becomes of the call is settled
at that action, whatever is replied to it afterwards: so a property of the
tree is proved, of each action with what follows it (`Call.Always`).

A delete that cleans up has nothing to say in the answer: there is one answer,
and the call ends with it whatever becomes of the delete. Any other refusal
tells in the answer, or it costs a lock operation its attempt (`Action.Bears`).

* `Request.bears` — for each request, and each of its actions.
-/
import LeaseStore.Proofs.Runs.Refusal
import LeaseStore.Proofs.Runs.Rounds
import LeaseStore.Proofs.Store.Snags

namespace LeaseStore

variable {α β : Type} {e : ServiceError}

/-! ## Refusals that are told of -/

/-- The failure tells of the refusal: its message ends with that of the refusal,
which lies beneath, and it is transient if the status of the refusal is. -/
def StoreError.Reports (err : StoreError) (e : ServiceError) : Prop :=
  ∃ opening transient,
    err = .external (opening ++ e.message) transient (some (.cause (.service e))) ∧
      (transient = true ↔
        e.status = 408 ∨ e.status = 429 ∨ 500 ≤ e.status ∧ e.status < 600)

theorem StoreError.reports_ofBackend (h : e.Plain) (id : String) :
    (ofBackend id e.toBackendError).Reports e := by
  rw [h.toBackendError]
  refine ⟨"", e.isTransient, ?_, e.isTransient_iff⟩
  rw [String.empty_append]
  rfl

theorem reports_provisioningError (h : e.Plain) (c : CollectionRef) :
    (provisioningError c e.toBackendError).Reports e := by
  rw [h.toBackendError]
  exact ⟨"failed to provision collection " ++ c.render ++ ": ", e.isTransient, rfl,
    e.isTransient_iff⟩

/-- The result is a failure that tells of the refusal. -/
def Tells (e : ServiceError) : Except StoreError α → Prop
  | .error err => err.Reports e
  | .ok _ => False

/-- What an action is replied if request number `n` of those that it makes, from
zero, is refused. -/
def Action.Refused (e : ServiceError) (n : Nat) : (a : Action) → a.Reply → Prop
  | .connect, r => Tells e r
  | .read _, r => Failing e n r
  | .list, r => Failing e n r
  | .create _, r => Failing e n r
  | .upsert _ _, r => Failing e n r
  | .delete _, r => Failing e n r
  | .deleteWave ids, rs => FailingAt ids e n rs
  | .health, r => Failing e n r
  | .now, _ | .count _, _ | .pause _, _ | .draw _, _ => False

/-! ## Actions with what follows them -/

namespace Call

/-- Each action that the call may come to has `P`, with what follows it. -/
def Always (P : (a : Action) → (a.Reply → Call α) → Prop) : Call α → Prop
  | done _ => True
  | act a next => P a next ∧ ∀ r, (next r).Always P

variable {P : (a : Action) → (a.Reply → Call α) → Prop}
  {P' : (a : Action) → (a.Reply → Call β) → Prop} {x : Call α} {f : α → Call β}

/-- Induction on the first call: the second follows on each of its ends. -/
theorem Always.bind (hx : x.Always P)
    (hP : ∀ a next, P a next → P' a fun r => next r >>= f) (hf : ∀ b, (f b).Always P') :
    (x >>= f).Always P' := by
  induction x with
  | done a => exact hf a
  | act a next ih => exact ⟨hP a next hx.1, fun r => ih r (hx.2 r)⟩

/-- However the call goes on, its result is one of which `Q` holds. -/
def EndsWith (Q : α → Prop) (x : Call α) : Prop := x.Yields fun _ res => Q res

variable {Q : α → Prop} {Q' : β → Prop}

theorem EndsWith.bind (hx : x.EndsWith Q) (hf : ∀ a, Q a → (f a).EndsWith Q') :
    (x >>= f).EndsWith Q' :=
  yields_bind hx fun _ a ha => hf a ha

/-- Induction on the call. -/
theorem endsWith_of_forall (h : ∀ a, Q a) (x : Call α) : x.EndsWith Q := by
  induction x with
  | done a => exact h a
  | act a next ih => exact fun r _ => ih r

end Call

open Call

/-- What comes of a refusal at an action. At a delete, there is one result, of
which `M` holds, and the call has it whatever is replied. At another action, `R`
holds of the call that is left. -/
def Action.Bears (e : ServiceError) (R : Call α → Prop) (M : α → Prop) :
    (a : Action) → (a.Reply → Call α) → Prop
  | .delete _, next => ∃ b, M b ∧ ∀ r, (next r).EndsWith (· = b)
  | a, next => ∀ n r, a.Refused e n r → R (next r)

/-- Where request number `n` of an action is refused, `R` holds of the call that
is left. -/
def Action.Heeds (e : ServiceError) (R : Action → Nat → Call α → Prop) (a : Action)
    (next : a.Reply → Call α) : Prop :=
  ∀ n r, a.Refused e n r → R a n (next r)

section Bears

variable {R : Call α → Prop} {R' : Call β → Prop} {M : α → Prop} {M' : β → Prop} {x : Call α}
  {f : α → Call β}

theorem Action.Bears.bind {a : Action} {next : a.Reply → Call α} (h : a.Bears e R M next)
    (hR : ∀ y, R y → R' (y >>= f))
    (hM : ∀ b, M b → ∃ b', M' b' ∧ (f b).EndsWith (· = b')) :
    a.Bears e R' M' fun r => next r >>= f := by
  cases a with
  | delete id =>
    obtain ⟨b, hb, hends⟩ := h
    obtain ⟨b', hb', hends'⟩ := hM b hb
    exact ⟨b', hb', fun r => (hends r).bind fun _ hres => hres ▸ hends'⟩
  | _ => exact fun n r hr => hR _ (h n r hr)

/-- A call that bears refusals, and what is done with its result. -/
theorem Call.Always.bears (hx : x.Always (Action.Bears e R M))
    (hf : ∀ b, (f b).Always (Action.Bears e R' M')) (hR : ∀ y, R y → R' (y >>= f))
    (hM : ∀ b, M b → ∃ b', M' b' ∧ (f b).EndsWith (· = b')) :
    (x >>= f).Always (Action.Bears e R' M') :=
  hx.bind (fun _ _ h => h.bind hR hM) hf

end Bears

namespace Operation

/-- An event is counted, and that is all. -/
theorem bears_count {R : Call α → Prop} {M : α → Prop} {n : Counter} {b : α} :
    (act (.count n) fun _ => done b).Always (Action.Bears e R M) :=
  ⟨fun _ _ hr => hr.elim, fun _ => trivial⟩

/-- The call ends with a failure that tells of the refusal. -/
abbrev Telling (e : ServiceError) : Call (Except StoreError α) → Prop := EndsWith (Tells e)

theorem telling_classify (h : e.Plain) (id : String) :
    Telling e (classify id e.toBackendError >>= fun err =>
      done (.error err : Except StoreError α)) :=
  fun _ _ => StoreError.reports_ofBackend h id

/-! ## Reading -/

theorem bears_purge (id : String) :
    (purge id).Always (Action.Bears e (fun _ => False) fun _ => True) := by
  refine ⟨fun _ _ hr => hr, fun _ => ⟨⟨(), trivial, fun r => ?_⟩, fun r => ?_⟩⟩
  · exact endsWith_of_forall (fun _ => rfl) _
  · match r with
    | .error .notFound => trivial
    | .ok () | .error .alreadyExists | .error .preconditionFailed | .error (.failure ..) =>
      exact ⟨fun _ _ hr => hr, fun _ => trivial⟩

/-- Induction on the ids. -/
theorem bears_purgeAll (ids : List String) :
    (purgeAll ids).Always (Action.Bears e (fun _ => False) fun _ => True) := by
  induction ids with
  | nil => trivial
  | cons id ids ih =>
    exact (bears_purge id).bears (fun _ => ih) (fun _ h => h)
      fun _ _ => ⟨(), trivial, endsWith_of_forall (fun _ => rfl) _⟩

/-- What an operation does once it is connected bears refusals, and to connect is
told of if it is refused. -/
theorem bears_connected {x : Config → Call (Except StoreError α)} {M : Except StoreError α → Prop}
    (hx : ∀ config, (x config).Always (Action.Bears e (Telling e) M)) :
    (connected x).Always (Action.Bears e (Telling e) M) := by
  refine ⟨fun _ r hr => ?_, fun r => ?_⟩
  · match r with
    | .error err => exact hr
  · match r with
    | .error err => trivial
    | .ok config => exact hx config

/-- A cleanup, after which the result is the same whatever has become of it. -/
theorem bears_cleaning {x : Call Unit}
    (hx : x.Always (Action.Bears e (fun _ => False) fun _ => True)) {R : Call α → Prop}
    {M : α → Prop} {b : α} {y : Call α} (hb : M b) (hy : y.Always (Action.Bears e R M))
    (hends : y.EndsWith (· = b)) : (x >>= fun _ => y).Always (Action.Bears e R M) :=
  hx.bears (fun _ => hy) (fun _ h => h.elim) fun _ _ => ⟨b, hb, hends⟩

theorem bears_judge (id : String) (v : Record) :
    (judge id v).Always (Action.Bears e (Telling e) (· = .error (.notFound id))) := by
  refine ⟨fun _ _ hr => hr.elim, fun t => ?_⟩
  show Always _ (if v.isExpiredAt t then _ else _)
  split
  case isTrue =>
    exact bears_cleaning (bears_purge id) rfl bears_count fun _ _ => rfl
  case isFalse => trivial

theorem bears_get (h : e.Plain) (id : String) :
    (get id).Always (Action.Bears e (Telling e) (· = .error (.notFound id))) := by
  refine bears_connected fun config => ⟨fun _ _ hr => hr.elim, fun _ => ?_⟩
  refine ⟨fun _ r hr => ?_, fun r => ?_⟩
  · obtain rfl : r = _ := hr
    exact telling_classify h id
  · match r with
    | .error e' => exact bears_count
    | .ok v => exact bears_judge id v

theorem bears_contains (h : e.Plain) (id : String) :
    (contains id).Always (Action.Bears e (Telling e) (· = .ok false)) := by
  refine (bears_get h id).bears ?_ (fun y hy => EndsWith.bind hy ?_) ?_
  · rintro (err | v)
    · cases err <;> trivial
    · trivial
  · rintro (err | v) herr
    · obtain ⟨opening, transient, rfl, hflag⟩ := herr
      exact ⟨opening, transient, rfl, hflag⟩
    · exact herr.elim
  · rintro _ rfl
    exact ⟨.ok false, rfl, rfl⟩

theorem bears_getAll (h : e.Plain) :
    getAll.Always (Action.Bears e (Telling e) fun _ => True) := by
  refine bears_connected fun config => ⟨fun _ _ hr => hr.elim, fun _ => ?_⟩
  refine ⟨fun _ r hr => ?_, fun r => ?_⟩
  · obtain rfl : r = _ := hr
    exact telling_classify h "*"
  · match r with
    | .error e' => exact bears_count
    | .ok rs =>
      exact ⟨fun _ _ hr => hr.elim, fun t => bears_cleaning (bears_purgeAll _) trivial trivial rfl⟩

/-! ## Writing -/

section Writing

variable {M : Except StoreError Record → Prop}

theorem bears_settle (v : Record) (n : Counter) (reply : Except BackendError Record) :
    (settle v n reply).Always (Action.Bears e (Telling e) M) := by
  cases reply <;> exact bears_count

theorem bears_create (h : e.Plain) (v : Record) :
    (create v).Always (Action.Bears e (Telling e) M) := by
  rw [create_eq]
  refine bears_connected fun config => ⟨fun _ _ hr => hr.elim, fun t => ⟨fun _ r hr => ?_, ?_⟩⟩
  · obtain rfl : r = _ := hr
    exact telling_classify h v.id
  · exact bears_settle v .create

theorem bears_write (h : e.Plain) (v : Record) (w : WriteCondition) :
    (write v w).Always (Action.Bears e (Telling e) M) := by
  rw [write_eq]
  refine bears_connected fun config => ⟨fun _ _ hr => hr.elim, fun t => ⟨fun _ r hr => ?_, ?_⟩⟩
  · obtain rfl : r = _ := hr
    exact telling_classify h v.id
  · exact bears_settle v .upsert

end Writing

/-! ## Asking after the backend -/

theorem bears_healthCheck (h : e.Plain) {M : Except StoreError Unit → Prop} :
    healthCheck.Always (Action.Bears e (Telling e) M) := by
  rw [healthCheck_eq]
  refine bears_connected fun config => ⟨fun _ r hr => ?_, fun _ => trivial⟩
  obtain rfl : r = _ := hr
  show Tells e (reached (.error e.toBackendError))
  have hreports := StoreError.reports_ofBackend h ""
  rw [h.toBackendError] at hreports ⊢
  exact hreports

/-! ## Locking -/

theorem bears_readForLock (h : e.Plain) (id : String) :
    (readForLock id).Always
      (Action.Bears e (EndsWith (· = .ok none)) (· = .error (.notFound id))) := by
  refine (bears_get h id).bears ?_ (fun y hy => EndsWith.bind hy ?_) ?_
  · rintro (err | v)
    · cases err <;> trivial
    · trivial
  · rintro (err | v) herr
    · obtain ⟨opening, transient, rfl, -⟩ := herr
      rfl
    · exact herr.elim
  · rintro _ rfl
    exact ⟨.error (.notFound id), rfl, rfl⟩

theorem bears_writeBack (v : Record) :
    (writeBack v).Always (Action.Bears e (EndsWith (· = false)) fun _ => False) := by
  rw [writeBack_eq]
  refine ⟨fun _ r hr => ?_, fun r => ?_⟩
  · obtain rfl : r = _ := hr
    exact fun _ _ => rfl
  · cases r <;> exact bears_count

/-- A record is written back, and the answer is whether it was. -/
theorem bears_judged {M : Except StoreError Bool → Prop} (v : Record) (won lost : Counter) :
    (writeBack v >>= fun ok =>
        if ok then act (.count won) fun _ => done (Except.ok true)
        else act (.count lost) fun _ => done (.ok false)).Always
      (Action.Bears e (EndsWith (· = .ok false)) M) := by
  refine (bears_writeBack v).bears ?_ (fun y hy => EndsWith.bind hy ?_) fun _ h => h.elim
  · rintro (_ | _) <;> exact bears_count
  · rintro _ rfl
    exact fun _ _ => rfl

section Attempts

variable {M : Except StoreError Bool → Prop}

theorem bears_grab (v : Record) (owner : Owner) (seconds : Nat) :
    (grab v owner seconds).Always (Action.Bears e (EndsWith (· = .ok false)) M) := by
  refine ⟨fun _ _ hr => hr.elim, fun t => ?_⟩
  show Always _ (if v.isLockedByOthersAt owner t then _ else _)
  split
  case isTrue => exact bears_count
  case isFalse => exact bears_judged _ _ _

theorem bears_letGo (v : Record) (owner : Owner) :
    (letGo v owner).Always (Action.Bears e (EndsWith (· = .ok false)) M) := by
  refine ⟨fun _ _ hr => hr.elim, fun t => ?_⟩
  show Always _ (if !v.isLockedAt t then _ else release v owner t)
  split
  case isTrue => exact bears_count
  case isFalse =>
    unfold release
    split
    case h_1 => exact bears_count
    case h_2 => exact bears_judged _ _ _

end Attempts

theorem bears_tryToLock (h : e.Plain) (id : String) (owner : Owner) (seconds : Nat) :
    (tryToLock id owner seconds).Always
      (Action.Bears e (EndsWith (· = .ok false)) (· = .error (.notFound id))) := by
  rw [tryToLock_eq]
  refine (bears_readForLock h id).bears ?_ (fun y hy => EndsWith.bind hy ?_) ?_
  · rintro (err | _ | v)
    · trivial
    · exact bears_count
    · exact bears_grab v owner seconds
  · rintro _ rfl
    exact fun _ _ => rfl
  · rintro _ rfl
    exact ⟨.error (.notFound id), rfl, rfl⟩

theorem bears_tryToUnlock (h : e.Plain) (id : String) (owner : Owner) :
    (tryToUnlock id owner).Always
      (Action.Bears e (EndsWith (· = .ok false)) (· = .error (.notFound id))) := by
  rw [tryToUnlock_eq]
  refine (bears_readForLock h id).bears ?_ (fun y hy => EndsWith.bind hy ?_) ?_
  · rintro (err | _ | v)
    · trivial
    · exact bears_count
    · exact bears_letGo v owner
  · rintro _ rfl
    exact fun _ _ => rfl
  · rintro _ rfl
    exact ⟨.error (.notFound id), rfl, rfl⟩

/-! ## Attempts with pauses in between -/

/-- A number is drawn. The bound is a variable here: one that is known would be
evaluated. -/
theorem bears_draw_bind {bound : Nat} {f : Fin (bound + 1) → Call α} {R : Call α → Prop}
    {M : α → Prop} (hf : ∀ jitter, (f jitter).Always (Action.Bears e R M)) :
    (perform (.draw bound) >>= f).Always (Action.Bears e R M) :=
  ⟨fun _ _ hr => hr.elim, hf⟩

theorem bears_pauseThen {p : RetryPolicy} {n : Nat}
    {R : Call (Option (Except StoreError Bool)) → Prop} {M : Option (Except StoreError Bool) → Prop}
    {rest : Call (Option (Except StoreError Bool))} (hrest : rest.Always (Action.Bears e R M)) :
    (pauseThen p n rest).Always (Action.Bears e R M) := by
  unfold pauseThen
  refine bears_draw_bind fun jitter => ?_
  cases p.delay? n jitter with
  | none => trivial
  | some d => exact ⟨fun _ _ hr => hr.elim, fun _ => hrest⟩

/-- What follows on attempt number `n`, from zero, if `left` more may be made. -/
def goOn (p : RetryPolicy) (attempt : Call (Except StoreError Bool)) (left n : Nat) :
    Except StoreError Bool → Call (Option (Except StoreError Bool))
  | .error err => done (some (.error err))
  | .ok true => done (some (.ok true))
  | .ok false =>
    if left = 0 then done (some (.ok false))
    else pauseThen p n (retryFrom p attempt left (n + 1))

theorem retryFrom_succ (p : RetryPolicy) (attempt : Call (Except StoreError Bool))
    (left n : Nat) : retryFrom p attempt (left + 1) n = attempt >>= goOn p attempt left n := by
  rw [retryFrom]
  refine congrArg (attempt >>= ·) (funext fun res => ?_)
  rcases res with err | _ | _ <;> rfl

/-- One of `k` attempts is under way, and will be lost however it goes on. -/
def Loses (p : RetryPolicy) (attempt : Call (Except StoreError Bool)) (k : Nat)
    (y : Call (Option (Except StoreError Bool))) : Prop :=
  ∃ rest left n, n + left + 1 = k ∧ y = (rest >>= goOn p attempt left n) ∧
    EndsWith (· = .ok false) rest

/-- Induction on the attempts left. -/
theorem bears_retryFrom {p : RetryPolicy} {attempt : Call (Except StoreError Bool)}
    {err : StoreError}
    (h : attempt.Always (Action.Bears e (EndsWith (· = .ok false)) (· = .error err)))
    (left n : Nat) :
    (retryFrom p attempt left n).Always
      (Action.Bears e (Loses p attempt (n + left)) (· = some (.error err))) := by
  induction left generalizing n with
  | zero => trivial
  | succ left ih =>
    rw [retryFrom_succ]
    refine h.bears ?_ (fun y hy => ⟨y, left, n, rfl, rfl, hy⟩) ?_
    · rintro (err' | _ | _)
      · trivial
      · show Always _ (if left = 0 then _ else pauseThen p n _)
        split
        case isTrue => trivial
        case isFalse =>
          have hrest := ih (n + 1)
          rw [Nat.add_right_comm] at hrest
          exact bears_pauseThen hrest
      · trivial
    · rintro _ rfl
      exact ⟨some (.error err), rfl, rfl⟩

/-! ## Deleting -/

/-- Nothing is asked of the store, and what follows heeds refusals. -/
theorem heeds_quiet {x : Call α} {f : α → Call β} {R : Action → Nat → Call β → Prop}
    (hx : x.Always (Action.Heeds e fun _ _ _ => False))
    (hf : ∀ b, (f b).Always (Action.Heeds e R)) : (x >>= f).Always (Action.Heeds e R) :=
  hx.bind (fun _ _ h n r hr => (h n r hr).elim) hf

theorem heeds_connected {R : Action → Nat → Call (Except StoreError α) → Prop}
    {x : Config → Call (Except StoreError α)} (hR : ∀ n y, Telling e y → R .connect n y)
    (hx : ∀ config, (x config).Always (Action.Heeds e R)) :
    (connected x).Always (Action.Heeds e R) := by
  refine ⟨fun n r hr => hR n _ ?_, fun r => ?_⟩
  · match r with
    | .error err => exact hr
  · match r with
    | .error err => trivial
    | .ok config => exact hx config

/-- The outcome of a direct delete asks nothing of the store. -/
theorem quiet_deleted (id : String) (reply : Except BackendError Unit)
    {R : Action → Nat → Call (Except StoreError Unit) → Prop} :
    (deleted id reply).Always (Action.Heeds e R) := by
  match reply with
  | .ok () | .error .notFound => trivial
  | .error .alreadyExists | .error .preconditionFailed | .error (.failure ..) =>
    exact ⟨fun _ _ hr => hr.elim, fun _ => trivial⟩

/-- A delete that is refused is a failure that tells of it. -/
theorem telling_deleted (h : e.Plain) (id : String) :
    Telling e (deleted id (.error e.toBackendError)) := by
  have htelling := telling_classify (α := Unit) h id
  rw [h.toBackendError] at htelling ⊢
  exact htelling

theorem heeds_delete (h : e.Plain) (id : String) :
    (delete id).Always (Action.Heeds e fun _ _ => Telling e) := by
  rw [delete_eq]
  refine heeds_connected (fun _ _ hy => hy) fun config => ⟨fun _ _ hr => hr.elim, fun _ => ?_⟩
  refine ⟨fun _ r hr => ?_, fun r => quiet_deleted id r⟩
  obtain rfl : r = _ := hr
  exact telling_deleted h id

/-! ## Bulk deletes -/

/-- The failure entry of the id number `n` of these tells of the refusal. -/
def BulkDelete.Enters (e : ServiceError) (ids : List String) (n : Nat) (b : BulkDelete) : Prop :=
  ∃ id err, ids[n]? = some id ∧ (id, err) ∈ b.failures ∧ err.Reports e

theorem quiet_countTimes (c : Counter) (n : Nat) :
    (countTimes c n).Always (Action.Heeds e fun _ _ _ => False) := by
  induction n with
  | zero => trivial
  | succ n ih => exact ⟨fun _ _ hr => hr.elim, fun _ => ih⟩

/-- Induction on the outcomes. -/
theorem quiet_tally (report : BulkDelete) (outcomes : List (String × Except BackendError Unit)) :
    (tally report outcomes).Always (Action.Heeds e fun _ _ _ => False) := by
  induction outcomes generalizing report with
  | nil => trivial
  | cons outcome rest ih =>
    refine heeds_quiet (quiet_deleted outcome.1 outcome.2) fun res => ?_
    cases res <;> exact ih _

/-- Each refusal among the outcomes is entered, and no entry is lost. Induction
on the outcomes. -/
theorem endsWith_tally (h : e.Plain) (report : BulkDelete)
    (outcomes : List (String × Except BackendError Unit)) :
    (tally report outcomes).EndsWith fun b => report.failures ⊆ b.failures ∧
      ∀ id, (id, .error e.toBackendError) ∈ outcomes →
        ∃ err, (id, err) ∈ b.failures ∧ err.Reports e := by
  induction outcomes generalizing report with
  | nil => exact ⟨fun _ hmem => hmem, fun id hmem => (nomatch hmem)⟩
  | cons outcome rest ih =>
    obtain ⟨id, reply⟩ := outcome
    have hdeleted : (deleted id reply).EndsWith fun res =>
        reply = .error e.toBackendError → Tells e res := by
      by_cases hreply : reply = .error e.toBackendError
      · subst hreply
        exact (telling_deleted h id).mono fun _ _ hres _ => hres
      · exact endsWith_of_forall (fun _ heq => absurd heq hreply) _
    refine EndsWith.bind hdeleted ?_
    rintro (err | _) htells
    · refine (ih _).mono fun _ b hb => ?_
      obtain ⟨hkept, hentered⟩ := hb
      refine ⟨fun x hx => hkept (List.mem_append_left _ hx), fun id' hmem => ?_⟩
      obtain heq | hmem := List.mem_cons.1 hmem
      · obtain ⟨rfl, rfl⟩ := Prod.mk.inj heq
        exact ⟨err, hkept (List.mem_append_right _ (List.mem_singleton_self _)), htells rfl⟩
      · exact hentered id' hmem
    · refine (ih _).mono fun _ b hb => ?_
      obtain ⟨hkept, hentered⟩ := hb
      refine ⟨hkept, fun id' hmem => ?_⟩
      obtain heq | hmem := List.mem_cons.1 hmem
      · obtain ⟨rfl, rfl⟩ := Prod.mk.inj heq
        exact (htells rfl).elim
      · exact hentered id' hmem

/-- No entry is lost by the waves that follow. Induction on them. -/
theorem endsWith_deleteWaves (h : e.Plain) (report : BulkDelete) (waves : List (List String)) :
    (deleteWaves report waves).EndsWith fun b => report.failures ⊆ b.failures := by
  induction waves generalizing report with
  | nil => exact fun _ hmem => hmem
  | cons ids rest ih =>
    refine EndsWith.bind (endsWith_of_forall (fun _ => trivial) (countTimes .delete ids.length))
      fun _ _ outcomes _ => ?_
    show EndsWith _ (tally report (ids.zip outcomes) >>= fun report => deleteWaves report rest)
    refine EndsWith.bind (endsWith_tally h report (ids.zip outcomes)) fun report' hreport' => ?_
    exact (ih report').mono fun _ _ hkept => List.Subset.trans hreport'.1 hkept

/-- What is left of a bulk delete of which a request is refused: a delete of a
wave is entered, and anything else ends it. -/
def BulkDelete.Suffers (e : ServiceError) :
    Action → Nat → Call (Except StoreError BulkDelete) → Prop
  | .deleteWave ids, n => EndsWith fun res => ∃ b, res = .ok b ∧ b.Enters e ids n
  | _, _ => Telling e

/-- Induction on the waves. -/
theorem heeds_deleteWaves (h : e.Plain) (report : BulkDelete) (waves : List (List String)) :
    (deleteWaves report waves >>= fun b => done (Except.ok b)).Always
      (Action.Heeds e (BulkDelete.Suffers e)) := by
  induction waves generalizing report with
  | nil => trivial
  | cons ids rest ih =>
    rw [deleteWaves, bind_assoc]
    refine heeds_quiet (quiet_countTimes _ _) fun _ => ⟨fun n rs hrs => ?_, fun rs => ?_⟩
    · obtain ⟨⟨id, hid⟩, hrefused⟩ := hrs
      have hmem : (id, .error e.toBackendError) ∈ ids.zip rs :=
        List.mem_of_getElem? (List.getElem?_zip_eq_some.2 ⟨hid, hrefused⟩)
      show EndsWith _ ((tally report (ids.zip rs) >>= fun report => deleteWaves report rest) >>=
        fun b => done (Except.ok b))
      rw [bind_assoc]
      refine EndsWith.bind (endsWith_tally h report (ids.zip rs)) fun report' hreport' => ?_
      obtain ⟨err, hentry, hreports⟩ := hreport'.2 id hmem
      exact (endsWith_deleteWaves h report' rest).bind fun b hkept =>
        ⟨b, rfl, id, err, hid, hkept hentry, hreports⟩
    · show Always _ ((tally report (ids.zip rs) >>= fun report => deleteWaves report rest) >>=
        fun b => done (Except.ok b))
      rw [bind_assoc]
      exact heeds_quiet (quiet_tally report (ids.zip rs)) ih

theorem heeds_deleteMany (h : e.Plain) (ids : List String) :
    (deleteMany ids).Always (Action.Heeds e (BulkDelete.Suffers e)) :=
  heeds_connected (fun _ _ hy => hy) fun config =>
    heeds_deleteWaves h _ (waves config.maxPending ids)

end Operation

/-! ## Requests -/

open Operation

/-- The action is a delete that the request did not ask for. -/
def Request.CleansUp (q : Request) (a : Action) : Prop := q.deletes = false ∧ ∃ id, a = .delete id

/-- The answer is a failure that tells of the refusal. -/
def Answer.Tells (e : ServiceError) (answer : Answer) : Prop :=
  ∃ err, answer.error? = some err ∧ err.Reports e

/-- What is left of a request of which request number `n` of those that an action
makes is refused, unless the action cleans up. -/
def Request.Suffers (e : ServiceError) (q : Request) (a : Action) (n : Nat) (y : Call Answer) :
    Prop :=
  match q with
  | tryToLock _ _ _ | tryToUnlock _ _ => y.EndsWith (· = .truth (.ok false))
  | lockWithRetry id owner seconds p =>
    ∃ rest, Loses p (Operation.tryToLock id owner seconds) p.attempts rest ∧
      y = rest >>= fun answer => done (.retried answer)
  | deleteMany _ =>
    match a with
    | .deleteWave ids =>
      y.EndsWith fun answer => ∃ b : BulkDelete, answer = .report (.ok b) ∧ b.Enters e ids n
    | _ => y.EndsWith (Answer.Tells e)
  | _ => y.EndsWith (Answer.Tells e)

/-- What comes of a refusal at an action of a request. -/
def Request.Bears (e : ServiceError) (q : Request) (a : Action) (next : a.Reply → Call Answer) :
    Prop :=
  (q.CleansUp a → ∃ answer, ∀ r, (next r).EndsWith (· = answer)) ∧
    (¬ q.CleansUp a → a.Heeds e (q.Suffers e) next)

section Wrapped

variable {q : Request} {x : Call α} {f : α → Answer}

/-- A request that deletes only to clean up. -/
theorem Request.bears_of_bears {R : Call α → Prop} {M : α → Prop} (hq : q.deletes = false)
    (hx : x.Always (Action.Bears e R M))
    (hR : ∀ a n y, R y → q.Suffers e a n (y >>= fun b => done (f b))) :
    (x >>= fun b => done (f b)).Always (q.Bears e) := by
  refine hx.bind (fun a next hbears => ?_) fun _ => trivial
  cases a with
  | delete id =>
    obtain ⟨b, -, hends⟩ := hbears
    exact ⟨fun _ => ⟨f b, fun r => (hends r).bind fun _ hres => congrArg f hres⟩,
      fun hnot => absurd ⟨hq, id, rfl⟩ hnot⟩
  | _ => exact ⟨fun hcleans => (nomatch hcleans.2), fun _ n r hr => hR _ n _ (hbears n r hr)⟩

/-- A request that deletes what it is asked to. -/
theorem Request.bears_of_heeds {R : Action → Nat → Call α → Prop} (hq : q.deletes = true)
    (hx : x.Always (Action.Heeds e R))
    (hR : ∀ a n y, R a n y → q.Suffers e a n (y >>= fun b => done (f b))) :
    (x >>= fun b => done (f b)).Always (q.Bears e) := by
  refine hx.bind (fun a next hheeds => ⟨fun hcleans => ?_, fun _ n r hr => ?_⟩) fun _ => trivial
  · exact absurd (hq.symm.trans hcleans.1) (by decide)
  · exact hR a n _ (hheeds n r hr)

end Wrapped

/-- A failure that tells of the refusal is passed on. -/
theorem Call.EndsWith.answer {y : Call (Except StoreError α)} (hy : Telling e y)
    (f : Except StoreError α → Answer) (hf : ∀ err, (f (.error err)).error? = some err) :
    (y >>= fun res => done (f res)).EndsWith (Answer.Tells e) := by
  refine hy.bind ?_
  rintro (err | _) htells
  · exact ⟨err, hf err, htells⟩
  · exact htells.elim

/-- **What becomes of a request that is refused something**, at each of its
actions. -/
theorem Request.bears (h : e.Plain) (q : Request) : q.call.Always (q.Bears e) := by
  -- most requests pass on the failure of the call that they wrap
  have hpassed {α : Type} {q : Request} {x : Call (Except StoreError α)}
      {M : Except StoreError α → Prop} (f : Except StoreError α → Answer) (hq : q.deletes = false)
      (hf : ∀ err, (f (.error err)).error? = some err)
      (hx : x.Always (Action.Bears e (Telling e) M))
      (hsuffers : ∀ a n y, y.EndsWith (Answer.Tells e) → q.Suffers e a n y) :
      (x >>= fun res => done (f res)).Always (q.Bears e) :=
    bears_of_bears hq hx fun a n y hy => hsuffers a n _ (hy.answer f hf)
  cases q with
  | get id => exact hpassed .record rfl (fun _ => rfl) (bears_get h id) fun _ _ _ hy => hy
  | contains id => exact hpassed .truth rfl (fun _ => rfl) (bears_contains h id) fun _ _ _ hy => hy
  | getAll => exact hpassed .records rfl (fun _ => rfl) (bears_getAll h) fun _ _ _ hy => hy
  | create v =>
    exact hpassed (M := fun _ => True) .record rfl (fun _ => rfl) (bears_create h v)
      fun _ _ _ hy => hy
  | upsert v | upsertWithToken v token =>
    exact hpassed (M := fun _ => True) .record rfl (fun _ => rfl) (bears_write h v _)
      fun _ _ _ hy => hy
  | healthCheck =>
    exact hpassed (M := fun _ => True) .unit rfl (fun _ => rfl) (bears_healthCheck h)
      fun _ _ _ hy => hy
  | delete id =>
    exact bears_of_heeds rfl (heeds_delete h id) fun _ _ _ hy => hy.answer .unit fun _ => rfl
  | deleteMany ids =>
    refine bears_of_heeds rfl (heeds_deleteMany h ids) fun a n y hy => ?_
    cases a with
    | deleteWave ids =>
      refine EndsWith.bind hy ?_
      rintro _ ⟨b, rfl, hentered⟩
      exact ⟨b, rfl, hentered⟩
    | _ => exact EndsWith.answer hy .report fun _ => rfl
  | tryToLock id owner seconds =>
    exact bears_of_bears rfl (bears_tryToLock h id owner seconds)
      fun _ _ _ hy => hy.bind fun _ hres => congrArg Answer.truth hres
  | tryToUnlock id owner =>
    exact bears_of_bears rfl (bears_tryToUnlock h id owner)
      fun _ _ _ hy => hy.bind fun _ hres => congrArg Answer.truth hres
  | lockWithRetry id owner seconds p =>
    have hretry := bears_retryFrom (bears_tryToLock h id owner seconds) (p := p) p.attempts 0
    rw [Nat.zero_add] at hretry
    exact bears_of_bears rfl hretry fun _ _ y hy => ⟨y, hy, rfl⟩

end LeaseStore
