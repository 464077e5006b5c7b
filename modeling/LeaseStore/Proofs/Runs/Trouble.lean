/-
LeaseStore.Proofs.Runs.Trouble — what the lock operations make of trouble.

A connector, a read, a cleanup and a write can fail in many ways, and a lock
operation tells its caller of two of them. Which ones is settled by the
exchanges of the call alone (`Narrows`): that there is no record, exactly if a
read said so or showed an expired one, and a failure that no retry mends,
exactly if connecting ended with it. All else is one of the two truths. What
is read before an attempt (`Operation.Fetched`), the attempt, and attempts with
pauses in between narrow trouble alike, because exchanges that neither connect
nor read add nothing to it (`Narrows.append`).

* `Operation.yields_tryToLock_narrows`, `Operation.yields_tryToUnlock_narrows`,
  `Operation.yields_retryFrom` — whatever the connector, the backend, the clock
  and chance reply.
-/
import LeaseStore.Proofs.Runs.Metering

namespace LeaseStore

variable {σ α β : Type}

/-! ## What exchanges have shown -/

/-- A read was answered that there is no such record, or it was shown one that
is expired by the reading of the clock that follows. -/
def SeesMissing (id : String) (path : List Exchange) : Prop :=
  ⟨.read id, .error .notFound⟩ ∈ path ∨ 0 < staleReads path

/-- A read was shown a record that is not locked by the second reading of the clock
after it; the first tells whether it has expired, this one whether it is locked. -/
def SeesUnlocked (id : String) (path : List Exchange) : Prop :=
  ∃ before v t₀ t after, v.isLockedAt t = false ∧
    path = before ++ ⟨.read id, .ok v⟩ :: ⟨.now, t₀⟩ :: ⟨.now, t⟩ :: after

/-- The exchange neither connects nor reads a record. -/
def Exchange.Aside : Exchange → Prop
  | ⟨.connect, _⟩ | ⟨.read _, _⟩ => False
  | _ => True

variable {id : String} {xs ys path : List Exchange}

theorem seesMissing_append (hxs : Apart xs) :
    SeesMissing id (xs ++ ys) ↔ SeesMissing id xs ∨ SeesMissing id ys := by
  simp only [SeesMissing, List.mem_append, hxs ys, Nat.add_pos_iff_pos_or_pos]
  exact or_or_or_comm

/-- Induction on the exchanges: only reads can be stale. -/
theorem staleReads_of_aside (h : ∀ y ∈ ys, y.Aside) : staleReads ys = 0 := by
  induction ys with
  | nil => rfl
  | cons y ys ih =>
    obtain ⟨hy, hys⟩ := List.forall_mem_cons.mp h
    have hfresh : y.stale ys = false := by
      obtain ⟨a, r⟩ := y
      cases a with
      | read => exact hy.elim
      | _ => rfl
    rw [staleReads, hfresh, ih hys]
    rfl

theorem aside_now_cons {t : Instant} (h : ∀ y ∈ ys, y.Aside) :
    ∀ y ∈ ⟨.now, t⟩ :: ys, Exchange.Aside y := List.forall_mem_cons.mpr ⟨trivial, h⟩

theorem not_seesMissing_of_aside (h : ∀ y ∈ ys, y.Aside) : ¬ SeesMissing id ys := by
  rintro (hmem | hstale)
  · exact h _ hmem
  · exact absurd (staleReads_of_aside h) (Nat.ne_of_gt hstale)

theorem SeesUnlocked.exists_read (h : SeesUnlocked id path) : ∃ v, ⟨.read id, .ok v⟩ ∈ path := by
  obtain ⟨before, v, t₀, t, after, -, rfl⟩ := h
  exact ⟨v, by simp⟩

theorem Exchange.IsUpkeep.aside {x : Exchange} (h : x.IsUpkeep) : x.Aside := by
  cases h <;> trivial

theorem wrote_append : Operation.Wrote (xs ++ ys) ↔ Operation.Wrote xs ∨ Operation.Wrote ys := by
  simp only [Operation.Wrote, List.mem_append, exists_or]

theorem not_wrote_of_upkeep (h : ∀ y ∈ ys, y.IsUpkeep) : ¬ Operation.Wrote ys := by
  rintro ⟨r, w, stored, hmem⟩
  cases h _ hmem

theorem not_wrote_append (hxs : ¬ Operation.Wrote xs) (hys : ∀ y ∈ ys, y.IsUpkeep) :
    ¬ Operation.Wrote (xs ++ ys) := fun h =>
  (wrote_append.mp h).elim hxs (not_wrote_of_upkeep hys)

/-! ## Trouble that is narrowed -/

/-- What a lock operation makes of its exchanges. Of a failure it tells only if
there is no record, or if no retry can mend it. Once it has connected it reads the
record, and it reads no other. -/
structure Narrows (id : String) (path : List Exchange) (answer : Except StoreError α) :
    Prop where
  errors : ∀ err, answer = .error err → err = .notFound id ∨ err.isStructural = true
  missing : answer = .error (.notFound id) ↔ SeesMissing id path
  structural : ∀ err, err.isStructural = true →
    (answer = .error err ↔ ⟨.connect, .error err⟩ ∈ path)
  reads : ∀ config, ⟨.connect, .ok config⟩ ∈ path → ∃ reply, ⟨.read id, reply⟩ ∈ path
  only : ∀ id' reply, ⟨.read id', reply⟩ ∈ path → id' = id

/-- Exchanges that neither connect nor read make no trouble. -/
theorem Narrows.aside (h : ∀ y ∈ ys, y.Aside) (a : α) : Narrows id ys (.ok a) where
  errors := nofun
  missing := ⟨nofun, fun hmissing => absurd hmissing (not_seesMissing_of_aside h)⟩
  structural _ _ := ⟨nofun, fun hmem => (h _ hmem).elim⟩
  reads _ hmem := (h _ hmem).elim
  only _ _ hmem := (h _ hmem).elim

/-- A failure is one whatever it kept from being answered. -/
theorem Narrows.failed {err : StoreError} (h : Narrows id path (.error err : Except StoreError α)) :
    Narrows id path (.error err : Except StoreError β) where
  errors err' herr := h.errors err' (congrArg _ (Except.error.inj herr))
  missing := by simpa using h.missing
  structural err' hstructural := by simpa using h.structural err' hstructural
  reads := h.reads
  only := h.only

/-- What is done after others that made no trouble decides. -/
theorem Narrows.append {a : α} {answer : Except StoreError β} (h : Narrows id xs (.ok a))
    (hxs : Apart xs) (h' : Narrows id ys answer) : Narrows id (xs ++ ys) answer where
  errors := h'.errors
  missing := by
    have hnone : ¬ SeesMissing id xs := fun hmissing => nomatch h.missing.mpr hmissing
    rw [seesMissing_append hxs, h'.missing]
    exact (or_iff_right hnone).symm
  structural err hstructural := by
    have hnone : ⟨.connect, .error err⟩ ∉ xs := fun hmem =>
      nomatch (h.structural err hstructural).mpr hmem
    rw [List.mem_append, h'.structural err hstructural]
    exact (or_iff_right hnone).symm
  reads config hmem := by
    obtain hmem | hmem := List.mem_append.mp hmem
    · obtain ⟨reply, hread⟩ := h.reads config hmem
      exact ⟨reply, List.mem_append_left ys hread⟩
    · obtain ⟨reply, hread⟩ := h'.reads config hmem
      exact ⟨reply, List.mem_append_right xs hread⟩
  only id' reply hmem := by
    obtain hmem | hmem := List.mem_append.mp hmem
    · exact h.only id' reply hmem
    · exact h'.only id' reply hmem

/-- A failure to connect is told of only if no retry mends it. -/
theorem forLock_impersonal {err : StoreError} (h : err.Impersonal) :
    (err.isStructural = true ∧ Operation.forLock (.error err) = .error err) ∨
      (err.isStructural = false ∧ Operation.forLock (.error err) = .ok none) := by
  cases err with
  | notFound | conflict | lockedByOther => exact h.elim
  | uninitialized | unknownBackend | config => exact .inl ⟨rfl, rfl⟩
  | external => exact .inr ⟨rfl, rfl⟩

/-- Trouble that ends a call before the record is looked at. -/
theorem Narrows.unconnected {err : StoreError} (h : err.Impersonal) :
    Narrows id [⟨.connect, .error err⟩] (Operation.forLock (.error err)) := by
  have hconnect (err' : StoreError) :
      ⟨.connect, .error err'⟩ ∈ [Exchange.mk .connect (.error err)] ↔ err' = err := by simp
  have hlinked (config : Config) :
      ⟨.connect, .ok config⟩ ∉ [Exchange.mk .connect (.error err)] := by simp
  have hread (id' : String) (reply : Except BackendError Record) :
      ⟨.read id', reply⟩ ∉ [Exchange.mk .connect (.error err)] := by simp
  have hmissing : ¬ SeesMissing id [⟨.connect, .error err⟩] := by
    simp [SeesMissing, staleReads, Exchange.stale]
  obtain ⟨hlasting, heq⟩ | ⟨hpassing, heq⟩ := forLock_impersonal h
  · have hpersonal : err ≠ .notFound id := by
      rintro rfl
      exact h
    rw [heq]
    exact {
      errors := fun err' herr => .inr (Except.error.inj herr ▸ hlasting)
      missing := iff_of_false (fun herr => hpersonal (Except.error.inj herr)) hmissing
      structural := fun err' _ => by rw [hconnect, Except.error.injEq, eq_comm]
      reads := fun config hmem => absurd hmem (hlinked config)
      only := fun id' reply hmem => absurd hmem (hread id' reply) }
  · have hno (err' : StoreError) :
        (.ok none : Except StoreError (Option Record)) ≠ .error err' := by simp
    rw [heq]
    refine {
      errors := fun err' herr => absurd herr (hno err')
      missing := iff_of_false (hno _) hmissing
      structural := fun err' hlasting => iff_of_false (hno err') fun hmem => ?_
      reads := fun config hmem => absurd hmem (hlinked config)
      only := fun id' reply hmem => absurd hmem (hread id' reply) }
    rw [(hconnect err').mp hmem, hpassing] at hlasting
    cases hlasting

/-- The exchanges of a call that has connected and read the record, and no other. -/
structure ReadsOnly (id : String) (path : List Exchange) : Prop where
  plain : ∀ err, ⟨.connect, .error err⟩ ∉ path
  once : ∃ reply, ⟨.read id, reply⟩ ∈ path
  only : ∀ id' reply, ⟨.read id', reply⟩ ∈ path → id' = id

theorem Narrows.found (hreads : ReadsOnly id path) (hnot : ¬ SeesMissing id path) (a : α) :
    Narrows id path (.ok a) where
  errors := nofun
  missing := ⟨nofun, fun hmissing => absurd hmissing hnot⟩
  structural err _ := ⟨nofun, fun hmem => absurd hmem (hreads.plain err)⟩
  reads _ _ := hreads.once
  only := hreads.only

theorem Narrows.notFound (hreads : ReadsOnly id path) (hmissing : SeesMissing id path) :
    Narrows id path (.error (.notFound id) : Except StoreError α) where
  errors _ herr := .inl (Except.error.inj herr).symm
  missing := ⟨fun _ => hmissing, fun _ => rfl⟩
  structural err hstructural := by
    refine ⟨fun herr => ?_, fun hmem => absurd hmem (hreads.plain err)⟩
    obtain rfl := Except.error.inj herr
    cases hstructural
  reads _ _ := hreads.once
  only := hreads.only

namespace Call

/-- What holds of all paths holds of them together. Induction on the call. -/
theorem Yields.and {P Q : List Exchange → α → Prop} {x : Call α} (hP : x.Yields P)
    (hQ : x.Yields Q) : x.Yields fun xs a => P xs a ∧ Q xs a := by
  induction x generalizing P Q with
  | done a => exact ⟨hP, hQ⟩
  | act a next ih => exact fun r hr => ih r (hP r hr) (hQ r hr)

end Call

namespace Operation

open Call

/-! ## Looking first -/

theorem yields_purge_upkeep (id : String) :
    (purge id).Yields fun ys _ => ∀ y ∈ ys, y.IsUpkeep := by
  have hdone (reply : Except BackendError Unit) {rest : List Exchange}
      (h : ∀ y ∈ rest, y.IsUpkeep) :
      ∀ y ∈ ⟨.count .delete, ()⟩ :: ⟨.delete id, reply⟩ :: rest, y.IsUpkeep :=
    List.forall_mem_cons.mpr ⟨.count .., List.forall_mem_cons.mpr ⟨.delete .., h⟩⟩
  have hcount (n : Counter) : ∀ y ∈ [⟨.count n, ()⟩], Exchange.IsUpkeep y :=
    List.forall_mem_singleton.mpr (.count ..)
  have hnone : ∀ y ∈ [], Exchange.IsUpkeep y := List.forall_mem_nil _
  intro _ _ reply _
  match reply with
  | .ok () => exact fun _ _ => hdone _ (hcount _)
  | .error .notFound => exact hdone _ hnone
  | .error .alreadyExists | .error .preconditionFailed | .error (.failure ..) =>
    exact fun _ _ => hdone _ (hcount _)

/-- The exchanges of a read that has connected. -/
def fetching (config : Config) (id : String) (reply : Except BackendError Record)
    (rest : List Exchange) : List Exchange :=
  ⟨.connect, .ok config⟩ :: ⟨.count .get, ()⟩ :: ⟨.read id, reply⟩ :: rest

section Fetching

variable {config : Config} {reply : Except BackendError Record} {rest : List Exchange}

theorem wrote_fetching_iff : Wrote (fetching config id reply rest) ↔ Wrote rest := by
  simp [Wrote, fetching]

theorem wrote_now_cons_iff {t : Instant} : Wrote (⟨.now, t⟩ :: rest) ↔ Wrote rest := by
  simp [Wrote]

theorem readsOnly_fetching (h : ∀ y ∈ rest, y.Aside) :
    ReadsOnly id (fetching config id reply rest) := by
  have hconnect (err : StoreError) : ⟨.connect, .error err⟩ ∉ rest := fun hmem => h _ hmem
  have hread (id' : String) (reply' : Except BackendError Record) :
      ⟨.read id', reply'⟩ ∉ rest := fun hmem => h _ hmem
  refine ⟨fun err => ?_, ⟨reply, by simp [fetching]⟩, fun id' reply' hmem => ?_⟩
  · simp [fetching, hconnect]
  · simp only [fetching, List.mem_cons, hread, or_false, Exchange.mk.injEq, reduceCtorEq,
      false_and, false_or, Action.read.injEq] at hmem
    exact hmem.1

theorem seesMissing_fetching_error {e : BackendError} (h : ∀ y ∈ rest, y.Aside) :
    SeesMissing id (fetching config id (.error e) rest) ↔ e = .notFound := by
  have hrest : ⟨.read id, .error .notFound⟩ ∉ rest := fun hmem => h _ hmem
  have hstale : staleReads rest = 0 := staleReads_of_aside h
  simp [SeesMissing, fetching, staleReads, Exchange.stale, hrest, hstale, eq_comm]

theorem seesMissing_fetching_ok {v : Record} {t : Instant} (h : ∀ y ∈ rest, y.Aside) :
    SeesMissing id (fetching config id (.ok v) (⟨.now, t⟩ :: rest)) ↔
      v.isExpiredAt t = true := by
  have hrest : ⟨.read id, .error .notFound⟩ ∉ rest := fun hmem => h _ hmem
  have hstale : staleReads rest = 0 := staleReads_of_aside h
  cases hexp : v.isExpiredAt t <;>
    simp [SeesMissing, fetching, staleReads, Exchange.stale, hrest, hstale, hexp]

theorem seesUnlocked_fetching (h : ∀ y ∈ rest, y.Aside) :
    SeesUnlocked id (fetching config id reply rest) ↔
      ∃ v t₀ t after, v.isLockedAt t = false ∧ reply = .ok v ∧
        rest = ⟨.now, t₀⟩ :: ⟨.now, t⟩ :: after := by
  constructor
  · rintro ⟨before, v, t₀, t, after, hfree, hpath⟩
    -- there is but one read, so what stands before it is known
    match before with
    | [] | [_] => simp [fetching] at hpath
    | [_, _] =>
      simp only [fetching, List.cons_append, List.nil_append, List.cons.injEq, Exchange.mk.injEq,
        heq_eq_eq, true_and] at hpath
      exact ⟨v, t₀, t, after, hfree, hpath.2.2.1, hpath.2.2.2⟩
    | _ :: _ :: _ :: before =>
      simp only [fetching, List.cons_append, List.cons.injEq] at hpath
      have hread : ⟨.read id, .ok v⟩ ∈ rest := by simp [hpath.2.2.2]
      exact (h _ hread).elim
  · rintro ⟨v, t₀, t, after, hfree, rfl, rfl⟩
    exact ⟨[_, _], v, t₀, t, after, hfree, rfl⟩

end Fetching

theorem eq_ok_of_forLock {res : Except StoreError Record} {r : Record}
    (h : forLock res = .ok (some r)) : res = .ok r := by
  match res with
  | .ok r' => cases h; rfl
  | .error err => cases err <;> cases h

/-- What a read of the record comes to. -/
inductive Fetched (id : String) : List Exchange → Except StoreError Record → Prop
  | unconnected {err : StoreError} : Fetched id [⟨.connect, .error err⟩] (.error err)
  /-- The failure is counted. -/
  | refused {config : Config} {e : BackendError} :
      Fetched id (fetching config id (.error e) [⟨.count (counterOf (.ofBackend id e)), ()⟩])
        (.error (.ofBackend id e))
  /-- An expired record counts as none, whatever comes of its cleanup. -/
  | expired {config : Config} {v : Record} {t : Instant} {cleanup : List Exchange} :
      v.isExpiredAt t = true → (∀ y ∈ cleanup, y.IsUpkeep) →
      Fetched id (fetching config id (.ok v) (⟨.now, t⟩ :: cleanup)) (.error (.notFound id))
  | found {config : Config} {v : Record} {t : Instant} : v.isExpiredAt t = false →
      Fetched id (fetching config id (.ok v) [⟨.now, t⟩]) (.ok v)

theorem yields_get_fetched (id : String) : (get id).Yields (Fetched id) := by
  intro c _
  match c with
  | .error err => exact .unconnected
  | .ok config =>
    intro _ _ reply _
    match reply with
    | .error e => exact fun _ _ => .refused
    | .ok v =>
      intro t _
      show Yields (if v.isExpiredAt t then _ else _) _
      split
      case isTrue hexp =>
        refine yields_bind (yields_purge_upkeep id) fun ys _ hys => fun _ _ => .expired hexp ?_
        exact List.forall_mem_append.mpr ⟨hys, List.forall_mem_singleton.mpr (.count ..)⟩
      case isFalse hexp => exact .found (Bool.not_eq_true _ ▸ hexp)

section Fetched

variable {res : Except StoreError Record}

theorem upkeep_count (n : Counter) : ∀ y ∈ [⟨.count n, ()⟩], Exchange.IsUpkeep y :=
  List.forall_mem_singleton.mpr (.count ..)

theorem Fetched.not_wrote (h : Fetched id xs res) : ¬ Wrote xs := by
  cases h with
  | unconnected => simp [Wrote]
  | refused => exact mt wrote_fetching_iff.mp (not_wrote_of_upkeep (upkeep_count _))
  | expired _ hclean =>
    exact mt (wrote_fetching_iff.trans wrote_now_cons_iff).mp (not_wrote_of_upkeep hclean)
  | found => exact mt wrote_fetching_iff.mp (by simp [Wrote])

/-- What a lock operation makes of a read of the record. -/
theorem Fetched.narrows (h : Fetched id xs res) (hplain : ConnectsPlainly xs) :
    Narrows id xs (forLock res) := by
  cases h with
  | unconnected => exact .unconnected (hplain _ List.mem_cons_self)
  | @refused config e =>
    have haside := fun y hy => (upkeep_count (counterOf (.ofBackend id e)) y hy).aside
    have hmissing : SeesMissing id (fetching config id (.error e) _) ↔ e = .notFound :=
      seesMissing_fetching_error haside
    cases e with
    | notFound => exact .notFound (readsOnly_fetching haside) (hmissing.mpr rfl)
    | alreadyExists | preconditionFailed | failure =>
      exact .found (readsOnly_fetching haside) (mt hmissing.mp nofun) none
  | expired hexp hclean =>
    have haside := fun y hy => (hclean y hy).aside
    exact .notFound (readsOnly_fetching (aside_now_cons haside))
      ((seesMissing_fetching_ok haside).mpr hexp)
  | found hlive =>
    have hlive' := Bool.eq_false_iff.mp hlive
    exact .found (readsOnly_fetching (aside_now_cons (List.forall_mem_nil _)))
      (mt (seesMissing_fetching_ok (List.forall_mem_nil _)).mp hlive') (some _)

/-- Where no record is found, none is seen that is not locked, whatever is counted
after that. -/
theorem Fetched.not_seesUnlocked (h : Fetched id xs res) (hnone : ∀ v, res ≠ .ok v)
    (hys : ∀ y ∈ ys, y.IsUpkeep) : ¬ SeesUnlocked id (xs ++ ys) := by
  have haside := fun y hy => (hys y hy).aside
  cases h with
  | unconnected =>
    intro hsees
    obtain ⟨v, hread⟩ := hsees.exists_read
    obtain hread | hread := List.mem_append.mp hread
    · simp at hread
    · exact haside _ hread
  | @refused config e =>
    have hrest := List.forall_mem_append.mpr ⟨upkeep_count (counterOf (.ofBackend id e)), hys⟩
    refine mt (seesUnlocked_fetching fun y hy => (hrest y hy).aside).mp ?_
    rintro ⟨_, _, _, _, -, hreply, -⟩
    cases hreply
  | @expired config v t cleanup hexp hclean =>
    have hrest := List.forall_mem_append.mpr ⟨hclean, hys⟩
    refine mt (seesUnlocked_fetching (aside_now_cons fun y hy => (hrest y hy).aside)).mp ?_
    rintro ⟨_, t₀, t', after, -, -, heq⟩
    have hnow : ⟨.now, t'⟩ ∈ cleanup ++ ys := by simp [(List.cons.inj heq).2]
    cases hrest _ hnow
  | found => exact absurd rfl (hnone _)

end Fetched

/-- Looking for the record, a lock operation makes of a read what it has to. -/
theorem yields_readForLock_fetched (id : String) :
    (readForLock id).Yields fun xs res =>
      Apart xs ∧ ∃ res', Fetched id xs res' ∧ res = forLock res' := by
  have hapart := (yields_readForLock id).mono fun _ _ h => h.apart
  refine hapart.and (yields_pass (yields_get_fetched id) ?_)
  rintro xs (err | v) hxs
  · cases err <;> exact ⟨_, rfl, _, hxs, rfl⟩
  · exact ⟨_, rfl, _, hxs, rfl⟩

/-! ## One attempt -/

/-- The exchanges of an attempt that has looked for the record. They make no
trouble, and the answer is one of the truths. -/
def Settles (ys : List Exchange) (res : Except StoreError Bool) : Prop :=
  (∀ y ∈ ys, y.Aside) ∧ ∃ b, res = .ok b

/-- An attempt to write back, and the truth about it. -/
theorem yields_writeBack_settles (r : Record) (won lost : Counter) :
    Yields (writeBack r >>= fun ok =>
        if ok then act (.count won) fun _ => done (Except.ok true)
        else act (.count lost) fun _ => done (.ok false))
      fun ys res => Settles ys res ∧ (res = .ok true ↔ Wrote ys) := by
  intro reply _
  match reply with
  | .ok stored =>
    refine fun _ _ _ _ => ⟨⟨by simp [Exchange.Aside], true, rfl⟩, ?_⟩
    exact iff_of_true rfl ⟨r, _, stored, List.mem_cons_self⟩
  | .error e =>
    refine fun _ _ _ _ => ⟨⟨by simp [Exchange.Aside], false, rfl⟩, ?_⟩
    simp [Wrote]

theorem yields_grab_settles (v : Record) (owner : Owner) (seconds : Nat) :
    (grab v owner seconds).Yields fun ys res => Settles ys res ∧ (res = .ok true ↔ Wrote ys) := by
  intro t _
  show Yields (if v.isLockedByOthersAt owner t then _ else _) _
  split
  case isTrue =>
    refine fun _ _ => ⟨⟨by simp [Exchange.Aside], false, rfl⟩, ?_⟩
    simp [Wrote]
  case isFalse =>
    refine (yields_writeBack_settles _ _ _).mono fun ys res h => ⟨⟨?_, h.1.2⟩, ?_⟩
    · exact List.forall_mem_cons.mpr ⟨trivial, h.1.1⟩
    · exact h.2.trans wrote_now_cons_iff.symm

/-- What is given up was held, or there was no need to: then the record is not
locked at the reading that comes first. -/
theorem yields_letGo_settles (v : Record) (owner : Owner) :
    (letGo v owner).Yields fun ys res => Settles ys res ∧
      (res = .ok true ↔ Wrote ys ∨
        ∃ t after, v.isLockedAt t = false ∧ ys = ⟨.now, t⟩ :: after) := by
  intro t _
  show Yields (if !v.isLockedAt t then _ else release v owner t) _
  split
  case isTrue hfree =>
    have hfree : v.isLockedAt t = false := by simpa using hfree
    exact fun _ _ => ⟨⟨by simp [Exchange.Aside], true, rfl⟩,
      iff_of_true rfl (.inr ⟨t, _, hfree, rfl⟩)⟩
  case isFalse hlocked =>
    have hnot (ys : List Exchange) :
        ¬ ∃ t' after, v.isLockedAt t' = false ∧ ⟨.now, t⟩ :: ys = ⟨.now, t'⟩ :: after := by
      rintro ⟨t', after, hfree, heq⟩
      cases heq
      simp [hfree] at hlocked
    unfold release
    split
    case h_1 =>
      refine fun _ _ => ⟨⟨by simp [Exchange.Aside], false, rfl⟩, ?_⟩
      rw [or_iff_left (hnot _)]
      simp [Wrote]
    case h_2 released _ =>
      refine (yields_writeBack_settles _ _ _).mono fun ys res h => ⟨⟨?_, h.1.2⟩, ?_⟩
      · exact List.forall_mem_cons.mpr ⟨trivial, h.1.1⟩
      · rw [or_iff_left (hnot _), wrote_now_cons_iff]
        exact h.2

theorem Settles.narrows {α : Type} {a : α} {res : Except StoreError Bool}
    (hys : Settles ys res) (hxs : Apart xs)
    (h : ConnectsPlainly xs → Narrows id xs (.ok a)) (hplain : ConnectsPlainly (xs ++ ys)) :
    Narrows id (xs ++ ys) res := by
  obtain ⟨haside, b, rfl⟩ := hys
  exact (h hplain.left).append hxs (.aside haside b)

/-- An attempt that the store has failed before there was a record to look at. -/
theorem settles_count (n : Counter) : Settles [⟨.count n, ()⟩] (.ok false) :=
  ⟨List.forall_mem_singleton.mpr trivial, false, rfl⟩

/-- A whole attempt to lock. -/
theorem yields_tryToLock_narrows (id : String) (owner : Owner) (seconds : Nat) :
    (tryToLock id owner seconds).Yields fun xs res =>
      (res = .ok true ↔ Wrote xs) ∧ (ConnectsPlainly xs → Narrows id xs res) := by
  rw [tryToLock_eq]
  refine yields_bind (yields_readForLock_fetched id) ?_
  rintro xs found ⟨hapart, res', hfetched, hfound⟩
  have hnot := hfetched.not_wrote
  have hnarrows := hfetched.narrows
  rw [← hfound] at hnarrows
  rcases found with err | _ | v
  · show (_ ↔ Wrote (xs ++ [])) ∧ (ConnectsPlainly (xs ++ []) → Narrows id (xs ++ []) _)
    rw [List.append_nil]
    exact ⟨⟨nofun, fun hwrote => absurd hwrote hnot⟩, fun hplain => (hnarrows hplain).failed⟩
  · intro _ _
    have hcounted := not_wrote_append hnot (upkeep_count .lockFailed)
    exact ⟨⟨nofun, (absurd · hcounted)⟩, (settles_count .lockFailed).narrows hapart hnarrows⟩
  · refine (yields_grab_settles v owner seconds).mono fun ys res h => ⟨?_, ?_⟩
    · rw [h.2, wrote_append, or_iff_right hnot]
    · exact h.1.narrows hapart hnarrows

/-- A whole attempt to unlock. -/
theorem yields_tryToUnlock_narrows (id : String) (owner : Owner) :
    (tryToUnlock id owner).Yields fun xs res =>
      (res = .ok true ↔ Wrote xs ∨ SeesUnlocked id xs) ∧
        (ConnectsPlainly xs → Narrows id xs res) := by
  rw [tryToUnlock_eq]
  refine yields_bind (yields_readForLock_fetched id) ?_
  rintro xs found ⟨hapart, res', hfetched, hfound⟩
  have hnot := hfetched.not_wrote
  have hnarrows := hfetched.narrows
  rw [← hfound] at hnarrows
  rcases found with err | _ | v
  · have hunseen : ¬ SeesUnlocked id (xs ++ []) :=
      hfetched.not_seesUnlocked (by rintro v rfl; cases hfound) (List.forall_mem_nil _)
    rw [List.append_nil] at hunseen
    show (_ ↔ Wrote (xs ++ []) ∨ SeesUnlocked id (xs ++ [])) ∧
      (ConnectsPlainly (xs ++ []) → Narrows id (xs ++ []) _)
    rw [List.append_nil]
    exact ⟨⟨nofun, fun h => h.elim (absurd · hnot) (absurd · hunseen)⟩,
      fun hplain => (hnarrows hplain).failed⟩
  · intro _ _
    have hunseen := hfetched.not_seesUnlocked (by rintro v rfl; cases hfound)
      (upkeep_count .unlockRefused)
    have hcounted := not_wrote_append hnot (upkeep_count .unlockRefused)
    exact ⟨⟨nofun, fun h => h.elim (absurd · hcounted) (absurd · hunseen)⟩,
      (settles_count .unlockRefused).narrows hapart hnarrows⟩
  · obtain rfl := eq_ok_of_forLock hfound.symm
    refine (yields_letGo_settles v owner).mono fun ys res h => ⟨?_, h.1.narrows hapart hnarrows⟩
    rw [h.2, wrote_append, or_iff_right hnot]
    cases hfetched with
    | @found config _ t₀ =>
      -- the read has gone by one reading of the clock, and what is to be given up by the next
      refine or_congr_right (Iff.trans ?_ (seesUnlocked_fetching (aside_now_cons h.1.1)).symm)
      constructor
      · rintro ⟨t, after, hfree, rfl⟩
        exact ⟨v, t₀, t, after, hfree, rfl, rfl⟩
      · rintro ⟨_, _, t, after, hfree, heq, hys⟩
        cases heq
        cases hys
        exact ⟨t, after, hfree, rfl⟩

/-! ## Attempts with pauses in between -/

/-- What attempts with pauses in between make of their exchanges. Where there is no
answer the last attempt was a lost one, so there is no trouble to tell of. -/
structure Persists (id : String) (path : List Exchange)
    (answer : Option (Except StoreError Bool)) : Prop where
  narrows : ConnectsPlainly path → Narrows id path (answer.getD (.ok false))
  taken : answer = some (.ok true) ↔ Wrote path

section Persists

variable {p : RetryPolicy} {n : Nat} {answer : Option (Except StoreError Bool)}

/-- The last attempt decides. -/
theorem Persists.last {res : Except StoreError Bool} (hwrote : res = .ok true ↔ Wrote path)
    (h : ConnectsPlainly path → Narrows id path res) : Persists id path (some res) where
  narrows := h
  taken := by rw [Option.some.injEq, hwrote]

/-- What made no trouble and wrote nothing may come before. -/
theorem Persists.after (hapart : Apart xs) (hnot : ¬ Wrote xs)
    (hxs : ConnectsPlainly xs → Narrows id xs (.ok false)) (h : Persists id ys answer) :
    Persists id (xs ++ ys) answer where
  narrows hplain := (hxs hplain.left).append hapart (h.narrows hplain.right)
  taken := by rw [h.taken, wrote_append, or_iff_right hnot]

theorem yields_pauseThen {rest : Call (Option (Except StoreError Bool))}
    (hrest : rest.Yields (Persists id)) : (pauseThen p n rest).Yields (Persists id) := by
  unfold pauseThen
  refine yields_perform (a := .draw _) fun jitter _ => ?_
  cases p.delay? n jitter with
  | none => exact ⟨fun _ => .aside (by simp [Exchange.Aside]) false, nofun, by simp [Wrote]⟩
  | some d =>
    refine yields_perform (a := .pause d) fun _ _ => hrest.mono fun ys answer h => ?_
    have hapart : Apart [⟨.draw (p.jitterBound n), jitter⟩, ⟨.pause d, ()⟩] :=
      .cons (fun _ => rfl) (.cons (fun _ => rfl) .nil)
    exact h.after hapart (by simp [Wrote]) fun _ => .aside (by simp [Exchange.Aside]) false

/-- Induction on the attempts that are left. -/
theorem yields_retryFrom {attempt : Call (Except StoreError Bool)}
    (hattempt : attempt.Yields fun xs res => Apart xs ∧
      (res = .ok true ↔ Wrote xs) ∧ (ConnectsPlainly xs → Narrows id xs res))
    (left n : Nat) : (retryFrom p attempt left n).Yields (Persists id) := by
  induction left generalizing n with
  | zero => exact .last ⟨nofun, by simp [Wrote]⟩ fun _ => .aside (List.forall_mem_nil _) false
  | succ left ih =>
    rw [retryFrom]
    refine yields_bind hattempt ?_
    rintro xs res ⟨hapart, hwrote, hnarrows⟩
    have hlast : Persists id (xs ++ []) (some res) := by
      rw [List.append_nil]
      exact .last hwrote hnarrows
    rcases res with err | _ | _
    case error => exact hlast
    case ok.true => exact hlast
    case ok.false =>
      dsimp only
      split
      case isTrue => exact hlast
      case isFalse =>
        exact (yields_pauseThen (ih (n + 1))).mono fun ys answer h =>
          h.after hapart (mt hwrote.mpr nofun) hnarrows

end Persists

end Operation

end LeaseStore
