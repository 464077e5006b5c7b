/-
LeaseStore.Proofs.Calls.Conduct — how errands behave.

Whatever the store and the clock answer, an errand keeps to a few rules
(`Errand.Allows`): it asks the store for nothing before it has connected;
what it writes carries the clock reading just before, under a condition
that its token asks for; the lock operations and the update of a payload
write back what they have read; and apart from the delete requests a record
is deleted only if the errand itself has found it expired (`Overdue`). A create
or an upsert sends one write at most, and tells what the store has replied to it
(`Reports`).
-/
import LeaseStore.Proofs.Calls.Path
import LeaseStore.Proofs.Calls.Request

namespace LeaseStore

/-! ## What an errand has done so far -/

namespace Exchange

/-- The store has answered with this record, which stands under this id. -/
inductive Shows : Exchange → String → Record → Prop
  | read (id : String) (v : Record) : Shows ⟨.read id, .ok v⟩ id v
  | list {rs : List Record} {v : Record} : v ∈ rs → Shows ⟨.list, .ok rs⟩ v.id v

/-- A step of cleaning up: an event is counted, or a record is deleted. -/
inductive IsUpkeep : Exchange → Prop
  | count (c : Counter) (r : Unit) : IsUpkeep ⟨.count c, r⟩
  | delete (id : String) (r : Except BackendError Unit) : IsUpkeep ⟨.delete id, r⟩

end Exchange

/-- A connection has been made. -/
def Linked (past : List Exchange) : Prop := ∃ c, ⟨.connect, .ok c⟩ ∈ past

/-- By its last reading of the clock the errand has found a record expired:
it read the clock right after the store had shown it the record, and has
done nothing since but clean up. -/
def Overdue (past : List Exchange) (id : String) : Prop :=
  ∃ cleanup t sight before v, past = cleanup ++ ⟨.now, t⟩ :: sight :: before ∧
    (∀ x ∈ cleanup, Exchange.IsUpkeep x) ∧ sight.Shows id v ∧ v.isExpiredAt t

theorem Linked.cons {past : List Exchange} (h : Linked past) (x : Exchange) :
    Linked (x :: past) := by
  obtain ⟨c, hc⟩ := h
  exact ⟨c, List.mem_cons_of_mem x hc⟩

theorem Overdue.cons {past : List Exchange} {id : String} (h : Overdue past id) {x : Exchange}
    (hx : x.IsUpkeep) : Overdue (x :: past) id := by
  obtain ⟨cleanup, t, sight, before, v, rfl, hclean, hsight, hexp⟩ := h
  refine ⟨x :: cleanup, t, sight, before, v, rfl, ?_, hsight, hexp⟩
  exact List.forall_mem_cons.2 ⟨hx, hclean⟩

/-- How the answer to a create or an upsert of the record `id` came about: there
was no connection and nothing was sent, or one write was, and the answer is what
the store has replied to it. -/
inductive Reports (id : String) (past : List Exchange) : Except StoreError Record → Prop
  | unconnected {err : StoreError} : ⟨.connect, .error err⟩ ∈ past → written past = [] →
      Reports id past (.error err)
  | lost {e : BackendError} : written past = [.error e] →
      Reports id past (.error (.ofBackend id e))
  | stored {r : Record} : written past = [.ok r] → Reports id past (.ok r)

namespace Reports

variable {id : String} {past : List Exchange} {res : Except StoreError Record}

end Reports

/-! ## The rules -/

namespace Errand

/-- What an errand writes at a reading `t`, and on what condition, given
what it did before that reading. -/
def Writes (t : Instant) (before : List Exchange) (r : Record) (w : WriteCondition) :
    Errand → Prop
  | request (.upsert r₀) => r = r₀.touchAt t ∧ w = .ofToken r₀.token
  | request (.upsertWithToken r₀ token) => r = r₀.touchAt t ∧ w = .ofToken token
  | request (.tryToLock id owner seconds) | request (.lockWithRetry id owner seconds _) =>
    ∃ v, ⟨.read id, .ok v⟩ ∈ before ∧ v.isLockedByOthersAt owner t = false ∧
      r = (v.touchAt t).lockAt owner seconds t ∧ w = .ofToken v.token
  | request (.tryToUnlock id owner) =>
    ∃ v, ⟨.read id, .ok v⟩ ∈ before ∧ v.isLockedAt t = true ∧ v.lockOwner = owner ∧
      r = (v.touchAt t).released ∧ w = .ofToken v.token
  | update id edit =>
    ∃ v, ⟨.read id, .ok v⟩ ∈ before ∧ r = (v.edited edit).touchAt t ∧ w = .ofToken v.token
  | _ => False

/-- The actions that an errand may take after `past`. -/
def Allows (e : Errand) (past : List Exchange) : Action → Prop
  | .connect | .now | .count _ | .pause _ | .draw _ => True
  | .read _ | .list | .health => Linked past
  | .create r => Linked past ∧
    ∃ t before r₀, past = ⟨.now, t⟩ :: before ∧ e = request (.create r₀) ∧ r = r₀.touchAt t
  | .upsert r w => Linked past ∧ ∃ t before, past = ⟨.now, t⟩ :: before ∧ e.Writes t before r w
  | .delete id => Linked past ∧ (e = request (.delete id) ∨ Overdue past id)
  | .deleteWave _ => Linked past ∧ ∃ ids, e = request (.deleteMany ids)

/-- Whatever an errand writes, its condition is one that a token asks
for. -/
theorem ofToken_of_writes {e : Errand} {t : Instant} {before : List Exchange} {r : Record}
    {w : WriteCondition} (h : e.Writes t before r w) : ∃ token, w = .ofToken token := by
  cases e with
  | update id edit =>
    obtain ⟨v, -, -, hw⟩ := h
    exact ⟨_, hw⟩
  | request q =>
    cases q with
    | upsert | upsertWithToken => exact ⟨_, h.2⟩
    | tryToLock | lockWithRetry =>
      obtain ⟨v, -, -, -, hw⟩ := h
      exact ⟨_, hw⟩
    | tryToUnlock =>
      obtain ⟨v, -, -, -, -, hw⟩ := h
      exact ⟨_, hw⟩
    | get | contains | getAll | create | delete | deleteMany | healthCheck => exact h.elim

/-- An attempt to lock that reports success has written, and a create or an
upsert reports what became of its write. -/
def Earned (e : Errand) (past : List Exchange) (a : Answer) : Prop :=
  match e, a with
  | request (.tryToLock ..), .truth (.ok true)
  | request (.lockWithRetry ..), .retried (some (.ok true)) =>
    ∃ r w stored, ⟨.upsert r w, .ok stored⟩ ∈ past
  | request (.create r), a | request (.upsert r), a | request (.upsertWithToken r _), a =>
    ∃ res, a = .record res ∧ Reports r.id past res
  | _, _ => True

end Errand

namespace Operation

open Call

variable {past : List Exchange} {e : Errand}

/-! ## Reading -/

/-- The actions of a read or a scan. -/
def Reading (past : List Exchange) : Action → Prop
  | .connect | .now | .count _ => True
  | .read _ | .list => Linked past
  | .delete id => Linked past ∧ Overdue past id
  | _ => False

theorem allows_of_reading (past : List Exchange) (a : Action) (h : Reading past a) :
    e.Allows past a := by
  cases a with
  | delete id => exact ⟨h.1, .inr h.2⟩
  | connect | now | count | read | list => exact h
  | _ => exact h.elim

/-- The call was shown a record by a read and has read the clock. -/
def Got (id : String) (past : List Exchange) (v : Record) : Prop :=
  Linked past ∧ ⟨.read id, .ok v⟩ ∈ past

theorem along_purge {id : String} (hlinked : Linked past) (hover : Overdue past id) :
    (purge id).Along Reading
      (fun past' _ => Linked past' ∧ ∀ id', Overdue past id' → Overdue past' id') past := by
  refine ⟨trivial, fun _ => ⟨⟨hlinked.cons _, hover.cons (.count ..)⟩, fun r => ?_⟩⟩
  have hthen (id' : String) (h : Overdue past id') :
      Overdue (⟨.delete id, r⟩ :: ⟨.count .delete, ()⟩ :: past) id' :=
    (h.cons (.count ..)).cons (.delete ..)
  match r with
  | .ok () =>
    exact ⟨trivial, fun _ => ⟨((hlinked.cons _).cons _).cons _,
      fun id' h => (hthen id' h).cons (.count ..)⟩⟩
  | .error .notFound => exact ⟨(hlinked.cons _).cons _, hthen⟩
  | .error (.alreadyExists) | .error (.preconditionFailed) | .error (.failure ..) =>
    exact ⟨trivial, fun _ => ⟨((hlinked.cons _).cons _).cons _,
      fun id' h => (hthen id' h).cons (.count ..)⟩⟩

/-- Induction on the ids, all of them found expired. -/
theorem along_purgeAll {ids : List String} (hlinked : Linked past)
    (hover : ∀ id ∈ ids, Overdue past id) :
    (purgeAll ids).Along Reading (fun _ _ => True) past := by
  induction ids generalizing past with
  | nil => exact trivial
  | cons id ids ih =>
    refine along_bind (along_purge hlinked (hover id List.mem_cons_self)) ?_
    rintro past' - ⟨hlinked', hkept⟩
    exact ih hlinked' fun id' h => hkept id' (hover id' (List.mem_cons_of_mem id h))

theorem along_classify {α : Type} {id : String} {err : BackendError} {f : StoreError → α}
    {P : List Exchange → Action → Prop} {Q : List Exchange → α → Prop}
    (hP : ∀ past c, P past (.count c)) (hQ : ∀ past err, Q past (f err)) :
    (classify id err >>= fun err => done (f err)).Along P Q past :=
  ⟨hP _ _, fun _ => hQ _ _⟩

theorem along_get (id : String) (past : List Exchange) :
    (get id).Along Reading (fun past' res => ∀ v, res = .ok v → Got id past' v) past := by
  refine ⟨trivial, fun r => ?_⟩
  match r with
  | .error err => exact fun v h => nomatch h
  | .ok c =>
    have hlinked : Linked (⟨.connect, .ok c⟩ :: past) := ⟨c, List.mem_cons_self⟩
    refine ⟨trivial, fun _ => ⟨hlinked.cons _, fun r => ?_⟩⟩
    match r with
    | .error err => exact along_classify (fun _ _ => trivial) fun _ _ v h => nomatch h
    | .ok v =>
      refine ⟨trivial, fun t => ?_⟩
      have hlinked' := ((hlinked.cons ⟨.count .get, ()⟩).cons ⟨.read id, .ok v⟩).cons ⟨.now, t⟩
      show Call.Along _ _ _ (if v.isExpiredAt t then _ else _)
      split
      case isTrue hexp =>
        refine along_bind (along_purge hlinked' ?_) fun past' _ _ =>
          ⟨trivial, fun _ v h => nomatch h⟩
        exact ⟨[], t, _, _, v, rfl, by simp, .read id v, hexp⟩
      case isFalse hexp =>
        rintro v' ⟨⟩
        exact ⟨hlinked', by simp⟩

theorem along_contains (id : String) (past : List Exchange) :
    (contains id).Along Reading (fun _ _ => True) past := by
  refine along_bind (along_get id past) ?_
  rintro past' (err | v) -
  · cases err <;> exact trivial
  · exact trivial

theorem along_getAll (past : List Exchange) :
    getAll.Along Reading (fun _ _ => True) past := by
  refine ⟨trivial, fun r => ?_⟩
  match r with
  | .error err => exact trivial
  | .ok c =>
    have hlinked : Linked (⟨.connect, .ok c⟩ :: past) := ⟨c, List.mem_cons_self⟩
    refine ⟨trivial, fun _ => ⟨hlinked.cons _, fun r => ?_⟩⟩
    match r with
    | .error err => exact along_classify (fun _ _ => trivial) fun _ _ => trivial
    | .ok rs =>
      refine ⟨trivial, fun t => ?_⟩
      show Call.Along _ _ _
        (purgeAll ((rs.partition (·.isExpiredAt t)).1.map (·.id)) >>= fun _ => done _)
      refine along_bind (along_purgeAll (((hlinked.cons _).cons _).cons _) fun id hid => ?_)
        fun _ _ _ => trivial
      obtain ⟨v, hv, rfl⟩ := List.mem_map.1 hid
      rw [List.partition_eq_filter_filter] at hv
      obtain ⟨hmem, hexp⟩ := List.mem_filter.1 hv
      exact ⟨[], t, _, _, v, rfl, by simp, .list hmem, hexp⟩

/-! ## Writing -/

/-- The one write of a call that has sent nothing before, once it is counted. -/
theorem written_once {x : Exchange} {reply : Except BackendError Record}
    (hx : x.written? = some reply) (hnone : written past = []) {t : Instant} {n : Counter}
    {config : Config} :
    written (⟨.count n, ()⟩ :: x :: ⟨.now, t⟩ :: ⟨.connect, .ok config⟩ :: past) = [reply] := by
  rw [written_cons, written_cons, written_cons, written_cons, hx, hnone]
  rfl

theorem along_create (r : Record) (past : List Exchange) :
    (create r).Along (Errand.Allows (.request (.create r)))
      (fun past' res => written past = [] → Reports r.id past' res) past := by
  refine ⟨trivial, fun res => ?_⟩
  match res with
  | .error err => exact fun hnone => .unconnected List.mem_cons_self hnone
  | .ok c =>
    refine ⟨trivial, fun t => ⟨⟨⟨c, by simp⟩, t, _, r, rfl, rfl, rfl⟩, fun res => ?_⟩⟩
    match res with
    | .error e => exact ⟨trivial, fun _ hnone => .lost (written_once rfl hnone)⟩
    | .ok stored => exact ⟨trivial, fun _ hnone => .stored (written_once rfl hnone)⟩

/-- A write is one the errand allows, if it is at every reading of the
clock. -/
theorem along_write {r : Record} {w : WriteCondition}
    (h : ∀ t c, e.Writes t (⟨.connect, .ok c⟩ :: past) (r.touchAt t) w) :
    (write r w).Along e.Allows (fun past' res => written past = [] → Reports r.id past' res)
      past := by
  refine ⟨trivial, fun res => ?_⟩
  match res with
  | .error err => exact fun hnone => .unconnected List.mem_cons_self hnone
  | .ok c =>
    refine ⟨trivial, fun t => ⟨⟨⟨c, by simp⟩, t, _, rfl, h t c⟩, fun res => ?_⟩⟩
    match res with
    | .error e => exact ⟨trivial, fun _ hnone => .lost (written_once rfl hnone)⟩
    | .ok stored => exact ⟨trivial, fun _ hnone => .stored (written_once rfl hnone)⟩

theorem along_upsert (r : Record) (past : List Exchange) :
    (upsert r).Along (Errand.Allows (.request (.upsert r)))
      (fun past' res => written past = [] → Reports r.id past' res) past :=
  along_write fun _ _ => ⟨rfl, rfl⟩

theorem along_upsertWithToken (r : Record) (token : String) (past : List Exchange) :
    (upsertWithToken r token).Along (Errand.Allows (.request (.upsertWithToken r token)))
      (fun past' res => written past = [] → Reports r.id past' res) past :=
  along_write fun _ _ => ⟨rfl, rfl⟩

theorem along_update (id : String) (edit : Edit) (past : List Exchange) :
    (update id edit).Along (Errand.Allows (.update id edit)) (fun _ _ => True) past := by
  refine along_bind ((along_get id past).mono allows_of_reading fun _ _ h => h) ?_
  rintro past' (err | v) hgot
  · exact trivial
  · obtain ⟨-, hread⟩ := hgot v rfl
    refine (along_write fun t c => ?_).mono (fun _ _ h => h) fun _ _ _ => trivial
    exact ⟨v, List.mem_cons_of_mem _ hread, rfl, rfl⟩

/-! ## Deleting -/

theorem along_delete (id : String) (past : List Exchange) :
    (delete id).Along (Errand.Allows (.request (.delete id))) (fun _ _ => True) past := by
  refine ⟨trivial, fun res => ?_⟩
  match res with
  | .error err => exact trivial
  | .ok c =>
    refine ⟨trivial, fun _ => ⟨⟨⟨c, by simp⟩, .inl rfl⟩, fun r => ?_⟩⟩
    match r with
    | .ok () | .error .notFound => exact trivial
    | .error (.alreadyExists) | .error (.preconditionFailed) | .error (.failure ..) =>
      exact ⟨trivial, fun _ => trivial⟩

theorem along_countTimes (c : Counter) (n : Nat) (hlinked : Linked past) :
    (countTimes c n).Along e.Allows (fun past' _ => Linked past') past := by
  induction n generalizing past with
  | zero => exact hlinked
  | succ n ih => exact ⟨trivial, fun _ => ih (hlinked.cons _)⟩

/-- Induction on the outcomes: only events are counted. -/
theorem along_tally (report : BulkDelete) (outcomes : List (String × Except BackendError Unit))
    (hlinked : Linked past) :
    (tally report outcomes).Along e.Allows (fun past' _ => Linked past') past := by
  induction outcomes generalizing report past with
  | nil => exact hlinked
  | cons outcome rest ih =>
    obtain ⟨id, r⟩ := outcome
    match r with
    | .ok () | .error .notFound => exact ih _ hlinked
    | .error (.alreadyExists) | .error (.preconditionFailed) | .error (.failure ..) =>
      exact ⟨trivial, fun _ => ih _ (hlinked.cons _)⟩

/-- Induction on the waves. -/
theorem along_deleteWaves {ids : List String} (report : BulkDelete) (waves : List (List String))
    (hlinked : Linked past) :
    (deleteWaves report waves).Along (Errand.Allows (.request (.deleteMany ids)))
      (fun _ _ => True) past := by
  induction waves generalizing report past with
  | nil => exact trivial
  | cons wave rest ih =>
    refine along_bind (along_countTimes .delete wave.length hlinked) fun past' _ hlinked' => ?_
    refine ⟨⟨hlinked', ids, rfl⟩, fun outcomes => ?_⟩
    show Call.Along _ _ _ (tally report (wave.zip outcomes) >>= fun report =>
      deleteWaves report rest)
    exact along_bind (along_tally report _ (hlinked'.cons _)) fun past'' report' h => ih report' h

theorem along_deleteMany (ids : List String) (past : List Exchange) :
    (deleteMany ids).Along (Errand.Allows (.request (.deleteMany ids))) (fun _ _ => True)
      past := by
  refine ⟨trivial, fun res => ?_⟩
  match res with
  | .error err => exact trivial
  | .ok c =>
    show Call.Along _ _ _
      (deleteWaves _ (waves c.maxPending ids) >>= fun report => done (Except.ok report))
    exact along_bind (along_deleteWaves _ _ ⟨c, List.mem_cons_self⟩) fun _ _ _ => trivial

theorem along_healthCheck (past : List Exchange) :
    healthCheck.Along e.Allows (fun _ _ => True) past := by
  refine ⟨trivial, fun res => ?_⟩
  match res with
  | .error err => exact trivial
  | .ok c =>
    refine ⟨⟨c, List.mem_cons_self⟩, fun r => ?_⟩
    match r with
    | .ok () | .error (.failure ..) | .error .notFound | .error .alreadyExists
    | .error .preconditionFailed => exact trivial

/-! ## Locking -/

theorem along_readForLock (id : String) (past : List Exchange) :
    (readForLock id).Along Reading (fun past' res => ∀ v, res = .ok (some v) → Got id past' v)
      past := by
  refine along_bind (along_get id past) ?_
  rintro past' (err | v) hgot
  · cases err <;> exact fun v h => nomatch h
  · intro v' h
    cases h
    exact hgot v rfl

/-- A record was written. -/
def Wrote (past : List Exchange) : Prop := ∃ r w stored, ⟨.upsert r w, .ok stored⟩ ∈ past

/-- A write back is one that the errand allows, and its success is a
successful write. -/
theorem along_writeBack {r : Record} {t : Instant} {before : List Exchange}
    (hlinked : Linked before) (h : e.Writes t before r (.ofToken r.token)) :
    (writeBack r).Along e.Allows (fun past' ok => ok = true → Wrote past')
      (⟨.now, t⟩ :: before) := by
  refine ⟨⟨hlinked.cons _, t, before, rfl, h⟩, fun res => ?_⟩
  match res with
  | .ok stored =>
    exact ⟨trivial, fun _ _ =>
      ⟨r, .ofToken r.token, stored, List.mem_cons_of_mem _ List.mem_cons_self⟩⟩
  | .error err => exact ⟨trivial, fun _ h => nomatch h⟩

/-- An attempt to lock, as a whole errand or as one of several tries. -/
theorem along_tryToLock {id : String} {owner : Owner} {seconds : Nat}
    (h : ∀ t before v, ⟨.read id, .ok v⟩ ∈ before → v.isLockedByOthersAt owner t = false →
      e.Writes t before ((v.touchAt t).lockAt owner seconds t) (.ofToken v.token))
    (past : List Exchange) :
    (tryToLock id owner seconds).Along e.Allows (fun past' res => res = .ok true → Wrote past')
      past := by
  refine along_bind ((along_readForLock id past).mono allows_of_reading fun _ _ h => h) ?_
  rintro past' (err | _ | v) hgot
  · exact fun h => nomatch h
  · exact ⟨trivial, fun _ h => nomatch h⟩
  · obtain ⟨hlinked, hread⟩ := hgot v rfl
    refine ⟨trivial, fun t => ?_⟩
    show Call.Along _ _ _ (if v.isLockedByOthersAt owner t then _ else _)
    split
    case isTrue => exact ⟨trivial, fun _ h => nomatch h⟩
    case isFalse hfree =>
      refine along_bind (along_writeBack hlinked
        (h t past' v hread (Bool.not_eq_true _ ▸ hfree))) ?_
      rintro past'' (_ | _) hwrote
      · exact ⟨trivial, fun _ h => nomatch h⟩
      · refine ⟨trivial, fun _ _ => ?_⟩
        obtain ⟨r, w, stored, hmem⟩ := hwrote rfl
        exact ⟨r, w, stored, List.mem_cons_of_mem _ hmem⟩

/-- A lock that is held is ended only by its owner. -/
theorem released_of_unlockAt {v released : Record} {owner : Owner} {t : Instant}
    (hlocked : v.isLockedAt t = true)
    (h : (v.touchAt t).unlockAt owner t = .ok released) :
    v.lockOwner = owner ∧ released = (v.touchAt t).released := by
  have htouched : (v.touchAt t).isLockedAt t = true := hlocked
  rw [Record.unlockAt, htouched, Record.canUnlockAt, htouched] at h
  cases howned : (v.touchAt t).isOwnedBy owner with
  | false => simp [howned] at h
  | true =>
    simp only [howned, Bool.not_true, Bool.false_eq_true, if_false, Bool.or_true, if_true] at h
    exact ⟨Record.isOwnedBy_iff.1 howned, (Except.ok.inj h).symm⟩

/-- What was read is written back without its lock, if the owner held it. -/
theorem along_release {id : String} {owner : Owner} {past : List Exchange} {v : Record}
    {t : Instant} (hlinked : Linked past) (hread : ⟨.read id, .ok v⟩ ∈ past)
    (hlocked : v.isLockedAt t = true) :
    (release v owner t).Along (Errand.Allows (.request (.tryToUnlock id owner)))
      (fun _ _ => True) (⟨.now, t⟩ :: past) := by
  unfold release
  split
  case h_1 => exact ⟨trivial, fun _ => trivial⟩
  case h_2 released hunlock =>
    obtain ⟨howner, rfl⟩ := released_of_unlockAt hlocked hunlock
    refine along_bind (along_writeBack (r := (v.touchAt t).released) hlinked
      ⟨v, hread, hlocked, howner, rfl, rfl⟩) ?_
    intro past' ok _
    cases ok with
    | false => exact ⟨trivial, fun _ => trivial⟩
    | true => exact ⟨trivial, fun _ => trivial⟩

theorem along_tryToUnlock (id : String) (owner : Owner) (past : List Exchange) :
    (tryToUnlock id owner).Along (Errand.Allows (.request (.tryToUnlock id owner)))
      (fun _ _ => True) past := by
  refine along_bind ((along_readForLock id past).mono allows_of_reading fun _ _ h => h) ?_
  rintro past' (err | _ | v) hgot
  · exact trivial
  · exact ⟨trivial, fun _ => trivial⟩
  · obtain ⟨hlinked, hread⟩ := hgot v rfl
    refine ⟨trivial, fun t => ?_⟩
    show Call.Along _ _ _ (if !v.isLockedAt t then _ else _)
    split
    case isTrue => exact ⟨trivial, fun _ => trivial⟩
    case isFalse hlocked => exact along_release hlinked hread (by simpa using hlocked)

theorem along_pauseThen {policy : RetryPolicy} {n : Nat}
    {rest : Call (Option (Except StoreError Bool))}
    {Q : List Exchange → Option (Except StoreError Bool) → Prop}
    (hnone : ∀ past, Q past none) (hrest : ∀ past, rest.Along e.Allows Q past)
    (past : List Exchange) : (pauseThen policy n rest).Along e.Allows Q past := by
  unfold pauseThen
  refine along_perform (a := .draw _) trivial fun jitter => ?_
  cases policy.delay? n jitter with
  | none => exact hnone _
  | some d => exact along_perform (a := .pause d) trivial fun _ => hrest _

/-- Induction on the attempts left. -/
theorem along_retryFrom {policy : RetryPolicy} {attempt : Call (Except StoreError Bool)}
    (hattempt : ∀ past,
      attempt.Along e.Allows (fun past' res => res = .ok true → Wrote past') past)
    (left n : Nat) (past : List Exchange) :
    (retryFrom policy attempt left n).Along e.Allows
      (fun past' res => res = some (.ok true) → Wrote past') past := by
  induction left generalizing n past with
  | zero => exact fun h => nomatch h
  | succ left ih =>
    unfold retryFrom
    refine along_bind (hattempt past) ?_
    rintro past' (err | _ | _) hwrote
    · exact fun h => nomatch h
    · dsimp only
      split
      case isTrue => exact fun h => nomatch h
      case isFalse => exact along_pauseThen (fun _ h => nomatch h) (fun past => ih (n + 1) past) _
    · exact fun _ => hwrote rfl

end Operation

/-- What a call answers, wrapped. -/
theorem Call.Along.wrap {α : Type} {P : List Exchange → Action → Prop}
    {Q : List Exchange → α → Prop} {Q' : List Exchange → Answer → Prop} {x : Call α}
    {past : List Exchange} (h : x.Along P Q past) (f : α → Answer)
    (hQ : ∀ past a, Q past a → Q' past (f a)) : (x >>= fun a => done (f a)).Along P Q' past :=
  along_bind h hQ

open Operation in
/-- **Every errand keeps to the rules**, from its first action to its
answer. -/
theorem Errand.conduct (e : Errand) : e.call.Along e.Allows e.Earned [] := by
  cases e with
  | update id edit => exact (along_update id edit []).wrap .record fun _ _ _ => trivial
  | request q =>
    cases q with
    | get id =>
      exact ((along_get id []).mono allows_of_reading fun _ _ h => h).wrap .record
        fun _ _ _ => trivial
    | contains id =>
      exact ((along_contains id []).mono allows_of_reading fun _ _ h => h).wrap .truth
        fun _ _ _ => trivial
    | getAll =>
      exact ((along_getAll []).mono allows_of_reading fun _ _ h => h).wrap .records
        fun _ _ _ => trivial
    | create r => exact (along_create r []).wrap .record fun _ res h => ⟨res, rfl, h rfl⟩
    | upsert r => exact (along_upsert r []).wrap .record fun _ res h => ⟨res, rfl, h rfl⟩
    | upsertWithToken r token =>
      exact (along_upsertWithToken r token []).wrap .record fun _ res h => ⟨res, rfl, h rfl⟩
    | delete id => exact (along_delete id []).wrap .unit fun _ _ _ => trivial
    | deleteMany ids => exact (along_deleteMany ids []).wrap .report fun _ _ _ => trivial
    | tryToLock id owner seconds =>
      -- a lock that is answered true has been written, which is all that it has to have earned
      refine (along_tryToLock ?_ []).wrap .truth fun past res h => ?_
      · exact fun t before v hread hfree => ⟨v, hread, hfree, rfl, rfl⟩
      · rcases res with err | _ | _
        · exact trivial
        · exact trivial
        · exact h rfl
    | tryToUnlock id owner =>
      exact (along_tryToUnlock id owner []).wrap .truth fun _ _ _ => trivial
    | lockWithRetry id owner seconds policy =>
      refine (along_retryFrom (along_tryToLock ?_) policy.attempts 0 []).wrap .retried
        fun past res h => ?_
      · exact fun t before v hread hfree => ⟨v, hread, hfree, rfl, rfl⟩
      · rcases res with _ | err | _ | _
        · exact trivial
        · exact trivial
        · exact trivial
        · exact h rfl
    | healthCheck => exact (along_healthCheck []).wrap .unit fun _ _ _ => trivial

end LeaseStore
