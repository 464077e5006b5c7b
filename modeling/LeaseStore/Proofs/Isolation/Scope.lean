/-
LeaseStore.Proofs.Isolation.Scope — the records that a request is about.

A request names ids: the one of its record, those of a bulk delete, all of
them for a scan (`Request.Names`). Whatever the store replies, as long as a
read is shown no record of another id, the request asks for nothing but the
records of these ids, and lets no time pass (`Request.minds`). So it leaves
every other record, and the clock, as they are (`Request.spares`).
-/
import LeaseStore.Proofs.Runs.Refusal
import LeaseStore.Proofs.Runs.Roundtrip

namespace LeaseStore

/-! ## What an action is about -/

/-- The request is about the record of this id. -/
def Request.Names : Request → String → Prop
  | .get id, x | .contains id, x | .delete id, x => x = id
  | .tryToLock id _ _, x | .tryToUnlock id _, x | .lockWithRetry id _ _ _, x => x = id
  | .create r, x | .upsert r, x | .upsertWithToken r _, x => x = r.id
  | .deleteMany ids, x => x ∈ ids
  | .getAll, _ => True
  | .healthCheck, _ => False

instance Request.decidableNames : (q : Request) → (id : String) → Decidable (q.Names id)
  | .get id, x | .contains id, x | .delete id, x => inferInstanceAs (Decidable (x = id))
  | .tryToLock id _ _, x | .tryToUnlock id _, x | .lockWithRetry id _ _ _, x =>
    inferInstanceAs (Decidable (x = id))
  | .create r, x | .upsert r, x | .upsertWithToken r _, x =>
    inferInstanceAs (Decidable (x = r.id))
  | .deleteMany ids, x => inferInstanceAs (Decidable (x ∈ ids))
  | .getAll, _ => .isTrue trivial
  | .healthCheck, _ => .isFalse fun h => h

/-- The action asks for nothing but records whose ids satisfy `p`. It lets no
time pass and asks no chance. -/
def Action.Concerns (p : String → Prop) : Action → Prop
  | .read id | .delete id => p id
  | .create r => p r.id
  | .upsert r w => p r.id ∧ ∃ token, w = .ofToken token
  | .deleteWave ids => ∀ id ∈ ids, p id
  | .list => ∀ id, p id
  | .pause _ | .draw _ => False
  | .connect | .now | .health | .count _ => True

/-- A read was not shown the record of another id. -/
def Exchange.Honest : Exchange → Prop
  | ⟨.read id, .ok v⟩ => v.id = id
  | _ => True

theorem Action.Concerns.condition {p : String → Prop} {a : Action} (h : a.Concerns p) :
    ∀ r w, a = .upsert r w → ∃ token, w = .ofToken token := by
  rintro r w rfl
  exact h.2

/-- An action touches nothing but what it is about. -/
theorem Action.Concerns.touched {p : String → Prop} {a : Action} (h : a.Concerns p)
    (reply : a.Reply) : ∀ id ∈ (⟨a, reply⟩ : Exchange).touched, p id := by
  cases a with
  | connect | now | read | list | health | count => exact fun _ hid => nomatch hid
  | pause | draw => exact h.elim
  | create r =>
    rintro id hid
    cases reply with
    | error => cases hid
    | ok => rwa [List.mem_singleton.1 hid]
  | upsert r w =>
    rintro id hid
    cases reply with
    | error => cases hid
    | ok =>
      rw [List.mem_singleton.1 hid]
      exact h.1
  | delete id' =>
    rintro id hid
    cases reply with
    | error => cases hid
    | ok => rwa [List.mem_singleton.1 hid]
  | deleteWave ids =>
    intro id hid
    obtain ⟨⟨id', r⟩, hmem, hsome⟩ := List.mem_filterMap.1 hid
    cases r with
    | error => cases hsome
    | ok =>
      cases hsome
      exact h id (List.of_mem_zip hmem).1

/-! ## What a call is about -/

namespace Call

variable {α β : Type} {p : String → Prop} {Q : α → Prop} {R : β → Prop}

/-- On every path of honest replies the call is about records whose ids satisfy
`p`, and `Q` holds at the end. It cannot be said of all replies, as `Along`
does: what a lock writes back has the id of the record it was shown. -/
def Minds (p : String → Prop) (Q : α → Prop) : Call α → Prop
  | done a => Q a
  | act a next => a.Concerns p ∧ ∀ r, Exchange.Honest ⟨a, r⟩ → (next r).Minds p Q

/-- Induction on the first call: the second goes on at each of its ends. -/
theorem Minds.bind {x : Call α} {f : α → Call β} (hx : x.Minds p Q)
    (hf : ∀ a, Q a → (f a).Minds p R) : (x >>= f).Minds p R := by
  induction x with
  | done a => exact hf a hx
  | act a next ih => exact ⟨hx.1, fun r hr => ih r (hx.2 r hr)⟩

/-- An operation that only passes its answer on. -/
theorem Minds.wrap {x : Call α} (hx : x.Minds p Q) (f : α → Answer) :
    (x >>= fun a => done (f a)).Minds p fun _ => True :=
  hx.bind fun _ _ => trivial

end Call

/-! ## The operations -/

namespace Operation

open Call

variable {p : String → Prop} {id : String}

theorem minds_classify (id : String) (err : BackendError) {α : Type} {f : StoreError → α}
    {Q : α → Prop} (hQ : ∀ err, Q (f err)) :
    (classify id err >>= fun err => done (f err)).Minds p Q :=
  ⟨trivial, fun _ _ => hQ _⟩

theorem minds_purge (h : p id) : (purge id).Minds p fun _ => True := by
  refine ⟨trivial, fun _ _ => ⟨h, fun r _ => ?_⟩⟩
  match r with
  | .ok () => exact ⟨trivial, fun _ _ => trivial⟩
  | .error .notFound => exact trivial
  | .error (.alreadyExists) | .error (.preconditionFailed) | .error (.failure ..) =>
    exact ⟨trivial, fun _ _ => trivial⟩

theorem minds_purgeAll {ids : List String} (h : ∀ id ∈ ids, p id) :
    (purgeAll ids).Minds p fun _ => True := by
  induction ids with
  | nil => exact trivial
  | cons id ids ih =>
    obtain ⟨hid, hids⟩ := List.forall_mem_cons.1 h
    exact (minds_purge hid).bind fun _ _ => ih hids

/-- What is found has the id that was asked for. -/
theorem minds_get (h : p id) :
    (get id).Minds p fun res => ∀ v, res = .ok v → v.id = id := by
  refine ⟨trivial, fun c _ => ?_⟩
  match c with
  | .error err => exact fun v h => nomatch h
  | .ok c =>
    refine ⟨trivial, fun _ _ => ⟨h, fun r hr => ?_⟩⟩
    match r with
    | .error err => exact minds_classify id err fun _ v h => nomatch h
    | .ok v =>
      refine ⟨trivial, fun t _ => ?_⟩
      show Call.Minds _ _ (if v.isExpiredAt t then _ else _)
      split
      case isTrue =>
        refine (minds_purge h).bind fun _ _ => ?_
        exact ⟨trivial, fun _ _ v h => nomatch h⟩
      case isFalse =>
        rintro v' ⟨⟩
        exact hr

theorem minds_contains (h : p id) : (contains id).Minds p fun _ => True := by
  refine (minds_get h).bind ?_
  rintro (err | v) -
  · cases err <;> exact trivial
  · exact trivial

theorem minds_getAll (h : ∀ id, p id) : getAll.Minds p fun _ => True := by
  refine ⟨trivial, fun c _ => ?_⟩
  match c with
  | .error err => exact trivial
  | .ok c =>
    refine ⟨trivial, fun _ _ => ⟨h, fun r _ => ?_⟩⟩
    match r with
    | .error err => exact minds_classify "*" err fun _ => trivial
    | .ok rs =>
      refine ⟨trivial, fun t _ => ?_⟩
      show Call.Minds _ _
        (purgeAll ((rs.partition (·.isExpiredAt t)).1.map (·.id)) >>= fun _ => done _)
      exact (minds_purgeAll fun id _ => h id).bind fun _ _ => trivial

theorem minds_healthCheck : healthCheck.Minds p fun _ => True := by
  refine ⟨trivial, fun c _ => ?_⟩
  match c with
  | .error err => exact trivial
  | .ok c =>
    refine ⟨trivial, fun r _ => ?_⟩
    match r with
    | .ok () | .error (.failure ..) | .error .notFound | .error .alreadyExists
    | .error .preconditionFailed => exact trivial

theorem minds_create {r : Record} (h : p r.id) : (create r).Minds p fun _ => True := by
  refine ⟨trivial, fun c _ => ?_⟩
  match c with
  | .error err => exact trivial
  | .ok c =>
    refine ⟨trivial, fun t _ => ⟨h, fun res _ => ?_⟩⟩
    match res with
    | .error err => exact minds_classify r.id err fun _ => trivial
    | .ok stored => exact ⟨trivial, fun _ _ => trivial⟩

theorem minds_write {r : Record} (h : p r.id) (token : String) :
    (write r (.ofToken token)).Minds p fun _ => True := by
  refine ⟨trivial, fun c _ => ?_⟩
  match c with
  | .error err => exact trivial
  | .ok c =>
    refine ⟨trivial, fun t _ => ⟨⟨h, token, rfl⟩, fun res _ => ?_⟩⟩
    match res with
    | .error err => exact minds_classify r.id err fun _ => trivial
    | .ok stored => exact ⟨trivial, fun _ _ => trivial⟩

theorem minds_delete (h : p id) : (delete id).Minds p fun _ => True := by
  refine ⟨trivial, fun c _ => ?_⟩
  match c with
  | .error err => exact trivial
  | .ok c =>
    refine ⟨trivial, fun _ _ => ⟨h, fun r _ => ?_⟩⟩
    match r with
    | .ok () | .error .notFound => exact trivial
    | .error (.alreadyExists) | .error (.preconditionFailed) | .error (.failure ..) =>
      exact ⟨trivial, fun _ _ => trivial⟩

theorem minds_countTimes (n : Counter) (m : Nat) : (countTimes n m).Minds p fun _ => True := by
  induction m with
  | zero => exact trivial
  | succ m ih => exact ⟨trivial, fun _ _ => ih⟩

theorem minds_tally (report : BulkDelete) (outcomes : List (String × Except BackendError Unit)) :
    (tally report outcomes).Minds p fun _ => True := by
  induction outcomes generalizing report with
  | nil => exact trivial
  | cons outcome rest ih =>
    obtain ⟨id, r⟩ := outcome
    match r with
    | .ok () | .error .notFound => exact ih _
    | .error (.alreadyExists) | .error (.preconditionFailed) | .error (.failure ..) =>
      exact ⟨trivial, fun _ _ => ih _⟩

/-- Induction on the waves. -/
theorem minds_deleteWaves (report : BulkDelete) {waves : List (List String)}
    (h : ∀ id ∈ waves.flatten, p id) : (deleteWaves report waves).Minds p fun _ => True := by
  induction waves generalizing report with
  | nil => exact trivial
  | cons wave rest ih =>
    rw [List.flatten_cons] at h
    refine (minds_countTimes .delete wave.length).bind fun _ _ => ?_
    refine ⟨fun id hid => h id (List.mem_append_left _ hid), fun outcomes _ => ?_⟩
    show Call.Minds _ _ (tally report (wave.zip outcomes) >>= fun report =>
      deleteWaves report rest)
    exact (minds_tally report _).bind fun report' _ =>
      ih report' fun id hid => h id (List.mem_append_right _ hid)

theorem minds_deleteMany {ids : List String} (h : ∀ id ∈ ids, p id) :
    (deleteMany ids).Minds p fun _ => True := by
  refine ⟨trivial, fun c _ => ?_⟩
  match c with
  | .error err => exact trivial
  | .ok c =>
    show Call.Minds _ _
      (deleteWaves _ (waves c.maxPending ids) >>= fun report => done (Except.ok report))
    refine (minds_deleteWaves _ ?_).bind fun _ _ => trivial
    rwa [flatten_waves]

theorem minds_readForLock (h : p id) :
    (readForLock id).Minds p fun res => ∀ v, res = .ok (some v) → v.id = id := by
  refine (minds_get h).bind ?_
  rintro (err | v) hid
  · cases err <;> exact fun v h => nomatch h
  · rintro v' ⟨⟩
    exact hid v rfl

theorem minds_writeBack {r : Record} (h : p r.id) : (writeBack r).Minds p fun _ => True := by
  refine ⟨⟨h, r.token, rfl⟩, fun res _ => ?_⟩
  match res with
  | .ok stored => exact ⟨trivial, fun _ _ => trivial⟩
  | .error err => exact ⟨trivial, fun _ _ => trivial⟩

theorem minds_tryToLock (h : p id) (owner : Owner) (seconds : Nat) :
    (tryToLock id owner seconds).Minds p fun _ => True := by
  refine (minds_readForLock h).bind ?_
  rintro (err | _ | v) hid
  · exact trivial
  · exact ⟨trivial, fun _ _ => trivial⟩
  · have hv : p v.id := by rwa [hid v rfl]
    refine ⟨trivial, fun t _ => ?_⟩
    show Call.Minds _ _ (if v.isLockedByOthersAt owner t then _ else _)
    split
    case isTrue => exact ⟨trivial, fun _ _ => trivial⟩
    case isFalse =>
      refine (minds_writeBack (r := (v.touchAt t).lockAt owner seconds t) hv).bind fun ok _ => ?_
      cases ok with
      | true | false => exact ⟨trivial, fun _ _ => trivial⟩

/-- To end a lock does not change the id. -/
theorem id_of_unlockAt {v released : Record} {owner : Owner} {t : Instant}
    (h : v.unlockAt owner t = .ok released) : released.id = v.id := by
  unfold Record.unlockAt at h
  split at h
  case isTrue =>
    cases h
    rfl
  case isFalse =>
    split at h
    case isTrue =>
      cases h
      rfl
    case isFalse => cases h

theorem minds_release {v : Record} (h : p v.id) (owner : Owner) (t : Instant) :
    (release v owner t).Minds p fun _ => True := by
  unfold release
  split
  case h_1 => exact ⟨trivial, fun _ _ => trivial⟩
  case h_2 released hended =>
    have hreleased : p released.id := by
      rw [id_of_unlockAt hended]
      exact h
    refine (minds_writeBack hreleased).bind fun ok _ => ?_
    cases ok with
    | true | false => exact ⟨trivial, fun _ _ => trivial⟩

theorem minds_tryToUnlock (h : p id) (owner : Owner) :
    (tryToUnlock id owner).Minds p fun _ => True := by
  refine (minds_readForLock h).bind ?_
  rintro (err | _ | v) hid
  · exact trivial
  · exact ⟨trivial, fun _ _ => trivial⟩
  · refine ⟨trivial, fun t _ => ?_⟩
    show Call.Minds _ _ (if !v.isLockedAt t then _ else _)
    split
    case isTrue => exact ⟨trivial, fun _ _ => trivial⟩
    case isFalse => exact minds_release (by rwa [hid v rfl]) owner t

end Operation

open Operation in
/-- **A request is about the records that it names**, unless it waits in
between. Cases on the request. -/
theorem Request.minds {q : Request} (hq : ¬ q.Waits) :
    q.call.Minds q.Names fun _ => True := by
  cases q with
  | get id => exact (minds_get (p := Names (.get id)) rfl).wrap .record
  | contains id => exact (minds_contains (p := Names (.contains id)) rfl).wrap .truth
  | getAll => exact (minds_getAll (p := Names .getAll) fun _ => trivial).wrap .records
  | create r => exact (minds_create (p := Names (.create r)) rfl).wrap .record
  | upsert r => exact (minds_write (p := Names (.upsert r)) rfl r.token).wrap .record
  | upsertWithToken r token =>
    exact (minds_write (p := Names (.upsertWithToken r token)) rfl token).wrap .record
  | delete id => exact (minds_delete (p := Names (.delete id)) rfl).wrap .unit
  | deleteMany ids =>
    exact (minds_deleteMany (p := Names (.deleteMany ids)) fun _ hid => hid).wrap .report
  | tryToLock id owner seconds =>
    exact (minds_tryToLock (p := Names (.tryToLock id owner seconds)) rfl owner seconds).wrap .truth
  | tryToUnlock id owner =>
    exact (minds_tryToUnlock (p := Names (.tryToUnlock id owner)) rfl owner).wrap .truth
  | lockWithRetry => exact absurd trivial hq
  | healthCheck => exact minds_healthCheck.wrap .unit

/-! ## What a request leaves alone -/

variable {σ : Type} {V : View σ} {c c' : CollectionRef} {id : String}

/-- A sound store shows no read the record of another id. -/
theorem View.Reads.honest {s s' : σ} (hs : V.Sound s) {reply : Except BackendError Record}
    (h : V.Reads s s' c id reply) : Exchange.Honest ⟨.read id, reply⟩ := by
  cases h with
  | found hlook => exact V.id_of_look hs hlook
  | absent | failed => exact trivial

namespace Session

variable {s : Session σ}

/-- Neither does a session that is fit. -/
theorem Fit.honest (h : s.Fit V c) (a : Action) : Exchange.Honest ⟨a, (s.perform a).1⟩ := by
  cases a with
  | read id =>
    cases hl : s.engine.link with
    | none =>
      have heq : s.perform (.read id) = (.error unlinked, s) := request_unlinked hl _
      rw [heq]
      exact trivial
    | some l =>
      obtain ⟨reply, st, heq, hreads⟩ := h.perform_read hl id
      rw [heq]
      exact hreads.honest h.sound
  | _ => exact trivial

/-- Only a pause takes time. -/
theorem Fit.clock_perform (h : s.Fit V c) {p : String → Prop} {a : Action} (ha : a.Concerns p) :
    (s.perform a).2.world.clock = s.world.clock := by
  by_cases hneeds : a.NeedsLink
  · cases hl : s.engine.link with
    | none => rw [perform_unlinked hl hneeds]
    | some l =>
      obtain ⟨reply, st, heq, -⟩ := h.perform_linked hl hneeds ha.condition
      rw [heq]
      rfl
  · cases a with
    | connect => exact h.connect.2.clock
    | now | count => rfl
    | pause | draw => exact ha.elim
    | read | list | create | upsert | delete | deleteWave | health => exact absurd trivial hneeds

/-- One session is another, but for records other than this one. -/
structure Spares (V : View σ) (c c' : CollectionRef) (id : String) (s s' : Session σ) : Prop where
  look : V.look s'.world.store c' id = V.look s.world.store c' id
  clock : s'.world.clock = s.world.clock
  fit : s'.Fit V c
  passes : V.Passes s.world.store s'.world.store

theorem Spares.trans {s' s'' : Session σ} (h : Spares V c c' id s s')
    (h' : Spares V c c' id s' s'') : Spares V c c' id s s'' :=
  ⟨h'.look.trans h.look, h'.clock.trans h.clock, h'.fit, h.passes.trans h'.passes⟩

/-- An action leaves a record that it is not about. -/
theorem Fit.spares_perform (h : s.Fit V c) {p : String → Prop} {a : Action} (ha : a.Concerns p)
    (hnot : V.shelf c' = V.shelf c → ¬ p id) : Spares V c c' id s (s.perform a).2 := by
  obtain ⟨hlasts, -⟩ := h.perform ha.condition
  refine ⟨?_, h.clock_perform ha, hlasts.fit, hlasts.passes⟩
  exact h.look_perform ha.condition fun hshelf _ hmem =>
    hnot hshelf (ha.touched _ id hmem)

end Session

/-- A call leaves a record that it is not about. Induction on the call: no
reply to it is dishonest. -/
theorem Call.Minds.spares {α : Type} {x : Call α} {p : String → Prop} {Q : α → Prop}
    (hx : x.Minds p Q) {s : Session σ} (h : s.Fit V c)
    (hnot : V.shelf c' = V.shelf c → ¬ p id) : Session.Spares V c c' id s (x.run s).2 := by
  induction x generalizing s with
  | done a => exact ⟨rfl, rfl, h, (View.Same.refl _).toPasses⟩
  | act a next ih =>
    have hfirst := h.spares_perform hx.1 hnot
    exact hfirst.trans (ih _ (hx.2 _ (h.honest a)) hfirst.fit)

/-- **A request leaves a record that it does not name**, and the clock. -/
theorem Request.spares {q : Request} (hq : ¬ q.Waits) {s : Session σ} (h : s.Fit V c)
    (hnot : V.shelf c' = V.shelf c → ¬ q.Names id) :
    Session.Spares V c c' id s (q.call.run s).2 :=
  (minds hq).spares h hnot

end LeaseStore
