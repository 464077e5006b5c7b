/-
LeaseStore.Proofs.Runs.Reading — reads that run by themselves.

Each operation first connects, and what it does then is said of a session that
is linked (`Operation.run_connected`). A read that runs by itself finds the
record under its id if that is there and has not expired, and says that there
is none if it is absent or expired; whatever happens, it takes no record away
but one that had expired (`Session.Gets`). A scan lists what has not expired
(`Session.Scans`).
-/
import LeaseStore.Operation.Lock
import LeaseStore.Proofs.Runs.Session

namespace LeaseStore

variable {σ : Type} {V : View σ} {c : CollectionRef}

namespace Session

/-- The outcomes of a read, which can fail only if all is not `fine`. -/
inductive Gets (V : View σ) (c : CollectionRef) (id : String) (fine : Prop) (s s' : Session σ) :
    Except StoreError Record → Prop
  | found {r : Record} {l : Link σ} : V.look s.world.store c id = some r →
      r.isExpiredAt s.world.clock = false → V.Same s.world.store s'.world.store →
      s'.engine.link = some l → Gets V c id fine s s' (.ok r)
  | missing : V.Dead s.world.clock s.world.store c id →
      V.Clears s.world.clock s.world.store s'.world.store →
      Gets V c id fine s s' (.error (.notFound id))
  | failed {err : StoreError} : ¬ fine → V.Same s.world.store s'.world.store →
      Gets V c id fine s s' (.error err)

/-- The outcomes of a scan: what a collection holds, but for what has expired. -/
inductive Scans (V : View σ) (c : CollectionRef) (fine : Prop) (s s' : Session σ) :
    Except StoreError (List Record) → Prop
  | listed {rs : List Record} : V.Holds s.world.store c rs →
      V.Clears s.world.clock s.world.store s'.world.store →
      Scans V c fine s s' (.ok (rs.filter fun r => !r.isExpiredAt s.world.clock))
  | failed {err : StoreError} : ¬ fine → V.Same s.world.store s'.world.store →
      Scans V c fine s s' (.error err)

variable {s s₁ s' : Session σ} {id : String} {fine fine' : Prop}

/-- To connect may come before a read. -/
theorem Gets.of_same {reply : Except StoreError Record}
    (hsame : V.Same s.world.store s₁.world.store) (hclock : s₁.world.clock = s.world.clock)
    (hfine : fine → fine') (h : Gets V c id fine' s₁ s' reply) : Gets V c id fine s s' reply := by
  cases h with
  | found hlook hexp hsame' hl =>
    exact .found ((hsame.look c id).symm.trans hlook) (hclock ▸ hexp) (hsame.trans hsame') hl
  | missing hdead hclears =>
    rw [hclock] at hdead hclears
    exact .missing (fun r hr => hdead r ((hsame.look c id).trans hr))
      ((hsame.clears _).trans hclears)
  | failed hnot hsame' => exact .failed (fun h => hnot (hfine h)) (hsame.trans hsame')

theorem Scans.of_same {reply : Except StoreError (List Record)}
    (hsame : V.Same s.world.store s₁.world.store) (hclock : s₁.world.clock = s.world.clock)
    (hfine : fine → fine') (h : Scans V c fine' s₁ s' reply) : Scans V c fine s s' reply := by
  cases h with
  | listed hholds hclears =>
    rw [hclock] at hclears ⊢
    refine .listed ⟨hholds.ordered, fun r => ?_⟩ ((hsame.clears _).trans hclears)
    rw [hholds.mem_iff, hsame.look]
  | failed hnot hsame' => exact .failed (fun h => hnot (hfine h)) (hsame.trans hsame')

end Session

namespace Operation

open Call Session

variable {s : Session σ} {l : Link σ}

/-! ## Connecting first -/

/-- An operation that first connects. -/
def connected {α : Type} (x : Config → Call (Except StoreError α)) :
    Call (Except StoreError α) := do
  match ← perform .connect with
  | .error err => return .error err
  | .ok config => x config

theorem run_connected_eq {α : Type} (x : Config → Call (Except StoreError α)) (s : Session σ) :
    (connected x).run s = Call.run (match s.connect.1 with
      | .error err => done (.error err)
      | .ok config => x config) s.connect.2 := rfl

/-- An operation is refused if its engine cannot connect, and else goes on
from the linked session. -/
theorem run_connected {α : Type} (h : s.Fit V c) (x : Config → Call (Except StoreError α)) :
    V.Same s.world.store s.connect.2.world.store ∧ s.Proceeds V c s.connect.2 ∧
    ((∃ err, s.connect.1 = .error err ∧ ¬ s.Ready V ∧
        (connected x).run s = (.error err, s.connect.2)) ∨
      ∃ config l, s.connect.1 = .ok config ∧ s.engine.config = .ready config ∧
        s.connect.2.engine.link = some l ∧ (connected x).run s = (x config).run s.connect.2) := by
  rw [run_connected_eq]
  obtain ⟨hconnects, hproceeds⟩ := h.connect
  cases hreply : s.connect.1 with
  | error err =>
    rw [hreply] at hconnects
    cases hconnects with
    | refused hready hsame =>
      exact ⟨hsame, hproceeds, .inl ⟨err, rfl, hready, rfl⟩⟩
  | ok config =>
    rw [hreply] at hconnects
    cases hconnects with
    | linked hconfig hl hsame =>
      exact ⟨hsame, hproceeds, .inr ⟨config, _, rfl, hconfig, hl, rfl⟩⟩

/-! ## Cleaning up -/

/-- What a cleanup makes of the reply to its delete. -/
def purged : Except BackendError Unit → Call Unit
  | .ok () => perform (.count .expiredPurged)
  | .error .notFound => done ()
  | .error _ => perform (.count .cleanupFailure)

theorem purge_eq (id : String) :
    purge id = act (.count .delete) fun _ => act (.delete id) purged := by
  refine congrArg (act (.count .delete)) (funext fun _ => congrArg (act (.delete id)) ?_)
  funext reply
  cases reply with
  | ok => rfl
  | error e => cases e <;> rfl

theorem run_purge_eq (id : String) (s : Session σ) :
    (purge id).run s = (purged ((s.count .delete).perform (.delete id)).1).run
      ((s.count .delete).perform (.delete id)).2 := by
  rw [purge_eq]
  rfl

/-- Whatever the reply is, it is counted at most. -/
theorem run_purged (reply : Except BackendError Unit) (s : Session σ) :
    (purged reply).run s = ((), s) ∨ ∃ n, (purged reply).run s = ((), s.count n) := by
  match reply with
  | .ok () => exact .inr ⟨_, rfl⟩
  | .error .notFound => exact .inl rfl
  | .error .alreadyExists | .error .preconditionFailed | .error (.failure ..) =>
    exact .inr ⟨_, rfl⟩

/-- The cleanup of a dead record removes it, or leaves everything. -/
theorem run_purge (h : s.Fit V c) (hl : s.engine.link = some l) {id : String}
    (hdead : V.Dead s.world.clock s.world.store c id) :
    ∃ s', (purge id).run s = ((), s') ∧ s.Proceeds V c s' ∧ s'.engine.link = some l ∧
      V.Clears s.world.clock s.world.store s'.world.store := by
  have hcount := h.count .delete
  obtain ⟨reply, st, heq, hdrops⟩ := hcount.fit.perform_delete hl id
  have hstore := hcount.trans (hcount.fit.withStore hdrops.passes)
  have hclears : V.Clears s.world.clock s.world.store st := by
    cases hdrops with
    | removed _ hrem => exact hrem.clears hdead
    | kept hsame => exact hsame.clears _
  rw [run_purge_eq, heq]
  obtain hrun | ⟨n, hrun⟩ := run_purged reply ((s.count .delete).withStore st)
  · exact ⟨_, hrun, hstore, hl, hclears⟩
  · exact ⟨_, hrun, hstore.trans (hstore.fit.count n), hl, hclears⟩

/-! ## Reading one record -/

/-- What a read makes of the record that it was shown. -/
def judge (id : String) (r : Record) : Call (Except StoreError Record) := do
  let now ← perform .now
  if r.isExpiredAt now then
    purge id
    perform (.count .notFound)
    return .error (.notFound id)
  else return .ok r

/-- What a read does once it is connected. -/
def fetch (id : String) : Call (Except StoreError Record) := do
  perform (.count .get)
  match ← perform (.read id) with
  | .error e => return .error (← classify id e)
  | .ok r => judge id r

theorem get_eq (id : String) : get id = connected fun _ => fetch id := rfl

/-- What a read makes of the reply of the store. -/
def told (id : String) : Except BackendError Record → Call (Except StoreError Record)
  | .error e => classify id e >>= fun err => done (.error err)
  | .ok r => judge id r

theorem run_fetch_eq (id : String) (s : Session σ) :
    (fetch id).run s = (told id ((s.count .get).perform (.read id)).1).run
      ((s.count .get).perform (.read id)).2 := by
  have hrun : (fetch id).run s = Call.run
      (match ((s.count .get).perform (.read id)).1 with
      | .error e => classify id e >>= fun err => done (.error err)
      | .ok r => judge id r) ((s.count .get).perform (.read id)).2 := rfl
  rw [hrun]
  cases ((s.count .get).perform (.read id)).1 <;> rfl

theorem run_judge_eq (id : String) (r : Record) (s : Session σ) :
    (judge id r).run s =
      if r.isExpiredAt s.world.clock then
        (.error (.notFound id), ((purge id).run s).2.count .notFound)
      else (.ok r, s) := by
  have hrun : (judge id r).run s = Call.run (if r.isExpiredAt s.world.clock then
      purge id >>= fun _ => perform (.count .notFound) >>= fun _ => done (.error (.notFound id))
    else done (.ok r)) s := rfl
  rw [hrun]
  split
  case isTrue => rw [run_bind]; rfl
  case isFalse => rfl

theorem run_judge (h : s.Fit V c) (hl : s.engine.link = some l) {id : String} {r : Record}
    (hlook : V.look s.world.store c id = some r) {fine : Prop} :
    ∃ reply s', (judge id r).run s = (reply, s') ∧ s.Proceeds V c s' ∧
      Gets V c id fine s s' reply := by
  rw [run_judge_eq]
  split
  case isTrue hexp =>
    have hdead := View.dead_of_some hlook hexp
    obtain ⟨s', hpurge, hproceeds, -, hclears⟩ := run_purge h hl hdead
    rw [hpurge]
    exact ⟨_, _, rfl, hproceeds.trans (hproceeds.fit.count .notFound), .missing hdead hclears⟩
  case isFalse hexp =>
    exact ⟨_, _, rfl, h.proceeds, .found hlook (Bool.not_eq_true _ ▸ hexp) (.refl _) hl⟩

theorem run_fetch (h : s.Fit V c) (hl : s.engine.link = some l) (id : String) :
    ∃ reply s', (fetch id).run s = (reply, s') ∧ s.Proceeds V c s' ∧
      Gets V c id (V.Calm s.world.store) s s' reply := by
  have hcount := h.count .get
  obtain ⟨reply, st, heq, hreads⟩ := hcount.fit.perform_read hl id
  have hstore := hcount.trans (hcount.fit.withStore hreads.same.toPasses)
  rw [run_fetch_eq, heq]
  cases hreads with
  | absent hnone hsame =>
    exact ⟨_, _, rfl, hstore.trans (hstore.fit.count .notFound),
      .missing (View.dead_of_none hnone) (hsame.clears _)⟩
  | failed hcalm hsame =>
    refine ⟨_, _, rfl, hstore.trans (hstore.fit.count _), .failed (fun hc => hcalm ⟨hc, ?_⟩) hsame⟩
    exact (h.link l hl).2.2
  | found hlook hsame =>
    obtain ⟨reply, s', hjudge, hproceeds, hgets⟩ :=
      run_judge hstore.fit hl ((hsame.look c id).trans hlook)
    have hmid : V.Same s.world.store ((s.count .get).withStore st).world.store := hsame
    exact ⟨reply, s', hjudge, hstore.trans hproceeds, hgets.of_same hmid rfl fun h => h⟩

/-- **What a read comes to.** -/
theorem run_get (h : s.Fit V c) (id : String) :
    ∃ reply s', (get id).run s = (reply, s') ∧ s.Proceeds V c s' ∧
      Gets V c id (s.Ready V) s s' reply := by
  rw [get_eq]
  obtain ⟨hsame, hproceeds, ⟨err, -, hready, hrun⟩ | ⟨config, l, -, -, hl, hrun⟩⟩ :=
    run_connected h fun _ => fetch id
  · exact ⟨_, _, hrun, hproceeds, .failed hready hsame⟩
  · obtain ⟨reply, s', hfetch, hproceeds', hgets⟩ := run_fetch hproceeds.fit hl id
    refine ⟨reply, s', hrun.trans hfetch, hproceeds.trans hproceeds', ?_⟩
    exact hgets.of_same hsame hproceeds.clock fun hready => hsame.calm hready.1

/-- Whether a read has found something. -/
def found? : Except StoreError Record → Except StoreError Bool
  | .ok _ => .ok true
  | .error (.notFound _) => .ok false
  | .error err => .error err

theorem run_contains (id : String) (s : Session σ) :
    (contains id).run s = (found? ((get id).run s).1, ((get id).run s).2) := by
  rw [contains, run_bind]
  rcases (get id).run s with ⟨err | r, s'⟩
  · cases err <;> rfl
  · rfl

/-! ## Reading everything -/

/-- Cleaning up what has expired takes nothing else away. Induction on the
ids. -/
theorem run_purgeAll (h : s.Fit V c) (hl : s.engine.link = some l) {ids : List String}
    (hdead : ∀ id ∈ ids, V.Dead s.world.clock s.world.store c id) :
    ∃ s', (purgeAll ids).run s = ((), s') ∧ s.Proceeds V c s' ∧
      V.Clears s.world.clock s.world.store s'.world.store := by
  induction ids generalizing s with
  | nil => exact ⟨s, rfl, h.proceeds, (View.Same.refl _).clears _⟩
  | cons id ids ih =>
    obtain ⟨hid, hids⟩ := List.forall_mem_cons.1 hdead
    obtain ⟨s₁, hpurge, hproceeds, hl₁, hclears⟩ := run_purge h hl hid
    obtain ⟨s', hrest, hproceeds', hclears'⟩ := ih hproceeds.fit hl₁ fun id' hid' => by
      rw [hproceeds.clock]
      exact (hids id' hid').thins hclears.thins
    rw [hproceeds.clock] at hclears'
    refine ⟨s', ?_, hproceeds.trans hproceeds', hclears.trans hclears'⟩
    rw [purgeAll, run_bind, hpurge, hrest]

/-- What a scan makes of the records that it was shown. -/
def sift (rs : List Record) : Call (Except StoreError (List Record)) := do
  let now ← perform .now
  let (expired, live) := rs.partition (·.isExpiredAt now)
  purgeAll (expired.map (·.id))
  return .ok live

/-- What a scan does once it is connected. -/
def scan : Call (Except StoreError (List Record)) := do
  perform (.count .scan)
  match ← perform .list with
  | .error e => return .error (← classify "*" e)
  | .ok rs => sift rs

theorem getAll_eq : getAll = connected fun _ => scan := rfl

/-- What a scan makes of the reply of the store. -/
def toldAll : Except BackendError (List Record) → Call (Except StoreError (List Record))
  | .error e => classify "*" e >>= fun err => done (.error err)
  | .ok rs => sift rs

theorem run_scan_eq (s : Session σ) :
    scan.run s = (toldAll ((s.count .scan).perform .list).1).run
      ((s.count .scan).perform .list).2 := by
  have hrun : scan.run s = Call.run
      (match ((s.count .scan).perform .list).1 with
      | .error e => classify "*" e >>= fun err => done (.error err)
      | .ok rs => sift rs) ((s.count .scan).perform .list).2 := rfl
  rw [hrun]
  cases ((s.count .scan).perform .list).1 <;> rfl

theorem run_sift_eq (rs : List Record) (s : Session σ) :
    (sift rs).run s =
      (.ok (rs.filter fun r => !r.isExpiredAt s.world.clock),
        ((purgeAll ((rs.filter (·.isExpiredAt s.world.clock)).map (·.id))).run s).2) := by
  have hrun : (sift rs).run s =
      Call.run (purgeAll ((rs.partition (·.isExpiredAt s.world.clock)).1.map (·.id)) >>= fun _ =>
        done (.ok (rs.partition (·.isExpiredAt s.world.clock)).2)) s := rfl
  rw [hrun, List.partition_eq_filter_filter, run_bind]
  rfl

/-- What a scan sorts out is dead. -/
theorem dead_of_sifted {st : σ} {t : Instant} {rs : List Record} (h : V.Holds st c rs) :
    ∀ id ∈ (rs.filter (·.isExpiredAt t)).map (·.id), V.Dead t st c id := by
  intro id hid
  obtain ⟨r, hr, rfl⟩ := List.mem_map.1 hid
  obtain ⟨hmem, hexp⟩ := List.mem_filter.1 hr
  exact View.dead_of_some ((h.mem_iff r).1 hmem) hexp

theorem run_sift (h : s.Fit V c) (hl : s.engine.link = some l) {rs : List Record}
    (hholds : V.Holds s.world.store c rs) {fine : Prop} :
    ∃ reply s', (sift rs).run s = (reply, s') ∧ s.Proceeds V c s' ∧ Scans V c fine s s' reply := by
  obtain ⟨s', hpurge, hproceeds, hclears⟩ := run_purgeAll h hl (dead_of_sifted hholds)
  rw [run_sift_eq, hpurge]
  exact ⟨_, s', rfl, hproceeds, .listed hholds hclears⟩

theorem run_scan (h : s.Fit V c) (hl : s.engine.link = some l) :
    ∃ reply s', scan.run s = (reply, s') ∧ s.Proceeds V c s' ∧
      Scans V c (V.Calm s.world.store) s s' reply := by
  have hcount := h.count .scan
  obtain ⟨reply, st, heq, hlists⟩ := hcount.fit.perform_list hl
  have hstore := hcount.trans (hcount.fit.withStore hlists.same.toPasses)
  rw [run_scan_eq, heq]
  cases hlists with
  | failed hcalm hsame =>
    refine ⟨_, _, rfl, hstore.trans (hstore.fit.count _), .failed (fun hc => hcalm ⟨hc, ?_⟩) hsame⟩
    exact (h.link l hl).2.2
  | @all rs hholds hsame =>
    have hholds' : V.Holds st c rs :=
      ⟨hholds.ordered, fun r => by rw [hholds.mem_iff, hsame.look]⟩
    obtain ⟨reply, s', hsift, hproceeds, hscans⟩ := run_sift hstore.fit hl hholds'
    have hmid : V.Same s.world.store ((s.count .scan).withStore st).world.store := hsame
    exact ⟨reply, s', hsift, hstore.trans hproceeds, hscans.of_same hmid rfl fun h => h⟩

/-- **What a scan comes to.** -/
theorem run_getAll (h : s.Fit V c) :
    ∃ reply s', getAll.run s = (reply, s') ∧ s.Proceeds V c s' ∧
      Scans V c (s.Ready V) s s' reply := by
  rw [getAll_eq]
  obtain ⟨hsame, hproceeds, ⟨err, -, hready, hrun⟩ | ⟨config, l, -, -, hl, hrun⟩⟩ :=
    run_connected h fun _ => scan
  · exact ⟨_, _, hrun, hproceeds, .failed hready hsame⟩
  · obtain ⟨reply, s', hscan, hproceeds', hscans⟩ := run_scan hproceeds.fit hl
    refine ⟨reply, s', hrun.trans hscan, hproceeds.trans hproceeds', ?_⟩
    exact hscans.of_same hsame hproceeds.clock fun hready => hsame.calm hready.1

end Operation

end LeaseStore
