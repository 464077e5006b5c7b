/-
LeaseStore.Proofs.Runs.Sifting — what a scan comes to.

A scan reads the clock once, and once it has, nothing that happens changes its
answer. What had expired by then is deleted, one record after the other. Such a
cleanup may fail and may take time: all that it does is to remove its record, if
it succeeds, and to count.

* `Operation.run_purgeAll_monitored` — what cleaning up comes to
  (`Session.Purges`), cleanup by cleanup.
* `scan_splits_store` — on any of the backends, whichever cleanups fail and
  however long they take.
-/
import Mathlib.Logic.Function.Iterate
import LeaseStore.Proofs.Runs.Metering
import LeaseStore.Proofs.Runs.Monitored
import LeaseStore.Proofs.Runs.Writing

namespace LeaseStore

variable {σ : Type}

/-! ## Cleanups -/

/-- The reply to a delete that has failed, and not for want of a record. -/
def Operation.failsToPurge : Except BackendError Unit → Bool
  | .ok () | .error .notFound => false
  | .error _ => true

/-- What is counted of a cleanup once its backend has replied. -/
def Operation.outcome? : Except BackendError Unit → Option Counter
  | .ok () => some .expiredPurged
  | .error .notFound => none
  | .error _ => some .cleanupFailure

/-- How often cleanups count an event, given the replies to their deletes. -/
def Operation.cleanupCount (replies : List (Except BackendError Unit)) : Counter → Nat
  | .delete => replies.length
  | .expiredPurged => replies.countP Except.isOk
  | .cleanupFailure => replies.countP failsToPurge
  | _ => 0

/-- The exchanges of a cleanup, given the reply to its delete. -/
def Operation.cleaning : String × Except BackendError Unit → List Exchange
  | (id, reply) => ⟨.count .delete, ()⟩ :: ⟨.delete id, reply⟩ ::
      ((outcome? reply).map fun n => ⟨.count n, ()⟩).toList

/-- A reading of the clock. -/
def Exchange.reading? : Exchange → Option Instant
  | ⟨.now, t⟩ => some t
  | _ => none

namespace Operation

open Call

theorem purged_eq (reply : Except BackendError Unit) :
    purged reply = match outcome? reply with
      | some n => perform (.count n)
      | none => done () := by
  match reply with
  | .ok () | .error .notFound => rfl
  | .error .alreadyExists | .error .preconditionFailed | .error (.failure ..) => rfl

theorem cleanupCount_append (replies replies' : List (Except BackendError Unit)) (n : Counter) :
    cleanupCount (replies ++ replies') n = cleanupCount replies n + cleanupCount replies' n := by
  cases n <;> simp [cleanupCount]

/-- One cleanup counts its delete, and how that ended. -/
theorem cleanupCount_singleton (reply : Except BackendError Unit) (n : Counter) :
    cleanupCount [reply] n =
      (if .delete = n then 1 else 0) + if outcome? reply = some n then 1 else 0 := by
  match reply with
  | .ok () | .error .notFound => cases n <;> rfl
  | .error .alreadyExists | .error .preconditionFailed | .error (.failure ..) => cases n <;> rfl

theorem path_purge (id : String) (s : Session σ) :
    (purge id).path s = cleaning (id, ((s.count .delete).perform (.delete id)).1) := by
  have hpath : (purge id).path s = ⟨.count .delete, ()⟩ ::
      ⟨.delete id, ((s.count .delete).perform (.delete id)).1⟩ ::
      (purged ((s.count .delete).perform (.delete id)).1).path
        ((s.count .delete).perform (.delete id)).2 := by
    rw [purge_eq]
    rfl
  rw [hpath, purged_eq, cleaning]
  cases outcome? ((s.count .delete).perform (.delete id)).1 <;> rfl

/-- The deletes of cleanups are those of their records. -/
theorem deletions_cleaning (xs : List (String × Except BackendError Unit)) :
    (xs.flatMap cleaning).flatMap Exchange.deletions = xs := by
  induction xs with
  | nil => rfl
  | cons x xs ih =>
    have hone : (cleaning x).flatMap Exchange.deletions = [x] := by
      rw [cleaning]
      cases outcome? x.2 <;> rfl
    rw [List.flatMap_cons, List.flatMap_append, ih, hone]
    rfl

/-- A cleanup neither lists records nor reads the clock. -/
theorem of_mem_cleaning (x : String × Except BackendError Unit) :
    ∀ y ∈ cleaning x, y.action ≠ .list ∧ y.reading? = none := by
  refine List.forall_mem_cons.2 ⟨⟨nofun, rfl⟩, List.forall_mem_cons.2 ⟨⟨nofun, rfl⟩, ?_⟩⟩
  intro y hy
  obtain ⟨n, -, rfl⟩ : ∃ n, outcome? x.2 = some n ∧ ⟨.count n, ()⟩ = y := by simpa using hy
  exact ⟨nofun, rfl⟩

theorem readings_cleaning (xs : List (String × Except BackendError Unit)) :
    (xs.flatMap cleaning).filterMap Exchange.reading? = [] := by
  refine List.filterMap_eq_nil_iff.2 fun y hy => ?_
  obtain ⟨x, -, hy⟩ := List.mem_flatMap.1 hy
  exact (of_mem_cleaning x y hy).2

/-- Whatever the replies are, cleaning up is one cleanup after the other. -/
theorem path_purgeAll (ids : List String) (s : Session σ) :
    ∃ xs : List (String × Except BackendError Unit),
      (purgeAll ids).path s = xs.flatMap cleaning := by
  induction ids generalizing s with
  | nil => exact ⟨[], rfl⟩
  | cons id ids ih =>
    obtain ⟨xs, hrest⟩ := ih ((purge id).run s).2
    refine ⟨(id, ((s.count .delete).perform (.delete id)).1) :: xs, ?_⟩
    rw [purgeAll, path_bind, hrest, path_purge, List.flatMap_cons]

end Operation

/-! ## Cleaning up behind a probe -/

/-- What cleaning up has come to, where each delete takes its time. -/
structure Session.Purges (b : Backend σ) (c : CollectionRef) (ids : List String)
    (s s' : Session (σ × Probe)) (path : List Exchange) : Prop where
  link : s'.engine.link = s.engine.link
  store : s'.world.store.1 = (b.deleteEach c ids s.world.store.1).2
  idle : s'.world.store.2.Idle
  deleteTime : s'.world.store.2.deleteTime = s.world.store.2.deleteTime
  log : s'.world.store.2.log = s.world.store.2.log ++ ids.map (BackendOp.entry .delete)
  clock : s'.world.clock =
    (·.shift s.world.store.2.deleteTime)^[ids.length] s.world.clock
  counts : ∀ n, s'.engine.metrics.get n = s.engine.metrics.get n +
    Operation.cleanupCount (b.deleteEach c ids s.world.store.1).1 n
  path : path = (ids.zip (b.deleteEach c ids s.world.store.1).1).flatMap Operation.cleaning

namespace Session.Purges

variable {b : Backend σ} {c : CollectionRef} {ids ids' : List String}
  {s s' s'' : Session (σ × Probe)} {path path' : List Exchange}

theorem nil (hidle : s.world.store.2.Idle) : Purges b c [] s s [] where
  link := rfl
  store := rfl
  idle := hidle
  deleteTime := rfl
  log := (List.append_nil _).symm
  clock := rfl
  counts n := by cases n <;> rfl
  path := rfl

theorem trans (h : Purges b c ids s s' path) (h' : Purges b c ids' s' s'' path') :
    Purges b c (ids ++ ids') s s'' (path ++ path') where
  link := h'.link.trans h.link
  store := by rw [h'.store, h.store, Backend.deleteEach_append]
  idle := h'.idle
  deleteTime := h'.deleteTime.trans h.deleteTime
  log := by rw [h'.log, h.log, List.append_assoc, List.map_append]
  clock := by
    rw [h'.clock, h.clock, h.deleteTime, ← Function.iterate_add_apply, List.length_append,
      Nat.add_comm]
  counts n := by
    rw [h'.counts, h.counts, h.store, Backend.deleteEach_append, Operation.cleanupCount_append,
      Nat.add_assoc]
  path := by
    have hlength : ids.length = (b.deleteEach c ids s.world.store.1).1.length :=
      (b.length_deleteEach c ids _).symm
    rw [h'.path, h.path, h.store, Backend.deleteEach_append, List.zip_append hlength,
      List.flatMap_append]

/-- What is gone is what a cleanup has removed. -/
theorem look {V : View σ} (hb : b.Steady V) (h : Purges b c ids s s' path)
    (hsound : V.Sound s.world.store.1) (c' : CollectionRef) (id : String) :
    V.look s'.world.store.1 c' id =
      if V.shelf c' = V.shelf c ∧
        id ∈ succeeded ids (b.deleteEach c ids s.world.store.1).1 then none
      else V.look s.world.store.1 c' id := by
  rw [h.store]
  exact (hb.dropsAll c ids hsound).look_eq c' id

end Session.Purges

namespace Operation

open Call

section Purging

variable {b : Backend σ} {c : CollectionRef} {s : Session (σ × Probe)}

/-- The reply to a cleanup is counted, and nothing else is done about it. -/
theorem run_purged_eq (reply : Except BackendError Unit) (s : Session σ) :
    ((purged reply).run s).2 =
      s.withMetrics ((outcome? reply).elim s.engine.metrics s.engine.metrics.record) := by
  rw [purged_eq]
  cases outcome? reply <;> rfl

/-- One cleanup. -/
theorem run_purge_monitored (hl : s.engine.link = some ⟨b.monitored, c⟩)
    (hidle : s.world.store.2.Idle) (id : String) :
    s.Purges b c [id] ((purge id).run s).2 ((purge id).path s) := by
  have hperform := Session.perform_delete_monitored (s := s.count .delete) hl hidle id
  have hcounted (m : Metrics) (reply : Except BackendError Unit) (n : Counter) :
      ((outcome? reply).elim m m.record).get n =
        m.get n + if outcome? reply = some n then 1 else 0 := by
    cases outcome? reply with
    | none => rfl
    | some n' => simp [Metrics.get_record]
  rw [run_purge_eq, path_purge, hperform, run_purged_eq]
  exact {
    link := rfl
    store := rfl
    idle := hidle.swept [id]
    deleteTime := rfl
    log := rfl
    clock := rfl
    counts := fun n => by
      have hdelete : (s.engine.metrics.record .delete).get n =
          s.engine.metrics.get n + if .delete = n then 1 else 0 := Metrics.get_record ..
      have hboth := (hcounted (s.engine.metrics.record .delete)
        (b.deleteNow c id s.world.store.1).1 n).trans (congrArg (· + _) hdelete)
      rw [Nat.add_assoc, ← cleanupCount_singleton] at hboth
      exact hboth
    path := (List.append_nil _).symm }

/-- **What cleaning up comes to.** Induction on the ids. -/
theorem run_purgeAll_monitored (hl : s.engine.link = some ⟨b.monitored, c⟩)
    (hidle : s.world.store.2.Idle) (ids : List String) :
    s.Purges b c ids ((purgeAll ids).run s).2 ((purgeAll ids).path s) := by
  induction ids generalizing s with
  | nil => exact .nil hidle
  | cons id ids ih =>
    have hfirst := run_purge_monitored hl hidle id
    have hrest := ih (hfirst.link.trans hl) hfirst.idle
    rw [purgeAll, run_bind, path_bind]
    exact hfirst.trans hrest

end Purging

/-! ## Scans that are shown what is stored -/

/-- The ids of what had expired by `t`. -/
def expiredIds (t : Instant) (rs : List Record) : List String :=
  (rs.filter (·.isExpiredAt t)).map (·.id)

theorem path_sift (rs : List Record) (s : Session σ) :
    (sift rs).path s =
      ⟨.now, s.world.clock⟩ :: (purgeAll (expiredIds s.world.clock rs)).path s := by
  have hpath : (sift rs).path s = ⟨.now, s.world.clock⟩ ::
      (purgeAll ((rs.partition (·.isExpiredAt s.world.clock)).1.map (·.id)) >>= fun _ =>
        done (Except.ok (rs.partition (·.isExpiredAt s.world.clock)).2)).path s := rfl
  rw [hpath, path_bind_done, List.partition_eq_filter_filter]
  rfl

theorem scan_eq : scan = act (.count .scan) fun _ => act .list toldAll := by
  refine congrArg (act (.count .scan)) (funext fun _ => congrArg (act .list) ?_)
  funext reply
  cases reply <;> rfl

theorem path_scan (s : Session σ) :
    scan.path s = ⟨.count .scan, ()⟩ :: ⟨.list, ((s.count .scan).perform .list).1⟩ ::
      (toldAll ((s.count .scan).perform .list).1).path ((s.count .scan).perform .list).2 := by
  rw [scan_eq]
  rfl

/-- Once it has been replied to, a scan asks for no other listing. -/
theorem action_ne_list_of_toldAll {reply : Except BackendError (List Record)} {s : Session σ} :
    ∀ y ∈ (toldAll reply).path s, y.action ≠ .list := by
  cases reply with
  | error e =>
    intro y hy
    obtain rfl : y = ⟨.count (counterOf (.ofBackend "*" e)), ()⟩ := List.mem_singleton.1 hy
    exact nofun
  | ok rs =>
    intro y hy
    obtain ⟨xs, hpurges⟩ := path_purgeAll (expiredIds s.world.clock rs) s
    rw [show toldAll (.ok rs) = sift rs from rfl, path_sift, hpurges] at hy
    obtain rfl | hy := List.mem_cons.1 hy
    · exact nofun
    · obtain ⟨x, -, hy⟩ := List.mem_flatMap.1 hy
      exact (of_mem_cleaning x y hy).1

/-- A scan that is shown some records has connected, and they are the reply to
its one listing. -/
theorem listed_of_mem_path {s : Session σ} {rs : List Record}
    (h : ⟨.list, .ok rs⟩ ∈ getAll.path s) :
    ∃ config, s.connect.1 = .ok config ∧ ((s.connect.2.count .scan).perform .list).1 = .ok rs := by
  rw [getAll_eq, path_connected] at h
  cases hreply : s.connect.1 with
  | error err =>
    rw [hreply] at h
    obtain h | h := List.mem_cons.1 h <;> cases h
  | ok config =>
    rw [hreply] at h
    dsimp only at h
    rw [path_scan] at h
    simp only [List.mem_cons] at h
    obtain h | h | h | h := h
    · cases h
    · cases h
    · exact ⟨config, rfl, (eq_of_heq (Exchange.mk.inj h).2).symm⟩
    · exact absurd rfl (action_ne_list_of_toldAll _ h)

/-- What a scan does that has connected and is shown some records. -/
theorem run_getAll_of_listed {s : Session σ} {config : Config} {rs : List Record}
    (hconnect : s.connect.1 = .ok config)
    (hlist : ((s.connect.2.count .scan).perform .list).1 = .ok rs) :
    let s' := ((s.connect.2.count .scan).perform .list).2
    let ids := expiredIds s'.world.clock rs
    getAll.run s = (.ok (rs.filter fun r => !r.isExpiredAt s'.world.clock),
        ((purgeAll ids).run s').2) ∧
      getAll.path s = ⟨.connect, .ok config⟩ :: ⟨.count .scan, ()⟩ :: ⟨.list, .ok rs⟩ ::
        ⟨.now, s'.world.clock⟩ :: (purgeAll ids).path s' := by
  intro s' ids
  constructor
  · rw [getAll_eq, run_connected_eq, hconnect]
    dsimp only
    rw [run_scan_eq, hlist]
    exact run_sift_eq rs s'
  · rw [getAll_eq, path_connected, hconnect]
    dsimp only
    rw [path_scan, hlist]
    exact congrArg (fun path => _ :: _ :: _ :: path) (path_sift rs s')

end Operation

/-! ## What is left -/

/-- If every delete has succeeded, nothing is left. -/
theorem succeeded_eq {ids : List String} {replies : List (Except BackendError Unit)}
    (hlength : replies.length = ids.length) (h : ∀ r ∈ replies, r = .ok ()) :
    succeeded ids replies = ids := by
  induction ids generalizing replies with
  | nil => rfl
  | cons id ids ih =>
    cases replies with
    | nil => cases hlength
    | cons r replies =>
      obtain ⟨rfl, hrest⟩ := List.forall_mem_cons.1 h
      rw [succeeded_cons_ok, ih (Nat.succ.inj hlength) hrest]

/-- The ids of what a collection holds are distinct. -/
theorem View.Holds.nodup {V : View σ} {c : CollectionRef} {s : σ} {rs : List Record}
    (h : V.Holds s c rs) : (rs.map (·.id)).Nodup := by
  refine List.pairwise_map.2 (h.ordered.imp fun {a b} hlt heq => ?_)
  rw [heq, Std.compare_self] at hlt
  cases hlt

/-- A record that had not expired is none of those that had. -/
theorem View.Holds.spared {V : View σ} {c : CollectionRef} {s : σ} {rs : List Record}
    (h : V.Holds s c rs) {t : Instant} {r : Record} (hr : r ∈ rs)
    (hlive : r.isExpiredAt t = false) : r.id ∉ Operation.expiredIds t rs := by
  intro hid
  obtain ⟨r', hr', hsame⟩ := List.mem_map.1 hid
  obtain ⟨hmem, hexpired⟩ := List.mem_filter.1 hr'
  have hlook := (h.mem_iff r').1 hmem
  rw [hsame, (h.mem_iff r).1 hr] at hlook
  obtain rfl := Option.some.inj hlook
  rw [hlive] at hexpired
  cases hexpired

namespace Session

variable {kind : BackendKind} {config : Config} {s s' : Session ((Fleet × Outages) × Probe)}

/-- Whatever an engine is asked in turn, it stays watched. -/
theorem Watched.foldl (h : s.Watched kind config) (qs : List Request) :
    (qs.foldl (fun s q => (q.call.run s).2) s).Watched kind config := by
  induction qs generalizing s with
  | nil => exact h
  | cons q qs ih => exact ih ((Errand.request q).watched h)

/-- Where nothing is stored, a create succeeds. -/
theorem Watched.create (h : s.Watched kind config) (hlinked : s.engine.link ≠ none)
    (hcalm : (Fleet.view kind).exposed.Calm s.world.store.1) {r : Record}
    (hlook : (Fleet.view kind).exposed.look s.world.store.1 config.collectionRef r.id = none) :
    ∃ token, ((Request.create r).call.run s).1 =
      .record (.ok { r.touchAt s.world.clock with token }) := by
  obtain ⟨l, hl⟩ := Option.ne_none_iff_exists'.1 hlinked
  obtain ⟨b, f, hopen, rfl, hprovided⟩ := h.link l hl
  let r' := r.touchAt s.world.clock
  have hwrites := (Watched.steady hopen).create config.collectionRef r' _ h.sound
  have hrun : (Request.create r).call.run s =
      (.record ((Operation.create r).run s).1, ((Operation.create r).run s).2) := run_answer rfl
  have hinsert : (Operation.create r).run s =
      (Operation.settle r .create (s.perform (.create r')).1).run (s.perform (.create r')).2 := by
    rw [Operation.create_eq, Operation.run_connected_eq, connect_of_linked h.bound hl]
    rfl
  rw [hrun, hinsert, perform_create_monitored hl h.idle]
  dsimp only
  generalize (b.exposed.create config.collectionRef r' s.world.store.1).1 = reply at hwrites
  cases hwrites with
  | stored => exact ⟨_, rfl⟩
  | refused hadmitted => exact absurd hlook hadmitted
  | failed hfine => exact absurd ⟨hcalm, hprovided⟩ hfine

/-- A session that has connected and been shown what is stored. -/
structure Shown (kind : BackendKind) (config : Config) (b : Backend Fleet) (rs : List Record)
    (s s' : Session ((Fleet × Outages) × Probe)) : Prop where
  link : s'.engine.link = some ⟨b.exposed.monitored, config.collectionRef⟩
  holds : (Fleet.view kind).exposed.Holds s.world.store.1 config.collectionRef rs
  same : (Fleet.view kind).exposed.Same s.world.store.1 s'.world.store.1
  metrics : s'.engine.metrics = s.engine.metrics.record .scan
  clock : s'.world.clock = s.world.clock
  outages : s'.world.store.1.2 .delete = s.world.store.1.2 .delete
  deleteTime : s'.world.store.2.deleteTime = s.world.store.2.deleteTime
  log : s'.world.store.2.log = s.world.store.2.log ++
    ((if s.engine.link.isSome then [] else [BackendOp.entry .ensure ""]) ++
      [BackendOp.entry .list ""])

theorem Watched.shown (h : s.Watched kind config) {config' : Config}
    (hconnect : s.connect.1 = .ok config') {rs : List Record}
    (hlist : ((s.connect.2.count .scan).perform .list).1 = .ok rs) :
    let s' := ((s.connect.2.count .scan).perform .list).2
    s'.Watched kind config ∧
      ∃ b f, (Fleet.shared kind config f).1 = .ok b ∧ Shown kind config b rs s s' := by
  intro s'
  obtain ⟨hwatched, hsame, hconnected⟩ := h.connect
  obtain ⟨hlinked, hmetrics, hclock, houtages, hprobe⟩ := hconnected config' hconnect
  obtain ⟨l, hl⟩ := Option.ne_none_iff_exists'.1 hlinked
  obtain ⟨b, f, hopen, rfl, -⟩ := hwatched.link l hl
  have hperform := perform_list_monitored (s := s.connect.2.count .scan) hl hwatched.idle
  have hlists := (Watched.steady hopen).list config.collectionRef _ hwatched.sound
  have hreply : (b.exposed.list config.collectionRef s.connect.2.world.store.1).1 = .ok rs :=
    (congrArg Prod.fst hperform).symm.trans hlist
  have hs' : s' = _ := congrArg Prod.snd hperform
  -- a listing uses up an outage of its own, and none of the deletes
  have hstruck : (Backend.struck .list (b.list config.collectionRef)
      s.connect.2.world.store.1).2.2 .delete = s.connect.2.world.store.1.2 .delete :=
    Backend.struck_next (by decide) _ _
  rw [hreply] at hlists
  cases hlists with
  | all hholds hsame' =>
    rw [hs']
    refine ⟨hwatched.moved hsame'.toPasses (hwatched.idle.noting _ _) _ _ _, b, f, hopen, ?_⟩
    exact {
      link := hl
      holds := ⟨hholds.ordered, fun r => by rw [hholds.mem_iff, hsame.look]⟩
      same := hsame.trans hsame'
      metrics := congrArg (·.record .scan) hmetrics
      clock := hclock
      outages := hstruck.trans houtages
      deleteTime := by
        show s.connect.2.world.store.2.deleteTime = _
        rw [hprobe]
        cases s.engine.link <;> rfl
      log := by
        show s.connect.2.world.store.2.log ++ [BackendOp.entry .list ""] = _
        rw [hprobe, ← List.append_assoc]
        cases s.engine.link with
        | none => rfl
        | some => exact congrArg (· ++ _) (List.append_nil _).symm }

/-- What a scan has done that was shown the records `rs`, given the reply to the
delete of each one that had expired. -/
structure Sifts (kind : BackendKind) (config : Config) (rs : List Record)
    (s s' : Session ((Fleet × Outages) × Probe)) (path : List Exchange)
    (replies : List (Except BackendError Unit)) : Prop where
  /-- The records are those that were stored, once each and in order. -/
  holds : (Fleet.view kind).exposed.Holds s.world.store.1 config.collectionRef rs
  /-- The clock is read once. -/
  readings : path.filterMap Exchange.reading? = [s.world.clock]
  /-- What had expired by then is deleted once, in order. -/
  deletions : path.flatMap Exchange.deletions =
    (Operation.expiredIds s.world.clock rs).zip replies
  length : replies.length = (Operation.expiredIds s.world.clock rs).length
  nodup : (Operation.expiredIds s.world.clock rs).Nodup
  /-- What had not expired is not deleted. -/
  spared : ∀ r ∈ rs, r.isExpiredAt s.world.clock = false →
    r.id ∉ Operation.expiredIds s.world.clock rs
  /-- The backend has been asked for nothing else. -/
  log : s'.world.store.2.log = s.world.store.2.log ++
    ((if s.engine.link.isSome then [] else [BackendOp.entry .ensure ""]) ++
      BackendOp.entry .list "" ::
        (Operation.expiredIds s.world.clock rs).map (BackendOp.entry .delete))
  /-- Each delete has taken its time. -/
  clock : s'.world.clock = (·.shift s.world.store.2.deleteTime)^[
    (Operation.expiredIds s.world.clock rs).length] s.world.clock
  /-- One scan is counted, and its cleanups. -/
  counts : ∀ n, s'.engine.metrics.get n =
    (s.engine.metrics.record .scan).get n + Operation.cleanupCount replies n
  /-- What is gone is what a delete has removed. -/
  look : ∀ c id, (Fleet.view kind).exposed.look s'.world.store.1 c id =
    if (Fleet.view kind).exposed.shelf c = (Fleet.view kind).exposed.shelf config.collectionRef ∧
      id ∈ succeeded (Operation.expiredIds s.world.clock rs) replies then none
    else (Fleet.view kind).exposed.look s.world.store.1 c id
  /-- Any of the deletes may have been made to fail. -/
  outages : ∀ i e, i < (Operation.expiredIds s.world.clock rs).length →
    s.world.store.1.2 .delete i = some e → replies[i]? = some (.error e)
  /-- If they have all succeeded, the ids can be used again, unless a failure is
  planned. -/
  creates : (∀ r ∈ replies, r = .ok ()) → (Fleet.view kind).exposed.Calm s'.world.store.1 →
    ∀ r : Record, r.id ∈ Operation.expiredIds s.world.clock rs →
      ∃ token, ((Request.create r).call.run s').1 =
        .record (.ok { r.touchAt s'.world.clock with token })

end Session

open Operation Fleet in
/-- **What a scan does.** An engine is bound to a shared backend of any kind,
which meets outages, behind a probe which makes deletes take any time. If the
backend lists what it holds, a scan answers the records that had not expired
when it read the clock, as they are and in order. It has deleted each of the
others once, and what it counts and what is left are as the replies say,
whichever those are. -/
theorem scan_splits_store {kind : BackendKind} {config : Config}
    {s : Session ((Fleet × Outages) × Probe)} (hs : s.Watched kind config) {rs : List Record}
    (hlist : ⟨.list, .ok rs⟩ ∈ Request.getAll.call.path s) :
    let q := Request.getAll
    (q.call.run s).1 = .records (.ok (rs.filter fun r => !r.isExpiredAt s.world.clock)) ∧
      ∃ replies, Session.Sifts kind config rs s (q.call.run s).2 (q.call.path s) replies := by
  intro q
  have hsame : q.call.path s = getAll.path s := Call.path_bind_done ..
  rw [hsame] at hlist ⊢
  obtain ⟨config', hconnect, hlisted⟩ := listed_of_mem_path hlist
  obtain ⟨hwatched, b, f, hopen, hshown⟩ := hs.shown hconnect hlisted
  obtain ⟨hgetAll, hpath⟩ := run_getAll_of_listed hconnect hlisted
  let c := config.collectionRef
  let s₁ := ((s.connect.2.count .scan).perform .list).2
  let ids := expiredIds s.world.clock rs
  let done := b.exposed.deleteEach c ids s₁.world.store.1
  -- what has expired is deleted one by one, each whatever came of the one before
  have hpurges : s₁.Purges b.exposed c ids ((purgeAll ids).run s₁).2 ((purgeAll ids).path s₁) :=
    run_purgeAll_monitored hshown.link hwatched.idle ids
  rw [hshown.clock] at hgetAll hpath
  have hrun : q.call.run s = (.records (.ok (rs.filter fun r => !r.isExpiredAt s.world.clock)),
      ((purgeAll ids).run s₁).2) := run_answer hgetAll
  have hlength : done.1.length = ids.length := b.exposed.length_deleteEach c ids _
  have hlook (c' : CollectionRef) (id : String) :
      (view kind).exposed.look ((purgeAll ids).run s₁).2.world.store.1 c' id =
        if (view kind).exposed.shelf c' = (view kind).exposed.shelf c ∧ id ∈ succeeded ids done.1
        then none else (view kind).exposed.look s.world.store.1 c' id := by
    rw [← hshown.same.look]
    exact hpurges.look (Session.Watched.steady hopen) hwatched.sound c' id
  have hafter : ((purgeAll ids).run s₁).2.Watched kind config := by
    have hlasts := (Errand.request q).watched hs
    rw [show (Errand.request q).call.run s = _ from hrun] at hlasts
    exact hlasts
  rw [hpath, hrun]
  refine ⟨rfl, done.1, ?_⟩
  exact {
    holds := hshown.holds
    readings := by
      rw [hpurges.path]
      exact congrArg (s.world.clock :: ·) (readings_cleaning _)
    deletions := by
      rw [hpurges.path]
      exact deletions_cleaning _
    length := hlength
    nodup := hshown.holds.nodup.sublist (List.filter_sublist.map _)
    spared := fun r hr hlive => hshown.holds.spared hr hlive
    log := by
      rw [hpurges.log, hshown.log]
      simp only [List.append_assoc, List.singleton_append]
      rfl
    clock := by rw [hpurges.clock, hshown.deleteTime, hshown.clock]
    counts := fun n => by rw [hpurges.counts, hshown.metrics]
    look := hlook
    outages := fun i e hi he =>
      b.deleteEach_exposed c hi ((congrFun hshown.outages i).trans he)
    -- the id of a record that is gone is free again
    creates := fun hall hcalm r hr => by
      have hlinked : ((purgeAll ids).run s₁).2.engine.link ≠ none := by
        rw [hpurges.link, hshown.link]
        exact Option.some_ne_none _
      refine hafter.create hlinked hcalm ?_
      rw [hlook, succeeded_eq hlength hall]
      exact if_pos ⟨rfl, hr⟩ }

/-- An engine that has created three records, two of which had expired before.
Deletes take five milliseconds, and the first one fails. -/
def Session.lapsing : Session ((Fleet × Outages) × Probe) :=
  [Request.create { id := "c", expiresAt := .epoch }, .create { id := "b" },
    .create { id := "a", expiresAt := .epoch }].foldl (fun s q => (q.call.run s).2)
    ⟨{ connector := (Fleet.shared .memory).exposed.monitored,
       config := .ready (Fixture.memoryConfig "items") },
      ⟨Instant.epoch, [], (({}, fun op n =>
        if op = .delete ∧ n = 0 then some (.passing "unreachable") else none),
        { deleteTime := 5 })⟩⟩

theorem Session.watched_lapsing : lapsing.Watched .memory (Fixture.memoryConfig "items") := by
  refine Watched.foldl (.fresh ?vacant ?idle) _
  case vacant => rfl
  case idle => exact ⟨rfl, rfl⟩

/-- Of two cleanups the first one fails, and the answer is the third record. -/
theorem scan_splits_store_lapsing :
    let s := Session.lapsing
    let q := Request.getAll
    ∃ rs, s.Watched .memory (Fixture.memoryConfig "items") ∧ ⟨.list, .ok rs⟩ ∈ q.call.path s ∧
      rs.map (·.id) = ["a", "b", "c"] ∧
      (q.call.run s).1 = .records (.ok (rs.filter fun r => !r.isExpiredAt .epoch)) ∧
      ∃ replies, Session.Sifts .memory (Fixture.memoryConfig "items") rs s (q.call.run s).2
        (q.call.path s) replies ∧ replies[0]? = some (.error (.passing "unreachable")) := by
  intro s q
  have hlinked : s.engine.link.isSome = true := by decide +kernel
  obtain ⟨l, hl⟩ := Option.isSome_iff_exists.1 hlinked
  have hconnect : s.connect.1 = .ok (Fixture.memoryConfig "items") :=
    congrArg Prod.fst (Session.connect_of_linked Session.watched_lapsing.bound hl)
  obtain ⟨rs, hlisted, hids⟩ : ∃ rs, ((s.connect.2.count .scan).perform .list).1 = .ok rs ∧
      rs.map (·.id) = ["a", "b", "c"] ∧ Operation.expiredIds .epoch rs = ["a", "c"] := by
    have hlist : ((s.connect.2.count .scan).perform .list).1.toOption.map (fun rs =>
        (rs.map (·.id), Operation.expiredIds .epoch rs)) = some (["a", "b", "c"], ["a", "c"]) := by
      decide +kernel
    generalize ((s.connect.2.count .scan).perform .list).1 = reply at hlist
    cases reply with
    | error e => cases hlist
    | ok rs => exact ⟨rs, rfl, Prod.mk.inj (Option.some.inj hlist)⟩
  have hlist : ⟨.list, .ok rs⟩ ∈ q.call.path s := by
    rw [show q.call.path s = Operation.getAll.path s from Call.path_bind_done ..,
      (Operation.run_getAll_of_listed hconnect hlisted).2]
    simp
  obtain ⟨hanswer, replies, hsifts⟩ := scan_splits_store Session.watched_lapsing hlist
  have hclock : s.world.clock = .epoch := by decide +kernel
  rw [hclock] at hanswer
  have hplanned : s.world.store.1.2 .delete 0 = some (.passing "unreachable") := by
    decide +kernel
  have hfailed : replies[0]? = some (.error (.passing "unreachable")) :=
    hsifts.outages 0 _ (by rw [hclock, hids.2]; decide) hplanned
  exact ⟨rs, Session.watched_lapsing, hlist, hids.1, hanswer, replies, hsifts, hfailed⟩

end LeaseStore
