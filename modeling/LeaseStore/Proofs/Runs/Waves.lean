/-
LeaseStore.Proofs.Runs.Waves — what a bulk delete comes to.

A bulk delete cuts its list into stretches of a bounded length, and has the
deletes of one stretch under way at a time. Neither a failure nor a record that
is not there makes a difference to what it goes on to do: it deletes the records
one after the other, as if there were no waves (`Operation.run_deleteWaves_monitored`),
and its report is an account of the replies (`Operation.BulkDelete.enter`).

* `bulk_delete_is_exact` — on any of the backends, whichever deletes fail and
  however long they take.
-/
import LeaseStore.Proofs.Agreement.Bulk
import LeaseStore.Proofs.Runs.Metering
import LeaseStore.Proofs.Runs.Monitored

namespace LeaseStore

variable {σ : Type}

namespace Operation

/-! ## Stretches of a list -/

section Stretches

variable {α : Type} {bound : Nat}

/-- A stretch takes what it has room for, and the others hold the rest. -/
theorem stretches_eq (bound room : Nat) (xs : List α) :
    stretches bound room xs = (xs.take room, waves bound (xs.drop room)) := by
  induction xs generalizing room with
  | nil => cases room <;> rfl
  | cons x xs ih =>
    cases room with
    | zero => rfl
    | succ room => simp only [stretches, ih, List.take_succ_cons, List.drop_succ_cons]

theorem waves_of_ne_nil (hbound : 0 < bound) {xs : List α} (hxs : xs ≠ []) :
    waves bound xs = xs.take bound :: waves bound (xs.drop bound) := by
  cases xs with
  | nil => exact absurd rfl hxs
  | cons x xs =>
    obtain ⟨n, rfl⟩ := Nat.exists_eq_add_one.2 hbound
    show (x :: (stretches (n + 1) n xs).1) :: (stretches (n + 1) n xs).2 = _
    rw [stretches_eq]
    rfl

/-- Induction along the stretches of a list. -/
theorem waves_induction (hbound : 0 < bound) {P : List α → Prop} (hnil : P [])
    (hcons : ∀ xs, xs ≠ [] → P (xs.drop bound) → P xs) (xs : List α) : P xs := by
  induction hlength : xs.length using Nat.strongRecOn generalizing xs with
  | ind n ih =>
    by_cases hxs : xs = []
    · exact hxs ▸ hnil
    · have hpos : 0 < xs.length := List.length_pos_iff.2 hxs
      refine hcons xs hxs (ih _ ?_ (xs.drop bound) rfl)
      rw [List.length_drop, ← hlength]
      omega

/-- The stretches begin at the multiples of the bound. -/
theorem waves_eq (hbound : 0 < bound) (xs : List α) :
    waves bound xs = (List.range ((xs.length + bound - 1) / bound)).map fun i =>
      (xs.drop (i * bound)).take bound := by
  induction xs using waves_induction hbound with
  | hnil =>
    rw [List.length_nil, Nat.zero_add, Nat.div_eq_of_lt (Nat.sub_lt hbound Nat.one_pos)]
    rfl
  | hcons xs hxs ih =>
    have hcount : (xs.length + bound - 1) / bound =
        ((xs.drop bound).length + bound - 1) / bound + 1 := by
      have hpos : 0 < xs.length := List.length_pos_iff.2 hxs
      rw [List.length_drop]
      obtain hle | hlt := Nat.le_total bound xs.length
      · rw [Nat.sub_add_cancel hle, ← Nat.add_div_right _ hbound]
        congr 1
        omega
      · rw [Nat.sub_eq_zero_of_le hlt, Nat.zero_add,
          Nat.div_eq_of_lt (Nat.sub_lt hbound Nat.one_pos)]
        exact Nat.div_eq_of_lt_le (by omega) (by omega)
    have hshift (i : Nat) : ((xs.drop bound).drop (i * bound)).take bound =
        (xs.drop ((i + 1) * bound)).take bound := by
      rw [List.drop_drop, Nat.succ_mul, Nat.add_comm bound]
    rw [waves_of_ne_nil hbound hxs, ih, hcount, List.range_succ_eq_map, List.map_cons,
      List.map_map, Nat.zero_mul, List.drop_zero]
    simp only [hshift, Function.comp_def, Nat.succ_eq_add_one]

/-- No stretch is longer than the bound, or than the list. -/
theorem length_le_of_mem_waves (hbound : 0 < bound) (xs : List α) :
    ∀ wave ∈ waves bound xs, wave.length ≤ min bound xs.length := by
  induction xs using waves_induction hbound with
  | hnil => exact fun _ h => nomatch h
  | hcons xs hxs ih =>
    rw [waves_of_ne_nil hbound hxs]
    refine List.forall_mem_cons.2 ⟨?_, fun wave hwave => ?_⟩
    · rw [List.length_take]
    · have hwave := ih wave hwave
      rw [List.length_drop] at hwave
      omega

/-- And the first one is just as long. -/
theorem exists_mem_waves (hbound : 0 < bound) {xs : List α} (hxs : xs ≠ []) :
    ∃ wave ∈ waves bound xs, wave.length = min bound xs.length := by
  rw [waves_of_ne_nil hbound hxs]
  exact ⟨_, List.mem_cons_self, List.length_take⟩

end Stretches

/-! ## Reports -/

/-- The failure to report of a delete, if there is one. A record that is not
there counts as deleted. -/
def failure? : String × Except BackendError Unit → Option (String × StoreError)
  | (_, .ok ()) | (_, .error .notFound) => none
  | (id, .error e) => some (id, .ofBackend id e)

theorem failure?_eq_none_iff {id : String} {r : Except BackendError Unit} :
    failure? (id, r) = none ↔ r = .ok () ∨ r = .error .notFound := by
  match r with
  | .ok () | .error .notFound => simp [failure?]
  | .error .alreadyExists | .error .preconditionFailed | .error (.failure ..) => simp [failure?]

/-- The report with further outcomes entered. -/
def BulkDelete.enter (report : BulkDelete)
    (outcomes : List (String × Except BackendError Unit)) : BulkDelete :=
  { report with
    deleted := report.deleted + outcomes.countP fun x => (failure? x).isNone
    failures := report.failures ++ outcomes.filterMap failure? }

namespace BulkDelete

variable (report : BulkDelete) (outcomes : List (String × Except BackendError Unit))

theorem enter_nil : report.enter [] = report := by
  simp [enter]

theorem enter_append (outcomes' : List (String × Except BackendError Unit)) :
    report.enter (outcomes ++ outcomes') = (report.enter outcomes).enter outcomes' := by
  simp [enter, Nat.add_assoc]

theorem enter_deleted {x : String × Except BackendError Unit} (h : failure? x = none) :
    report.enter [x] = { report with deleted := report.deleted + 1 } := by
  simp [enter, h]

theorem enter_failed {x : String × Except BackendError Unit} {failed : String × StoreError}
    (h : failure? x = some failed) :
    report.enter [x] = { report with failures := report.failures ++ [failed] } := by
  simp [enter, h]

/-- Every outcome is entered once. Induction on the outcomes. -/
theorem deleted_add_length_failures :
    (report.enter outcomes).deleted + (report.enter outcomes).failures.length =
      report.deleted + report.failures.length + outcomes.length := by
  induction outcomes generalizing report with
  | nil => rw [enter_nil, List.length_nil, Nat.add_zero]
  | cons x rest ih =>
    rw [← List.singleton_append, enter_append, ih]
    cases hx : failure? x with
    | none =>
      rw [enter_deleted report hx, List.length_append, List.length_singleton]
      dsimp only
      omega
    | some failed =>
      rw [enter_failed report hx, List.length_append, List.length_singleton, List.length_append,
        List.length_singleton]
      dsimp only
      omega

end BulkDelete

/-- Entering the outcomes of a wave counts failures, and does nothing else.
Induction on the outcomes. -/
theorem run_tally_enter (report : BulkDelete)
    (outcomes : List (String × Except BackendError Unit)) (s : Session σ) :
    ∃ m, (tally report outcomes).run s = (report.enter outcomes, s.withMetrics m) := by
  induction outcomes generalizing report s with
  | nil => exact ⟨s.engine.metrics, by rw [BulkDelete.enter_nil]; rfl⟩
  | cons outcome rest ih =>
    obtain ⟨id, r⟩ := outcome
    rw [← List.singleton_append, BulkDelete.enter_append]
    match r with
    | .ok () | .error .notFound =>
      rw [BulkDelete.enter_deleted report rfl]
      exact ih _ s
    | .error .alreadyExists | .error .preconditionFailed | .error (.failure ..) =>
      rw [BulkDelete.enter_failed report rfl]
      exact ih _ (s.count _)

end Operation

/-! ## What a bulk asks of its backend -/

/-- The ids of a wave of deletes. -/
def Exchange.wave? : Exchange → Option (List String)
  | ⟨.deleteWave ids, _⟩ => some ids
  | _ => none

/-- The exchange is one of counting. -/
def Exchange.Counts (x : Exchange) : Prop := ∃ n, x.action = .count n

/-- To count is to delete nothing. -/
theorem Exchange.Counts.quiet {x : Exchange} (h : x.Counts) :
    x.deletions = [] ∧ x.wave? = none := by
  obtain ⟨a, reply⟩ := x
  obtain ⟨n, rfl⟩ := h
  exact ⟨rfl, rfl⟩

theorem Exchange.quiet_of_counts {path : List Exchange} (h : ∀ x ∈ path, x.Counts) :
    path.flatMap deletions = [] ∧ path.filterMap wave? = [] :=
  ⟨List.flatMap_eq_nil_iff.2 fun x hx => (h x hx).quiet.1,
    List.filterMap_eq_nil_iff.2 fun x hx => (h x hx).quiet.2⟩

namespace Operation

open Call

theorem path_countTimes (n : Counter) (k : Nat) (s : Session σ) :
    ∀ x ∈ (countTimes n k).path s, x.Counts := by
  induction k generalizing s with
  | zero => exact fun _ h => nomatch h
  | succ k ih => exact List.forall_mem_cons.2 ⟨⟨n, rfl⟩, ih _⟩

theorem path_tally (report : BulkDelete) (outcomes : List (String × Except BackendError Unit))
    (s : Session σ) : ∀ x ∈ (tally report outcomes).path s, x.Counts := by
  induction outcomes generalizing report s with
  | nil => exact fun _ h => nomatch h
  | cons outcome rest ih =>
    obtain ⟨id, r⟩ := outcome
    match r with
    | .ok () | .error .notFound => exact ih _ s
    | .error .alreadyExists | .error .preconditionFailed | .error (.failure ..) =>
      exact List.forall_mem_cons.2 ⟨⟨_, rfl⟩, ih _ _⟩

theorem deleteWaves_cons (report : BulkDelete) (wave : List String) (rest : List (List String)) :
    deleteWaves report (wave :: rest) =
      countTimes .delete wave.length >>= fun _ => act (.deleteWave wave) fun outcomes =>
        tally report (wave.zip outcomes) >>= fun report => deleteWaves report rest := rfl

/-- The first wave, and how a bulk goes on: it knows no more of it than what it
reports, and has only counted besides. -/
theorem run_deleteWaves_cons (report : BulkDelete) (wave : List String)
    (rest : List (List String)) (s : Session σ) :
    ∃ m m' before after, (∀ x ∈ before, Exchange.Counts x) ∧ (∀ x ∈ after, Exchange.Counts x) ∧
      let wait := (s.withMetrics m).perform (.deleteWave wave)
      let next := deleteWaves (report.enter (wave.zip wait.1)) rest
      (deleteWaves report (wave :: rest)).run s = next.run (wait.2.withMetrics m') ∧
      (deleteWaves report (wave :: rest)).path s =
        before ++ ⟨.deleteWave wave, wait.1⟩ :: (after ++ next.path (wait.2.withMetrics m')) := by
  have hcounted := run_countTimes .delete wave.length s
  let s₁ := counting s .delete wave.length
  obtain ⟨m', htally⟩ := run_tally_enter report (wave.zip (s₁.perform (.deleteWave wave)).1)
    (s₁.perform (.deleteWave wave)).2
  refine ⟨s₁.engine.metrics, m', _, _, path_countTimes .delete wave.length s,
    path_tally report (wave.zip (s₁.perform (.deleteWave wave)).1)
      (s₁.perform (.deleteWave wave)).2, ?_, ?_⟩
  · rw [deleteWaves_cons, run_bind, hcounted, run_act, run_bind, htally]
    rfl
  · rw [deleteWaves_cons, path_bind, hcounted]
    refine congrArg _ (congrArg (List.cons _) ?_)
    rw [path_bind, htally]
    rfl

variable {b : Backend σ} {c : CollectionRef}

/-- **A bulk deletes the records one after the other**, and what it reports is
an account of the replies. Induction on the waves. -/
theorem run_deleteWaves_monitored (report : BulkDelete) (waves : List (List String))
    {s : Session (σ × Probe)} (hl : s.engine.link = some ⟨b.monitored, c⟩)
    (hidle : s.world.store.2.Idle) :
    let done := b.deleteEach c waves.flatten s.world.store.1
    let path := (deleteWaves report waves).path s
    ∃ s', (deleteWaves report waves).run s = (report.enter (waves.flatten.zip done.1), s') ∧
      s'.world.store = (done.2, waves.foldl Probe.swept s.world.store.2) ∧
      path.flatMap Exchange.deletions = waves.flatten.zip done.1 ∧
      path.filterMap Exchange.wave? = waves := by
  induction waves generalizing report s with
  | nil =>
    refine ⟨s, ?_, rfl, rfl, rfl⟩
    rw [List.flatten_nil, List.zip_nil_left, BulkDelete.enter_nil]
    rfl
  | cons wave rest ih =>
    obtain ⟨m, m', before, after, hbefore, hafter, hrun, hpath⟩ :=
      run_deleteWaves_cons report wave rest s
    obtain ⟨hbefore, hbefore'⟩ := Exchange.quiet_of_counts hbefore
    obtain ⟨hafter, hafter'⟩ := Exchange.quiet_of_counts hafter
    obtain ⟨t, hperform⟩ :=
      Session.perform_deleteWave_monitored (s := s.withMetrics m) hl hidle wave
    simp only [hperform] at hrun hpath
    obtain ⟨s', hnext, hstore, hdeletions, hwaves⟩ :=
      ih (report.enter (wave.zip (b.deleteEach c wave s.world.store.1).1))
        (s := ⟨(s.withMetrics m').engine, ⟨t, s.world.draws,
          ((b.deleteEach c wave s.world.store.1).2, s.world.store.2.swept wave)⟩⟩)
        hl (hidle.swept wave)
    -- the waves are joined again, ids and replies alike, since each id has a reply
    have hlength : wave.length = (b.deleteEach c wave s.world.store.1).1.length :=
      (Backend.length_deleteEach b c wave _).symm
    rw [List.flatten_cons, Backend.deleteEach_append]
    dsimp only
    rw [List.zip_append hlength, BulkDelete.enter_append]
    refine ⟨s', hrun.trans hnext, hstore, ?_, ?_⟩
    · rw [hpath, List.flatMap_append, hbefore, List.flatMap_cons, List.flatMap_append, hafter]
      exact congrArg (wave.zip _ ++ ·) hdeletions
    · rw [hpath, List.filterMap_append, hbefore',
        List.filterMap_cons_some (f := Exchange.wave?) (b := wave) rfl, List.filterMap_append,
        hafter']
      exact congrArg (wave :: ·) hwaves

end Operation

/-! ## What the probe has seen -/

namespace Probe

variable (p : Probe) (waves : List (List String))

/-- All the deletes have been written down, and all are over. -/
theorem foldl_swept :
    (waves.foldl swept p).log = p.log ++ waves.flatten.map (BackendOp.entry .delete) ∧
    (waves.foldl swept p).deleting = p.deleting ∧
    p.mostDeleting ≤ (waves.foldl swept p).mostDeleting := by
  induction waves generalizing p with
  | nil => simp
  | cons wave rest ih =>
    obtain ⟨hlog, hdeleting, hmost⟩ := ih (p.swept wave)
    refine ⟨?_, hdeleting, Nat.le_trans (Nat.le_max_left ..) hmost⟩
    rw [List.foldl_cons, hlog, List.flatten_cons, List.map_append, ← List.append_assoc]
    rfl

theorem mostDeleting_le_of_length_le {m : Nat} (h : ∀ wave ∈ waves, wave.length ≤ m) :
    (waves.foldl swept p).mostDeleting ≤ max p.mostDeleting m := by
  induction waves generalizing p with
  | nil => exact Nat.le_max_left ..
  | cons wave rest ih =>
    obtain ⟨hwave, hrest⟩ := List.forall_mem_cons.1 h
    have hpeak : p.peak wave.length ≤ m := by
      unfold peak
      split <;> omega
    have hmost : (p.swept wave).mostDeleting = max p.mostDeleting (p.peak wave.length) := rfl
    have hle := ih (p.swept wave) hrest
    rw [List.foldl_cons]
    omega

theorem length_le_mostDeleting (htime : p.deleteTime ≠ 0) {wave : List String}
    (h : wave ∈ waves) : wave.length ≤ (waves.foldl swept p).mostDeleting := by
  induction waves generalizing p with
  | nil => cases h
  | cons first rest ih =>
    obtain rfl | hrest := List.mem_cons.1 h
    · have hpeak : p.peak wave.length = wave.length := if_neg htime
      obtain ⟨-, -, hmost⟩ := (p.swept wave).foldl_swept rest
      refine Nat.le_trans ?_ hmost
      exact Nat.le_trans (Nat.le_of_eq hpeak.symm) (Nat.le_max_right ..)
    · exact ih (p.swept first) htime hrest

/-- Of a bulk, so many deletes are under way at once as one stretch holds, if
they take any time, and never more. -/
theorem mostDeleting_waves {bound : Nat} (hbound : 0 < bound) (ids : List String) :
    let seen := (Operation.waves bound ids).foldl swept p
    seen.mostDeleting ≤ max p.mostDeleting (min bound ids.length) ∧
      (p.deleteTime ≠ 0 → seen.mostDeleting = max p.mostDeleting (min bound ids.length)) := by
  intro seen
  have hle : seen.mostDeleting ≤ max p.mostDeleting (min bound ids.length) :=
    p.mostDeleting_le_of_length_le _ (Operation.length_le_of_mem_waves hbound ids)
  refine ⟨hle, fun htime => Nat.le_antisymm hle (Nat.max_le.2 ⟨(p.foldl_swept _).2.2, ?_⟩)⟩
  by_cases hids : ids = []
  · subst hids
    exact Nat.le_trans (Nat.min_le_right ..) (Nat.zero_le _)
  · obtain ⟨wave, hwave, hlength⟩ := Operation.exists_mem_waves hbound hids
    rw [← hlength]
    exact p.length_le_mostDeleting _ htime hwave

end Probe

/-! ## Bulk deletes -/

/-- What a bulk delete has done, given the reply to the delete of each id. -/
structure Session.BulkDeletes (kind : BackendKind) (config : Config) (ids : List String)
    (s s' : Session ((Fleet × Outages) × Probe)) (path : List Exchange)
    (replies : List (Except BackendError Unit)) (report : Operation.BulkDelete) : Prop where
  /-- Each id of the list is deleted once, in order. -/
  deletions : path.flatMap Exchange.deletions = ids.zip replies
  length : replies.length = ids.length
  /-- The backend has been asked for nothing else. -/
  log : s'.world.store.2.log = s.world.store.2.log ++ ids.map (BackendOp.entry .delete)
  /-- The waves are the consecutive stretches of the list. -/
  waves : path.filterMap Exchange.wave? =
    (List.range ((ids.length + config.maxPending - 1) / config.maxPending)).map fun i =>
      (ids.drop (i * config.maxPending)).take config.maxPending
  /-- No more deletes than the configuration allows were under way at once. -/
  bounded : s'.world.store.2.mostDeleting ≤
    max s.world.store.2.mostDeleting (min config.maxPending ids.length)
  /-- So many were, if they took any time. -/
  peak : s.world.store.2.deleteTime ≠ 0 → s'.world.store.2.mostDeleting =
    max s.world.store.2.mostDeleting (min config.maxPending ids.length)
  settled : s'.world.store.2.deleting = 0
  requested : report.requested = ids.length
  total : report.deleted + report.failures.length = ids.length
  /-- The failures are those of the replies, but for records that were not
  there. -/
  failures : report.failures = (ids.zip replies).filterMap Operation.failure?
  complete : report.isComplete = true ↔ ∀ r ∈ replies, r = .ok () ∨ r = .error .notFound
  /-- What is gone is what a delete has removed. -/
  look : ∀ c id, (Fleet.view kind).exposed.look s'.world.store.1 c id =
    if (Fleet.view kind).exposed.shelf c =
        (Fleet.view kind).exposed.shelf config.collectionRef ∧ id ∈ succeeded ids replies then none
    else (Fleet.view kind).exposed.look s.world.store.1 c id
  /-- Any of the deletes may have been made to fail. -/
  outages : ∀ i e, i < ids.length → s.world.store.1.2 .delete i = some e →
    replies[i]? = some (.error e)

namespace Operation

/-- Every delete of a bulk is reported. -/
theorem BulkDelete.isComplete_iff {ids : List String} {replies : List (Except BackendError Unit)}
    (hlength : replies.length = ids.length) {report : BulkDelete}
    (hrequested : report.requested = ids.length)
    (htotal : report.deleted + report.failures.length = ids.length)
    (hfailures : report.failures = (ids.zip replies).filterMap failure?) :
    report.isComplete = true ↔ ∀ r ∈ replies, r = .ok () ∨ r = .error .notFound := by
  have hcomplete : report.isComplete = true ↔ report.failures = [] := by
    simp only [isComplete, Bool.and_eq_true, List.isEmpty_iff, decide_eq_true_eq]
    refine and_iff_left_of_imp fun hnone => ?_
    rw [hnone, List.length_nil] at htotal
    rw [hrequested]
    exact htotal
  rw [hcomplete, hfailures, List.filterMap_eq_nil_iff]
  constructor
  · intro h r hr
    rw [← List.map_snd_zip (Nat.le_of_eq hlength)] at hr
    obtain ⟨x, hx, rfl⟩ := List.mem_map.1 hr
    exact failure?_eq_none_iff.1 (h x hx)
  · rintro h ⟨id, r⟩ hx
    exact failure?_eq_none_iff.2 (h r (List.of_mem_zip hx).2)

end Operation

/-- Where an engine is connected, a bulk delete goes about its waves. -/
theorem Operation.run_deleteMany_of_linked {s : Session σ} {config : Config} {l : Link σ}
    (hconfig : s.engine.config = .ready config) (hl : s.engine.link = some l)
    (ids : List String) :
    let sweep := deleteWaves { requested := ids.length } (waves config.maxPending ids)
    (deleteMany ids).run s = (.ok (sweep.run s).1, (sweep.run s).2) ∧
      (deleteMany ids).path s = ⟨.connect, .ok config⟩ :: sweep.path s := by
  intro sweep
  have hconnected : deleteMany ids = connected fun config =>
      deleteWaves { requested := ids.length } (waves config.maxPending ids) >>=
        fun report => .done (.ok report) := rfl
  have hconnect := Session.connect_of_linked hconfig hl
  constructor
  · rw [hconnected, run_connected_eq, hconnect]
    exact Call.run_bind ..
  · rw [hconnected, path_connected, hconnect]
    exact congrArg _ (Call.path_bind_done ..)

open Operation Fleet in
/-- **What a bulk delete does.** An engine is connected to a shared backend of
any kind, which meets outages, behind a probe which makes deletes take any time.
Whatever is stored, and whichever ids the list holds, a bulk delete answers a
report. It has deleted each id once, in order and in bounded waves, and what it
reports and what is left are as the replies say, whichever those are. -/
theorem bulk_delete_is_exact {kind : BackendKind} {config : Config} (hbound : 1 ≤ config.maxPending)
    {s : Session ((Fleet × Outages) × Probe)} (hs : s.Watched kind config)
    (hlinked : s.engine.link ≠ none) (ids : List String) :
    let q := Request.deleteMany ids
    ∃ replies report, (q.call.run s).1 = .report (.ok report) ∧
      Session.BulkDeletes kind config ids s (q.call.run s).2 (q.call.path s) replies report := by
  intro q
  obtain ⟨l, hl⟩ := Option.ne_none_iff_exists'.1 hlinked
  obtain ⟨b, f, hopen, rfl, -⟩ := hs.link l hl
  let c := config.collectionRef
  let done := b.exposed.deleteEach c ids s.world.store.1
  let report := BulkDelete.enter { requested := ids.length } (ids.zip done.1)
  obtain ⟨s', hsweep, hstore, hdeletions, hwaves⟩ :=
    run_deleteWaves_monitored { requested := ids.length } (waves config.maxPending ids) hl hs.idle
  obtain ⟨hmany, hpath⟩ := run_deleteMany_of_linked hs.bound hl ids
  rw [flatten_waves] at hsweep hstore hdeletions
  have hrun : q.call.run s = (.report (.ok report), s') :=
    run_answer (hmany.trans (by rw [hsweep]))
  have hpath' : q.call.path s = ⟨.connect, .ok config⟩ ::
      (deleteWaves { requested := ids.length } (waves config.maxPending ids)).path s :=
    (Call.path_bind_done ..).trans hpath
  have hlength : done.1.length = ids.length := b.exposed.length_deleteEach c ids _
  -- each reply is counted as a success or entered as a failure
  have htotal : report.deleted + report.failures.length = ids.length := by
    have htold := BulkDelete.deleted_add_length_failures { requested := ids.length }
      (ids.zip done.1)
    rw [List.length_zip, hlength, Nat.min_self] at htold
    simpa using htold
  have hfailures : report.failures = (ids.zip done.1).filterMap failure? := List.nil_append _
  obtain ⟨hlog, hover, -⟩ := s.world.store.2.foldl_swept (waves config.maxPending ids)
  obtain ⟨hbounded, hpeak⟩ := s.world.store.2.mostDeleting_waves hbound ids
  rw [flatten_waves] at hlog
  rw [hrun, hpath']
  refine ⟨done.1, report, rfl, ?_⟩
  have hprobe : s'.world.store.2 =
      (waves config.maxPending ids).foldl Probe.swept s.world.store.2 := congrArg Prod.snd hstore
  exact {
    deletions := hdeletions
    length := hlength
    log := hprobe ▸ hlog
    waves := hwaves.trans (waves_eq hbound ids)
    bounded := hprobe ▸ hbounded
    peak := hprobe ▸ hpeak
    settled := hprobe ▸ hover.trans hs.idle.deleting
    requested := rfl
    total := htotal
    failures := hfailures
    complete := BulkDelete.isComplete_iff hlength rfl htotal hfailures
    look := fun c' id => by
      rw [show s'.world.store.1 = done.2 from congrArg Prod.fst hstore]
      exact ((Session.Watched.steady hopen).dropsAll c ids hs.sound).look_eq c' id
    outages := fun i e hi he => b.deleteEach_exposed c hi he }

/-- A collection in memory of which two deletes may be under way at once. -/
def pairwise : Config := { Fixture.memoryConfig "items" with maxPending := 2 }

/-- An engine that has created a record. Deletes take five milliseconds, and the
second one fails. -/
def Session.stocked : Session ((Fleet × Outages) × Probe) :=
  ((Request.create { id := "a" }).call.run
    ⟨{ connector := (Fleet.shared .memory).exposed.monitored, config := .ready pairwise },
      ⟨Instant.epoch, [], (({}, fun op n =>
        if op = .delete ∧ n = 1 then some (.passing "unreachable") else none),
        { deleteTime := 5 })⟩⟩).2

theorem Session.watched_stocked : stocked.Watched .memory pairwise :=
  (Errand.request (.create { id := "a" })).watched (.fresh rfl ⟨rfl, rfl⟩)

open Fleet in
/-- Of three deletes in two waves the second one fails. -/
theorem bulk_delete_is_exact_stocked :
    let q := Request.deleteMany ["a", "b", "a"]
    1 ≤ pairwise.maxPending ∧ Session.stocked.Watched .memory pairwise ∧
      Session.stocked.engine.link ≠ none ∧
      ∃ replies report, (q.call.run Session.stocked).1 = .report (.ok report) ∧
        Session.BulkDeletes .memory pairwise ["a", "b", "a"] Session.stocked
          (q.call.run Session.stocked).2 (q.call.path Session.stocked) replies report ∧
        replies[1]? = some (.error (.passing "unreachable")) ∧ ¬ report.isComplete := by
  intro q
  have hbound : 1 ≤ pairwise.maxPending := by decide
  have hlinked : Session.stocked.engine.link ≠ none :=
    Option.isSome_iff_ne_none.1 (by decide +kernel)
  obtain ⟨replies, report, hrun, hbulk⟩ :=
    bulk_delete_is_exact hbound Session.watched_stocked hlinked ["a", "b", "a"]
  have hfailed : replies[1]? = some (.error (.passing "unreachable")) :=
    hbulk.outages 1 _ (by decide) (by decide +kernel)
  refine ⟨hbound, Session.watched_stocked, hlinked, replies, report, hrun, hbulk, hfailed, ?_⟩
  intro hcomplete
  obtain h | h := hbulk.complete.1 hcomplete _ (List.mem_of_getElem? hfailed) <;> cases h

end LeaseStore
