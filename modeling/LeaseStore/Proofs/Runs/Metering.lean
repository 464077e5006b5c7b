/-
LeaseStore.Proofs.Runs.Metering — what an engine has counted.

The books of a call (`LeaseStore.Proofs.Runs.Ledger`) are about its exchanges.
Here they are set against the engine's counts on one side, which only `count`
changes, and on the other against the notes of the backend itself
(`Call.countP_contacts`): an engine that is asked anything has connected, so
what the call asks is what the backend hears.

* `counts_account_for_calls` — for a whole life of an engine, over any
  connector and any backends.
-/
import Mathlib.Algebra.GroupWithZero.Nat
import LeaseStore.Fleet
import LeaseStore.Proofs.Calls.Conduct
import LeaseStore.Proofs.Runs.Ledger
import LeaseStore.Proofs.Runs.Lifecycle

namespace LeaseStore

variable {σ : Type}

/-! ## The path that a call takes -/

namespace Backend

theorem length_startWave (b : Backend σ) (c : CollectionRef) (ids : List String) (s : σ) :
    (b.startWave c ids s).1.length = ids.length := by
  induction ids generalizing s with
  | nil => rfl
  | cons id ids ih =>
    by_cases hdelay : (b.startDelete c id s).1.delay = 0
    · simp only [startWave, if_pos hdelay]
      exact congrArg (· + 1) (ih _)
    · simp only [startWave, if_neg hdelay]
      exact congrArg (· + 1) (ih _)

theorem length_settleWave (start : Instant) (xs : List (Started σ)) (w : World σ) :
    (settleWave start xs w).1.length = xs.length := by
  induction xs generalizing w with
  | nil => rfl
  | cons x xs ih => cases x <;> exact congrArg (· + 1) (ih _)

/-- Each delete of a wave is replied to. -/
theorem length_deleteWave (b : Backend σ) (c : CollectionRef) (ids : List String) (w : World σ) :
    (b.deleteWave c ids w).1.length = ids.length :=
  (length_settleWave _ _ _).trans (b.length_startWave c ids w.store)

end Backend

theorem Session.sane_perform (s : Session σ) (a : Action) :
    Exchange.Sane ⟨a, (s.perform a).1⟩ := by
  cases a with
  | deleteWave ids =>
    show (s.perform (.deleteWave ids)).1.length = ids.length
    simp only [perform]
    split
    · exact List.length_map _
    · exact Backend.length_deleteWave ..
  | _ => trivial

namespace Call

variable {α β : Type}

/-- The exchanges of a call. -/
def path : Call α → Session σ → List Exchange
  | done _, _ => []
  | act a next, s => ⟨a, (s.perform a).1⟩ :: (next (s.perform a).1).path (s.perform a).2

/-- Induction on the call. -/
theorem Yields.path {x : Call α} {P : List Exchange → α → Prop} (h : x.Yields P)
    (s : Session σ) : P (x.path s) (x.run s).1 := by
  induction x generalizing s P with
  | done a => exact h
  | act a next ih => exact ih _ (h _ (s.sane_perform a)) _

/-- One call after the other. Induction on the first. -/
theorem path_bind (x : Call α) (f : α → Call β) (s : Session σ) :
    (x >>= f).path s = x.path s ++ (f (x.run s).1).path (x.run s).2 := by
  induction x generalizing s with
  | done a => rfl
  | act a next ih => exact congrArg _ (ih _ _)

theorem path_bind_done (x : Call α) (f : α → β) (s : Session σ) :
    (x >>= fun a => done (f a)).path s = x.path s := by
  rw [path_bind]
  exact List.append_nil _

/-- What is done on the path keeps to the rules. Induction on the call. -/
theorem Along.path {x : Call α} {P : List Exchange → Action → Prop}
    {Q : List Exchange → α → Prop} {past : List Exchange} (h : x.Along P Q past)
    (s : Session σ) : ∀ y ∈ x.path s, ∃ past, P past y.action := by
  induction x generalizing past s with
  | done a => exact fun y hy => nomatch hy
  | act a next ih =>
    exact List.forall_mem_cons.2 ⟨⟨past, h.1⟩, ih _ (h.2 _) _⟩

end Call

/-- The path of an operation that first connects. -/
theorem Operation.path_connected {α : Type} (x : Config → Call (Except StoreError α))
    (s : Session σ) :
    (connected x).path s = ⟨.connect, s.connect.1⟩ :: Call.path (match s.connect.1 with
      | .error err => .done (.error err)
      | .ok config => x config) s.connect.2 := rfl

/-! ## Counts -/

/-- What an engine has counted for an account. -/
def Account.total (a : Account) (m : Metrics) : Nat := (a.counters.map m.get).sum

theorem Account.total_record (a : Account) (m : Metrics) (n : Counter) :
    a.total (m.record n) = a.total m + (a.counters.contains n).toNat := by
  have hget (c : Counter) : (m.record n).get c = m.get c + if n = c then 1 else 0 :=
    m.get_record n c
  cases a <;> simp only [total, counters, List.map_cons, List.map_nil, List.sum_cons, List.sum_nil,
    hget] <;> cases n <;> simp <;> omega

/-- Only counting changes the counts. -/
theorem Session.metrics_perform (s : Session σ) {x : Action} (hx : ∀ n, x ≠ .count n) :
    (s.perform x).2.engine.metrics = s.engine.metrics := by
  by_cases hconnect : x = .connect
  · rw [hconnect]
    exact s.attempts_connect.metrics
  · rw [engine_perform_eq hconnect hx]

theorem Session.total_perform (s : Session σ) (x : Action) (a : Account) :
    a.total (s.perform x).2.engine.metrics =
      a.total s.engine.metrics + (a.books ⟨x, (s.perform x).1⟩).toNat := by
  by_cases hcount : ∃ n, x = .count n
  · obtain ⟨n, rfl⟩ := hcount
    exact a.total_record s.engine.metrics n
  · have hbooks : a.books ⟨x, (s.perform x).1⟩ = false := by
      cases x with
      | count n => exact absurd ⟨n, rfl⟩ hcount
      | _ => rfl
    rw [hbooks, s.metrics_perform fun n h => hcount ⟨n, h⟩]
    rfl

/-- Induction on the call. -/
theorem Call.total_run {α : Type} (x : Call α) (s : Session σ) (a : Account) :
    a.total (x.run s).2.engine.metrics = a.total s.engine.metrics + a.booked (x.path s) := by
  induction x generalizing s with
  | done b => rfl
  | act x next ih =>
    have hfirst := s.total_perform x a
    have hrest := ih (s.perform x).1 (s.perform x).2
    have hbooked : a.booked ((act x next).path s) = (a.books ⟨x, (s.perform x).1⟩).toNat +
        a.booked ((next (s.perform x).1).path (s.perform x).2) := by
      rw [path, Account.booked, List.countP_cons, Account.booked, Nat.add_comm]
      cases a.books ⟨x, (s.perform x).1⟩ <;> rfl
    rw [run_act, hrest, hfirst, hbooked, Nat.add_assoc]

/-! ## What the backend hears -/

/-- An action that needs no link, no backend hears of. -/
theorem Exchange.contacts_eq_nil {x : Exchange} (h : ¬ x.action.NeedsLink) : x.contacts = [] := by
  obtain ⟨a, r⟩ := x
  cases a with
  | connect | now | count | pause | draw => rfl
  | read | list | create | upsert | delete | deleteWave | health => exact absurd trivial h

/-- Once it has connected, an engine is linked. -/
theorem Session.linked_perform {s : Session σ} {past : List Exchange} (a : Action)
    (h : Linked past → s.engine.link ≠ none) :
    Linked (⟨a, (s.perform a).1⟩ :: past) → (s.perform a).2.engine.link ≠ none := by
  rintro ⟨c, hc⟩
  rcases List.mem_cons.1 hc with hc | hc
  · obtain ⟨rfl, hreply⟩ := Exchange.mk.inj hc
    have hattempts := s.attempts_connect
    rw [show s.connect.1 = .ok c from (eq_of_heq hreply).symm] at hattempts
    exact hattempts.link
  · obtain ⟨l, hl⟩ := Option.ne_none_iff_exists'.1 (h ⟨c, hc⟩)
    rw [(s.keeps_perform a).link l hl]
    exact Option.some_ne_none l

section Heard

variable {p : Contact → Bool} (hopened : ∀ c e, p (.opened c e) = false)
  (hensure : ∀ e, p (.asked .ensure e) = false)

include hopened hensure

theorem Session.Attempts.countP {s s' : Session σ} {reply : Except StoreError Config}
    {new : List Contact} (h : Attempts s s' reply new) : new.countP p = 0 := by
  cases h <;> simp [hopened, hensure]

/-- An action, if the engine is linked where it has to be. -/
theorem Session.countP_contacts (s : Session σ) {a : Action}
    (hlinked : a.NeedsLink → s.engine.link ≠ none) :
    ((Call.perform a).contacts s).countP p =
      (Exchange.contacts ⟨a, (s.perform a).1⟩).countP p := by
  by_cases ha : a = .connect
  · subst ha
    exact s.attempts_connect.countP hopened hensure
  · have hheard := heard_of_adds ha (Call.adds_contacts a s)
    unfold Heard at hheard
    split at hheard
    case h_1 hl =>
      have hneeds : ¬ a.NeedsLink := fun hneeds => hlinked hneeds hl
      rw [hheard, Exchange.contacts_eq_nil hneeds]
    case h_2 => exact hheard.countP_eq p

/-- What is asked of the store, the backend hears, if the engine connects
before. Induction on the call: where it has connected by now, the engine is
linked. -/
theorem Call.countP_contacts {α : Type} {P : List Exchange → Action → Prop}
    {Q : List Exchange → α → Prop} (hP : ∀ past a, P past a → a.NeedsLink → Linked past)
    {past : List Exchange} {x : Call α} (hx : x.Along P Q past) {s : Session σ}
    (hlinked : Linked past → s.engine.link ≠ none) :
    (x.contacts s).countP p = ((x.path s).flatMap Exchange.contacts).countP p := by
  induction x generalizing s past with
  | done b => rfl
  | act a next ih =>
    obtain ⟨hallowed, hnext⟩ := hx
    have hfirst := s.countP_contacts hopened hensure fun ha => hlinked (hP past a hallowed ha)
    have hrest := ih (s.perform a).1 (hnext _) (s.linked_perform a hlinked)
    rw [contacts_act, path, List.flatMap_cons, List.countP_append, List.countP_append, hfirst,
      hrest]

end Heard

/-- An errand asks the store for nothing before it has connected. -/
theorem Errand.linked_of_allows {e : Errand} {past : List Exchange} {a : Action}
    (h : e.Allows past a) (ha : a.NeedsLink) : Linked past := by
  cases a with
  | connect | now | count | pause | draw => exact ha.elim
  | read | list | health => exact h
  | create | upsert | delete | deleteWave => exact h.1

/-! ## Calls -/

namespace Request

/-- How the attempts of a call to lock and to unlock end. -/
def verdicts (q : Request) (s : Session σ) : List Verdict := (q.judged.run s).1.1

/-- The contacts of a call, if it is to delete records. -/
def removals (q : Request) (s : Session σ) : List Contact :=
  if q.deletes then q.call.contacts s else []

/-- The contacts of a call, if it deletes records to clean up at most. -/
def otherContacts (q : Request) (s : Session σ) : List Contact :=
  if q.deletes then [] else q.call.contacts s

theorem path_judged (q : Request) (s : Session σ) : q.judged.path s = q.call.path s := by
  rw [← q.judged_bind, Call.path_bind_done]

/-- **One call counts what it owes**, by the notes of the backend. -/
theorem total_run (q : Request) (s : Session σ) (a : Account) :
    a.total (q.call.run s).2.engine.metrics = a.total s.engine.metrics +
      ((q.removals s).countP (a.charges true) + (q.otherContacts s).countP (a.charges false) +
        (q.verdicts s).countP a.credits + a.stale (q.call.path s)) := by
  have hbalanced : Balanced q.deletes (q.call.path s) (q.verdicts s) := by
    rw [← path_judged]
    exact q.balanced.path s
  have hheard : (q.call.contacts s).countP (a.charges q.deletes) =
      ((q.call.path s).flatMap Exchange.contacts).countP (a.charges q.deletes) :=
    Call.countP_contacts (fun _ _ => by cases a <;> rfl) (fun _ => by cases a <;> rfl)
      (fun _ _ => Errand.linked_of_allows) (Errand.conduct (.request q)) fun ⟨_, h⟩ => nomatch h
  have hcontacts : (q.removals s).countP (a.charges true) +
      (q.otherContacts s).countP (a.charges false) =
        (q.call.contacts s).countP (a.charges q.deletes) := by
    rw [removals, otherContacts]
    cases q.deletes
    · exact Nat.zero_add _
    · rfl
  rw [Call.total_run, hbalanced.even, Account.owed, ← hheard, hcontacts]

end Request

/-! ## Lives -/

namespace Session

/-- What `f` gathers from the calls of a stretch of an engine's life. -/
def gather {β : Type} (f : Request → Session σ → List β) : Session σ → List (Step σ) → List β
  | _, [] => []
  | s, .call q :: steps => f q s ++ gather f (s.take (.call q)) steps
  | s, .init c :: steps => gather f (s.take (.init c)) steps
  | s, .meanwhile g :: steps => gather f (s.take (.meanwhile g)) steps

/-- The point reads that were shown an expired record. -/
def staleReads (s : Session σ) (steps : List (Step σ)) : Nat :=
  (s.gather (fun q s => [LeaseStore.staleReads (q.call.path s)]) steps).sum

theorem sum_gather_zero (s : Session σ) (steps : List (Step σ)) :
    (s.gather (fun _ _ => [0]) steps).sum = 0 := by
  induction steps generalizing s with
  | nil => rfl
  | cons step steps ih => cases step <;> simp only [gather, List.sum_append, List.sum_singleton, ih]

theorem metrics_init (e : Engine σ) (c : Config) : (e.init c).2.metrics = e.metrics := by
  unfold Engine.init
  split
  · rfl
  · split <;> rfl

/-- Induction on the steps. -/
theorem total_live (s : Session σ) (steps : List (Step σ)) (a : Account) :
    a.total (s.live steps).engine.metrics = a.total s.engine.metrics +
      ((s.gather Request.removals steps).countP (a.charges true) +
        (s.gather Request.otherContacts steps).countP (a.charges false) +
        (s.gather Request.verdicts steps).countP a.credits +
        (s.gather (fun q s => [a.stale (q.call.path s)]) steps).sum) := by
  induction steps generalizing s with
  | nil => rfl
  | cons step steps ih =>
    have hrest := ih (s.take step)
    cases step with
    | init c =>
      have hsame : (s.take (.init c)).engine.metrics = s.engine.metrics := metrics_init _ _
      rw [hsame] at hrest
      exact hrest
    | meanwhile g => exact hrest
    | call q =>
      have hcall : a.total (s.take (.call q)).engine.metrics = _ := q.total_run s a
      show a.total ((s.take (.call q)).live steps).engine.metrics = _
      simp only [gather, List.countP_append, List.sum_append, List.sum_singleton]
      omega

/-- Every contact is one of a call, whether that deletes or not. -/
theorem countP_diary (s : Session σ) (steps : List (Step σ)) (p : Contact → Bool) :
    (s.diary steps).countP p = (s.gather Request.removals steps).countP p +
      (s.gather Request.otherContacts steps).countP p := by
  induction steps generalizing s with
  | nil => rfl
  | cons step steps ih =>
    have hrest := ih (s.take step)
    rw [diary_cons, List.countP_append, hrest]
    cases step with
    | init c => exact Nat.zero_add _
    | meanwhile g => exact Nat.zero_add _
    | call q =>
      have hcall : (s.contacts (.call q)).countP p =
          (q.removals s).countP p + (q.otherContacts s).countP p := by
        show (q.call.contacts s).countP p = _
        rw [Request.removals, Request.otherContacts]
        cases q.deletes
        · exact (Nat.zero_add _).symm
        · rfl
      simp only [gather, List.countP_append]
      omega

end Session

/-- No contact is both a refusal and a delete. Induction on the contacts. -/
theorem countP_isRefusal_or (xs : List Contact) :
    xs.countP (fun x => x.isRefusal || x.failsToDelete) =
      xs.countP (·.isRefusal) + xs.countP (·.failsToDelete) := by
  induction xs with
  | nil => rfl
  | cons x xs ih =>
    have hone : (x.isRefusal || x.failsToDelete).toNat =
        x.isRefusal.toNat + x.failsToDelete.toNat := by
      rcases x with _ | ⟨op, _ | e⟩
      · rfl
      · cases op <;> rfl
      · cases op <;> cases e <;> rfl
    simp only [List.countP_cons, ih]
    cases hrefusal : x.isRefusal <;> cases hdelete : x.failsToDelete <;>
      rw [hrefusal, hdelete] at hone <;> simp at hone ⊢ <;> omega

/-- **The counts account for every call.** Take any connector, any backends and
any life of an engine. Reads, listings and deletes are counted as they are
asked, writes as they succeed, and attempts to lock and unlock as they end, those
with pauses in between one by one. Of the deletes that clean up, the successful
ones are counted, and those that fail, but not for want of a record. Errors are
the reads, listings, writes and deletes on request that fail, but for deletes
for want of a record, and the point reads that are shown an expired record. -/
theorem counts_account_for_calls (k : Connector σ) (w : World σ) (steps : List (Step σ)) :
    let s := Session.start k w
    let m := (s.live steps).engine.metrics
    let notes := s.diary steps
    let removals := s.gather Request.removals steps
    let cleanups := s.gather Request.otherContacts steps
    let verdicts := s.gather Request.verdicts steps
    m.gets = notes.countP (·.asks .read) ∧ m.scans = notes.countP (·.asks .list) ∧
      m.deletes = notes.countP (·.asks .delete) ∧
      m.creates = notes.countP (·.succeeds .create) ∧
      m.upserts = notes.countP (·.succeeds .upsert) ∧
      m.locksAcquired = verdicts.countP (·.isLock true) ∧
      m.locksContended + m.locksFailed = verdicts.countP (·.isLock false) ∧
      m.unlocks = verdicts.countP (·.isUnlock true) ∧
      m.unlocksRefused = verdicts.countP (·.isUnlock false) ∧
      m.expiredPurged = cleanups.countP (·.succeeds .delete) ∧
      m.cleanupFailures = cleanups.countP (·.failsToDelete) ∧
      m.notFound + m.conflicts + m.backendErrors =
        notes.countP (·.isRefusal) + removals.countP (·.failsToDelete) + s.staleReads steps := by
  intro s m notes removals cleanups verdicts
  have hnotes (p : Contact → Bool) : notes.countP p = removals.countP p + cleanups.countP p :=
    s.countP_diary steps p
  have htotal (a : Account) : a.total m = removals.countP (a.charges true) +
      cleanups.countP (a.charges false) + verdicts.countP a.credits +
      (s.gather (fun q s => [a.stale (q.call.path s)]) steps).sum := by
    have hzero : a.total s.engine.metrics = 0 := by cases a <;> rfl
    have hlive : a.total m = _ := s.total_live steps a
    rw [hlive, hzero, Nat.zero_add]
  -- an account of contacts, whatever they are for, and one of verdicts
  have hcontacts (a : Account) {p : Contact → Bool} (hp : ∀ direct, a.charges direct = p)
      (hcredits : a.credits = fun _ => false) (hstale : a.stale = fun _ => 0) :
      a.total m = notes.countP p := by
    rw [htotal, hp, hp, hcredits, hstale, List.countP_false, s.sum_gather_zero, hnotes]
    rfl
  have hverdicts (a : Account) (hcharges : ∀ direct, a.charges direct = fun _ => false)
      (hstale : a.stale = fun _ => 0) : a.total m = verdicts.countP a.credits := by
    rw [htotal, hcharges, hcharges, hstale, List.countP_false, s.sum_gather_zero]
    exact Nat.zero_add _
  -- an account of the deletes that clean up
  have hcleanups (a : Account) {p : Contact → Bool}
      (hp : ∀ direct x, a.charges direct x = (p x && !direct))
      (hcredits : a.credits = fun _ => false) (hstale : a.stale = fun _ => 0) :
      a.total m = cleanups.countP p := by
    have hremovals : removals.countP (a.charges true) = 0 :=
      List.countP_eq_zero.2 fun x _ => by simp [hp]
    have hsame : cleanups.countP (a.charges false) = cleanups.countP p :=
      List.countP_congr fun x _ => by simp [hp]
    rw [htotal, hremovals, hsame, hcredits, hstale, List.countP_false, s.sum_gather_zero]
    exact Nat.zero_add _
  -- of the deletes, only those on request are charged if they fail; the rest is charged alike
  have herrors : Account.total .errors m =
      notes.countP (·.isRefusal) + removals.countP (·.failsToDelete) + s.staleReads steps := by
    have hremovals : removals.countP (Account.charges true .errors) =
        removals.countP (·.isRefusal) + removals.countP (·.failsToDelete) := by
      rw [← countP_isRefusal_or]
      exact List.countP_congr fun x _ => by simp [Account.charges]
    have hsame : cleanups.countP (Account.charges false .errors) =
        cleanups.countP (·.isRefusal) :=
      List.countP_congr fun x _ => by simp [Account.charges]
    have hverdicts : verdicts.countP (Account.credits .errors) = 0 :=
      List.countP_eq_zero.2 fun v _ => Bool.false_ne_true
    have hstale : s.staleReads steps =
      (s.gather (fun q s => [Account.stale .errors (q.call.path s)]) steps).sum := rfl
    rw [htotal, hremovals, hsame, hverdicts, hstale, hnotes]
    omega
  refine ⟨hcontacts .gets (fun _ => rfl) rfl rfl, hcontacts .scans (fun _ => rfl) rfl rfl,
    hcontacts .deletes (fun _ => rfl) rfl rfl, hcontacts .creates (fun _ => rfl) rfl rfl,
    hcontacts .upserts (fun _ => rfl) rfl rfl, hverdicts .locksAcquired (fun _ => rfl) rfl,
    hverdicts .locksLost (fun _ => rfl) rfl, hverdicts .unlocks (fun _ => rfl) rfl,
    hverdicts .unlocksRefused (fun _ => rfl) rfl, hcleanups .purged (fun _ _ => rfl) rfl rfl,
    hcleanups .cleanupFailures (fun _ _ => rfl) rfl rfl, ?_⟩
  rw [Nat.add_assoc]
  exact herrors

/-- A record is created and read. -/
def creationAndRead : List (Step Fleet) :=
  [.init { storageType := "memory", collection := "items" }, .call (.create { id := "a" }),
    .call (.get "a")]

/-- A point read that finds its record is no error. -/
theorem live_reads_are_no_errors :
    let s := Session.start (Fleet.opening (Fleet.memoryBackend Fleet.sharedMemory))
      ⟨Instant.epoch, [], {}⟩
    let m := (s.live creationAndRead).engine.metrics
    let notes := s.diary creationAndRead
    let removals := s.gather Request.removals creationAndRead
    m.notFound + m.conflicts + m.backendErrors ≠
      notes.countP (·.isRefusal) + removals.countP (·.failsToDelete) +
        notes.countP (·.asks .read) := by
  decide +kernel

end LeaseStore
