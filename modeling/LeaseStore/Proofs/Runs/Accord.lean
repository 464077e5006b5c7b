/-
LeaseStore.Proofs.Runs.Accord — calls on stores that differ in dead records.

A read, a scan and an operation on a lock answer akin sessions alike and leave
them akin, whatever becomes of the cleanups on either side: where a record
lives, both sides go on with it, and where none does, both say so and tidy up
at most (`Session.Tidies`).

* `Request.concurs` — every request that reads or touches a lock.
-/
import LeaseStore.Proofs.Runs.Akin
import LeaseStore.Proofs.Runs.Locking

namespace LeaseStore

variable {σ φ : Type} {V : View σ} {fate : σ → φ} {c : CollectionRef}

namespace Operation

open Call Session

variable {α : Type} {s t : Session σ} {l : Link σ} {id : String}

theorem concurs_connected (h : Akin V fate c s t) {x : Config → Call (Except StoreError α)}
    (hx : ∀ (config : Config) (l : Link σ) (s' t' : Session σ), Akin V fate c s' t' →
      s'.engine.link = some l → Concurs V fate c ((x config).run s') ((x config).run t')) :
    Concurs V fate c ((connected x).run s) ((connected x).run t) := by
  have hconnects := h.fit.1.connect.1
  obtain ⟨hreply, hakin⟩ := h.connect
  rw [run_connected_eq, run_connected_eq, hreply]
  cases hs : s.connect.1 with
  | error err => exact ⟨rfl, hakin⟩
  | ok config =>
    rw [hs] at hconnects
    cases hconnects with
    | linked _ hl _ => exact hx config _ _ _ hakin hl

/-! ## Reads -/

/-- A cleanup leaves the fate alone. -/
theorem fate_purge (h : s.engine.Fated V fate) (hl : s.engine.link = some l) (id : String) :
    fate ((purge id).run s).2.world.store = fate s.world.store := by
  have hdelete : fate ((s.count .delete).perform (.delete id)).2.world.store =
      fate s.world.store := by
    rw [← (h.2 l hl).delete l.collection id s.world.store]
    simp only [Session.perform, Session.count, hl]
    rfl
  rw [run_purge_eq]
  obtain hrun | ⟨n, hrun⟩ := run_purged ((s.count .delete).perform (.delete id)).1
    ((s.count .delete).perform (.delete id)).2
  · rw [hrun, hdelete]
  · rw [hrun]
    exact hdelete

/-- Induction on the ids. -/
theorem fate_purgeAll (h : s.engine.Fated V fate) (hl : s.engine.link = some l)
    (ids : List String) :
    fate ((purgeAll ids).run s).2.world.store = fate s.world.store := by
  induction ids generalizing s with
  | nil => rfl
  | cons id ids ih =>
    rw [purgeAll, run_bind]
    exact (ih ((purge id).fated_run h) (((purge id).keeps_run s).link l hl)).trans
      (fate_purge h hl id)

theorem tidies_purge (h : s.Fit V c) (hfated : s.engine.Fated V fate)
    (hl : s.engine.link = some l) (hdead : V.Dead s.world.clock s.world.store c id) :
    Tidies V fate c s ((purge id).run s).2 := by
  obtain ⟨s', hrun, hproceeds, -, hclears⟩ := run_purge h hl hdead
  have hkeeps := (purge id).keeps_run s
  have hfate := fate_purge hfated hl id
  rw [hrun] at hkeeps hfate ⊢
  exact ⟨hproceeds, hkeeps, hfate, hclears⟩

theorem tidies_purgeAll (h : s.Fit V c) (hfated : s.engine.Fated V fate)
    (hl : s.engine.link = some l) {ids : List String}
    (hdead : ∀ id ∈ ids, V.Dead s.world.clock s.world.store c id) :
    Tidies V fate c s ((purgeAll ids).run s).2 := by
  obtain ⟨s', hrun, hproceeds, hclears⟩ := run_purgeAll h hl hdead
  have hkeeps := (purgeAll ids).keeps_run s
  have hfate := fate_purgeAll hfated hl ids
  rw [hrun] at hkeeps hfate ⊢
  exact ⟨hproceeds, hkeeps, hfate, hclears⟩

/-- What lives is read as it is. -/
theorem run_told_live {r : Record} (hlive : V.live s.world.clock s.world.store c id = some r) :
    (told id (V.shown s.world.store c id)).run s = (.ok r, s) := by
  obtain ⟨hlook, hexp⟩ := View.live_eq_some_iff.1 hlive
  rw [View.shown, hlook, told, run_judge_eq, hexp]
  rfl

/-- Where nothing lives, a read says so, and tidies up at most. -/
theorem run_told_dead (h : s.Fit V c) (hfated : s.engine.Fated V fate)
    (hl : s.engine.link = some l) (hdead : V.Dead s.world.clock s.world.store c id) :
    ((told id (V.shown s.world.store c id)).run s).1 = .error (.notFound id) ∧
      Tidies V fate c s ((told id (V.shown s.world.store c id)).run s).2 := by
  unfold View.shown
  cases hlook : V.look s.world.store c id with
  | none => exact ⟨rfl, h.tidies_count .notFound⟩
  | some r =>
    rw [told, run_judge_eq, if_pos (hdead r hlook)]
    have htidies : Tidies V fate c s ((purge id).run s).2 := tidies_purge h hfated hl hdead
    exact ⟨rfl, htidies.trans (htidies.fit.tidies_count .notFound)⟩

theorem concurs_told (h : Akin V fate c s t) (hl : s.engine.link = some l) (id : String) :
    Concurs V fate c ((told id (V.shown s.world.store c id)).run s)
      ((told id (V.shown t.world.store c id)).run t) := by
  have hlives : V.live t.world.clock t.world.store c id =
      V.live s.world.clock s.world.store c id := by
    rw [h.clock, h.live]
  cases hlive : V.live s.world.clock s.world.store c id with
  | some r =>
    rw [run_told_live hlive, run_told_live (hlives.trans hlive)]
    exact ⟨rfl, h⟩
  | none =>
    obtain ⟨hreply, htidies⟩ := run_told_dead h.fit.1 h.fated hl (View.live_eq_none_iff.1 hlive)
    obtain ⟨hreply', htidies'⟩ := run_told_dead h.fit.2 h.fated_right (h.link.trans hl)
      (View.live_eq_none_iff.1 (hlives.trans hlive))
    exact ⟨hreply'.trans hreply.symm, h.tidies hl htidies htidies'⟩

theorem concurs_fetch (h : Akin V fate c s t) (hl : s.engine.link = some l) (id : String) :
    Concurs V fate c ((fetch id).run s) ((fetch id).run t) := by
  obtain ⟨reply, st, reply', st', heq, heq', hakin, hreply⟩ := (h.count .get).read hl id
  rw [run_fetch_eq, run_fetch_eq, heq, heq']
  obtain ⟨e, rfl, rfl⟩ | ⟨rfl, rfl⟩ := hreply
  · exact ⟨rfl, hakin.count _⟩
  · exact concurs_told hakin hl id

theorem concurs_get (h : Akin V fate c s t) (id : String) :
    Concurs V fate c ((get id).run s) ((get id).run t) := by
  rw [get_eq]
  exact concurs_connected h fun _ _ _ _ hakin hl => concurs_fetch hakin hl id

theorem concurs_contains (h : Akin V fate c s t) (id : String) :
    Concurs V fate c ((contains id).run s) ((contains id).run t) := by
  obtain ⟨hreply, hakin⟩ := concurs_get h id
  rw [run_contains, run_contains, hreply]
  exact ⟨rfl, hakin⟩

theorem concurs_scan (h : Akin V fate c s t) (hl : s.engine.link = some l) :
    Concurs V fate c (scan.run s) (scan.run t) := by
  obtain ⟨reply, st, reply', st', heq, heq', hakin, hreply⟩ := (h.count .scan).list hl
  rw [run_scan_eq, run_scan_eq, heq, heq']
  obtain ⟨e, rfl, rfl⟩ | ⟨rs, rs', rfl, rfl, hholds, hholds'⟩ := hreply
  · exact ⟨rfl, hakin.count _⟩
  · rw [toldAll, toldAll, run_sift_eq, run_sift_eq]
    refine ⟨?_, hakin.tidies hl (tidies_purgeAll hakin.fit.1 hakin.fated hl (dead_of_sifted hholds))
      (tidies_purgeAll hakin.fit.2 hakin.fated_right (hakin.link.trans hl)
        (dead_of_sifted hholds'))⟩
    rw [hakin.clock]
    exact congrArg Except.ok (hholds.filter_eq hholds' (hakin.live c))

theorem concurs_getAll (h : Akin V fate c s t) :
    Concurs V fate c (getAll.run s) (getAll.run t) := by
  rw [getAll_eq]
  exact concurs_connected h fun _ _ _ _ hakin hl => concurs_scan hakin hl

/-! ## Locks -/

/-- To look for a record before its lock is touched comes to the same, and
where a record is found, it is on both sides. -/
theorem concurs_held (h : Akin V fate c s t) (id : String)
    {f : Except StoreError (Option Record) → Call α}
    (hmissed : ∀ (reply : Except StoreError (Option Record)) (s' t' : Session σ),
      (∀ r, reply ≠ .ok (some r)) → Akin V fate c s' t' →
      Concurs V fate c ((f reply).run s') ((f reply).run t'))
    (hfound : ∀ (r : Record) (l : Link σ) (s' t' : Session σ), Akin V fate c s' t' →
      s'.engine.link = some l → V.look s'.world.store c id = some r →
      V.look t'.world.store c id = some r →
      Concurs V fate c ((f (.ok (some r))).run s') ((f (.ok (some r))).run t')) :
    Concurs V fate c ((readForLock id >>= f).run s) ((readForLock id >>= f).run t) := by
  have hconcurs : Concurs V fate c ((readForLock id).run s) ((readForLock id).run t) := by
    obtain ⟨hreply, hakin⟩ := concurs_get h id
    rw [run_readForLock_eq, run_readForLock_eq, hreply]
    exact ⟨rfl, hakin⟩
  refine hconcurs.bind ?_
  obtain ⟨reply, s₁, hread, -, hfinds⟩ := run_readForLock h.fit.1 id
  obtain ⟨reply', t₁, hread', -, hfinds'⟩ := run_readForLock h.fit.2 id
  rw [hread, hread'] at hconcurs ⊢
  obtain ⟨hreply, hakin⟩ := hconcurs
  obtain rfl : reply' = reply := hreply
  match reply' with
  | .ok (some r) =>
    cases hfinds with
    | found hlook _ hsame hl =>
      cases hfinds' with
      | found hlook' _ hsame' _ =>
        exact hfound r _ s₁ t₁ hakin hl ((hsame.look c id).trans hlook)
          ((hsame'.look c id).trans hlook')
  | .ok none => exact hmissed _ s₁ t₁ (by simp) hakin
  | .error err => exact hmissed _ s₁ t₁ (by simp) hakin

theorem concurs_writeBack (h : Akin V fate c s t) (hl : s.engine.link = some l) {r v : Record}
    (hs : V.look s.world.store c r.id = some v) (ht : V.look t.world.store c r.id = some v)
    (htoken : v.token = r.token) :
    Concurs V fate c ((writeBack r).run s) ((writeBack r).run t) := by
  obtain ⟨reply, st, st', heq, heq', hakin⟩ := h.upsert hl hs ht htoken
  rw [run_writeBack_eq, run_writeBack_eq, heq, heq']
  cases reply with
  | ok => exact ⟨rfl, hakin.count .upsert⟩
  | error e => exact ⟨rfl, hakin.count _⟩

theorem concurs_grab (h : Akin V fate c s t) (hl : s.engine.link = some l) {r : Record}
    (hs : V.look s.world.store c id = some r) (ht : V.look t.world.store c id = some r)
    (owner : Owner) (seconds : Nat) :
    Concurs V fate c ((grab r owner seconds).run s) ((grab r owner seconds).run t) := by
  obtain rfl := V.id_of_look h.fit.1.sound hs
  rw [run_grab_eq, run_grab_eq, h.clock]
  split
  case isTrue => exact ⟨rfl, h.count .lockContended⟩
  case isFalse =>
    obtain ⟨hreply, hakin⟩ := concurs_writeBack h hl
      (r := (r.touchAt s.world.clock).lockAt owner seconds s.world.clock) hs ht rfl
    rw [hreply]
    exact ⟨rfl, hakin.count _⟩

theorem concurs_tryToLock (h : Akin V fate c s t) (id : String) (owner : Owner) (seconds : Nat) :
    Concurs V fate c ((tryToLock id owner seconds).run s) ((tryToLock id owner seconds).run t) := by
  rw [tryToLock_eq]
  refine concurs_held h id (fun reply s' t' hreply hakin => ?_)
    fun r l s' t' hakin hl hs ht => concurs_grab hakin hl hs ht owner seconds
  match reply with
  | .error err => exact ⟨rfl, hakin⟩
  | .ok none => exact ⟨rfl, hakin.count .lockFailed⟩
  | .ok (some r) => exact absurd rfl (hreply r)

theorem concurs_letGo (h : Akin V fate c s t) (hl : s.engine.link = some l) {r : Record}
    (hs : V.look s.world.store c id = some r) (ht : V.look t.world.store c id = some r)
    (owner : Owner) :
    Concurs V fate c ((letGo r owner).run s) ((letGo r owner).run t) := by
  obtain rfl := V.id_of_look h.fit.1.sound hs
  rw [run_letGo_eq, run_letGo_eq, h.clock]
  split
  case isFalse => exact ⟨rfl, h.count .unlock⟩
  case isTrue hlocked =>
    have hrun' := run_release_eq t (h.clock.symm ▸ hlocked) owner
    rw [h.clock] at hrun'
    rw [run_release_eq s hlocked, hrun']
    split
    case isFalse => exact ⟨rfl, h.count .unlockRefused⟩
    case isTrue =>
      obtain ⟨hreply, hakin⟩ := concurs_writeBack h hl
        (r := (r.touchAt s.world.clock).released) hs ht rfl
      rw [hreply]
      exact ⟨rfl, hakin.count _⟩

theorem concurs_tryToUnlock (h : Akin V fate c s t) (id : String) (owner : Owner) :
    Concurs V fate c ((tryToUnlock id owner).run s) ((tryToUnlock id owner).run t) := by
  rw [tryToUnlock_eq]
  refine concurs_held h id (fun reply s' t' hreply hakin => ?_)
    fun r l s' t' hakin hl hs ht => concurs_letGo hakin hl hs ht owner
  match reply with
  | .error err => exact ⟨rfl, hakin⟩
  | .ok none => exact ⟨rfl, hakin.count .unlockRefused⟩
  | .ok (some r) => exact absurd rfl (hreply r)

/-- The pause is the same on both sides, for so is the jitter. -/
theorem concurs_pauseThen (h : Akin V fate c s t) (p : RetryPolicy) (n : Nat)
    {rest : Call (Option (Except StoreError Bool))}
    (hrest : ∀ s' t' : Session σ, Akin V fate c s' t' →
      Concurs V fate c (rest.run s') (rest.run t')) :
    Concurs V fate c ((pauseThen p n rest).run s) ((pauseThen p n rest).run t) := by
  obtain ⟨hreply, hakin⟩ := h.draw (p.jitterBound n)
  -- the reply and the sessions are named apart: as pairs they would have the bound evaluated
  rw [pauseThen, run_bind, run_bind, run_perform, run_perform, hreply]
  generalize (s.perform (.draw (p.jitterBound n))).1 = jitter
  generalize (s.perform (.draw (p.jitterBound n))).2 = s₁ at hakin ⊢
  generalize (t.perform (.draw (p.jitterBound n))).2 = t₁ at hakin ⊢
  cases p.delay? n jitter with
  | none => exact ⟨rfl, hakin⟩
  | some d => exact hrest _ _ (hakin.pause d)

/-- Induction on the attempts that are left. -/
theorem concurs_retryFrom (h : Akin V fate c s t) (p : RetryPolicy) (id : String) (owner : Owner)
    (seconds left n : Nat) :
    Concurs V fate c ((retryFrom p (tryToLock id owner seconds) left n).run s)
      ((retryFrom p (tryToLock id owner seconds) left n).run t) := by
  induction left generalizing s t n with
  | zero => exact ⟨rfl, h⟩
  | succ left ih =>
    have hattempt := concurs_tryToLock h id owner seconds
    rw [retryFrom]
    refine hattempt.bind ?_
    cases ((tryToLock id owner seconds).run s).1 with
    | error err => exact ⟨rfl, hattempt.akin⟩
    | ok locked =>
      cases locked with
      | true => exact ⟨rfl, hattempt.akin⟩
      | false =>
        dsimp only
        split
        case isTrue => exact ⟨rfl, hattempt.akin⟩
        case isFalse =>
          exact concurs_pauseThen hattempt.akin p n fun s' t' hakin => ih hakin (n + 1)

end Operation

/-! ## Requests -/

/-- The request reads, or touches a lock. -/
def Request.Looks : Request → Prop
  | .get _ | .contains _ | .getAll => True
  | .tryToLock .. | .tryToUnlock .. | .lockWithRetry .. => True
  | _ => False

open Operation in
/-- **Akin sessions are answered alike.** Cases on the request. -/
theorem Request.concurs {q : Request} (hq : q.Looks) {s t : Session σ}
    (h : s.Akin V fate c t) : Session.Concurs V fate c (q.call.run s) (q.call.run t) := by
  cases q with
  | get id => exact (concurs_get h id).map Answer.record
  | contains id => exact (concurs_contains h id).map Answer.truth
  | getAll => exact (concurs_getAll h).map Answer.records
  | tryToLock id owner seconds => exact (concurs_tryToLock h id owner seconds).map Answer.truth
  | tryToUnlock id owner => exact (concurs_tryToUnlock h id owner).map Answer.truth
  | lockWithRetry id owner seconds p =>
    exact (concurs_retryFrom h p id owner seconds p.attempts 0).map Answer.retried
  | create | upsert | upsertWithToken | delete | deleteMany | healthCheck => exact hq.elim

end LeaseStore
