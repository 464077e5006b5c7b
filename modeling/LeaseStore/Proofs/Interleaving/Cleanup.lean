/-
LeaseStore.Proofs.Interleaving.Cleanup — what the cleanup of expired records
removes.

Who meets an expired record asks the backend to delete it, and the delete
has no condition. So it removes whatever stands under the id by then, which
need not be the record that was found expired.

* `cleanup_removes_expired_iff` — a version that a cleanup removes was
  expired at the reading that decided on it exactly if the last record that
  anyone stored under the id since the errand looked, if there is one, was.
* `cleanup_removes_extended` — a record whose owner has just extended it is
  removed by another engine's read.
-/
import LeaseStore.Proofs.Interleaving.Trace

namespace LeaseStore

variable {σ : Type} {V : View σ}

/-! ## The last record stored -/

/-- The record that an event has stored under an id. -/
def Event.storedAt? (V : View σ) (c : CollectionRef) (id : String) (e : Event σ) :
    Option Record :=
  match e.stored?, e.collection with
  | some r, some c' => if V.shelf c' = V.shelf c ∧ r.id = id then some r else none
  | _, _ => none

/-- The last record that a stretch of a trace has stored under an id. -/
def lastStored (V : View σ) (c : CollectionRef) (id : String) (events : List (Event σ)) :
    Option Record :=
  (events.filterMap (Event.storedAt? V c id)).getLast?

theorem Event.storedAt?_eq_some_iff {e : Event σ} {c : CollectionRef} {id : String}
    {r : Record} : e.storedAt? V c id = some r ↔ e.Stores V c r ∧ r.id = id := by
  unfold Event.storedAt? Event.Stores
  cases hstored : e.stored? with
  | none => simp
  | some r' =>
    cases hc : e.collection with
    | none => simp
    | some c' =>
      simp only [Option.ite_none_right_eq_some, Option.some.injEq]
      constructor
      · intro h
        obtain ⟨⟨hshelf, hid⟩, rfl⟩ := h
        exact ⟨⟨rfl, c', rfl, hshelf⟩, hid⟩
      · intro h
        obtain ⟨⟨rfl, c'', rfl, hshelf⟩, hid⟩ := h
        exact ⟨⟨hshelf, hid⟩, rfl⟩

theorem lastStored_concat (c : CollectionRef) (id : String) (events : List (Event σ))
    (e : Event σ) :
    lastStored V c id (events ++ [e]) = (e.storedAt? V c id).or (lastStored V c id events) := by
  cases h : e.storedAt? V c id with
  | none => simp [lastStored, List.filterMap_append, h]
  | some r => simp [lastStored, List.filterMap_append, h]

namespace Pool

variable {p : Pool σ}

/-- What is held under an id was the last to be stored there, or has been
there since before. -/
def Traced (V : View σ) (p : Pool σ) : Prop :=
  ∀ pre o mid, p.trace = pre ++ o :: mid → ∀ c id r, V.look p.world.store c id = some r →
    (lastStored V c id mid).or (V.look o.after.store c id) = some r

theorem Traced.act {k : Nat} {task : Task} {a : Action} {next : a.Reply → Call Answer}
    (h : p.Traced V) (he : (p.event k task a).Sane V) : (p.act k task a next).Traced V := by
  intro pre o mid htrace c id r hr
  change p.trace ++ [p.event k task a] = _ at htrace
  have hlook : V.look (p.event k task a).after.store c id = some r := hr
  obtain ⟨rfl, -, rfl⟩ | ⟨mid', rfl, htrace'⟩ := concat_eq_append_cons htrace
  · exact hlook
  · rw [lastStored_concat]
    obtain ⟨r', hstores, hid, hlook'⟩ | ⟨hnot, hsame⟩ := he.cell c id
    · rw [Event.storedAt?_eq_some_iff.2 ⟨hstores, hid⟩]
      exact hlook'.symm.trans hlook
    · have hnone : (p.event k task a).storedAt? V c id = none := by
        rw [Option.eq_none_iff_forall_not_mem]
        intro r' hr'
        obtain ⟨hstores, hid⟩ := Event.storedAt?_eq_some_iff.1 hr'
        exact hnot r' hstores hid
      rw [hnone, Option.none_or]
      obtain hkept | hgone := hsame
      · exact h pre o mid' htrace' c id r (hkept ▸ hlook)
      · exact absurd (hgone.symm.trans hlook) (by simp)

theorem Traced.run (hp : p.Sane V) (h : p.Traced V) (turns : List Turn) :
    (p.run turns).Traced V :=
  (Sane.run_induction (fun _ _ _ _ _ h _ => h) (fun _ _ _ _ _ _ h _ _ he => h.act he)
    (fun _ _ _ h => h) hp h turns).2

theorem traced_fresh (connector : Connector σ) (configs : Nat → Once Config) (w : World σ) :
    (fresh connector configs w).Traced V := by
  intro pre o mid htrace
  exact absurd htrace (by simp [fresh])

end Pool

/-! ## Cleanups -/

/-- The event is a cleanup that has removed this version: a delete that no
caller asked for, while the version was held. -/
structure Event.CleansUp (V : View σ) (e : Event σ) (c : CollectionRef) (v : Record) : Prop where
  exchange : e.exchange = ⟨.delete v.id, .ok ()⟩
  unasked : e.errand ≠ .request (.delete v.id)
  collection : e.collection = some c
  held : V.look e.before.store c v.id = some v

open Pool Fleet in
/-- **What a cleanup removes.** Before it the same errand has looked, been
shown a version under that id, and at its next step read the clock; since
then it has done nothing but clean up. The version that it was shown was
expired at that reading.

The version that is removed was expired at the reading exactly if the last
one that anyone stored under the id since then, if any, was: it is that
one, or else it is the one that the errand was shown. -/
theorem cleanup_removes_expired_iff (kind : BackendKind) (configs : Nat → Once Config)
    (w : World Fleet) (hvacant : Vacant kind w.store) (turns : List Turn)
    {pre post : List (Event Fleet)} {e : Event Fleet} {c : CollectionRef} {v : Record}
    (htrace : ((fresh (shared kind) configs w).run turns).trace = pre ++ e :: post)
    (hcleanup : e.CleansUp (view kind) c v) :
    ∃ before look gap reading rest t shown cleanup earlier,
      pre = before ++ look :: (gap ++ reading :: rest) ∧
      look.task = e.task ∧ look.exchange.Shows v.id shown ∧
      reading.task = e.task ∧ reading.exchange = ⟨.now, t⟩ ∧
      e.past = cleanup ++ ⟨.now, t⟩ :: look.exchange :: earlier ∧
      (∀ x ∈ cleanup, x.IsUpkeep) ∧ shown.isExpiredAt t = true ∧
      v = (lastStored (view kind) c v.id (gap ++ reading :: rest)).getD shown ∧
      (v.isExpiredAt t = true ↔
        ∀ r, lastStored (view kind) c v.id (gap ++ reading :: rest) = some r →
          r.isExpiredAt t = true) := by
  have hsane := sane_fresh hvacant configs
  obtain ⟨turns', k, task, a, next, hpre, htask, hrest, rfl⟩ := exists_turn_of_trace rfl htrace
  have hp := hsane.run turns'
  have hchron := (chronicled_fresh (shared kind) configs w).run hsane turns'
  have htraced := (traced_fresh (shared kind) configs w).run hsane turns'
  generalize (fresh (shared kind) configs w).run turns' = p at *
  subst hpre
  have he := hp.event htask hrest
  have hallowed := he.allowed
  rw [hcleanup.exchange] at hallowed
  obtain ⟨-, hasked | ⟨cleanup, t, sight, earlier, shown, hpast, hupkeep, hshows, hexpired⟩⟩ :=
    hallowed
  · exact absurd hasked hcleanup.unasked
  -- the look and the reading are exchanges of the errand, and so events of the trace
  have hown : task.past = ((p.trace.filter (·.task = k)).map (·.exchange)).reverse :=
    hchron.past k task htask
  obtain ⟨pre, look, gap, reading, rest, hsplit, hlook, rfl, hreading, hnow, -, -⟩ :=
    exists_events_of_past (hown.symm.trans hpast)
  have hmem : look ∈ p.trace := by
    rw [hsplit]
    simp
  obtain ⟨c', hc', hshown⟩ := (hchron.sane look hmem).look_of_shows hshows
  have hsame : c' = c := by
    have hlinked := hchron.collection look hmem task c' (hlook ▸ htask) hc'
    exact Option.some.inj (hlinked.symm.trans hcleanup.collection)
  subst hsame
  -- what is held at the cleanup is the last version stored since the look, or what it showed
  have hheld := htraced pre look (gap ++ reading :: rest) hsplit c' v.id v hcleanup.held
  rw [hshown] at hheld
  refine ⟨pre, look, gap, reading, rest, t, shown, cleanup, earlier, hsplit, hlook, hshows,
    hreading, hnow, hpast, hupkeep, hexpired, ?_⟩
  cases hlast : lastStored (view kind) c' v.id (gap ++ reading :: rest) with
  | none =>
    rw [hlast, Option.none_or, Option.some.injEq] at hheld
    subst hheld
    refine ⟨rfl, fun _ r hr => ?_, fun _ => hexpired⟩
    cases hr
  | some r =>
    rw [hlast, Option.some_or, Option.some.injEq] at hheld
    subst hheld
    refine ⟨rfl, fun hv r' hr' => ?_, fun h => h r rfl⟩
    cases hr'
    exact hv

/-! ## A record that was extended -/

/-- What an event tells of a delete: the id if it succeeded, whether a
caller asked for it, and the readings of the clock so far. -/
def Event.deletion (e : Event σ) : Option String × Bool × List Instant :=
  ( match e.exchange with
    | ⟨.delete id, .ok ()⟩ => some id
    | _ => none,
    match e.errand with
    | .request (.delete _) => true
    | _ => false,
    e.past.filterMap fun x =>
      match x with
      | ⟨.now, t⟩ => some t
      | _ => none )

theorem Event.exchange_of_deletion {e : Event σ} {id : String} {ts : List Instant}
    (h : e.deletion = (some id, false, ts)) :
    e.exchange = ⟨.delete id, .ok ()⟩ ∧ e.errand ≠ .request (.delete id) ∧
      ∀ t, ⟨.now, t⟩ ∈ e.past ↔ t ∈ ts := by
  obtain ⟨k, errand, past, ⟨action, reply⟩, c?, before, after⟩ := e
  simp only [Event.deletion, Prod.mk.injEq] at h
  obtain ⟨hexchange, herrand, rfl⟩ := h
  refine ⟨?_, ?_, fun t => ?_⟩
  · cases action with
    | delete id' =>
      cases reply with
      | error err => cases hexchange
      | ok u =>
        cases hexchange
        rfl
    | _ => cases hexchange
  · intro hasked
    rw [show errand = _ from hasked] at herrand
    cases herrand
  · rw [List.mem_filterMap]
    constructor
    · exact fun hmem => ⟨_, hmem, rfl⟩
    · intro h
      obtain ⟨⟨action, reply⟩, hmem, ht⟩ := h
      cases action with
      | now =>
        cases ht
        exact hmem
      | _ => cases ht

/-- A heartbeat extends a record while another engine's read has found it
expired and is about to clean it up: the heartbeat has read the record
before its time was over and writes it back when it is. -/
def heartbeat : List Turn :=
  let later (seconds : Nat) := Instant.epoch.after seconds
  .start 0 0 (.request (.create { id := "a", expiresAt := later 1 })) ::
    List.replicate 4 (.step 0) ++
      .wait 500 :: .start 1 0 (.update "a" fun r => (r.data, later 2)) ::
        List.replicate 4 (.step 1) ++
          .wait 500 :: .start 2 1 (.request (.get "a")) :: List.replicate 5 (.step 2) ++
            List.replicate 3 (.step 1) ++ [.step 2]

/-- The record as the heartbeat has stored it. -/
def extended : Record where
  id := "a"
  token := "\"0000000000000001-b06c6e60\""
  expiresAt := Instant.epoch.after 2
  modifiedAt := Instant.epoch.after 1

open Pool Fleet in
/-- The last event of a heartbeat: the read cleans up what the heartbeat has
stored. -/
theorem exists_cleansUp_heartbeat :
    ∃ pre e, (blank.run heartbeat).trace = pre ++ [e] ∧
      e.CleansUp (view .memory) items extended ∧
      (view .memory).look e.after.store items "a" = none ∧
      (∀ t, ⟨.now, t⟩ ∈ e.past ↔ t = Instant.epoch.after 1) ∧
      e.before.clock = Instant.epoch.after 1 := by
  have hdeletion : ((blank.run heartbeat).trace.drop 16).map
      (fun e => (e.deletion, e.collection, e.before.clock)) =
      [((some "a", false, [Instant.epoch.after 1]), some items,
        Instant.epoch.after 1)] := by
    decide +kernel
  have hlooks : ((blank.run heartbeat).trace.drop 16).map
      (fun e => ((view .memory).look e.before.store items "a",
          (view .memory).look e.after.store items "a")) =
      [(some extended, none)] := by
    decide +kernel
  obtain ⟨e, rest, hdrop, he, hnil⟩ := List.map_eq_cons_iff.1 hdeletion
  obtain rfl := List.map_eq_nil_iff.1 hnil
  rw [hdrop] at hlooks
  obtain ⟨hbefore, hafter⟩ := Prod.mk.inj (List.cons.inj hlooks).1
  obtain ⟨htold, hrest⟩ := Prod.mk.inj he
  obtain ⟨hcollection, hclock⟩ := Prod.mk.inj hrest
  obtain ⟨hexchange, hunasked, hreadings⟩ := Event.exchange_of_deletion htold
  have htrace := List.take_append_drop 16 (blank.run heartbeat).trace
  rw [hdrop] at htrace
  refine ⟨_, e, htrace.symm, ⟨hexchange, hunasked, hcollection, hbefore⟩, hafter, fun t => ?_,
    hclock⟩
  rw [hreadings, List.mem_singleton]

open Pool Fleet in
/-- What the read of a heartbeat removes was stored by someone else after it
had looked. -/
theorem cleanup_removes_expired_iff_heartbeat :
    ∃ before look rest e, (blank.run heartbeat).trace = (before ++ look :: rest) ++ [e] ∧
      Vacant .memory blank.world.store ∧ e.CleansUp (view .memory) items extended ∧
      look.task = e.task ∧
      lastStored (view .memory) items "a" rest = some extended := by
  obtain ⟨pre, e, htrace, hcleanup, -, hreadings, -⟩ := exists_cleansUp_heartbeat
  obtain ⟨before, look, gap, reading, rest, t, shown, cleanup, earlier, rfl, hlook, -, -, -, hpast,
    -, hshown, hlast, -⟩ := cleanup_removes_expired_iff .memory _ _ vacant_blank heartbeat
      htrace hcleanup
  refine ⟨before, look, gap ++ reading :: rest, e, htrace, vacant_blank, hcleanup, hlook, ?_⟩
  have ht : t = Instant.epoch.after 1 := (hreadings t).1 (by
    rw [hpast]
    simp)
  subst ht
  cases hstored : lastStored (view .memory) items "a" (gap ++ reading :: rest) with
  | some r =>
    rw [show extended.id = "a" from rfl, hstored] at hlast
    rw [hlast]
    rfl
  | none =>
    rw [show extended.id = "a" from rfl, hstored, Option.getD_none] at hlast
    rw [← hlast] at hshown
    exact absurd hshown (by decide)

open Pool Fleet in
/-- A cleanup removes a record that has a second to live, at the reading
that decided on the cleanup as at any later. -/
theorem cleanup_removes_extended :
    ∃ pre e, (blank.run heartbeat).trace = pre ++ [e] ∧
      e.CleansUp (view .memory) items extended ∧
      (view .memory).look e.after.store items extended.id = none ∧
      (∀ t, ⟨.now, t⟩ ∈ e.past → extended.isExpiredAt t = false) ∧
      extended.isExpiredAt e.before.clock = false := by
  obtain ⟨pre, e, htrace, hcleanup, hgone, hreadings, hclock⟩ := exists_cleansUp_heartbeat
  refine ⟨pre, e, htrace, hcleanup, hgone, fun t ht => ?_, ?_⟩
  · rw [(hreadings t).1 ht]
    decide
  · rw [hclock]
    decide

end LeaseStore
