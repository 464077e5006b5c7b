/-
LeaseStore.Proofs.Runs.Akin — sessions whose stores differ in dead records.

Two sessions are akin if they are alike in everything but for expired records
that only one of the stores holds, and for what is in store for their deletes
(`Session.Akin`): they see the same live records, and share one fate. One
action leads from akin sessions to akin sessions. To connect, to draw and to
write come to the same on both sides (`Session.Concurs`), and a read fails in
the same way or shows on each side what is there.
-/
import LeaseStore.Proofs.Runs.Session
import LeaseStore.Proofs.Store.Fate
import Mathlib.Data.List.Sort

namespace LeaseStore

variable {σ φ : Type} {V : View σ} {fate : σ → φ} {c : CollectionRef}

/-! ## What lives -/

namespace View

variable {s s' : σ} {t t' : Instant} {id : String}

/-- What lives later is what lives now and has not expired by then. -/
theorem live_of_le (h : t ≤ t') (s : σ) (c : CollectionRef) (id : String) :
    V.live t' s c id = (V.live t s c id).filter fun r => !r.isExpiredAt t' := by
  unfold live
  cases V.look s c id with
  | none => rfl
  | some r =>
    cases hexp : r.isExpiredAt t with
    | false => simp [Option.filter, hexp]
    | true => simp [Option.filter, hexp, Record.isExpiredAt_mono hexp h]

/-- Two scans list the same if the same records live. -/
theorem Holds.filter_eq {rs rs' : List Record} (h : V.Holds s c rs) (h' : V.Holds s' c rs')
    (hlive : ∀ id, V.live t s' c id = V.live t s c id) :
    rs'.filter (fun r => !r.isExpiredAt t) = rs.filter fun r => !r.isExpiredAt t := by
  have hmem {s : σ} {rs : List Record} (h : V.Holds s c rs) (r : Record) :
      r ∈ rs.filter (fun r => !r.isExpiredAt t) ↔ V.live t s c r.id = some r := by
    rw [List.mem_filter, h.mem_iff, live_eq_some_iff, Bool.not_eq_true']
  have hirrefl : Std.Irrefl fun a b : Record => compare a.id b.id = .lt := ⟨fun a => by simp⟩
  have hantisymm : Std.Antisymm fun a b : Record => compare a.id b.id = .lt :=
    ⟨fun a b hab hba => by
      have hswap : compare a.id b.id = (compare b.id a.id).swap := Std.OrientedCmp.eq_swap
      rw [hswap, hba] at hab
      cases hab⟩
  exact (h'.ordered.filter _).eq_of_mem_iff (h.ordered.filter _) fun r => by
    rw [hmem h', hmem h, hlive]

/-- What the store has to show under an id. -/
def shown (V : View σ) (s : σ) (c : CollectionRef) (id : String) : Except BackendError Record :=
  match V.look s c id with
  | some r => .ok r
  | none => .error .notFound

theorem Same.shown (h : V.Same s s') : V.shown s' c id = V.shown s c id := by
  rw [View.shown, View.shown, h.look]

theorem Lists.holds {rs : List Record} (h : V.Lists s s' c (.ok rs)) : V.Holds s' c rs := by
  cases h with
  | all hholds hsame =>
    exact ⟨hholds.ordered, fun r => by rw [hholds.mem_iff, hsame.look]⟩

theorem Writes.same_of_error {r : Record} {admitted : Prop} {refusal e : BackendError}
    (h : V.Writes s s' c r admitted refusal (.error e)) : V.Same s s' := by
  cases h <;> assumption

theorem Writes.stored_of_ok {r stored : Record} {admitted : Prop} {refusal : BackendError}
    (h : V.Writes s s' c r admitted refusal (.ok stored)) : V.Stored s s' c stored := by
  cases h with
  | stored _ hstored => exact hstored

/-! ## What nothing hinders -/

section Unhindered

variable {b : Backend σ} (hb : b.Steady V) (hs : V.Sound s) (hc : V.Provided s c)
include hb hs hc

theorem Unhindered.read (h : V.Unhindered (b.read c id) s) :
    (b.read c id s).1 = V.shown s c id := by
  obtain ⟨s₀, hsame, hcalm, heq⟩ := h
  have hreads := hb.read c id s₀ (hsame.sound hs)
  rw [heq, shown, ← hsame.look]
  generalize (b.read c id s₀).1 = reply at hreads ⊢
  cases hreads with
  | found hlook => rw [hlook]
  | absent hlook => rw [hlook]
  | failed hnot => exact absurd ⟨hcalm, hsame.provided c hc⟩ hnot

theorem Unhindered.list (h : V.Unhindered (b.list c) s) : ∃ rs, (b.list c s).1 = .ok rs := by
  obtain ⟨s₀, hsame, hcalm, heq⟩ := h
  have hlists := hb.list c s₀ (hsame.sound hs)
  rw [heq]
  generalize (b.list c s₀).1 = reply at hlists ⊢
  cases hlists with
  | all => exact ⟨_, rfl⟩
  | failed hnot => exact absurd ⟨hcalm, hsame.provided c hc⟩ hnot

theorem Unhindered.upsert {r : Record} {token : String}
    (h : V.Unhindered (b.upsert c r (.ofToken token)) s)
    (hmeets : (WriteCondition.ofToken token).Meets (V.look s c r.id)) :
    ∃ stored, (b.upsert c r (.ofToken token) s).1 = .ok stored := by
  obtain ⟨s₀, hsame, hcalm, heq⟩ := h
  have hwrites := hb.upsert c r (.ofToken token) s₀ ⟨token, rfl⟩ (hsame.sound hs)
  rw [heq]
  rw [← hsame.look] at hmeets
  generalize (b.upsert c r (.ofToken token) s₀).1 = reply at hwrites ⊢
  cases hwrites with
  | stored => exact ⟨_, rfl⟩
  | refused hnot => exact absurd hmeets hnot
  | failed hnot => exact absurd ⟨hcalm, hsame.provided c hc⟩ hnot

end Unhindered

end View

/-! ## Engines that keep to a fate -/

/-- The backends that the engine opens keep to the fate. -/
def Engine.Fated (e : Engine σ) (V : View σ) (fate : σ → φ) : Prop :=
  e.connector.Fated V fate ∧ ∀ l, e.link = some l → l.backend.Fated V fate

namespace Session

theorem fated_connect {s : Session σ} (h : s.engine.Fated V fate) :
    s.connect.2.engine.Fated V fate := by
  unfold connect
  split
  case h_1 => exact h
  case h_2 config _ =>
    split
    case h_1 => exact h
    case h_2 =>
      split
      case h_1 => exact h
      case h_2 b w hopen =>
        split
        case h_1 => exact h
        case h_2 =>
          refine ⟨h.1, ?_⟩
          rintro l ⟨⟩
          exact h.1.opens config s.world.store b (congrArg Prod.fst hopen)

/-- Cases on the action: only connecting makes a link. -/
theorem fated_perform {s : Session σ} (h : s.engine.Fated V fate) (a : Action) :
    (s.perform a).2.engine.Fated V fate := by
  cases a with
  | connect => exact fated_connect h
  | now | pause | draw | count => exact h
  | read | list | create | upsert | health =>
    rw [perform, keeps_request]
    exact h
  | delete | deleteWave =>
    simp only [perform]
    split <;> exact h

end Session

/-- Induction on the call. -/
theorem Call.fated_run {α : Type} (x : Call α) {s : Session σ} (h : s.engine.Fated V fate) :
    (x.run s).2.engine.Fated V fate := by
  induction x generalizing s with
  | done a => exact h
  | act a next ih => exact ih _ (Session.fated_perform h a)

/-! ## Akin sessions -/

namespace Session

/-- The two sessions differ at most in records that have expired, and in what
is in store for their deletes. -/
structure Akin (V : View σ) (fate : σ → φ) (c : CollectionRef) (s t : Session σ) : Prop where
  clock : t.world.clock = s.world.clock
  draws : t.world.draws = s.world.draws
  connector : t.engine.connector = s.engine.connector
  config : t.engine.config = s.engine.config
  link : t.engine.link = s.engine.link
  fit : s.Fit V c ∧ t.Fit V c
  fated : s.engine.Fated V fate
  fate : fate t.world.store = fate s.world.store
  live : ∀ c' id,
    V.live s.world.clock t.world.store c' id = V.live s.world.clock s.world.store c' id

/-- A session has gone on, and has tidied up at most. -/
structure Tidies (V : View σ) (fate : σ → φ) (c : CollectionRef) (s s' : Session σ) : Prop
    extends Proceeds V c s s' where
  keeps : s.engine.Keeps s'.engine
  fate : fate s'.world.store = fate s.world.store
  clears : V.Clears s.world.clock s.world.store s'.world.store

/-- Two runs have come to the same, and have left akin sessions. -/
structure Concurs {α : Type} (V : View σ) (fate : σ → φ) (c : CollectionRef)
    (x y : α × Session σ) : Prop where
  reply : y.1 = x.1
  akin : Akin V fate c x.2 y.2

variable {s s' t t' : Session σ} {id : String}

/-! ### Tidying up -/

theorem Tidies.trans {s'' : Session σ} (h : Tidies V fate c s s') (h' : Tidies V fate c s' s'') :
    Tidies V fate c s s'' :=
  ⟨h.toProceeds.trans h'.toProceeds, h.keeps.trans h'.keeps, h'.fate.trans h.fate,
    h.clears.trans (h.clock ▸ h'.clears)⟩

theorem Fit.tidies_count (h : s.Fit V c) (n : Counter) : Tidies V fate c s (s.count n) :=
  ⟨h.count n, s.keeps_perform (.count n), rfl, (View.Same.refl _).clears _⟩

theorem Akin.fated_right (h : Akin V fate c s t) : t.engine.Fated V fate :=
  ⟨h.connector ▸ h.fated.1, fun l hl => h.fated.2 l (h.link.symm.trans hl)⟩

/-- To tidy up on both sides keeps sessions akin. -/
theorem Akin.tidies (h : Akin V fate c s t) {l : Link σ} (hl : s.engine.link = some l)
    (hs : Tidies V fate c s s') (ht : Tidies V fate c t t') : Akin V fate c s' t' where
  clock := by rw [ht.clock, hs.clock, h.clock]
  draws := by rw [ht.draws, hs.draws, h.draws]
  connector := by rw [ht.keeps.connector, hs.keeps.connector, h.connector]
  config := by rw [ht.keeps.config, hs.keeps.config, h.config]
  link := by rw [hs.keeps.link l hl, ht.keeps.link l (h.link.trans hl)]
  fit := ⟨hs.fit, ht.fit⟩
  fated := by
    refine ⟨hs.keeps.connector ▸ h.fated.1, fun l' hl' => ?_⟩
    rw [hs.keeps.link l hl] at hl'
    exact h.fated.2 l' (hl.trans hl')
  fate := by rw [ht.fate, hs.fate, h.fate]
  live c' id := by
    have hcleared := ht.clears.live c' id
    rw [h.clock] at hcleared
    rw [hs.clock, hcleared, hs.clears.live, h.live]

/-! ### Actions that the store has no part in -/

theorem Akin.count (h : Akin V fate c s t) (n : Counter) :
    Akin V fate c (s.count n) (t.count n) :=
  ⟨h.clock, h.draws, h.connector, h.config, h.link,
    ⟨(h.fit.1.count n).fit, (h.fit.2.count n).fit⟩, h.fated, h.fate, h.live⟩

theorem Akin.pause (h : Akin V fate c s t) (d : Duration) :
    Akin V fate c (s.perform (.pause d)).2 (t.perform (.pause d)).2 where
  clock := congrArg (·.shift d.millisUp) h.clock
  draws := h.draws
  connector := h.connector
  config := h.config
  link := h.link
  fit := ⟨(h.fit.1.pause d).1.fit, (h.fit.2.pause d).1.fit⟩
  fated := h.fated
  fate := h.fate
  live c' id := by
    have hle : s.world.clock ≤ s.world.clock.shift d.millisUp := Instant.le_shift _ _
    have hlive := congrArg (Option.filter fun r => !r.isExpiredAt (s.world.clock.shift d.millisUp))
      (h.live c' id)
    rwa [← View.live_of_le hle, ← View.live_of_le hle] at hlive

theorem Akin.draw (h : Akin V fate c s t) (bound : Nat) :
    Concurs V fate c (s.perform (.draw bound)) (t.perform (.draw bound)) := by
  obtain ⟨hfit, hfit'⟩ := And.intro (h.fit.1.draw bound).1.fit (h.fit.2.draw bound).1.fit
  rw [perform_draw] at hfit hfit' ⊢
  rw [perform_draw]
  exact ⟨World.draw_fst_congr h.draws bound, h.clock, congrArg List.tail h.draws, h.connector,
    h.config, h.link, ⟨hfit, hfit'⟩, h.fated, h.fate, h.live⟩

/-! ### What the stores reply -/

theorem Akin.withStore (h : Akin V fate c s t) {st st' : σ} (hs : V.Passes s.world.store st)
    (ht : V.Passes t.world.store st') (hfate : fate st' = fate st)
    (hlive : ∀ c' id, V.live s.world.clock st' c' id = V.live s.world.clock st c' id) :
    Akin V fate c (s.withStore st) (t.withStore st') :=
  ⟨h.clock, h.draws, h.connector, h.config, h.link,
    ⟨(h.fit.1.withStore hs).fit, (h.fit.2.withStore ht).fit⟩, h.fated, hfate, hlive⟩

theorem Akin.same (h : Akin V fate c s t) {st st' : σ} (hs : V.Same s.world.store st)
    (ht : V.Same t.world.store st') (hfate : fate st' = fate st) :
    Akin V fate c (s.withStore st) (t.withStore st') :=
  h.withStore hs.toPasses ht.toPasses hfate fun c' id => by
    rw [(ht.clears _).live, (hs.clears _).live, h.live]

/-- To open the backend and to ensure the collection comes to the same, for
either follows from the fate. -/
theorem Akin.connect_eq (h : Akin V fate c s t) :
    t.connect.1 = s.connect.1 ∧ t.connect.2.engine.link = s.connect.2.engine.link ∧
      fate t.connect.2.world.store = fate s.connect.2.world.store := by
  cases hbound : s.engine.config with
  | unset =>
    have hs : s.connect = (.error .uninitialized, s) := by simp only [Session.connect, hbound]
    have ht : t.connect = (.error .uninitialized, t) := by
      simp only [Session.connect, h.config.trans hbound]
    rw [hs, ht]
    exact ⟨rfl, h.link, h.fate⟩
  | ready config =>
    cases hl : s.engine.link with
    | some l =>
      have hs : s.connect = (.ok config, s) := by simp only [Session.connect, hbound, hl]
      have ht : t.connect = (.ok config, t) := by
        simp only [Session.connect, h.config.trans hbound, h.link.trans hl]
      rw [hs, ht]
      exact ⟨rfl, h.link, h.fate⟩
    | none =>
      have hreply := h.fit.1.connector.reply config t.world.store s.world.store
      have hspares : fate (s.engine.connector config t.world.store).2 =
          fate (s.engine.connector config s.world.store).2 := by
        rw [h.fated.1.spares config, h.fated.1.spares config, h.fate]
      rw [connect_of_unlinked hbound hl,
        connect_of_unlinked (h.config.trans hbound) (h.link.trans hl), h.connector]
      dsimp only
      rw [hreply]
      cases hb : (s.engine.connector config s.world.store).1 with
      | error err => exact ⟨rfl, h.link, hspares⟩
      | ok b =>
        obtain ⟨hensured, hafter⟩ :=
          (h.fated.1.opens config s.world.store b hb).ensure config.collectionRef _ _ hspares
        dsimp only
        rw [hensured]
        cases (b.ensure config.collectionRef (s.engine.connector config s.world.store).2).1 with
        | error e => exact ⟨rfl, h.link, hafter⟩
        | ok => exact ⟨rfl, rfl, hafter⟩

theorem Akin.connect (h : Akin V fate c s t) : Concurs V fate c s.connect t.connect := by
  obtain ⟨hreply, hlink, hfate⟩ := h.connect_eq
  obtain ⟨hconnects, hproceeds⟩ := h.fit.1.connect
  obtain ⟨hconnects', hproceeds'⟩ := h.fit.2.connect
  have hkeeps := s.keeps_connect
  have hkeeps' := t.keeps_connect
  refine ⟨hreply, ?_, ?_, ?_, ?_, hlink, ⟨hproceeds.fit, hproceeds'.fit⟩, fated_connect h.fated,
    hfate, fun c' id => ?_⟩
  · rw [hproceeds'.clock, hproceeds.clock, h.clock]
  · rw [hproceeds'.draws, hproceeds.draws, h.draws]
  · rw [hkeeps'.connector, hkeeps.connector, h.connector]
  · rw [hkeeps'.config, hkeeps.config, h.config]
  · rw [(hconnects'.same.clears _).live, (hconnects.same.clears _).live, hproceeds.clock, h.live]

section Linked

variable {l : Link σ}

/-- A read fails on both sides alike, or shows on each what is there. -/
theorem Akin.read (h : Akin V fate c s t) (hl : s.engine.link = some l) (id : String) :
    ∃ reply st reply' st', s.perform (.read id) = (reply, s.withStore st) ∧
      t.perform (.read id) = (reply', t.withStore st') ∧
      Akin V fate c (s.withStore st) (t.withStore st') ∧
      ((∃ e, reply = .error e ∧ reply' = .error e) ∨
        reply = V.shown st c id ∧ reply' = V.shown st' c id) := by
  obtain ⟨hlaw, rfl, hthere⟩ := h.fit.1.link l hl
  obtain ⟨-, -, hthere'⟩ := h.fit.2.link l (h.link.trans hl)
  have hsame := (hlaw.read l.collection id _ h.fit.1.sound).same
  have hsame' := (hlaw.read l.collection id _ h.fit.2.sound).same
  refine ⟨_, _, _, _, request_eq hl _, request_eq (h.link.trans hl) _, ?_⟩
  obtain ⟨e, he, he', hafter⟩ | ⟨hs, ht, heven⟩ :=
    (h.fated.2 l hl).read l.collection id _ _ h.fate.symm
  · exact ⟨h.same hsame hsame' hafter.symm, .inl ⟨e, he, he'⟩⟩
  · refine ⟨h.same hsame hsame' (heven False.elim).1.symm, .inr ⟨?_, ?_⟩⟩
    · rw [hsame.shown, hs.read hlaw h.fit.1.sound hthere]
    · rw [hsame'.shown, ht.read hlaw h.fit.2.sound hthere']

theorem Akin.list (h : Akin V fate c s t) (hl : s.engine.link = some l) :
    ∃ reply st reply' st', s.perform .list = (reply, s.withStore st) ∧
      t.perform .list = (reply', t.withStore st') ∧
      Akin V fate c (s.withStore st) (t.withStore st') ∧
      ((∃ e, reply = .error e ∧ reply' = .error e) ∨
        ∃ rs rs', reply = .ok rs ∧ reply' = .ok rs' ∧ V.Holds st c rs ∧ V.Holds st' c rs') := by
  obtain ⟨hlaw, rfl, hthere⟩ := h.fit.1.link l hl
  obtain ⟨-, -, hthere'⟩ := h.fit.2.link l (h.link.trans hl)
  have hlists := hlaw.list l.collection _ h.fit.1.sound
  have hlists' := hlaw.list l.collection _ h.fit.2.sound
  refine ⟨_, _, _, _, request_eq hl _, request_eq (h.link.trans hl) _, ?_⟩
  obtain ⟨e, he, he', hafter⟩ | ⟨hs, ht, heven⟩ :=
    (h.fated.2 l hl).list l.collection _ _ h.fate.symm
  · exact ⟨h.same hlists.same hlists'.same hafter.symm, .inl ⟨e, he, he'⟩⟩
  · obtain ⟨rs, hrs⟩ := hs.list hlaw h.fit.1.sound hthere
    obtain ⟨rs', hrs'⟩ := ht.list hlaw h.fit.2.sound hthere'
    exact ⟨h.same hlists.same hlists'.same (heven False.elim).1.symm,
      .inr ⟨rs, rs', hrs, hrs', View.Lists.holds (hrs ▸ hlists),
        View.Lists.holds (hrs' ▸ hlists')⟩⟩

/-- A write of the same record over the same version is given the same token,
or fails on both sides alike. -/
theorem Akin.upsert (h : Akin V fate c s t) (hl : s.engine.link = some l) {r v : Record}
    (hs : V.look s.world.store c r.id = some v) (ht : V.look t.world.store c r.id = some v)
    (htoken : v.token = r.token) :
    ∃ reply st st', s.perform (.upsert r (.ofToken r.token)) = (reply, s.withStore st) ∧
      t.perform (.upsert r (.ofToken r.token)) = (reply, t.withStore st') ∧
      Akin V fate c (s.withStore st) (t.withStore st') := by
  obtain ⟨hlaw, rfl, hthere⟩ := h.fit.1.link l hl
  obtain ⟨-, -, hthere'⟩ := h.fit.2.link l (h.link.trans hl)
  have hmeets : (WriteCondition.ofToken r.token).Meets (some v) :=
    htoken ▸ WriteCondition.meets_ofToken v
  have hwrites := hlaw.upsert l.collection r _ _ ⟨r.token, rfl⟩ h.fit.1.sound
  have hwrites' := hlaw.upsert l.collection r _ _ ⟨r.token, rfl⟩ h.fit.2.sound
  have heq := request_eq hl fun l => l.backend.upsert l.collection r (.ofToken r.token)
  have heq' := request_eq (h.link.trans hl) fun l =>
    l.backend.upsert l.collection r (.ofToken r.token)
  -- a failure that is planned hits both sides; else both find the version and write it
  obtain ⟨e, he, he', hafter⟩ | ⟨hfree, hfree', heven⟩ :=
    (h.fated.2 l hl).upsert l.collection r (.ofToken r.token) _ _ h.fate.symm
  · rw [he] at hwrites
    rw [he'] at hwrites'
    exact ⟨.error e, _, _, heq.trans (by rw [he]; rfl), heq'.trans (by rw [he']; rfl),
      h.same hwrites.same_of_error hwrites'.same_of_error hafter.symm⟩
  · obtain ⟨stored, hok⟩ := hfree.upsert hlaw h.fit.1.sound hthere (hs ▸ hmeets)
    have hboth := hfree'.upsert hlaw h.fit.2.sound hthere' (ht ▸ hmeets)
    obtain ⟨hafter, hreply⟩ := heven fun _ => ⟨⟨stored, hok⟩, hboth⟩
    have hok' := (hreply trivial).symm.trans hok
    rw [hok] at hwrites
    rw [hok'] at hwrites'
    have hstored := hwrites.stored_of_ok
    have hstored' := hwrites'.stored_of_ok
    refine ⟨.ok stored, _, _, heq.trans (by rw [hok]; rfl), heq'.trans (by rw [hok']; rfl),
      h.withStore hstored.toPasses hstored'.toPasses hafter.symm fun c' id => ?_⟩
    have hlive := h.live c' id
    unfold View.live at hlive ⊢
    rw [hstored.look, hstored'.look]
    split
    case isTrue => rfl
    case isFalse => exact hlive

end Linked

namespace Concurs

variable {α β : Type} {x : Call α}

/-- What comes after runs that concur may be looked at from where they ended. -/
theorem bind {f : α → Call β} (h : Concurs V fate c (x.run s) (x.run t))
    (hf : Concurs V fate c ((f (x.run s).1).run (x.run s).2) ((f (x.run s).1).run (x.run t).2)) :
    Concurs V fate c ((x >>= f).run s) ((x >>= f).run t) := by
  rw [Call.run_bind, Call.run_bind, h.reply]
  exact hf

theorem map (h : Concurs V fate c (x.run s) (x.run t)) (f : α → β) :
    Concurs V fate c ((x >>= fun a => .done (f a)).run s)
      ((x >>= fun a => .done (f a)).run t) :=
  h.bind ⟨rfl, h.akin⟩

end Concurs

end Session

end LeaseStore
