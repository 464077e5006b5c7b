/-
LeaseStore.Proofs.Runs.Session — one action of a call that runs by itself.

A session is fit (`Session.Fit`) if its store is sound and its engine steady:
bound to at most one collection, and linked to no other. Each action of a fit
session leads to a fit session, and what the actions on the store come to is
said once here, for the operations to be put together from.

Where something goes wrong that a call depends on, the session was not
`Ready`: a failure was planned, or its engine could not connect.
-/
import LeaseStore.Proofs.Calls.Binding
import LeaseStore.Proofs.Store.Expiry
import LeaseStore.Proofs.Store.Outages

namespace LeaseStore

variable {σ : Type} {V : View σ} {c : CollectionRef}

/-! ## Deletes one after the other -/

/-- The outcomes of deletes one after the other, any of which may fail. -/
inductive View.DropsAll (V : View σ) (c : CollectionRef) :
    σ → List String → σ → List (Except BackendError Unit) → Prop
  | nil (s : σ) : DropsAll V c s [] s []
  | cons {s t u : σ} {id : String} {ids : List String} {r : Except BackendError Unit}
      {rs : List (Except BackendError Unit)} : V.Drops s t c id r →
      V.DropsAll c t ids u rs → DropsAll V c s (id :: ids) u (r :: rs)

namespace View

theorem Drops.passes {s s' : σ} {id : String} {r : Except BackendError Unit}
    (h : V.Drops s s' c id r) : V.Passes s s' := by
  cases h with
  | removed _ hrem => exact hrem.toPasses
  | kept hsame => exact hsame.toPasses

theorem Drops.thins {s s' : σ} {id : String} {r : Except BackendError Unit}
    (h : V.Drops s s' c id r) : V.Thins s s' := by
  cases h with
  | removed _ hrem => exact hrem.thins
  | kept hsame => exact hsame.thins

theorem DropsAll.passes {s s' : σ} {ids : List String} {rs : List (Except BackendError Unit)}
    (h : V.DropsAll c s ids s' rs) : V.Passes s s' := by
  induction h with
  | nil s => exact (Same.refl s).toPasses
  | cons hdrop _ ih => exact hdrop.passes.trans ih

theorem DropsAll.thins {s s' : σ} {ids : List String} {rs : List (Except BackendError Unit)}
    (h : V.DropsAll c s ids s' rs) : V.Thins s s' := by
  induction h with
  | nil s => exact (Same.refl s).thins
  | cons hdrop _ ih => exact hdrop.thins.trans ih

end View

/-- Induction on the ids. -/
theorem Backend.Steady.dropsAll {b : Backend σ} (h : b.Steady V) (c : CollectionRef)
    (ids : List String) {s : σ} (hs : V.Sound s) :
    V.DropsAll c s ids (b.deleteEach c ids s).2 (b.deleteEach c ids s).1 := by
  induction ids generalizing s with
  | nil => exact .nil s
  | cons id ids ih =>
    have hdrop := h.delete c id s hs
    exact .cons hdrop (ih (hdrop.passes.sound hs))

/-- Whoever carries the token of the stored version meets its condition. -/
theorem WriteCondition.meets_ofToken (r : Record) : (ofToken r.token).Meets (some r) := by
  rw [ofToken]
  split
  case isTrue => exact trivial
  case isFalse => exact ⟨r, rfl, rfl⟩

/-- The action may store a record. -/
def Action.Stores : Action → Prop
  | .create _ | .upsert _ _ => True
  | _ => False

namespace Session

/-- The session with another store. -/
def withStore (s : Session σ) (st : σ) : Session σ :=
  { s with world := { s.world with store := st } }

/-- The store is sound, and the engine is steady and keeps to the collection
`c`. -/
structure Fit (V : View σ) (c : CollectionRef) (s : Session σ) : Prop where
  sound : V.Sound s.world.store
  connector : s.engine.connector.Steady V
  bound : ∀ config, s.engine.config = .ready config → config.collectionRef = c
  link : ∀ l, s.engine.link = some l →
    l.backend.Steady V ∧ l.collection = c ∧ V.Provided s.world.store c

/-- No failure is planned, and the engine is bound to a configuration that it
can connect with. -/
def Ready (V : View σ) (s : Session σ) : Prop :=
  V.Calm s.world.store ∧ ∃ config, s.engine.config = .ready config ∧
    ∃ b, (s.engine.connector config s.world.store).1 = .ok b

/-- A session has gone on without time passing or chance being asked. -/
structure Proceeds (V : View σ) (c : CollectionRef) (s s' : Session σ) : Prop where
  clock : s'.world.clock = s.world.clock
  draws : s'.world.draws = s.world.draws
  fit : s'.Fit V c
  passes : V.Passes s.world.store s'.world.store

variable {s s' s'' : Session σ}

theorem Fit.proceeds (h : s.Fit V c) : s.Proceeds V c s :=
  ⟨rfl, rfl, h, (View.Same.refl _).toPasses⟩

theorem Proceeds.trans (h : s.Proceeds V c s') (h' : s'.Proceeds V c s'') :
    s.Proceeds V c s'' :=
  ⟨h'.clock.trans h.clock, h'.draws.trans h.draws, h'.fit, h.passes.trans h'.passes⟩

/-- An engine is fit for another world that is sound and provides for what the
first one provides for. -/
theorem Fit.moved (h : s.Fit V c) {w : World σ} (hsound : V.Sound w.store)
    (hprovided : ∀ c, V.Provided s.world.store c → V.Provided w.store c) :
    Fit V c ⟨s.engine, w⟩ where
  sound := hsound
  connector := h.connector
  bound := h.bound
  link l hl := by
    obtain ⟨hsteady, hcollection, hthere⟩ := h.link l hl
    exact ⟨hsteady, hcollection, hprovided c hthere⟩

theorem Fit.withStore (h : s.Fit V c) {st : σ} (hpasses : V.Passes s.world.store st) :
    s.Proceeds V c (s.withStore st) :=
  ⟨rfl, rfl, h.moved (hpasses.sound h.sound) hpasses.provided, hpasses⟩

theorem Fit.count (h : s.Fit V c) (n : Counter) : s.Proceeds V c (s.count n) :=
  ⟨rfl, rfl, ⟨h.sound, h.connector, h.bound, h.link⟩, (View.Same.refl _).toPasses⟩

/-- A session has gone on, and time has not run backwards. -/
structure Lasts (V : View σ) (c : CollectionRef) (s s' : Session σ) : Prop where
  clock : s.world.clock ≤ s'.world.clock
  fit : s'.Fit V c
  passes : V.Passes s.world.store s'.world.store

theorem Proceeds.lasts (h : s.Proceeds V c s') : s.Lasts V c s' :=
  ⟨h.clock ▸ Instant.le_refl _, h.fit, h.passes⟩

theorem Lasts.trans (h : s.Lasts V c s') (h' : s'.Lasts V c s'') : s.Lasts V c s'' :=
  ⟨Instant.le_trans h.clock h'.clock, h'.fit, h.passes.trans h'.passes⟩

theorem Fit.pause (h : s.Fit V c) (d : Duration) :
    s.Lasts V c (s.perform (.pause d)).2 ∧
      (s.perform (.pause d)).2.world.store = s.world.store :=
  ⟨⟨Instant.le_shift _ _, ⟨h.sound, h.connector, h.bound, h.link⟩,
    (View.Same.refl _).toPasses⟩, rfl⟩

theorem Fit.draw (h : s.Fit V c) (bound : Nat) :
    s.Lasts V c (s.perform (.draw bound)).2 ∧
      (s.perform (.draw bound)).2.world.store = s.world.store := by
  rw [perform_draw]
  exact ⟨⟨Instant.le_refl _, ⟨h.sound, h.connector, h.bound, h.link⟩,
    (View.Same.refl _).toPasses⟩, rfl⟩

/-! ## Connecting -/

theorem connect_of_linked {config : Config} (hready : s.engine.config = .ready config) {l : Link σ}
    (hl : s.engine.link = some l) : s.connect = (.ok config, s) := by
  simp only [connect, hready, hl]

/-- An engine that is not linked opens the backend and ensures the collection. -/
theorem connect_of_unlinked {config : Config} (hready : s.engine.config = .ready config)
    (hl : s.engine.link = none) :
    s.connect =
      let opened := s.engine.connector config s.world.store
      match opened.1 with
      | .error err => (.error err, s.withStore opened.2)
      | .ok b =>
        let ensured := b.ensure config.collectionRef opened.2
        match ensured.1 with
        | .error e =>
          (.error (provisioningError config.collectionRef e), s.withStore ensured.2)
        | .ok () =>
          (.ok config,
            { engine := { s.engine with link := some ⟨b, config.collectionRef⟩ },
              world := (s.withStore ensured.2).world }) := by
  have hanswer {α : Type} (w : World σ) (f : σ → α × σ) :
      w.answer f = ((f w.store).1, { w with store := (f w.store).2 }) := rfl
  simp only [connect, hready, hl, hanswer]
  cases (s.engine.connector config s.world.store).1 with
  | error => rfl
  | ok b =>
    dsimp only
    cases (b.ensure config.collectionRef (s.engine.connector config s.world.store).2).1 <;> rfl

/-- The outcomes of connecting. -/
inductive Connects (V : View σ) (s s' : Session σ) : Except StoreError Config → Prop
  | linked {config : Config} {l : Link σ} : s.engine.config = .ready config →
      s'.engine.link = some l → V.Same s.world.store s'.world.store →
      Connects V s s' (.ok config)
  | refused {err : StoreError} : ¬ s.Ready V → V.Same s.world.store s'.world.store →
      Connects V s s' (.error err)

/-- To connect is to open the backend and to ensure the collection, once. -/
theorem Fit.connect (h : s.Fit V c) :
    Connects V s s.connect.2 s.connect.1 ∧ s.Proceeds V c s.connect.2 := by
  have hstay : V.Same s.world.store s.world.store := .refl _
  unfold Session.connect
  split
  case h_1 hunset =>
    refine ⟨.refused ?_ hstay, h.proceeds⟩
    rintro ⟨-, config, hready, -⟩
    rw [hunset] at hready
    cases hready
  case h_2 config hready =>
    split
    case h_1 l hl => exact ⟨.linked hready hl hstay, h.proceeds⟩
    -- opening leaves what the store shows, and ensuring does, whether it succeeds or not
    case h_2 hunlinked =>
      have hsame := h.connector.same config s.world.store
      obtain rfl := h.bound config hready
      split
      case h_1 err w hopen =>
        obtain ⟨herr, rfl⟩ := Prod.mk.inj hopen
        refine ⟨.refused ?_ hsame, h.withStore hsame.toPasses⟩
        rintro ⟨-, config', hready', b, hb⟩
        rw [hready] at hready'
        cases hready'
        rw [herr] at hb
        cases hb
      case h_2 b w hopen =>
        obtain ⟨hb, rfl⟩ := Prod.mk.inj hopen
        have hlaw := h.connector.opens config s.world.store b hb
        have hensure := hlaw.ensure config.collectionRef _ (hsame.sound h.sound)
        split
        case h_1 err w hrefused =>
          obtain ⟨herr, rfl⟩ := Prod.mk.inj hrefused
          rw [herr] at hensure
          cases hensure with
          | failed hcalm hsame' =>
            have hboth := hsame.trans hsame'
            exact ⟨.refused (fun hr => hcalm (hsame.calm hr.1)) hboth,
              h.withStore hboth.toPasses⟩
        case h_2 w hprovided =>
          obtain ⟨hok, rfl⟩ := Prod.mk.inj hprovided
          rw [hok] at hensure
          cases hensure with
          | provided hsame' hthere =>
            have hboth := hsame.trans hsame'
            refine ⟨.linked hready rfl hboth, rfl, rfl, ?_, hboth.toPasses⟩
            refine ⟨hboth.sound h.sound, h.connector, h.bound, ?_⟩
            rintro l ⟨⟩
            exact ⟨hlaw, rfl, hthere⟩

/-! ## Asking the store -/

section Linked

variable {l : Link σ}

/-- What a fit session asks of the store it is linked to comes to what the law
of the operation says. -/
theorem Fit.perform_read (h : s.Fit V c) (hl : s.engine.link = some l) (id : String) :
    ∃ reply st, s.perform (.read id) = (reply, s.withStore st) ∧
      V.Reads s.world.store st c id reply := by
  obtain ⟨hlaw, rfl, -⟩ := h.link l hl
  exact ⟨_, _, request_eq hl _, hlaw.read l.collection id _ h.sound⟩

theorem Fit.perform_list (h : s.Fit V c) (hl : s.engine.link = some l) :
    ∃ reply st, s.perform .list = (reply, s.withStore st) ∧
      V.Lists s.world.store st c reply := by
  obtain ⟨hlaw, rfl, -⟩ := h.link l hl
  exact ⟨_, _, request_eq hl _, hlaw.list l.collection _ h.sound⟩

theorem Fit.perform_create (h : s.Fit V c) (hl : s.engine.link = some l) (r : Record) :
    ∃ reply st, s.perform (.create r) = (reply, s.withStore st) ∧
      V.Writes s.world.store st c r (V.look s.world.store c r.id = none) .alreadyExists reply := by
  obtain ⟨hlaw, rfl, -⟩ := h.link l hl
  exact ⟨_, _, request_eq hl _, hlaw.create l.collection r _ h.sound⟩

theorem Fit.perform_upsert (h : s.Fit V c) (hl : s.engine.link = some l) (r : Record)
    (token : String) :
    ∃ reply st, s.perform (.upsert r (.ofToken token)) = (reply, s.withStore st) ∧
      V.Writes s.world.store st c r
        ((WriteCondition.ofToken token).Meets (V.look s.world.store c r.id)) .preconditionFailed
        reply := by
  obtain ⟨hlaw, rfl, -⟩ := h.link l hl
  exact ⟨_, _, request_eq hl _, hlaw.upsert l.collection r _ _ ⟨token, rfl⟩ h.sound⟩

theorem Fit.perform_health (h : s.Fit V c) (hl : s.engine.link = some l) :
    ∃ reply st, s.perform .health = (reply, s.withStore st) ∧
      V.Answers s.world.store st reply := by
  obtain ⟨hlaw, rfl, -⟩ := h.link l hl
  exact ⟨_, _, request_eq hl _, hlaw.health _ h.sound⟩

/-- A delete takes no time. -/
theorem Fit.perform_delete (h : s.Fit V c) (hl : s.engine.link = some l) (id : String) :
    ∃ reply st, s.perform (.delete id) = (reply, s.withStore st) ∧
      V.Drops s.world.store st c id reply := by
  obtain ⟨hlaw, rfl, -⟩ := h.link l hl
  refine ⟨_, _, ?_, hlaw.delete l.collection id _ h.sound⟩
  simp only [perform, hl, Backend.delete_eq_of_delay (hlaw.delay l.collection id _)]
  rfl

/-- A wave of deletes takes no time either. -/
theorem Fit.perform_deleteWave (h : s.Fit V c) (hl : s.engine.link = some l) (ids : List String) :
    ∃ replies st, s.perform (.deleteWave ids) = (replies, s.withStore st) ∧
      V.DropsAll c s.world.store ids st replies := by
  obtain ⟨hlaw, rfl, -⟩ := h.link l hl
  refine ⟨_, _, ?_, hlaw.dropsAll l.collection ids h.sound⟩
  simp only [perform, hl, Backend.deleteWave_of_delay (hlaw.delay l.collection)]
  rfl

end Linked

/-! ## Any action -/

theorem Connects.same {reply : Except StoreError Config} (h : Connects V s s' reply) :
    V.Same s.world.store s'.world.store := by
  cases h <;> assumption

/-- What is asked of the store takes no time, and keeps or removes records
unless it is a write. -/
theorem Fit.perform_linked (h : s.Fit V c) {l : Link σ} (hl : s.engine.link = some l)
    {a : Action} (ha : a.NeedsLink)
    (hw : ∀ r w, a = .upsert r w → ∃ token, w = .ofToken token) :
    ∃ reply st, s.perform a = (reply, s.withStore st) ∧ V.Passes s.world.store st ∧
      (¬ a.Stores → V.Thins s.world.store st) := by
  cases a with
  | connect | now | count | pause | draw => exact ha.elim
  | read id =>
    obtain ⟨reply, st, heq, hreads⟩ := h.perform_read hl id
    exact ⟨reply, st, heq, hreads.same.toPasses, fun _ => hreads.same.thins⟩
  | list =>
    obtain ⟨reply, st, heq, hlists⟩ := h.perform_list hl
    exact ⟨reply, st, heq, hlists.same.toPasses, fun _ => hlists.same.thins⟩
  | create r =>
    obtain ⟨reply, st, heq, hwrites⟩ := h.perform_create hl r
    exact ⟨reply, st, heq, hwrites.move.passes, fun hstores => absurd trivial hstores⟩
  | upsert r w =>
    obtain ⟨token, rfl⟩ := hw r w rfl
    obtain ⟨reply, st, heq, hwrites⟩ := h.perform_upsert hl r token
    exact ⟨reply, st, heq, hwrites.move.passes, fun hstores => absurd trivial hstores⟩
  | delete id =>
    obtain ⟨reply, st, heq, hdrops⟩ := h.perform_delete hl id
    exact ⟨reply, st, heq, hdrops.passes, fun _ => hdrops.thins⟩
  | deleteWave ids =>
    obtain ⟨replies, st, heq, hall⟩ := h.perform_deleteWave hl ids
    exact ⟨replies, st, heq, hall.passes, fun _ => hall.thins⟩
  | health =>
    obtain ⟨reply, st, heq, hanswers⟩ := h.perform_health hl
    exact ⟨reply, st, heq, hanswers.same.toPasses, fun _ => hanswers.same.thins⟩

/-- **What any action comes to.** A fit session leads to a fit session, and
only a write stores anything; its condition is one that a token asks for. -/
theorem Fit.perform (h : s.Fit V c) {a : Action}
    (hw : ∀ r w, a = .upsert r w → ∃ token, w = .ofToken token) :
    s.Lasts V c (s.perform a).2 ∧
      (¬ a.Stores → V.Thins s.world.store (s.perform a).2.world.store) := by
  have hthins : V.Thins s.world.store s.world.store := (View.Same.refl _).thins
  by_cases hneeds : a.NeedsLink
  · cases hl : s.engine.link with
    | none =>
      rw [perform_unlinked hl hneeds]
      exact ⟨h.proceeds.lasts, fun _ => hthins⟩
    | some l =>
      obtain ⟨reply, st, heq, hpasses, hthins'⟩ := h.perform_linked hl hneeds hw
      rw [heq]
      exact ⟨(h.withStore hpasses).lasts, hthins'⟩
  · cases a with
    | connect =>
      obtain ⟨hconnects, hproceeds⟩ := h.connect
      exact ⟨hproceeds.lasts, fun _ => hconnects.same.thins⟩
    | now => exact ⟨h.proceeds.lasts, fun _ => hthins⟩
    | count n => exact ⟨(h.count n).lasts, fun _ => hthins⟩
    | pause d => exact ⟨(h.pause d).1, fun _ => hthins⟩
    | draw bound =>
      obtain ⟨hlasts, hstore⟩ := h.draw bound
      refine ⟨hlasts, fun _ => ?_⟩
      rw [hstore]
      exact hthins
    | read | list | create | upsert | delete | deleteWave | health => exact absurd trivial hneeds

end Session

/-- Induction on the call: what each of its actions keeps, the run keeps. -/
theorem Call.Along.lasts {α : Type} {x : Call α} {P : List Exchange → Action → Prop}
    {Q : List Exchange → α → Prop} {past : List Exchange} (hx : x.Along P Q past)
    (hP : ∀ past r w, P past (.upsert r w) → ∃ token, w = .ofToken token) {s : Session σ}
    (h : s.Fit V c) :
    s.Lasts V c (x.run s).2 ∧
      ((∀ past a, P past a → ¬ a.Stores) → V.Thins s.world.store (x.run s).2.world.store) := by
  induction x generalizing past s with
  | done a => exact ⟨h.proceeds.lasts, fun _ => (View.Same.refl _).thins⟩
  | act a next ih =>
    obtain ⟨hallowed, hnext⟩ := hx
    obtain ⟨hlasts, hthins⟩ := h.perform fun r w ha => hP past r w (ha ▸ hallowed)
    obtain ⟨hlasts', hthins'⟩ := ih (s.perform a).1 (hnext _) hlasts.fit
    exact ⟨hlasts.trans hlasts', fun hnone =>
      (hthins (hnone past a hallowed)).trans (hthins' hnone)⟩

end LeaseStore
