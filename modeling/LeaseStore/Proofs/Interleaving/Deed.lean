/-
LeaseStore.Proofs.Interleaving.Deed — what one action does to the world.

`View.Does` says of each action, with its reply, how the world may have
changed. It is proved once of `Session.perform` (`Session.does_perform`);
whatever is said of runs is derived from it. From afar all actions look
alike: the store has moved, and the clock has not gone back
(`View.Does.moves`, `View.Does.clock_le`).
-/
import LeaseStore.Proofs.Calls.Path
import LeaseStore.Proofs.Store.Fleet
import LeaseStore.Proofs.Store.Versions

namespace LeaseStore

variable {σ : Type} {V : View σ}

/-! ## Time -/

theorem Instant.le_refl (t : Instant) : t ≤ t := Int.le_refl t.ms

theorem Instant.le_trans {a b c : Instant} (h : a ≤ b) (h' : b ≤ c) : a ≤ c :=
  Int.le_trans h h'

theorem Instant.le_shift (t : Instant) (n : Nat) : t ≤ t.shift n := by
  have := t.inRange
  rw [Instant.le_def, Instant.shift, Instant.ms_clamp]
  omega

/-! ## Deletes of a wave -/

/-- The outcomes of deleting several records one after the other. -/
inductive View.DeletesAll (V : View σ) (c : CollectionRef) :
    σ → List String → σ → List (Except BackendError Unit) → Prop
  | nil (s : σ) : DeletesAll V c s [] s []
  | cons {s t u : σ} {id : String} {ids : List String} {r : Except BackendError Unit}
      {rs : List (Except BackendError Unit)} : V.Deletes s t c id r →
      V.DeletesAll c t ids u rs → DeletesAll V c s (id :: ids) u (r :: rs)

theorem View.Deletes.move {s s' : σ} {c : CollectionRef} {id : String}
    {r : Except BackendError Unit} (h : V.Deletes s s' c id r) : V.Move s s' := by
  cases h with
  | removed _ hrem => exact .removed hrem
  | absent _ hsame => exact .same hsame
  | failed _ hsame => exact .same hsame

theorem View.DeletesAll.moves {s s' : σ} {c : CollectionRef} {ids : List String}
    {rs : List (Except BackendError Unit)} (h : V.DeletesAll c s ids s' rs) : V.Moves s s' := by
  induction h with
  | nil s => exact .refl s
  | cons hdel _ ih => exact hdel.move.moves.trans ih

/-- Deletes several records one after the other. -/
def Backend.deleteEach (b : Backend σ) (c : CollectionRef) :
    List String → σ → List (Except BackendError Unit) × σ
  | [], s => ([], s)
  | id :: ids, s =>
    let (r, s) := b.deleteNow c id s
    let (rs, s) := b.deleteEach c ids s
    (r :: rs, s)

/-- Induction on the ids: where no delete takes time, each settles as it
starts. -/
theorem Backend.startWave_of_delay {b : Backend σ} {c : CollectionRef}
    (h : ∀ id s, (b.startDelete c id s).1.delay = 0) (ids : List String) (s : σ) :
    b.startWave c ids s =
      ((b.deleteEach c ids s).1.map .settled, (b.deleteEach c ids s).2) := by
  induction ids generalizing s with
  | nil => rfl
  | cons id ids ih =>
    show (if (b.startDelete c id s).1.delay = 0 then
      (.settled (b.deleteNow c id s).1 :: (b.startWave c ids (b.deleteNow c id s).2).1,
        (b.startWave c ids (b.deleteNow c id s).2).2) else _) = _
    rw [if_pos (h id s), ih]
    rfl

theorem Backend.settleWave_map (start : Instant) (rs : List (Except BackendError Unit))
    (w : World σ) : Backend.settleWave start (rs.map .settled) w = (rs, w) := by
  induction rs with
  | nil => rfl
  | cons r rs ih => simp only [List.map_cons, Backend.settleWave, ih]

/-- A wave of deletes that take no time takes none. -/
theorem Backend.deleteWave_of_delay {b : Backend σ} {c : CollectionRef}
    (h : ∀ id s, (b.startDelete c id s).1.delay = 0) (ids : List String) (w : World σ) :
    b.deleteWave c ids w =
      ((b.deleteEach c ids w.store).1, { w with store := (b.deleteEach c ids w.store).2 }) := by
  rw [Backend.deleteWave, World.answer, Backend.startWave_of_delay h]
  exact Backend.settleWave_map w.clock _ _

theorem Backend.Lawful.deletesAll {b : Backend σ} (h : b.Lawful V) (c : CollectionRef)
    (ids : List String) {s : σ} (hs : V.Sound s) :
    V.DeletesAll c s ids (b.deleteEach c ids s).2 (b.deleteEach c ids s).1 := by
  induction ids generalizing s with
  | nil => exact .nil s
  | cons id ids ih =>
    have hdelete := h.delete c id s hs
    exact .cons hdelete (ih (hdelete.move.passes.sound hs))

/-- The deletes of a wave of a lawful backend happen one after the other. -/
theorem Backend.Lawful.deleteWave {b : Backend σ} (h : b.Lawful V) (c : CollectionRef)
    (ids : List String) {w : World σ} (hs : V.Sound w.store) :
    ∃ rs s', b.deleteWave c ids w = (rs, { w with store := s' }) ∧
      V.DeletesAll c w.store ids s' rs :=
  ⟨_, _, Backend.deleteWave_of_delay (h.delay c) ids w, h.deletesAll c ids hs⟩

/-- A delete that takes no time settles at once. -/
theorem Backend.delete_eq_of_delay {b : Backend σ} {c : CollectionRef} {id : String} {w : World σ}
    (h : (b.startDelete c id w.store).1.delay = 0) : b.delete c id w =
      ((b.deleteNow c id w.store).1, { w with store := (b.deleteNow c id w.store).2 }) := by
  have hclock : w.clock.shift (b.startDelete c id w.store).1.delay = w.clock := by
    rw [h]
    exact (congrArg Instant.clamp (Int.add_zero _)).trans (Instant.clamp_ms w.clock)
  show ((b.deleteNow c id w.store).1, World.mk (w.clock.shift _) w.draws _) = _
  rw [hclock]
  rfl

/-- Neither does a single delete. -/
theorem Backend.Lawful.delete_eq {b : Backend σ} (h : b.Lawful V) (c : CollectionRef)
    (id : String) (w : World σ) : b.delete c id w =
      ((b.deleteNow c id w.store).1, { w with store := (b.deleteNow c id w.store).2 }) :=
  Backend.delete_eq_of_delay (h.delay c id w.store)

/-! ## Actions -/

/-- A request went to the collection of a link and took no time. -/
def Asked (c? : Option CollectionRef) (w w' : World σ) (P : CollectionRef → Prop) : Prop :=
  ∃ c, c? = some c ∧ w'.clock = w.clock ∧ P c

/-- What an action with its reply does to the world, for an engine that is
linked to this collection. -/
def View.Does (V : View σ) (c? : Option CollectionRef) (w w' : World σ) : Exchange → Prop
  | ⟨.connect, _⟩ => w'.clock = w.clock ∧ V.Same w.store w'.store
  | ⟨.now, t⟩ => t = w.clock ∧ w' = w
  | ⟨.read id, reply⟩ => Asked c? w w' fun c => V.Reads w.store w'.store c id reply
  | ⟨.list, reply⟩ => Asked c? w w' fun c => V.Lists w.store w'.store c reply
  | ⟨.create r, reply⟩ => Asked c? w w' fun c =>
    V.Writes w.store w'.store c r (V.look w.store c r.id = none) .alreadyExists reply
  | ⟨.upsert r condition, reply⟩ => Asked c? w w' fun c =>
    V.Writes w.store w'.store c r (condition.Meets (V.look w.store c r.id)) .preconditionFailed
      reply
  | ⟨.delete id, reply⟩ => Asked c? w w' fun c => V.Deletes w.store w'.store c id reply
  | ⟨.deleteWave ids, replies⟩ =>
    Asked c? w w' fun c => V.DeletesAll c w.store ids w'.store replies
  | ⟨.health, reply⟩ => Asked c? w w' fun _ => V.Answers w.store w'.store reply
  | ⟨.count _, _⟩ => w' = w
  | ⟨.pause d, _⟩ => w' = w.later d.millisUp
  | ⟨.draw _, _⟩ => w'.clock = w.clock ∧ w'.store = w.store

namespace View

variable {c? : Option CollectionRef} {w w' : World σ} {x : Exchange}

theorem Writes.move {s s' : σ} {c : CollectionRef} {r : Record} {admitted : Prop}
    {refusal : BackendError} {reply : Except BackendError Record}
    (h : V.Writes s s' c r admitted refusal reply) : V.Move s s' := by
  cases h with
  | stored _ hst => exact .stored hst
  | refused _ hsame => exact .same hsame
  | failed _ hsame => exact .same hsame

theorem Reads.same {s s' : σ} {c : CollectionRef} {id : String}
    {reply : Except BackendError Record} (h : V.Reads s s' c id reply) : V.Same s s' := by
  cases h <;> assumption

theorem Lists.same {s s' : σ} {c : CollectionRef}
    {reply : Except BackendError (List Record)} (h : V.Lists s s' c reply) : V.Same s s' := by
  cases h <;> assumption

theorem Answers.same {s s' : σ} {reply : Except BackendError Unit}
    (h : V.Answers s s' reply) : V.Same s s' := by
  cases h <;> assumption

/-- Every action moves the store. -/
theorem Does.moves (h : V.Does c? w w' x) : V.Moves w.store w'.store := by
  obtain ⟨action, reply⟩ := x
  cases action with
  | connect => exact (Move.same h.2).moves
  | now =>
    obtain ⟨-, rfl⟩ := h
    exact .refl _
  | read id =>
    obtain ⟨c, -, -, hreads⟩ := h
    exact (Move.same hreads.same).moves
  | list =>
    obtain ⟨c, -, -, hlists⟩ := h
    exact (Move.same hlists.same).moves
  | create r =>
    obtain ⟨c, -, -, hwrites⟩ := h
    exact hwrites.move.moves
  | upsert r condition =>
    obtain ⟨c, -, -, hwrites⟩ := h
    exact hwrites.move.moves
  | delete id =>
    obtain ⟨c, -, -, hdeletes⟩ := h
    exact hdeletes.move.moves
  | deleteWave ids =>
    obtain ⟨c, -, -, hall⟩ := h
    exact hall.moves
  | health =>
    obtain ⟨c, -, -, hanswers⟩ := h
    exact (Move.same hanswers.same).moves
  | count n =>
    obtain rfl : w' = w := h
    exact .refl _
  | pause d =>
    obtain rfl : w' = w.later d.millisUp := h
    exact .refl _
  | draw bound =>
    rw [h.2]
    exact .refl _

/-- No action turns the clock back. -/
theorem Does.clock_le (h : V.Does c? w w' x) : w.clock ≤ w'.clock := by
  obtain ⟨action, reply⟩ := x
  cases action with
  | pause d =>
    obtain rfl : w' = w.later d.millisUp := h
    exact w.clock.le_shift _
  | now =>
    obtain ⟨-, rfl⟩ := h
    exact Instant.le_refl _
  | count n =>
    obtain rfl : w' = w := h
    exact Instant.le_refl _
  | connect | draw =>
    rw [h.1]
    exact Instant.le_refl _
  | read | list | create | upsert | delete | deleteWave | health =>
    obtain ⟨c, -, hclock, -⟩ := h
    rw [hclock]
    exact Instant.le_refl _

end View

/-! ## Chance -/

theorem World.draw_snd (w : World σ) (n : Nat) :
    (w.draw n).2 = { w with draws := w.draws.tail } := by
  obtain ⟨clock, draws, store⟩ := w
  cases draws <;> rfl

/-- What is drawn depends on the random numbers to come alone. -/
theorem World.draw_fst_congr {τ : Type} {w : World σ} {u : World τ} (h : w.draws = u.draws)
    (n : Nat) : (w.draw n).1 = (u.draw n).1 := by
  unfold World.draw
  rw [h]
  cases u.draws <;> rfl

theorem Session.perform_draw (s : Session σ) (n : Nat) :
    s.perform (.draw n) = ((s.world.draw n).1,
      { s with world := { s.world with draws := s.world.draws.tail } }) := by
  rw [← World.draw_snd s.world n]
  rfl

/-! ## Engines -/

/-- An engine opens lawful backends, and is linked to one at most, whose
collection is there. -/
structure Engine.Lawful (e : Engine σ) (V : View σ) (s : σ) : Prop where
  connector : e.connector.Lawful V
  link : ∀ l, e.link = some l → l.backend.Lawful V ∧ V.Provided s l.collection

theorem Engine.Lawful.passes {e : Engine σ} {s s' : σ} (h : e.Lawful V s)
    (hpasses : V.Passes s s') : e.Lawful V s' :=
  ⟨h.connector, fun l hl => ⟨(h.link l hl).1, hpasses.provided _ (h.link l hl).2⟩⟩

theorem Engine.Lawful.moves {e : Engine σ} {s s' : σ} (h : e.Lawful V s) (hmoves : V.Moves s s') :
    e.Lawful V s' :=
  h.passes hmoves.passes

/-- The collection that an engine is linked to. -/
def Engine.linked? (e : Engine σ) : Option CollectionRef := e.link.map (·.collection)

/-- An action that only a linked engine may take. -/
def Action.NeedsLink : Action → Prop
  | .connect | .now | .count _ | .pause _ | .draw _ => False
  | _ => True

/-- One session after another by an action with its reply: what happened to
the world is what the action does, the engine is lawful still, a link that
was there stays, and a connection that was made is there. -/
structure Session.Steps (V : View σ) (s s' : Session σ) (x : Exchange) : Prop where
  does : V.Does s.engine.linked? s.world s'.world x
  engine : s'.engine.Lawful V s'.world.store
  kept : ∀ l, s.engine.link = some l → s'.engine.link = some l
  linked : ∀ c, x = ⟨.connect, .ok c⟩ → ∃ l, s'.engine.link = some l

namespace Session

variable {s : Session σ}

theorem request_eq {α : Type} {l : Link σ} (hl : s.engine.link = some l)
    (f : Link σ → Answering σ α) :
    s.request f = ((f l s.world.store).1,
      { s with world := { s.world with store := (f l s.world.store).2 } }) := by
  simp only [request, hl, World.answer]

theorem request_unlinked {α : Type} (hl : s.engine.link = none) (f : Link σ → Answering σ α) :
    s.request f = (.error unlinked, s) := by
  simp only [request, hl]

/-- Without a link nothing is asked of the store. -/
theorem perform_unlinked (hl : s.engine.link = none) {a : Action} (ha : a.NeedsLink) :
    (s.perform a).2 = s := by
  cases a with
  | connect | now | count | pause | draw => exact ha.elim
  | read | list | create | upsert | health | delete | deleteWave =>
    simp only [perform, request, hl]

/-- A step that leaves the engine as it is. -/
theorem Steps.of_does {w : World σ} {x : Exchange} (he : s.engine.Lawful V s.world.store)
    (hx : ∀ c, x ≠ ⟨.connect, .ok c⟩) (h : V.Does s.engine.linked? s.world w x) :
    Steps V s { s with world := w } x :=
  ⟨h, he.moves h.moves, fun _ hl => hl, fun c hc => absurd hc (hx c)⟩

/-- To connect leaves the clock and every record alone. Only a success
makes a new link. -/
theorem steps_connect (hs : V.Sound s.world.store) (he : s.engine.Lawful V s.world.store) :
    Steps V s s.connect.2 ⟨.connect, s.connect.1⟩ := by
  unfold connect
  split
  case h_1 => exact ⟨⟨rfl, .refl _⟩, he, fun _ hl => hl, fun _ hc => nomatch hc⟩
  case h_2 config _ =>
    split
    case h_1 l hl => exact ⟨⟨rfl, .refl _⟩, he, fun _ hl => hl, fun _ _ => ⟨l, hl⟩⟩
    case h_2 hunlinked =>
      have hsame := he.connector.same config s.world.store
      split
      case h_1 err w hopen =>
        obtain ⟨-, rfl⟩ := Prod.mk.inj hopen
        exact ⟨⟨rfl, hsame⟩, he.moves (View.Move.same hsame).moves, fun _ hl => hl,
          fun _ hc => nomatch hc⟩
      case h_2 b w hopen =>
        -- the backend is lawful on the store that the connector has left, which shows the same
        obtain ⟨hb, rfl⟩ := Prod.mk.inj hopen
        have hlaw := he.connector.opens config s.world.store b hb
        have hensure := hlaw.ensure config.collectionRef _ (hsame.sound hs)
        split
        case h_1 err w hrefused =>
          obtain ⟨herr, rfl⟩ := Prod.mk.inj hrefused
          rw [herr] at hensure
          cases hensure with
          | failed _ hsame' =>
            have hboth := hsame.trans hsame'
            exact ⟨⟨rfl, hboth⟩, he.moves (View.Move.same hboth).moves, fun _ hl => hl,
              fun _ hc => nomatch hc⟩
        case h_2 w hprovided =>
          obtain ⟨hok, rfl⟩ := Prod.mk.inj hprovided
          rw [hok] at hensure
          cases hensure with
          | provided hsame' hthere =>
            refine ⟨⟨rfl, hsame.trans hsame'⟩, ⟨he.connector, ?_⟩, ?_, fun _ _ => ⟨_, rfl⟩⟩
            · intro l hl
              cases hl
              exact ⟨hlaw, hthere⟩
            · intro l hl
              exact absurd (hunlinked.symm.trans hl) (by simp)

/-- What a linked engine asks of its backend takes no time, and what it
does is one operation of the backend. -/
theorem perform_linked (hs : V.Sound s.world.store) (he : s.engine.Lawful V s.world.store)
    {l : Link σ} (hl : s.engine.link = some l) {a : Action} (ha : a.NeedsLink)
    (hcondition : ∀ r w, a = .upsert r w → ∃ token, w = .ofToken token) :
    ∃ reply st, s.perform a = (reply, { s with world := { s.world with store := st } }) ∧
      V.Does (some l.collection) s.world { s.world with store := st } ⟨a, reply⟩ := by
  obtain ⟨hlaw, -⟩ := he.link l hl
  cases a with
  | connect | now | count | pause | draw => exact ha.elim
  | read id =>
    exact ⟨_, _, request_eq hl _, l.collection, rfl, rfl, hlaw.read l.collection id _ hs⟩
  | list => exact ⟨_, _, request_eq hl _, l.collection, rfl, rfl, hlaw.list l.collection _ hs⟩
  | create r =>
    exact ⟨_, _, request_eq hl _, l.collection, rfl, rfl, hlaw.create l.collection r _ hs⟩
  | upsert r w =>
    exact ⟨_, _, request_eq hl _, l.collection, rfl, rfl,
      hlaw.upsert l.collection r w _ (hcondition r w rfl) hs⟩
  | health => exact ⟨_, _, request_eq hl _, l.collection, rfl, rfl, hlaw.health _ hs⟩
  | delete id =>
    refine ⟨(l.backend.deleteNow l.collection id s.world.store).1,
      (l.backend.deleteNow l.collection id s.world.store).2, ?_, l.collection, rfl, rfl,
      hlaw.delete l.collection id _ hs⟩
    simp only [perform, hl, hlaw.delete_eq]
  | deleteWave ids =>
    obtain ⟨rs, st, hwave, hall⟩ := hlaw.deleteWave l.collection ids hs
    refine ⟨rs, st, ?_, l.collection, rfl, rfl, hall⟩
    simp only [perform, hl, hwave]

/-- **What an action does.** Cases on the action: each is one operation of
the backend, or none. -/
theorem steps_perform (hs : V.Sound s.world.store) (he : s.engine.Lawful V s.world.store)
    (a : Action) (hlink : a.NeedsLink → ∃ l, s.engine.link = some l)
    (hcondition : ∀ r w, a = .upsert r w → ∃ token, w = .ofToken token) :
    Steps V s (s.perform a).2 ⟨a, (s.perform a).1⟩ := by
  by_cases hneeds : a.NeedsLink
  · obtain ⟨l, hl⟩ := hlink hneeds
    obtain ⟨reply, st, hperform, hdoes⟩ := perform_linked hs he hl hneeds hcondition
    rw [hperform]
    refine .of_does he (fun c hx => ?_) ?_
    · cases hx
      exact hneeds
    · rw [Engine.linked?, hl, Option.map_some]
      exact hdoes
  · cases a with
    | connect => exact steps_connect hs he
    | now => exact .of_does he (fun _ h => nomatch h) ⟨rfl, rfl⟩
    | count c => exact ⟨rfl, ⟨he.connector, he.link⟩, fun _ hl => hl, fun _ h => nomatch h⟩
    | pause d => exact .of_does he (fun _ h => nomatch h) rfl
    | draw bound =>
      rw [perform_draw]
      exact .of_does he (fun _ h => nomatch h) ⟨rfl, rfl⟩
    | read | list | create | upsert | delete | deleteWave | health => exact absurd trivial hneeds

end Session

end LeaseStore
