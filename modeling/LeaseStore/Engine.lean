/-
LeaseStore.Engine — an engine, and how its calls run.

The `Engine` itself, its `init`, `config` and `is_initialized`, and how it
connects (`connected`) through its `Connector`.

An engine is bound to a configuration once (`Engine.init`). It connects
on its first call that gets so far: its connector opens a backend for the
configuration, the backend makes sure of the collection, and only when
both have succeeded is the connection kept. From then on every action on
the store goes to that backend.

`Call.run` runs a call by itself: each action is carried out at once by
`Session.perform`, on the engine and on the world around it, which is the
clock, the source of random numbers, and the backend's state.
-/
import LeaseStore.Backend
import LeaseStore.Call
import LeaseStore.Once

namespace LeaseStore

open LeaseStore.Text

/-! ## The world -/

/-- What surrounds the engines: time, chance, and the backends' state. -/
structure World (σ : Type) where
  clock : Instant
  /-- The random numbers to come; zeros follow. -/
  draws : List Nat
  store : σ

namespace World

/-- The world `n` milliseconds later. -/
def later {σ : Type} (w : World σ) (n : Nat) : World σ := { w with clock := w.clock.shift n }

/-- The world with the clock at least at `t`. -/
def notBefore {σ : Type} (w : World σ) (t : Instant) : World σ :=
  { w with clock := if w.clock < t then t else w.clock }

/-- An operation on the store, in the world around it. -/
def answer {σ α : Type} (w : World σ) (f : σ → α × σ) : α × World σ :=
  let (a, store) := f w.store
  (a, { w with store })

/-- The next random number up to a bound. -/
def draw {σ : Type} (w : World σ) (bound : Nat) : Fin (bound + 1) × World σ :=
  match w.draws with
  | [] => (0, w)
  | n :: draws => (Fin.ofNat (bound + 1) n, { w with draws })

end World

/-! ## Deletes that overlap -/

/-- A delete of a wave: settled, or still under way. -/
inductive Started (σ : Type) where
  | settled (r : Except BackendError Unit)
  | pending (d : Pending σ)

namespace Backend

/-- Starts the deletes of a wave in order; those that take no time settle
as they start. -/
def startWave {σ : Type} (b : Backend σ) (c : CollectionRef) :
    List String → σ → List (Started σ) × σ
  | [], s => ([], s)
  | id :: ids, s =>
    let (d, s) := b.startDelete c id s
    if d.delay = 0 then
      let (r, s) := d.settle s
      let (xs, s) := b.startWave c ids s
      (.settled r :: xs, s)
    else
      let (xs, s) := b.startWave c ids s
      (.pending d :: xs, s)

/-- Settles in order what a wave left under way, each delete no earlier
than its time after the start of the wave. -/
def settleWave {σ : Type} (start : Instant) :
    List (Started σ) → World σ → List (Except BackendError Unit) × World σ
  | [], w => ([], w)
  | .settled r :: xs, w =>
    let (rs, w) := settleWave start xs w
    (r :: rs, w)
  | .pending d :: xs, w =>
    let (r, w) := (w.notBefore (start.shift d.delay)).answer d.settle
    let (rs, w) := settleWave start xs w
    (r :: rs, w)

/-- Deletes several records at the same time. -/
def deleteWave {σ : Type} (b : Backend σ) (c : CollectionRef) (ids : List String)
    (w : World σ) : List (Except BackendError Unit) × World σ :=
  let (xs, w') := w.answer (b.startWave c ids)
  settleWave w.clock xs w'

/-- Deletes one record and waits for it. -/
def delete {σ : Type} (b : Backend σ) (c : CollectionRef) (id : String) (w : World σ) :
    Except BackendError Unit × World σ :=
  let (d, w) := w.answer (b.startDelete c id)
  (w.later d.delay).answer d.settle

end Backend

/-! ## Engines -/

/-- A `Connector`: opens a backend for a configuration. -/
abbrev Connector (σ : Type) := Config → σ → Except StoreError (Backend σ) × σ

/-- A backend, and the collection that an engine uses of it. -/
structure Link (σ : Type) where
  backend : Backend σ
  collection : CollectionRef

/-- A record store engine over a backend with state `σ`. -/
structure Engine (σ : Type) where
  connector : Connector σ
  config : Once Config := .unset
  link : Option (Link σ) := none
  metrics : Metrics := {}

/-- The failure to provide for a collection, as the caller sees it
(`provisioning_error`). -/
def provisioningError (c : CollectionRef) : BackendError → StoreError
  | .failure message transient cause =>
    .external ("failed to provision collection " ++ c.render ++ ": " ++ message) transient
      (cause.map .cause)
  | e => .external ("failed to provision collection " ++ c.render) false (some (.backend e))

namespace Engine

/-- Binds an engine to a configuration (`Engine::init`). The first usable one is
kept; once there is one, all others are passed over in silence. -/
def init {σ : Type} (e : Engine σ) (c : Config) : Except StoreError Unit × Engine σ :=
  match e.config with
  | .ready _ => (.ok (), e)
  | .unset =>
    match c.check with
    | .error err => (.error (.config err), e)
    | .ok () => (.ok (), { e with config := (e.config.offer c).2 })

/-- The engine has a configuration (`Engine::is_initialized`). -/
def isInitialized {σ : Type} (e : Engine σ) : Bool := e.config.get?.isSome

/-- The configuration that the engine is bound to (`Engine::config`). -/
def boundConfig {σ : Type} (e : Engine σ) : Except StoreError Config :=
  match e.config.get? with
  | some c => .ok c
  | none => .error .uninitialized

/-- The diagnostic form of an engine. -/
def describe {σ : Type} (e : Engine σ) : String :=
  let counts := Counter.all.map fun c => (c.label, toString (e.metrics.get c))
  describeFields "Engine"
    [ ("state", e.config.state),
      ("connected", toString e.link.isSome),
      ("metrics", describeFields "MetricsSnapshot" counts false) ] true

end Engine

/-! ## Carrying out actions -/

/-- An engine and the world around it. -/
structure Session (σ : Type) where
  engine : Engine σ
  world : World σ

namespace Session

/-- Makes sure of a connection (`Engine::connected`). -/
def connect {σ : Type} (s : Session σ) : Except StoreError Config × Session σ :=
  match s.engine.config with
  | .unset => (.error .uninitialized, s)
  | .ready c =>
    match s.engine.link with
    | some _ => (.ok c, s)
    | none =>
      match s.world.answer (s.engine.connector c) with
      | (.error err, w) => (.error err, { s with world := w })
      | (.ok b, w) =>
        match w.answer (b.ensure c.collectionRef) with
        | (.error err, w) =>
          (.error (provisioningError c.collectionRef err), { s with world := w })
        | (.ok (), w) =>
          (.ok c, { engine := { s.engine with link := some ⟨b, c.collectionRef⟩ }, world := w })

/-- What the store answers an engine that is not connected. No call comes
to that: each of them connects first. -/
def unlinked : BackendError := .lasting "not connected"

/-- Sends a request to the connected backend. -/
def request {σ α : Type} (s : Session σ) (f : Link σ → Answering σ α) :
    Except BackendError α × Session σ :=
  match s.engine.link with
  | none => (.error unlinked, s)
  | some l =>
    let (r, w) := s.world.answer (f l)
    (r, { s with world := w })

/-- Counts an event. -/
def count {σ : Type} (s : Session σ) (c : Counter) : Session σ :=
  { s with engine := { s.engine with metrics := s.engine.metrics.record c } }

/-- Carries out one action. -/
def perform {σ : Type} (s : Session σ) : (a : Action) → a.Reply × Session σ
  | .connect => s.connect
  | .now => (s.world.clock, s)
  | .read id => s.request fun l => l.backend.read l.collection id
  | .list => s.request fun l => l.backend.list l.collection
  | .create r => s.request fun l => l.backend.create l.collection r
  | .upsert r condition => s.request fun l => l.backend.upsert l.collection r condition
  | .delete id =>
    match s.engine.link with
    | none => (.error unlinked, s)
    | some l =>
      let (r, w) := l.backend.delete l.collection id s.world
      (r, { s with world := w })
  | .deleteWave ids =>
    match s.engine.link with
    | none => (ids.map fun _ => .error unlinked, s)
    | some l =>
      let (rs, w) := l.backend.deleteWave l.collection ids s.world
      (rs, { s with world := w })
  | .health => s.request fun l => l.backend.health
  | .count c => ((), s.count c)
  | .pause d => ((), { s with world := s.world.later d.millisUp })
  | .draw bound =>
    let (n, w) := s.world.draw bound
    (n, { s with world := w })

end Session

namespace Call

/-- Runs a call by itself, from its first action to its end. -/
def run {σ α : Type} : Call α → Session σ → α × Session σ
  | done a, s => (a, s)
  | act a next, s =>
    let (r, s) := s.perform a
    (next r).run s

@[simp] theorem run_done {σ α : Type} (a : α) (s : Session σ) :
    (done a).run s = (a, s) := rfl

@[simp] theorem run_act {σ α : Type} (a : Action) (next : a.Reply → Call α)
    (s : Session σ) : (act a next).run s = (next (s.perform a).1).run (s.perform a).2 := rfl

@[simp] theorem run_perform {σ : Type} (a : Action) (s : Session σ) :
    (perform a).run s = s.perform a := rfl

/-- A call that goes on after another runs from where that one ended. -/
theorem run_bind {σ α β : Type} (x : Call α) (f : α → Call β) (s : Session σ) :
    (x >>= f).run s = (f (x.run s).1).run (x.run s).2 := by
  induction x generalizing s with
  | done a => rfl
  | act a next ih => simp only [act_bind, run_act, ih]

end Call

end LeaseStore
