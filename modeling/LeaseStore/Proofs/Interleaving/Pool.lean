/-
LeaseStore.Proofs.Interleaving.Pool — many errands on many engines.

A pool is a world, the engines on it, and the tasks that callers have
begun. Its turns come in any order: a task is begun, a task takes its next
action, or time passes. What the tasks did is written down, one `Event` an
action, in the order in which it happened. A run is any list of turns, so
what holds of all runs holds of every interleaving.

* `Pool.run_induction` — what a run keeps, from what each turn keeps.
* `Pool.Sane` — the tasks keep to the rules of their errands, the engines
  and the store are lawful; every run from a new pool is sane.
* `Pool.Sane.event` — so each event did what its action does, and its errand
  allowed it.
-/
import LeaseStore.Fixture
import LeaseStore.Proofs.Calls.Conduct
import LeaseStore.Proofs.Interleaving.Deed
import Mathlib.Logic.Function.Basic

namespace LeaseStore

/-- An errand under way on an engine. -/
structure Task where
  engine : Nat
  errand : Errand
  /-- What it has done, the latest exchange first. -/
  past : List Exchange := []
  /-- What is left of it. -/
  rest : Call Answer

/-- An action that a task took. -/
structure Event (σ : Type) where
  task : Nat
  errand : Errand
  /-- What the task had done before, the latest exchange first. -/
  past : List Exchange
  exchange : Exchange
  /-- The collection that the task's engine was linked to. -/
  collection : Option CollectionRef
  before : World σ
  after : World σ

/-- An event did what its action does, on a collection that was there, and
its errand allowed it. -/
structure Event.Sane {σ : Type} (V : View σ) (e : Event σ) : Prop where
  does : V.Does e.collection e.before e.after e.exchange
  provided : ∀ c, e.collection = some c → V.Provided e.before.store c
  allowed : e.errand.Allows e.past e.exchange.action

/-- Engines with their tasks on one world, and what has happened so far. -/
structure Pool (σ : Type) where
  engines : Nat → Engine σ
  world : World σ
  tasks : Nat → Option Task := fun _ => none
  trace : List (Event σ) := []

/-- What may happen next. -/
inductive Turn where
  /-- A caller begins an errand on an engine. -/
  | start (task engine : Nat) (errand : Errand)
  /-- A task takes its next action. -/
  | step (task : Nat)
  /-- Milliseconds pass. -/
  | wait (ms : Nat)

namespace Pool

variable {σ : Type}

/-- Engines over one connector, each with its configuration, before any task. -/
def fresh (connector : Connector σ) (configs : Nat → Once Config) (w : World σ) : Pool σ where
  engines k := { connector, config := configs k }
  world := w

/-- The pool with a task under a number. -/
def enter (p : Pool σ) (k : Nat) (task : Task) : Pool σ :=
  { p with tasks := Function.update p.tasks k (some task) }

/-- A caller begins an errand, under a number that is not taken. -/
def start (p : Pool σ) (k engine : Nat) (errand : Errand) : Pool σ :=
  match p.tasks k with
  | some _ => p
  | none => p.enter k { engine, errand, rest := errand.call }

/-- A task's engine on the pool's world. -/
def session (p : Pool σ) (task : Task) : Session σ := ⟨p.engines task.engine, p.world⟩

/-- What is written down of an action. -/
def event (p : Pool σ) (k : Nat) (task : Task) (a : Action) : Event σ where
  task := k
  errand := task.errand
  past := task.past
  exchange := ⟨a, ((p.session task).perform a).1⟩
  collection := (p.engines task.engine).linked?
  before := p.world
  after := ((p.session task).perform a).2.world

/-- A task takes this action and goes on with the reply. -/
def act (p : Pool σ) (k : Nat) (task : Task) (a : Action) (next : a.Reply → Call Answer) :
    Pool σ :=
  let (r, s) := (p.session task).perform a
  { engines := Function.update p.engines task.engine s.engine
    world := s.world
    tasks := Function.update p.tasks k
      (some { task with past := ⟨a, r⟩ :: task.past, rest := next r })
    trace := p.trace ++ [p.event k task a] }

/-- A task takes its next action, if there is one. -/
def step (p : Pool σ) (k : Nat) : Pool σ :=
  match p.tasks k with
  | none => p
  | some task =>
    match task.rest with
    | .done _ => p
    | .act a next => p.act k task a next

/-- Takes a turn. -/
def take (p : Pool σ) : Turn → Pool σ
  | .start k engine errand => p.start k engine errand
  | .step k => p.step k
  | .wait ms => { p with world := p.world.later ms }

/-- Takes turn after turn. -/
def run (p : Pool σ) (turns : List Turn) : Pool σ := turns.foldl take p

/-! ## Runs -/

/-- What a run keeps: it is kept by every errand that begins, every action
that a task has before it, and every passing of time. -/
theorem run_induction {I : Pool σ → Prop}
    (hstart : ∀ p k engine errand, I p → p.tasks k = none →
      I (p.enter k { engine, errand, rest := errand.call }))
    (hact : ∀ p k task a next, I p → p.tasks k = some task → task.rest = .act a next →
      I (p.act k task a next))
    (hwait : ∀ p ms, I p → I { p with world := p.world.later ms })
    {p : Pool σ} (h : I p) (turns : List Turn) : I (p.run turns) := by
  induction turns generalizing p with
  | nil => exact h
  | cons turn turns ih =>
    refine ih ?_
    cases turn with
    | start k engine errand =>
      simp only [take, start]
      split
      case h_1 => exact h
      case h_2 hfree => exact hstart p k engine errand h hfree
    | step k =>
      simp only [take, step]
      split
      case h_1 => exact h
      case h_2 task htask =>
        split
        case h_1 => exact h
        case h_2 a next hrest => exact hact p k task a next h htask hrest
    | wait ms => exact hwait p ms h

/-! ## Sanity -/

/-- The store is sound and tidy, the engines are lawful, each task keeps to
the rules of its errand, and a task that has connected has a link. -/
structure Sane (V : View σ) (p : Pool σ) : Prop where
  sound : V.Sound p.world.store
  tidy : V.Tidy p.world.store
  engines : ∀ k, (p.engines k).Lawful V p.world.store
  conduct : ∀ k task, p.tasks k = some task →
    task.rest.Along task.errand.Allows task.errand.Earned task.past
  linked : ∀ k task, p.tasks k = some task → Linked task.past →
    ∃ l, (p.engines task.engine).link = some l

variable {V : View σ} {p : Pool σ}

theorem Sane.steps (hp : p.Sane V) {k : Nat} {task : Task} {a : Action}
    {next : a.Reply → Call Answer} (htask : p.tasks k = some task)
    (hrest : task.rest = .act a next) :
    task.errand.Allows task.past a ∧ Session.Steps V (p.session task)
      ((p.session task).perform a).2 (p.event k task a).exchange := by
  have hallowed : task.errand.Allows task.past a := by
    have hconduct := hp.conduct k task htask
    rw [hrest] at hconduct
    exact hconduct.1
  refine ⟨hallowed, Session.steps_perform hp.sound (hp.engines task.engine) a ?_ ?_⟩
  · intro hneeds
    refine hp.linked k task htask ?_
    cases a with
    | read | list | health => exact hallowed
    | create | upsert | delete | deleteWave => exact hallowed.1
    | connect | now | count | pause | draw => exact hneeds.elim
  · rintro r w rfl
    obtain ⟨-, t, before, -, hwrites⟩ := hallowed
    exact Errand.ofToken_of_writes hwrites

theorem Sane.event (hp : p.Sane V) {k : Nat} {task : Task} {a : Action}
    {next : a.Reply → Call Answer} (htask : p.tasks k = some task)
    (hrest : task.rest = .act a next) : (p.event k task a).Sane V := by
  obtain ⟨hallowed, hsteps⟩ := hp.steps htask hrest
  refine ⟨hsteps.does, fun c hc => ?_, hallowed⟩
  obtain ⟨l, hl, hcollection⟩ := Option.map_eq_some_iff.1 hc
  rw [← hcollection]
  exact ((hp.engines task.engine).link l hl).2

/-- A link that an engine has stays. -/
theorem Sane.kept (hp : p.Sane V) {k : Nat} {task : Task} {a : Action}
    {next : a.Reply → Call Answer} (htask : p.tasks k = some task)
    (hrest : task.rest = .act a next) {n : Nat} {l : Link σ} (h : (p.engines n).link = some l) :
    ((p.act k task a next).engines n).link = some l := by
  obtain ⟨-, hsteps⟩ := hp.steps htask hrest
  show (Function.update p.engines task.engine _ n).link = some l
  by_cases hn : n = task.engine
  · rw [hn] at h
    rw [hn, Function.update_self]
    exact hsteps.kept l h
  · rw [Function.update_of_ne hn]
    exact h

theorem Sane.linked?_act (hp : p.Sane V) {k : Nat} {task : Task} {a : Action}
    {next : a.Reply → Call Answer} (htask : p.tasks k = some task)
    (hrest : task.rest = .act a next) {n : Nat} {c : CollectionRef}
    (h : (p.engines n).linked? = some c) :
    ((p.act k task a next).engines n).linked? = some c := by
  obtain ⟨l, hl, hcollection⟩ := Option.map_eq_some_iff.1 h
  rw [Engine.linked?, hp.kept htask hrest hl, Option.map_some, hcollection]

/-- The tasks after an action: the one that took it has gone on, the others
are as they were. -/
theorem tasks_act {k n : Nat} {task task' : Task} {a : Action} {next : a.Reply → Call Answer}
    (h : (p.act k task a next).tasks n = some task') :
    (n = k ∧ task' = { task with
      past := (p.event k task a).exchange :: task.past
      rest := next (p.event k task a).exchange.reply }) ∨ (n ≠ k ∧ p.tasks n = some task') := by
  change Function.update p.tasks k _ n = some task' at h
  by_cases hn : n = k
  · rw [hn, Function.update_self] at h
    exact .inl ⟨hn, (Option.some.inj h).symm⟩
  · rw [Function.update_of_ne hn] at h
    exact .inr ⟨hn, h⟩

/-- The tasks after an errand has begun: one is new, the others are as they
were. -/
theorem tasks_enter {k n : Nat} {task task' : Task} (h : (p.enter k task).tasks n = some task') :
    (n = k ∧ task' = task) ∨ (n ≠ k ∧ p.tasks n = some task') := by
  change Function.update p.tasks k _ n = some task' at h
  by_cases hn : n = k
  · rw [hn, Function.update_self] at h
    exact .inl ⟨hn, (Option.some.inj h).symm⟩
  · rw [Function.update_of_ne hn] at h
    exact .inr ⟨hn, h⟩

/-- Each task still keeps to the rules of its errand after one has gone on. -/
theorem conduct_act
    (h : ∀ k task, p.tasks k = some task →
      task.rest.Along task.errand.Allows task.errand.Earned task.past)
    {k n : Nat} {task task' : Task} {a : Action} {next : a.Reply → Call Answer}
    (htask : p.tasks k = some task) (hrest : task.rest = .act a next)
    (htask' : (p.act k task a next).tasks n = some task') :
    task'.rest.Along task'.errand.Allows task'.errand.Earned task'.past := by
  obtain ⟨-, rfl⟩ | ⟨-, hold⟩ := tasks_act htask'
  · have hconduct := h k task htask
    rw [hrest] at hconduct
    exact hconduct.2 _
  · exact h n task' hold

/-- A new task keeps to the rules of its errand as well. -/
theorem conduct_enter
    (h : ∀ k task, p.tasks k = some task →
      task.rest.Along task.errand.Allows task.errand.Earned task.past)
    {k n engine : Nat} {errand : Errand} {task : Task}
    (htask : (p.enter k { engine, errand, rest := errand.call }).tasks n = some task) :
    task.rest.Along task.errand.Allows task.errand.Earned task.past := by
  obtain ⟨-, rfl⟩ | ⟨-, hold⟩ := tasks_enter htask
  · exact errand.conduct
  · exact h n task hold

theorem Sane.act (hp : p.Sane V) {k : Nat} {task : Task} {a : Action}
    {next : a.Reply → Call Answer} (htask : p.tasks k = some task)
    (hrest : task.rest = .act a next) : (p.act k task a next).Sane V := by
  obtain ⟨-, hsteps⟩ := hp.steps htask hrest
  have hmoves : V.Moves p.world.store (p.act k task a next).world.store := hsteps.does.moves
  have hengine (n : Nat) : ((p.act k task a next).engines n).Lawful V
      (p.act k task a next).world.store := by
    show (Function.update p.engines task.engine _ n).Lawful V _
    by_cases hn : n = task.engine
    · rw [hn, Function.update_self]
      exact hsteps.engine
    · rw [Function.update_of_ne hn]
      exact (hp.engines n).moves hmoves
  have hkept (n : Nat) (h : ∃ l, (p.engines n).link = some l) :
      ∃ l, ((p.act k task a next).engines n).link = some l := by
    obtain ⟨l, hl⟩ := h
    exact ⟨l, hp.kept htask hrest hl⟩
  refine ⟨hmoves.passes.sound hp.sound, hp.tidy.moves hmoves, hengine, ?_, ?_⟩
  · exact fun n task' => conduct_act hp.conduct htask hrest
  · intro n task' htask' hlinked
    obtain ⟨-, rfl⟩ | ⟨-, hold⟩ := tasks_act htask'
    · obtain ⟨c, hc⟩ := hlinked
      obtain hnew | hold := List.mem_cons.1 hc
      · show ∃ l, (Function.update p.engines task.engine _ task.engine).link = some l
        rw [Function.update_self]
        exact hsteps.linked c hnew.symm
      · exact hkept _ (hp.linked k task htask ⟨c, hold⟩)
    · exact hkept _ (hp.linked n task' hold hlinked)

theorem Sane.enter (hp : p.Sane V) (k engine : Nat) (errand : Errand) :
    (p.enter k { engine, errand, rest := errand.call }).Sane V := by
  refine ⟨hp.sound, hp.tidy, hp.engines, ?_, ?_⟩
  · exact fun n task => conduct_enter hp.conduct
  · intro n task htask hlinked
    obtain ⟨-, rfl⟩ | ⟨-, hold⟩ := tasks_enter htask
    · obtain ⟨c, hc⟩ := hlinked
      cases hc
    · exact hp.linked n task hold hlinked

/-- What a run of a sane pool keeps, where each action is a sane event. -/
theorem Sane.run_induction {I : Pool σ → Prop}
    (hstart : ∀ p k engine errand, p.Sane V → I p → p.tasks k = none →
      I (p.enter k { engine, errand, rest := errand.call }))
    (hact : ∀ p k task a next, p.Sane V → I p → p.tasks k = some task →
      task.rest = .act a next → (p.event k task a).Sane V → I (p.act k task a next))
    (hwait : ∀ p ms, p.Sane V → I p → I { p with world := p.world.later ms })
    (hp : p.Sane V) (h : I p) (turns : List Turn) : (p.run turns).Sane V ∧ I (p.run turns) := by
  refine Pool.run_induction (I := fun p => p.Sane V ∧ I p) ?_ ?_ ?_ ⟨hp, h⟩ turns
  · rintro p k engine errand ⟨hp, h⟩ hfree
    exact ⟨hp.enter k engine errand, hstart p k engine errand hp h hfree⟩
  · rintro p k task a next ⟨hp, h⟩ htask hrest
    exact ⟨hp.act htask hrest, hact p k task a next hp h htask hrest (hp.event htask hrest)⟩
  · rintro p ms ⟨hp, h⟩
    exact ⟨⟨hp.sound, hp.tidy, hp.engines, hp.conduct, hp.linked⟩, hwait p ms hp h⟩

theorem Sane.run (hp : p.Sane V) (turns : List Turn) : (p.run turns).Sane V :=
  (Sane.run_induction (I := fun _ => True) (fun _ _ _ _ _ _ _ => trivial)
    (fun _ _ _ _ _ _ _ _ _ _ => trivial) (fun _ _ _ _ => trivial) hp trivial turns).1

end Pool

/-- New engines on a shared backend that nothing has been put into. -/
theorem Fleet.sane_fresh {kind : BackendKind} {w : World Fleet} (h : Vacant kind w.store)
    (configs : Nat → Once Config) : (Pool.fresh (shared kind) configs w).Sane (view kind) where
  sound := sound_of_vacant h
  tidy := View.tidy_of_look (look_of_vacant h)
  engines _ := ⟨lawful_shared kind, fun _ hl => nomatch hl⟩
  conduct _ _ htask := nomatch htask
  linked _ _ htask := nomatch htask

/-- New engines on an empty memory, at the epoch. -/
abbrev Pool.blank : Pool Fleet :=
  .fresh (Fleet.shared .memory) (fun _ => .ready (Fixture.memoryConfig "items"))
    ⟨Instant.epoch, [], {}⟩

/-- The collection of the engines of a blank pool. -/
abbrev Pool.items : CollectionRef := ⟨"fleetsim", "items"⟩

theorem Pool.vacant_blank : Fleet.Vacant .memory blank.world.store := rfl

end LeaseStore
