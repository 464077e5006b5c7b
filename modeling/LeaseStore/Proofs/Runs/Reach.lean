/-
LeaseStore.Proofs.Runs.Reach — what engines can have come to.

A pool goes through incidents: a turn of any of its tasks, or the clock is
set. Whatever has happened, and whichever operations have failed, each of its
engines is fit to begin another call (`Pool.Able.through`), so what is proved
of one call on a fit session holds wherever the pool can be.
-/
import LeaseStore.Proofs.Interleaving.Pool
import LeaseStore.Proofs.Runs.Session

namespace LeaseStore

variable {σ : Type} {V : View σ} {c : CollectionRef}

/-! ## Engines on one world -/

/-- The engine is bound to no other collection than this. -/
def Engine.Suits (e : Engine σ) (c : CollectionRef) : Prop :=
  ∀ config, e.config = .ready config → config.collectionRef = c

theorem Engine.exists_suits (e : Engine σ) : ∃ c, e.Suits c := by
  cases hconfig : e.config with
  | unset => exact ⟨⟨"", ""⟩, fun config h => by rw [hconfig] at h; cases h⟩
  | ready config =>
    refine ⟨config.collectionRef, fun config' h => ?_⟩
    rw [hconfig] at h
    cases h
    rfl

theorem Engine.Suits.keeps {e e' : Engine σ} (h : e'.Suits c) (hkeeps : e.Keeps e') : e.Suits c :=
  fun config hconfig => h config (hkeeps.config.trans hconfig)

/-- Every engine is fit on this world, for whatever collection it suits. -/
def World.Hosts (V : View σ) (w : World σ) (engines : Nat → Engine σ) : Prop :=
  ∀ k c, (engines k).Suits c → Session.Fit V c ⟨engines k, w⟩

namespace World.Hosts

variable {w : World σ} {engines : Nat → Engine σ}

/-- What one engine has done, the others bear. -/
theorem update (h : w.Hosts V engines) {k : Nat} {s : Session σ}
    (hkeeps : (engines k).Keeps s.engine)
    (hlasts : ∀ c, (engines k).Suits c → Session.Lasts V c ⟨engines k, w⟩ s) :
    s.world.Hosts V (Function.update engines k s.engine) := by
  intro n c hsuits
  by_cases hn : n = k
  · rw [hn, Function.update_self] at hsuits ⊢
    exact (hlasts c (hsuits.keeps hkeeps)).fit
  · rw [Function.update_of_ne hn] at hsuits ⊢
    obtain ⟨c', hsuits'⟩ := (engines k).exists_suits
    have hpasses : V.Passes w.store s.world.store := (hlasts c' hsuits').passes
    have hfit : Session.Fit V c ⟨engines n, w⟩ := h n c hsuits
    exact hfit.moved (hpasses.sound hfit.sound) hpasses.provided

theorem clock (h : w.Hosts V engines) (t : Instant) :
    World.Hosts V { w with clock := t } engines := by
  intro k c hsuits
  have hfit : Session.Fit V c ⟨engines k, w⟩ := h k c hsuits
  exact hfit.moved hfit.sound fun _ hprovided => hprovided

end World.Hosts

/-! ## Errands -/

/-- An operation that only passes its answer on runs as the operation does. -/
theorem Call.run_map {α β : Type} (x : Call α) (f : α → β) (s : Session σ) :
    (x >>= fun a => done (f a)).run s = (f (x.run s).1, (x.run s).2) := by
  rw [run_bind]
  rfl

/-- A request runs as its operation does. -/
theorem run_answer {α : Type} {x : Call α} {f : α → Answer} {s s' : Session σ} {a : α}
    (heq : x.run s = (a, s')) : (x >>= fun a => Call.done (f a)).run s = (f a, s') := by
  rw [Call.run_map, heq]

/-- An errand leads from a fit session to a fit session, and time does not run
backwards. -/
theorem Errand.lasts (e : Errand) {s : Session σ} (h : s.Fit V c) :
    s.Lasts V c (e.call.run s).2 := by
  refine (e.conduct.lasts (fun past r w hallowed => ?_) h).1
  obtain ⟨-, t, before, -, hwrites⟩ := hallowed
  exact Errand.ofToken_of_writes hwrites

/-! ## Pools -/

/-- What may happen to a pool. -/
inductive Incident where
  /-- The pool takes a turn. -/
  | turn (t : Turn)
  /-- The clock is set. -/
  | clock (t : Instant)

namespace Pool

/-- The pool after an incident. -/
def meet (p : Pool σ) : Incident → Pool σ
  | .turn t => p.take t
  | .clock t => { p with world := { p.world with clock := t } }

/-- The pool after one incident after the other. -/
def through (p : Pool σ) (incidents : List Incident) : Pool σ := incidents.foldl meet p

/-- What the incidents keep: it is kept by every errand that begins, every
action that a task has before it, and every setting of the clock. -/
theorem through_induction {I : Pool σ → Prop}
    (hstart : ∀ p k engine errand, I p → p.tasks k = none →
      I (p.enter k { engine, errand, rest := errand.call }))
    (hact : ∀ p k task a next, I p → p.tasks k = some task → task.rest = .act a next →
      I (p.act k task a next))
    (hclock : ∀ p t, I p → I { p with world := { p.world with clock := t } })
    {p : Pool σ} (h : I p) (incidents : List Incident) : I (p.through incidents) := by
  induction incidents generalizing p with
  | nil => exact h
  | cons incident incidents ih =>
    refine ih ?_
    cases incident with
    | clock t => exact hclock p t h
    | turn t => exact run_induction hstart hact (fun p _ h => hclock p _ h) h [t]

/-- Each engine is fit, and each task keeps to the rules of its errand. -/
structure Able (V : View σ) (p : Pool σ) : Prop where
  hosts : p.world.Hosts V p.engines
  conduct : ∀ k task, p.tasks k = some task →
    task.rest.Along task.errand.Allows task.errand.Earned task.past

variable {p : Pool σ}

theorem Able.act (h : p.Able V) {k : Nat} {task : Task} {a : Action}
    {next : a.Reply → Call Answer} (htask : p.tasks k = some task)
    (hrest : task.rest = .act a next) : (p.act k task a next).Able V := by
  have hkeeps : (p.engines task.engine).Keeps ((p.session task).perform a).2.engine :=
    (p.session task).keeps_perform a
  refine ⟨h.hosts.update hkeeps fun c hsuits => ?_,
    fun n task' => conduct_act h.conduct htask hrest⟩
  have hfit : (p.session task).Fit V c := h.hosts task.engine c hsuits
  refine (hfit.perform ?_).1
  rintro r w rfl
  have hconduct := h.conduct k task htask
  rw [hrest] at hconduct
  obtain ⟨-, t, before, -, hwrites⟩ := hconduct.1
  exact Errand.ofToken_of_writes hwrites

/-- **Whatever happens, the engines stay fit.** -/
theorem Able.through (h : p.Able V) (incidents : List Incident) : (p.through incidents).Able V := by
  refine through_induction (I := Able V) ?_ ?_ ?_ h incidents
  · exact fun p k engine errand h _ => ⟨h.hosts, fun n task => conduct_enter h.conduct⟩
  · exact fun p k task a next h htask hrest => h.act htask hrest
  · exact fun p t h => ⟨h.hosts.clock t, h.conduct⟩

end Pool

/-! ## Fleets -/

namespace Fleet

/-- Nothing has been put into a backend that meets outages. -/
theorem sound_exposed {kind : BackendKind} {w : World (Fleet × Outages)}
    (h : Vacant kind w.store.1) : (view kind).exposed.Sound w.store :=
  sound_of_vacant h

/-- New engines on a shared backend that meets outages are fit. -/
theorem hosts_fresh {kind : BackendKind} {w : World (Fleet × Outages)}
    (h : Vacant kind w.store.1) (configs : Nat → Once Config) :
    w.Hosts (view kind).exposed fun k =>
      { connector := (shared kind).exposed, config := configs k } :=
  fun _ _ hsuits => ⟨sound_exposed h, steady_exposed kind, hsuits, fun _ hl => nomatch hl⟩

theorem able_fresh {kind : BackendKind} {w : World (Fleet × Outages)}
    (h : Vacant kind w.store.1) (configs : Nat → Once Config) :
    (Pool.fresh (shared kind).exposed configs w).Able (view kind).exposed :=
  ⟨hosts_fresh h configs, fun _ _ htask => nomatch htask⟩

end Fleet

end LeaseStore
