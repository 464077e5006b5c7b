/-
LeaseStore.Proofs.Agreement.Backends — one run over any of the backends.

At a `Desk` calls are made one after the other, on any number of engines,
and the clock may be set to any time in between. The desk keeps the answers,
each with the counts of the engine that gave it, and the tokens issued.

* `backends_agree` — whichever kind of backend a desk stands on, the same
  orders get the same answers and the same counts, but for the names of the
  tokens: one function, which is one-to-one on them, renames those of one
  run to those of the other.
-/
import LeaseStore.Fixture
import LeaseStore.Proofs.Agreement.Bulk
import LeaseStore.Proofs.Interleaving.Pool

namespace LeaseStore

open WriteCondition (IsToken)

/-- What happens next at a desk. -/
inductive Order where
  /-- A call on an engine, to its end. -/
  | call (engine : Nat) (q : Request)
  /-- The clock is set. -/
  | clock (t : Instant)

/-- The order with the tokens of its request renamed. -/
def Order.rename (f : String → String) : Order → Order
  | call k q => .call k (q.rename f)
  | clock t => .clock t

/-- Engines on a world, and what their calls have come to so far. -/
structure Desk (σ : Type) where
  engines : Nat → Engine σ
  world : World σ
  /-- The tokens of the writes, in order. -/
  issued : List String := []
  /-- The answers in order, each with the counts of its engine by then. -/
  answers : List (Answer × Metrics) := []

namespace Desk

variable {σ τ : Type}

/-- Engines over one connector, each bound to its configuration. -/
def fresh (connector : Connector σ) (configs : Nat → Config) (w : World σ) : Desk σ where
  engines k := { connector, config := .ready (configs k) }
  world := w

/-- An engine on the world of the desk. -/
def session (d : Desk σ) (k : Nat) : Session σ := ⟨d.engines k, d.world⟩

/-- Carries out an order. -/
def take (d : Desk σ) : Order → Desk σ
  | .call k q =>
    let (a, s) := q.call.run (d.session k)
    { engines := Function.update d.engines k s.engine
      world := s.world
      issued := d.issued ++ q.call.issues (d.session k)
      answers := d.answers ++ [(a, s.engine.metrics)] }
  | .clock t => { d with world := { d.world with clock := t } }

/-- Carries out one order after the other. -/
def run (d : Desk σ) (orders : List Order) : Desk σ := orders.foldl take d

/-- The tokens of a request name no version, or were issued here. -/
def Knows (d : Desk σ) (q : Request) : Prop := ∀ t ∈ q.tokens, ¬ IsToken t ∨ t ∈ d.issued

instance (d : Desk σ) (q : Request) : Decidable (d.Knows q) :=
  inferInstanceAs (Decidable (∀ t ∈ q.tokens, ¬ IsToken t ∨ t ∈ d.issued))

/-- Every caller supplies only tokens that were issued earlier in the run. -/
def Admits : Desk σ → List Order → Prop
  | _, [] => True
  | d, .call k q :: orders => d.Knows q ∧ (d.take (.call k q)).Admits orders
  | d, .clock t :: orders => (d.take (.clock t)).Admits orders

instance decidableAdmits : (d : Desk σ) → (orders : List Order) → Decidable (d.Admits orders)
  | _, [] => .isTrue trivial
  | d, .call k q :: orders =>
    have := (d.take (.call k q)).decidableAdmits orders
    inferInstanceAs (Decidable (d.Knows q ∧ (d.take (.call k q)).Admits orders))
  | d, .clock t :: orders => (d.take (.clock t)).decidableAdmits orders

/-! ## Mirrored desks -/

/-- Two desks that have come to the same, up to the renaming. -/
structure Mirrors (V : View σ) (W : View τ) (c : CollectionRef) (ρ : Renaming)
    (d : Desk σ) (e : Desk τ) : Prop where
  sessions : ∀ k, Session.Mirrors V W c ρ (d.session k) (e.session k)
  issued : ρ.pairs.map Prod.fst = d.issued ∧ ρ.pairs.map Prod.snd = e.issued
  answers : List.Forall₂ (fun x y => x.1.Alike ρ y.1 ∧ x.2 = y.2) d.answers e.answers

variable {V : View σ} {W : View τ} {c : CollectionRef} {ρ ρ' : Renaming}
  {d : Desk σ} {e : Desk τ} {f : String → String}

/-- What a caller may supply is linked to what it is renamed to. -/
theorem Mirrors.links (h : Mirrors V W c ρ d e) (hf : ρ.Follows f) {t : String}
    (ht : ¬ IsToken t ∨ t ∈ d.issued) : ρ.Links t (f t) := by
  obtain hplain | hissued := ht
  · have hlinks : ρ.Links t t := .inr ⟨rfl, hplain⟩
    rw [hf t t hlinks]
    exact hlinks
  · rw [← h.issued.1, List.mem_map] at hissued
    obtain ⟨⟨a, b⟩, hpair, rfl⟩ := hissued
    have hlinks : ρ.Links a b := .inl hpair
    show ρ.Links a (f a)
    rw [hf a b hlinks]
    exact hlinks

/-- A call and its renamed self lead from mirrored desks to mirrored desks. -/
theorem Mirrors.call (h : Mirrors V W c ρ d e) {k : Nat} {q : Request}
    (hq : ∀ t ∈ q.tokens, ρ.Links t (f t)) :
    ∃ ρ', ρ.Within ρ' ∧
      Mirrors V W c ρ' (d.take (.call k q)) (e.take (.call k (q.rename f))) := by
  obtain ⟨ρ', halike, hgrows, hmirrors, hpasses⟩ := (h.sessions k).run_request hq
  refine ⟨ρ', hgrows.within, fun n => ?_, ⟨?_, ?_⟩, ?_⟩
  · by_cases hn : n = k
    · subst hn
      simp only [take, session, Function.update_self]
      exact hmirrors
    · simp only [take, session, Function.update_of_ne hn]
      have hold := h.sessions n
      exact ⟨hmirrors.stores, hmirrors.clock, hmirrors.draws, hold.metrics,
        ⟨hold.serves.1.passes hpasses.1, hold.serves.2.passes hpasses.2⟩, hold.linked⟩
  · rw [hgrows.here, h.issued.1]
    rfl
  · rw [hgrows.there, h.issued.2]
    rfl
  · have hold : List.Forall₂ (fun x y => x.1.Alike ρ' y.1 ∧ x.2 = y.2) d.answers e.answers :=
      h.answers.imp fun _ _ hxy => ⟨hxy.1.within hgrows.within, hxy.2⟩
    exact List.rel_append hold (.cons ⟨halike, hmirrors.metrics⟩ .nil)

/-- To set the clock on both sides keeps them mirrored. -/
theorem Mirrors.clock (h : Mirrors V W c ρ d e) (t : Instant) :
    Mirrors V W c ρ (d.take (.clock t)) (e.take (.clock t)) := by
  refine ⟨fun k => ?_, h.issued, h.answers⟩
  have hold := h.sessions k
  exact ⟨hold.stores, rfl, hold.draws, hold.metrics, hold.serves, hold.linked⟩

/-- **A whole run.** Induction on the orders: how the later ones are renamed
is settled by the calls before them. -/
theorem Mirrors.run (h : Mirrors V W c ρ d e) {orders : List Order}
    (hadmits : d.Admits orders) :
    ∃ ρ', ρ.Within ρ' ∧ ∀ f, ρ'.Follows f →
      Mirrors V W c ρ' (d.run orders) (e.run (orders.map (Order.rename f))) := by
  induction orders generalizing d e ρ with
  | nil => exact ⟨ρ, .refl ρ, fun _ _ => h⟩
  | cons order orders ih =>
    cases order with
    | clock t => exact ih (h.clock t) hadmits
    | call k q =>
      obtain ⟨hknows, hrest⟩ := hadmits
      have hlinks (t : String) (ht : t ∈ q.tokens) : ρ.Links t (ρ.apply t) :=
        h.links ρ.follows_apply (hknows t ht)
      obtain ⟨ρ', hwithin, hmid⟩ := h.call (k := k) hlinks
      obtain ⟨ρ'', hwithin', hend⟩ := ih hmid hrest
      refine ⟨ρ'', hwithin.trans hwithin', fun f hf => ?_⟩
      have hsame : q.rename f = q.rename ρ.apply := Request.rename_congr fun t ht =>
        hf.of_within (hwithin.trans hwithin') t _ (hlinks t ht)
      have hmirrors := hend f hf
      rw [← hsame] at hmirrors
      exact hmirrors

theorem Mirrors.answers_eq (h : Mirrors V W c ρ d e) (hf : ρ.Follows f) :
    e.answers = d.answers.map fun x => (x.1.rename f, x.2) := by
  have hanswers := h.answers
  generalize d.answers = xs at hanswers
  generalize e.answers = ys at hanswers
  induction hanswers with
  | nil => rfl
  | cons hxy _ ih =>
    obtain ⟨halike, hmetrics⟩ := hxy
    rw [List.map_cons, halike.rename_eq hf, hmetrics, ← ih]

theorem Mirrors.issued_eq (h : Mirrors V W c ρ d e) (hf : ρ.Follows f) :
    e.issued = d.issued.map f := by
  rw [← h.issued.1, ← h.issued.2, List.map_map]
  refine List.map_congr_left fun x hx => ?_
  obtain ⟨a, b⟩ := x
  exact (hf a b (.inl hx)).symm

end Desk

/-! ## The kinds of backends -/

namespace Fleet

/-- A run of engines on a collection may begin here: nothing has been put
into the backend of their kind, no failure is planned for it, and their
configurations lead to it. -/
structure Opens (kind : BackendKind) (c : CollectionRef) (configs : Nat → Config)
    (w : World Fleet) : Prop where
  vacant : Vacant kind w.store
  calm : (view kind).Calm w.store
  reaches : ∀ k, Reaches kind (configs k)
  collection : ∀ k, (configs k).collectionRef = c

theorem Opens.serves {kind : BackendKind} {c : CollectionRef} {configs : Nat → Config}
    {w : World Fleet} (h : Opens kind c configs w) (k : Nat) :
    Engine.Serves (view kind) c ((Desk.fresh (shared kind) configs w).engines k) w.store where
  lawful := ⟨lawful_shared kind, fun _ hl => nomatch hl⟩
  ready := ⟨configs k, rfl, h.collection k, fun s => shared_ok (h.reaches k) s⟩
  linked _ hl := nomatch hl

/-- Before the first call nothing is held on either side. -/
theorem Opens.mirrors {kind kind' : BackendKind} {c : CollectionRef}
    {configs configs' : Nat → Config} {w w' : World Fleet} (h : Opens kind c configs w)
    (h' : Opens kind' c configs' w') (hclock : w.clock = w'.clock) (hdraws : w.draws = w'.draws) :
    Desk.Mirrors (view kind) (view kind') c .empty
      (.fresh (shared kind) configs w) (.fresh (shared kind') configs' w') where
  sessions k := by
    refine ⟨⟨⟨sound_of_vacant h.vacant, sound_of_vacant h'.vacant⟩, ⟨h.calm, h'.calm⟩,
      fun id => ?_, fun a b hab => nomatch hab⟩, hclock, hdraws, rfl,
      ⟨h.serves k, h'.serves k⟩, Iff.rfl⟩
    show Option.Rel _ ((view kind).look w.store c id) ((view kind').look w'.store c id)
    rw [look_of_vacant h.vacant, look_of_vacant h'.vacant]
    exact .none
  issued := ⟨rfl, rfl⟩
  answers := .nil

end Fleet

open Fleet in
/-- **The backends agree.** Two desks stand on backends of any two kinds,
both empty and without planned failures, at the same time and with the same
random numbers to come; their engines are bound to one collection. Whatever
is ordered at the first, as long as callers supply only tokens that were
issued to the run before, there is a function that renames tokens so that the
second desk, given the renamed orders, gives the renamed answers, with the
same counts. The function is one-to-one on the tokens that the run knows, and
leaves the empty token and the wildcard as they are. -/
theorem backends_agree (kind kind' : BackendKind) (c : CollectionRef)
    (configs configs' : Nat → Config) (w w' : World Fleet) (hopens : Opens kind c configs w)
    (hopens' : Opens kind' c configs' w') (hclock : w.clock = w'.clock)
    (hdraws : w.draws = w'.draws) (orders : List Order)
    (hadmits : (Desk.fresh (shared kind) configs w).Admits orders) :
    ∃ f : String → String, (∀ t, ¬ IsToken t → f t = t) ∧
      Set.InjOn f {t | ¬ IsToken t ∨
        t ∈ ((Desk.fresh (shared kind) configs w).run orders).issued} ∧
      ((Desk.fresh (shared kind') configs' w').run (orders.map (Order.rename f))).issued =
        ((Desk.fresh (shared kind) configs w).run orders).issued.map f ∧
      ((Desk.fresh (shared kind') configs' w').run (orders.map (Order.rename f))).answers =
        ((Desk.fresh (shared kind) configs w).run orders).answers.map
          fun x => (x.1.rename f, x.2) := by
  obtain ⟨ρ, -, hrun⟩ := (hopens.mirrors hopens' hclock hdraws).run hadmits
  have hfollows := ρ.follows_apply
  have hmirrors := hrun ρ.apply hfollows
  refine ⟨ρ.apply, fun t ht => hfollows t t (.inr ⟨rfl, ht⟩), ?_, hmirrors.issued_eq hfollows,
    hmirrors.answers_eq hfollows⟩
  refine hfollows.injOn.mono fun t ht => ?_
  exact ⟨_, hmirrors.links hfollows ht⟩

/-- Two writes on the condition of one token, and a bulk delete. -/
def staleRun : List Order :=
  [.call 0 (.create { id := "a" }),
    .call 1 (.upsertWithToken { id := "a", data := "x" } "\"0000000000000000-1234f4af\""),
    .clock (Instant.epoch.after 5),
    .call 0 (.upsertWithToken { id := "a", data := "y" } "\"0000000000000000-1234f4af\""),
    .call 1 (.deleteMany ["a", "b"])]

open Fleet Fixture in
/-- New engines over the shared memory. -/
abbrev Desk.overMemory : Desk Fleet :=
  .fresh (shared .memory) (fun _ => memoryConfig "items") Pool.blank.world

/-- A configuration for the table service. -/
abbrev Fixture.tableConfig (collection : String) : Config :=
  { storageType := "table", connectionString := "TableEndpoint=https://tables", collection }

open Fleet Fixture in
/-- New engines over the table service. -/
abbrev Desk.overTables : Desk Fleet :=
  .fresh (shared .table) (fun _ => tableConfig "items") Pool.blank.world

open Fleet Fixture Desk Pool in
/-- Over tables, too, the second of the two writes is refused. -/
theorem backends_agree_stale :
    Opens .memory items (fun _ => memoryConfig "items") blank.world ∧
      Opens .table items (fun _ => tableConfig "items") blank.world ∧
      overMemory.Admits staleRun ∧
      ∃ f, Set.InjOn f {t | ¬ IsToken t ∨ t ∈ (overMemory.run staleRun).issued} ∧
        ((overTables.run (staleRun.map (Order.rename f))).answers[2]?).map Prod.fst =
          some (.record (.error (.conflict "a"))) := by
  have hopens : Opens .memory items (fun _ => memoryConfig "items") blank.world :=
    ⟨rfl, calm_of_empty FaultPlan.empty_default, fun _ => trivial, fun _ => rfl⟩
  have hreaches : Reaches .table (tableConfig "items") :=
    ⟨⟨"https://tables", none, none⟩, by decide +kernel⟩
  have hopens' : Opens .table items (fun _ => tableConfig "items") blank.world :=
    ⟨rfl, ⟨rfl, trivial⟩, fun _ => hreaches, fun _ => rfl⟩
  have hadmits : overMemory.Admits staleRun := by decide +kernel
  have hrefused : ((overMemory.run staleRun).answers[2]?).map Prod.fst =
      some (.record (.error (.conflict "a"))) := by
    rfl
  obtain ⟨f, -, hinj, -, hanswers⟩ :=
    backends_agree .memory .table items _ _ _ _ hopens hopens' rfl rfl staleRun hadmits
  refine ⟨hopens, hopens', hadmits, f, hinj, ?_⟩
  obtain ⟨x, hx, herr⟩ := Option.map_eq_some_iff.1 hrefused
  rw [hanswers, List.getElem?_map, hx, Option.map_some, Option.map_some, herr]
  rfl

end LeaseStore
