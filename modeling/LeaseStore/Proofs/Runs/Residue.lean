/-
LeaseStore.Proofs.Runs.Residue — expired records that nobody has cleaned up.

The cleanup of an expired record is done if it can be, and nothing is made of
its failure. So a store may hold any number of dead records, and another store
with the same live records holds none of them. The two are told apart by no
read, no scan and no operation on a lock.

* `Fleet.look_without` — what a fleet holds once records are removed from it.
* `expired_records_leave_no_trace` — on any of the backends, in every state
  that engines can have come to, whichever deletes fail.
-/
import LeaseStore.Proofs.Runs.Accord
import LeaseStore.Proofs.Runs.Reach

namespace LeaseStore

/-! ## Removing a record -/

/-- Where nothing is held, to do nothing is to remove. -/
theorem View.removed_of_none {σ : Type} {V : View σ} {s : σ} {c : CollectionRef} {id : String}
    (h : V.look s c id = none) : V.Removed s s c id where
  toPasses := (Same.refl s).toPasses
  look c' id' := by
    split
    case isTrue hcell => rw [V.look_of_shelf hcell.1, hcell.2, h]
    case isFalse => rfl

namespace MemoryStore

/-- The store without the record under an id. -/
def drop (s : MemoryStore) (c : CollectionRef) (id : String) : MemoryStore :=
  match s.collections[c]? with
  | none => s
  | some records => { s with collections := s.collections.insert c (records.erase id) }

theorem removed_drop (s : MemoryStore) (c : CollectionRef) (id : String) :
    view.Removed s (s.drop c id) c id := by
  unfold drop
  split
  case h_1 hnone =>
    refine View.removed_of_none ?_
    show s.get? c id = none
    rw [get?, hnone, Option.bind_none]
  case h_2 records hrecords => exact removed_erase hrecords id

theorem mint_drop (s : MemoryStore) (c : CollectionRef) (id : String) :
    (s.drop c id).mint = s.mint := by
  unfold drop
  split <;> rfl

end MemoryStore

namespace DocumentService

/-- The service without the document under an id. -/
def drop (s : DocumentService) (c : CollectionRef) (id : String) : DocumentService :=
  match s.containers[c]? with
  | none => s
  | some content =>
    { s with
      containers := s.containers.insert c
        { content with documents := content.documents.erase id } }

theorem removed_drop (s : DocumentService) (c : CollectionRef) (id : String) :
    view.Removed s (s.drop c id) c id := by
  unfold drop
  split
  case h_1 hnone =>
    refine View.removed_of_none ?_
    show (s.document? c id).bind _ = none
    rw [document?, hnone, Option.bind_none, Option.bind_none]
  case h_2 content hcontent => exact removed_erase hcontent id

theorem fate_drop (s : DocumentService) (c : CollectionRef) (id : String) :
    (s.drop c id).fate = s.fate := by
  unfold drop
  split <;> rfl

end DocumentService

namespace TableService

/-- The service without the entity of an id. -/
def drop (s : TableService) (c : CollectionRef) (id : String) : TableService :=
  match s.tables[c.collection]? with
  | none => s
  | some rows => { s with tables := s.tables.insert c.collection (rows.erase (.ofId id)) }

theorem removed_drop (s : TableService) (c : CollectionRef) (id : String) :
    view.Removed s (s.drop c id) c id := by
  unfold drop
  split
  case h_1 hnone =>
    refine View.removed_of_none ?_
    show (s.entity? c.collection (.ofId id)).bind _ = none
    rw [entity?, hnone, Option.bind_none, Option.bind_none]
  case h_2 rows hrows => exact removed_erase hrows id

theorem fate_drop (s : TableService) (c : CollectionRef) (id : String) :
    (s.drop c id).fate = s.fate := by
  unfold drop
  split <;> rfl

end TableService

namespace Fleet

/-- The fleet without the record under an id in the shared backend of a kind. -/
def drop (f : Fleet) (c : CollectionRef) (id : String) : BackendKind → Fleet
  | .memory => (memoryPart sharedMemory).set ((f.memory sharedMemory).drop c id, f.faults) f
  | .document => documentPart.set (f.documents.drop c id) f
  | .table => tablePart.set (f.tables.drop c id) f

/-- The fleet without any of these records. -/
def without (f : Fleet) (kind : BackendKind) (xs : List (CollectionRef × String)) : Fleet :=
  xs.foldl (fun f x => f.drop x.1 x.2 kind) f

theorem get_drop (f : Fleet) (c : CollectionRef) (id : String) :
    (memoryPart sharedMemory).get (f.drop c id .memory) =
      ((f.memory sharedMemory).drop c id, f.faults) :=
  get_set_memoryPart _ _ f

/-- What is dropped is removed, and nothing else is. -/
theorem removed_drop (kind : BackendKind) (f : Fleet) (c : CollectionRef) (id : String) :
    (view kind).Removed f (f.drop c id kind) c id := by
  cases kind with
  | memory =>
    have hremoved : MemoryStore.view.faulty.Removed ((memoryPart sharedMemory).get f)
        ((memoryPart sharedMemory).get (f.drop c id .memory)) c id := by
      rw [get_drop]
      exact ((f.memory sharedMemory).removed_drop c id).along (f := Prod.fst) fun h => h
    exact hremoved.along (f := (memoryPart sharedMemory).get) fun h => h
  | document => exact (f.documents.removed_drop c id).along (f := documentPart.get) fun h => h
  | table => exact (f.tables.removed_drop c id).along (f := tablePart.get) fun h => h

/-- To drop a record asks nothing of the backend. -/
theorem fate_drop (kind : BackendKind) (f : Fleet) (c : CollectionRef) (id : String) :
    fate kind (f.drop c id kind) = fate kind f := by
  cases kind with
  | memory =>
    obtain ⟨hmemory, hfaults⟩ := Prod.mk.inj (get_drop f c id)
    show (((f.drop c id .memory).memory sharedMemory).mint, (f.drop c id .memory).faults.others) = _
    rw [hmemory, hfaults, MemoryStore.mint_drop]
    rfl
  | document => exact f.documents.fate_drop c id
  | table => exact f.tables.fate_drop c id

theorem fate_without (kind : BackendKind) (f : Fleet) (xs : List (CollectionRef × String)) :
    fate kind (f.without kind xs) = fate kind f := by
  induction xs generalizing f with
  | nil => rfl
  | cons x xs ih => exact (ih _).trans (fate_drop kind f x.1 x.2)

theorem passes_without (kind : BackendKind) (f : Fleet) (xs : List (CollectionRef × String)) :
    (view kind).Passes f (f.without kind xs) := by
  induction xs generalizing f with
  | nil => exact (View.Same.refl f).toPasses
  | cons x xs ih => exact (removed_drop kind f x.1 x.2).toPasses.trans (ih _)

/-- The records named are gone, and the others are as they were. -/
theorem look_without (kind : BackendKind) (f : Fleet) (xs : List (CollectionRef × String))
    (c : CollectionRef) (id : String) :
    (view kind).look (f.without kind xs) c id =
      if ∃ x ∈ xs, (view kind).shelf c = (view kind).shelf x.1 ∧ id = x.2 then none
      else (view kind).look f c id := by
  induction xs generalizing f with
  | nil => simp [without]
  | cons x xs ih =>
    have hcons : f.without kind (x :: xs) = (f.drop x.1 x.2 kind).without kind xs := rfl
    rw [hcons, ih, (removed_drop kind f x.1 x.2).look]
    simp only [List.exists_mem_cons_iff]
    by_cases hx : (view kind).shelf c = (view kind).shelf x.1 ∧ id = x.2
    · rw [if_pos hx, ite_self, if_pos (.inl hx)]
    · rw [if_neg hx]
      simp only [hx, false_or]

/-- To remove what has expired is to clear. -/
theorem clears_without {kind : BackendKind} {f : Fleet} {xs : List (CollectionRef × String)}
    {t : Instant} (hdead : ∀ x ∈ xs, (view kind).Dead t f x.1 x.2) :
    (view kind).Clears t f (f.without kind xs) := by
  intro c id
  rw [look_without]
  split
  case isTrue hgone =>
    obtain ⟨x, hx, hshelf, rfl⟩ := hgone
    rw [(view kind).look_of_shelf hshelf]
    cases hlook : (view kind).look f x.1 x.2 with
    | none => exact .inl rfl
    | some r => exact .inr ⟨rfl, r, rfl, hdead x hx r hlook⟩
  case isFalse => exact .inl rfl

end Fleet

/-! ## Engines that have gone through incidents -/

/-- Whatever happens, the engines keep to the fate. -/
theorem Pool.fated_through {σ φ : Type} {V : View σ} {fate : σ → φ} {p : Pool σ}
    (h : ∀ k, (p.engines k).Fated V fate) (incidents : List Incident) (k : Nat) :
    ((p.through incidents).engines k).Fated V fate := by
  refine through_induction (I := fun p => ∀ k, (p.engines k).Fated V fate)
    (fun _ _ _ _ h _ => h) (fun p n task a next h _ _ k => ?_) (fun _ _ h => h) h incidents k
  show (Function.update p.engines task.engine _ k).Fated V fate
  by_cases hk : k = task.engine
  · rw [hk, Function.update_self]
    exact Session.fated_perform (s := p.session task) (h task.engine) a
  · rw [Function.update_of_ne hk]
    exact h k

namespace Fleet

/-- An engine on a fleet, and the same engine on the fleet without some expired
records, are akin; the deletes may fare differently. -/
theorem akin_without {kind : BackendKind} {e : Engine (Fleet × Outages)}
    {w : World (Fleet × Outages)} {c : CollectionRef}
    (hfit : Session.Fit (view kind).exposed c ⟨e, w⟩)
    (hfated : e.Fated (view kind).exposed fun s => (fate kind s.1, s.2.others))
    {xs : List (CollectionRef × String)}
    (hdead : ∀ x ∈ xs, (view kind).Dead w.clock w.store.1 x.1 x.2) {luck luck' : Outages}
    (hluck : luck.others = luck'.others) :
    Session.Akin (view kind).exposed (fun s => (fate kind s.1, s.2.others)) c
      ⟨e, { w with store := (w.store.1, luck) }⟩
      ⟨e, { w with store := (w.store.1.without kind xs, luck') }⟩ where
  clock := rfl
  draws := rfl
  connector := rfl
  config := rfl
  link := rfl
  fit := by
    have hpasses : (view kind).Passes w.store.1 (w.store.1.without kind xs) := passes_without ..
    exact ⟨hfit.moved hfit.sound fun _ hprovided => hprovided,
      hfit.moved (hpasses.sound hfit.sound) hpasses.provided⟩
  fated := hfated
  fate := Prod.ext (fate_without kind w.store.1 xs) hluck.symm
  live := (clears_without hdead).live

end Fleet

open Fleet in
/-- **Expired records leave no trace.** Engines share a backend of any kind, to
which nothing had been put before they began, and any of whose operations may
fail at any time. Whatever they have come to, let any expired records be
removed from the backend, or none, and let a request that reads or touches a
lock be made on one of the engines. Either way it has the same answer and takes
the same time, and the same records live afterwards, with the same tokens. All
of that holds however the deletes fare, as long as what befalls the other
operations is the same. -/
theorem expired_records_leave_no_trace (kind : BackendKind) (configs : Nat → Once Config)
    (w : World (Fleet × Outages)) (hvacant : Vacant kind w.store.1) (incidents : List Incident)
    (k : Nat) (q : Request) (hq : q.Looks) (xs : List (CollectionRef × String))
    (luck luck' : Outages) (hluck : luck.others = luck'.others) :
    let p := (Pool.fresh (shared kind).exposed configs w).through incidents
    let f := p.world.store.1
    let full := q.call.run ⟨p.engines k, { p.world with store := (f, luck) }⟩
    let cleared := q.call.run ⟨p.engines k, { p.world with store := (f.without kind xs, luck') }⟩
    (∀ x ∈ xs, (view kind).Dead p.world.clock f x.1 x.2) →
      cleared.1 = full.1 ∧ cleared.2.world.clock = full.2.world.clock ∧
        ∀ c id, (view kind).live full.2.world.clock cleared.2.world.store.1 c id =
          (view kind).live full.2.world.clock full.2.world.store.1 c id := by
  intro p f full cleared hdead
  have hable : p.Able (view kind).exposed := (able_fresh hvacant configs).through incidents
  have hfated : (p.engines k).Fated (view kind).exposed fun s => (fate kind s.1, s.2.others) :=
    Pool.fated_through (p := .fresh _ configs w)
      (fun _ => ⟨fated_exposed kind, fun _ hl => nomatch hl⟩) incidents k
  obtain ⟨c, hsuits⟩ := (p.engines k).exists_suits
  obtain ⟨hreply, hakin⟩ :=
    q.concurs hq (akin_without (hable.hosts k c hsuits) hfated hdead hluck)
  exact ⟨hreply, hakin.clock, hakin.live⟩

/-- Two records are created, and time passes until one of them has just expired. -/
def leavings : List Incident :=
  .turn (.start 0 0 (.request (.create { id := "a", expiresAt := Instant.epoch.after 1 }))) ::
    List.replicate 4 (.turn (.step 0)) ++
  .turn (.start 1 0 (.request (.create { id := "b" }))) :: List.replicate 4 (.turn (.step 1)) ++
  [.clock (Instant.epoch.after 1)]

open Fleet Fixture in
/-- New engines on the shared memory, after this. -/
abbrev Pool.littered : Pool (Fleet × Outages) :=
  (Pool.fresh (shared .memory).exposed (fun _ => .ready (memoryConfig "items"))
    ⟨Instant.epoch, [], ({}, .none)⟩).through leavings

open Pool in
/-- A scan on another engine of this pool. -/
abbrev Pool.litteredScan (store : Fleet × Outages) : Answer × Session (Fleet × Outages) :=
  Request.getAll.call.run ⟨littered.engines 1, { littered.world with store }⟩

open Fleet Fixture Pool in
/-- The expired record outlasts the scan, for it cannot be deleted, but the scan
lists what it lists when the record is gone. -/
theorem expired_records_leave_no_trace_litter :
    let f := littered.world.store.1
    Vacant .memory {} ∧ Request.getAll.Looks ∧ Outages.deletes.others = Outages.none.others ∧
      (∀ x ∈ [(items, "a")], (view .memory).Dead littered.world.clock f x.1 x.2) ∧
      (view .memory).look (litteredScan (f, .deletes)).2.world.store.1 items "a" ≠ none ∧
      (view .memory).look (f.without .memory [(items, "a")]) items "a" = none ∧
      (litteredScan (f.without .memory [(items, "a")], .none)).1 = (litteredScan (f, .deletes)).1 ∧
      (litteredScan (f, .deletes)).1 =
        .records (.ok [{ id := "b", token := "\"0000000000000001-b06c6e60\"" }]) := by
  intro f
  have hlook : (view .memory).look f items "a" =
      some { id := "a", token := "\"0000000000000000-1234f4af\"",
             expiresAt := Instant.epoch.after 1 } := by
    decide +kernel
  have hdead : ∀ x ∈ [(items, "a")], (view .memory).Dead littered.world.clock f x.1 x.2 := by
    intro x hx
    rw [List.mem_singleton.1 hx]
    exact View.dead_of_some hlook (by decide)
  have hothers : Outages.deletes.others = Outages.none.others := by
    funext op n
    cases op <;> rfl
  have hleft : (view .memory).look (litteredScan (f, .deletes)).2.world.store.1 items "a" ≠
      none := by
    decide +kernel
  have hgone : (view .memory).look (f.without .memory [(items, "a")]) items "a" = none := by
    decide +kernel
  obtain ⟨hanswer, -, -⟩ := expired_records_leave_no_trace .memory
    (fun _ => .ready (memoryConfig "items")) ⟨Instant.epoch, [], ({}, .none)⟩ rfl leavings 1 .getAll
    trivial [(items, "a")] .deletes .none hothers hdead
  exact ⟨rfl, trivial, hothers, hdead, hleft, hgone, hanswer, rfl⟩

end LeaseStore
