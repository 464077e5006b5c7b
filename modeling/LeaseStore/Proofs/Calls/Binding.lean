/-
LeaseStore.Proofs.Calls.Binding — what an engine keeps.

Whatever a call does, the engine stays bound to its configuration and keeps
its connector, and a link, once it is there, stays. The only link that an
engine ever makes is to the collection of its configuration
(`Engine.Bound`), and it is to a backend that its connector opened for that
configuration (`Engine.Opens`). An engine whose connector speaks of no record
speaks of none when it connects (`Session.connect_impersonal`).
-/
import LeaseStore.Engine
import LeaseStore.Proofs.Calls.Path

namespace LeaseStore

variable {σ : Type}

/-- An engine that is linked is linked to the collection of its configuration. -/
def Engine.Bound (e : Engine σ) : Prop :=
  ∀ l, e.link = some l → ∃ config, e.config = .ready config ∧ l.collection = config.collectionRef

/-- One engine is another, later on. -/
structure Engine.Keeps (e e' : Engine σ) : Prop where
  connector : e'.connector = e.connector
  config : e'.config = e.config
  link : ∀ l, e.link = some l → e'.link = some l
  bound : e.Bound → e'.Bound

namespace Engine.Keeps

theorem refl (e : Engine σ) : e.Keeps e := ⟨rfl, rfl, fun _ h => h, fun h => h⟩

theorem trans {e e' e'' : Engine σ} (h : e.Keeps e') (h' : e'.Keeps e'') : e.Keeps e'' :=
  ⟨h'.connector.trans h.connector, h'.config.trans h.config, fun l hl => h'.link l (h.link l hl),
    fun hb => h'.bound (h.bound hb)⟩

end Engine.Keeps

namespace Session

theorem keeps_request {α : Type} (s : Session σ) (f : Link σ → Answering σ α) :
    (s.request f).2.engine = s.engine := by
  unfold request
  split <;> rfl

theorem keeps_connect (s : Session σ) : s.engine.Keeps s.connect.2.engine := by
  unfold connect
  split
  case h_1 => exact .refl _
  case h_2 config hconfig =>
    split
    case h_1 => exact .refl _
    case h_2 hunlinked =>
      split
      case h_1 => exact .refl _
      case h_2 =>
        split
        case h_1 => exact .refl _
        case h_2 =>
          refine ⟨rfl, rfl, fun l hl => absurd (hunlinked.symm.trans hl) (by simp), ?_⟩
          rintro - l ⟨⟩
          exact ⟨config, hconfig, rfl⟩

/-- Only connecting and counting change an engine. -/
theorem engine_perform_eq {s : Session σ} {a : Action} (ha : a ≠ .connect)
    (hcount : ∀ n, a ≠ .count n) : (s.perform a).2.engine = s.engine := by
  cases a with
  | connect => exact absurd rfl ha
  | count n => exact absurd rfl (hcount n)
  | now | pause | draw => rfl
  | read | list | create | upsert | health => exact s.keeps_request _
  | delete | deleteWave =>
    simp only [perform]
    split <;> rfl

/-- Only connecting makes a link. -/
theorem engine_perform {s : Session σ} {a : Action} (ha : a ≠ .connect) :
    ∃ metrics, (s.perform a).2.engine = { s.engine with metrics } := by
  by_cases hcount : ∃ n, a = .count n
  · obtain ⟨n, rfl⟩ := hcount
    exact ⟨_, rfl⟩
  · exact ⟨s.engine.metrics, engine_perform_eq ha fun n h => hcount ⟨n, h⟩⟩

theorem keeps_perform (s : Session σ) (a : Action) : s.engine.Keeps (s.perform a).2.engine := by
  by_cases ha : a = .connect
  · subst ha
    exact s.keeps_connect
  · obtain ⟨metrics, heq⟩ := engine_perform (s := s) ha
    rw [heq]
    exact ⟨rfl, rfl, fun _ hl => hl, fun h => h⟩

end Session

/-- Induction on the call. -/
theorem Call.keeps_run {α : Type} (x : Call α) (s : Session σ) :
    s.engine.Keeps (x.run s).2.engine := by
  induction x generalizing s with
  | done a => exact .refl _
  | act a next ih => exact (s.keeps_perform a).trans (ih _ _)

/-! ## Where a link comes from -/

/-- The backend that an engine is linked to is one that its connector opens. -/
def Engine.Opened (e : Engine σ) : Prop :=
  ∀ l, e.link = some l → ∃ c s, (e.connector c s).1 = .ok l.backend

/-- A link that the later of two engines has is one that the earlier had, or
one to a backend that its connector opened for its configuration. -/
def Engine.Opens (e e' : Engine σ) : Prop :=
  ∀ l, e'.link = some l → e.link = some l ∨
    ∃ config s, e.config = .ready config ∧ (e.connector config s).1 = .ok l.backend

theorem Engine.Opened.of_opens {e e' : Engine σ} (h : e.Opened) (hkeeps : e.Keeps e')
    (hopens : e.Opens e') : e'.Opened := by
  intro l hl
  rw [hkeeps.connector]
  obtain hold | ⟨config, s, -, hnew⟩ := hopens l hl
  · exact h l hold
  · exact ⟨config, s, hnew⟩

theorem Session.opens_connect (s : Session σ) : s.engine.Opens s.connect.2.engine := by
  unfold connect
  split
  case h_1 => exact fun _ hl => .inl hl
  case h_2 config hconfig =>
    split
    case h_1 => exact fun _ hl => .inl hl
    case h_2 =>
      split
      case h_1 => exact fun _ hl => .inl hl
      case h_2 b w hopen =>
        split
        case h_1 => exact fun _ hl => .inl hl
        case h_2 =>
          rintro l ⟨⟩
          exact .inr ⟨config, s.world.store, hconfig, (Prod.mk.inj hopen).1⟩

theorem Session.opens_perform (s : Session σ) (a : Action) :
    s.engine.Opens (s.perform a).2.engine := by
  by_cases ha : a = .connect
  · subst ha
    exact s.opens_connect
  · obtain ⟨metrics, heq⟩ := engine_perform (s := s) ha
    rw [heq]
    exact fun _ hl => .inl hl

/-- Induction on the call: the engine that goes on has the same connector and
the same configuration. -/
theorem Call.opens_run {α : Type} (x : Call α) (s : Session σ) :
    s.engine.Opens (x.run s).2.engine := by
  induction x generalizing s with
  | done a => exact fun _ hl => .inl hl
  | act a next ih =>
    intro l hl
    obtain hmid | ⟨config, st, hconfig, hopen⟩ := ih (s.perform a).1 (s.perform a).2 l hl
    · exact s.opens_perform a l hmid
    · rw [(s.keeps_perform a).config] at hconfig
      rw [(s.keeps_perform a).connector] at hopen
      exact .inr ⟨config, st, hconfig, hopen⟩

/-! ## What connecting tells -/

theorem impersonal_provisioningError (c : CollectionRef) (e : BackendError) :
    (provisioningError c e).Impersonal := by
  cases e <;> trivial

/-- The connector speaks of no record, and so does the engine that calls it. -/
theorem Session.connect_impersonal {s : Session σ}
    (hconnector : ∀ config st err,
      (s.engine.connector config st).1 = .error err → err.OfConnector)
    {err : StoreError} (h : s.connect.1 = .error err) : err.Impersonal := by
  unfold connect at h
  split at h
  case h_1 =>
    obtain rfl := Except.error.inj h
    trivial
  case h_2 config _ =>
    split at h
    case h_1 => cases h
    case h_2 =>
      split at h
      case h_1 err' w hopen =>
        obtain rfl := Except.error.inj h
        exact (hconnector _ _ _ (Prod.mk.inj hopen).1).impersonal
      case h_2 =>
        split at h
        case h_1 e _ _ =>
          obtain rfl := Except.error.inj h
          exact impersonal_provisioningError _ e
        case h_2 => cases h

end LeaseStore
