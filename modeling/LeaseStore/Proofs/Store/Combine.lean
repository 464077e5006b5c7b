/-
LeaseStore.Proofs.Store.Combine — backends within larger states.

A backend is put to use within a larger state, and in memory it stands
behind planned faults. Both look at a store through a function of their
own state (`View.along`), and both keep the laws:

* `Backend.Lawful.within` — a part of a larger state, which needs of the
  part only that what was set is what one gets;
* `Backend.Lawful.faulty` — a fault makes an operation fail, which the laws
  allow as long as the fault is planned.
-/
import LeaseStore.Faults
import LeaseStore.Proofs.Store.View

namespace LeaseStore

variable {σ τ : Type}

namespace View

/-- The view of a state through a function, calm only if `Quiet` holds as
well. -/
def along (V : View τ) (f : σ → τ) (Quiet : σ → Prop) : View σ where
  shelf := V.shelf
  look s := V.look (f s)
  Unissued s := V.Unissued (f s)
  Provided s := V.Provided (f s)
  Calm s := V.Calm (f s) ∧ Quiet s
  Sound s := V.Sound (f s)
  isToken_of_unissued h := V.isToken_of_unissued h
  id_of_look h hr := V.id_of_look h hr
  look_of_shelf h := V.look_of_shelf h

variable {V : View τ} {f : σ → τ} {Quiet : σ → Prop} {s s' : σ}

theorem Passes.along (h : V.Passes (f s) (f s')) (hq : Quiet s → Quiet s') :
    (V.along f Quiet).Passes s s' where
  sound := h.sound
  calm hc := ⟨h.calm hc.1, hq hc.2⟩
  provided := h.provided
  unissued := h.unissued

theorem Same.along (h : V.Same (f s) (f s')) (hq : Quiet s → Quiet s') :
    (V.along f Quiet).Same s s' :=
  ⟨h.toPasses.along hq, h.look⟩

theorem not_calm_along {P : Prop} (h : ¬ (V.Calm (f s) ∧ P)) :
    ¬ ((V.along f Quiet).Calm s ∧ P) :=
  fun hc => h ⟨hc.1.1, hc.2⟩

theorem Ensures.along {c : CollectionRef} {reply : Except BackendError Unit}
    (h : V.Ensures (f s) (f s') c reply) (hq : Quiet s → Quiet s') :
    (V.along f Quiet).Ensures s s' c reply := by
  cases h with
  | provided hsame hprov => exact .provided (hsame.along hq) hprov
  | failed hcalm hsame => exact .failed (fun hc => hcalm hc.1) (hsame.along hq)

theorem Writes.along {c : CollectionRef} {r : Record} {admitted : Prop}
    {refusal : BackendError} {reply : Except BackendError Record}
    (h : V.Writes (f s) (f s') c r admitted refusal reply) (hq : Quiet s → Quiet s') :
    (V.along f Quiet).Writes s s' c r admitted refusal reply := by
  cases h with
  | stored hadm hst =>
    exact .stored hadm ⟨hst.toPasses.along hq, hst.fresh, hst.issued, hst.look⟩
  | refused hadm hsame => exact .refused hadm (hsame.along hq)
  | failed hcalm hsame => exact .failed (not_calm_along hcalm) (hsame.along hq)

theorem Reads.along {c : CollectionRef} {id : String} {reply : Except BackendError Record}
    (h : V.Reads (f s) (f s') c id reply) (hq : Quiet s → Quiet s') :
    (V.along f Quiet).Reads s s' c id reply := by
  cases h with
  | found hlook hsame => exact .found hlook (hsame.along hq)
  | absent hlook hsame => exact .absent hlook (hsame.along hq)
  | failed hcalm hsame => exact .failed (not_calm_along hcalm) (hsame.along hq)

theorem Removed.along {c : CollectionRef} {id : String} (h : V.Removed (f s) (f s') c id)
    (hq : Quiet s → Quiet s') : (V.along f Quiet).Removed s s' c id :=
  ⟨h.toPasses.along hq, h.look⟩

theorem Deletes.along {c : CollectionRef} {id : String} {reply : Except BackendError Unit}
    (h : V.Deletes (f s) (f s') c id reply) (hq : Quiet s → Quiet s') :
    (V.along f Quiet).Deletes s s' c id reply := by
  cases h with
  | removed hlook hrem => exact .removed hlook (hrem.along hq)
  | absent hlook hsame => exact .absent hlook (hsame.along hq)
  | failed hcalm hsame => exact .failed (not_calm_along hcalm) (hsame.along hq)

theorem Lists.along {c : CollectionRef} {reply : Except BackendError (List Record)}
    (h : V.Lists (f s) (f s') c reply) (hq : Quiet s → Quiet s') :
    (V.along f Quiet).Lists s s' c reply := by
  cases h with
  | all hholds hsame => exact .all ⟨hholds.ordered, hholds.mem_iff⟩ (hsame.along hq)
  | failed hcalm hsame => exact .failed (not_calm_along hcalm) (hsame.along hq)

theorem Answers.along {reply : Except BackendError Unit} (h : V.Answers (f s) (f s') reply)
    (hq : Quiet s → Quiet s') : (V.along f Quiet).Answers s s' reply := by
  cases h with
  | reached hsame => exact .reached (hsame.along hq)
  | failed hcalm hsame => exact .failed (fun hc => hcalm hc.1) (hsame.along hq)

end View

/-! ## A part of a larger state -/

/-- The view of a state through one of its parts. -/
def View.within (V : View τ) (p : Part σ τ) : View σ := V.along p.get fun _ => True

theorem Part.get_lift {p : Part σ τ} (hp : ∀ t s, p.get (p.set t s) = t) {α : Type}
    (f : τ → α × τ) (s : σ) : p.get (p.lift f s).2 = (f (p.get s)).2 :=
  hp _ _

theorem Backend.deleteNow_within (b : Backend τ) {p : Part σ τ}
    (hp : ∀ t s, p.get (p.set t s) = t) (c : CollectionRef) (id : String) (s : σ) :
    ((b.within p).deleteNow c id s).1 = (b.deleteNow c id (p.get s)).1 ∧
      p.get ((b.within p).deleteNow c id s).2 = (b.deleteNow c id (p.get s)).2 := by
  simp only [Backend.deleteNow, Backend.within, Part.lift, hp, and_self]

/-- A lawful backend is lawful within a larger state. -/
theorem Backend.Lawful.within {b : Backend τ} {V : View τ} (h : b.Lawful V) {p : Part σ τ}
    (hp : ∀ t s, p.get (p.set t s) = t) : (b.within p).Lawful (V.within p) where
  ensure c s hs := by
    have := h.ensure c (p.get s) hs
    rw [← Part.get_lift hp] at this
    exact this.along (f := p.get) fun q => q
  create c r s hs := by
    have := h.create c r (p.get s) hs
    rw [← Part.get_lift hp] at this
    exact this.along (f := p.get) fun q => q
  upsert c r w s hw hs := by
    have := h.upsert c r w (p.get s) hw hs
    rw [← Part.get_lift hp] at this
    exact this.along (f := p.get) fun q => q
  read c id s hs := by
    have := h.read c id (p.get s) hs
    rw [← Part.get_lift hp] at this
    exact this.along (f := p.get) fun q => q
  delay c id s := h.delay c id (p.get s)
  started c id s := by
    have := h.started c id (p.get s)
    rw [← Part.get_lift hp] at this
    exact this.along (f := p.get) fun q => q
  delete c id s hs := by
    obtain ⟨hreply, hget⟩ := b.deleteNow_within hp c id s
    have := h.delete c id (p.get s) hs
    rw [← hget] at this
    rw [hreply]
    exact this.along (f := p.get) fun q => q
  list c s hs := by
    have := h.list c (p.get s) hs
    rw [← Part.get_lift hp] at this
    exact this.along (f := p.get) fun q => q
  health s hs := by
    have := h.health (p.get s) hs
    rw [← Part.get_lift hp] at this
    exact this.along (f := p.get) fun q => q

/-! ## Planned faults -/

/-- No operation has a fault. -/
def FaultPlan.Empty (plan : FaultPlan) : Prop := ∀ point, plan.get point = none

theorem FaultPlan.empty_default : ({} : FaultPlan).Empty := by
  intro point
  cases point <;> rfl

/-- The view of a store beside a plan of faults. -/
def View.faulty (V : View σ) : View (σ × FaultPlan) := V.along Prod.fst fun s => s.2.Empty

namespace Backend

/-- An operation behind its fault either fails, and then the fault was
planned, or is carried out, and then an empty plan stays empty. -/
theorem behind_cases {α : Type} (name : String) (point : FaultPoint) (f : Answering σ α)
    (s : σ) (plan : FaultPlan) :
    (¬ plan.Empty ∧ ∃ e plan', behind name point f (s, plan) = (.error e, (s, plan'))) ∨
      ∃ plan', (plan.Empty → plan'.Empty) ∧
        behind name point f (s, plan) = ((f s).1, ((f s).2, plan')) := by
  rcases hstrike : plan.strike point with ⟨struck, plan'⟩
  have hquiet : plan.Empty → struck = false ∧ plan' = plan := by
    intro hempty
    have := FaultPlan.strike_of_get_none (hempty point)
    rw [hstrike] at this
    exact ⟨congrArg Prod.fst this, congrArg Prod.snd this⟩
  cases struck with
  | true =>
    refine .inl ⟨fun hempty => absurd (hquiet hempty).1 (by decide),
      .passing ("injected failure in " ++ name ++ " " ++ point.name), plan', ?_⟩
    simp only [behind, hstrike]
  | false =>
    refine .inr ⟨plan', fun hempty => (hquiet hempty).2 ▸ hempty, ?_⟩
    simp only [behind, hstrike]

variable {b : Backend σ} {V : View σ}

/-- A lawful backend stays lawful behind faults. -/
theorem Lawful.faulty (h : b.Lawful V) : b.faulty.Lawful V.faulty where
  ensure c := fun (s, plan) hs => (h.ensure c s hs).along (f := Prod.fst) fun q => q
  create c r := fun (s, plan) hs => (h.create c r s hs).along (f := Prod.fst) fun q => q
  upsert c r w := fun (s, plan) hw hs => by
    have hlaw := h.upsert c r w s hw hs
    obtain ⟨hplan, e, plan', heq⟩ | ⟨plan', hempty, heq⟩ :=
      behind_cases b.name .upsert (b.upsert c r w) s plan
    · rw [show b.faulty.upsert c r w (s, plan) = _ from heq]
      exact .failed (fun hc => hplan hc.1.2) ((View.Same.refl s).along fun hq => absurd hq hplan)
    · rw [show b.faulty.upsert c r w (s, plan) = _ from heq]
      exact hlaw.along hempty
  read c id := fun (s, plan) hs => by
    have hlaw := h.read c id s hs
    obtain ⟨hplan, e, plan', heq⟩ | ⟨plan', hempty, heq⟩ :=
      behind_cases b.name .read (b.read c id) s plan
    · rw [show b.faulty.read c id (s, plan) = _ from heq]
      exact .failed (fun hc => hplan hc.1.2) ((View.Same.refl s).along fun hq => absurd hq hplan)
    · rw [show b.faulty.read c id (s, plan) = _ from heq]
      exact hlaw.along hempty
  delay c id := fun (s, _) => h.delay c id s
  started c id := fun (s, plan) => (h.started c id s).along (f := Prod.fst) fun q => q
  delete c id := fun (s, plan) hs => by
    have hlaw := h.delete c id s hs
    obtain ⟨hplan, e, plan', heq⟩ | ⟨plan', hempty, heq⟩ :=
      behind_cases b.name .delete (b.startDelete c id s).1.settle (b.startDelete c id s).2 plan
    · rw [show b.faulty.deleteNow c id (s, plan) = _ from heq]
      exact .failed (fun hc => hplan hc.1.2) ((h.started c id s).along fun hq => absurd hq hplan)
    · rw [show b.faulty.deleteNow c id (s, plan) = _ from heq]
      exact hlaw.along hempty
  list c := fun (s, plan) hs => (h.list c s hs).along (f := Prod.fst) fun q => q
  health := fun (s, plan) hs => (h.health s hs).along (f := Prod.fst) fun q => q

end Backend

end LeaseStore
