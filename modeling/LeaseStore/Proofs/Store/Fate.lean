/-
LeaseStore.Proofs.Store.Fate — what is decided before an operation begins.

Besides what a store holds, two things decide what an operation comes to:
whether it is going to fail, and which token it will give. Neither is chance.
Failures are planned, and the next token follows from a count of the writes so
far. The fate of a state is what is decided in this way, deletes apart, which
may go wrong as they like. Two states of one fate may hold different records,
and yet an operation fails in both of them alike or in neither
(`View.Heeds`), and a write that succeeds in both gives the same token.

* `Fleet.fated_exposed` — the shared backends of a fleet keep to a fate,
  exposed to outages as well.
-/
import LeaseStore.Proofs.Store.Outages

namespace LeaseStore

/-! ## Plans of failures, deletes apart -/

namespace Traffic

/-- The refusals to come, of deletes apart. -/
def others (t : Traffic) : List (ServiceOp × ServiceError) := t.refusals.filter (·.1 ≠ .delete)

/-- Whether a request is refused does not depend on the refusals of deletes. -/
theorem enter_of_others {t t' : Traffic} (h : t.others = t'.others) (op : ServiceOp)
    (hop : op ≠ .delete) :
    (t.enter op).1 = (t'.enter op).1 ∧ (t.enter op).2.others = (t'.enter op).2.others := by
  have hkind (x : ServiceOp × ServiceError) (hx : x.1 = op) : x.1 ≠ .delete := hx ▸ hop
  have hfind (t : Traffic) : (t.enter op).1 = (t.others.find? (·.1 = op)).map (·.2) := by
    show (t.refusals.find? _).map _ = _
    rw [others, List.find?_filter]
    congr 2
    funext x
    simpa using hkind x
  have herase (t : Traffic) : (t.enter op).2.others = t.others.eraseP (·.1 = op) := by
    show (t.refusals.eraseP _).filter _ = _
    rw [others, List.eraseP_filter]
    congr 2
    funext x
    simpa using hkind x
  rw [hfind, hfind, herase, herase, h]
  exact ⟨rfl, rfl⟩

/-- Induction on the refusals. -/
theorem others_enter_delete (t : Traffic) : (t.enter .delete).2.others = t.others := by
  obtain ⟨requests, refusals⟩ := t
  simp only [enter, others]
  induction refusals with
  | nil => rfl
  | cons x xs ih =>
    by_cases hx : x.1 = .delete
    · simp [hx]
    · simpa [List.eraseP_cons, List.filter_cons, hx] using ih

end Traffic

namespace FaultPlan

/-- The faults of the operations other than the delete. -/
def others (p : FaultPlan) : Option PlannedFault × Option PlannedFault := (p.read, p.upsert)

theorem strike_of_others {p p' : FaultPlan} (h : p.others = p'.others) {point : FaultPoint}
    (hpoint : point ≠ .delete) :
    (p.strike point).1 = (p'.strike point).1 ∧
      (p.strike point).2.others = (p'.strike point).2.others := by
  obtain ⟨read, upsert, delete⟩ := p
  obtain ⟨read', upsert', delete'⟩ := p'
  obtain ⟨rfl, rfl⟩ := Prod.mk.inj h
  cases point with
  | delete => exact absurd rfl hpoint
  | read => cases read <;> exact ⟨rfl, rfl⟩
  | upsert => cases upsert <;> exact ⟨rfl, rfl⟩

theorem others_strike_delete (p : FaultPlan) : (p.strike .delete).2.others = p.others := by
  obtain ⟨read, upsert, delete⟩ := p
  cases delete <;> rfl

end FaultPlan

namespace Outages

/-- The outages of the operations other than the delete. -/
def others (o : Outages) : Outages := fun op n => if op = .delete then .none else o op n

theorem others_next (o : Outages) {op : BackendOp} (hop : op ≠ .delete) :
    (o.next op).others = o.others.next op := by
  funext op' n
  simp only [others, next]
  by_cases hop' : op' = op
  · simp [hop', hop]
  · simp [hop']

theorem others_next_delete (o : Outages) : (o.next .delete).others = o.others := by
  funext op' n
  by_cases hop' : op' = .delete <;> simp [others, next, hop']

theorem next_of_others {o o' : Outages} (h : o.others = o'.others) (op : BackendOp)
    (hop : op ≠ .delete) :
    o op 0 = o' op 0 ∧ (o.next op).others = (o'.next op).others := by
  have hnow := congrFun (congrFun h op) 0
  rw [others, others, if_neg hop, if_neg hop] at hnow
  exact ⟨hnow, by rw [o.others_next hop, o'.others_next hop, h]⟩

end Outages

section Lifting

variable {σ τ φ α β ε ε' : Type} {V : View σ} {fate : σ → φ} {coins : Prop}

/-! ## Operations -/

/-- The operation leaves the fate as it is. -/
def Spares (fate : σ → φ) (f : σ → α × σ) : Prop := ∀ s, fate (f s).2 = fate s

/-- The fate decides what the operation answers. -/
def Follows (fate : σ → φ) (f : σ → α × σ) : Prop :=
  ∀ s s', fate s = fate s' → (f s).1 = (f s').1 ∧ fate (f s).2 = fate (f s').2

namespace View

/-- The operation answers as if no failure was planned. -/
def Unhindered (V : View σ) (f : σ → α × σ) (s : σ) : Prop :=
  ∃ s₀, V.Same s s₀ ∧ V.Calm s₀ ∧ (f s).1 = (f s₀).1

/-- The fate after an operation is the same in either state, and if the
operation coins a token, so is the answer, as long as it succeeds in both. -/
def Even (coins : Prop) (x y : Except ε α × φ) : Prop :=
  (coins → (∃ a, x.1 = .ok a) ∧ ∃ b, y.1 = .ok b) → x.2 = y.2 ∧ (coins → x.1 = y.1)

theorem Even.of_eq {x y : Except ε α × φ}
    (h : (∃ a, x.1 = .ok a) → (∃ b, y.1 = .ok b) → x = y) : Even True x y := by
  intro hok
  obtain rfl := h (hok trivial).1 (hok trivial).2
  exact ⟨rfl, fun _ => rfl⟩

/-- In two states of one fate the operation fails alike, or it answers in both
of them as if no failure was planned. -/
def Heeds (V : View σ) (fate : σ → φ) (coins : Prop) (f : σ → Except ε α × σ) : Prop :=
  ∀ s s', fate s = fate s' →
    (∃ e, (f s).1 = .error e ∧ (f s').1 = .error e ∧ fate (f s).2 = fate (f s').2) ∨
      V.Unhindered f s ∧ V.Unhindered f s' ∧
        Even coins ((f s).1, fate (f s).2) ((f s').1, fate (f s').2)

/-- What comes of the answer comes of it in both states. -/
theorem Heeds.map {f : σ → Except ε α × σ} (h : V.Heeds fate coins f) {g : σ → Except ε' β × σ}
    (out : Except ε α → Except ε' β) (hout : ∀ e, ∃ e', out (.error e) = .error e')
    (hg : g = fun s => (out (f s).1, (f s).2)) : V.Heeds fate coins g := by
  subst hg
  have hok {x : Except ε α} (hx : ∃ b, out x = .ok b) : ∃ a, x = .ok a := by
    obtain ⟨b, hb⟩ := hx
    cases x with
    | ok a => exact ⟨a, rfl⟩
    | error e =>
      obtain ⟨e', he'⟩ := hout e
      rw [he'] at hb
      cases hb
  intro s s' hfate
  obtain ⟨e, he, he', hafter⟩ | ⟨⟨s₀, hsame, hcalm, heq⟩, ⟨s₀', hsame', hcalm', heq'⟩, heven⟩ :=
    h s s' hfate
  · obtain ⟨e', hout'⟩ := hout e
    exact .inl ⟨e', by simp only [he, hout'], by simp only [he', hout'], hafter⟩
  · refine .inr ⟨⟨s₀, hsame, hcalm, congrArg out heq⟩, ⟨s₀', hsame', hcalm', congrArg out heq'⟩,
      fun hboth => ?_⟩
    obtain ⟨hafter, hreply⟩ := heven fun hc => ⟨hok (hboth hc).1, hok (hboth hc).2⟩
    exact ⟨hafter, fun hc => congrArg out (hreply hc)⟩

end View

/-! ## Requests -/

theorem View.Heeds.asking {request : Requesting σ α} (h : V.Heeds fate coins request)
    (f : α → Except BackendError β) : V.Heeds fate coins (Backend.asking request f) :=
  h.map (Backend.received f) (fun _ => ⟨_, rfl⟩) (Backend.asking_eq request f)

theorem Spares.asking {request : Requesting σ α} (h : Spares fate request)
    (f : α → Except BackendError β) : Spares fate (Backend.asking request f) := by
  intro s
  rw [Backend.asking_eq]
  exact h s

/-- The request neither sees nor touches the traffic, and what it coins comes from
the mint. -/
structure Traffic.Ignored (p : Part σ Traffic) (mint : σ → φ) (coins : Prop)
    (f : Requesting σ α) : Prop where
  blind : ∀ t t' s, (f (p.set t s)).1 = (f (p.set t' s)).1
  spares : ∀ s, p.get (f s).2 = p.get s
  even : ∀ s s', mint s = mint s' →
    View.Even coins ((f s).1, mint (f s).2) ((f s').1, mint (f s').2)

theorem Traffic.Ignored.of_still {p : Part σ Traffic} {mint : σ → φ} {f : Requesting σ α}
    (hblind : ∀ t t' s, (f (p.set t s)).1 = (f (p.set t' s)).1) (hstill : ∀ s, (f s).2 = s) :
    Traffic.Ignored p mint False f where
  blind := hblind
  spares s := by rw [hstill]
  even s s' hmint _ := ⟨by rw [hstill, hstill, hmint], False.elim⟩

section Counted

variable {p : Part σ Traffic} (hp : ∀ t s, p.get (p.set t s) = t)
  {mint : σ → φ} (hmint : ∀ t s, mint (p.set t s) = mint s)
include hp hmint

theorem Spares.counted_delete {f : Requesting σ α}
    (h : Spares (fun s => (mint s, (p.get s).others)) f) :
    Spares (fun s => (mint s, (p.get s).others)) (Traffic.counted p .delete f) := by
  intro s
  have hothers := (p.get s).others_enter_delete
  have hset (t : Traffic) (ht : t.others = (p.get s).others) :
      (mint (p.set t s), (p.get (p.set t s)).others) = (mint s, (p.get s).others) := by
    rw [hmint, hp, ht]
  unfold Traffic.counted
  rcases henter : (p.get s).enter .delete with ⟨_ | e, t⟩ <;> rw [henter] at hothers
  · exact (h _).trans (hset t hothers)
  · exact hset t hothers

/-- Whether a request is refused depends on the traffic alone. -/
theorem View.Heeds.counted (hset : ∀ t t' s, p.set t (p.set t' s) = p.set t s)
    (hfree : ∀ t s, t.Free → V.Same s (p.set t s) ∧ V.Calm (p.set t s)) {f : Requesting σ α}
    (hf : Traffic.Ignored p mint coins f) {op : ServiceOp} (hop : op ≠ .delete) :
    V.Heeds (fun s => (mint s, (p.get s).others)) coins (Traffic.counted p op f) := by
  have hthere {s : σ} {t : Traffic} (henter : (p.get s).enter op = (none, t)) :
      V.Unhindered (Traffic.counted p op f) s := by
    obtain ⟨hsame, hcalm⟩ := hfree {} s rfl
    refine ⟨p.set {} s, hsame, hcalm, ?_⟩
    obtain ⟨t₀, hnone⟩ : ∃ t₀, Traffic.enter {} op = (none, t₀) := ⟨_, rfl⟩
    simp only [Traffic.counted, henter, hp, hnone, hset]
    exact hf.blind _ _ s
  intro s s' hfate
  obtain ⟨hm, hothers⟩ := Prod.mk.inj hfate
  obtain ⟨hrefusal, hafter⟩ := Traffic.enter_of_others hothers op hop
  rcases henter : (p.get s).enter op with ⟨refusal, t⟩
  rcases henter' : (p.get s').enter op with ⟨refusal', t'⟩
  rw [henter, henter'] at hrefusal hafter
  obtain rfl : refusal = refusal' := hrefusal
  cases refusal with
  | some e =>
    refine .inl ⟨e, ?_⟩
    simp only [Traffic.counted, henter, henter', hmint, hp, hm, hafter, and_self]
  | none =>
    refine .inr ⟨hthere henter, hthere henter', ?_⟩
    simp only [Traffic.counted, henter, henter']
    intro hok
    obtain ⟨hmint', hreply⟩ := hf.even (p.set t s) (p.set t' s') (by rw [hmint, hmint, hm]) hok
    refine ⟨Prod.ext hmint' ?_, hreply⟩
    simpa only [hf.spares, hp] using hafter

end Counted

/-! ## Backends -/

/-- A backend whose operations keep to a fate. -/
structure Backend.Fated (b : Backend σ) (V : View σ) (fate : σ → φ) : Prop where
  ensure : ∀ c, Follows fate (b.ensure c)
  read : ∀ c id, V.Heeds fate False (b.read c id)
  list : ∀ c, V.Heeds fate False (b.list c)
  started : ∀ c id, Spares fate (b.startDelete c id)
  delete : ∀ c id, Spares fate (b.deleteNow c id)
  upsert : ∀ c r w, V.Heeds fate True (b.upsert c r w)

/-- A connector that opens such backends and leaves the fate as it is. -/
structure Connector.Fated (k : Connector σ) (V : View σ) (fate : σ → φ) : Prop where
  spares : ∀ c, Spares fate (k c)
  opens : ∀ c s b, (k c s).1 = .ok b → b.Fated V fate

namespace Backend

/-! ### Within a larger state -/

section Within

variable {b : Backend τ} {W : View τ} {fate : τ → φ} {p : Part σ τ}
  (hp : ∀ t s, p.get (p.set t s) = t)
include hp

theorem heeds_lift {f : τ → Except ε α × τ} (h : W.Heeds fate coins f) :
    (W.within p).Heeds (fun s => fate (p.get s)) coins (p.lift f) := by
  have hthere {s : σ} (h : W.Unhindered f (p.get s)) : (W.within p).Unhindered (p.lift f) s := by
    obtain ⟨t₀, hsame, hcalm, heq⟩ := h
    refine ⟨p.set t₀ s, View.Same.along (f := p.get) ?_ fun q => q, ⟨?_, trivial⟩, ?_⟩
    · rwa [hp]
    · rwa [hp]
    · rw [Part.lift, Part.lift, hp]
      exact heq
  intro s s' hfate
  simp only [Part.get_lift hp]
  refine (h _ _ hfate).imp_right ?_
  rintro ⟨hs, hs', heven⟩
  exact ⟨hthere hs, hthere hs', heven⟩

theorem Fated.within (h : b.Fated W fate) :
    (b.within p).Fated (W.within p) fun s => fate (p.get s) where
  ensure c s s' hfate := by
    obtain ⟨hreply, hafter⟩ := h.ensure c _ _ hfate
    refine ⟨hreply, ?_⟩
    show fate (p.get (p.lift (b.ensure c) s).2) = fate (p.get (p.lift (b.ensure c) s').2)
    rw [Part.get_lift hp, Part.get_lift hp, hafter]
  read c id := heeds_lift hp (h.read c id)
  list c := heeds_lift hp (h.list c)
  started c id s := by
    show fate (p.get (p.lift (b.startDelete c id) s).2) = fate (p.get s)
    rw [Part.get_lift hp, h.started]
  delete c id s := by
    show fate (p.get ((b.within p).deleteNow c id s).2) = fate (p.get s)
    rw [(b.deleteNow_within hp c id s).2, h.delete]
  upsert c r w := heeds_lift hp (h.upsert c r w)

end Within

/-! ### Behind faults -/

variable {b : Backend σ}

theorem unhindered_faulty {f : σ → Except BackendError α × σ} {g : σ × FaultPlan → _} {s : σ}
    {plan : FaultPlan} (hg : (g (s, plan)).1 = (f s).1) (hg₀ : ∀ s, (g (s, {})).1 = (f s).1)
    (h : V.Unhindered f s) : V.faulty.Unhindered g (s, plan) := by
  obtain ⟨s₀, hsame, hcalm, heq⟩ := h
  refine ⟨(s₀, {}), hsame.along (f := Prod.fst) fun _ => FaultPlan.empty_default,
    ⟨hcalm, FaultPlan.empty_default⟩, ?_⟩
  rw [hg, hg₀, heq]

theorem heeds_beside {f : Answering σ α} (h : V.Heeds fate coins f) :
    V.faulty.Heeds (fun s => (fate s.1, s.2.others)) coins (beside f) := by
  rintro ⟨s, plan⟩ ⟨s', plan'⟩ hfate
  obtain ⟨hfate, hothers⟩ := Prod.mk.inj hfate
  obtain ⟨e, he, he', hafter⟩ | ⟨hs, hs', heven⟩ := h s s' hfate
  · exact .inl ⟨e, he, he', Prod.ext hafter hothers⟩
  · refine .inr ⟨unhindered_faulty rfl (fun _ => rfl) hs,
      unhindered_faulty rfl (fun _ => rfl) hs', ?_⟩
    exact fun hok => ⟨Prod.ext (heven hok).1 hothers, (heven hok).2⟩

/-- Whether an operation has a fault depends on the plan alone. -/
theorem heeds_behind {name : String} {point : FaultPoint} (hpoint : point ≠ .delete)
    {f : Answering σ α} (h : V.Heeds fate coins f) :
    V.faulty.Heeds (fun s => (fate s.1, s.2.others)) coins (behind name point f) := by
  rintro ⟨s, plan⟩ ⟨s', plan'⟩ hfate
  obtain ⟨hfate, hothers⟩ := Prod.mk.inj hfate
  obtain ⟨hstruck, hafter⟩ := FaultPlan.strike_of_others hothers hpoint
  rcases hstrike : plan.strike point with ⟨struck, next⟩
  rcases hstrike' : plan'.strike point with ⟨struck', next'⟩
  rw [hstrike, hstrike'] at hstruck hafter
  obtain rfl : struck = struck' := hstruck
  have hnext : next.others = next'.others := hafter
  have hthrough {s : σ} {plan next : FaultPlan} (hstrike : plan.strike point = (false, next)) :
      behind name point f (s, plan) = ((f s).1, ((f s).2, next)) := by
    simp only [behind, hstrike]
  have hcalm (s : σ) : behind name point f (s, {}) = ((f s).1, ((f s).2, {})) :=
    hthrough (FaultPlan.strike_of_get_none (FaultPlan.empty_default point))
  cases struck with
  | true =>
    refine .inl ⟨.passing ("injected failure in " ++ name ++ " " ++ point.name), ?_⟩
    simp only [behind, hstrike, hstrike', hfate, hnext, and_self]
  | false =>
    rw [hthrough hstrike, hthrough hstrike']
    obtain ⟨e, he, he', hafter'⟩ | ⟨hs, hs', heven⟩ := h s s' hfate
    · exact .inl ⟨e, he, he', Prod.ext hafter' hnext⟩
    · refine .inr ⟨?_, ?_, fun hok => ⟨Prod.ext (heven hok).1 hnext, (heven hok).2⟩⟩
      · exact unhindered_faulty (by rw [hthrough hstrike]) (fun s => by rw [hcalm]) hs
      · exact unhindered_faulty (by rw [hthrough hstrike']) (fun s => by rw [hcalm]) hs'

theorem Fated.faulty (h : b.Fated V fate) :
    b.faulty.Fated V.faulty fun s => (fate s.1, s.2.others) where
  ensure c := fun (s, plan) (s', plan') hfate => by
    obtain ⟨hfate, hothers⟩ := Prod.mk.inj hfate
    obtain ⟨hreply, hafter⟩ := h.ensure c s s' hfate
    exact ⟨hreply, Prod.ext hafter hothers⟩
  read c id := heeds_behind (by decide) (h.read c id)
  list c := heeds_beside (h.list c)
  started c id := fun (s, plan) => Prod.ext (h.started c id s) rfl
  delete c id := fun (s, plan) => by
    have hothers := plan.others_strike_delete
    rcases hstrike : plan.strike .delete with ⟨_ | _, next⟩ <;> rw [hstrike] at hothers
    · have heq : (b.faulty.deleteNow c id (s, plan)).2 = ((b.deleteNow c id s).2, next) := by
        simp only [Backend.deleteNow, Backend.faulty, beside, behind, hstrike]
      rw [heq]
      exact Prod.ext (h.delete c id s) hothers
    · have heq : (b.faulty.deleteNow c id (s, plan)).2 = ((b.startDelete c id s).2, next) := by
        simp only [Backend.deleteNow, Backend.faulty, beside, behind, hstrike]
      rw [heq]
      exact Prod.ext (h.started c id s) hothers
  upsert c r w := heeds_behind (by decide) (h.upsert c r w)

/-! ### Exposed to outages -/

theorem heeds_struck {op : BackendOp} (hop : op ≠ .delete) {f : Answering σ α}
    (h : V.Heeds fate coins f) :
    V.exposed.Heeds (fun s => (fate s.1, s.2.others)) coins (struck op f) := by
  rintro ⟨s, o⟩ ⟨s', o'⟩ hfate
  obtain ⟨hfate, hothers⟩ : fate s = fate s' ∧ o.others = o'.others := Prod.mk.inj hfate
  obtain ⟨hnow, hlater⟩ := Outages.next_of_others hothers op hop
  have hthrough {s : σ} {o : Outages} (h : o op 0 = none) :
      struck op f (s, o) = ((f s).1, ((f s).2, o.next op)) := by
    simp only [struck, h]
  have hthere {s : σ} {o : Outages} (ho : o op 0 = none) (h : V.Unhindered f s) :
      V.exposed.Unhindered (struck op f) (s, o) := by
    obtain ⟨s₀, hsame, hcalm, heq⟩ := h
    refine ⟨(s₀, .none), hsame.along (f := Prod.fst) fun _ _ _ _ => rfl,
      ⟨hcalm, fun _ _ _ => rfl⟩, ?_⟩
    rw [hthrough ho, hthrough rfl, heq]
  cases ho : o op 0 with
  | some e =>
    refine .inl ⟨e, ?_⟩
    have ho' := hnow.symm.trans ho
    simp only [struck, ho, ho', hfate, hlater, and_self]
  | none =>
    have ho' := hnow.symm.trans ho
    rw [hthrough ho, hthrough ho']
    obtain ⟨e, he, he', hafter⟩ | ⟨hs, hs', heven⟩ := h s s' hfate
    · exact .inl ⟨e, he, he', Prod.ext hafter hlater⟩
    · exact .inr ⟨hthere ho hs, hthere ho' hs',
        fun hok => ⟨Prod.ext (heven hok).1 hlater, (heven hok).2⟩⟩

theorem Fated.exposed (h : b.Fated V fate) :
    b.exposed.Fated V.exposed fun s => (fate s.1, s.2.others) where
  ensure c := fun (s, o) (s', o') hfate => by
    obtain ⟨hfate, hothers⟩ : fate s = fate s' ∧ o.others = o'.others := Prod.mk.inj hfate
    obtain ⟨hnow, hlater⟩ := Outages.next_of_others hothers .ensure (by decide)
    obtain ⟨hreply, hafter⟩ := h.ensure c s s' hfate
    cases ho : o .ensure 0 with
    | some e =>
      simp only [Backend.exposed, struck, ho, hnow.symm.trans ho, hfate, hlater, and_self]
    | none =>
      simp only [Backend.exposed, struck, ho, hnow.symm.trans ho, hreply, hafter, hlater, and_self]
  read c id := heeds_struck (by decide) (h.read c id)
  list c := heeds_struck (by decide) (h.list c)
  started c id := fun (s, o) => Prod.ext (h.started c id s) rfl
  delete c id := fun (s, o) => by
    obtain ⟨e, -, heq⟩ | heq :=
      struck_cases .delete (b.startDelete c id s).1.settle (b.startDelete c id s).2 o
    · rw [show b.exposed.deleteNow c id (s, o) = _ from heq]
      exact Prod.ext (h.started c id s) o.others_next_delete
    · rw [show b.exposed.deleteNow c id (s, o) = _ from heq]
      exact Prod.ext (h.delete c id s) o.others_next_delete
  upsert c r w := heeds_struck (by decide) (h.upsert c r w)

end Backend

end Lifting

/-! ## The store in memory -/

/-- The mint of a store in memory: the number of writes, and the salts. -/
def MemoryStore.mint (s : MemoryStore) : Nat × (Nat → Nat) := (s.writes, s.salt)

namespace MemoryStore

/-- No failure is planned for the store itself. -/
theorem unhindered {α : Type} {f : MemoryStore → α × MemoryStore} (s : MemoryStore) :
    view.Unhindered f s :=
  ⟨s, .refl s, trivial, rfl⟩

theorem heeds_of_spares {α : Type} {f : Answering MemoryStore α} (h : Spares mint f) :
    view.Heeds mint False f := by
  intro s s' hmint
  have hafter := (h s).trans (hmint.trans (h s').symm)
  exact .inr ⟨unhindered s, unhindered s', fun _ => ⟨hafter, False.elim⟩⟩

theorem fated : backend.Fated view mint where
  ensure c s s' hmint := by
    have hensure (s : MemoryStore) :
        (ensure c s).1 = .ok () ∧ mint (ensure c s).2 = mint s := by
      unfold ensure
      split <;> exact ⟨rfl, rfl⟩
    exact ⟨(hensure s).1.trans (hensure s').1.symm,
      (hensure s).2.trans (hmint.trans (hensure s').2.symm)⟩
  read c id := by
    refine heeds_of_spares fun s => ?_
    show mint (read c id s).2 = mint s
    unfold read
    split
    · rfl
    · split <;> rfl
  list c := by
    refine heeds_of_spares fun s => ?_
    show mint (list c s).2 = mint s
    unfold list
    split <;> rfl
  started _ _ _ := rfl
  delete c id s := by
    show mint (delete c id s).2 = mint s
    unfold delete
    split
    · rfl
    · split <;> rfl
  upsert c r w := by
    -- a write that succeeds is told by the count of the writes and the salt, and by nothing held
    have hput (s : MemoryStore) (h : ∃ a, (upsert c r w s).1 = .ok a) :
        ((upsert c r w s).1, mint (upsert c r w s).2) =
          (.ok { r with token := s.nextToken }, (s.writes + 1, s.salt)) := by
      obtain ⟨a, ha⟩ := h
      unfold upsert at ha ⊢
      cases hrecords : s.collections[c]? with
      | none =>
        simp only [hrecords] at ha
        cases ha
      | some records =>
        simp only [hrecords] at ha ⊢
        split at ha
        case isFalse => cases ha
        case isTrue hadm =>
          rw [if_pos hadm]
          rfl
    intro s s' hmint
    obtain ⟨hwrites, hsalt⟩ := Prod.mk.inj hmint
    refine .inr ⟨unhindered s, unhindered s', .of_eq fun hok hok' => ?_⟩
    refine (hput s hok).trans (.trans ?_ (hput s' hok').symm)
    rw [nextToken, nextToken, hwrites, hsalt]

end MemoryStore

/-! ## The services -/

namespace DocumentService

/-- The fate of a document database: the number of tags, and the refusals. -/
def fate (s : DocumentService) : Nat × List (ServiceOp × ServiceError) :=
  (s.tags, (trafficPart.get s).others)

theorem blind_inContainer {α : Type} {c : CollectionRef}
    {f : Container → Requesting DocumentService α}
    (h : ∀ content t t' s,
      (f content (trafficPart.set t s)).1 = (f content (trafficPart.set t' s)).1)
    (t t' : Traffic) (s : DocumentService) :
    (inContainer c f (trafficPart.set t s)).1 = (inContainer c f (trafficPart.set t' s)).1 := by
  have hcontainers (t : Traffic) : (trafficPart.set t s).containers = s.containers := rfl
  simp only [inContainer, hcontainers]
  split
  · rfl
  · exact h _ t t' s

theorem still_inContainer {α : Type} {c : CollectionRef}
    {f : Container → Requesting DocumentService α} (h : ∀ content s, (f content s).2 = s)
    (s : DocumentService) : (inContainer c f s).2 = s := by
  unfold inContainer
  split
  · rfl
  · exact h _ s

theorem ignored_write (c : CollectionRef) (r : Record)
    (check : String → Option Json → Option ServiceError) :
    Traffic.Ignored trafficPart tags True (write c r.toDocument check) where
  blind t t' s := by
    have hcontainers (t : Traffic) : (trafficPart.set t s).containers = s.containers := rfl
    have hdocument (t : Traffic) :
        (trafficPart.set t s).document? c r.id = s.document? c r.id := rfl
    rw [write_eq, write_eq, hcontainers, hcontainers, hdocument, hdocument]
    cases s.containers[c]? with
    | none => rfl
    | some => cases check r.id (s.document? c r.id) <;> rfl
  spares s := by
    rw [write_eq]
    split
    · rfl
    · split <;> rfl
  even s s' htags := by
    have hwrite (s : DocumentService) (h : ∃ doc, (write c r.toDocument check s).1 = .ok doc) :
        ((write c r.toDocument check s).1, (write c r.toDocument check s).2.tags) =
          (.ok (s.stamped r), s.tags + 1) := by
      obtain ⟨doc, hdoc⟩ := h
      have heq := write_eq c r check s
      rw [heq] at hdoc ⊢
      split at hdoc
      · cases hdoc
      · split at hdoc
        · cases hdoc
        · rfl
    refine .of_eq fun hok hok' => (hwrite s hok).trans (.trans ?_ (hwrite s' hok').symm)
    rw [stamped, stamped, htags]

/-- A request that keeps to its traffic keeps to the fate. -/
theorem heeds_counted {α : Type} {coins : Prop} {f : Requesting DocumentService α}
    (h : Traffic.Ignored trafficPart tags coins f) (op : ServiceOp) (hop : op ≠ .delete) :
    view.Heeds fate coins (Traffic.counted trafficPart op f) :=
  View.Heeds.counted (fun _ _ => rfl) (fun _ _ => rfl) (fun _ _ _ => rfl)
    (fun _ _ hfree => ⟨same_traffic fun _ => hfree, hfree⟩) h hop

/-- A database and a container are provided for, unless either is refused. -/
theorem ensure_eq (throughput : Nat) (c : CollectionRef) (s : DocumentService) :
    let database := s.traffic.enter .provision
    let container := database.2.enter .provision
    ((client.backend throughput).ensure c s).1 =
        (match database.1, container.1 with
        | some e, _ | none, some e => .error e.toBackendError
        | none, none => .ok ()) ∧
      fate ((client.backend throughput).ensure c s).2 =
        (s.tags, match database.1 with
          | some _ => database.2.others
          | none => container.2.others) := by
  intro database container
  have hdatabase : s.traffic.enter .provision = (database.1, database.2) := rfl
  have hcontainer : database.2.enter .provision = (container.1, container.2) := rfl
  generalize database.1 = refusal at hdatabase ⊢
  generalize database.2 = traffic at hdatabase hcontainer ⊢
  generalize container.1 = refusal', container.2 = traffic' at hcontainer ⊢
  have hprovided : c.database ∈
      (if c.database ∈ s.databases then s.databases else s.databases ++ [c.database]) := by
    split
    case isTrue h => exact h
    case isFalse => simp
  simp only [DocumentClient.backend, client, Traffic.counted, trafficPart, hdatabase]
  cases refusal with
  | some e => exact ⟨rfl, rfl⟩
  | none =>
    simp only [Backend.asking_eq, Traffic.counted, hcontainer]
    cases refusal' with
    | some e => exact ⟨rfl, rfl⟩
    | none =>
      simp only [hprovided, not_true_eq_false, if_false]
      by_cases hc : c ∈ s.containers <;> simp only [hc, if_true, if_false] <;> exact ⟨rfl, rfl⟩

theorem follows_ensure (throughput : Nat) (c : CollectionRef) :
    Follows fate ((client.backend throughput).ensure c) := by
  intro s s' hfate
  obtain ⟨htags, hothers⟩ := Prod.mk.inj hfate
  obtain ⟨hdatabase, hnext⟩ := Traffic.enter_of_others hothers .provision (by decide)
  obtain ⟨hcontainer, hlast⟩ := Traffic.enter_of_others hnext .provision (by decide)
  obtain ⟨hreply, hafter⟩ := ensure_eq throughput c s
  obtain ⟨hreply', hafter'⟩ := ensure_eq throughput c s'
  rw [hreply, hreply', hafter, hafter']
  simp only [trafficPart] at hdatabase hcontainer hnext hlast
  simp only [hdatabase, hcontainer, htags, hnext, hlast, and_self]

/-- The fate decides everything about the documents but what they hold. -/
theorem fated (throughput : Nat) : (client.backend throughput).Fated view fate where
  ensure := follows_ensure throughput
  read c id := by
    refine (heeds_counted (.of_still (blind_inContainer fun content t t' s => ?_)
      (still_inContainer fun content s => ?_)) .read (by decide)).asking Record.ofStored
    · unfold fetch
      split <;> rfl
    · unfold fetch
      split <;> rfl
  list c := by
    have hquery : view.Heeds fate False (client.query c DocumentClient.selectAll) := by
      refine heeds_counted (.of_still (fun t t' s => ?_) fun s => ?_) .query (by decide)
      · split
        · exact blind_inContainer
            (f := fun content s => (.ok (content.documents.toList.map (·.2)), s))
            (fun _ _ _ _ => rfl) t t' s
        · rfl
      · split
        · exact still_inContainer
            (f := fun content s => (.ok (content.documents.toList.map (·.2)), s))
            (fun _ _ => rfl) s
        · rfl
    exact hquery.asking _
  started _ _ _ := rfl
  delete c id := by
    refine (Spares.counted_delete (fun _ _ => rfl) (fun _ _ => rfl) fun s => ?_).asking .ok
    unfold inContainer
    split
    case h_1 => rfl
    case h_2 content _ =>
      by_cases hid : id ∈ content.documents
      · simp only [hid, if_true]
        rfl
      · simp only [hid, if_false]
  upsert c r w := (heeds_counted (ignored_write c r _) .upsert (by decide)).asking Record.ofStored

end DocumentService

namespace TableService

/-- The fate of a table service: the number of tags, and the refusals. -/
def fate (s : TableService) : Nat × List (ServiceOp × ServiceError) :=
  (s.tags, (trafficPart.get s).others)

theorem blind_inTable {α : Type} {table : String}
    {f : Std.ExtTreeMap TableKey TableEntity → Requesting TableService α}
    (h : ∀ rows t t' s, (f rows (trafficPart.set t s)).1 = (f rows (trafficPart.set t' s)).1)
    (t t' : Traffic) (s : TableService) :
    (inTable table f (trafficPart.set t s)).1 = (inTable table f (trafficPart.set t' s)).1 := by
  have htables (t : Traffic) : (trafficPart.set t s).tables = s.tables := rfl
  simp only [inTable, htables]
  split
  · rfl
  · exact h _ t t' s

theorem still_inTable {α : Type} {table : String}
    {f : Std.ExtTreeMap TableKey TableEntity → Requesting TableService α}
    (h : ∀ rows s, (f rows s).2 = s) (s : TableService) : (inTable table f s).2 = s := by
  unfold inTable
  split
  · rfl
  · exact h _ s

theorem ignored_write (table : String) (r : Record)
    (check : TableKey → Option TableEntity → Option ServiceError) :
    Traffic.Ignored trafficPart tags True (write table r.toEntity check) where
  blind t t' s := by
    have htables (t : Traffic) : (trafficPart.set t s).tables = s.tables := rfl
    simp only [write, inTable, htables]
    cases s.tables[table]? with
    | none => rfl
    | some rows =>
      dsimp only
      cases check r.toEntity.key rows[r.toEntity.key]? <;> rfl
  spares s := by
    unfold write inTable
    dsimp only
    split
    · rfl
    · split <;> rfl
  even s s' htags := by
    have hwrite (s : TableService) (h : ∃ e, (write table r.toEntity check s).1 = .ok e) :
        ((write table r.toEntity check s).1, (write table r.toEntity check s).2.tags) =
          (.ok (s.stamped r), s.tags + 1) := by
      obtain ⟨e, he⟩ := h
      unfold write inTable at he ⊢
      cases hrows : s.tables[table]? with
      | none =>
        simp only [hrows] at he
        cases he
      | some rows =>
        simp only [hrows] at he ⊢
        split at he
        · cases he
        · rfl
    refine .of_eq fun hok hok' => (hwrite s hok).trans (.trans ?_ (hwrite s' hok').symm)
    rw [stamped, stamped, htags]

theorem heeds_counted {α : Type} {coins : Prop} {f : Requesting TableService α}
    (h : Traffic.Ignored trafficPart tags coins f) (op : ServiceOp) (hop : op ≠ .delete) :
    view.Heeds fate coins (Traffic.counted trafficPart op f) :=
  View.Heeds.counted (fun _ _ => rfl) (fun _ _ => rfl) (fun _ _ _ => rfl)
    (fun _ _ hfree => ⟨same_traffic fun _ => hfree, hfree⟩) h hop

/-- A table is provided for, unless that is refused. -/
theorem ensure_eq (c : CollectionRef) (s : TableService) :
    (client.backend.ensure c s).1 =
        (match (s.traffic.enter .provision).1 with
        | some e => .error e.toBackendError
        | none => .ok ()) ∧
      fate (client.backend.ensure c s).2 = (s.tags, (s.traffic.enter .provision).2.others) := by
  simp only [TableClient.backend, Backend.asking_eq, client, Traffic.counted, trafficPart]
  rcases s.traffic.enter .provision with ⟨_ | e, t⟩
  · by_cases hc : c.collection ∈ s.tables <;> simp only [hc, if_true, if_false] <;>
      exact ⟨rfl, rfl⟩
  · exact ⟨rfl, rfl⟩

theorem fated : client.backend.Fated view fate where
  ensure c s s' hfate := by
    obtain ⟨htags, hothers⟩ := Prod.mk.inj hfate
    obtain ⟨hrefusal, hafter⟩ := Traffic.enter_of_others hothers .provision (by decide)
    simp only [trafficPart] at hrefusal hafter
    simp only [(ensure_eq c _).1, (ensure_eq c _).2, hrefusal, hafter, htags, and_self]
  read c id := by
    refine (heeds_counted (.of_still (blind_inTable fun rows t t' s => ?_)
      (still_inTable fun rows s => ?_)) .read (by decide)).asking Record.ofEntity
    · unfold fetch
      split <;> rfl
    · unfold fetch
      split <;> rfl
  list c := by
    have hquery : view.Heeds fate False (client.query c.collection TableClient.recordFilter) := by
      refine heeds_counted (.of_still (fun t t' s => ?_) fun s => ?_) .query (by decide)
      · split
        · rfl
        case h_2 row _ =>
          exact blind_inTable (f := fun rows s =>
            (.ok ((rows.toList.map (·.2)).filter (·.key.row = row)), s)) (fun _ _ _ _ => rfl) t t' s
      · split
        · rfl
        case h_2 row _ =>
          exact still_inTable (f := fun rows s =>
            (.ok ((rows.toList.map (·.2)).filter (·.key.row = row)), s)) (fun _ _ => rfl) s
    exact hquery.asking _
  started _ _ _ := rfl
  delete c id := by
    refine (Spares.counted_delete (fun _ _ => rfl) (fun _ _ => rfl) fun s => ?_).asking .ok
    unfold inTable
    split
    case h_1 => rfl
    case h_2 rows _ =>
      by_cases hid : TableKey.ofId id ∈ rows
      · simp only [hid, if_true]
        rfl
      · simp only [hid, if_false]
  upsert c r w := by
    refine (heeds_counted (ignored_write c.collection r (mustMatch w.token?))
      .upsert (by decide)).map (upserted w) ?_ ?_
    · intro e
      cases w <;> exact ⟨_, rfl⟩
    · exact upsert_eq client c r w

end TableService

/-! ## Fleets -/

namespace Fleet

/-- What the fate of the shared backend of a kind is made of. -/
def Fate : BackendKind → Type
  | .memory => (Nat × (Nat → Nat)) × Option PlannedFault × Option PlannedFault
  | .document | .table => Nat × List (ServiceOp × ServiceError)

/-- The fate of the shared backend of a kind. -/
def fate : (kind : BackendKind) → Fleet → Fate kind
  | .memory, f => ((f.memory sharedMemory).mint, f.faults.others)
  | .document, f => f.documents.fate
  | .table, f => f.tables.fate

theorem fated_shared (kind : BackendKind) : (shared kind).Fated (view kind) (fate kind) where
  spares c f := by rw [shared_snd]
  opens c f b h := by
    cases kind with
    | memory =>
      cases h
      exact MemoryStore.fated.faulty.within (get_set_memoryPart sharedMemory)
    | document =>
      simp only [shared, documentConnector, DocumentClient.connector] at h
      split at h
      · cases h
      · cases h
        rw [documentClient, DocumentClient.backend_within documentPart_lawful]
        exact (DocumentService.fated c.throughput).within documentPart_lawful.get_set
    | table =>
      simp only [shared, tableConnector, TableClient.connector] at h
      split at h
      · cases h
      · cases h
        rw [tableClient, TableClient.backend_within tablePart_lawful]
        exact TableService.fated.within tablePart_lawful.get_set

/-- **The shared backends keep to a fate**, exposed to outages as well. -/
theorem fated_exposed (kind : BackendKind) :
    (shared kind).exposed.Fated (view kind).exposed fun s => (fate kind s.1, s.2.others) where
  spares c := fun (f, o) => Prod.ext ((fated_shared kind).spares c f) rfl
  opens c := fun (f, _) b h => by
    have hfated := (fated_shared kind).opens c f
    cases hb : (shared kind c f).1 with
    | error err =>
      simp only [Connector.exposed, hb] at h
      cases h
    | ok b' =>
      simp only [Connector.exposed, hb] at h
      cases h
      exact (hfated b' hb).exposed

end Fleet

end LeaseStore
