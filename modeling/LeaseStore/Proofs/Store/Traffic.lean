/-
LeaseStore.Proofs.Store.Traffic — requests that are counted and refused.

A request to a service of this process first enters its traffic. Either it
meets a refusal that was set for it, or it goes on with nothing changed but
the traffic (`Traffic.counted_cases`). What a backend then makes of the
answer is seen from either case.
-/
import LeaseStore.Proofs.Store.View
import LeaseStore.Service

namespace LeaseStore

namespace Traffic

/-- No refusal is set. -/
def Free (t : Traffic) : Prop := t.refusals = []

theorem free_enter {t : Traffic} (h : t.Free) (op : ServiceOp) :
    (t.enter op).1 = none ∧ (t.enter op).2.Free := by
  rw [Free] at h
  simp [enter, Free, h]

/-- A request is refused, and then a refusal was set, or it is carried out,
and then no refusal came to be set. -/
theorem counted_cases {σ α : Type} (p : Part σ Traffic) (op : ServiceOp) (f : Requesting σ α)
    (s : σ) :
    (∃ e t, ¬ (p.get s).Free ∧ counted p op f s = (.error e, p.set t s)) ∨
      ∃ t, ((p.get s).Free → t.Free) ∧ counted p op f s = f (p.set t s) := by
  rcases henter : (p.get s).enter op with ⟨refusal, t⟩
  have hfree (h : (p.get s).Free) : refusal = none ∧ t.Free := by
    have := free_enter h op
    rwa [henter] at this
  cases refusal with
  | some e =>
    refine .inl ⟨e, t, fun h => absurd (hfree h).1 (by simp), ?_⟩
    simp only [counted, henter]
  | none =>
    refine .inr ⟨t, fun h => (hfree h).2, ?_⟩
    simp only [counted, henter]

end Traffic

/-- What a backend makes of a service's answer. -/
def Backend.received {α β : Type} (f : α → Except BackendError β) :
    Except ServiceError α → Except BackendError β
  | .error e => .error e.toBackendError
  | .ok a => f a

theorem Backend.asking_eq {σ α β : Type} (request : Requesting σ α)
    (f : α → Except BackendError β) :
    Backend.asking request f = fun s => (received f (request s).1, (request s).2) := by
  funext s
  unfold Backend.asking
  rcases request s with ⟨_ | _, _⟩ <;> rfl

theorem Backend.asking_error {σ α β : Type} (request : Requesting σ α)
    {f : α → Except BackendError β} {s s' : σ} {e : ServiceError}
    (h : request s = (.error e, s')) :
    Backend.asking request f s = (.error e.toBackendError, s') := by
  simp only [Backend.asking, h]

theorem Backend.asking_ok {σ α β : Type} (request : Requesting σ α)
    {f : α → Except BackendError β} {s s' : σ} {a : α} (h : request s = (.ok a, s')) :
    Backend.asking request f s = (f a, s') := by
  simp only [Backend.asking, h]

theorem Backend.asking_congr {σ α β : Type} (request : Requesting σ α)
    {request' : Requesting σ α} {f : α → Except BackendError β} {s s' : σ}
    (h : request s = request' s') :
    Backend.asking request f s = Backend.asking request' f s' := by
  simp only [Backend.asking, h]

/-- What decodes one by one decodes as a whole. -/
theorem mapM_eq_ok {α β ε : Type} {f : α → Except ε β} {g : α → β} :
    ∀ {xs : List α}, (∀ x ∈ xs, f x = .ok (g x)) → xs.mapM f = .ok (xs.map g)
  | [], _ => rfl
  | x :: xs, h => by
      rw [List.mapM_cons, h x List.mem_cons_self,
        mapM_eq_ok fun y hy => h y (List.mem_cons_of_mem x hy)]
      rfl

end LeaseStore
