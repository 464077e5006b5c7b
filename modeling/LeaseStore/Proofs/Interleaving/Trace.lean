/-
LeaseStore.Proofs.Interleaving.Trace — reading a trace.

An event may have stored a record (`Event.Stores`), or have used up the
token of the version that it replaced (`Event.Consumes`). What an event
does to one record of the store is one of three things (`Event.Sane.cell`):
the event stored it, it left it as it was, or it removed it.

A trace is read from the outside, as a list; `Pool.exists_turn_of_trace`
leads from an event of a trace back to the pool in which it happened.
-/
import LeaseStore.Proofs.Calls.Binding
import LeaseStore.Proofs.Interleaving.Pool
import Mathlib.Data.List.Induction

namespace LeaseStore

variable {σ : Type} {V : View σ}

namespace Event

/-- The record that an event has stored, as the store answered it. -/
def stored? (e : Event σ) : Option Record := e.exchange.stored?

/-- The event has stored this record where `c` holds its records. -/
def Stores (V : View σ) (e : Event σ) (c : CollectionRef) (r : Record) : Prop :=
  e.stored? = some r ∧ ∃ c', e.collection = some c' ∧ V.shelf c' = V.shelf c

/-- The event has replaced the version that carried this token. -/
def Consumes (e : Event σ) (token : String) : Prop :=
  ∃ r stored, e.exchange = ⟨.upsert r (.ifToken token), .ok stored⟩

end Event

/-! ## One record through one event -/

namespace View

theorem Deletes.look {s s' : σ} {c : CollectionRef} {id : String}
    {r : Except BackendError Unit} (h : V.Deletes s s' c id r) (c' : CollectionRef)
    (id' : String) : V.look s' c' id' = V.look s c' id' ∨ V.look s' c' id' = none := by
  cases h with
  | removed _ hrem =>
    rw [hrem.look]
    split
    case isTrue => exact .inr rfl
    case isFalse => exact .inl rfl
  | absent _ hsame => exact .inl (hsame.look c' id')
  | failed _ hsame => exact .inl (hsame.look c' id')

/-- Induction on the ids. -/
theorem DeletesAll.look {s s' : σ} {c : CollectionRef} {ids : List String}
    {rs : List (Except BackendError Unit)} (h : V.DeletesAll c s ids s' rs)
    (c' : CollectionRef) (id' : String) :
    V.look s' c' id' = V.look s c' id' ∨ V.look s' c' id' = none := by
  induction h with
  | nil => exact .inl rfl
  | cons hdel _ ih =>
    obtain hsame | hnone := ih
    · rw [hsame]
      exact hdel.look c' id'
    · exact .inr hnone

/-- A write has stored the record that it answers with, or left all as it
was. -/
theorem Writes.cell {s s' : σ} {c : CollectionRef} {r : Record} {admitted : Prop}
    {refusal : BackendError} {reply : Except BackendError Record}
    (h : V.Writes s s' c r admitted refusal reply) :
    (∃ r', reply = .ok r' ∧ r'.id = r.id ∧ V.Stored s s' c r') ∨
      (∀ r', reply ≠ .ok r') ∧ V.Same s s' := by
  cases h with
  | stored _ hst => exact .inl ⟨_, rfl, rfl, hst⟩
  | refused _ hsame => exact .inr ⟨(fun _ h => nomatch h), hsame⟩
  | failed _ hsame => exact .inr ⟨(fun _ h => nomatch h), hsame⟩

end View

namespace Event

/-- An event that does not store leaves each record or removes it. -/
theorem Sane.look_of_stored?_eq_none {e : Event σ} (he : e.Sane V) (hnone : e.stored? = none)
    (c : CollectionRef) (id : String) :
    V.look e.after.store c id = V.look e.before.store c id ∨
      V.look e.after.store c id = none := by
  have hdoes := he.does
  obtain ⟨k, errand, past, ⟨action, reply⟩, c?, before, after⟩ := e
  cases action with
  | connect => exact .inl (hdoes.2.look c id)
  | now =>
    obtain rfl : after = before := hdoes.2
    exact .inl rfl
  | read =>
    obtain ⟨_, -, -, hreads⟩ := hdoes
    exact .inl (hreads.same.look c id)
  | list =>
    obtain ⟨_, -, -, hlists⟩ := hdoes
    exact .inl (hlists.same.look c id)
  | create r | upsert r w =>
    obtain ⟨_, -, -, hwrites⟩ := hdoes
    obtain ⟨r', hreply, -⟩ | ⟨-, hsame⟩ := hwrites.cell
    · subst hreply
      cases hnone
    · exact .inl (hsame.look c id)
  | delete =>
    obtain ⟨_, -, -, hdeletes⟩ := hdoes
    exact hdeletes.look c id
  | deleteWave =>
    obtain ⟨_, -, -, hall⟩ := hdoes
    exact hall.look c id
  | health =>
    obtain ⟨_, -, -, hanswers⟩ := hdoes
    exact .inl (hanswers.same.look c id)
  | count =>
    obtain rfl : after = before := hdoes
    exact .inl rfl
  | pause d =>
    obtain rfl : after = before.later d.millisUp := hdoes
    exact .inl rfl
  | draw =>
    rw [hdoes.2]
    exact .inl rfl

/-- What an event that stores a record did: a create or an upsert, through
the collection of its engine. -/
theorem Sane.stored {e : Event σ} (he : e.Sane V) {r : Record} (h : e.stored? = some r) :
    ∃ c, e.collection = some c ∧ V.Stored e.before.store e.after.store c r ∧
      e.after.clock = e.before.clock := by
  have hdoes := he.does
  obtain ⟨k, errand, past, ⟨action, reply⟩, c?, before, after⟩ := e
  cases action with
  | create r₀ | upsert r₀ w =>
    obtain ⟨c, hc, hclock, hwrites⟩ := hdoes
    obtain ⟨r', hreply, -, hstored⟩ | ⟨hnot, -⟩ := hwrites.cell
    · subst hreply
      cases h
      exact ⟨c, hc, hstored, hclock⟩
    · cases reply with
      | error err => cases h
      | ok r' => exact absurd rfl (hnot r')
  | _ => cases h

/-- What the store has shown was held, and still is. -/
theorem Sane.look_of_shows {e : Event σ} (he : e.Sane V) {id : String} {v : Record}
    (h : e.exchange.Shows id v) :
    ∃ c, e.collection = some c ∧ V.look e.after.store c id = some v := by
  have hdoes := he.does
  generalize e.exchange = x at h hdoes
  cases h with
  | read =>
    obtain ⟨c, hc, -, hreads⟩ := hdoes
    cases hreads with
    | found hlook hsame => exact ⟨c, hc, (hsame.look c _).trans hlook⟩
  | list hmem =>
    obtain ⟨c, hc, -, hlists⟩ := hdoes
    cases hlists with
    | all hholds hsame => exact ⟨c, hc, (hsame.look c _).trans ((hholds.mem_iff _).1 hmem)⟩

/-- **One record through one event.** The event stored it, or it was not
stored and stays as it was or is gone. -/
theorem Sane.cell {e : Event σ} (he : e.Sane V) (c : CollectionRef) (id : String) :
    (∃ r, e.Stores V c r ∧ r.id = id ∧ V.look e.after.store c id = some r) ∨
      (∀ r, e.Stores V c r → r.id ≠ id) ∧
        (V.look e.after.store c id = V.look e.before.store c id ∨
          V.look e.after.store c id = none) := by
  cases hstored : e.stored? with
  | none =>
    refine .inr ⟨fun r hr => ?_, he.look_of_stored?_eq_none hstored c id⟩
    rw [hr.1] at hstored
    cases hstored
  | some r =>
    obtain ⟨c', hc', hst, -⟩ := he.stored hstored
    by_cases hcell : V.shelf c = V.shelf c' ∧ id = r.id
    · refine .inl ⟨r, ⟨hstored, c', hc', hcell.1.symm⟩, hcell.2.symm, ?_⟩
      rw [hst.look, if_pos hcell]
    · refine .inr ⟨fun r' hr' hid => hcell ?_, .inl ?_⟩
      · obtain ⟨hr', c'', hc'', hshelf⟩ := hr'
        rw [hstored] at hr'
        rw [hc'] at hc''
        cases hr'
        cases hc''
        exact ⟨hshelf.symm, hid.symm⟩
      · rw [hst.look, if_neg hcell]

end Event

/-! ## From a trace to its pools -/

namespace Pool

variable {p : Pool σ}

theorem run_append (turns turns' : List Turn) :
    p.run (turns ++ turns') = (p.run turns).run turns' := List.foldl_append

/-- Where an element stands in a list that grew by one: it is the new one, or
the new one came after it. -/
theorem concat_eq_append_cons {α : Type} {old pre post : List α} {new x : α}
    (h : old ++ [new] = pre ++ x :: post) :
    (post = [] ∧ old = pre ∧ new = x) ∨
      ∃ post', post = post' ++ [new] ∧ old = pre ++ x :: post' := by
  obtain rfl | ⟨post', y, rfl⟩ := List.eq_nil_or_concat post
  · obtain ⟨hpre, hlast⟩ := List.append_inj' h rfl
    exact .inl ⟨rfl, hpre, (List.cons.inj hlast).1⟩
  · rw [List.concat_eq_append, ← List.cons_append, ← List.append_assoc] at h
    obtain ⟨hpre, hlast⟩ := List.append_inj' h rfl
    rw [List.concat_eq_append, (List.cons.inj hlast).1]
    exact .inr ⟨post', rfl, hpre⟩

/-- A turn writes down one event at most. -/
theorem take_cases (p : Pool σ) (turn : Turn) :
    (p.take turn).trace = p.trace ∨
      ∃ k task a next, p.tasks k = some task ∧ task.rest = .act a next ∧
        p.take turn = p.act k task a next := by
  cases turn with
  | start k engine errand =>
    simp only [take, start]
    split <;> exact .inl rfl
  | wait ms => exact .inl rfl
  | step k =>
    simp only [take, step]
    split
    case h_1 => exact .inl rfl
    case h_2 task htask =>
      split
      case h_1 => exact .inl rfl
      case h_2 a next hrest => exact .inr ⟨k, task, a, next, htask, hrest, rfl⟩

/-- Every event of a trace happened in a pool that the run came through,
when the trace was what stands before it. Induction on the turns, the last
one first. -/
theorem exists_turn_of_trace (hp : p.trace = []) {turns : List Turn} {pre post : List (Event σ)}
    {e : Event σ} (h : (p.run turns).trace = pre ++ e :: post) :
    ∃ turns' k task a next, (p.run turns').trace = pre ∧
      (p.run turns').tasks k = some task ∧ task.rest = .act a next ∧
      e = (p.run turns').event k task a := by
  induction turns using List.reverseRecOn generalizing post with
  | nil =>
    rw [show p.run [] = p from rfl, hp] at h
    exact absurd h (by simp)
  | append_singleton turns turn ih =>
    rw [run_append] at h
    change ((p.run turns).take turn).trace = _ at h
    obtain hquiet | ⟨k, task, a, next, htask, hrest, hact⟩ := take_cases (p.run turns) turn
    · exact ih (hquiet ▸ h)
    · rw [hact] at h
      change (p.run turns).trace ++ [(p.run turns).event k task a] = _ at h
      obtain ⟨-, hpre, hevent⟩ | ⟨post', -, hsplit⟩ := concat_eq_append_cons h
      · exact ⟨turns, k, task, a, next, hpre, htask, hrest, hevent.symm⟩
      · exact ih hsplit

/-! ## Chronicles -/

/-- The trace tells of each task what it has done, in which order and on
which collection. -/
structure Chronicled (V : View σ) (p : Pool σ) : Prop where
  sane : ∀ e ∈ p.trace, e.Sane V
  known : ∀ e ∈ p.trace, p.tasks e.task ≠ none
  errand : ∀ e ∈ p.trace, ∀ task, p.tasks e.task = some task → e.errand = task.errand
  past : ∀ k task, p.tasks k = some task →
    task.past = ((p.trace.filter (·.task = k)).map (·.exchange)).reverse
  collection : ∀ e ∈ p.trace, ∀ task c, p.tasks e.task = some task → e.collection = some c →
    (p.engines task.engine).linked? = some c

theorem Chronicled.enter (h : p.Chronicled V) {k : Nat} (hfree : p.tasks k = none)
    (engine : Nat) (errand : Errand) :
    (p.enter k { engine, errand, rest := errand.call }).Chronicled V := by
  have hother {e : Event σ} (he : e ∈ p.trace) : e.task ≠ k := by
    intro hk
    exact h.known e he (hk ▸ hfree)
  have hold {e : Event σ} (he : e ∈ p.trace) {task : Task}
      (htask : (p.enter k { engine, errand, rest := errand.call }).tasks e.task = some task) :
      p.tasks e.task = some task := by
    obtain ⟨hk, -⟩ | ⟨-, hold⟩ := tasks_enter htask
    · exact absurd hk (hother he)
    · exact hold
  refine ⟨h.sane, ?_, ?_, ?_, ?_⟩
  · intro e he
    show Function.update p.tasks k _ e.task ≠ none
    rw [Function.update_of_ne (hother he)]
    exact h.known e he
  · intro e he task htask
    exact h.errand e he task (hold he htask)
  · intro n task htask
    obtain ⟨rfl, rfl⟩ | ⟨-, hold⟩ := tasks_enter htask
    · have hnone : p.trace.filter (·.task = n) = [] := by
        rw [List.filter_eq_nil_iff]
        intro e he
        simpa using hother he
      show [] = ((p.trace.filter (·.task = n)).map (·.exchange)).reverse
      rw [hnone]
      rfl
    · exact h.past n task hold
  · intro e he task c htask hc
    exact h.collection e he task c (hold he htask) hc

theorem Chronicled.act (hp : p.Sane V) (h : p.Chronicled V) {k : Nat} {task : Task} {a : Action}
    {next : a.Reply → Call Answer} (htask : p.tasks k = some task)
    (hrest : task.rest = .act a next) : (p.act k task a next).Chronicled V := by
  have htrace : (p.act k task a next).trace = p.trace ++ [p.event k task a] := rfl
  have hmem {e : Event σ} (he : e ∈ (p.act k task a next).trace) :
      e ∈ p.trace ∨ e = p.event k task a := by
    rw [htrace, List.mem_append, List.mem_singleton] at he
    exact he
  refine ⟨?_, ?_, ?_, ?_, ?_⟩
  · intro e he
    obtain hold | rfl := hmem he
    · exact h.sane e hold
    · exact hp.event htask hrest
  -- the event is of the task that has moved, and tells of it as it was before
  · intro e he
    show Function.update p.tasks k _ e.task ≠ none
    by_cases hk : e.task = k
    · rw [hk, Function.update_self]
      simp
    · rw [Function.update_of_ne hk]
      obtain hold | rfl := hmem he
      · exact h.known e hold
      · exact absurd rfl hk
  · intro e he task' htask'
    obtain ⟨hk, rfl⟩ | ⟨hk, htask'⟩ := tasks_act htask'
    · obtain hold | rfl := hmem he
      · exact h.errand e hold task (hk ▸ htask)
      · rfl
    · obtain hold | rfl := hmem he
      · exact h.errand e hold task' htask'
      · exact absurd rfl hk
  · intro n task' htask'
    rw [htrace, List.filter_append, List.map_append, List.reverse_append]
    obtain ⟨rfl, rfl⟩ | ⟨hn, htask'⟩ := tasks_act htask'
    · have hown : [p.event n task a].filter (·.task = n) = [p.event n task a] := by
        simp [event]
      rw [hown, ← h.past n task htask]
      rfl
    · have hnone : [p.event k task a].filter (·.task = n) = [] := by
        simp [event, Ne.symm hn]
      rw [hnone, h.past n task' htask']
      rfl
  · intro e he task' c htask' hc
    obtain ⟨hk, rfl⟩ | ⟨hk, htask'⟩ := tasks_act htask'
    · obtain hold | rfl := hmem he
      · exact hp.linked?_act htask hrest (h.collection e hold task c (hk ▸ htask) hc)
      · exact hp.linked?_act htask hrest hc
    · obtain hold | rfl := hmem he
      · exact hp.linked?_act htask hrest (h.collection e hold task' c htask' hc)
      · exact absurd rfl hk

theorem Chronicled.run (hp : p.Sane V) (h : p.Chronicled V) (turns : List Turn) :
    (p.run turns).Chronicled V :=
  (Sane.run_induction (fun _ _ engine errand _ h hfree => h.enter hfree engine errand)
    (fun _ _ _ _ _ hp h htask hrest _ => h.act hp htask hrest)
    (fun _ _ _ h => ⟨h.sane, h.known, h.errand, h.past, h.collection⟩) hp h turns).2

/-- Two exchanges of a task that followed each other, in the trace: between
the two events the task did nothing. -/
theorem exists_events_of_past {events : List (Event σ)} {k : Nat} {later earlier : List Exchange}
    {first second : Exchange}
    (h : ((events.filter (·.task = k)).map (·.exchange)).reverse =
      later ++ second :: first :: earlier) :
    ∃ pre e gap e' post, events = pre ++ e :: (gap ++ e' :: post) ∧
      e.task = k ∧ e.exchange = first ∧ e'.task = k ∧ e'.exchange = second ∧
      (∀ x ∈ gap, x.task ≠ k) ∧ ∀ x ∈ post, x.task = k → x.exchange ∈ later := by
  have hforward : (events.filter (·.task = k)).map (·.exchange) =
      earlier.reverse ++ first :: second :: later.reverse := by
    rw [← List.reverse_inj, h]
    simp
  obtain ⟨own, own', hown, -, hrest⟩ := List.map_eq_append_iff.1 hforward
  obtain ⟨e, own'', rfl, hfirst, hrest'⟩ := List.map_eq_cons_iff.1 hrest
  obtain ⟨e', rest, rfl, hsecond, hlater⟩ := List.map_eq_cons_iff.1 hrest'
  obtain ⟨pre, tail, rfl, -, htail⟩ := List.filter_eq_append_iff.1 hown
  obtain ⟨pre', tail', rfl, -, he, htail'⟩ := List.filter_eq_cons_iff.1 htail
  obtain ⟨gap, post, rfl, hgap, he', hpost⟩ := List.filter_eq_cons_iff.1 htail'
  refine ⟨pre ++ pre', e, gap, e', post, by simp, by simpa using he, hfirst, by simpa using he',
    hsecond, fun x hx => by simpa using hgap x hx, fun x hx hk => ?_⟩
  rw [← List.mem_reverse, ← hlater, ← hpost]
  exact List.mem_map.2 ⟨x, List.mem_filter.2 ⟨hx, by simpa using hk⟩, rfl⟩

/-- A pool in which nothing has happened. -/
theorem chronicled_fresh (connector : Connector σ) (configs : Nat → Once Config) (w : World σ) :
    (fresh connector configs w).Chronicled V where
  sane _ he := nomatch he
  known _ he := nomatch he
  errand _ he := nomatch he
  past _ _ htask := nomatch htask
  collection _ he := nomatch he

/-! ## Connecting -/

/-- Whatever a task does, each engine keeps what it is bound to. -/
theorem keeps_act (k : Nat) (task : Task) (a : Action) (next : a.Reply → Call Answer) (n : Nat) :
    (p.engines n).Keeps ((p.act k task a next).engines n) := by
  show Engine.Keeps _ (Function.update p.engines task.engine _ n)
  by_cases hn : n = task.engine
  · rw [hn, Function.update_self]
    exact (p.session task).keeps_perform a
  · rw [Function.update_of_ne hn]
    exact .refl _

/-- No connector speaks of a record, and no task was told of one when it
connected. -/
structure Plain (p : Pool σ) : Prop where
  connectors : ∀ n config st err,
    ((p.engines n).connector config st).1 = .error err → err.OfConnector
  past : ∀ k task, p.tasks k = some task → ConnectsPlainly task.past

theorem Plain.act (h : p.Plain) {k : Nat} {task : Task} {a : Action}
    {next : a.Reply → Call Answer} (htask : p.tasks k = some task) :
    (p.act k task a next).Plain := by
  refine ⟨fun n => ?_, fun n task' htask' => ?_⟩
  · rw [(p.keeps_act k task a next n).connector]
    exact h.connectors n
  · obtain ⟨-, rfl⟩ | ⟨-, hold⟩ := tasks_act htask'
    · intro err hmem
      obtain heq | hold := List.mem_cons.1 hmem
      · obtain ⟨rfl, hreply⟩ := Exchange.mk.inj heq
        exact Session.connect_impersonal (s := p.session task) (h.connectors task.engine)
          (eq_of_heq hreply).symm
      · exact h.past k task htask err hold
    · exact h.past n task' hold

theorem Plain.run (h : p.Plain) (turns : List Turn) : (p.run turns).Plain := by
  refine run_induction (I := Plain) ?_ (fun _ _ _ _ _ h htask _ => h.act htask)
    (fun _ _ h => ⟨h.connectors, h.past⟩) h turns
  refine fun p k engine errand h _ => ⟨h.connectors, fun n task htask => ?_⟩
  obtain ⟨-, rfl⟩ | ⟨-, hold⟩ := tasks_enter htask
  · exact fun err hmem => nomatch hmem
  · exact h.past n task hold

end Pool

end LeaseStore
