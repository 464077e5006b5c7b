/-
LeaseStore.Proofs.Runs.Lifecycle — the life of an engine.

An engine is made over a connector. From then on it is offered configurations,
its calls run, and in between the world goes on around it (`Session.live`).
The connector may open a backend or refuse to, and the backend may provide for
the collection or fail to, differently each time.

An engine goes through three stages (`Engine.Stage`): it has no configuration
and has done nothing; it has the first usable configuration that it was
offered, and every attempt to connect has failed; or it is linked, and the
connector is not called again. One action keeps to the stages
(`Engine.Stage.perform`), so does a call (`Engine.Stage.run`), and so does a
life (`Engine.Stage.live`).

* `engine_life_cycle` — what that comes to, for any connector and any life.
-/
import LeaseStore.Proofs.Runs.Contacts
import LeaseStore.Proofs.Runs.Refusal

namespace LeaseStore

variable {σ : Type}

/-! ## Lives -/

/-- A step in the life of an engine. -/
inductive Step (σ : Type) where
  /-- The engine is offered a configuration. -/
  | init (c : Config)
  | call (q : Request)
  /-- The world goes on around the engine. -/
  | meanwhile (f : World σ → World σ)

/-- The configuration that is offered, if it can be used. -/
def Step.usable? : Step σ → Option Config
  | init c => if c.check.isOk then some c else none
  | call _ | meanwhile _ => none

/-- The first usable configuration that is offered. -/
def Step.firstUsable (steps : List (Step σ)) : Option Config := steps.findSome? usable?

theorem Step.firstUsable_cons (step : Step σ) (steps : List (Step σ)) :
    firstUsable (step :: steps) = step.usable?.or (firstUsable steps) := by
  rw [firstUsable, List.findSome?_cons]
  cases step.usable? <;> rfl

/-- The same step where notes are taken. -/
def Step.noted : Step σ → Step (σ × List Contact)
  | init c => .init c
  | call q => .call q
  | meanwhile f => .meanwhile fun w => (f ⟨w.clock, w.draws, w.store.1⟩).noted w.store.2

namespace Session

/-- An engine that has just been made. -/
def start (k : Connector σ) (w : World σ) : Session σ := ⟨{ connector := k }, w⟩

def take (s : Session σ) : Step σ → Session σ
  | .init c => { s with engine := (s.engine.init c).2 }
  | .call q => (q.call.run s).2
  | .meanwhile f => { s with world := f s.world }

/-- A stretch of an engine's life. -/
def live (s : Session σ) (steps : List (Step σ)) : Session σ := steps.foldl take s

/-- What a step notes. -/
def contacts (s : Session σ) (step : Step σ) : List Contact :=
  ((s.noted []).take step.noted).world.store.2

/-- What a stretch of an engine's life notes. -/
def diary (s : Session σ) (steps : List (Step σ)) : List Contact :=
  ((s.noted []).live (steps.map Step.noted)).world.store.2

theorem init_noted (e : Engine σ) (c : Config) :
    e.noted.init c = ((e.init c).1, (e.init c).2.noted) := by
  obtain ⟨connector, _ | config, link, metrics⟩ := e
  · simp only [Engine.noted, Engine.init]
    cases c.check <;> rfl
  · rfl

theorem take_noted (s : Session σ) (step : Step σ) (notes : List Contact) :
    (s.noted notes).take step.noted = (s.take step).noted (notes ++ s.contacts step) := by
  cases step with
  | init c =>
    have hinit (notes : List Contact) :
        (s.noted notes).take (.init c) = (s.take (.init c)).noted notes := by
      show Session.mk (s.engine.noted.init c).2 _ = _
      rw [init_noted]
      rfl
    rw [contacts, Step.noted, hinit, hinit]
    show _ = (s.take (.init c)).noted (notes ++ [])
    rw [List.append_nil]
  | call q => exact congrArg Prod.snd (q.call.run_noted s notes)
  | meanwhile f =>
    show _ = (s.take (.meanwhile f)).noted (notes ++ [])
    rw [List.append_nil]
    rfl

/-- **Life is the same where notes are taken**, and what is noted does not
depend on what has been. Induction on the steps. -/
theorem live_noted (s : Session σ) (steps : List (Step σ)) (notes : List Contact) :
    (s.noted notes).live (steps.map Step.noted) =
      (s.live steps).noted (notes ++ s.diary steps) := by
  have hsome : ∃ new, ∀ notes, (s.noted notes).live (steps.map Step.noted) =
      (s.live steps).noted (notes ++ new) := by
    induction steps generalizing s with
    | nil => exact ⟨[], fun notes => by rw [List.append_nil]; rfl⟩
    | cons step steps ih =>
      obtain ⟨rest, hrest⟩ := ih (s.take step)
      refine ⟨s.contacts step ++ rest, fun notes => ?_⟩
      show ((s.noted notes).take step.noted).live (steps.map Step.noted) = _
      rw [take_noted, hrest, List.append_assoc]
      rfl
  obtain ⟨new, hlive⟩ := hsome
  have hnew : s.diary steps = new := by
    rw [diary, hlive]
    rfl
  rw [hlive, hnew]

theorem diary_cons (s : Session σ) (step : Step σ) (steps : List (Step σ)) :
    s.diary (step :: steps) = s.contacts step ++ (s.take step).diary steps := by
  show (((s.noted []).take step.noted).live (steps.map Step.noted)).world.store.2 = _
  rw [take_noted, live_noted]
  rfl

end Session

/-! ## What is noted of connecting -/

/-- The contact is an operation on a backend that has been connected to. -/
def Contact.IsUse : Contact → Prop
  | .opened _ _ => False
  | .asked op _ => op ≠ .ensure

/-- What is noted of an attempt to connect that fails. -/
inductive Contact.Lost (c : Config) : List Contact → Prop
  | refused (err : StoreError) : Lost c [.opened c (some err)]
  | unprovided (e : BackendError) : Lost c [.opened c none, .asked .ensure (some e)]

/-- What is noted of an attempt to connect that succeeds. -/
def Contact.won (c : Config) : List Contact := [.opened c none, .asked .ensure none]

/-- Attempts to connect, all of which have failed, and nothing else. -/
inductive Contact.Tried (c : Config) : List Contact → Prop
  | nil : Tried c []
  | lost {notes attempt : List Contact} : Tried c notes → Lost c attempt →
      Tried c (notes ++ attempt)

/-- Attempts to connect that have failed, one that has succeeded, and then
operations on the backend and nothing else. -/
def Contact.Settled (c : Config) (notes : List Contact) : Prop :=
  ∃ tried uses, Tried c tried ∧ notes = tried ++ won c ++ uses ∧ ∀ x ∈ uses, x.IsUse

/-- How far an engine has come, by the first usable configuration that it was
offered and by what it has asked. -/
inductive Engine.Stage (k : Connector σ) : Option Config → Engine σ → List Contact → Prop
  | fresh : Stage k none { connector := k } []
  | trying {c : Config} {notes : List Contact} {metrics : Metrics} : c.check = .ok () →
      Contact.Tried c notes → Stage k (some c) ⟨k, .ready c, none, metrics⟩ notes
  | settled {c : Config} {b : Backend σ} {notes : List Contact} {metrics : Metrics} :
      c.check = .ok () → Contact.Settled c notes →
      Stage k (some c) ⟨k, .ready c, some ⟨b, c.collectionRef⟩, metrics⟩ notes

open Contact

theorem Contact.Settled.append {c : Config} {notes new : List Contact} (h : Settled c notes)
    (hnew : ∀ x ∈ new, x.IsUse) : Settled c (notes ++ new) := by
  obtain ⟨tried, uses, htried, rfl, huses⟩ := h
  refine ⟨tried, uses ++ new, htried, by rw [List.append_assoc], fun x hx => ?_⟩
  rcases List.mem_append.1 hx with hx | hx
  · exact huses x hx
  · exact hnew x hx

/-- What an exchange is to a backend, is an operation on it. -/
theorem Exchange.isUse_of_mem_contacts {e : Exchange} : ∀ x ∈ e.contacts, x.IsUse := by
  obtain ⟨a, r⟩ := e
  cases a with
  | connect | now | count | pause | draw => exact fun x hx => nomatch hx
  | read | list | create | upsert | delete | health => simp [contacts, IsUse]
  | deleteWave ids =>
    intro x hx
    obtain ⟨reply, -, rfl⟩ := List.mem_map.1 hx
    exact BackendOp.noConfusion

namespace Session

variable {s : Session σ}

theorem isUse_of_heard {new : List Contact} {x : Exchange} (h : s.Heard new x.contacts) :
    ∀ y ∈ new, y.IsUse := by
  unfold Heard at h
  split at h
  · rw [h]
    exact fun y hy => nomatch hy
  · exact fun y hy => Exchange.isUse_of_mem_contacts y (h.mem_iff.1 hy)

theorem heard_of_adds {a : Action} (ha : a ≠ .connect) {new : List Contact} (h : s.Adds a new) :
    s.Heard new (Exchange.contacts ⟨a, (s.perform a).1⟩) := by
  cases a <;> first | exact absurd rfl ha | exact h

/-! ## Once there is a link -/

variable {l : Link σ}

/-- With a link, the connector is not called. -/
theorem isUse_of_adds (hl : s.engine.link = some l) {a : Action} {new : List Contact}
    (h : s.Adds a new) : ∀ x ∈ new, x.IsUse := by
  by_cases ha : a = .connect
  · subst ha
    have hattempts : s.Attempts s.connect.2 s.connect.1 new := h
    generalize s.connect.1 = reply, s.connect.2 = s' at hattempts
    cases hattempts with
    | unbound | linked => exact fun x hx => nomatch hx
    | refused _ hnone | unprovided _ hnone | won _ hnone =>
      rw [hl] at hnone
      cases hnone
  · exact isUse_of_heard (heard_of_adds ha h)

/-- Induction on the call. -/
theorem isUse_of_mem_contacts {α : Type} (hl : s.engine.link = some l) (x : Call α) :
    ∀ y ∈ x.contacts s, y.IsUse := by
  induction x generalizing s with
  | done a => exact fun y hy => nomatch hy
  | act a next ih =>
    intro y hy
    rw [Call.contacts_act] at hy
    rcases List.mem_append.1 hy with hy | hy
    · exact isUse_of_adds hl (Call.adds_contacts a s) y hy
    · exact ih _ ((s.keeps_perform a).link l hl) y hy

theorem link_take (hl : s.engine.link = some l) (step : Step σ) :
    (s.take step).engine.link = some l ∧ ∀ x ∈ s.contacts step, x.IsUse := by
  cases step with
  | init c =>
    refine ⟨?_, fun x hx => nomatch hx⟩
    show (s.engine.init c).2.link = some l
    unfold Engine.init
    split
    · exact hl
    · split <;> exact hl
  | call q => exact ⟨(q.call.keeps_run s).link l hl, isUse_of_mem_contacts hl q.call⟩
  | meanwhile f => exact ⟨hl, fun x hx => nomatch hx⟩

/-- Induction on the steps. -/
theorem link_live (hl : s.engine.link = some l) (steps : List (Step σ)) :
    (s.live steps).engine.link = some l ∧ ∀ x ∈ s.diary steps, x.IsUse := by
  induction steps generalizing s with
  | nil => exact ⟨hl, fun x hx => nomatch hx⟩
  | cons step steps ih =>
    obtain ⟨hl', hstep⟩ := link_take hl step
    obtain ⟨hlast, hrest⟩ := ih hl'
    refine ⟨hlast, fun x hx => ?_⟩
    rw [diary_cons] at hx
    rcases List.mem_append.1 hx with hx | hx
    · exact hstep x hx
    · exact hrest x hx

end Session

namespace Engine.Stage

variable {k : Connector σ} {c : Config} {first : Option Config} {notes new : List Contact}
  {e : Engine σ} {s s' : Session σ}

theorem config_eq (h : Stage k (some c) e notes) : e.config = .ready c := by
  cases h <;> rfl

theorem check_eq (h : Stage k (some c) e notes) : c.check = .ok () := by
  cases h <;> assumption

/-- Whatever has been counted, and whatever the backend has been asked if there
is a link to it. -/
theorem goesOn (h : Stage k (some c) e notes) (metrics : Metrics)
    (hnew : ∀ x ∈ new, x.IsUse) (hunlinked : e.link = none → new = []) :
    Stage k (some c) { e with metrics } (notes ++ new) := by
  cases h with
  | trying hcheck htried =>
    rw [hunlinked rfl, List.append_nil]
    exact .trying hcheck htried
  | settled hcheck hsettled => exact .settled hcheck (hsettled.append hnew)

theorem lost (h : Stage k (some c) e notes) (hl : e.link = none) (hnew : Lost c new) :
    Stage k (some c) e (notes ++ new) := by
  cases h with
  | trying hcheck htried => exact .trying hcheck (htried.lost hnew)
  | settled => cases hl

theorem won (h : Stage k (some c) e notes) (hl : e.link = none) (b : Backend σ) :
    Stage k (some c) { e with link := some ⟨b, c.collectionRef⟩ } (notes ++ Contact.won c) := by
  cases h with
  | trying hcheck htried =>
    exact .settled hcheck ⟨_, [], htried, (List.append_nil _).symm, fun x hx => nomatch hx⟩
  | settled => cases hl

/-! ## One action, one call, one life -/

/-- An attempt to connect fails and leaves the engine as it was, or settles it. -/
theorem attempts (h : Stage k (some c) s.engine notes) {reply : Except StoreError Config}
    (hattempts : s.Attempts s' reply new) : Stage k (some c) s'.engine (notes ++ new) := by
  have hconfig := h.config_eq
  cases hattempts with
  | unbound hunset _ =>
    rw [hunset] at hconfig
    cases hconfig
  | linked _ _ hs =>
    rw [hs, List.append_nil]
    exact h
  | refused hready hl hs =>
    obtain rfl := Once.ready.inj (hready.symm.trans hconfig)
    rw [hs]
    exact h.lost hl (.refused _)
  | unprovided hready hl hs =>
    obtain rfl := Once.ready.inj (hready.symm.trans hconfig)
    rw [hs]
    exact h.lost hl (.unprovided _)
  | won hready hl hs =>
    obtain rfl := Once.ready.inj (hready.symm.trans hconfig)
    rw [hs]
    exact h.won hl _

/-- One action. Only connecting changes the stage. -/
theorem perform (h : Stage k (some c) s.engine notes) {a : Action} (hadds : s.Adds a new) :
    Stage k (some c) (s.perform a).2.engine (notes ++ new) := by
  by_cases ha : a = .connect
  · subst ha
    exact h.attempts hadds
  · have hheard := Session.heard_of_adds ha hadds
    obtain ⟨metrics, hengine⟩ := Session.engine_perform (s := s) ha
    rw [hengine]
    refine h.goesOn metrics (Session.isUse_of_heard hheard) fun hl => ?_
    rw [Session.Heard, hl] at hheard
    exact hheard

/-- Induction on the call. -/
theorem run {α : Type} (h : Stage k (some c) s.engine notes) (x : Call α) :
    Stage k (some c) (x.run s).2.engine (notes ++ x.contacts s) := by
  induction x generalizing s notes with
  | done a =>
    show Stage k (some c) s.engine (notes ++ [])
    rw [List.append_nil]
    exact h
  | act a next ih =>
    rw [Call.contacts_act, ← List.append_assoc]
    exact ih _ (h.perform (Call.adds_contacts a s))

/-- An engine without a configuration refuses every call. -/
theorem run_fresh (w : World σ) (q : Request) :
    q.call.run (Session.start k w) = (q.refused .uninitialized, Session.start k w) :=
  Request.run_of_structural rfl rfl q

theorem contacts_fresh (w : World σ) (q : Request) :
    q.call.contacts (Session.start k w) = [] :=
  congrArg (·.2.world.store.2) (run_fresh (k := k.noted) (w.noted []) q)

/-- One step. -/
theorem take (h : Stage k first s.engine notes) (step : Step σ) :
    Stage k (first.or step.usable?) (s.take step).engine (notes ++ s.contacts step) := by
  obtain ⟨e, w⟩ := s
  cases step with
  | init c =>
    have hnone : Session.contacts ⟨e, w⟩ (.init c) = [] := rfl
    rw [hnone, List.append_nil]
    cases h with
    | fresh =>
      cases hcheck : c.check with
      | error err =>
        simpa [Step.usable?, Session.take, Engine.init, hcheck, Except.isOk, Except.toBool]
          using Stage.fresh
      | ok =>
        simpa [Step.usable?, Session.take, Engine.init, hcheck, Except.isOk, Except.toBool,
          Once.offer] using Stage.trying hcheck .nil
    | trying hcheck htried => exact .trying hcheck htried
    | settled hcheck hsettled => exact .settled hcheck hsettled
  | call q =>
    cases first with
    | some c => exact h.run q.call
    | none =>
      cases h
      have hcontacts : Session.contacts (Session.start k w) (.call q) = [] := contacts_fresh w q
      have htake : (Session.start k w).take (.call q) = Session.start k w :=
        congrArg Prod.snd (run_fresh w q)
      show Stage k none ((Session.start k w).take (.call q)).engine
        ([] ++ (Session.start k w).contacts (.call q))
      rw [hcontacts, htake]
      exact .fresh
  | meanwhile f =>
    show Stage k (first.or none) e (notes ++ [])
    rw [List.append_nil, Option.or_none]
    exact h

/-- Induction on the steps. -/
theorem live (h : Stage k first s.engine notes) (steps : List (Step σ)) :
    Stage k (first.or (Step.firstUsable steps)) (s.live steps).engine
      (notes ++ s.diary steps) := by
  induction steps generalizing s notes first with
  | nil =>
    show Stage k (first.or none) s.engine (notes ++ [])
    rw [List.append_nil, Option.or_none]
    exact h
  | cons step steps ih =>
    have hstep := ih (h.take step)
    rw [Option.or_assoc, List.append_assoc, ← Session.diary_cons] at hstep
    rw [Step.firstUsable_cons]
    exact hstep

end Engine.Stage

/-! ## What an engine does at each stage -/

/-- Every call begins by connecting. -/
theorem Request.exists_call_eq (q : Request) : ∃ next, q.call = .act .connect next := by
  cases q with
  | lockWithRetry id owner seconds p =>
    obtain ⟨n, hn⟩ : ∃ n, p.attempts = n + 1 :=
      Nat.exists_eq_add_one_of_ne_zero (Nat.pos_iff_ne_zero.1 (Nat.le_max_left 1 p.maxAttempts))
    rw [call, Operation.lockWithRetry, hn, Operation.retryFrom]
    exact ⟨_, rfl⟩
  | _ => exact ⟨_, rfl⟩

namespace Session

/-- The engine has no configuration. Every call reports that and does nothing,
and the first usable configuration will be taken. -/
structure Dormant (s : Session σ) : Prop where
  config : s.engine.boundConfig = .error .uninitialized
  link : s.engine.link = none
  metrics : s.engine.metrics = {}
  run : ∀ q : Request, q.call.run s = (q.refused .uninitialized, s)
  reports : ∀ q : Request, (q.refused .uninitialized).error? = some .uninitialized
  silent : ∀ q : Request, q.call.contacts s = []
  init : ∀ c, s.engine.init c = match c.check with
    | .error err => (.error (.config err), s.engine)
    | .ok () => (.ok (), { s.engine with config := .ready c })

/-- The engine is bound to a configuration for ever, whatever it is offered. -/
structure BoundTo (s : Session σ) (c : Config) : Prop where
  config : ∀ steps, (s.live steps).engine.boundConfig = .ok c
  init : ∀ c', s.engine.init c' = (.ok (), s.engine)
  connect : ∀ c', s.connect.1 = .ok c' → c' = c
  maxPending : 0 < c.maxPending

/-- No attempt to connect has succeeded, and every call makes one first. If it
fails, the engine is left as it was and the call comes to nothing, but for
attempts to lock with pauses in between, which may try again; if it succeeds,
the engine is linked and the call goes on. -/
structure Trying (s : Session σ) (c : Config) (notes : List Contact) : Prop where
  link : s.engine.link = none
  tried : Contact.Tried c notes
  fails : ∀ err s', s.connect = (.error err, s') → s'.engine = s.engine ∧
    ∃ attempt, Contact.Lost c attempt ∧ ∀ q : Request,
      (∃ rest, q.call.contacts s = attempt ++ rest) ∧
      (¬ q.Waits → q.call.contacts s = attempt ∧
        ∃ s'', q.call.run s = (q.refused err, s'') ∧ s'.Metered s'')
  succeeds : ∀ c' s', s.connect = (.ok c', s') →
    ∃ b, s'.engine.link = some ⟨b, c.collectionRef⟩ ∧ ∀ q : Request,
      (q.call.run s).2.engine.link = s'.engine.link ∧
      ∃ uses, q.call.contacts s = Contact.won c ++ uses ∧ ∀ x ∈ uses, x.IsUse

/-- An attempt to connect has succeeded. There will be no other. -/
structure Settled (s : Session σ) (c : Config) (notes : List Contact) : Prop where
  settled : Contact.Settled c notes
  lasts : ∃ b, ∀ steps, (s.live steps).engine.link = some ⟨b, c.collectionRef⟩ ∧
    ∀ x ∈ s.diary steps, x.IsUse

variable {k : Connector σ} {c : Config} {notes : List Contact} {s s' : Session σ}

theorem dormant_start (k : Connector σ) (w : World σ) : (start k w).Dormant where
  config := rfl
  link := rfl
  metrics := rfl
  run := Engine.Stage.run_fresh w
  reports := Request.error?_refused rfl
  silent := Engine.Stage.contacts_fresh w
  init c := by
    show Engine.init { connector := k } c = _
    unfold Engine.init
    cases c.check <;> rfl

theorem boundTo (h : Engine.Stage k (some c) s.engine notes) : s.BoundTo c where
  config steps := by
    have hlater : Engine.Stage k (some c) (s.live steps).engine (notes ++ s.diary steps) :=
      h.live steps
    rw [Engine.boundConfig, hlater.config_eq]
    rfl
  init c' := by rw [Engine.init, h.config_eq]
  connect c' hc' := by
    have hattempts := s.attempts_connect
    rw [hc'] at hattempts
    exact Once.ready.inj (hattempts.config.symm.trans h.config_eq)
  maxPending := Config.maxPending_pos_of_check h.check_eq

/-- An attempt that fails leaves the engine as it was. -/
theorem Attempts.lost {err : StoreError} {new : List Contact} (hready : s.engine.config = .ready c)
    (h : Attempts s s' (.error err) new) : s'.engine = s.engine ∧ Contact.Lost c new := by
  cases h with
  | unbound hunset =>
    rw [hready] at hunset
    cases hunset
  | refused hready' _ hs =>
    obtain rfl := Once.ready.inj (hready'.symm.trans hready)
    exact ⟨hs, .refused _⟩
  | unprovided hready' _ hs =>
    obtain rfl := Once.ready.inj (hready'.symm.trans hready)
    exact ⟨hs, .unprovided _⟩

/-- An attempt that succeeds links the engine. -/
theorem Attempts.wins {c' : Config} {new : List Contact} (hready : s.engine.config = .ready c)
    (hl : s.engine.link = none) (h : Attempts s s' (.ok c') new) :
    (∃ b, s'.engine.link = some ⟨b, c.collectionRef⟩) ∧ new = Contact.won c := by
  cases h with
  | linked _ hsome =>
    rw [hl] at hsome
    cases hsome
  | won hready' _ hs =>
    obtain rfl := Once.ready.inj (hready'.symm.trans hready)
    exact ⟨⟨_, congrArg Engine.link hs⟩, rfl⟩

/-- What a call notes begins with what its attempt to connect notes. -/
theorem contacts_eq_attempt_append (s : Session σ) (q : Request) :
    ∃ next : Action.connect.Reply → Call Answer, q.call = .act .connect next ∧
      q.call.contacts s = s.attempt ++ (next s.connect.1).contacts s.connect.2 := by
  obtain ⟨next, hcall⟩ := q.exists_call_eq
  exact ⟨next, hcall, by rw [hcall, Call.contacts_act]; rfl⟩

/-- A call that is refused notes its attempt to connect and nothing else. -/
theorem contacts_of_refused {err : StoreError} (hconnect : s.connect = (.error err, s'))
    {q : Request} (hq : ¬ q.Waits) : q.call.contacts s = s.attempt := by
  have hnoted : (s.noted []).connect = (.error err, s'.noted s.attempt) := by
    rw [connect_noted_nil, hconnect]
  obtain ⟨s'', hrun, ⟨metrics, rfl⟩, -⟩ := Request.run_of_refused hnoted hq
  rw [Call.contacts, hrun]
  rfl

theorem trying (hready : s.engine.config = .ready c) (hl : s.engine.link = none)
    (htried : Contact.Tried c notes) : s.Trying c notes where
  link := hl
  tried := htried
  fails err s' hconnect := by
    have hattempts := s.attempts_connect
    rw [hconnect] at hattempts
    obtain ⟨hengine, hlost⟩ := hattempts.lost hready
    refine ⟨hengine, s.attempt, hlost, fun q => ⟨?_, fun hq => ?_⟩⟩
    · obtain ⟨next, -, hcontacts⟩ := s.contacts_eq_attempt_append q
      exact ⟨_, hcontacts⟩
    · obtain ⟨s'', hrun, hmetered, -⟩ := Request.run_of_refused hconnect hq
      exact ⟨contacts_of_refused hconnect hq, s'', hrun, hmetered⟩
  succeeds c' s' hconnect := by
    have hattempts := s.attempts_connect
    rw [hconnect] at hattempts
    obtain ⟨⟨b, hl'⟩, hwon⟩ := hattempts.wins hready hl
    refine ⟨b, hl', fun q => ?_⟩
    obtain ⟨next, hcall, hcontacts⟩ := s.contacts_eq_attempt_append q
    rw [hwon, hconnect] at hcontacts
    have hrun : q.call.run s = (next (.ok c')).run s' := by
      rw [hcall, Call.run_act, show s.perform .connect = (.ok c', s') from hconnect]
    refine ⟨?_, _, hcontacts, isUse_of_mem_contacts hl' _⟩
    rw [hrun, hl']
    exact ((next (.ok c')).keeps_run s').link _ hl'

end Session

/-- **The life cycle of an engine.** Take any connector, any world, and any life:
configurations that are offered, usable or not, and calls, while the world goes
on in between. To take notes of all contacts changes nothing. Until the first
usable configuration the engine is dormant. From then on it is bound to that
configuration, and it is linked by the first attempt to connect that succeeds. -/
theorem engine_life_cycle (k : Connector σ) (w : World σ) (steps : List (Step σ)) :
    let s := (Session.start k w).live steps
    let notes := (Session.start k w).diary steps
    (Session.start k.noted (w.noted [])).live (steps.map Step.noted) = s.noted notes ∧
      match Step.firstUsable steps with
      | none => notes = [] ∧ s.Dormant
      | some c => s.BoundTo c ∧ (s.Trying c notes ∨ s.Settled c notes) := by
  have hstage : Engine.Stage k (Step.firstUsable steps) ((Session.start k w).live steps).engine
      ([] ++ (Session.start k w).diary steps) :=
    Engine.Stage.live (s := Session.start k w) .fresh steps
  rw [List.nil_append] at hstage
  refine ⟨(Session.start k w).live_noted steps [], ?_⟩
  generalize (Session.start k w).live steps = s, (Session.start k w).diary steps = notes at hstage
  obtain ⟨e, w'⟩ := s
  cases hfirst : Step.firstUsable steps with
  | none =>
    rw [hfirst] at hstage
    cases hstage
    exact ⟨rfl, Session.dormant_start k w'⟩
  | some c =>
    rw [hfirst] at hstage
    refine ⟨Session.boundTo hstage, ?_⟩
    cases hstage with
    | trying _ htried => exact .inl (Session.trying rfl rfl htried)
    | settled _ hsettled => exact .inr ⟨hsettled, _, fun steps => Session.link_live rfl steps⟩

end LeaseStore
