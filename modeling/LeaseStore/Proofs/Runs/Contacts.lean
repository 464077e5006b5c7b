/-
LeaseStore.Proofs.Runs.Contacts — what an engine asks, as it is asked.

A connector can be made to write down who calls it, and so can the backends
that it opens (`Connector.noted`, `Backend.noted`). The notes stand beside the
state, one `Contact` for each call, in the order in which the calls were
answered. Nothing else changes: an engine over a connector that takes notes
goes through the same sessions as one over the connector itself
(`Session.noted`), and gets the same replies.

* `Session.perform_noted` — one action, and what it adds to the notes.
* `Call.run_noted` — a whole call, and what it notes (`Call.contacts`).
-/
import LeaseStore.Proofs.Runs.Session

namespace LeaseStore

variable {σ : Type}

/-! ## Notes -/

/-- A call of a connector or of a backend, with the failure that came of it if
there was one. -/
inductive Contact where
  | opened (c : Config) (failure : Option StoreError)
  | asked (op : BackendOp) (failure : Option BackendError)
  deriving DecidableEq

/-- The failure in a reply, if there is one. -/
def Except.failure? {ε α : Type} : Except ε α → Option ε
  | .ok _ => none
  | .error e => some e

/-- An operation that is written down once it has been answered. -/
def Backend.noting {α : Type} (op : BackendOp) (f : Answering σ α) :
    Answering (σ × List Contact) α
  | (s, notes) =>
    let (r, s) := f s
    (r, (s, notes ++ [.asked op (Except.failure? r)]))

/-- A delete under way that is written down once it settles. -/
def Pending.noted (d : Pending σ) : Pending (σ × List Contact) :=
  { delay := d.delay, settle := Backend.noting .delete d.settle }

/-- A backend that takes notes. -/
def Backend.noted (b : Backend σ) : Backend (σ × List Contact) where
  name := b.name
  ensure c := noting .ensure (b.ensure c)
  create c r := noting .create (b.create c r)
  upsert c r w := noting .upsert (b.upsert c r w)
  read c id := noting .read (b.read c id)
  startDelete c id := fun (s, notes) =>
    let (d, s) := b.startDelete c id s
    (d.noted, (s, notes))
  list c := noting .list (b.list c)
  health := noting .health b.health

/-- A connector that takes notes, and opens backends that do. -/
def Connector.noted (k : Connector σ) : Connector (σ × List Contact) := fun c (s, notes) =>
  let (r, s) := k c s
  (r.map Backend.noted, (s, notes ++ [.opened c (Except.failure? r)]))

/-- A link to a backend that takes notes. -/
def Link.noted (l : Link σ) : Link (σ × List Contact) := ⟨l.backend.noted, l.collection⟩

/-- The same engine over a connector that takes notes. -/
def Engine.noted (e : Engine σ) : Engine (σ × List Contact) where
  connector := e.connector.noted
  config := e.config
  link := e.link.map Link.noted
  metrics := e.metrics

/-- The world with the notes taken so far. -/
def World.noted (w : World σ) (notes : List Contact) : World (σ × List Contact) :=
  ⟨w.clock, w.draws, (w.store, notes)⟩

/-- The session with the notes taken so far. -/
def Session.noted (s : Session σ) (notes : List Contact) : Session (σ × List Contact) :=
  ⟨s.engine.noted, s.world.noted notes⟩

/-- What an exchange with a backend looks like to the backend. -/
def Exchange.contacts : Exchange → List Contact
  | ⟨.read _, r⟩ => [.asked .read (Except.failure? r)]
  | ⟨.list, r⟩ => [.asked .list (Except.failure? r)]
  | ⟨.create _, r⟩ => [.asked .create (Except.failure? r)]
  | ⟨.upsert _ _, r⟩ => [.asked .upsert (Except.failure? r)]
  | ⟨.delete _, r⟩ => [.asked .delete (Except.failure? r)]
  | ⟨.deleteWave _, rs⟩ => rs.map fun r => .asked .delete (Except.failure? r)
  | ⟨.health, r⟩ => [.asked .health (Except.failure? r)]
  | _ => []

/-! ## Waves of deletes -/

namespace Backend

/-- A delete of a wave, where notes are taken. -/
def started : Started σ → Started (σ × List Contact)
  | .settled r => .settled r
  | .pending d => .pending d.noted

/-- What has settled of a wave. -/
def settled : List (Started σ) → List (Except BackendError Unit) := List.filterMap fun
  | .settled r => some r
  | .pending _ => none

variable (b : Backend σ) (c : CollectionRef)

/-- Induction on the ids: what settles as it starts is written down. -/
theorem startWave_noted (ids : List String) (s : σ) (notes : List Contact) :
    b.noted.startWave c ids (s, notes) = ((b.startWave c ids s).1.map started,
      ((b.startWave c ids s).2, notes ++ (settled (b.startWave c ids s).1).map fun r =>
        .asked .delete (Except.failure? r))) := by
  induction ids generalizing s notes with
  | nil => exact Prod.ext rfl (Prod.ext rfl (List.append_nil notes).symm)
  | cons id ids ih =>
    by_cases hdelay : (b.startDelete c id s).1.delay = 0
    · have hdelay' : (b.noted.startDelete c id (s, notes)).1.delay = 0 := hdelay
      rw [startWave, startWave]
      simp only [if_pos hdelay, if_pos hdelay']
      show (Started.settled _ :: (b.noted.startWave c ids (_, notes ++ [_])).1,
        (b.noted.startWave c ids (_, notes ++ [_])).2) = _
      rw [ih, List.append_assoc]
      rfl
    · have hdelay' : (b.noted.startDelete c id (s, notes)).1.delay ≠ 0 := hdelay
      rw [startWave, startWave]
      simp only [if_neg hdelay, if_neg hdelay']
      show (Started.pending _ :: (b.noted.startWave c ids (_, notes)).1,
        (b.noted.startWave c ids (_, notes)).2) = _
      rw [ih]
      rfl

/-- Induction on what was started: what is under way is written down later. -/
theorem settleWave_noted (start : Instant) (xs : List (Started σ)) (w : World σ) :
    ∃ late, (∀ notes, settleWave start (xs.map started) (w.noted notes) =
        ((settleWave start xs w).1, (settleWave start xs w).2.noted
          (notes ++ late.map fun r => .asked .delete (Except.failure? r)))) ∧
      (settled xs ++ late).Perm (settleWave start xs w).1 := by
  induction xs generalizing w with
  | nil => exact ⟨[], fun notes => by simp [settleWave], .nil⟩
  | cons x xs ih =>
    cases x with
    | settled r =>
      obtain ⟨late, hrun, hperm⟩ := ih w
      refine ⟨late, fun notes => ?_, hperm.cons r⟩
      rw [List.map_cons, started, settleWave, hrun, settleWave]
    | pending d =>
      let first := (w.notBefore (start.shift d.delay)).answer d.settle
      obtain ⟨late, hrun, hperm⟩ := ih first.2
      refine ⟨first.1 :: late, fun notes => ?_, List.perm_middle.trans (hperm.cons first.1)⟩
      show (first.1 :: (settleWave start (xs.map started) (first.2.noted
          (notes ++ [.asked .delete (Except.failure? first.1)]))).1,
        (settleWave start (xs.map started) (first.2.noted
          (notes ++ [.asked .delete (Except.failure? first.1)]))).2) = _
      rw [hrun, List.append_assoc]
      rfl

/-- A wave is written down delete by delete, in some order. -/
theorem deleteWave_noted (ids : List String) (w : World σ) :
    ∃ new, (∀ notes, b.noted.deleteWave c ids (w.noted notes) =
        ((b.deleteWave c ids w).1, (b.deleteWave c ids w).2.noted (notes ++ new))) ∧
      new.Perm ((b.deleteWave c ids w).1.map fun r => .asked .delete (Except.failure? r)) := by
  let first := w.answer (b.startWave c ids)
  obtain ⟨late, hrun, hperm⟩ := settleWave_noted w.clock first.1 first.2
  refine ⟨(settled first.1 ++ late).map fun r => .asked .delete (Except.failure? r),
    fun notes => ?_, hperm.map _⟩
  have hstart : (w.noted notes).answer (b.noted.startWave c ids) = (first.1.map started,
      first.2.noted (notes ++ (settled first.1).map fun r =>
        .asked .delete (Except.failure? r))) := by
    show ((b.noted.startWave c ids (w.store, notes)).1,
      World.mk w.clock w.draws (b.noted.startWave c ids (w.store, notes)).2) = _
    rw [startWave_noted]
    rfl
  rw [deleteWave, hstart, List.map_append, ← List.append_assoc]
  exact hrun _

end Backend

/-! ## Actions -/

theorem World.draw_noted (w : World σ) (notes : List Contact) (bound : Nat) :
    (w.noted notes).draw bound = ((w.draw bound).1, (w.draw bound).2.noted notes) := by
  obtain ⟨clock, _ | ⟨n, draws⟩, store⟩ := w <;> rfl

namespace Session

variable {s s' : Session σ}

theorem link_noted_of_none (hl : s.engine.link = none) (notes : List Contact) :
    (s.noted notes).engine.link = none := by
  simp only [noted, Engine.noted, hl, Option.map_none]

theorem link_noted_of_some {l : Link σ} (hl : s.engine.link = some l) (notes : List Contact) :
    (s.noted notes).engine.link = some l.noted := by
  simp only [noted, Engine.noted, hl, Option.map_some]

/-- The outcomes of connecting, with what they add to the notes. -/
inductive Attempts (s s' : Session σ) : Except StoreError Config → List Contact → Prop
  | unbound : s.engine.config = .unset → s' = s → Attempts s s' (.error .uninitialized) []
  | linked {c : Config} {l : Link σ} : s.engine.config = .ready c → s.engine.link = some l →
      s' = s → Attempts s s' (.ok c) []
  /-- The connector has opened no backend. -/
  | refused {c : Config} {err : StoreError} : s.engine.config = .ready c →
      s.engine.link = none → s'.engine = s.engine →
      Attempts s s' (.error err) [.opened c (some err)]
  /-- The backend has not provided for the collection. -/
  | unprovided {c : Config} {e : BackendError} : s.engine.config = .ready c →
      s.engine.link = none → s'.engine = s.engine →
      Attempts s s' (.error (provisioningError c.collectionRef e))
        [.opened c none, .asked .ensure (some e)]
  | won {c : Config} {b : Backend σ} : s.engine.config = .ready c → s.engine.link = none →
      s'.engine = { s.engine with link := some ⟨b, c.collectionRef⟩ } →
      Attempts s s' (.ok c) [.opened c none, .asked .ensure none]

theorem connect_noted (s : Session σ) :
    ∃ new, (∀ notes, (s.noted notes).connect =
        (s.connect.1, s.connect.2.noted (notes ++ new))) ∧
      Attempts s s.connect.2 s.connect.1 new := by
  cases hconfig : s.engine.config with
  | unset =>
    have hrun : s.connect = (.error .uninitialized, s) := by rw [connect, hconfig]
    rw [hrun]
    refine ⟨[], fun notes => ?_, .unbound hconfig rfl⟩
    rw [connect, show (s.noted notes).engine.config = .unset from hconfig, List.append_nil]
  | ready c =>
    cases hl : s.engine.link with
    | some l =>
      have hrun : s.connect = (.ok c, s) := by simp only [connect, hconfig, hl]
      rw [hrun]
      refine ⟨[], fun notes => ?_, .linked hconfig hl rfl⟩
      simp only [connect, link_noted_of_some hl notes, List.append_nil,
        show (s.noted notes).engine.config = .ready c from hconfig]
    | none =>
      obtain ⟨opened, st, hopen⟩ : ∃ opened st, s.engine.connector c s.world.store = (opened, st) :=
        ⟨_, _, rfl⟩
      -- beside the notes the connector does what it does without them
      have hopen' (notes : List Contact) :
          (s.noted notes).engine.connector c (s.noted notes).world.store =
            (opened.map Backend.noted, (st, notes ++ [.opened c (Except.failure? opened)])) := by
        show Connector.noted s.engine.connector c (s.world.store, notes) = _
        rw [Connector.noted, hopen]
      have hrun' (notes : List Contact) := connect_of_unlinked
        (show (s.noted notes).engine.config = .ready c from hconfig) (link_noted_of_none hl notes)
      simp only [hopen'] at hrun'
      rw [connect_of_unlinked hconfig hl]
      simp only [hopen]
      cases opened with
      | error err => exact ⟨_, hrun', .refused hconfig hl rfl⟩
      | ok b =>
        obtain ⟨ensured, st', hensure⟩ : ∃ ensured st', b.ensure c.collectionRef st =
            (ensured, st') := ⟨_, _, rfl⟩
        have hensure' (notes : List Contact) : b.noted.ensure c.collectionRef (st, notes) =
            (ensured, (st', notes ++ [.asked .ensure (Except.failure? ensured)])) := by
          show Backend.noting .ensure (b.ensure c.collectionRef) (st, notes) = _
          rw [Backend.noting, hensure]
        simp only [Except.map, hensure', List.append_assoc] at hrun'
        simp only [hensure]
        cases ensured with
        | error e => exact ⟨_, hrun', .unprovided hconfig hl rfl⟩
        | ok => exact ⟨_, hrun', .won hconfig hl rfl⟩

/-- What a linked backend has noted; one that is not linked has noted nothing. -/
def Heard (s : Session σ) (new heard : List Contact) : Prop :=
  match s.engine.link with
  | none => new = []
  | some _ => new.Perm heard

/-- What an action adds to the notes. -/
def Adds (s : Session σ) : Action → List Contact → Prop
  | .connect, new => Attempts s s.connect.2 s.connect.1 new
  | a, new => s.Heard new (Exchange.contacts ⟨a, (s.perform a).1⟩)

theorem heard_of_none (hl : s.engine.link = none) (heard : List Contact) :
    s.Heard [] heard := by
  rw [Heard, hl]

theorem heard_of_some {l : Link σ} (hl : s.engine.link = some l) {new heard : List Contact}
    (h : new.Perm heard) : s.Heard new heard := by
  rw [Heard, hl]
  exact h

theorem heard_nil (s : Session σ) : s.Heard [] [] := by
  cases hl : s.engine.link with
  | none => exact heard_of_none hl _
  | some l => exact heard_of_some hl .nil

/-- A request to the backend is noted if there is a link. -/
theorem request_noted {α : Type} (s : Session σ) {op : BackendOp} {f : Link σ → Answering σ α}
    {g : Link (σ × List Contact) → Answering (σ × List Contact) α}
    (hg : ∀ l : Link σ, g l.noted = Backend.noting op (f l)) :
    ∃ new, (∀ notes, (s.noted notes).request g =
        ((s.request f).1, (s.request f).2.noted (notes ++ new))) ∧
      s.Heard new [.asked op (Except.failure? (s.request f).1)] := by
  cases hl : s.engine.link with
  | none =>
    refine ⟨[], fun notes => ?_, heard_of_none hl _⟩
    rw [request_unlinked hl, request_unlinked (link_noted_of_none hl notes), List.append_nil]
  | some l =>
    refine ⟨_, fun notes => ?_, heard_of_some hl (List.Perm.refl _)⟩
    rw [request_eq hl, request_eq (link_noted_of_some hl notes), hg]
    rfl

/-- An action that no backend hears of. -/
theorem silent_noted (s : Session σ) {s' : Session σ} {α : Type} {a : α}
    {r : List Contact → α × Session (σ × List Contact)}
    (h : ∀ notes, r notes = (a, s'.noted notes)) :
    ∃ new, (∀ notes, r notes = (a, s'.noted (notes ++ new))) ∧ s.Heard new [] :=
  ⟨[], fun notes => by rw [h, List.append_nil], s.heard_nil⟩

/-- Cases on the action: whatever reaches the backend is noted. -/
theorem perform_noted (s : Session σ) (a : Action) :
    ∃ new, (∀ notes, (s.noted notes).perform a =
        ((s.perform a).1, (s.perform a).2.noted (notes ++ new))) ∧ s.Adds a new := by
  cases a with
  | connect => exact s.connect_noted
  | now | count | pause => exact s.silent_noted fun _ => rfl
  | draw bound =>
    refine s.silent_noted fun notes => ?_
    show (((s.world.noted notes).draw bound).1,
      Session.mk s.engine.noted ((s.world.noted notes).draw bound).2) = _
    rw [World.draw_noted]
    rfl
  | read | list | create | upsert | health => exact s.request_noted fun _ => rfl
  | delete id =>
    cases hl : s.engine.link with
    | none =>
      refine ⟨[], fun notes => ?_, heard_of_none hl _⟩
      simp only [perform, hl, link_noted_of_none hl, List.append_nil]
    | some l =>
      refine ⟨[.asked .delete (Except.failure? (s.perform (.delete id)).1)], fun notes => ?_,
        heard_of_some hl (.refl _)⟩
      simp only [perform, hl, link_noted_of_some hl]
      rfl
  | deleteWave ids =>
    cases hl : s.engine.link with
    | none =>
      refine ⟨[], fun notes => ?_, heard_of_none hl _⟩
      simp only [perform, hl, link_noted_of_none hl, List.append_nil]
    | some l =>
      obtain ⟨new, hrun, hperm⟩ := l.backend.deleteWave_noted l.collection ids s.world
      refine ⟨new, fun notes => ?_, heard_of_some hl (hperm.trans (.of_eq ?_))⟩
      · simp only [perform, hl, link_noted_of_some hl]
        show ((l.backend.noted.deleteWave l.collection ids (s.world.noted notes)).1,
          Session.mk s.engine.noted
            (l.backend.noted.deleteWave l.collection ids (s.world.noted notes)).2) = _
        rw [hrun]
        rfl
      · simp only [perform, hl, Exchange.contacts]

end Session

namespace Call

variable {α : Type}

/-- What a call notes. -/
def contacts (x : Call α) (s : Session σ) : List Contact := (x.run (s.noted [])).2.world.store.2

/-- What an action adds, and then what follows it. Induction on the call. -/
theorem run_noted (x : Call α) (s : Session σ) (notes : List Contact) :
    x.run (s.noted notes) = ((x.run s).1, (x.run s).2.noted (notes ++ x.contacts s)) := by
  have hsome : ∃ new, ∀ notes, x.run (s.noted notes) =
      ((x.run s).1, (x.run s).2.noted (notes ++ new)) := by
    induction x generalizing s with
    | done a => exact ⟨[], fun notes => by rw [List.append_nil]; rfl⟩
    | act a next ih =>
      obtain ⟨new, hperform, -⟩ := s.perform_noted a
      obtain ⟨rest, hrest⟩ := ih (s.perform a).1 (s.perform a).2
      refine ⟨new ++ rest, fun notes => ?_⟩
      rw [run_act, hperform, run_act, ← List.append_assoc]
      exact hrest _
  obtain ⟨new, hrun⟩ := hsome
  have hnew : x.contacts s = new := by
    rw [contacts, hrun]
    rfl
  rw [hrun, hnew]

theorem adds_contacts (a : Action) (s : Session σ) : s.Adds a ((perform a).contacts s) := by
  obtain ⟨new, hperform, hadds⟩ := s.perform_noted a
  rw [contacts, run_perform, hperform]
  exact hadds

/-- What a call notes is what its first action adds and what the rest notes. -/
theorem contacts_act (a : Action) (next : a.Reply → Call α) (s : Session σ) :
    (act a next).contacts s =
      (perform a).contacts s ++ (next (s.perform a).1).contacts (s.perform a).2 := by
  have hfirst := (perform a).run_noted s []
  rw [run_perform, run_perform, List.nil_append] at hfirst
  rw [contacts, run_act, hfirst, run_noted]
  rfl

end Call

namespace Session

variable {s s' : Session σ} {c : Config} {new : List Contact}

/-- What one attempt to connect notes. -/
def attempt (s : Session σ) : List Contact := (Call.perform .connect).contacts s

theorem attempts_connect (s : Session σ) : s.Attempts s.connect.2 s.connect.1 s.attempt :=
  Call.adds_contacts .connect s

theorem connect_noted_nil (s : Session σ) :
    (s.noted []).connect = (s.connect.1, s.connect.2.noted s.attempt) :=
  (Call.perform .connect).run_noted s []

theorem Attempts.metrics {reply : Except StoreError Config} (h : Attempts s s' reply new) :
    s'.engine.metrics = s.engine.metrics := by
  cases h with
  | unbound _ hs | linked _ _ hs => rw [hs]
  | refused _ _ hs | unprovided _ _ hs | won _ _ hs => rw [hs]

theorem Attempts.link {c' : Config} (h : Attempts s s' (.ok c') new) :
    s'.engine.link ≠ none := by
  cases h with
  | linked _ hl hs =>
    rw [hs, hl]
    exact Option.some_ne_none _
  | won _ _ hs =>
    rw [hs]
    exact Option.some_ne_none _

theorem Attempts.config {c' : Config} (h : Attempts s s' (.ok c') new) :
    s.engine.config = .ready c' := by
  cases h <;> assumption

end Session

end LeaseStore
