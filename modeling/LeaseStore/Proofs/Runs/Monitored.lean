/-
LeaseStore.Proofs.Runs.Monitored — backends that are only watched.

A probe without a script lets every call through to the backend behind it
(`Backend.monitored`). It writes the call down, makes a delete take its time,
and keeps account of the deletes that are under way at once.

* `Backend.deleteWave_monitored` — a wave deletes its records one after the
  other, whatever time that takes. If a delete takes any, all those of the wave
  are under way at once.
* `View.DropsAll.look_eq` — what is gone once several deletes have been tried.
* `Backend.deleteEach_exposed` — any of them may be made to fail.
* `Errand.watched` — an engine on such a backend (`Session.Watched`) stays one,
  whatever it is asked.
-/
import LeaseStore.Proofs.Calls.Conduct
import LeaseStore.Proofs.Runs.Session

namespace LeaseStore

variable {σ : Type}

/-! ## Probes without a script -/

/-- What a probe writes down of a call. -/
def BackendOp.entry (op : BackendOp) (id : String) : String :=
  if id = "" then op.name else op.name ++ " " ++ id

namespace Probe

/-- The probe lets every call through, and no delete is under way. -/
structure Idle (p : Probe) : Prop where
  script : p.script = []
  deleting : p.deleting = 0

/-- The probe once it has written a call down. -/
def noting (p : Probe) (op : BackendOp) (id : String) : Probe :=
  { p with log := p.log ++ [op.entry id] }

/-- The probe once deletes of these records have begun. -/
def starting (p : Probe) (ids : List String) : Probe :=
  { p with
    log := p.log ++ ids.map (BackendOp.entry .delete)
    deleting := p.deleting + ids.length
    mostDeleting := max p.mostDeleting (p.deleting + ids.length) }

/-- The most deletes of a wave that are under way at once. Those that take no
time are over as they begin. -/
def peak (p : Probe) (n : Nat) : Nat := if p.deleteTime = 0 then min 1 n else n

/-- The probe once a wave of deletes is over. -/
def swept (p : Probe) (ids : List String) : Probe :=
  { p with
    log := p.log ++ ids.map (BackendOp.entry .delete)
    mostDeleting := max p.mostDeleting (p.peak ids.length) }

variable {p : Probe}

theorem observe_eq (h : p.script = []) (op : BackendOp) (id : String) :
    p.observe op id = (.nothing, p.noting op id) := by
  simp only [observe, h, List.find?_nil, List.eraseP_nil, noting, BackendOp.entry]

theorem starting_nil (h : p.deleting ≤ p.mostDeleting) : p.starting [] = p := by
  simp [starting, Nat.max_eq_left h]

/-- One delete begins, and then others. -/
theorem starting_cons (id : String) (ids : List String) :
    (p.beginDelete.noting .delete id).starting ids = p.starting (id :: ids) := by
  have hdeleting : p.deleting + 1 + ids.length = p.deleting + (ids.length + 1) := by omega
  have hmost : max (max p.mostDeleting (p.deleting + 1)) (p.deleting + (ids.length + 1)) =
      max p.mostDeleting (p.deleting + (ids.length + 1)) := by omega
  simp [starting, noting, beginDelete, hdeleting, hmost]

theorem swept_nil : p.swept [] = p := by
  simp [swept, peak]

/-- Deletes that take no time are over one before the other. -/
theorem swept_swept (htime : p.deleteTime = 0) (id : String) (ids : List String) :
    (p.swept [id]).swept ids = p.swept (id :: ids) := by
  have hmost : max (max p.mostDeleting (min 1 1)) (min 1 ids.length) =
      max p.mostDeleting (min 1 (ids.length + 1)) := by omega
  simp only [swept, peak, htime, if_true, List.length_cons, List.length_nil, Nat.zero_add,
    List.map_cons, List.map_nil, List.append_assoc, List.cons_append, List.nil_append]
  rw [hmost]

namespace Idle

variable (h : p.Idle)

include h

theorem noting (op : BackendOp) (id : String) : (p.noting op id).Idle := ⟨h.script, h.deleting⟩

theorem swept (ids : List String) : (p.swept ids).Idle := ⟨h.script, h.deleting⟩

/-- A delete that is over before the next one begins. -/
theorem endDelete_beginDelete (id : String) :
    (p.beginDelete.noting .delete id).endDelete = p.swept [id] := by
  simp [Probe.swept, Probe.noting, endDelete, beginDelete, peak, h.deleting]

end Idle

end Probe

/-! ## Backends that are watched -/

/-- The part of a store in front of a probe. -/
def Part.front {τ : Type} : Part (σ × τ) σ := ⟨Prod.fst, fun s w => (s, w.2)⟩

/-- The part of a store that is its probe. -/
def Part.back {τ : Type} : Part (σ × τ) τ := ⟨Prod.snd, fun t w => (w.1, t)⟩

/-- The backend behind a probe. -/
def Backend.monitored (b : Backend σ) : Backend (σ × Probe) := (b.within .front).probed .back

/-- The connector opens backends behind a probe. -/
def Connector.monitored (k : Connector σ) : Connector (σ × Probe) := fun c (s, p) =>
  ((k c s).1.map Backend.monitored, ((k c s).2, p))

namespace Backend

variable {b : Backend σ} {c : CollectionRef} {s : σ} {p : Probe}

/-- What a probe makes of an operation. -/
def monitoring {α : Type} (op : BackendOp) (id : String) (f : Answering σ α) :
    Answering (σ × Probe) α
  | (s, p) => ((f s).1, ((f s).2, p.noting op id))

/-- The end of a delete behind a probe. -/
def ending (b : Backend σ) (c : CollectionRef) (id : String) : Answering (σ × Probe) Unit
  | (s, p) => ((b.deleteNow c id s).1, ((b.deleteNow c id s).2, p.endDelete))

theorem watched_eq (h : p.script = []) {α : Type} (op : BackendOp) (id : String)
    (f : Answering σ α) :
    (b.within .front).watched .back c op id (Part.front.lift f) (s, p) =
      monitoring op id f (s, p) := by
  simp only [watched, Part.lift, Part.back, Probe.observe_eq h]
  rfl

theorem ensure_monitored (h : p.script = []) :
    b.monitored.ensure c (s, p) = monitoring .ensure "" (b.ensure c) (s, p) :=
  watched_eq h .ensure "" (b.ensure c)

theorem create_monitored (h : p.script = []) (r : Record) :
    b.monitored.create c r (s, p) = monitoring .create r.id (b.create c r) (s, p) :=
  watched_eq h .create r.id (b.create c r)

theorem upsert_monitored (h : p.script = []) (r : Record) (w : WriteCondition) :
    b.monitored.upsert c r w (s, p) = monitoring .upsert r.id (b.upsert c r w) (s, p) :=
  watched_eq h .upsert r.id (b.upsert c r w)

theorem read_monitored (h : p.script = []) (id : String) :
    b.monitored.read c id (s, p) = monitoring .read id (b.read c id) (s, p) :=
  watched_eq h .read id (b.read c id)

theorem health_monitored (h : p.script = []) :
    b.monitored.health (s, p) = monitoring .health "" b.health (s, p) := by
  simp only [monitored, probed, Part.lift, Part.back, Probe.observe_eq h]
  rfl

theorem list_monitored (h : p.script = []) :
    b.monitored.list c (s, p) = monitoring .list "" (b.list c) (s, p) :=
  watched_eq h .list "" (b.list c)

/-- A delete behind a probe does all that it does in the end. -/
theorem startDelete_monitored (h : p.script = []) (id : String) :
    b.monitored.startDelete c id (s, p) =
      ({ delay := p.deleteTime, settle := b.ending c id },
        (s, p.beginDelete.noting .delete id)) := by
  have hbegun : p.beginDelete.script = [] := h
  simp only [monitored, probed, startProbedDelete, Part.lift, Part.back, Probe.observe_eq hbegun]
  rfl

/-- One delete, and the time it takes. -/
theorem delete_monitored (h : p.Idle) (id : String) (t : Instant) (draws : List Nat) :
    b.monitored.delete c id ⟨t, draws, (s, p)⟩ =
      ((b.deleteNow c id s).1,
        ⟨t.shift p.deleteTime, draws, ((b.deleteNow c id s).2, p.swept [id])⟩) := by
  rw [← h.endDelete_beginDelete]
  simp only [delete, World.answer, startDelete_monitored h.script]
  rfl

/-! ## Waves -/

/-- Deletes that take no time settle as they begin, one after the other. -/
theorem startWave_immediate (h : p.Idle) (htime : p.deleteTime = 0) (ids : List String) :
    b.monitored.startWave c ids (s, p) =
      ((b.deleteEach c ids s).1.map .settled, ((b.deleteEach c ids s).2, p.swept ids)) := by
  induction ids generalizing s p with
  | nil => rw [Probe.swept_nil]; rfl
  | cons id ids ih =>
    simp only [startWave, startDelete_monitored h.script, if_pos htime, ending,
      h.endDelete_beginDelete]
    rw [ih (h.swept [id]) htime, Probe.swept_swept htime]
    rfl

/-- Deletes that take time have all begun before the first one settles. -/
theorem startWave_lasting (hscript : p.script = []) (hmost : p.deleting ≤ p.mostDeleting)
    (htime : p.deleteTime ≠ 0) (ids : List String) :
    b.monitored.startWave c ids (s, p) =
      (ids.map fun id => .pending ⟨p.deleteTime, b.ending c id⟩, (s, p.starting ids)) := by
  induction ids generalizing p with
  | nil => rw [Probe.starting_nil hmost]; rfl
  | cons id ids ih =>
    have hrest := ih (p := p.beginDelete.noting .delete id) hscript (Nat.le_max_right ..) htime
    simp only [startWave, startDelete_monitored hscript, if_neg htime]
    rw [hrest, Probe.starting_cons]
    rfl

/-- They settle one after the other. -/
theorem settleWave_lasting (start : Instant) (d : Nat) (ids : List String) (w : World (σ × Probe)) :
    ∃ t, settleWave start (ids.map fun id => .pending ⟨d, b.ending c id⟩) w =
      ((b.deleteEach c ids w.store.1).1, ⟨t, w.draws, ((b.deleteEach c ids w.store.1).2,
        { w.store.2 with deleting := w.store.2.deleting - ids.length })⟩) := by
  induction ids generalizing w with
  | nil => exact ⟨w.clock, rfl⟩
  | cons id ids ih =>
    obtain ⟨t, hrest⟩ := ih ((w.notBefore (start.shift d)).answer (b.ending c id)).2
    refine ⟨t, ?_⟩
    simp only [List.map_cons, settleWave]
    rw [hrest]
    simp only [World.answer, World.notBefore, ending, deleteEach, Probe.endDelete,
      List.length_cons, Nat.sub_sub, Nat.add_comm 1]

/-- **A wave deletes its records one after the other**, whatever time the
deletes take, and they are under way at once if they take any. -/
theorem deleteWave_monitored {w : World (σ × Probe)} (h : w.store.2.Idle) (ids : List String) :
    ∃ t, b.monitored.deleteWave c ids w =
      ((b.deleteEach c ids w.store.1).1,
        ⟨t, w.draws, ((b.deleteEach c ids w.store.1).2, w.store.2.swept ids)⟩) := by
  obtain ⟨clock, draws, s, p⟩ := w
  simp only [deleteWave, World.answer]
  by_cases htime : p.deleteTime = 0
  · rw [startWave_immediate h htime]
    exact ⟨clock, settleWave_map _ _ _⟩
  · have hdeleting : p.deleting = 0 := h.deleting
    rw [startWave_lasting h.script (Nat.le_trans (Nat.le_of_eq hdeleting) (Nat.zero_le _)) htime]
    obtain ⟨t, hsettle⟩ := settleWave_lasting (b := b) (c := c) clock p.deleteTime ids
      ⟨clock, draws, (s, p.starting ids)⟩
    have hswept : { p.starting ids with deleting := (p.starting ids).deleting - ids.length } =
        p.swept ids := by
      simp [Probe.starting, Probe.swept, Probe.peak, htime, hdeleting]
    rw [hswept] at hsettle
    exact ⟨t, hsettle⟩

/-! ## Deletes one after the other -/

theorem length_deleteEach (b : Backend σ) (c : CollectionRef) (ids : List String) (s : σ) :
    (b.deleteEach c ids s).1.length = ids.length := by
  induction ids generalizing s with
  | nil => rfl
  | cons id ids ih => exact congrArg (· + 1) (ih _)

theorem deleteEach_append (b : Backend σ) (c : CollectionRef) (ids ids' : List String) (s : σ) :
    b.deleteEach c (ids ++ ids') s =
      ((b.deleteEach c ids s).1 ++ (b.deleteEach c ids' (b.deleteEach c ids s).2).1,
        (b.deleteEach c ids' (b.deleteEach c ids s).2).2) := by
  induction ids generalizing s with
  | nil => rfl
  | cons id ids ih =>
    simp only [List.cons_append, deleteEach, ih]

/-- An operation uses up an outage of its own, and of no other operation. -/
theorem struck_next {α : Type} {op op' : BackendOp} (hop : op' ≠ op) (f : Answering σ α)
    (s : σ × Outages) : (struck op f s).2.2 op' = s.2 op' := by
  have hnext : s.2.next op op' = s.2 op' := funext fun n => if_neg hop
  obtain ⟨e, -, heq⟩ | heq := struck_cases op f s.1 s.2
  · exact (congrArg (fun x => x.2.2 op') heq).trans hnext
  · exact (congrArg (fun x => x.2.2 op') heq).trans hnext

/-- Any of the deletes may be made to fail. Induction on the ids: the first one
uses up the first outage. -/
theorem deleteEach_exposed (b : Backend σ) (c : CollectionRef) {ids : List String} {s : σ}
    {o : Outages} {i : Nat} (hi : i < ids.length) {e : BackendError} (he : o .delete i = some e) :
    (b.exposed.deleteEach c ids (s, o)).1[i]? = some (.error e) := by
  induction ids generalizing i s o with
  | nil => cases hi
  | cons id ids ih =>
    have hstruck : b.exposed.deleteNow c id (s, o) =
        struck .delete (b.startDelete c id s).1.settle ((b.startDelete c id s).2, o) := rfl
    cases i with
    | zero => simp [deleteEach, hstruck, struck, he]
    | succ i =>
      have hi' : i < ids.length := Nat.lt_of_succ_lt_succ hi
      have hnext : o.next .delete .delete i = some e := he
      obtain ⟨e', -, hfirst⟩ | hfirst :=
        struck_cases .delete (b.startDelete c id s).1.settle (b.startDelete c id s).2 o
      · simpa [deleteEach, hstruck, hfirst] using ih hi' hnext
      · simpa [deleteEach, hstruck, hfirst] using ih hi' hnext

end Backend

/-- The ids whose deletes have succeeded. -/
def succeeded (ids : List String) (replies : List (Except BackendError Unit)) : List String :=
  (ids.zip replies).filterMap fun
    | (id, .ok ()) => some id
    | _ => none

theorem succeeded_cons_ok (id : String) (ids : List String)
    (rs : List (Except BackendError Unit)) :
    succeeded (id :: ids) (.ok () :: rs) = id :: succeeded ids rs := rfl

theorem succeeded_cons_error (id : String) (ids : List String) (e : BackendError)
    (rs : List (Except BackendError Unit)) :
    succeeded (id :: ids) (.error e :: rs) = succeeded ids rs := rfl

/-- **What is gone** once several deletes have been tried: what one of them has
removed. Induction on the ids. -/
theorem View.DropsAll.look_eq {V : View σ} {c : CollectionRef} {s s' : σ} {ids : List String}
    {rs : List (Except BackendError Unit)} (h : V.DropsAll c s ids s' rs) (c' : CollectionRef)
    (id : String) :
    V.look s' c' id =
      if V.shelf c' = V.shelf c ∧ id ∈ succeeded ids rs then none else V.look s c' id := by
  induction h with
  | nil => simp [succeeded]
  | @cons s t u id' ids r rs hdrop _ ih =>
    rw [ih]
    cases hdrop with
    | removed _ hremoved =>
      simp only [hremoved.look, succeeded_cons_ok, List.mem_cons]
      by_cases hshelf : V.shelf c' = V.shelf c <;> by_cases hid : id = id' <;> simp [hshelf, hid]
    | kept hsame => rw [hsame.look, succeeded_cons_error]

/-! ## Sessions that are watched -/

/-- The deletes of an exchange, each with its reply. -/
def Exchange.deletions : Exchange → List (String × Except BackendError Unit)
  | ⟨.delete id, reply⟩ => [(id, reply)]
  | ⟨.deleteWave ids, replies⟩ => ids.zip replies
  | _ => []

namespace Session

variable {b : Backend σ} {c : CollectionRef} {s : Session (σ × Probe)}

/-- The session with other counts. -/
def withMetrics {τ : Type} (s : Session τ) (m : Metrics) : Session τ :=
  { s with engine := { s.engine with metrics := m } }

variable (hl : s.engine.link = some ⟨b.monitored, c⟩)

include hl

/-- What an operation behind a probe comes to, for a session that is linked. -/
theorem request_monitored {α : Type} {f : Link (σ × Probe) → Answering (σ × Probe) α}
    {op : BackendOp} {id : String} {g : Answering σ α}
    (hf : f ⟨b.monitored, c⟩ s.world.store = Backend.monitoring op id g s.world.store) :
    s.request f = ((g s.world.store.1).1,
      s.withStore ((g s.world.store.1).2, s.world.store.2.noting op id)) := by
  rw [request_eq hl, hf]
  rfl

theorem perform_list_monitored (hidle : s.world.store.2.Idle) :
    s.perform .list = ((b.list c s.world.store.1).1,
      s.withStore ((b.list c s.world.store.1).2, s.world.store.2.noting .list "")) :=
  request_monitored hl (Backend.list_monitored hidle.script)

theorem perform_create_monitored (hidle : s.world.store.2.Idle) (r : Record) :
    s.perform (.create r) = ((b.create c r s.world.store.1).1,
      s.withStore ((b.create c r s.world.store.1).2, s.world.store.2.noting .create r.id)) :=
  request_monitored hl (Backend.create_monitored hidle.script r)

theorem perform_delete_monitored (hidle : s.world.store.2.Idle) (id : String) :
    s.perform (.delete id) = ((b.deleteNow c id s.world.store.1).1,
      ⟨s.engine, ⟨s.world.clock.shift s.world.store.2.deleteTime, s.world.draws,
        ((b.deleteNow c id s.world.store.1).2, s.world.store.2.swept [id])⟩⟩) := by
  have hdelete := Backend.delete_monitored (b := b) (c := c) (s := s.world.store.1) hidle id
    s.world.clock s.world.draws
  simp only [perform, hl, hdelete]

theorem perform_deleteWave_monitored (hidle : s.world.store.2.Idle) (ids : List String) :
    ∃ t, s.perform (.deleteWave ids) = ((b.deleteEach c ids s.world.store.1).1,
      ⟨s.engine, ⟨t, s.world.draws, ((b.deleteEach c ids s.world.store.1).2,
        s.world.store.2.swept ids)⟩⟩) := by
  obtain ⟨t, hwave⟩ := Backend.deleteWave_monitored (b := b) (c := c) hidle ids
  exact ⟨t, by simp only [perform, hl, hwave]⟩

end Session

/-- An engine that is bound to this configuration, on a shared backend of this
kind which meets outages, behind a probe. The probe has no script, and what is
stored is sound. -/
structure Session.Watched (kind : BackendKind) (config : Config)
    (s : Session ((Fleet × Outages) × Probe)) : Prop where
  bound : s.engine.config = .ready config
  connector : s.engine.connector = (Fleet.shared kind).exposed.monitored
  link : ∀ l, s.engine.link = some l → ∃ b : Backend Fleet, ∃ f,
    (Fleet.shared kind config f).1 = .ok b ∧ l = ⟨b.exposed.monitored, config.collectionRef⟩ ∧
    (Fleet.view kind).exposed.Provided s.world.store.1 config.collectionRef
  sound : (Fleet.view kind).exposed.Sound s.world.store.1
  idle : s.world.store.2.Idle

namespace Session.Watched

variable {kind : BackendKind} {config : Config} {s : Session ((Fleet × Outages) × Probe)}

/-- A new engine, where nothing has been put into the backend. -/
theorem fresh {w : World ((Fleet × Outages) × Probe)} (hvacant : Fleet.Vacant kind w.store.1.1)
    (hidle : w.store.2.Idle) :
    Watched kind config ⟨{ connector := (Fleet.shared kind).exposed.monitored,
                           config := .ready config }, w⟩ :=
  ⟨rfl, rfl, nofun, Fleet.sound_of_vacant hvacant, hidle⟩

/-- The engine bears what passes for its backend. -/
theorem moved (h : s.Watched kind config) {st : Fleet × Outages} {p : Probe}
    (hpasses : (Fleet.view kind).exposed.Passes s.world.store.1 st) (hidle : p.Idle)
    (m : Metrics) (t : Instant) (draws : List Nat) :
    Watched kind config ⟨{ s.engine with metrics := m }, ⟨t, draws, (st, p)⟩⟩ where
  bound := h.bound
  connector := h.connector
  link l hl := by
    obtain ⟨b, f, hopen, heq, hprovided⟩ := h.link l hl
    exact ⟨b, f, hopen, heq, hpasses.provided _ hprovided⟩
  sound := hpasses.sound h.sound
  idle := hidle

theorem steady {b : Backend Fleet} {f : Fleet}
    (hopen : (Fleet.shared kind config f).1 = .ok b) :
    b.exposed.Steady (Fleet.view kind).exposed :=
  (Fleet.steady_exposed kind).opens config (f, Outages.none) b.exposed
    (congrArg (Except.map Backend.exposed) hopen)

/-- Connecting keeps a session watched. If it succeeds, the engine is linked to a
backend behind a probe, no outage of deletes is used up, and if the engine was
not linked before, the probe has written down that the collection was ensured. -/
theorem connect (h : s.Watched kind config) :
    s.connect.2.Watched kind config ∧
    (Fleet.view kind).exposed.Same s.world.store.1 s.connect.2.world.store.1 ∧
    ∀ config', s.connect.1 = .ok config' →
      s.connect.2.engine.link ≠ none ∧ s.connect.2.engine.metrics = s.engine.metrics ∧
      s.connect.2.world.clock = s.world.clock ∧
      s.connect.2.world.store.1.2 .delete = s.world.store.1.2 .delete ∧
      s.connect.2.world.store.2 = if s.engine.link.isSome then s.world.store.2
        else s.world.store.2.noting .ensure "" := by
  have hwatched := h
  obtain ⟨⟨connector, bound, link, metrics⟩, clock, draws, st, p⟩ := s
  obtain ⟨rfl, rfl, hlink, hsound, hidle⟩ := h
  cases link with
  | some l =>
    exact ⟨hwatched, .refl _, fun config' _ => ⟨Option.some_ne_none l, rfl, rfl, rfl, rfl⟩⟩
  | none =>
    -- the probe notes the ensuring; opening a backend is no operation and is not noted
    have hsame := (Fleet.steady_exposed kind).same config st
    have hconnect := connect_of_unlinked (s := ⟨⟨(Fleet.shared kind).exposed.monitored,
      .ready config, none, metrics⟩, ⟨clock, draws, st, p⟩⟩) rfl rfl
    cases hopen : (Fleet.shared kind config st.1).1 with
    | error err =>
      simp only [Connector.monitored, Connector.exposed, hopen, Except.map] at hconnect
      rw [hconnect]
      exact ⟨hwatched.moved hsame.toPasses hidle _ _ _, hsame, fun _ h => by cases h⟩
    | ok b =>
      have hensures := (steady hopen).ensure config.collectionRef _ (hsame.sound hsound)
      simp only [Connector.monitored, Connector.exposed, hopen, Except.map,
        Backend.ensure_monitored hidle.script, Backend.monitoring] at hconnect
      have hopened : ((Fleet.shared kind).exposed config st).2 =
          ((Fleet.shared kind config st.1).2, st.2) := rfl
      rw [hopened] at hensures hsame
      cases hensured : (b.exposed.ensure config.collectionRef
          ((Fleet.shared kind config st.1).2, st.2)).1 with
      | error e =>
        rw [hensured] at hconnect hensures
        rw [hconnect]
        cases hensures with
        | failed _ hsame' =>
          have hboth := hsame.trans hsame'
          exact ⟨hwatched.moved hboth.toPasses (hidle.noting _ _) _ _ _, hboth,
            fun _ h => by cases h⟩
      | ok =>
        rw [hensured] at hconnect hensures
        rw [hconnect]
        cases hensures with
        | provided hsame' hprovided =>
          have hboth := hsame.trans hsame'
          have hdeletes : (Backend.struck .ensure (b.ensure config.collectionRef)
              ((Fleet.shared kind config st.1).2, st.2)).2.2 .delete = st.2 .delete :=
            Backend.struck_next (by decide) _ _
          refine ⟨⟨rfl, rfl, ?_, hboth.sound hsound, hidle.noting _ _⟩, hboth,
            fun config' _ => ⟨Option.some_ne_none _, rfl, rfl, hdeletes, rfl⟩⟩
          rintro l ⟨⟩
          exact ⟨b, st.1, hopen, rfl, hprovided⟩

/-- **Every action keeps a session watched.** Cases on the action. -/
theorem perform (h : s.Watched kind config) {a : Action}
    (hw : ∀ r w, a = .upsert r w → ∃ token, w = .ofToken token) :
    (s.perform a).2.Watched kind config := by
  have hstay := (View.Same.refl (V := (Fleet.view kind).exposed) s.world.store.1).toPasses
  by_cases hneeds : a.NeedsLink
  · cases hl : s.engine.link with
    | none =>
      rw [perform_unlinked hl hneeds]
      exact h
    | some l =>
      obtain ⟨b, f, hopen, rfl, -⟩ := h.link l hl
      have hlaw := steady hopen
      cases a with
      | connect | now | count | pause | draw => exact hneeds.elim
      | read id =>
        have hperform : s.perform (.read id) = _ :=
          request_monitored hl (Backend.read_monitored h.idle.script id)
        rw [hperform]
        exact h.moved (hlaw.read _ id _ h.sound).same.toPasses (h.idle.noting _ _) _ _ _
      | list =>
        rw [perform_list_monitored hl h.idle]
        exact h.moved (hlaw.list _ _ h.sound).same.toPasses (h.idle.noting _ _) _ _ _
      | create r =>
        rw [perform_create_monitored hl h.idle]
        exact h.moved (hlaw.create _ r _ h.sound).move.passes (h.idle.noting _ _) _ _ _
      | upsert r w =>
        have hperform : s.perform (.upsert r w) = _ :=
          request_monitored hl (Backend.upsert_monitored h.idle.script r w)
        rw [hperform]
        have hmove := (hlaw.upsert config.collectionRef r w _ (hw r w rfl) h.sound).move
        exact h.moved hmove.passes (h.idle.noting _ _) _ _ _
      | delete id =>
        rw [perform_delete_monitored hl h.idle]
        exact h.moved (hlaw.delete _ id _ h.sound).passes (h.idle.swept [id]) _ _ _
      | deleteWave ids =>
        obtain ⟨t, hperform⟩ := perform_deleteWave_monitored hl h.idle ids
        rw [hperform]
        exact h.moved (hlaw.dropsAll _ ids h.sound).passes (h.idle.swept ids) _ _ _
      | health =>
        have hperform : s.perform .health = _ :=
          request_monitored hl (Backend.health_monitored h.idle.script)
        rw [hperform]
        exact h.moved (hlaw.health _ h.sound).same.toPasses (h.idle.noting _ _) _ _ _
  · cases a with
    | connect => exact h.connect.1
    | now => exact h
    | count n => exact h.moved hstay h.idle _ _ _
    | pause d => exact h.moved hstay h.idle _ _ _
    | draw bound =>
      rw [perform_draw]
      exact h.moved hstay h.idle _ _ _
    | read | list | create | upsert | delete | deleteWave | health => exact absurd trivial hneeds

end Session.Watched

/-- Induction on the call: what each of its actions keeps, the run keeps. -/
theorem Call.Along.watched {α : Type} {x : Call α} {P : List Exchange → Action → Prop}
    {Q : List Exchange → α → Prop} {past : List Exchange} (hx : x.Along P Q past)
    (hP : ∀ past r w, P past (.upsert r w) → ∃ token, w = .ofToken token)
    {kind : BackendKind} {config : Config} {s : Session ((Fleet × Outages) × Probe)}
    (h : s.Watched kind config) : (x.run s).2.Watched kind config := by
  induction x generalizing past s with
  | done a => exact h
  | act a next ih =>
    exact ih _ (hx.2 _) (h.perform fun r w ha => hP past r w (ha ▸ hx.1))

/-- **Whatever an engine is asked, it stays watched.** -/
theorem Errand.watched (e : Errand) {kind : BackendKind} {config : Config}
    {s : Session ((Fleet × Outages) × Probe)} (h : s.Watched kind config) :
    (e.call.run s).2.Watched kind config :=
  e.conduct.watched (fun _ _ _ ⟨_, _, _, _, hwrites⟩ => Errand.ofToken_of_writes hwrites) h

end LeaseStore
