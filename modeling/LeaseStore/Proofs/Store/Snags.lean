/-
LeaseStore.Proofs.Store.Snags — services that refuse one request.

A snag is a refusal that lies ahead: so many requests get through, and the
next one is refused, whatever it is. It is refused by the service, which has
been told to as the request came in, or it is withheld: the service is sent
nothing, and the refusal is made up.

Traffic aside, a service is the same after either of the two, and what it
answers does not depend on its traffic (`DocumentService.serves`,
`TableService.serves`). So a backend that meets a snag cannot tell them apart,
and what it makes of the refusal is what the refusal says (`MeetsSnags`).

* `Fleet.Cloud.meetsSnags` — for the backends of both services.
-/
import LeaseStore.Proofs.Interleaving.Deed
import LeaseStore.Proofs.Store.Fleet

namespace LeaseStore

variable {σ τ α β : Type}

/-! ## Plain refusals -/

/-- Neither the status nor the code of the refusal names an outcome that an
engine tells apart. -/
structure ServiceError.Plain (e : ServiceError) : Prop where
  status : e.status ≠ 404 ∧ e.status ≠ 409 ∧ e.status ≠ 412
  code : e.code ≠ some resourceNotFound ∧ e.code ≠ some entityExists ∧
    e.code ≠ some conditionNotMet

theorem ServiceError.Plain.toBackendError {e : ServiceError} (h : e.Plain) :
    e.toBackendError = .failure e.message e.isTransient (some (.service e)) := by
  obtain ⟨⟨hmissing, htaken, hstale⟩, hmissing', htaken', hstale'⟩ := h
  simp only [ServiceError.toBackendError, hmissing, htaken, hstale, hmissing', htaken', hstale',
    or_self, if_false]

theorem ServiceError.isTransient_iff (e : ServiceError) :
    e.isTransient = true ↔
      e.status = 408 ∨ e.status = 429 ∨ 500 ≤ e.status ∧ e.status < 600 := by
  simp [ServiceError.isTransient, or_assoc]

/-! ## Parts of parts -/

/-- A part of a part is a part of the whole. -/
def Part.trans {υ : Type} (p : Part σ τ) (q : Part τ υ) : Part σ υ where
  get s := q.get (p.get s)
  set u s := p.set (q.set u (p.get s)) s

theorem Part.Lawful.trans {υ : Type} {p : Part σ τ} {q : Part τ υ} (hp : p.Lawful)
    (hq : q.Lawful) : (p.trans q).Lawful where
  get_set u s := by simp only [Part.trans, hp.get_set, hq.get_set]
  set_set u u' s := by simp only [Part.trans, hp.get_set, hp.set_set, hq.set_set]
  set_get s := by simp only [Part.trans, hq.set_get, hp.set_get]

/-! ## Requests and their traffic -/

namespace Traffic

/-- A request that is refused if the service has been told to refuse one of its
kind, and whose answer does not depend on the traffic otherwise. -/
structure Serves (p : Part σ Traffic) (op : ServiceOp) (f : Requesting σ α) : Prop where
  refuses : ∀ s e, (p.get s).Free →
    ∃ t, t.Free ∧ f (p.set ((p.get s).refuseNext op e) s) = (.error e, p.set t s)
  ignores : ∀ s t, (p.get s).Free → t.Free →
    ∃ t', t'.Free ∧ f (p.set t s) = ((f s).1, p.set t' (f s).2)

variable {p : Part σ Traffic} {op : ServiceOp} {f : Requesting σ α}

/-- No refusal is set by a request. -/
theorem Serves.free (h : Serves p op f) (hp : p.Lawful) {s : σ} (hfree : (p.get s).Free) :
    (p.get (f s).2).Free := by
  obtain ⟨t', hfree', heq⟩ := h.ignores s (p.get s) hfree hfree
  rw [hp.set_get] at heq
  rw [congrArg Prod.snd heq, hp.get_set]
  exact hfree'

theorem enter_refuseNext {t : Traffic} (h : t.Free) (op : ServiceOp) (e : ServiceError) :
    ∃ t', t'.Free ∧ (t.refuseNext op e).enter op = (some e, t') := by
  rw [Free] at h
  exact ⟨⟨op :: t.requests, []⟩, rfl, by simp [refuseNext, enter, h]⟩

theorem counted_of_free (p : Part σ Traffic) {s : σ} (h : (p.get s).Free) (op : ServiceOp)
    (f : Requesting σ α) : ∃ t, t.Free ∧ counted p op f s = f (p.set t s) := by
  obtain ⟨_, _, hbusy, _⟩ | ⟨t, hfree, heq⟩ := counted_cases p op f s
  · exact absurd h hbusy
  · exact ⟨t, hfree h, heq⟩

/-- A request that is counted, of a service that does nothing else with its
traffic. -/
theorem serves_counted (hp : p.Lawful) (op : ServiceOp)
    (h : ∀ t s, f (p.set t s) = ((f s).1, p.set t (f s).2)) : Serves p op (counted p op f) where
  refuses s e hfree := by
    obtain ⟨t, hfree', henter⟩ := enter_refuseNext hfree op e
    refine ⟨t, hfree', ?_⟩
    simp only [counted, hp.get_set, henter, hp.set_set]
  ignores s t hfree hfree' := by
    obtain ⟨t₁, -, heq₁⟩ := counted_of_free p hfree op f
    obtain ⟨t₂, hfree₂, heq₂⟩ := counted_of_free p (s := p.set t s)
      (by rwa [hp.get_set]) op f
    refine ⟨t₂, hfree₂, ?_⟩
    rw [heq₁, heq₂, hp.set_set, h, h, hp.set_set]

/-- A service that is a part of a larger state. -/
theorem Serves.lift {q : Part τ Traffic} {f : Requesting τ α} {p : Part σ τ} (hp : p.Lawful)
    (h : Serves q op f) : Serves (p.trans q) op (p.lift f) where
  refuses s e hfree := by
    obtain ⟨t, hfree', heq⟩ := h.refuses (p.get s) e hfree
    refine ⟨t, hfree', ?_⟩
    simp only [Part.lift, Part.trans, hp.get_set, heq, hp.set_set]
  ignores s t hfree hfree' := by
    obtain ⟨t', hfree'', heq⟩ := h.ignores (p.get s) t hfree hfree'
    refine ⟨t', hfree'', ?_⟩
    simp only [Part.lift, Part.trans, hp.get_set, heq, hp.set_set]

end Traffic

/-- Each request to a document database is one that the service at `p` serves. -/
structure DocumentClient.Serves (p : Part σ Traffic) (client : DocumentClient σ) : Prop where
  createDatabase : ∀ database, Traffic.Serves p .provision (client.createDatabase database)
  createContainer : ∀ c throughput,
    Traffic.Serves p .provision (client.createContainer c throughput)
  read : ∀ c id, Traffic.Serves p .read (client.read c id)
  create : ∀ c doc, Traffic.Serves p .create (client.create c doc)
  upsert : ∀ c doc tag, Traffic.Serves p .upsert (client.upsert c doc tag)
  delete : ∀ c id, Traffic.Serves p .delete (client.delete c id)
  query : ∀ c text, Traffic.Serves p .query (client.query c text)
  ping : Traffic.Serves p .ping client.ping

/-- Each request to a table service is one that the service at `p` serves. -/
structure TableClient.Serves (p : Part σ Traffic) (client : TableClient σ) : Prop where
  createTable : ∀ table, Traffic.Serves p .provision (client.createTable table)
  get : ∀ table key, Traffic.Serves p .read (client.get table key)
  insert : ∀ table e, Traffic.Serves p .create (client.insert table e)
  upsert : ∀ table e tag, Traffic.Serves p .upsert (client.upsert table e tag)
  delete : ∀ table key, Traffic.Serves p .delete (client.delete table key)
  query : ∀ table text, Traffic.Serves p .query (client.query table text)
  ping : Traffic.Serves p .ping client.ping

section Within

variable {p : Part σ τ} {q : Part τ Traffic}

theorem DocumentClient.Serves.within {client : DocumentClient τ} (h : client.Serves q)
    (hp : p.Lawful) : (client.within p).Serves (p.trans q) where
  createDatabase database := (h.createDatabase database).lift hp
  createContainer c throughput := (h.createContainer c throughput).lift hp
  read c id := (h.read c id).lift hp
  create c doc := (h.create c doc).lift hp
  upsert c doc tag := (h.upsert c doc tag).lift hp
  delete c id := (h.delete c id).lift hp
  query c text := (h.query c text).lift hp
  ping := h.ping.lift hp

theorem TableClient.Serves.within {client : TableClient τ} (h : client.Serves q)
    (hp : p.Lawful) : (client.within p).Serves (p.trans q) where
  createTable table := (h.createTable table).lift hp
  get table key := (h.get table key).lift hp
  insert table e := (h.insert table e).lift hp
  upsert table e tag := (h.upsert table e tag).lift hp
  delete table key := (h.delete table key).lift hp
  query table text := (h.query table text).lift hp
  ping := h.ping.lift hp

end Within

namespace DocumentService

theorem trafficPart_lawful : trafficPart.Lawful :=
  ⟨fun _ _ => rfl, fun _ _ _ => rfl, fun _ => rfl⟩

/-- The request does nothing with the traffic. -/
abbrev Ignorant (f : Requesting DocumentService α) : Prop :=
  ∀ t s, f (trafficPart.set t s) = ((f s).1, trafficPart.set t (f s).2)

theorem ignorant_inContainer (c : CollectionRef) {f : Container → Requesting DocumentService α}
    (h : ∀ content, Ignorant (f content)) : Ignorant (inContainer c f) := by
  intro t s
  have hcontainers : (trafficPart.set t s).containers = s.containers := rfl
  simp only [inContainer, hcontainers]
  cases s.containers[c]? with
  | none => rfl
  | some content => exact h content t s

theorem ignorant_fetch (id : String) (content : Container) : Ignorant (fetch id content) := by
  intro t s
  simp only [fetch]
  split <;> rfl

theorem ignorant_write (c : CollectionRef) (doc : Json)
    (check : String → Option Json → Option ServiceError) : Ignorant (write c doc check) := by
  intro t s
  simp only [write]
  split
  case h_1 => rfl
  case h_2 id _ =>
    refine ignorant_inContainer c (fun content => ?_) t s.nextTag.2
    intro t s
    dsimp only
    split <;> rfl

/-- **The document database serves every request.** -/
theorem serves : client.Serves trafficPart where
  createDatabase database := by
    simp only [client]
    exact Traffic.serves_counted trafficPart_lawful _ fun _ _ => rfl
  createContainer c throughput := by
    simp only [client]
    refine Traffic.serves_counted trafficPart_lawful _ fun t s => ?_
    have hdatabases : (trafficPart.set t s).databases = s.databases := rfl
    have hcontainers : (trafficPart.set t s).containers = s.containers := rfl
    simp only [hdatabases, hcontainers]
    split
    case isTrue => rfl
    case isFalse => split <;> rfl
  read c id := Traffic.serves_counted trafficPart_lawful _
    (ignorant_inContainer c (ignorant_fetch id))
  create c doc := Traffic.serves_counted trafficPart_lawful _ (ignorant_write c doc _)
  upsert c doc tag := Traffic.serves_counted trafficPart_lawful _ (ignorant_write c doc _)
  delete c id := by
    refine Traffic.serves_counted trafficPart_lawful _ (ignorant_inContainer c ?_)
    intro content t s
    dsimp only
    split <;> rfl
  query c text := by
    simp only [client]
    refine Traffic.serves_counted trafficPart_lawful _ fun t s => ?_
    split
    case isTrue => exact ignorant_inContainer c (fun _ _ _ => rfl) t s
    case isFalse => rfl
  ping := Traffic.serves_counted trafficPart_lawful _ fun _ _ => rfl

end DocumentService

namespace TableService

theorem trafficPart_lawful : trafficPart.Lawful :=
  ⟨fun _ _ => rfl, fun _ _ _ => rfl, fun _ => rfl⟩

/-- The request does nothing with the traffic. -/
abbrev Ignorant (f : Requesting TableService α) : Prop :=
  ∀ t s, f (trafficPart.set t s) = ((f s).1, trafficPart.set t (f s).2)

theorem ignorant_inTable (table : String)
    {f : Std.ExtTreeMap TableKey TableEntity → Requesting TableService α}
    (h : ∀ rows, Ignorant (f rows)) : Ignorant (inTable table f) := by
  intro t s
  have htables : (trafficPart.set t s).tables = s.tables := rfl
  simp only [inTable, htables]
  cases s.tables[table]? with
  | none => rfl
  | some rows => exact h rows t s

theorem ignorant_fetch (key : TableKey) (rows : Std.ExtTreeMap TableKey TableEntity) :
    Ignorant (fetch key rows) := by
  intro t s
  simp only [fetch]
  split <;> rfl

theorem ignorant_write (table : String) (e : TableEntity)
    (check : TableKey → Option TableEntity → Option ServiceError) :
    Ignorant (write table e check) := by
  intro t s
  simp only [write]
  refine ignorant_inTable table (fun rows => ?_) t { s with tags := s.tags + 1 }
  intro t s
  dsimp only
  split <;> rfl

/-- **The table service serves every request.** -/
theorem serves : client.Serves trafficPart where
  createTable table := by
    simp only [client]
    refine Traffic.serves_counted trafficPart_lawful _ fun t s => ?_
    have htables : (trafficPart.set t s).tables = s.tables := rfl
    simp only [htables]
    split <;> rfl
  get table key := Traffic.serves_counted trafficPart_lawful _
    (ignorant_inTable table (ignorant_fetch key))
  insert table e := Traffic.serves_counted trafficPart_lawful _ (ignorant_write table e _)
  upsert table e tag := Traffic.serves_counted trafficPart_lawful _ (ignorant_write table e _)
  delete table key := by
    refine Traffic.serves_counted trafficPart_lawful _ (ignorant_inTable table ?_)
    intro rows t s
    dsimp only
    split <;> rfl
  query table filter := by
    simp only [client]
    refine Traffic.serves_counted trafficPart_lawful _ fun t s => ?_
    cases rowOfFilter? filter with
    | none => rfl
    | some row => exact ignorant_inTable table (fun _ _ _ => rfl) t s
  ping := Traffic.serves_counted trafficPart_lawful _ fun _ _ => rfl

end TableService

/-! ## Snags -/

/-- One of the requests to come is refused. -/
structure Snag where
  /-- The number of requests that come before it. -/
  after : Nat
  refusal : ServiceError
  /-- The request is not even sent. -/
  withheld : Bool
  deriving DecidableEq, Repr

/-- A request of a kind to a service that may have a snag ahead. -/
def Traffic.snagged (p : Part σ Traffic) (op : ServiceOp) (f : Requesting σ α) :
    Requesting (σ × Option Snag) α
  | (s, none) =>
    let (r, s) := f s
    (r, (s, none))
  | (s, some ⟨n + 1, e, withheld⟩) =>
    let (r, s) := f s
    (r, (s, some ⟨n, e, withheld⟩))
  | (s, some ⟨0, e, true⟩) => (.error e, (s, none))
  | (s, some ⟨0, e, false⟩) =>
    let (r, s) := f (p.set ((p.get s).refuseNext op e) s)
    (r, (s, none))

/-- A document database that may have a snag ahead. -/
def DocumentClient.snagged (p : Part σ Traffic) (client : DocumentClient σ) :
    DocumentClient (σ × Option Snag) where
  createDatabase database := Traffic.snagged p .provision (client.createDatabase database)
  createContainer c throughput :=
    Traffic.snagged p .provision (client.createContainer c throughput)
  read c id := Traffic.snagged p .read (client.read c id)
  create c doc := Traffic.snagged p .create (client.create c doc)
  upsert c doc tag := Traffic.snagged p .upsert (client.upsert c doc tag)
  delete c id := Traffic.snagged p .delete (client.delete c id)
  query c text := Traffic.snagged p .query (client.query c text)
  ping := Traffic.snagged p .ping client.ping

/-- A table service that may have a snag ahead. -/
def TableClient.snagged (p : Part σ Traffic) (client : TableClient σ) :
    TableClient (σ × Option Snag) where
  createTable table := Traffic.snagged p .provision (client.createTable table)
  get table key := Traffic.snagged p .read (client.get table key)
  insert table e := Traffic.snagged p .create (client.insert table e)
  upsert table e tag := Traffic.snagged p .upsert (client.upsert table e tag)
  delete table key := Traffic.snagged p .delete (client.delete table key)
  query table text := Traffic.snagged p .query (client.query table text)
  ping := Traffic.snagged p .ping client.ping

/-- One state is another, but for the traffic, which is free of refusals in
both, and for whether the request at the snag is withheld. -/
structure Traffic.Alike (p : Part σ Traffic) (x y : σ × Option Snag) : Prop where
  free : (p.get x.1).Free
  store : ∃ t, t.Free ∧ y.1 = p.set t x.1
  snag : ∃ withheld, y.2 = x.2.map fun sn => { sn with withheld }

/-! ## Operations that meet snags -/

/-- An operation on a service that does not depend on the traffic, and whose
reply, if it has met the snag, is one of which `R` holds for the refusal and the
number of requests before it. -/
structure MeetsSnags (p : Part σ Traffic) (R : ServiceError → Nat → β → Prop)
    (g : σ × Option Snag → β × (σ × Option Snag)) : Prop where
  alike : ∀ {x y}, Traffic.Alike p x y → (g y).1 = (g x).1 ∧ Traffic.Alike p (g x).2 (g y).2
  clear : ∀ s, (g (s, none)).2.2 = none
  refused : ∀ {s sn}, (p.get s).Free → sn.refusal.Plain → (g (s, some sn)).2.2 = none →
    R sn.refusal sn.after (g (s, some sn)).1

/-- What a backend replies if it is refused something. -/
abbrev Failing (e : ServiceError) (_ : Nat) (r : Except BackendError β) : Prop :=
  r = .error e.toBackendError

/-- An operation of a backend that makes one request. -/
structure MeetsOnce (p : Part σ Traffic) (g : Answering (σ × Option Snag) β) : Prop
    extends MeetsSnags p Failing g where
  due : ∀ {s e withheld}, (p.get s).Free → (g (s, some ⟨0, e, withheld⟩)).2.2 = none
  ahead : ∀ s n e withheld,
    (g (s, some ⟨n + 1, e, withheld⟩)).2.2 = some ⟨n, e, withheld⟩

section Requests

variable {p : Part σ Traffic} {op : ServiceOp} {f : Requesting σ α} {x y : σ × Option Snag} {s : σ}

theorem Traffic.Alike.refl (hp : p.Lawful) (h : (p.get x.1).Free) : Alike p x x where
  free := h
  store := ⟨p.get x.1, h, (hp.set_get x.1).symm⟩
  snag := by
    cases hsnag : x.2 with
    | none => exact ⟨false, rfl⟩
    | some sn => exact ⟨sn.withheld, rfl⟩

/-- The request at the snag is refused, sent or not, and that was the snag. -/
theorem Traffic.Serves.snagged_due (h : Serves p op f) (hp : p.Lawful) (hfree : (p.get s).Free)
    (e : ServiceError) (withheld : Bool) :
    ∃ t, t.Free ∧ snagged p op f (s, some ⟨0, e, withheld⟩) = (.error e, (p.set t s, none)) := by
  cases withheld with
  | true => exact ⟨p.get s, hfree, by rw [hp.set_get]; rfl⟩
  | false =>
    obtain ⟨t, hfree', heq⟩ := h.refuses s e hfree
    exact ⟨t, hfree', by simp only [snagged, heq]⟩

/-- States that are alike answer alike. -/
theorem Traffic.Serves.snagged_alike (h : Serves p op f) (hp : p.Lawful) (hxy : Alike p x y) :
    (snagged p op f y).1 = (snagged p op f x).1 ∧
      Alike p (snagged p op f x).2 (snagged p op f y).2 := by
  obtain ⟨s, o⟩ := x
  obtain ⟨s', o'⟩ := y
  obtain ⟨hfree, ⟨t, hfree', rfl⟩, ⟨withheld, rfl⟩⟩ := hxy
  dsimp only at hfree
  obtain ⟨t', hfree'', heq⟩ := h.ignores s t hfree hfree'
  have hreply := congrArg Prod.fst heq
  have hstore := congrArg Prod.snd heq
  have hstays := h.free hp hfree
  match o with
  | none => exact ⟨hreply, hstays, ⟨t', hfree'', hstore⟩, false, rfl⟩
  | some ⟨n + 1, e, _⟩ => exact ⟨hreply, hstays, ⟨t', hfree'', hstore⟩, withheld, rfl⟩
  | some ⟨0, e, withheld'⟩ =>
    obtain ⟨t₁, hfree₁, heq₁⟩ := h.snagged_due hp hfree e withheld'
    obtain ⟨t₂, hfree₂, heq₂⟩ := h.snagged_due hp (s := p.set t s) (by rwa [hp.get_set]) e withheld
    rw [heq₁, Option.map_some, heq₂, hp.set_set]
    refine ⟨rfl, ?_, ⟨t₂, hfree₂, (hp.set_set _ _ _).symm⟩, false, rfl⟩
    show (p.get (p.set t₁ s)).Free
    rwa [hp.get_set]

/-- Whatever is made of the answer, if the refusal is made what it says. -/
theorem Traffic.Serves.meetsOnce (h : Serves p op f) (hp : p.Lawful)
    (make : Except ServiceError α → Except BackendError β)
    (hmake : ∀ e : ServiceError, e.Plain → make (.error e) = .error e.toBackendError) :
    MeetsOnce p fun x => (make (snagged p op f x).1, (snagged p op f x).2) where
  alike hxy := by
    obtain ⟨hreply, halike⟩ := h.snagged_alike hp hxy
    exact ⟨congrArg make hreply, halike⟩
  clear _ := rfl
  refused {s sn} hfree hplain hmet := by
    obtain ⟨_ | n, e, withheld⟩ := sn
    · obtain ⟨t, -, heq⟩ := h.snagged_due hp hfree e withheld
      dsimp only
      rw [heq]
      exact hmake e hplain
    · cases hmet
  due {s e withheld} hfree := by
    obtain ⟨t, -, heq⟩ := h.snagged_due hp hfree e withheld
    dsimp only
    rw [heq]
  ahead _ _ _ _ := rfl

theorem Traffic.Serves.meetsOnce_asking (h : Serves p op f) (hp : p.Lawful)
    (decode : α → Except BackendError β) :
    MeetsOnce p (Backend.asking (snagged p op f) decode) := by
  rw [Backend.asking_eq]
  exact h.meetsOnce hp (Backend.received decode) fun _ _ => rfl

section Derived

variable {R : ServiceError → Nat → α → Prop} {g : σ × Option Snag → α × (σ × Option Snag)}

theorem MeetsSnags.free (h : MeetsSnags p R g) (hp : p.Lawful) (hfree : (p.get x.1).Free) :
    (p.get (g x).2.1).Free :=
  (h.alike (.refl hp hfree)).2.free

/-- Nothing is asked of the service. -/
theorem MeetsSnags.still (a : α) : MeetsSnags p R fun x => (a, x) :=
  ⟨fun hxy => ⟨rfl, hxy⟩, fun _ => rfl, fun _ _ hmet => nomatch hmet⟩

/-- Something is made of the reply. -/
theorem MeetsSnags.map (h : MeetsSnags p R g) {R' : ServiceError → Nat → β → Prop} (make : α → β)
    (hmake : ∀ e n a, e.Plain → R e n a → R' e n (make a)) :
    MeetsSnags p R' fun x => (make (g x).1, (g x).2) where
  alike hxy := by
    obtain ⟨hreply, halike⟩ := h.alike hxy
    exact ⟨congrArg make hreply, halike⟩
  clear := h.clear
  refused hfree hplain hmet := hmake _ _ _ hplain (h.refused hfree hplain hmet)

end Derived

/-- One operation after another, unless that fails. -/
def Answering.andThen (g₁ : Answering σ Unit) (g₂ : Answering σ β) : Answering σ β := fun s =>
  match g₁ s with
  | (.error e, s) => (.error e, s)
  | (.ok (), s) => g₂ s

theorem MeetsOnce.andThen {g₁ : Answering (σ × Option Snag) Unit}
    {g₂ : Answering (σ × Option Snag) β} (h₁ : MeetsOnce p g₁) (h₂ : MeetsSnags p Failing g₂)
    (hp : p.Lawful) : MeetsSnags p Failing (Answering.andThen g₁ g₂) where
  alike {x y} hxy := by
    obtain ⟨hreply, halike⟩ := h₁.alike hxy
    rcases hx : g₁ x with ⟨r, x'⟩
    rcases hy : g₁ y with ⟨r', y'⟩
    rw [hx, hy] at hreply halike
    obtain rfl : r' = r := hreply
    simp only [Answering.andThen, hx, hy]
    cases r' with
    | error e => exact ⟨rfl, halike⟩
    | ok => exact h₂.alike halike
  clear s := by
    have hclear := h₁.clear s
    rcases hx : g₁ (s, none) with ⟨r, s', o⟩
    rw [hx] at hclear
    obtain rfl : o = none := hclear
    simp only [Answering.andThen, hx]
    cases r with
    | error e => rfl
    | ok => exact h₂.clear s'
  refused {s sn} hfree hplain hmet := by
    -- the first request is the one refused, or it uses up one of those that come before
    obtain ⟨_ | n, e, withheld⟩ := sn
    · have hrefused := h₁.refused hfree hplain (h₁.due hfree)
      rcases hx : g₁ (s, some ⟨0, e, withheld⟩) with ⟨r, x'⟩
      rw [hx] at hrefused
      obtain rfl : r = _ := hrefused
      simp only [Answering.andThen, hx]
    · have hahead := h₁.ahead s n e withheld
      have hfree' := h₁.free hp (x := (s, some ⟨n + 1, e, withheld⟩)) hfree
      rcases hx : g₁ (s, some ⟨n + 1, e, withheld⟩) with ⟨r, s', o⟩
      rw [hx] at hahead hfree'
      obtain rfl : o = _ := hahead
      simp only [Answering.andThen, hx] at hmet ⊢
      cases r with
      | error e' => cases hmet
      | ok => exact h₂.refused hfree' hplain hmet

end Requests

/-! ## Backends that meet snags -/

/-- Each operation of the backend meets snags, and a delete makes one request and
takes no time. -/
structure Backend.MeetsSnags (p : Part σ Traffic) (b : Backend (σ × Option Snag)) : Prop where
  ensure : ∀ c, LeaseStore.MeetsSnags p Failing (b.ensure c)
  create : ∀ c r, LeaseStore.MeetsSnags p Failing (b.create c r)
  upsert : ∀ c r w, LeaseStore.MeetsSnags p Failing (b.upsert c r w)
  read : ∀ c id, LeaseStore.MeetsSnags p Failing (b.read c id)
  delay : ∀ c id s, (b.startDelete c id s).1.delay = 0
  delete : ∀ c id, MeetsOnce p (b.deleteNow c id)
  list : ∀ c, LeaseStore.MeetsSnags p Failing (b.list c)
  health : LeaseStore.MeetsSnags p Failing b.health

/-- What a wave of deletes is replied if one of them is refused. -/
abbrev FailingAt (ids : List String) (e : ServiceError) (n : Nat)
    (rs : List (Except BackendError Unit)) : Prop :=
  (∃ id, ids[n]? = some id) ∧ rs[n]? = some (.error e.toBackendError)

/-- Of several deletes the one at the snag is refused. Induction on the ids. -/
theorem Backend.MeetsSnags.deleteEach {p : Part σ Traffic} {b : Backend (σ × Option Snag)}
    (h : b.MeetsSnags p) (hp : p.Lawful) (c : CollectionRef) (ids : List String) :
    LeaseStore.MeetsSnags p (FailingAt ids) (b.deleteEach c ids) := by
  induction ids with
  | nil => exact .still []
  | cons id ids ih =>
    have hdelete := h.delete c id
    constructor
    case alike =>
      intro x y hxy
      obtain ⟨hfirst, halike⟩ := hdelete.alike hxy
      obtain ⟨hrest, halike'⟩ := ih.alike halike
      simp only [Backend.deleteEach, hfirst, hrest]
      exact ⟨trivial, halike'⟩
    case clear =>
      intro s
      have hclear := hdelete.clear s
      rcases hx : b.deleteNow c id (s, none) with ⟨r, s', o⟩
      rw [hx] at hclear
      obtain rfl : o = none := hclear
      simp only [Backend.deleteEach, hx]
      exact ih.clear s'
    case refused =>
      intro s sn hfree hplain hmet
      obtain ⟨_ | n, e, withheld⟩ := sn
      · have hrefused := hdelete.refused hfree hplain (hdelete.due hfree)
        exact ⟨⟨id, rfl⟩, congrArg some hrefused⟩
      · have hahead := hdelete.ahead s n e withheld
        have hfree' := hdelete.free hp (x := (s, some ⟨n + 1, e, withheld⟩)) hfree
        rcases hx : b.deleteNow c id (s, some ⟨n + 1, e, withheld⟩) with ⟨r, s', o⟩
        rw [hx] at hahead hfree'
        obtain rfl : o = _ := hahead
        simp only [Backend.deleteEach, hx] at hmet ⊢
        exact @ih.refused s' ⟨n, e, withheld⟩ hfree' hplain hmet

section Clients

variable {p : Part σ Traffic}

/-- To provide for a collection is to create the database and then the
container. -/
theorem DocumentClient.ensure_eq (client : DocumentClient σ) (throughput : Nat)
    (c : CollectionRef) : (client.backend throughput).ensure c =
      Answering.andThen (Backend.asking (client.createDatabase c.database) .ok)
        (Backend.asking (client.createContainer c throughput) .ok) := by
  funext s
  simp only [backend, Answering.andThen, Backend.asking]
  split <;> rename_i hreply <;> simp only [hreply]

theorem DocumentClient.Serves.meetsSnags {client : DocumentClient σ} (h : client.Serves p)
    (hp : p.Lawful) (throughput : Nat) :
    ((client.snagged p).backend throughput).MeetsSnags p where
  ensure c := by
    rw [ensure_eq]
    exact ((h.createDatabase c.database).meetsOnce_asking hp .ok).andThen
      ((h.createContainer c throughput).meetsOnce_asking hp .ok).toMeetsSnags hp
  create c r := ((h.create c r.toDocument).meetsOnce_asking hp _).toMeetsSnags
  upsert c r w := ((h.upsert c r.toDocument w.token?).meetsOnce_asking hp _).toMeetsSnags
  read c id := ((h.read c id).meetsOnce_asking hp _).toMeetsSnags
  delay _ _ _ := rfl
  delete c id := (h.delete c id).meetsOnce_asking hp .ok
  list c := ((h.query c selectAll).meetsOnce_asking hp _).toMeetsSnags
  health := (h.ping.meetsOnce_asking hp .ok).toMeetsSnags

theorem TableService.upserted_error (w : WriteCondition) {e : ServiceError} (h : e.Plain) :
    upserted w (.error e) = .error e.toBackendError := by
  cases w with
  | always => rfl
  | ifToken token =>
    show Except.error (TableClient.lostRace e.toBackendError) = _
    rw [h.toBackendError]
    rfl

theorem TableClient.Serves.meetsSnags {client : TableClient σ} (h : client.Serves p)
    (hp : p.Lawful) : (client.snagged p).backend.MeetsSnags p where
  ensure c := ((h.createTable c.collection).meetsOnce_asking hp .ok).toMeetsSnags
  create c r := ((h.insert c.collection r.toEntity).meetsOnce_asking hp _).toMeetsSnags
  upsert c r w := by
    rw [TableService.upsert_eq]
    have honce := (h.upsert c.collection r.toEntity w.token?).meetsOnce hp
      (TableService.upserted w) fun _ => TableService.upserted_error w
    exact honce.toMeetsSnags
  read c id := ((h.get c.collection (.ofId id)).meetsOnce_asking hp _).toMeetsSnags
  delay _ _ _ := rfl
  delete c id := (h.delete c.collection (.ofId id)).meetsOnce_asking hp .ok
  list c := ((h.query c.collection recordFilter).meetsOnce_asking hp _).toMeetsSnags
  health := (h.ping.meetsOnce_asking hp .ok).toMeetsSnags

end Clients

/-! ## Connectors -/

/-- The connector leaves the state as it is, answers whatever the state, and
opens backends that meet snags. -/
structure Connector.MeetsSnags (p : Part σ Traffic) (k : Connector (σ × Option Snag)) : Prop where
  same : ∀ c x, (k c x).2 = x
  reply : ∀ c x y, (k c x).1 = (k c y).1
  opens : ∀ c x b, (k c x).1 = .ok b → b.MeetsSnags p

namespace Fleet

/-- The services in the cloud. -/
inductive Cloud where
  | document
  | table
  deriving DecidableEq, Repr

/-- The traffic of a service. -/
def Cloud.traffic : Cloud → Part Fleet Traffic
  | document => documentPart.trans DocumentService.trafficPart
  | table => tablePart.trans TableService.trafficPart

/-- How engines connect to a service that may have a snag ahead. -/
def Cloud.connector : Cloud → Connector (Fleet × Option Snag)
  | document => DocumentClient.connector (.always (documentClient.snagged document.traffic))
  | table => TableClient.connector (.always (tableClient.snagged table.traffic))

theorem Cloud.traffic_lawful (kind : Cloud) : kind.traffic.Lawful := by
  cases kind with
  | document => exact documentPart_lawful.trans DocumentService.trafficPart_lawful
  | table => exact tablePart_lawful.trans TableService.trafficPart_lawful

/-- **The backends of both services meet snags.** -/
theorem Cloud.meetsSnags (kind : Cloud) : kind.connector.MeetsSnags kind.traffic where
  same c x := by
    cases kind <;> simp only [connector, DocumentClient.connector, TableClient.connector] <;>
      split <;> rfl
  reply c x y := by
    cases kind <;> simp only [connector, DocumentClient.connector, TableClient.connector] <;>
      split <;> rfl
  opens c x b h := by
    cases kind with
    | document =>
      simp only [connector, DocumentClient.connector] at h
      split at h
      · cases h
      · cases h
        exact (DocumentService.serves.within documentPart_lawful).meetsSnags
          (traffic_lawful .document) c.throughput
    | table =>
      simp only [connector, TableClient.connector] at h
      split at h
      · cases h
      · cases h
        exact (TableService.serves.within tablePart_lawful).meetsSnags (traffic_lawful .table)

end Fleet

end LeaseStore
