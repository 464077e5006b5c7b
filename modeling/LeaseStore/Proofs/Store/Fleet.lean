/-
LeaseStore.Proofs.Store.Fleet — the backends that engines share.

Engines of one fleet share a store in memory, the document database or the
table service. Whichever it is, they reach it through a connector that
leaves every record as it is and opens a lawful backend
(`Fleet.lawful_shared`), so what is proved of one lawful backend is proved
of all three kinds.
-/
import LeaseStore.Fleet
import LeaseStore.Proofs.Store.Combine
import LeaseStore.Proofs.Store.Documents
import LeaseStore.Proofs.Store.Memory
import LeaseStore.Proofs.Store.Tables

namespace LeaseStore

/-! ## Connectors -/

/-- A connector opens lawful backends and touches no record. -/
structure Connector.Lawful {σ : Type} (k : Connector σ) (V : View σ) : Prop where
  same : ∀ c s, V.Same s (k c s).2
  opens : ∀ c s b, (k c s).1 = .ok b → b.Lawful V

/-! ## Clients within larger states -/

section Within

variable {σ τ : Type} (p : Part σ τ)

/-- What is set is what one gets, the last one set stays, and what one got
is set already. -/
structure Part.Lawful : Prop where
  get_set : ∀ t s, p.get (p.set t s) = t
  set_set : ∀ t t' s, p.set t (p.set t' s) = p.set t s
  set_get : ∀ s, p.set (p.get s) s = s

variable {p} in
theorem Part.Lawful.immediately (hp : p.Lawful)
    (delete : CollectionRef → String → Answering τ Unit) :
    Backend.immediately (fun c id => p.lift (delete c id)) = fun c id s =>
      let (d, s) := p.lift (Backend.immediately delete c id) s
      ({ delay := d.delay, settle := p.lift d.settle }, s) := by
  funext c id s
  simp only [Backend.immediately, Part.lift, hp.set_get]

theorem Backend.asking_lift {α β : Type} (request : Requesting τ α)
    (f : α → Except BackendError β) :
    Backend.asking (p.lift request) f = p.lift (Backend.asking request f) := by
  funext s
  simp only [Backend.asking, Part.lift]
  split <;> rename_i h <;> simp only [Prod.mk.injEq] at h <;> obtain ⟨hreply, rfl⟩ := h
  · rw [show request (p.get s) = (.error _, (request (p.get s)).2) from Prod.ext hreply rfl]
  · rw [show request (p.get s) = (.ok _, (request (p.get s)).2) from Prod.ext hreply rfl]

variable {p} in
theorem TableClient.backend_within (hp : p.Lawful) (client : TableClient τ) :
    (client.within p).backend = client.backend.within p := by
  simp only [TableClient.backend, TableClient.within, Backend.within, Backend.asking_lift,
    Backend.mk.injEq, true_and, hp.immediately, and_true]
  funext c r w s
  rcases hreply : client.upsert c.collection r.toEntity w.token? (p.get s) with ⟨_ | _, s'⟩
  · cases w <;> simp only [Part.lift, hreply]
  · simp only [Part.lift, hreply]

variable {p} in
theorem DocumentClient.backend_within (hp : p.Lawful) (client : DocumentClient τ)
    (throughput : Nat) :
    (client.within p).backend throughput = (client.backend throughput).within p := by
  simp only [DocumentClient.backend, DocumentClient.within, Backend.within, Backend.asking_lift,
    Backend.mk.injEq, true_and, hp.immediately, and_true]
  funext c s
  rcases hreply : client.createDatabase c.database (p.get s) with ⟨_ | _, s'⟩
  · simp only [Part.lift, hreply]
  · simp only [Part.lift, hreply, hp.get_set, hp.set_set]

end Within

namespace Fleet

/-- How engines connect to the shared backend of a kind. -/
def shared : BackendKind → Connector Fleet
  | .memory => opening (memoryBackend sharedMemory)
  | .document => documentConnector none
  | .table => tableConnector none

/-- The view of the shared backend of a kind. -/
def view : BackendKind → View Fleet
  | .memory => MemoryStore.view.faulty.within (memoryPart sharedMemory)
  | .document => DocumentService.view.within documentPart
  | .table => TableService.view.within tablePart

theorem documentPart_lawful : documentPart.Lawful :=
  ⟨fun _ _ => rfl, fun _ _ _ => rfl, fun _ => rfl⟩

theorem tablePart_lawful : tablePart.Lawful :=
  ⟨fun _ _ => rfl, fun _ _ _ => rfl, fun _ => rfl⟩

theorem get_set_memoryPart (n : Nat) (t : MemoryStore × FaultPlan) (f : Fleet) :
    (memoryPart n).get ((memoryPart n).set t f) = t := by
  simp [memoryPart, memory]

theorem lawful_memoryBackend (n : Nat) :
    (memoryBackend n).Lawful (MemoryStore.view.faulty.within (memoryPart n)) :=
  MemoryStore.lawful.faulty.within (get_set_memoryPart n)

theorem lawful_documentClient (throughput : Nat) :
    (documentClient.backend throughput).Lawful (DocumentService.view.within documentPart) := by
  rw [documentClient, DocumentClient.backend_within documentPart_lawful]
  exact (DocumentService.lawful throughput).within documentPart_lawful.get_set

theorem lawful_tableClient :
    tableClient.backend.Lawful (TableService.view.within tablePart) := by
  rw [tableClient, TableClient.backend_within tablePart_lawful]
  exact TableService.lawful.within tablePart_lawful.get_set

/-- A configuration that the connector of a kind can work with: the
services need an account, and the store in memory needs nothing. -/
def Reaches : BackendKind → Config → Prop
  | .memory, _ => True
  | .document, c =>
    ∃ account,
      ConnectionString.parse c.connectionString >>= DocumentAccount.ofSettings = .ok account
  | .table, c =>
    ∃ account, ConnectionString.parse c.connectionString >>= TableAccount.ofSettings = .ok account

/-- To connect changes nothing. -/
theorem shared_snd (kind : BackendKind) (c : Config) (f : Fleet) : (shared kind c f).2 = f := by
  cases kind with
  | memory => rfl
  | document =>
    simp only [shared, documentConnector, DocumentClient.connector]
    split <;> rfl
  | table =>
    simp only [shared, tableConnector, TableClient.connector]
    split <;> rfl

theorem shared_ok {kind : BackendKind} {c : Config} (h : Reaches kind c) (f : Fleet) :
    ∃ b, (shared kind c f).1 = .ok b := by
  cases kind with
  | memory => exact ⟨_, rfl⟩
  | document =>
    obtain ⟨account, hparse⟩ := h
    simp only [shared, documentConnector, DocumentClient.connector, hparse]
    exact ⟨_, rfl⟩
  | table =>
    obtain ⟨account, hparse⟩ := h
    simp only [shared, tableConnector, TableClient.connector, hparse]
    exact ⟨_, rfl⟩

/-- **The shared backends are lawful**, each for the view of its kind. -/
theorem lawful_shared (kind : BackendKind) : (shared kind).Lawful (view kind) where
  same c f := by
    rw [shared_snd]
    exact .refl f
  opens c f b h := by
    cases kind with
    | memory =>
      cases h
      exact lawful_memoryBackend sharedMemory
    | document =>
      simp only [shared, documentConnector, DocumentClient.connector] at h
      split at h
      · cases h
      · cases h
        exact lawful_documentClient c.throughput
    | table =>
      simp only [shared, tableConnector, TableClient.connector] at h
      split at h
      · cases h
      · cases h
        exact lawful_tableClient

/-! ## Where runs begin -/

/-- Nothing has been put into the shared backend of a kind. -/
def Vacant : BackendKind → Fleet → Prop
  | .memory, f => (f.memory sharedMemory).collections = ∅
  | .document, f => f.documents.containers = ∅
  | .table, f => f.tables.tables = ∅

theorem look_of_vacant {kind : BackendKind} {f : Fleet} (h : Vacant kind f)
    (c : CollectionRef) (id : String) : (view kind).look f c id = none := by
  cases kind with
  | memory =>
    show (f.memory sharedMemory).get? c id = none
    rw [MemoryStore.get?, h]
    simp
  | document =>
    show (f.documents.document? c id).bind _ = none
    rw [DocumentService.document?, h]
    simp
  | table =>
    show (f.tables.entity? c.collection (.ofId id)).bind _ = none
    rw [TableService.entity?, h]
    simp

theorem calm_of_empty {f : Fleet} (h : f.faults.Empty) : (view .memory).Calm f :=
  ⟨⟨trivial, h⟩, trivial⟩

theorem sound_of_vacant {kind : BackendKind} {f : Fleet} (h : Vacant kind f) :
    (view kind).Sound f := by
  cases kind with
  | memory =>
    intro c id r hr
    have hvacant : Vacant .memory f := h
    have hnone : (f.memory sharedMemory).get? c id = none := look_of_vacant hvacant c id
    exact absurd (hnone.symm.trans hr) (by simp)
  | document =>
    intro c id doc hdoc
    have hnone : f.documents.document? c id = none := by
      rw [DocumentService.document?, h]
      simp
    exact absurd (hnone.symm.trans hdoc) (by simp)
  | table =>
    intro table key e he
    have hnone : f.tables.entity? table key = none := by
      rw [TableService.entity?, h]
      simp
    exact absurd (hnone.symm.trans he) (by simp)

end Fleet

end LeaseStore
