/-
LeaseStore.Proofs.Store.Stamps — tokens come from the store.

A record that is written carries a token, perhaps that of the version it was
read at, perhaps one that the caller made up. No backend looks at it: the store
in memory stamps the record anew, and neither a document nor an entity has a
place for it. So what a write comes to does not depend on that token
(`Backend.Stamps`).

* `Fleet.stamps_shared` — every backend that a shared connector opens does so.
-/
import LeaseStore.Proofs.Store.Fleet

namespace LeaseStore

variable {σ τ : Type}

/-- A write takes no notice of the token that its record carries. -/
structure Backend.Stamps (b : Backend σ) : Prop where
  create : ∀ c r token, b.create c { r with token } = b.create c r
  upsert : ∀ c r w token, b.upsert c { r with token } w = b.upsert c r w

namespace Backend.Stamps

theorem within {b : Backend τ} (h : b.Stamps) (p : Part σ τ) : (b.within p).Stamps where
  create c r token := congrArg p.lift (h.create c r token)
  upsert c r w token := congrArg p.lift (h.upsert c r w token)

theorem faulty {b : Backend σ} (h : b.Stamps) : b.faulty.Stamps where
  create c r token := congrArg beside (h.create c r token)
  upsert c r w token := congrArg (behind b.name .upsert) (h.upsert c r w token)

end Backend.Stamps

theorem MemoryStore.stamps : MemoryStore.backend.Stamps := ⟨fun _ _ _ => rfl, fun _ _ _ _ => rfl⟩

/-- A document has no member for the token of the record that is sent. -/
theorem DocumentClient.stamps (client : DocumentClient σ) (throughput : Nat) :
    (client.backend throughput).Stamps := ⟨fun _ _ _ => rfl, fun _ _ _ _ => rfl⟩

/-- An entity has no property for it. -/
theorem TableClient.stamps (client : TableClient σ) : client.backend.Stamps :=
  ⟨fun _ _ _ => rfl, fun _ _ _ _ => rfl⟩

/-- Whatever backend a shared connector opens, its writes stamp records anew. -/
theorem Fleet.stamps_shared (kind : BackendKind) {c : Config} {f : Fleet} {b : Backend Fleet}
    (h : (shared kind c f).1 = .ok b) : b.Stamps := by
  cases kind with
  | memory =>
    cases h
    exact MemoryStore.stamps.faulty.within _
  | document =>
    simp only [shared, documentConnector, DocumentClient.connector] at h
    split at h
    · cases h
    · cases h
      exact DocumentClient.stamps _ _
  | table =>
    simp only [shared, tableConnector, TableClient.connector] at h
    split at h
    · cases h
    · cases h
      exact TableClient.stamps _

end LeaseStore
