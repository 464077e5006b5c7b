/-
LeaseStore.Proofs.Calls.Contention — one attempt to take a lock, from within.

An attempt to lock (`Operation.tryToLock`) reads one record and writes it
back once at most. What it answers is settled by what it has done and was
shown (`Decided`): true exactly if its write went through, and false if the
write did not, if someone else was seen to hold the lock, or if the attempt
was `Hindered`, that is, if the store failed it or showed it a record that
had expired.

An attempt never waits for anybody: whatever it is answered, it ends after a
bounded number of actions (`Operation.endsWithin_tryToLock`).
-/
import LeaseStore.Proofs.Calls.Conduct

namespace LeaseStore

open Call

/-! ## What an attempt has met with -/

/-- The call was kept from deciding on the record: it could not connect or
read, or what it read had expired. -/
inductive Hindered (id : String) (past : List Exchange) : Prop
  | connect {err : StoreError} : ⟨.connect, .error err⟩ ∈ past → Hindered id past
  | read {err : BackendError} : ⟨.read id, .error err⟩ ∈ past → Hindered id past
  | expired {v : Record} {t : Instant} : ⟨.read id, .ok v⟩ ∈ past → ⟨.now, t⟩ ∈ past →
      v.isExpiredAt t → Hindered id past

/-- Someone else was seen to hold the lock of the record that was read. -/
def Contended (id : String) (owner : Owner) (past : List Exchange) : Prop :=
  ∃ v t, ⟨.read id, .ok v⟩ ∈ past ∧ ⟨.now, t⟩ ∈ past ∧ v.isLockedByOthersAt owner t

/-- The exchange is a conditional write, whether it went through or not. -/
def Exchange.IsWrite : Exchange → Prop
  | ⟨.upsert _ _, _⟩ => True
  | _ => False

/-- The call has sent a write to the store. -/
def Tried (past : List Exchange) : Prop := ∃ x ∈ past, x.IsWrite

theorem Hindered.cons {id : String} {past : List Exchange} (h : Hindered id past)
    (x : Exchange) : Hindered id (x :: past) := by
  cases h with
  | connect hmem => exact .connect (List.mem_cons_of_mem x hmem)
  | read hmem => exact .read (List.mem_cons_of_mem x hmem)
  | expired hread hnow hexp =>
    exact .expired (List.mem_cons_of_mem x hread) (List.mem_cons_of_mem x hnow) hexp

@[simp] theorem tried_cons {x : Exchange} {past : List Exchange} :
    Tried (x :: past) ↔ x.IsWrite ∨ Tried past := by
  simp [Tried]

theorem not_tried_nil : ¬ Tried [] := by
  simp [Tried]

theorem Operation.Wrote.tried {past : List Exchange} (h : Operation.Wrote past) : Tried past := by
  obtain ⟨r, w, stored, hmem⟩ := h
  exact ⟨_, hmem, trivial⟩

/-- What an attempt to lock the record `id` may do after `past`. -/
def Attempting (id : String) (past : List Exchange) : Action → Prop
  | .connect | .now | .count _ => True
  | .read id' => id' = id
  | .delete _ => Hindered id past
  | .upsert _ _ => ¬ Tried past
  | _ => False

/-- How the answer of an attempt came about. -/
def Decided (id : String) (owner : Owner) (past : List Exchange) :
    Except StoreError Bool → Prop
  | .ok true => Operation.Wrote past
  | .ok false => ¬ Operation.Wrote past ∧
    (Tried past ∨ Contended id owner past ∨ Hindered id past)
  | .error _ => Hindered id past

/-! ## One attempt -/

namespace Operation

variable {past : List Exchange} {id : String} {owner : Owner} {seconds : Nat}

/-- Nothing was written so far, and either this record was read or the call
was hindered. -/
def Looked (id : String) (past : List Exchange) : Option Record → Prop
  | some v => ¬ Tried past ∧ ⟨.read id, .ok v⟩ ∈ past
  | none => ¬ Tried past ∧ Hindered id past

theorem Looked.count {found : Option Record} (h : Looked id past found) (c : Counter) :
    Looked id (⟨.count c, ()⟩ :: past) found := by
  cases found with
  | some v => exact ⟨by simpa [Exchange.IsWrite] using h.1, List.mem_cons_of_mem _ h.2⟩
  | none => exact ⟨by simpa [Exchange.IsWrite] using h.1, h.2.cons _⟩

theorem along_purge_of_hindered {id' : String} (h : Looked id past none) :
    (purge id').Along (Attempting id) (fun past' _ => Looked id past' none) past := by
  have hdelete (r : Except BackendError Unit) :
      Looked id (⟨.delete id', r⟩ :: ⟨.count .delete, ()⟩ :: past) none :=
    ⟨by simpa [Exchange.IsWrite] using h.1, (h.2.cons _).cons _⟩
  refine ⟨trivial, fun _ => ⟨h.2.cons _, fun r => ?_⟩⟩
  match r with
  | .ok () => exact ⟨trivial, fun _ => (hdelete _).count _⟩
  | .error .notFound => exact hdelete _
  | .error (.alreadyExists) | .error (.preconditionFailed) | .error (.failure ..) =>
    exact ⟨trivial, fun _ => (hdelete _).count _⟩

/-- A read of one record, as the first thing that a call does. -/
theorem along_get_attempting (id : String) :
    (get id).Along (Attempting id) (fun past' res => Looked id past' res.toOption) [] := by
  refine ⟨trivial, fun r => ?_⟩
  match r with
  | .error err =>
    exact ⟨by simp [Exchange.IsWrite, not_tried_nil], .connect List.mem_cons_self⟩
  | .ok c =>
    refine ⟨trivial, fun _ => ⟨rfl, fun r => ?_⟩⟩
    have htried : ¬ Tried [⟨.read id, r⟩, ⟨.count .get, ()⟩, ⟨.connect, .ok c⟩] := by
      simp [Exchange.IsWrite, not_tried_nil]
    match r with
    | .error err =>
      have hlooked : Looked id _ none := ⟨htried, .read List.mem_cons_self⟩
      exact ⟨trivial, fun _ => hlooked.count _⟩
    | .ok v =>
      refine ⟨trivial, fun t => ?_⟩
      have htried' : ¬ Tried
          [⟨.now, t⟩, ⟨.read id, .ok v⟩, ⟨.count .get, ()⟩, ⟨.connect, .ok c⟩] := by
        simpa [Exchange.IsWrite] using htried
      show Call.Along _ _ _ (if v.isExpiredAt t then _ else _)
      split
      case isTrue hexp =>
        refine along_bind (along_purge_of_hindered
          ⟨htried', .expired (v := v) (t := t) (by simp) (by simp) hexp⟩) fun past' _ h => ?_
        exact ⟨trivial, fun _ => h.count .notFound⟩
      case isFalse => exact ⟨htried', by simp⟩

theorem along_readForLock_attempting (id : String) :
    (readForLock id).Along (Attempting id) (fun past' res => Looked id past' res.toOption.join)
      [] := by
  refine along_bind (along_get_attempting id) ?_
  rintro past' (err | v) hlooked
  · cases err <;> exact hlooked
  · exact hlooked

theorem wrote_cons {x : Exchange} :
    Wrote (x :: past) ↔ (∃ r w stored, x = ⟨.upsert r w, .ok stored⟩) ∨ Wrote past := by
  constructor
  · rintro ⟨r, w, stored, hmem⟩
    obtain heq | hmem := List.mem_cons.1 hmem
    · exact .inl ⟨r, w, stored, heq.symm⟩
    · exact .inr ⟨r, w, stored, hmem⟩
  · rintro (⟨r, w, stored, rfl⟩ | ⟨r, w, stored, hmem⟩)
    · exact ⟨r, w, stored, List.mem_cons_self⟩
    · exact ⟨r, w, stored, List.mem_cons_of_mem x hmem⟩

theorem wrote_count_iff {c : Counter} : Wrote (⟨.count c, ()⟩ :: past) ↔ Wrote past := by
  simp [wrote_cons]

/-- A write back, as the only write of a call, tells whether it went
through. -/
theorem along_writeBack_attempting {r : Record} (htried : ¬ Tried past) :
    (writeBack r).Along (Attempting id)
      (fun past' ok => Tried past' ∧ (ok = true ↔ Wrote past')) past := by
  have hwrote : ¬ Wrote past := fun h => htried h.tried
  refine ⟨htried, fun reply => ?_⟩
  match reply with
  | .ok stored =>
    exact ⟨trivial, fun _ => ⟨by simp [Exchange.IsWrite], by simp [wrote_cons]⟩⟩
  | .error err =>
    exact ⟨trivial, fun _ => ⟨by simp [Exchange.IsWrite], by simp [wrote_cons, hwrote]⟩⟩

/-- **What an attempt to lock does, and why it answers as it does.** -/
theorem along_tryToLock_attempting (id : String) (owner : Owner) (seconds : Nat) :
    (tryToLock id owner seconds).Along (Attempting id) (Decided id owner) [] := by
  refine along_bind (along_readForLock_attempting id) ?_
  rintro past' (err | _ | v) ⟨htried, hlooked⟩
  · exact hlooked
  · refine ⟨trivial, fun _ => ⟨fun h => htried (wrote_count_iff.1 h).tried, .inr (.inr ?_)⟩⟩
    exact hlooked.cons _
  · refine ⟨trivial, fun t => ?_⟩
    have htried' : ¬ Tried (⟨.now, t⟩ :: past') := by
      simpa [Exchange.IsWrite] using htried
    show Call.Along _ _ _ (if v.isLockedByOthersAt owner t then _ else _)
    split
    case isTrue hlocked =>
      refine ⟨trivial, fun _ => ⟨fun h => htried' (wrote_count_iff.1 h).tried, .inr (.inl ?_)⟩⟩
      exact ⟨v, t, by simp [hlooked], by simp, hlocked⟩
    case isFalse =>
      refine along_bind (along_writeBack_attempting htried') ?_
      rintro past'' (_ | _) ⟨hsent, hwrote⟩
      · refine ⟨trivial, fun _ => ⟨fun h => ?_, .inl (tried_cons.2 (.inr hsent))⟩⟩
        exact absurd (hwrote.2 (wrote_count_iff.1 h)) (by simp)
      · exact ⟨trivial, fun _ => wrote_count_iff.2 (hwrote.1 rfl)⟩

end Operation

/-! ## How long an attempt takes -/

/-- The call ends after so many actions at most, whatever it is answered. -/
def Call.EndsWithin {α : Type} : Nat → Call α → Prop
  | _, done _ => True
  | 0, act _ _ => False
  | n + 1, act _ next => ∀ r, EndsWithin n (next r)

namespace Call

variable {α β : Type} {n m : Nat}

theorem endsWithin_done (n : Nat) (a : α) : (done a).EndsWithin n := by
  cases n <;> exact trivial

theorem EndsWithin.mono {x : Call α} (h : x.EndsWithin n) (hnm : n ≤ m) : x.EndsWithin m := by
  induction x generalizing n m with
  | done a => exact endsWithin_done m a
  | act a next ih =>
    cases n with
    | zero => exact h.elim
    | succ n =>
      obtain ⟨m, rfl⟩ := Nat.exists_eq_add_of_lt hnm
      exact fun r => ih r (h r) (by omega)

/-- Induction on the first call: what follows it starts with at least the
actions that it was given. -/
theorem EndsWithin.bind {x : Call α} {f : α → Call β} (hx : x.EndsWithin n)
    (hf : ∀ a, (f a).EndsWithin m) : (x >>= f).EndsWithin (n + m) := by
  induction x generalizing n with
  | done a => exact (hf a).mono (by omega)
  | act a next ih =>
    cases n with
    | zero => exact hx.elim
    | succ n =>
      rw [Nat.succ_add]
      exact fun r => ih r (hx r)

end Call

namespace Operation

theorem endsWithin_purge (id : String) : (purge id).EndsWithin 3 := by
  intro _ r
  match r with
  | .ok () | .error .alreadyExists | .error .preconditionFailed | .error (.failure ..) =>
    exact fun _ => trivial
  | .error .notFound => exact trivial

theorem endsWithin_get (id : String) : (get id).EndsWithin 8 := by
  intro r
  match r with
  | .error err => exact trivial
  | .ok c =>
    intro _ r
    match r with
    | .error err => exact fun _ => trivial
    | .ok v =>
      intro t
      show EndsWithin 4 (if v.isExpiredAt t then _ else _)
      split
      case isTrue => exact (endsWithin_purge id).bind (m := 1) fun _ _ => trivial
      case isFalse => exact trivial

theorem endsWithin_readForLock (id : String) : (readForLock id).EndsWithin 8 := by
  refine (endsWithin_get id).bind (m := 0) ?_
  rintro (err | v)
  · cases err <;> exact trivial
  · exact trivial

theorem endsWithin_writeBack (r : Record) : (writeBack r).EndsWithin 2 := by
  intro reply
  match reply with
  | .ok stored | .error err => exact fun _ => trivial

/-- The most actions that an attempt to lock takes. -/
def attemptBound : Nat := 12

theorem endsWithin_tryToLock (id : String) (owner : Owner) (seconds : Nat) :
    (tryToLock id owner seconds).EndsWithin attemptBound := by
  refine (endsWithin_readForLock id).bind (m := 4) ?_
  rintro (err | _ | v)
  · exact trivial
  · exact fun _ => trivial
  · intro t
    show EndsWithin 3 (if v.isLockedByOthersAt owner t then _ else _)
    split
    case isTrue => exact fun _ => trivial
    case isFalse =>
      refine (endsWithin_writeBack _).bind (m := 1) ?_
      rintro (_ | _) <;> exact fun _ => trivial

end Operation

end LeaseStore
