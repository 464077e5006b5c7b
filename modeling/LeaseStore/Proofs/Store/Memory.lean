/-
LeaseStore.Proofs.Store.Memory — the store in memory keeps the laws.

The tokens not yet issued are those of the numbers from the count of the
writes on. A token holds its number before the hyphen, so the part behind
it, which cannot be foreseen, never makes two tokens alike
(`tokenAt_inj`). Only a write that succeeds moves the count.
-/
import LeaseStore.Memory
import LeaseStore.Proofs.Store.Shelves
import LeaseStore.Proofs.Store.View
import LeaseStore.Proofs.Text.Numeral

namespace LeaseStore.MemoryStore

open LeaseStore.Text

/-! ## Tokens -/

/-- The token of the write with this number. -/
def tokenAt (salt : Nat → Nat) (n : Nat) : String :=
  "\"" ++ hex 16 n ++ "-" ++ hex 8 (salt n) ++ "\""

theorem toList_tokenAt (salt : Nat → Nat) (n : Nat) :
    (tokenAt salt n).toList =
      '"' :: ((hex 16 n).toList ++ '-' :: ((hex 8 (salt n)).toList ++ ['"'])) := by
  simp [tokenAt, String.toList_append]

theorem tokenAt_inj {salt : Nat → Nat} {m n : Nat} (h : tokenAt salt m = tokenAt salt n) :
    m = n := by
  have hlist := congrArg String.toList h
  rw [toList_tokenAt, toList_tokenAt, List.cons.injEq] at hlist
  have hnumber (k : Nat) (rest : List Char) :
      ((hex 16 k).toList ++ '-' :: rest).takeWhile (· ≠ '-') = (hex 16 k).toList := by
    rw [List.takeWhile_append_of_pos]
    · simp
    · intro c hc
      have := dash_notMem_hex 16 k
      simp only [ne_eq, decide_not, Bool.not_eq_eq_eq_not, Bool.not_true, decide_eq_false_iff_not]
      rintro rfl
      exact this hc
  have hprefix := congrArg (List.takeWhile (· ≠ '-')) hlist.2
  rw [hnumber, hnumber, String.toList_inj] at hprefix
  exact hex_inj hprefix

theorem isToken_tokenAt (salt : Nat → Nat) (n : Nat) :
    WriteCondition.IsToken (tokenAt salt n) := by
  constructor <;> intro h <;> have hlist := congrArg String.toList h <;>
    rw [toList_tokenAt] at hlist
  · exact absurd hlist (by simp)
  · exact absurd (List.cons.inj hlist).1 (by decide)

/-! ## The view -/

/-- The view of a store in memory. -/
def view : View MemoryStore where
  shelf := id
  look := get?
  Unissued s t := ∃ n, s.writes ≤ n ∧ t = tokenAt s.salt n
  Provided s c := c ∈ s.collections
  Calm _ := True
  Sound s := ∀ c id r, s.get? c id = some r → r.id = id
  isToken_of_unissued := by
    rintro s t ⟨n, -, rfl⟩
    exact isToken_tokenAt s.salt n
  id_of_look hs hr := hs _ _ _ hr
  look_of_shelf := by
    rintro s c c' rfl
    rfl

theorem get?_eq {s : MemoryStore} {c : CollectionRef}
    {records : Std.ExtTreeMap String Record} (h : s.collections[c]? = some records)
    (id : String) : s.get? c id = records[id]? :=
  Shelves.find?_eq (fun records => records) h id

theorem stored_put {s : MemoryStore} {c : CollectionRef}
    {records : Std.ExtTreeMap String Record} (h : s.collections[c]? = some records)
    (r : Record) :
    view.Stored s (s.put c records r).2 c { r with token := s.nextToken } := by
  have hlook (c' : CollectionRef) (id : String) : (s.put c records r).2.get? c' id =
      if c' = c ∧ id = r.id then some { r with token := s.nextToken } else s.get? c' id :=
    Shelves.find?_put (fun records => records) h rfl c' id
  refine ⟨⟨fun hs c' id r' hr' => ?_, fun _ => trivial, fun c' hc' => ?_, ?_⟩, ?_, ?_, hlook⟩
  · rw [hlook] at hr'
    split at hr'
    case isTrue hboth =>
      cases hr'
      exact hboth.2.symm
    case isFalse => exact hs c' id r' hr'
  · exact Std.ExtTreeMap.mem_insert.2 (.inr hc')
  · rintro t ⟨n, hn, rfl⟩
    exact ⟨n, Nat.le_of_succ_le hn, rfl⟩
  · exact ⟨s.writes, Nat.le_refl _, rfl⟩
  · rintro ⟨n, hn, heq⟩
    have : s.writes = n := tokenAt_inj heq
    have : s.writes + 1 ≤ n := hn
    omega

theorem removed_erase {s : MemoryStore} {c : CollectionRef}
    {records : Std.ExtTreeMap String Record} (h : s.collections[c]? = some records)
    (id : String) :
    view.Removed s { s with collections := s.collections.insert c (records.erase id) } c id := by
  have hlook (c' : CollectionRef) (id' : String) :
      MemoryStore.get? { s with collections := s.collections.insert c (records.erase id) } c' id' =
        if c' = c ∧ id' = id then none else s.get? c' id' :=
    Shelves.find?_take (fun records => records) h rfl c' id'
  refine ⟨⟨fun hs c' id' r' hr' => ?_, fun _ => trivial, fun c' hc' => ?_, fun _ ht => ht⟩, hlook⟩
  · rw [hlook] at hr'
    split at hr'
    case isTrue => cases hr'
    case isFalse => exact hs c' id' r' hr'
  · exact Std.ExtTreeMap.mem_insert.2 (.inr hc')

theorem not_provided {s : MemoryStore} {c : CollectionRef} (h : s.collections[c]? = none) :
    ¬ (view.Calm s ∧ view.Provided s c) := by
  rintro ⟨-, hc : c ∈ s.collections⟩
  exact absurd h (by simpa using hc)

/-- A condition admits a write just if what is stored meets it. -/
theorem admits_iff {w : WriteCondition} {current : Option Record} :
    admits w current = true ↔ w.Meets current := by
  cases w with
  | always => simp [admits, WriteCondition.Meets]
  | ifToken t =>
    cases current with
    | none => simp [admits, WriteCondition.Meets]
    | some r => simp [admits, WriteCondition.Meets, WriteCondition.admits, eq_comm]

/-! ## The laws -/

/-- A new, empty collection changes nothing that can be seen. -/
theorem same_ensure {s : MemoryStore} {c : CollectionRef} (h : c ∉ s.collections) :
    view.Same s { s with collections := s.collections.insert c ∅ } := by
  have hlook (c' : CollectionRef) (id : String) :
      MemoryStore.get? { s with collections := s.collections.insert c ∅ } c' id =
        s.get? c' id :=
    Shelves.find?_insert_empty (fun records => records) h rfl c' id
  refine ⟨⟨fun hs c' id r hr => ?_, fun _ => trivial, fun c' hc' => ?_, fun _ ht => ht⟩, hlook⟩
  · exact hs c' id r (hlook c' id ▸ hr)
  · exact Std.ExtTreeMap.mem_insert.2 (.inr hc')

theorem lawful_list (c : CollectionRef) (s : MemoryStore) (hs : view.Sound s) :
    view.Lists s (list c s).2 c (list c s).1 := by
  unfold list
  split
  case h_1 h => exact .failed (not_provided h) (.refl s)
  case h_2 records h =>
    have hid {p : String × Record} (hp : p ∈ records.toList) : p.2.id = p.1 := by
      rw [Std.ExtTreeMap.mem_toList_iff_getElem?_eq_some, ← get?_eq h] at hp
      exact hs _ _ _ hp
    refine .all ⟨?_, fun r => ?_⟩ (.refl s)
    · rw [List.pairwise_map]
      refine records.ordered_keys_toList.imp_of_mem fun ha hb hab => ?_
      rw [hid ha, hid hb]
      exact hab
    · rw [show view.look s c r.id = records[r.id]? from get?_eq h r.id,
        ← Std.ExtTreeMap.mem_toList_iff_getElem?_eq_some, List.mem_map]
      constructor
      · rintro ⟨p, hp, rfl⟩
        rw [hid hp]
        exact hp
      · exact fun hr => ⟨_, hr, rfl⟩

theorem lawful_ensure (c : CollectionRef) (s : MemoryStore) :
    view.Ensures s (ensure c s).2 c (ensure c s).1 := by
  unfold ensure
  split
  case isTrue h => exact .provided (.refl s) h
  case isFalse h =>
    exact .provided (same_ensure h) (Std.ExtTreeMap.mem_insert.2 (.inl (by simp)))

theorem lawful_create (c : CollectionRef) (r : Record) (s : MemoryStore) :
    view.Writes s (create c r s).2 c r (view.look s c r.id = none) .alreadyExists
      (create c r s).1 := by
  show view.Writes s (create c r s).2 c r (s.get? c r.id = none) _ (create c r s).1
  unfold create
  split
  case h_1 h => exact .failed (not_provided h) (.refl s)
  case h_2 records h =>
    rw [get?_eq h]
    split
    case isTrue hmem => exact .refused (by simpa using hmem) (.refl s)
    case isFalse hmem => exact .stored (by simpa using hmem) (stored_put h r)

theorem lawful_upsert (c : CollectionRef) (r : Record) (w : WriteCondition) (s : MemoryStore) :
    view.Writes s (upsert c r w s).2 c r (w.Meets (view.look s c r.id)) .preconditionFailed
      (upsert c r w s).1 := by
  show view.Writes s (upsert c r w s).2 c r (w.Meets (s.get? c r.id)) _ (upsert c r w s).1
  unfold upsert
  split
  case h_1 h => exact .failed (not_provided h) (.refl s)
  case h_2 records h =>
    rw [get?_eq h]
    split
    case isTrue hadm => exact .stored (admits_iff.1 hadm) (stored_put h r)
    case isFalse hadm => exact .refused (mt admits_iff.2 hadm) (.refl s)

theorem lawful_read (c : CollectionRef) (id : String) (s : MemoryStore) :
    view.Reads s (read c id s).2 c id (read c id s).1 := by
  unfold read
  split
  case h_1 h => exact .failed (not_provided h) (.refl s)
  case h_2 records h =>
    split
    case h_1 hnone => exact .absent ((get?_eq h id).trans hnone) (.refl s)
    case h_2 r hsome => exact .found ((get?_eq h id).trans hsome) (.refl s)

theorem lawful_delete (c : CollectionRef) (id : String) (s : MemoryStore) :
    view.Deletes s (delete c id s).2 c id (delete c id s).1 := by
  unfold delete
  split
  case h_1 h => exact .failed (not_provided h) (.refl s)
  case h_2 records h =>
    have hlook : view.look s c id = records[id]? := get?_eq h id
    split
    case isTrue hmem =>
      refine .removed ?_ (removed_erase h id)
      rw [hlook]
      simpa using hmem
    case isFalse hmem =>
      refine .absent ?_ (.refl s)
      rw [hlook]
      simpa using hmem

/-- **The store in memory keeps the laws.** -/
theorem lawful : backend.Lawful view where
  ensure c s _ := lawful_ensure c s
  create c r s _ := lawful_create c r s
  upsert c r w s _ _ := lawful_upsert c r w s
  read c id s _ := lawful_read c id s
  delay _ _ _ := rfl
  started _ _ s := .refl s
  delete c id s _ := lawful_delete c id s
  list := lawful_list
  health s _ := .reached (.refl s)

end LeaseStore.MemoryStore
