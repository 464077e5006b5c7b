/-
LeaseStore.Proofs.Store.Shelves — entries that stand on shelves.

A store of any kind is a map of maps: a name leads to a shelf, and on the shelf
an id leads to an entry. A shelf may hold more than its entries, so `entries`
tells what stands on it. Every change to a store replaces one shelf, by one that
differs in at most one entry; whoever looks for an entry then need not know that
there are shelves.
-/
import Std.Data.ExtTreeMap

namespace LeaseStore.Shelves

variable {κ ι ρ α : Type} [Ord κ] [Std.TransOrd κ] [Ord ι] [Std.TransOrd ι]
  (entries : ρ → Std.ExtTreeMap ι α) {shelves : Std.ExtTreeMap κ ρ} {k : κ} {old new : ρ}

/-- The entry with this id, on the shelf with this name. -/
def find? (shelves : Std.ExtTreeMap κ ρ) (k : κ) (i : ι) : Option α :=
  shelves[k]?.bind fun shelf => (entries shelf)[i]?

theorem find?_eq (h : shelves[k]? = some old) (i : ι) :
    find? entries shelves k i = (entries old)[i]? := by
  rw [find?, h, Option.bind_some]

/-! ## A shelf that is replaced -/

variable [Std.LawfulEqOrd κ] [DecidableEq κ]

theorem find?_insert (k' : κ) (i : ι) :
    find? entries (shelves.insert k new) k' i =
      if k' = k then (entries new)[i]? else find? entries shelves k' i := by
  simp only [find?, Std.ExtTreeMap.getElem?_insert, Std.LawfulEqCmp.compare_eq_iff_eq]
  by_cases hk : k' = k
  · simp [hk]
  · simp [hk, Ne.symm hk]

/-- An empty shelf was put up where there was none. -/
theorem find?_insert_empty (h : k ∉ shelves) (hnew : entries new = ∅) (k' : κ) (i : ι) :
    find? entries (shelves.insert k new) k' i = find? entries shelves k' i := by
  rw [find?_insert]
  split
  case isTrue hk =>
    subst hk
    rw [find?, Std.ExtTreeMap.getElem?_eq_none h, hnew]
    simp
  case isFalse => rfl

variable [DecidableEq ι]

/-- A shelf was replaced by one that differs in what stands under one id. -/
theorem find?_insert_of_one (h : shelves[k]? = some old) {i : ι} {x : Option α}
    (hnew : ∀ i', (entries new)[i']? = if i' = i then x else (entries old)[i']?) (k' : κ) (i' : ι) :
    find? entries (shelves.insert k new) k' i' =
      if k' = k ∧ i' = i then x else find? entries shelves k' i' := by
  rw [find?_insert]
  by_cases hk : k' = k
  · subst hk
    rw [if_pos rfl, hnew, find?_eq entries h]
    simp only [true_and]
  · rw [if_neg hk, if_neg fun hboth => hk hboth.1]

variable [Std.LawfulEqOrd ι]

/-- An entry was put on a shelf. -/
theorem find?_put (h : shelves[k]? = some old) {i : ι} {x : α}
    (hnew : entries new = (entries old).insert i x) (k' : κ) (i' : ι) :
    find? entries (shelves.insert k new) k' i' =
      if k' = k ∧ i' = i then some x else find? entries shelves k' i' := by
  refine find?_insert_of_one entries h (fun i' => ?_) k' i'
  rw [hnew, Std.ExtTreeMap.getElem?_insert]
  simp only [Std.LawfulEqCmp.compare_eq_iff_eq, eq_comm (a := i)]

/-- An entry was taken off a shelf. -/
theorem find?_take (h : shelves[k]? = some old) {i : ι}
    (hnew : entries new = (entries old).erase i) (k' : κ) (i' : ι) :
    find? entries (shelves.insert k new) k' i' =
      if k' = k ∧ i' = i then none else find? entries shelves k' i' := by
  refine find?_insert_of_one entries h (fun i' => ?_) k' i'
  rw [hnew, Std.ExtTreeMap.getElem?_erase]
  simp only [Std.LawfulEqCmp.compare_eq_iff_eq, eq_comm (a := i)]

end LeaseStore.Shelves
