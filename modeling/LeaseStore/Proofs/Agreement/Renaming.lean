/-
LeaseStore.Proofs.Agreement.Renaming — the tokens of one store, named as
another store names them.

Two stores that go through the same run issue different tokens. A
`Renaming` pairs the tokens of one with those of the other, each with one at
most. The empty token and the wildcard mean the same everywhere. Records,
answers and requests are `Alike` if they differ in paired tokens only.

A renaming grows with every write, and what was alike stays alike. In the
end it comes down to a function (`Renaming.apply`), which is one-to-one
on the tokens that it knows.
-/
import LeaseStore.Proofs.Calls.Request
import LeaseStore.Proofs.Store.View
import Mathlib.Data.List.Forall2
import Mathlib.Data.Set.Function

namespace LeaseStore

open WriteCondition (IsToken)

/-! ## Renamings -/

/-- Which token of one store stands for which of another. -/
@[ext] structure Renaming where
  pairs : List (String × String)
  isToken : ∀ a b, (a, b) ∈ pairs → IsToken a ∧ IsToken b
  left : ∀ a b b', (a, b) ∈ pairs → (a, b') ∈ pairs → b = b'
  right : ∀ a a' b, (a, b) ∈ pairs → (a', b) ∈ pairs → a = a'

namespace Renaming

/-- Before any token has been issued. -/
def empty : Renaming := ⟨[], by simp, by simp, by simp⟩

variable {ρ ρ' ρ'' : Renaming}

/-- The token `a` here is the token `b` there. What names no version is the
same on both sides. -/
def Links (ρ : Renaming) (a b : String) : Prop := (a, b) ∈ ρ.pairs ∨ (a = b ∧ ¬ IsToken a)

/-- A later renaming, which has all pairs of an earlier one. -/
def Within (ρ ρ' : Renaming) : Prop := ∀ a b, (a, b) ∈ ρ.pairs → (a, b) ∈ ρ'.pairs

theorem Within.refl (ρ : Renaming) : ρ.Within ρ := fun _ _ h => h

theorem Within.trans (h : ρ.Within ρ') (h' : ρ'.Within ρ'') : ρ.Within ρ'' :=
  fun a b hab => h' a b (h a b hab)

theorem Links.within {a b : String} (h : ρ.Links a b) (hle : ρ.Within ρ') : ρ'.Links a b := by
  obtain hpair | hplain := h
  · exact .inl (hle a b hpair)
  · exact .inr hplain

/-- Links are one-to-one. -/
theorem Links.eq_iff {a a' b b' : String} (h : ρ.Links a b) (h' : ρ.Links a' b') :
    a = a' ↔ b = b' := by
  obtain hpair | ⟨rfl, hplain⟩ := h
  · obtain ⟨ha, hb⟩ := ρ.isToken a b hpair
    obtain hpair' | ⟨rfl, hplain'⟩ := h'
    · constructor
      · intro heq
        subst heq
        exact ρ.left a b b' hpair hpair'
      · intro heq
        subst heq
        exact ρ.right a a' b hpair hpair'
    · exact iff_of_false (fun heq => hplain' (heq ▸ ha)) (fun heq => hplain' (heq ▸ hb))
  · obtain hpair' | ⟨rfl, -⟩ := h'
    · obtain ⟨ha', hb'⟩ := ρ.isToken a' b' hpair'
      exact iff_of_false (fun heq => hplain (heq ▸ ha')) (fun heq => hplain (heq ▸ hb'))
    · exact Iff.rfl

/-- The renaming with one more pair of tokens, new on both sides. -/
def add (ρ : Renaming) (a b : String) (hab : IsToken a ∧ IsToken b)
    (ha : ∀ b', (a, b') ∉ ρ.pairs) (hb : ∀ a', (a', b) ∉ ρ.pairs) : Renaming where
  pairs := ρ.pairs ++ [(a, b)]
  isToken a' b' h := by
    obtain hold | hnew := List.mem_append.1 h
    · exact ρ.isToken a' b' hold
    · cases List.mem_singleton.1 hnew
      exact hab
  left x y y' h h' := by
    obtain hold | hnew := List.mem_append.1 h
    · obtain hold' | hnew' := List.mem_append.1 h'
      · exact ρ.left x y y' hold hold'
      · cases List.mem_singleton.1 hnew'
        exact absurd hold (ha y)
    · cases List.mem_singleton.1 hnew
      obtain hold' | hnew' := List.mem_append.1 h'
      · exact absurd hold' (ha y')
      · cases List.mem_singleton.1 hnew'
        rfl
  right x x' y h h' := by
    obtain hold | hnew := List.mem_append.1 h
    · obtain hold' | hnew' := List.mem_append.1 h'
      · exact ρ.right x x' y hold hold'
      · cases List.mem_singleton.1 hnew'
        exact absurd hold (hb x)
    · cases List.mem_singleton.1 hnew
      obtain hold' | hnew' := List.mem_append.1 h'
      · exact absurd hold' (hb x')
      · cases List.mem_singleton.1 hnew'
        rfl

/-- What a renaming makes of a token: its counterpart if it has one. -/
def apply (ρ : Renaming) (a : String) : String := (ρ.pairs.lookup a).getD a

/-- A function renames tokens as the pairs say. -/
def Follows (ρ : Renaming) (f : String → String) : Prop := ∀ a b, ρ.Links a b → f a = b

theorem Follows.of_within {f : String → String} (h : ρ'.Follows f) (hle : ρ.Within ρ') :
    ρ.Follows f :=
  fun a b hab => h a b (hab.within hle)

theorem follows_apply (ρ : Renaming) : ρ.Follows ρ.apply := by
  intro a b h
  unfold apply
  cases hlookup : ρ.pairs.lookup a with
  | some b' =>
    obtain ⟨pre, post, hsplit, -⟩ := List.lookup_eq_some_iff.1 hlookup
    have hpair : (a, b') ∈ ρ.pairs := by
      rw [hsplit]
      simp
    exact (Links.eq_iff (.inl hpair) h).1 rfl
  | none =>
    obtain hpair | ⟨rfl, -⟩ := h
    · have hne := List.lookup_eq_none_iff.1 hlookup (a, b) hpair
      simp at hne
    · rfl

/-- A function that follows a renaming is one-to-one on what is linked. -/
theorem Follows.injOn {f : String → String} (h : ρ.Follows f) :
    Set.InjOn f {a | ∃ b, ρ.Links a b} := by
  intro a ha a' ha' heq
  obtain ⟨b, hab⟩ := ha
  obtain ⟨b', hab'⟩ := ha'
  rw [h a b hab, h a' b' hab'] at heq
  exact (hab.eq_iff hab').2 heq

end Renaming

/-! ## What differs in tokens only -/

/-- Both succeed with related values, or both fail with the same error. -/
inductive Except.Alike {ε α β : Type} (R : α → β → Prop) : Except ε α → Except ε β → Prop
  | ok {a : α} {b : β} : R a b → Except.Alike R (.ok a) (.ok b)
  | error (e : ε) : Except.Alike R (.error e) (.error e)

/-- The record with its token renamed. -/
def Record.rename (f : String → String) (r : Record) : Record := { r with token := f r.token }

/-- A record here and a record there that differ in paired tokens only. -/
def Record.Alike (ρ : Renaming) (r r' : Record) : Prop :=
  ∃ token, ρ.Links r.token token ∧ r' = { r with token }

namespace Answer

/-- The answer with its tokens renamed. -/
def rename (f : String → String) : Answer → Answer
  | record r => .record (r.map (·.rename f))
  | records rs => .records (rs.map (·.map (·.rename f)))
  | a => a

/-- Answers that differ in paired tokens only. -/
inductive Alike (ρ : Renaming) : Answer → Answer → Prop
  | unit (r : Except StoreError Unit) : Alike ρ (.unit r) (.unit r)
  | truth (r : Except StoreError Bool) : Alike ρ (.truth r) (.truth r)
  | record {r r' : Except StoreError Record} : Except.Alike (Record.Alike ρ) r r' →
      Alike ρ (.record r) (.record r')
  | records {rs rs' : Except StoreError (List Record)} :
      Except.Alike (List.Forall₂ (Record.Alike ρ)) rs rs' → Alike ρ (.records rs) (.records rs')
  | report (r : Except StoreError Operation.BulkDelete) : Alike ρ (.report r) (.report r)
  | retried (r : Option (Except StoreError Bool)) : Alike ρ (.retried r) (.retried r)

end Answer

namespace Request

/-- The tokens that a caller supplies with a request. -/
def tokens : Request → List String
  | create r | upsert r => [r.token]
  | upsertWithToken r token => [r.token, token]
  | _ => []

/-- The request with its tokens renamed. -/
def rename (f : String → String) : Request → Request
  | create r => .create (r.rename f)
  | upsert r => .upsert (r.rename f)
  | upsertWithToken r token => .upsertWithToken (r.rename f) (f token)
  | q => q

/-- Functions that agree on the tokens of a request rename it alike. -/
theorem rename_congr {f g : String → String} {q : Request} (h : ∀ t ∈ q.tokens, f t = g t) :
    q.rename f = q.rename g := by
  cases q with
  | create r | upsert r =>
    have htoken := h r.token (by simp [tokens])
    simp only [rename, Record.rename, htoken]
  | upsertWithToken r token =>
    have hown := h r.token (by simp [tokens])
    have htoken := h token (by simp [tokens])
    simp only [rename, Record.rename, hown, htoken]
  | _ => rfl

end Request

section Alike

variable {ρ ρ' : Renaming} {f : String → String}

theorem Except.Alike.mono {ε α β : Type} {R S : α → β → Prop} {x : Except ε α} {y : Except ε β}
    (h : Except.Alike R x y) (hle : ∀ a b, R a b → S a b) : Except.Alike S x y := by
  cases h with
  | ok hab => exact .ok (hle _ _ hab)
  | error e => exact .error e

theorem Except.Alike.map_eq {ε α β : Type} {R : α → β → Prop} {x : Except ε α} {y : Except ε β}
    {g : α → β} (h : Except.Alike R x y) (hg : ∀ a b, R a b → g a = b) : x.map g = y := by
  cases h with
  | ok hab => exact congrArg Except.ok (hg _ _ hab)
  | error e => rfl

theorem Record.Alike.within {r r' : Record} (h : r.Alike ρ r') (hle : ρ.Within ρ') :
    r.Alike ρ' r' := by
  obtain ⟨token, hlinks, rfl⟩ := h
  exact ⟨token, hlinks.within hle, rfl⟩

theorem Record.Alike.rename_eq {r r' : Record} (h : r.Alike ρ r') (hf : ρ.Follows f) :
    r.rename f = r' := by
  obtain ⟨token, hlinks, rfl⟩ := h
  rw [Record.rename, hf r.token token hlinks]

/-- A record is alike its renamed self. -/
theorem Record.alike_rename {r : Record} (h : ρ.Links r.token (f r.token)) :
    r.Alike ρ (r.rename f) :=
  ⟨f r.token, h, rfl⟩

theorem Record.map_rename_eq {rs rs' : List Record}
    (h : List.Forall₂ (Record.Alike ρ) rs rs') (hf : ρ.Follows f) :
    rs.map (·.rename f) = rs' := by
  induction h with
  | nil => rfl
  | cons hr _ ih => rw [List.map_cons, hr.rename_eq hf, ih]

theorem Answer.Alike.within {a a' : Answer} (h : a.Alike ρ a') (hle : ρ.Within ρ') :
    a.Alike ρ' a' := by
  cases h with
  | unit | truth | report | retried => constructor
  | record hr => exact .record (hr.mono fun _ _ h => h.within hle)
  | records hrs => exact .records (hrs.mono fun _ _ h => h.imp fun _ _ h => h.within hle)

/-- Alike answers are one answer, renamed. -/
theorem Answer.Alike.rename_eq {a a' : Answer} (h : a.Alike ρ a') (hf : ρ.Follows f) :
    a.rename f = a' := by
  cases h with
  | unit | truth | report | retried => rfl
  | record hr => exact congrArg Answer.record (hr.map_eq fun _ _ h => h.rename_eq hf)
  | records hrs =>
    exact congrArg Answer.records (hrs.map_eq fun _ _ h => Record.map_rename_eq h hf)

end Alike

end LeaseStore
