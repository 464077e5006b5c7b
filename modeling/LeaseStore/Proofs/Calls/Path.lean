/-
LeaseStore.Proofs.Calls.Path — what a call does, whatever it is answered.

A call is a tree, and what happens is one path of it, a list of exchanges.
What became of its writes (`Exchange.written?`) and of its attempts to connect
(`ConnectsPlainly`) can be read off that list. `Call.Along` says of
every path at once that each action is allowed by the exchanges before it,
and what holds where the path ends. It is proved of a call from the parts
that the call was put together from (`along_bind`), and it passes from a
call to what is left of the call after one action.
-/
import LeaseStore.Call

namespace LeaseStore

/-- An action and the reply to it. -/
structure Exchange where
  action : Action
  reply : action.Reply

/-- The record that an exchange has stored, as the store answered it. -/
def Exchange.stored? : Exchange → Option Record
  | ⟨.create _, .ok r⟩ => some r
  | ⟨.upsert _ _, .ok r⟩ => some r
  | _ => none

/-- The token that an exchange was given for what it has stored, if it has. -/
def Exchange.issued (x : Exchange) : List String := (x.stored?.map (·.token)).toList

/-- What the store has replied to a write, if the exchange is one. -/
def Exchange.written? : Exchange → Option (Except BackendError Record)
  | ⟨.create _, reply⟩ => some reply
  | ⟨.upsert _ _, reply⟩ => some reply
  | _ => none

/-- The store has turned a write down: the id was taken, or the token was stale. -/
def Exchange.Refused (x : Exchange) : Prop :=
  x.written? = some (.error .alreadyExists) ∨ x.written? = some (.error .preconditionFailed)

/-- What the store has replied to these writes. -/
def written (xs : List Exchange) : List (Except BackendError Record) := xs.filterMap (·.written?)

theorem written_cons (x : Exchange) (xs : List Exchange) :
    written (x :: xs) = x.written?.toList ++ written xs := by
  cases hx : x.written? <;> simp [written, hx]

/-- A failure that a connector may report: of the configuration, or of what
lies behind it. -/
def StoreError.OfConnector : StoreError → Prop
  | config _ | unknownBackend _ | external _ _ _ => True
  | _ => False

/-- A failure that is not about any record. -/
def StoreError.Impersonal : StoreError → Prop
  | uninitialized | config _ | unknownBackend _ | external _ _ _ => True
  | _ => False

theorem StoreError.OfConnector.impersonal {err : StoreError} (h : err.OfConnector) :
    err.Impersonal := by
  cases err <;> trivial

/-- No attempt to connect has ended with a failure about a record. -/
def ConnectsPlainly (path : List Exchange) : Prop :=
  ∀ err, ⟨.connect, .error err⟩ ∈ path → err.Impersonal

theorem ConnectsPlainly.left {xs ys : List Exchange} (h : ConnectsPlainly (xs ++ ys)) :
    ConnectsPlainly xs := fun err hmem => h err (List.mem_append_left ys hmem)

theorem ConnectsPlainly.right {xs ys : List Exchange} (h : ConnectsPlainly (xs ++ ys)) :
    ConnectsPlainly ys := fun err hmem => h err (List.mem_append_right xs hmem)

/-! ## All paths at once -/

namespace Call

variable {α β : Type}

/-- On every path that a call may take after `past`, the latest exchange
first, each action is one that `P` allows and `Q` holds at the end. -/
def Along (P : List Exchange → Action → Prop) (Q : List Exchange → α → Prop) :
    List Exchange → Call α → Prop
  | past, done a => Q past a
  | past, act a next => P past a ∧ ∀ r, Along P Q (⟨a, r⟩ :: past) (next r)

variable {P P' : List Exchange → Action → Prop} {Q : List Exchange → α → Prop}
  {R : List Exchange → β → Prop} {past : List Exchange}

@[simp] theorem along_done {a : α} : (done a).Along P Q past ↔ Q past a := Iff.rfl

@[simp] theorem along_act {a : Action} {next : a.Reply → Call α} :
    (act a next).Along P Q past ↔ P past a ∧ ∀ r, (next r).Along P Q (⟨a, r⟩ :: past) := Iff.rfl

/-- One action and what follows it. To state it apart keeps what follows
from being evaluated. -/
theorem along_perform {a : Action} {f : a.Reply → Call α} (hallowed : P past a)
    (hf : ∀ r, (f r).Along P Q (⟨a, r⟩ :: past)) : (perform a >>= f).Along P Q past :=
  ⟨hallowed, hf⟩

/-- Induction on the first call: the second goes on at each of its ends. -/
theorem along_bind {x : Call α} {f : α → Call β} (hx : x.Along P Q past)
    (hf : ∀ past a, Q past a → (f a).Along P R past) : (x >>= f).Along P R past := by
  induction x generalizing past with
  | done a => exact hf past a hx
  | act a next ih =>
    obtain ⟨hallowed, hnext⟩ := hx
    exact ⟨hallowed, fun r => ih r (hnext r)⟩

theorem Along.mono {Q' : List Exchange → α → Prop} {x : Call α} (hx : x.Along P Q past)
    (hP : ∀ past a, P past a → P' past a) (hQ : ∀ past a, Q past a → Q' past a) :
    x.Along P' Q' past := by
  induction x generalizing past with
  | done a => exact hQ past a hx
  | act a next ih => exact ⟨hP _ _ hx.1, fun r => ih r (hx.2 r)⟩

end Call

end LeaseStore
