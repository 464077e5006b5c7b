/-
LeaseStore.Once — a value that is set once.

An `InitGate`, with its `initialize` (`offer`), `get` (`get?`) and `state`.

The first value set stays for ever; later ones are refused without
effect.
-/

namespace LeaseStore

/-- A value that may still be unset. -/
inductive Once (α : Type) where
  | unset
  | ready (value : α)
  deriving DecidableEq, Repr

namespace Once

/-- The value, once there is one. -/
def get? {α : Type} : Once α → Option α
  | unset => none
  | ready value => some value

/-- Offers a value: it is taken, and the answer is true, if it is the
first. -/
def offer {α : Type} (o : Once α) (value : α) : Bool × Once α :=
  match o with
  | unset => (true, ready value)
  | ready _ => (false, o)

/-- The name of the state. -/
def state {α : Type} : Once α → String
  | unset => "Uninitialized"
  | ready _ => "Ready"

end Once

end LeaseStore
