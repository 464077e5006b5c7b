/-
LeaseStore.Call — an engine's calls, one step at a time.

An engine coordinates with others through the store alone, so what can
happen to a record depends on how the steps of several calls fall between
each other. A `Call` therefore is not a function on a store but the tree
of what the call does: the next `Action`, and how the call goes on for
every reply to it. Running a call by itself (`LeaseStore.Engine`) is one
reading of that tree; letting the steps of several calls take turns is
another, and no call has to be written twice for it.

A call is a monad: `pure` ends it, and `bind` continues it at each of its
ends.
-/
import LeaseStore.Config
import LeaseStore.Metrics
import LeaseStore.Record

namespace LeaseStore

/-- One step of a call. -/
inductive Action where
  /-- Make sure of a connection; the first success lasts. -/
  | connect
  /-- Read the clock. -/
  | now
  | read (id : String)
  | list
  | create (r : Record)
  | upsert (r : Record) (condition : WriteCondition)
  | delete (id : String)
  /-- Delete several records at the same time. -/
  | deleteWave (ids : List String)
  /-- Ask the backend whether it can be reached. -/
  | health
  /-- Count an event. -/
  | count (c : Counter)
  /-- Let time pass. -/
  | pause (d : Duration)
  /-- Draw a random number from zero up to a bound. -/
  | draw (bound : Nat)

/-- What an action is answered with. A connection answers with the
configuration that the engine is bound to. -/
abbrev Action.Reply : Action → Type
  | connect => Except StoreError Config
  | now => Instant
  | read _ => Except BackendError Record
  | list => Except BackendError (List Record)
  | create _ => Except BackendError Record
  | upsert _ _ => Except BackendError Record
  | delete _ => Except BackendError Unit
  | deleteWave _ => List (Except BackendError Unit)
  | health => Except BackendError Unit
  | count _ => Unit
  | pause _ => Unit
  | draw bound => Fin (bound + 1)

/-- A call that ends with a value of type `α`. -/
inductive Call (α : Type) where
  /-- The call has ended. -/
  | done (a : α)
  /-- The call takes an action and goes on with the reply. -/
  | act (a : Action) (next : a.Reply → Call α)

namespace Call

/-- Goes on with `f` where a call ends. -/
def bind {α β : Type} : Call α → (α → Call β) → Call β
  | done a, f => f a
  | act a next, f => act a fun r => (next r).bind f

instance : Monad Call where
  pure := done
  bind := bind

/-- The call that takes one action and ends with the reply. -/
def perform (a : Action) : Call a.Reply := act a done

@[simp] theorem pure_eq {α : Type} (a : α) : (pure a : Call α) = done a := rfl

@[simp] theorem done_bind {α β : Type} (a : α) (f : α → Call β) :
    (done a >>= f) = f a := rfl

@[simp] theorem act_bind {α β : Type} (a : Action) (next : a.Reply → Call α)
    (f : α → Call β) : (act a next >>= f) = act a fun r => next r >>= f := rfl

@[simp] theorem perform_bind {β : Type} (a : Action) (f : a.Reply → Call β) :
    (perform a >>= f) = act a f := rfl

theorem bind_done {α : Type} (x : Call α) : (x >>= done) = x := by
  induction x with
  | done a => rfl
  | act a next ih => simp only [act_bind, ih]

theorem bind_assoc {α β γ : Type} (x : Call α) (f : α → Call β) (g : β → Call γ) :
    ((x >>= f) >>= g) = (x >>= fun a => f a >>= g) := by
  induction x with
  | done a => rfl
  | act a next ih => simp only [act_bind, ih]

instance : LawfulMonad Call :=
  LawfulMonad.mk' Call (fun x => bind_done x) (fun _ _ => rfl) (fun x f g => bind_assoc x f g)

end Call

end LeaseStore
