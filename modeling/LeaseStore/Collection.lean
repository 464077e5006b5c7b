/-
LeaseStore.Collection — where records live, and on what condition they
are written.

A `CollectionRef`, and a `WriteCondition` with its `from_token` (`ofToken`),
`as_header_value` (`header`) and `is_satisfied_by` (`admits`).

A collection is named by a database and a name within it; the two
together are the identity, and the order is that of the database first.
A write condition is what an optimistic write demands of the version it
replaces.
-/
import Std.Data.ExtTreeMap

namespace LeaseStore

/-- A collection of records within a database. -/
@[ext] structure CollectionRef where
  database : String
  collection : String
  deriving DecidableEq, Repr

namespace CollectionRef

instance : Ord CollectionRef :=
  ⟨compareLex (compareOn database) (compareOn collection)⟩

instance : Std.TransOrd CollectionRef :=
  inferInstanceAs (Std.TransCmp (compareLex (compareOn database) (compareOn collection)))

instance : Std.LawfulEqOrd CollectionRef where
  eq_of_compare {a b} h := by
    have h' : (compare a.database b.database).then (compare a.collection b.collection) = .eq := h
    rw [Ordering.then_eq_eq, Std.LawfulEqOrd.compare_eq_iff_eq,
      Std.LawfulEqOrd.compare_eq_iff_eq] at h'
    exact CollectionRef.ext h'.1 h'.2

instance : Inhabited CollectionRef := ⟨⟨"", ""⟩⟩

/-- The written form of a collection: database, slash, name. -/
def render (c : CollectionRef) : String := c.database ++ "/" ++ c.collection

end CollectionRef

/-- What a write demands of the stored version. -/
inductive WriteCondition where
  /-- Nothing: the write replaces whatever is there. -/
  | always
  /-- The stored version carries this token. -/
  | ifToken (token : String)
  deriving DecidableEq, Repr

namespace WriteCondition

/-- The token that stands for no condition. -/
def wildcard : String := "*"

/-- The condition that a token asks for; the empty token and the wildcard
ask for none. -/
def ofToken (token : String) : WriteCondition :=
  if token = "" ∨ token = wildcard then always else ifToken token

/-- The token to send for a condition. -/
def header : WriteCondition → String
  | always => wildcard
  | ifToken token => token

/-- The token to send with a write that has a condition. -/
def token? : WriteCondition → Option String
  | always => none
  | ifToken token => some token

/-- A version with this token may be replaced. -/
def admits : WriteCondition → String → Bool
  | always, _ => true
  | ifToken token, stored => token = stored

end WriteCondition

end LeaseStore
