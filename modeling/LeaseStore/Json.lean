/-
LeaseStore.Json — JSON values.

Documents, configuration and connection settings travel as JSON. A number
is kept as an integer if it is written as one and fits a 64-bit word,
signed or unsigned; any other number keeps its text, since nothing here
computes with it. The members of an object are a list: a reader of a
fixed set of members has to see repetitions and order, and a lookup takes
the first.
-/

namespace LeaseStore

/-- A JSON value. -/
inductive Json where
  | null
  | bool (b : Bool)
  | int (n : Int)
  /-- A number that is not such an integer, as written. -/
  | decimal (text : String)
  | string (s : String)
  | array (items : List Json)
  | object (members : List (String × Json))

namespace Json

instance : Inhabited Json := ⟨null⟩

/-- The first member of this name; values other than objects have none. -/
def member? (name : String) : Json → Option Json
  | object members => members.lookup name
  | _ => none

/-- The text of a string. -/
def string? : Json → Option String
  | string s => some s
  | _ => none

/-- The value of an integer. -/
def int? : Json → Option Int
  | int n => some n
  | _ => none

/-- Members with one of them replaced, or added at the end. -/
def replaceMember (name : String) (v : Json) : List (String × Json) → List (String × Json)
  | [] => [(name, v)]
  | (n, w) :: rest => if n = name then (n, v) :: rest else (n, w) :: replaceMember name v rest

/-- An object with one member replaced or added; other values stay as
they are. -/
def setMember (doc : Json) (name : String) (v : Json) : Json :=
  match doc with
  | object members => object (replaceMember name v members)
  | _ => doc

theorem lookup_replaceMember (name n : String) (v : Json) (ms : List (String × Json)) :
    (replaceMember name v ms).lookup n = if n = name then some v else ms.lookup n := by
  induction ms with
  | nil =>
    by_cases h : n = name
    · subst h; simp [replaceMember]
    · have hb : (n == name) = false := by simp [h]
      simp [replaceMember, List.lookup_cons, hb, h]
  | cons p rest ih =>
    obtain ⟨m, w⟩ := p
    by_cases hm : m = name
    · subst hm
      by_cases h : n = m
      · subst h; simp [replaceMember]
      · have hb : (n == m) = false := by simp [h]
        simp [replaceMember, List.lookup_cons, hb, h]
    · by_cases h : n = m
      · subst h; simp [replaceMember, hm]
      · have hb : (n == m) = false := by simp [h]
        simp [replaceMember, hm, List.lookup_cons, hb, ih]

end Json

end LeaseStore
