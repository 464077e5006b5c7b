/-
LeaseStore.Connection.Settings — connection strings.

A `ConnectionString`, with its `parse`, `get` (`get?`) and `require`.

A connection string is a list of settings `Key=Value` between semicolons.
Blanks around a piece, a key or a value do not count, nor do empty
pieces. Keys are compared without regard to ASCII case, and no key may
come twice. The first `=` of a piece ends its key, so values may hold
more of them. A blank value counts as present when keys are compared and
as absent when a setting is looked up.
-/
import LeaseStore.Failure
import LeaseStore.Text.Describe
import Std.Data.ExtTreeMap

namespace LeaseStore

open LeaseStore.Text

/-- The settings of a connection string, by key in small letters. -/
structure ConnectionString where
  settings : Std.ExtTreeMap String String

namespace ConnectionString

/-- The pieces of a connection string, trimmed, without the empty ones. -/
def segments (s : String) : List (List Char) :=
  ((s.toList.splitOn ';').map trim).filter (!·.isEmpty)

/-- As much of a piece as an error may show: it could hold a secret. -/
def excerpt (segment : List Char) : String := String.ofList (segment.take 4) ++ "..."

/-- The settings with one more piece. -/
def addSegment (settings : Std.ExtTreeMap String String) (segment : List Char) :
    Except ConnectionError (Std.ExtTreeMap String String) :=
  match segment.span (· ≠ '=') with
  | (_, []) => .error (.malformed ("segment '" ++ excerpt segment ++ "' is not Key=Value"))
  | (key, _ :: value) =>
    let name := lowered (String.ofList (trim key))
    if name = "" then .error (.malformed "empty key")
    else if name ∈ settings then .error (.malformed ("duplicate setting '" ++ name ++ "'"))
    else .ok (settings.insert name (String.ofList (trim value)))

/-- Reads a connection string. The first piece from the left that breaks
the grammar decides the error. -/
def parse (s : String) : Except ConnectionError ConnectionString := do
  let settings ← (segments s).foldlM addSegment ∅
  if settings.isEmpty then .error (.malformed "no settings") else .ok ⟨settings⟩

/-- The value of a setting, if there is one that is not blank. -/
def get? (c : ConnectionString) (key : String) : Option String :=
  c.settings[lowered key]?.filter (· ≠ "")

/-- The value of a setting that must be there. -/
def require (c : ConnectionString) (key : String) : Except ConnectionError String :=
  match c.get? key with
  | some value => .ok value
  | none => .error (.missing key)

/-- The keys whose values are secrets. -/
def secretKeys : List String := ["accountkey", "sharedaccesssignature"]

/-- The diagnostic form of a connection string, without its secrets. -/
def describe (c : ConnectionString) : String :=
  describeMap (c.settings.toList.map fun (key, value) =>
    (key, if key ∈ secretKeys then redacted else quoted value))

end ConnectionString

end LeaseStore
