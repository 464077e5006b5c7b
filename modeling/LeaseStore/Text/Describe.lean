/-
LeaseStore.Text.Describe — the diagnostic form of values.

Diagnostics show a value with its structure: a text in quotes with
whatever cannot be seen escaped, a named group of fields in braces, an
association from text to text in braces, an optional value with the word
for its case.
-/
import LeaseStore.Text.Blank
import LeaseStore.Text.Digits
import LeaseStore.Text.GraphemeBase

namespace LeaseStore.Text

/-- A character that stands for itself in a quoted text: visible, and not
a blank other than the space. -/
def isPlain (c : Char) : Bool :=
  if c.toNat < 0x7f then 0x20 ≤ c.toNat
  else (isGraphemeBase c || isVoicingMark c) && !isHangulFiller c && !isBlank c

/-- A character within a quoted text. -/
def quotedChar (c : Char) : List Char :=
  match c with
  | '"' => ['\\', '"']
  | '\\' => ['\\', '\\']
  | '\n' => ['\\', 'n']
  | '\r' => ['\\', 'r']
  | '\t' => ['\\', 't']
  | '\x00' => ['\\', '0']
  | c => if isPlain c then [c] else "\\u\x7b".toList ++ (hex 1 c.toNat).toList ++ ['\x7d']

/-- A text in quotes. -/
def quoted (s : String) : String :=
  String.ofList ('"' :: s.toList.flatMap quotedChar ++ ['"'])

/-- A named group of fields. With `more`, fields not shown are hinted at. -/
def describeFields (name : String) (fields : List (String × String)) (more : Bool) : String :=
  let shown := fields.map fun (field, value) => field ++ ": " ++ value
  name ++ " \x7b " ++ ", ".intercalate (if more then shown ++ [".."] else shown) ++ " \x7d"

/-- An association from texts to texts already in their diagnostic form. -/
def describeMap (entries : List (String × String)) : String :=
  "\x7b" ++ ", ".intercalate (entries.map fun (key, value) => quoted key ++ ": " ++ value)
    ++ "\x7d"

/-- A list of values already in their diagnostic form. -/
def describeList (items : List String) : String := "[" ++ ", ".intercalate items ++ "]"

/-- An optional value already in its diagnostic form. -/
def describeOption : Option String → String
  | none => "None"
  | some value => "Some(" ++ value ++ ")"

/-- What stands in place of a secret. -/
def redacted : String := quoted "<redacted>"

end LeaseStore.Text
