/-
LeaseStore.Json.Printer — writing JSON values.

`Json.render` writes a value without blanks. Within a string only the
quote, the backslash and the control characters are escaped; every other
character stands for itself. `Json.asciiOnly` turns such a text into one
of ASCII characters that means the same.
-/
import LeaseStore.Json
import LeaseStore.Text.Digits

namespace LeaseStore.Json

open LeaseStore.Text

/-- A character within a string. -/
def escapeChar (c : Char) : List Char :=
  match c with
  | '"' => ['\\', '"']
  | '\\' => ['\\', '\\']
  | '\x08' => ['\\', 'b']
  | '\x0c' => ['\\', 'f']
  | '\n' => ['\\', 'n']
  | '\r' => ['\\', 'r']
  | '\t' => ['\\', 't']
  | c => if c.toNat < 0x20 then '\\' :: 'u' :: (hex 4 c.toNat).toList else [c]

/-- A string in quotes. -/
def quote (s : String) : String :=
  String.ofList ('"' :: s.toList.flatMap escapeChar ++ ['"'])

mutual

/-- The text of a value. -/
def render : Json → String
  | null => "null"
  | bool b => if b then "true" else "false"
  | int n => toString n
  | decimal text => text
  | string s => quote s
  | array items => "[" ++ renderItems items ++ "]"
  | object members => "\x7b" ++ renderMembers members ++ "\x7d"

/-- The items of an array, with commas between them. -/
def renderItems : List Json → String
  | [] => ""
  | [v] => v.render
  | v :: vs => v.render ++ "," ++ renderItems vs

/-- The members of an object, with commas between them. -/
def renderMembers : List (String × Json) → String
  | [] => ""
  | [(name, v)] => quote name ++ ":" ++ v.render
  | (name, v) :: ms => quote name ++ ":" ++ v.render ++ "," ++ renderMembers ms

end

/-- A character beyond ASCII as a numbered escape, or a pair of them. -/
def asciiChar (c : Char) : String :=
  let n := c.toNat
  if n < 0x7f then c.toString
  else if n < 0x10000 then "\\u" ++ hex 4 n
  else
    let m := n - 0x10000
    "\\u" ++ hex 4 (0xD800 + m / 0x400) ++ "\\u" ++ hex 4 (0xDC00 + m % 0x400)

/-- A JSON text with its characters beyond ASCII escaped; they stand only
within strings. -/
def asciiOnly (s : String) : String := s.foldl (fun t c => t ++ asciiChar c) ""

end LeaseStore.Json
