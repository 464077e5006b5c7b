/-
LeaseStore.Json.Lexeme — the smallest pieces of JSON text.

Each reader takes what is left of a text and gives the piece it found
with what is left behind it, or the kind of the first fault. A text may
be *truncated* (it ends too early), *malformed* (it is not JSON), or
*ill typed* (it is JSON, but not of the wanted shape).
-/
import LeaseStore.Json.Magnitude
import LeaseStore.Text.Digits

namespace LeaseStore.Json

open LeaseStore.Text

/-- The kinds of faults in a text. -/
inductive Fault where
  | truncated
  | malformed
  | illTyped
  deriving DecidableEq, Repr

/-- A reader's answer: a piece and the rest of the text, or a fault. -/
abbrev Scan (α : Type) := Except Fault (α × List Char)

/-! ## Blanks and words -/

/-- The characters that may stand between pieces. -/
def isSpace (c : Char) : Bool := c == ' ' || c == '\n' || c == '\t' || c == '\r'

/-- The text from the first piece on. -/
def skipSpace (cs : List Char) : List Char := cs.dropWhile isSpace

/-- The text behind a word that must come next. -/
def readWord : List Char → List Char → Except Fault (List Char)
  | [], cs => .ok cs
  | _ :: _, [] => .error .truncated
  | w :: ws, c :: cs => if c = w then readWord ws cs else .error .malformed

/-! ## Strings -/

/-- Where in a string the reader stands. -/
inductive StringStage where
  /-- Among plain characters. -/
  | plain
  /-- Behind a backslash. -/
  | escape
  /-- In a numbered escape: digits still to come, value so far, and the
  first half of a surrogate pair if there was one. -/
  | numbered (left value : Nat) (high : Option Nat)
  /-- Behind the first half of a pair: the second must follow. -/
  | pairBackslash (high : Nat)
  /-- As before, behind its backslash. -/
  | pairLetter (high : Nat)

/-- The character of a one-letter escape. -/
def escaped? : Char → Option Char
  | '"' => some '"'
  | '\\' => some '\\'
  | '/' => some '/'
  | 'b' => some '\x08'
  | 'f' => some '\x0c'
  | 'n' => some '\n'
  | 'r' => some '\r'
  | 't' => some '\t'
  | _ => none

/-- The number of bytes that some characters take. -/
def byteCount (cs : List Char) : Nat := cs.foldl (fun n c => n + c.utf8Size) 0

/-- What follows a complete numbered escape. -/
inductive Numbered where
  | char (c : Char)
  | firstHalf (high : Nat)
  | fault

/-- The meaning of a numbered escape: a character, or half of a pair. -/
def numbered (n : Nat) : Option Nat → Numbered
  | none =>
    if 0xDC00 ≤ n ∧ n ≤ 0xDFFF then .fault
    else if 0xD800 ≤ n ∧ n ≤ 0xDBFF then .firstHalf n
    else .char (Char.ofNat n)
  | some high =>
    if 0xDC00 ≤ n ∧ n ≤ 0xDFFF then
      .char (Char.ofNat (0x10000 + (high - 0xD800) * 0x400 + (n - 0xDC00)))
    else .fault

/-- Reads a string from behind its opening quote. Control characters must
be escaped, and surrogates must come in pairs. A numbered escape near the
end of the text is truncated if fewer than four bytes are left for it. -/
def readStringFrom : StringStage → List Char → List Char → Scan (List Char)
  | _, _, [] => .error .truncated
  | .plain, acc, c :: cs =>
    if c = '"' then .ok (acc.reverse, cs)
    else if c = '\\' then readStringFrom .escape acc cs
    else if c.toNat < 0x20 then .error .malformed
    else readStringFrom .plain (c :: acc) cs
  | .escape, acc, c :: cs =>
    if c = 'u' then
      if byteCount (cs.take 4) < 4 then .error .truncated
      else readStringFrom (.numbered 4 0 none) acc cs
    else
      match escaped? c with
      | some e => readStringFrom .plain (e :: acc) cs
      | none => .error .malformed
  | .numbered left value high, acc, c :: cs =>
    match hexValue? c with
    | none => .error .malformed
    | some d =>
      if left ≤ 1 then
        match numbered (value * 16 + d) high with
        | .char e => readStringFrom .plain (e :: acc) cs
        | .firstHalf h => readStringFrom (.pairBackslash h) acc cs
        | .fault => .error .malformed
      else readStringFrom (.numbered (left - 1) (value * 16 + d) high) acc cs
  | .pairBackslash high, acc, c :: cs =>
    if c = '\\' then readStringFrom (.pairLetter high) acc cs else .error .malformed
  | .pairLetter high, acc, c :: cs =>
    if c = 'u' then
      if byteCount (cs.take 4) < 4 then .error .truncated
      else readStringFrom (.numbered 4 0 (some high)) acc cs
    else .error .malformed

/-- Reads a string from behind its opening quote. -/
def readString (cs : List Char) : Scan String :=
  match readStringFrom .plain [] cs with
  | .ok (s, rest) => .ok (String.ofList s, rest)
  | .error f => .error f

/-! ## Numbers -/

/-- A number as read. -/
inductive Number where
  /-- An integer that fits a 64-bit word, signed or unsigned. -/
  | int (n : Int)
  /-- Any other number, as written. -/
  | decimal (text : String)
  deriving DecidableEq, Repr

/-- The value of a run of decimal digits. -/
def digitsValue (cs : List Char) : Nat :=
  cs.foldl (fun n c => n * 10 + (c.toNat - '0'.toNat)) 0

/-- Digits that must be there. -/
def readDigits (cs : List Char) : Scan (List Char) :=
  match cs.span Char.isDigit with
  | ([], []) => .error .truncated
  | ([], _ :: _) => .error .malformed
  | (ds, rest) => .ok (ds, rest)

/-- The whole part of a number: digits, with no zero before another. -/
def readWhole (cs : List Char) : Scan (List Char) :=
  match readDigits cs with
  | .ok ('0' :: _ :: _, _) => .error .malformed
  | r => r

/-- The fraction of a number, if it has one. -/
def readFraction : List Char → Scan (List Char)
  | '.' :: cs => readDigits cs
  | cs => .ok ([], cs)

/-- The exponent of a number behind its letter. -/
def readSigned : List Char → Scan Int
  | '-' :: cs => (readDigits cs).map fun (ds, rest) => (-(digitsValue ds : Int), rest)
  | '+' :: cs => (readDigits cs).map fun (ds, rest) => ((digitsValue ds : Int), rest)
  | cs => (readDigits cs).map fun (ds, rest) => ((digitsValue ds : Int), rest)

/-- The exponent of a number, if it has one. -/
def readExponent : List Char → Scan (Option Int)
  | 'e' :: cs => (readSigned cs).map fun (n, rest) => (some n, rest)
  | 'E' :: cs => (readSigned cs).map fun (n, rest) => (some n, rest)
  | cs => .ok (none, cs)

/-- A number without fraction and exponent. The negative zero is not an
integer. -/
def wholeNumber (negative : Bool) (n : Nat) (text : String) : Number :=
  if negative then
    if n = 0 ∨ n > 9223372036854775808 then .decimal text else .int (-(n : Int))
  else if n < 18446744073709551616 then .int n
  else .decimal text

/-- Reads a number. -/
def readNumber (cs : List Char) : Except Fault (Number × List Char) := do
  let negative := cs.head? = some '-'
  let (whole, rest) ← readWhole (if negative then cs.tail else cs)
  let (fraction, rest) ← readFraction rest
  let (exponent, rest) ← readExponent rest
  let text := String.ofList (cs.take (cs.length - rest.length))
  if Magnitude.isTooLarge whole fraction (exponent.getD 0) then .error .malformed
  else if fraction.isEmpty ∧ exponent.isNone then
    .ok (wholeNumber negative (digitsValue whole) text, rest)
  else .ok (.decimal text, rest)

end LeaseStore.Json
