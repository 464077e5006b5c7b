/-
LeaseStore.Json.Reader — reading a JSON value from text.

`Json.parse` accepts one value with blanks around it. Depth and length of
a value are bounded by the length of its text, which is the fuel of the
reader.
-/
import LeaseStore.Json
import LeaseStore.Json.Lexeme

namespace LeaseStore.Json

/-- The value of a number as read. -/
def ofNumber : Number → Json
  | .int n => int n
  | .decimal text => decimal text

mutual

/-- Reads one value. -/
def readValue : Nat → List Char → Except Fault (Json × List Char)
  | 0, _ => .error .truncated
  | fuel + 1, cs =>
    match skipSpace cs with
    | [] => .error .truncated
    | '"' :: cs => do
      let (s, rest) ← readString cs
      .ok (string s, rest)
    | '[' :: cs => do
      let (items, rest) ← readItems fuel true cs
      .ok (array items, rest)
    | '{' :: cs => do
      let (members, rest) ← readMembers fuel true cs
      .ok (object members, rest)
    | 'n' :: cs => do .ok (null, ← readWord ['u', 'l', 'l'] cs)
    | 't' :: cs => do .ok (bool true, ← readWord ['r', 'u', 'e'] cs)
    | 'f' :: cs => do .ok (bool false, ← readWord ['a', 'l', 's', 'e'] cs)
    | c :: cs =>
      if c = '-' ∨ c.isDigit then do
        let (n, rest) ← readNumber (c :: cs)
        .ok (ofNumber n, rest)
      else .error .malformed

/-- Reads the rest of an array; `first` if nothing stands before it. -/
def readItems : Nat → Bool → List Char → Except Fault (List Json × List Char)
  | 0, _, _ => .error .truncated
  | fuel + 1, first, cs =>
    match skipSpace cs with
    | [] => .error .truncated
    | c :: cs =>
      if first ∧ c = ']' then .ok ([], cs)
      else do
        let (v, rest) ← readValue fuel (if first then c :: cs else cs)
        match skipSpace rest with
        | ']' :: rest => .ok ([v], rest)
        | ',' :: rest => do
          let (vs, rest) ← readItems fuel false (',' :: rest)
          .ok (v :: vs, rest)
        | [] => .error .truncated
        | _ => .error .malformed

/-- Reads the rest of an object; `first` if nothing stands before it. -/
def readMembers : Nat → Bool → List Char → Except Fault (List (String × Json) × List Char)
  | 0, _, _ => .error .truncated
  | fuel + 1, first, cs =>
    match skipSpace cs with
    | [] => .error .truncated
    | c :: cs =>
      if first ∧ c = '}' then .ok ([], cs)
      else
        match skipSpace (if first then c :: cs else cs) with
        | '"' :: cs => do
          let (name, rest) ← readString cs
          match skipSpace rest with
          | ':' :: rest => do
            let (v, rest) ← readValue fuel rest
            match skipSpace rest with
            | '}' :: rest => .ok ([(name, v)], rest)
            | ',' :: rest => do
              let (ms, rest) ← readMembers fuel false (',' :: rest)
              .ok ((name, v) :: ms, rest)
            | [] => .error .truncated
            | _ => .error .malformed
          | [] => .error .truncated
          | _ => .error .malformed
        | [] => .error .truncated
        | _ => .error .malformed

end

/-- The value that a text holds. -/
def parse (s : String) : Except Fault Json := do
  let (v, rest) ← readValue (s.length + 1) s.toList
  if (skipSpace rest).isEmpty then .ok v else .error .malformed

end LeaseStore.Json
