/-
LeaseStore.Config.Text — configuration as JSON text.

`Config.read` reads a configuration straight from text, one member after
the other, and stops at the first fault: a member of the wrong type is a
fault even when the text behind it is broken, and the other way round. A
configuration is an object, or an array of the values in the order of the
fields; absent settings take their defaults, and a member that is unknown
or repeated is refused at its name.

`Config.toJson` writes every setting, so that reading what was written
gives the configuration back.
-/
import LeaseStore.Config
import LeaseStore.Json.Lexeme
import LeaseStore.Json.Printer

namespace LeaseStore.Config

open LeaseStore.Json

/-! ## Values -/

/-- The fault of reading a value of an unwanted type: a fault within the
value comes first. -/
def faultWithin {α : Type} : Except Fault α → Fault
  | .error f => f
  | .ok _ => .illTyped

/-- The fault of a text that does not begin with a value of the wanted
type. The value that is there is read as far as its own faults go. -/
def mismatch : List Char → Fault
  | [] => .truncated
  | 'n' :: cs => faultWithin (readWord ['u', 'l', 'l'] cs)
  | 't' :: cs => faultWithin (readWord ['r', 'u', 'e'] cs)
  | 'f' :: cs => faultWithin (readWord ['a', 'l', 's', 'e'] cs)
  | '"' :: cs => faultWithin (readString cs)
  | '[' :: _ => .illTyped
  | '\x7b' :: _ => .illTyped
  | c :: cs => if c = '-' ∨ c.isDigit then faultWithin (readNumber (c :: cs)) else .malformed

/-- Reads a string. -/
def readText (cs : List Char) : Scan String :=
  match skipSpace cs with
  | '"' :: cs => readString cs
  | cs => .error (mismatch cs)

/-- Reads a natural number that does not exceed `greatest`. -/
def readCount (greatest : Nat) (cs : List Char) : Scan Nat :=
  match skipSpace cs with
  | [] => .error .truncated
  | c :: cs =>
    if c = '-' ∨ c.isDigit then
      match readNumber (c :: cs) with
      | .error f => .error f
      | .ok (.int n, rest) =>
        if 0 ≤ n ∧ n ≤ greatest then .ok (n.toNat, rest) else .error .illTyped
      | .ok (.decimal _, _) => .error .illTyped
    else .error (mismatch (c :: cs))

/-- Reads a duration, which is written as text. -/
def readDuration (cs : List Char) : Scan Duration :=
  match readText cs with
  | .error f => .error f
  | .ok (s, rest) =>
    match Duration.parse? s with
    | some d => .ok (d, rest)
    | none => .error .illTyped

/-! ## Records of settings -/

/-- How to read a record of settings into a draft: the fields by name, in
order, and what a finished draft must hold. A field says whether a draft
already has it. -/
structure Field (δ : Type) where
  name : String
  isSet : δ → Bool
  read : δ → List Char → Scan δ

/-- Reads the value of a member whose name has been read. -/
def readMember {δ : Type} (fields : List (Field δ)) (name : String) (d : δ)
    (cs : List Char) : Scan δ :=
  match fields.find? (·.name = name) with
  | none => .error .illTyped
  | some field =>
    if field.isSet d then .error .illTyped
    else
      match skipSpace cs with
      | ':' :: cs => field.read d cs
      | [] => .error .truncated
      | _ => .error .malformed

/-- Reads one member from its name on. -/
def readNamed {δ : Type} (fields : List (Field δ)) (d : δ) : List Char → Scan δ
  | [] => .error .truncated
  | '"' :: cs =>
    match readString cs with
    | .error f => .error f
    | .ok (name, rest) => readMember fields name d rest
  | _ => .error .malformed

/-- Reads the rest of an object behind its first brace. Each member takes
at least one character, so the length of the text is fuel enough. -/
def readObject {δ : Type} (fields : List (Field δ)) : Nat → Bool → δ → List Char → Scan δ
  | 0, _, _, _ => .error .truncated
  | fuel + 1, first, d, cs =>
    match skipSpace cs with
    | [] => .error .truncated
    | '\x7d' :: cs => .ok (d, '\x7d' :: cs)
    | c :: cs =>
      if first then
        match readNamed fields d (c :: cs) with
        | .ok (d, rest) => readObject fields fuel false d rest
        | .error f => .error f
      else if c = ',' then
        match readNamed fields d (skipSpace cs) with
        | .ok (d, rest) => readObject fields fuel false d rest
        | .error f => .error f
      else .error .malformed

/-- Reads the values of an array in the order of the fields, as far as the
array goes. -/
def readArray {δ : Type} : List (Field δ) → Bool → δ → List Char → Scan δ
  | [], _, d, cs => .ok (d, cs)
  | field :: fields, first, d, cs =>
    match skipSpace cs with
    | [] => .error .truncated
    | ']' :: cs => .ok (d, ']' :: cs)
    | c :: cs =>
      if first then
        match field.read d (c :: cs) with
        | .ok (d, rest) => readArray fields false d rest
        | .error f => .error f
      else if c = ',' then
        match skipSpace cs with
        | ']' :: _ => .error .malformed
        | cs =>
          match field.read d cs with
          | .ok (d, rest) => readArray fields false d rest
          | .error f => .error f
      else .error .malformed

/-- The closing bracket of an array or object must come next. -/
def readClose (close : Char) (cs : List Char) : Except Fault (List Char) :=
  match skipSpace cs with
  | [] => .error .truncated
  | c :: cs => if c = close then .ok cs else .error .malformed

/-- Reads a record of settings, as an object or as an array, and finishes
the draft. What the draft lacks is found before the closing bracket. -/
def readRecord {δ α : Type} (fields : List (Field δ)) (draft : δ) (finish : δ → Option α)
    (cs : List Char) : Scan α :=
  let close (bracket : Char) : Except Fault (δ × List Char) → Scan α
    | .error f => .error f
    | .ok (d, rest) =>
      match finish d with
      | none => .error .illTyped
      | some a => (readClose bracket rest).map fun rest => (a, rest)
  match skipSpace cs with
  | '\x7b' :: cs => close '\x7d' (readObject fields (cs.length + 1) true draft cs)
  | '[' :: cs => close ']' (readArray fields true draft cs)
  | cs => .error (mismatch cs)

/-! ## The two records -/

/-- A retry policy in the making. -/
structure PolicyDraft where
  maxAttempts : Option Nat := none
  initialBackoff : Option Duration := none
  maxBackoff : Option Duration := none

/-- The fields of a retry policy. -/
def policyFields : List (Field PolicyDraft) :=
  [ { name := "max_attempts", isSet := (·.maxAttempts.isSome),
      read := fun d cs => (readCount 4294967295 cs).map
        fun (n, rest) => ({ d with maxAttempts := some n }, rest) },
    { name := "initial_backoff", isSet := (·.initialBackoff.isSome),
      read := fun d cs => (readDuration cs).map
        fun (t, rest) => ({ d with initialBackoff := some t }, rest) },
    { name := "max_backoff", isSet := (·.maxBackoff.isSome),
      read := fun d cs => (readDuration cs).map
        fun (t, rest) => ({ d with maxBackoff := some t }, rest) } ]

/-- A policy with defaults for what is absent. -/
def PolicyDraft.finish (d : PolicyDraft) : RetryPolicy :=
  let base : RetryPolicy := {}
  { maxAttempts := d.maxAttempts.getD base.maxAttempts
    initialBackoff := d.initialBackoff.getD base.initialBackoff
    maxBackoff := d.maxBackoff.getD base.maxBackoff }

/-- Reads a retry policy. -/
def readPolicy (cs : List Char) : Scan RetryPolicy :=
  readRecord policyFields {} (fun d => some d.finish) cs

/-- A configuration in the making. -/
structure Draft where
  storageType : Option String := none
  connectionString : Option String := none
  database : Option String := none
  collection : Option String := none
  throughput : Option Nat := none
  maxPending : Option Nat := none
  lockRetry : Option RetryPolicy := none

/-- The fields of a configuration. -/
def fields : List (Field Draft) :=
  [ { name := "storage_type", isSet := (·.storageType.isSome),
      read := fun d cs => (readText cs).map
        fun (s, rest) => ({ d with storageType := some s }, rest) },
    { name := "connection_string", isSet := (·.connectionString.isSome),
      read := fun d cs => (readText cs).map
        fun (s, rest) => ({ d with connectionString := some s }, rest) },
    { name := "database", isSet := (·.database.isSome),
      read := fun d cs => (readText cs).map
        fun (s, rest) => ({ d with database := some s }, rest) },
    { name := "collection", isSet := (·.collection.isSome),
      read := fun d cs => (readText cs).map
        fun (s, rest) => ({ d with collection := some s }, rest) },
    { name := "throughput", isSet := (·.throughput.isSome),
      read := fun d cs => (readCount 4294967295 cs).map
        fun (n, rest) => ({ d with throughput := some n }, rest) },
    { name := "max_pending_operations", isSet := (·.maxPending.isSome),
      read := fun d cs => (readCount 18446744073709551615 cs).map
        fun (n, rest) => ({ d with maxPending := some n }, rest) },
    { name := "lock_retry", isSet := (·.lockRetry.isSome),
      read := fun d cs => (readPolicy cs).map
        fun (p, rest) => ({ d with lockRetry := some p }, rest) } ]

/-- A configuration with defaults for what is absent; the backend's name
and the collection have none. -/
def Draft.finish? (d : Draft) : Option Config := do
  let base : Config := { storageType := ← d.storageType, collection := ← d.collection }
  some { base with
    connectionString := d.connectionString.getD base.connectionString
    database := d.database.getD base.database
    throughput := d.throughput.getD base.throughput
    maxPending := d.maxPending.getD base.maxPending
    lockRetry := d.lockRetry.getD base.lockRetry }

/-- The configuration that a text holds, not checked in any way. -/
def read (s : String) : Except Fault Config :=
  match readRecord fields {} Draft.finish? s.toList with
  | .error f => .error f
  | .ok (c, rest) => if (skipSpace rest).isEmpty then .ok c else .error .malformed

/-! ## Writing -/

/-- A retry policy as JSON. -/
def policyJson (p : RetryPolicy) : Json :=
  .object [ ("max_attempts", .int p.maxAttempts),
    ("initial_backoff", .string p.initialBackoff.render),
    ("max_backoff", .string p.maxBackoff.render) ]

/-- A configuration as JSON, every setting written. -/
def toJson (c : Config) : Json :=
  .object [ ("storage_type", .string c.storageType),
    ("connection_string", .string c.connectionString),
    ("database", .string c.database),
    ("collection", .string c.collection),
    ("throughput", .int c.throughput),
    ("max_pending_operations", .int c.maxPending),
    ("lock_retry", policyJson c.lockRetry) ]

/-- A configuration as text. -/
def write (c : Config) : String := c.toJson.render

end LeaseStore.Config
