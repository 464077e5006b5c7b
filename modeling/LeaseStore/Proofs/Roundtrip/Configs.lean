/-
LeaseStore.Proofs.Roundtrip.Configs — configurations survive being written.

`Reads read text a` says that a reader takes a text for the value `a`
wherever the value may stand in an object. It holds of the texts of strings,
counts and durations, and of a record of settings when it holds of its
members: a run of members takes a draft to a draft (`Fills`), each filling a
field that was empty before. The retry policy, which is a record within a
record, then needs no argument of its own.

* `readRecord_of_fills` — an object is read when its members fill the draft.
* `config_survives_writing` — what is written for a configuration is read as
  that configuration.
-/
import LeaseStore.Config.Text
import LeaseStore.Proofs.Roundtrip.Durations
import LeaseStore.Proofs.Roundtrip.Lexemes

namespace LeaseStore

open LeaseStore.Json

namespace Config

/-! ## Values -/

/-- What may follow a value in an object. -/
inductive Ends : List Char → Prop where
  | comma (rest : List Char) : Ends (',' :: rest)
  | brace (rest : List Char) : Ends ('\x7d' :: rest)

theorem Ends.endsNumber {rest : List Char} (h : Ends rest) : EndsNumber rest := by
  cases h <;> simp [EndsNumber]

/-- A text that is read as a value. -/
def Reads {α : Type} (read : List Char → Scan α) (text : String) (a : α) : Prop :=
  ∀ rest, Ends rest → read (text.toList ++ rest) = .ok (a, rest)

theorem Reads.map {α β : Type} {read : List Char → Scan α} {text : String} {a : α}
    (h : Reads read text a) (f : α → β) :
    Reads (fun cs => (read cs).map fun (a, rest) => (f a, rest)) text (f a) := by
  intro rest hrest
  simp [h rest hrest, Except.map]

theorem reads_text (s : String) : Reads readText (Json.string s).render s := by
  intro rest _
  rw [render]
  obtain ⟨cs, hquote, hread⟩ := readString_quote s rest
  have hspace : isSpace '"' = false := by decide
  simp [readText, hquote, skipSpace, hspace, hread]

theorem reads_count {greatest n : Nat} (hn : n ≤ greatest)
    (hgreatest : greatest < 18446744073709551616) :
    Reads (readCount greatest) (Json.int n).render n := by
  intro rest hrest
  have hread := readNumber_toDigits (n := n) (by omega) hrest.endsNumber
  have hdigits : (Json.int n).render.toList = Nat.toDigits 10 n := by
    rw [render]
    exact Nat.toList_repr
  obtain ⟨c, cs, htext, hdigit⟩ := Text.exists_toDigits_append n rest
  rw [htext] at hread
  rw [hdigits, htext]
  simp [readCount, skipSpace, isSpace_of_isDigit hdigit, hdigit, hread, hn]

theorem reads_duration (d : Duration) :
    Reads readDuration (Json.string d.render).render d := by
  intro rest hrest
  simp [readDuration, reads_text d.render rest hrest, Duration.parse?_render]

/-! ## Members -/

section Members

variable {δ α : Type} {fields : List (Field δ)}

/-- A member that takes a draft to a draft, by a field that the draft did not
have. -/
structure Sets (fields : List (Field δ)) (field : Field δ) (d : δ) (m : String × Json) (d' : δ) :
    Prop where
  found : fields.find? (·.name = m.1) = some field
  unset : field.isSet d = false
  reads : Reads (field.read d) m.2.render d'

/-- Members that take a draft to a draft, one after the other. -/
inductive Fills (fields : List (Field δ)) : δ → List (String × Json) → δ → Prop where
  | nil (d : δ) : Fills fields d [] d
  | cons {d d' d'' : δ} {m : String × Json} {ms : List (String × Json)} (field : Field δ)
      (hm : Sets fields field d m d') (hms : Fills fields d' ms d'') :
      Fills fields d (m :: ms) d''

/-- A member as it is written. -/
def memberText (m : String × Json) : List Char := (quote m.1).toList ++ ':' :: m.2.render.toList

/-- Members as they are written behind a member. -/
def laterText (ms : List (String × Json)) : List Char := ms.flatMap fun m => ',' :: memberText m

theorem toList_renderMembers_cons (m : String × Json) (ms : List (String × Json)) :
    (renderMembers (m :: ms)).toList = memberText m ++ laterText ms := by
  induction ms generalizing m with
  | nil => simp [renderMembers, memberText, laterText]
  | cons m' ms ih =>
    have := ih m'
    simp [renderMembers, memberText, laterText, this]

theorem ends_laterText (ms : List (String × Json)) (rest : List Char) :
    Ends (laterText ms ++ '\x7d' :: rest) := by
  cases ms with
  | nil => exact .brace rest
  | cons m ms => exact .comma _

/-- A member begins with a quote, and from there on it is read. -/
theorem Sets.readNamed {d d' : δ} {m : String × Json} {field : Field δ}
    (h : Sets fields field d m d') {rest : List Char} (hrest : Ends rest) :
    ∃ cs, memberText m ++ rest = '"' :: cs ∧
      Config.readNamed fields d ('"' :: cs) = .ok (d', rest) := by
  obtain ⟨cs, hquote, hname⟩ := readString_quote m.1 (':' :: (m.2.render.toList ++ rest))
  have hspace : isSpace ':' = false := by decide
  refine ⟨cs, by simpa [memberText] using hquote, ?_⟩
  rw [Config.readNamed, hname]
  simp [readMember, h.found, h.unset, skipSpace, hspace, h.reads rest hrest]

/-! ## Objects -/

theorem readObject_close (fields : List (Field δ)) (fuel : Nat) (first : Bool) (d : δ)
    (rest : List Char) :
    readObject fields (fuel + 1) first d ('\x7d' :: rest) = .ok (d, '\x7d' :: rest) := by
  have hspace : isSpace '\x7d' = false := by decide
  simp [readObject, skipSpace, hspace]

theorem Sets.readObject_first {d d' : δ} {m : String × Json} {field : Field δ}
    (h : Sets fields field d m d') (fuel : Nat) {rest : List Char} (hrest : Ends rest) :
    readObject fields (fuel + 1) true d (memberText m ++ rest) =
      readObject fields fuel false d' rest := by
  obtain ⟨cs, htext, hnamed⟩ := h.readNamed hrest
  have hspace : isSpace '"' = false := by decide
  rw [htext]
  simp [readObject, skipSpace, hspace, hnamed]

theorem Sets.readObject_later {d d' : δ} {m : String × Json} {field : Field δ}
    (h : Sets fields field d m d') (fuel : Nat) {rest : List Char} (hrest : Ends rest) :
    readObject fields (fuel + 1) false d (',' :: (memberText m ++ rest)) =
      readObject fields fuel false d' rest := by
  obtain ⟨cs, htext, hnamed⟩ := h.readNamed hrest
  have hcomma : isSpace ',' = false := by decide
  have hspace : isSpace '"' = false := by decide
  rw [htext]
  simp [readObject, skipSpace, hcomma, hspace, hnamed]

/-- The members behind the first. Induction on the members. -/
theorem readObject_laterText {d d' : δ} {ms : List (String × Json)} (h : Fills fields d ms d')
    {fuel : Nat} (hfuel : ms.length < fuel) (rest : List Char) :
    readObject fields fuel false d (laterText ms ++ '\x7d' :: rest) = .ok (d', '\x7d' :: rest) := by
  induction h generalizing fuel with
  | nil d =>
    obtain ⟨fuel, rfl⟩ := Nat.exists_eq_succ_of_ne_zero (Nat.ne_of_gt hfuel)
    exact readObject_close fields fuel false d rest
  | @cons d d' d'' m ms field hm _ ih =>
    obtain ⟨fuel, rfl⟩ := Nat.exists_eq_succ_of_ne_zero (Nat.ne_of_gt (Nat.zero_lt_of_lt hfuel))
    have hstep := hm.readObject_later fuel (ends_laterText ms rest)
    rw [laterText, List.flatMap_cons, List.cons_append, List.cons_append, List.append_assoc]
    exact hstep.trans (ih (Nat.lt_of_succ_lt_succ hfuel))

theorem length_le_laterText (ms : List (String × Json)) : ms.length ≤ (laterText ms).length := by
  induction ms with
  | nil => exact Nat.le_refl 0
  | cons m ms ih =>
    simp [laterText] at ih ⊢
    omega

/-- The members of an object, as many as its text has characters at most. -/
theorem readObject_renderMembers {d d' : δ} {ms : List (String × Json)}
    (h : Fills fields d ms d') (rest : List Char) :
    readObject fields (((renderMembers ms).toList ++ '\x7d' :: rest).length + 1) true d
      ((renderMembers ms).toList ++ '\x7d' :: rest) = .ok (d', '\x7d' :: rest) := by
  cases h with
  | nil => exact readObject_close fields _ true d rest
  | @cons _ d' _ m ms field hm hms =>
    have hlength := length_le_laterText ms
    rw [toList_renderMembers_cons, List.append_assoc,
      hm.readObject_first _ (ends_laterText ms rest)]
    refine readObject_laterText hms ?_ rest
    simp
    omega

/-- An object is read when its members fill the draft. -/
theorem readRecord_of_fills {draft d : δ} {ms : List (String × Json)} (finish : δ → Option α)
    {a : α} (h : Fills fields draft ms d) (hfinish : finish d = some a) (rest : List Char) :
    readRecord fields draft finish ((Json.object ms).render.toList ++ rest) = .ok (a, rest) := by
  have hread := readObject_renderMembers h rest
  have hopen : isSpace '\x7b' = false := by decide
  have hclose : isSpace '\x7d' = false := by decide
  have htext : (Json.object ms).render.toList ++ rest =
      '\x7b' :: ((renderMembers ms).toList ++ '\x7d' :: rest) := by
    simp [render]
  rw [htext, readRecord, skipSpace, List.dropWhile_cons_of_neg (by simp [hopen])]
  simp only [hread, hfinish]
  simp [readClose, skipSpace, hclose, Except.map]

end Members

/-! ## The two records -/

/-- The members of a retry policy fill a draft one after the other. -/
theorem fills_policy {p : RetryPolicy} (hattempts : p.maxAttempts ≤ 4294967295) :
    Fills policyFields {} [("max_attempts", .int p.maxAttempts),
      ("initial_backoff", .string p.initialBackoff.render),
      ("max_backoff", .string p.maxBackoff.render)]
      ⟨some p.maxAttempts, some p.initialBackoff, some p.maxBackoff⟩ := by
  let d₁ : PolicyDraft := { maxAttempts := some p.maxAttempts }
  let d₂ : PolicyDraft := { d₁ with initialBackoff := some p.initialBackoff }
  have hattempts := (reads_count hattempts (by decide)).map
    fun n => ({ maxAttempts := some n } : PolicyDraft)
  have hinitial := (reads_duration p.initialBackoff).map
    fun t => { d₁ with initialBackoff := some t }
  have hlongest := (reads_duration p.maxBackoff).map fun t => { d₂ with maxBackoff := some t }
  refine .cons policyFields[0] ⟨by simp [policyFields], rfl, hattempts⟩ ?_
  refine .cons policyFields[1] ⟨by simp [policyFields], rfl, hinitial⟩ ?_
  refine .cons policyFields[2] ⟨by simp [policyFields], rfl, hlongest⟩ ?_
  exact .nil _

theorem reads_policy {p : RetryPolicy} (hattempts : p.maxAttempts ≤ 4294967295) :
    Reads readPolicy (policyJson p).render p := by
  intro rest _
  have hfinish : PolicyDraft.finish
      ⟨some p.maxAttempts, some p.initialBackoff, some p.maxBackoff⟩ = p := rfl
  have hread := readRecord_of_fills (fun d => some d.finish) (fills_policy hattempts)
    (congrArg some hfinish) rest
  exact hread

/-- The draft that has every setting of a configuration. -/
def fullDraft (c : Config) : Draft :=
  { storageType := some c.storageType
    connectionString := some c.connectionString
    database := some c.database
    collection := some c.collection
    throughput := some c.throughput
    maxPending := some c.maxPending
    lockRetry := some c.lockRetry }

/-- The members of a configuration fill a draft one after the other. -/
theorem fills_fullDraft {c : Config} (hthroughput : c.throughput ≤ 4294967295)
    (hpending : c.maxPending ≤ 18446744073709551615)
    (hattempts : c.lockRetry.maxAttempts ≤ 4294967295) :
    Fills fields {} [("storage_type", .string c.storageType),
      ("connection_string", .string c.connectionString), ("database", .string c.database),
      ("collection", .string c.collection), ("throughput", .int c.throughput),
      ("max_pending_operations", .int c.maxPending), ("lock_retry", policyJson c.lockRetry)]
      c.fullDraft := by
  let d₁ : Draft := { storageType := some c.storageType }
  let d₂ : Draft := { d₁ with connectionString := some c.connectionString }
  let d₃ : Draft := { d₂ with database := some c.database }
  let d₄ : Draft := { d₃ with collection := some c.collection }
  let d₅ : Draft := { d₄ with throughput := some c.throughput }
  let d₆ : Draft := { d₅ with maxPending := some c.maxPending }
  have hstorage := (reads_text c.storageType).map fun s => ({ storageType := some s } : Draft)
  have hconnection := (reads_text c.connectionString).map
    fun s => { d₁ with connectionString := some s }
  have hdatabase := (reads_text c.database).map fun s => { d₂ with database := some s }
  have hcollection := (reads_text c.collection).map fun s => { d₃ with collection := some s }
  have hthroughput := (reads_count hthroughput (by decide)).map
    fun n => { d₄ with throughput := some n }
  have hpending := (reads_count hpending (by decide)).map fun n => { d₅ with maxPending := some n }
  have hpolicy := (reads_policy hattempts).map fun p => { d₆ with lockRetry := some p }
  refine .cons fields[0] ⟨by simp [fields], rfl, hstorage⟩ ?_
  refine .cons fields[1] ⟨by simp [fields], rfl, hconnection⟩ ?_
  refine .cons fields[2] ⟨by simp [fields], rfl, hdatabase⟩ ?_
  refine .cons fields[3] ⟨by simp [fields], rfl, hcollection⟩ ?_
  refine .cons fields[4] ⟨by simp [fields], rfl, hthroughput⟩ ?_
  refine .cons fields[5] ⟨by simp [fields], rfl, hpending⟩ ?_
  refine .cons fields[6] ⟨by simp [fields], rfl, hpolicy⟩ ?_
  exact .nil _

end Config

/-- What is written for a configuration is read as that configuration, be
its settings usable or not. -/
theorem config_survives_writing (c : Config) (hthroughput : c.throughput ≤ 4294967295)
    (hpending : c.maxPending ≤ 18446744073709551615)
    (hattempts : c.lockRetry.maxAttempts ≤ 4294967295) : Config.read c.write = .ok c := by
  have hfinish : c.fullDraft.finish? = some c := rfl
  have hread := Config.readRecord_of_fills Config.Draft.finish?
    (Config.fills_fullDraft hthroughput hpending hattempts) hfinish []
  rw [List.append_nil] at hread
  rw [Config.read, Config.write, Config.toJson, hread]
  rfl

/-- A configuration with settings at their limits that no engine accepts. -/
def Config.extreme : Config :=
  { storageType := " "
    connectionString := "AccountName=\"\\\u0001é😀\n"
    database := ""
    collection := "\t"
    throughput := 4294967295
    maxPending := 18446744073709551615
    lockRetry :=
      { maxAttempts := 4294967295, initialBackoff := .longest, maxBackoff := .zero } }

/-- A blank backend name, characters that must be escaped, and the longest
and the shortest pause come back. -/
theorem config_survives_writing_extreme :
    Config.extreme.check = .error (.empty "storage_type") ∧
    Config.extreme.lockRetry.initialBackoff.render =
      "584542046090years 7months 15days 17h 5m 3s 999ms 999us 999ns" ∧
    Config.extreme.throughput ≤ 4294967295 ∧
    Config.extreme.maxPending ≤ 18446744073709551615 ∧
    Config.extreme.lockRetry.maxAttempts ≤ 4294967295 ∧
    Config.read Config.extreme.write = .ok Config.extreme :=
  ⟨by decide, by decide, by decide, by decide, by decide,
    config_survives_writing Config.extreme (by decide) (by decide) (by decide)⟩

end LeaseStore
