/-
LeaseStore.Proofs.Roundtrip.Durations — durations are read back.

A duration is written as parts with a blank between them, and a part is read
in three steps: its digits, its unit, and what they add to the total. Each
step is an equation of the reader (`parseFrom_toDigits`, `parseFrom_letters`,
`addPart_eq`), so that the parts of any list add up to their sum as long as
the sum is a duration (`parseFrom_parts`). What is left is arithmetic: years,
months, days and so on down to the nanoseconds are the whole duration, and
leaving out those of which there are none loses nothing.

* `parse?_render` — what is written for a duration is read as that duration.
-/
import LeaseStore.Duration.Text
import LeaseStore.Proofs.Text.Numeral
import Mathlib.Algebra.GroupWithZero.Nat

namespace LeaseStore.Duration

open LeaseStore.Text

/-! ## Characters -/

theorem digitValue?_digitChar : ∀ d < 10, digitValue? (Nat.digitChar d) = some d := by
  decide

theorem isBlank_of_isDigit {c : Char} (h : c.isDigit = true) : isBlank c = false := by
  simp [Char.isDigit, isBlank, UInt32.le_iff_toNat_le] at h ⊢
  omega

theorem isBlank_of_isUnitLetter {c : Char} (h : isUnitLetter c = true) : isBlank c = false := by
  simp [isUnitLetter, isBlank, Char.le_def, UInt32.le_iff_toNat_le] at h ⊢
  rcases h with (h | h) | rfl
  · omega
  · omega
  · decide

theorem digitValue?_of_isUnitLetter {c : Char} (h : isUnitLetter c = true) :
    digitValue? c = none := by
  simp [isUnitLetter, digitValue?, Char.le_def, UInt32.le_iff_toNat_le] at h ⊢
  rcases h with (h | h) | rfl
  · omega
  · omega
  · decide

namespace TimeUnit

/-- The words for a unit. -/
def words : TimeUnit → List String
  | nanosecond => ["nanos", "nsec", "ns"]
  | microsecond => ["usec", "us", "µs"]
  | millisecond => ["millis", "msec", "ms"]
  | second => ["seconds", "second", "secs", "sec", "s"]
  | minute => ["minutes", "minute", "mins", "min", "m"]
  | hour => ["hours", "hour", "hrs", "hr", "h"]
  | day => ["days", "day", "d"]
  | week => ["weeks", "week", "wks", "wk", "w"]
  | month => ["months", "month", "M"]
  | year => ["years", "year", "yrs", "yr", "y"]

theorem mem_words_of_ofWord? {w : String} {u : TimeUnit} (h : ofWord? w = some u) :
    w ∈ u.words := by
  unfold ofWord? at h
  repeat' split at h
  all_goals cases h
  all_goals assumption

/-- The words for units are made of letters. -/
theorem isUnitLetter_of_ofWord? {w : String} {u : TimeUnit} (h : ofWord? w = some u) :
    w ≠ "" ∧ ∀ c ∈ w.toList, isUnitLetter c = true := by
  have hwords : ∀ w ∈ u.words, w ≠ "" ∧ w.toList.all isUnitLetter = true := by
    cases u <;> decide
  obtain ⟨hne, hall⟩ := hwords w (mem_words_of_ofWord? h)
  exact ⟨hne, List.all_eq_true.mp hall⟩

end TimeUnit

/-! ## Digits and letters -/

/-- Induction on the number, along the recursion of its digits. -/
theorem parseFrom_toDigits {n : Nat} (hn : n < 18446744073709551616) (total : Duration)
    (rest : List Char) :
    parseFrom .between total (Nat.toDigits 10 n ++ rest) = parseFrom (.whole n) total rest := by
  induction n using Nat.strongRecOn generalizing rest with
  | ind n ih =>
    rw [Nat.toDigits_eq_if (by decide)]
    split
    case isTrue hsmall => simp [parseFrom, digitValue?_digitChar n hsmall]
    case isFalse hlarge =>
      have hdigit := digitValue?_digitChar (n % 10) (Nat.mod_lt n (by decide))
      have hsum : n / 10 * 10 + n % 10 = n := by omega
      rw [List.append_assoc, ih (n / 10) (by omega) (by omega)]
      simp [parseFrom, hdigit, hsum, word?, hn]

theorem parseFrom_letters {w : List Char} (hw : ∀ c ∈ w, isUnitLetter c = true) (n : Nat)
    (f : Option Fraction) (read : List Char) (total : Duration) (rest : List Char) :
    parseFrom (.unit n f read) total (w ++ rest) =
      parseFrom (.unit n f (w.reverse ++ read)) total rest := by
  induction w generalizing read with
  | nil => rfl
  | cons c w ih =>
    have hc := hw c (by simp)
    have hrest := ih (fun d hd => hw d (by simp [hd])) (c :: read)
    simp [parseFrom, hc, isBlank_of_isUnitLetter hc, digitValue?_of_isUnitLetter hc, hrest]

/-- A number and a unit behind it are read up to the end of the unit. -/
theorem parseFrom_part {n : Nat} (hn : n < 18446744073709551616) {w : String} {u : TimeUnit}
    (hw : TimeUnit.ofWord? w = some u) (total : Duration) (rest : List Char) :
    parseFrom .between total ((toString n ++ w).toList ++ rest) =
      parseFrom (.unit n none w.toList.reverse) total rest := by
  obtain ⟨hne, hletters⟩ := TimeUnit.isUnitLetter_of_ofWord? hw
  have hdigits : (toString n).toList = Nat.toDigits 10 n := Nat.toList_repr
  rw [String.toList_append, List.append_assoc, hdigits, parseFrom_toDigits hn]
  cases hcs : w.toList with
  | nil => exact absurd (String.toList_eq_nil_iff.mp hcs) hne
  | cons c cs =>
    rw [hcs] at hletters
    have hc := hletters c (by simp)
    have hcs : ∀ d ∈ cs, isUnitLetter d = true := fun d hd => hletters d (by simp [hd])
    have hrest := parseFrom_letters hcs n none [c] total rest
    simp [parseFrom, hc, isBlank_of_isUnitLetter hc, digitValue?_of_isUnitLetter hc, hrest]

/-! ## Amounts -/

theorem nanos_eq (d : Duration) : d.nanos = d.seconds * 1000000000 + d.subsecond := by
  simp only [seconds, subsecond]
  omega

theorem ofNanos?_eq_some {n : Nat} (h : n < 18446744073709551616000000000) :
    ofNanos? n = some ⟨n, h⟩ :=
  dif_pos h

theorem word?_eq_some {n : Nat} (h : n < 18446744073709551616) : word? n = some n := if_pos h

/-- An amount is added if the sum is a duration. -/
theorem accumulate_eq (total : Duration) (secs : Nat) {nanos : Nat} (hnanos : nanos < 1000000000)
    (h : total.nanos + (secs * 1000000000 + nanos) < 18446744073709551616000000000) :
    accumulate total secs nanos = ofNanos? (total.nanos + (secs * 1000000000 + nanos)) := by
  have htotal := nanos_eq total
  have hsub : total.subsecond < 1000000000 := Nat.mod_lt _ (by decide)
  have hsum : (total.seconds + (secs + (total.subsecond + nanos) / 1000000000)) * 1000000000 +
      (total.subsecond + nanos) % 1000000000 = total.nanos + (secs * 1000000000 + nanos) := by
    omega
  have hfine := word?_eq_some (n := total.subsecond + nanos) (by omega)
  have hcarried := word?_eq_some (n := secs + (total.subsecond + nanos) / 1000000000) (by omega)
  have hwhole := word?_eq_some
    (n := total.seconds + (secs + (total.subsecond + nanos) / 1000000000)) (by omega)
  simp only [accumulate, hfine, hcarried, hwhole, hsum, bind, Option.bind]

/-- An amount counted in nanoseconds or in seconds, in nanoseconds. -/
def nanosIn (fine : Bool) (amount : Nat) : Nat := if fine then amount else amount * 1000000000

theorem accumulateIn_eq {fine : Bool} {total : Duration} {amount : Nat}
    (hfine : fine = true → amount < 1000000000)
    (h : total.nanos + nanosIn fine amount < 18446744073709551616000000000) :
    accumulateIn fine total amount = ofNanos? (total.nanos + nanosIn fine amount) := by
  cases fine with
  | true =>
    have hadd := accumulate_eq total 0 (hfine rfl)
    rw [Nat.zero_mul, Nat.zero_add] at hadd
    exact hadd h
  | false =>
    have hadd := accumulate_eq total amount (show 0 < 1000000000 by decide)
    rw [Nat.add_zero] at hadd
    exact hadd h

namespace TimeUnit

/-- A whole number of units in nanoseconds. -/
def nanos (u : TimeUnit) (n : Nat) : Nat := nanosIn u.isFine (n * u.size)

/-- Below the second, a number of units that is less than a second. -/
def Fits (u : TimeUnit) (n : Nat) : Prop := u.isFine = true → n * u.size < 1000000000

theorem size_pos (u : TimeUnit) : 0 < u.size := by
  cases u <;> decide

/-- What fits a duration is counted in 64 bits. -/
theorem Fits.lt {u : TimeUnit} {n : Nat} (hfits : u.Fits n)
    (h : u.nanos n < 18446744073709551616000000000) : n * u.size < 18446744073709551616 := by
  cases hu : u.isFine with
  | true => exact Nat.lt_trans (hfits hu) (by decide)
  | false =>
    simp only [nanos, nanosIn, hu, Bool.false_eq_true, if_false] at h
    omega

end TimeUnit

/-- A whole number of units is added if the sum is a duration. -/
theorem addPart_eq {total : Duration} {n : Nat} {w : String} {u : TimeUnit}
    (hw : TimeUnit.ofWord? w = some u) (hfits : u.Fits n)
    (h : total.nanos + u.nanos n < 18446744073709551616000000000) :
    addPart total n none w.toList = ofNanos? (total.nanos + u.nanos n) := by
  have hadd := accumulateIn_eq hfits h
  have hword := word?_eq_some (hfits.lt (by omega))
  simp only [addPart, String.ofList_toList, hw, hword, hadd, TimeUnit.nanos, bind, Option.bind]
  cases ofNanos? (total.nanos + nanosIn u.isFine (n * u.size)) <;> rfl

/-! ## Parts -/

/-- What a written part amounts to, in nanoseconds. -/
def partNanos (p : Nat × String × String) : Nat :=
  ((TimeUnit.ofWord? p.2.2).map (·.nanos p.1)).getD 0

/-- What written parts amount to. -/
def partsNanos (ps : List (Nat × String × String)) : Nat := (ps.map partNanos).sum

theorem partsNanos_cons (p : Nat × String × String) (ps : List (Nat × String × String)) :
    partsNanos (p :: ps) = partNanos p + partsNanos ps := by
  simp [partsNanos]

theorem partsNanos_nil : partsNanos [] = 0 := by
  simp [partsNanos]

/-- Parts that can be read: both words stand for one unit, and below the
second there is less than a second. -/
def Readable (p : Nat × String × String) : Prop :=
  ∃ u, TimeUnit.ofWord? p.2.1 = some u ∧ TimeUnit.ofWord? p.2.2 = some u ∧ u.Fits p.1

/-- A part is written as its number and a word for its unit. -/
theorem Readable.exists_renderPart {p : Nat × String × String} (h : Readable p) :
    ∃ w u, renderPart p = toString p.1 ++ w ∧ TimeUnit.ofWord? w = some u ∧
      partNanos p = u.nanos p.1 ∧ u.Fits p.1 := by
  obtain ⟨u, hone, hmany, hfits⟩ := h
  have hnanos : partNanos p = u.nanos p.1 := by simp [partNanos, hmany]
  by_cases hp : p.1 = 1
  · exact ⟨p.2.1, u, by simp [renderPart, hp], hone, hnanos, hfits⟩
  · exact ⟨p.2.2, u, by simp [renderPart, hp], hmany, hnanos, hfits⟩

/-- A part is read to the end of its unit, and then what it amounts to is
added. -/
theorem parseFrom_renderPart {p : Nat × String × String} (h : Readable p) {total : Duration}
    (hsum : total.nanos + partNanos p < 18446744073709551616000000000) (rest : List Char) :
    ∃ n letters, parseFrom .between total ((renderPart p).toList ++ rest) =
        parseFrom (.unit n none letters) total rest ∧
      addPart total n none letters.reverse = ofNanos? (total.nanos + partNanos p) := by
  obtain ⟨w, u, htext, hw, hnanos, hfits⟩ := h.exists_renderPart
  rw [hnanos] at hsum ⊢
  have hcount : p.1 < 18446744073709551616 :=
    Nat.lt_of_le_of_lt (Nat.le_mul_of_pos_right p.1 u.size_pos) (hfits.lt (by omega))
  refine ⟨p.1, w.toList.reverse, ?_, ?_⟩
  · rw [htext, parseFrom_part hcount hw]
  · rw [List.reverse_reverse, addPart_eq hw hfits hsum]

/-- Parts with blanks between them add up. Induction on the parts. -/
theorem parseFrom_parts {ps : List (Nat × String × String)} (hps : ∀ p ∈ ps, Readable p)
    (total : Duration) (h : total.nanos + partsNanos ps < 18446744073709551616000000000) :
    parseFrom .between total (" ".intercalate (ps.map renderPart)).toList =
      ofNanos? (total.nanos + partsNanos ps) := by
  induction ps generalizing total with
  | nil => simp [parseFrom, partsNanos_nil, ofNanos?, total.inRange]
  | cons p ps ih =>
    rw [partsNanos_cons, ← Nat.add_assoc] at h ⊢
    have hp : total.nanos + partNanos p < 18446744073709551616000000000 := by omega
    have hread := parseFrom_renderPart (hps p (by simp)) hp
    have hrest := ih (fun q hq => hps q (by simp [hq])) ⟨_, hp⟩ h
    cases ps with
    | nil =>
      obtain ⟨n, letters, hpart, hadd⟩ := hread []
      rw [List.append_nil] at hpart
      simp [hpart, parseFrom, hadd, partsNanos_nil]
    | cons q ps =>
      obtain ⟨n, letters, hpart, hadd⟩ :=
        hread (' ' :: (" ".intercalate ((q :: ps).map renderPart)).toList)
      have htext : (" ".intercalate ((p :: q :: ps).map renderPart)).toList =
          (renderPart p).toList ++ ' ' :: (" ".intercalate ((q :: ps).map renderPart)).toList := by
        simp [String.toList_intercalate]
      have hblank : digitValue? ' ' = none ∧ isBlank ' ' = true := by decide
      rw [ofNanos?_eq_some hp] at hadd
      rw [htext, hpart, parseFrom, hblank.1]
      simp only [hblank.2, if_true, hadd, bind, Option.bind]
      exact hrest

/-- Parts of which there are none amount to nothing. -/
theorem partsNanos_filter (ps : List (Nat × String × String)) :
    partsNanos (ps.filter (·.1 ≠ 0)) = partsNanos ps := by
  have hzero : ∀ p : Nat × String × String, p.1 = 0 → partNanos p = 0 := by
    intro p hp
    cases hw : TimeUnit.ofWord? p.2.2 <;> simp [partNanos, hw, hp, TimeUnit.nanos, nanosIn]
  induction ps with
  | nil => rfl
  | cons p ps ih =>
    by_cases hp : p.1 = 0
    · rw [List.filter_cons_of_neg (by simp [hp]), partsNanos_cons, hzero p hp, Nat.zero_add, ih]
    · rw [List.filter_cons_of_pos (by simp [hp]), partsNanos_cons, partsNanos_cons, ih]

/-! ## Durations -/

/-- The parts of a duration, with those of which there are none. -/
def allParts (d : Duration) : List (Nat × String × String) :=
  coarseParts d.seconds ++ fineParts d.subsecond

theorem readable_of_ofWord? {u : TimeUnit} {n : Nat} {one many : String}
    (hone : TimeUnit.ofWord? one = some u) (hmany : TimeUnit.ofWord? many = some u)
    (hfits : u.Fits n) : Readable (n, one, many) :=
  ⟨u, hone, hmany, hfits⟩

theorem readable_of_mem_coarseParts {secs : Nat} : ∀ p ∈ coarseParts secs, Readable p := by
  have hfits {u : TimeUnit} (hu : u.isFine = false) (n : Nat) : u.Fits n := by
    simp [TimeUnit.Fits, hu]
  simp only [coarseParts, List.forall_mem_cons]
  refine ⟨?_, ?_, ?_, ?_, ?_, ?_, by simp⟩
  · exact readable_of_ofWord? (u := .year) (by decide) (by decide) (hfits rfl _)
  · exact readable_of_ofWord? (u := .month) (by decide) (by decide) (hfits rfl _)
  · exact readable_of_ofWord? (u := .day) (by decide) (by decide) (hfits rfl _)
  · exact readable_of_ofWord? (u := .hour) (by decide) (by decide) (hfits rfl _)
  · exact readable_of_ofWord? (u := .minute) (by decide) (by decide) (hfits rfl _)
  · exact readable_of_ofWord? (u := .second) (by decide) (by decide) (hfits rfl _)

theorem readable_of_mem_fineParts {nanos : Nat} (h : nanos < 1000000000) :
    ∀ p ∈ fineParts nanos, Readable p := by
  have hmilli : TimeUnit.millisecond.Fits (nanos / 1000000) := by
    intro _
    rw [TimeUnit.size]
    omega
  have hmicro : TimeUnit.microsecond.Fits (nanos / 1000 % 1000) := by
    intro _
    rw [TimeUnit.size]
    omega
  have hnano : TimeUnit.nanosecond.Fits (nanos % 1000) := by
    intro _
    rw [TimeUnit.size]
    omega
  simp only [fineParts, List.forall_mem_cons]
  refine ⟨?_, ?_, ?_, by simp⟩
  · exact readable_of_ofWord? (by decide) (by decide) hmilli
  · exact readable_of_ofWord? (by decide) (by decide) hmicro
  · exact readable_of_ofWord? (by decide) (by decide) hnano

theorem readable_of_mem_allParts {d : Duration} : ∀ p ∈ d.allParts, Readable p := by
  intro p hp
  have hsub : d.subsecond < 1000000000 := Nat.mod_lt _ (by decide)
  rcases List.mem_append.mp hp with hp | hp
  · exact readable_of_mem_coarseParts p hp
  · exact readable_of_mem_fineParts hsub p hp

-- The sizes come in by equations: a product with a large number must not be
-- unfolded, and `rfl` would.

/-- A number of a unit below the second. -/
theorem partNanos_fine (u : TimeUnit) (many : String) (k : Nat)
    (h : TimeUnit.ofWord? many = some u) (hu : u.isFine = true) (hsize : u.size = k)
    (n : Nat) (one : String) : partNanos (n, one, many) = n * k := by
  simp [partNanos, h, TimeUnit.nanos, nanosIn, hu, hsize]

/-- A number of a unit from the second on. -/
theorem partNanos_coarse (u : TimeUnit) (many : String) (k : Nat)
    (h : TimeUnit.ofWord? many = some u) (hu : u.isFine = false) (hsize : u.size = k)
    (n : Nat) (one : String) : partNanos (n, one, many) = n * k * 1000000000 := by
  simp [partNanos, h, TimeUnit.nanos, nanosIn, hu, hsize]

/-- Years, months and the rest down to seconds are the seconds of which they
were taken. -/
theorem partsNanos_coarseParts (secs : Nat) :
    partsNanos (coarseParts secs) = secs * 1000000000 := by
  have hyear := partNanos_coarse .year "years" 31557600 (by decide) rfl rfl
  have hmonth := partNanos_coarse .month "months" 2630016 (by decide) rfl rfl
  have hday := partNanos_coarse .day "days" 86400 (by decide) rfl rfl
  have hhour := partNanos_coarse .hour "h" 3600 (by decide) rfl rfl
  have hminute := partNanos_coarse .minute "m" 60 (by decide) rfl rfl
  have hsecond := partNanos_coarse .second "s" 1 (by decide) rfl rfl
  rw [coarseParts]
  simp only [partsNanos_cons, partsNanos_nil, hyear, hmonth, hday, hhour, hminute, hsecond]
  omega

theorem partsNanos_fineParts (nanos : Nat) : partsNanos (fineParts nanos) = nanos := by
  have hmilli := partNanos_fine .millisecond "ms" 1000000 (by decide) rfl rfl
  have hmicro := partNanos_fine .microsecond "us" 1000 (by decide) rfl rfl
  have hnano := partNanos_fine .nanosecond "ns" 1 (by decide) rfl rfl
  rw [fineParts]
  simp only [partsNanos_cons, partsNanos_nil, hmilli, hmicro, hnano]
  omega

/-- The parts of a duration are all of it. -/
theorem partsNanos_allParts (d : Duration) : partsNanos d.allParts = d.nanos := by
  rw [nanos_eq d, ← partsNanos_coarseParts d.seconds, ← partsNanos_fineParts d.subsecond]
  simp [partsNanos, allParts]

/-- A text that begins with a digit and is not the lone zero is read as parts. -/
theorem parse?_eq_parseFrom {s : String} {c : Char} {cs : List Char} (htext : s.toList = c :: cs)
    (hdigit : c.isDigit = true) (hs : s ≠ "0") : parse? s = parseFrom .between zero s.toList := by
  have hblank : s.toList.all isBlank = false := by
    rw [htext, List.all_cons, isBlank_of_isDigit hdigit, Bool.false_and]
  rw [parse?, if_neg hs, if_neg (by simp [hblank])]

/-- A text made of parts begins with a digit. -/
theorem exists_intercalate_eq_cons (p : Nat × String × String)
    (ps : List (Nat × String × String)) :
    ∃ c cs, (" ".intercalate ((p :: ps).map renderPart)).toList = c :: cs ∧
      c.isDigit = true := by
  obtain ⟨rest, hrest⟩ : ∃ rest, (" ".intercalate ((p :: ps).map renderPart)).toList =
      Nat.toDigits 10 p.1 ++ rest := by
    cases ps <;> simp [String.toList_intercalate, renderPart]
  rw [hrest]
  exact exists_toDigits_append p.1 rest

/-- What is written for a duration is read as that duration. -/
theorem parse?_render (d : Duration) : parse? d.render = some d := by
  have hnanos : partsNanos (d.allParts.filter (·.1 ≠ 0)) = d.nanos := by
    rw [partsNanos_filter, partsNanos_allParts]
  have hreadable : ∀ p ∈ d.allParts.filter (·.1 ≠ 0), Readable p :=
    fun p hp => readable_of_mem_allParts p (List.mem_filter.mp hp).1
  have hrender : d.render = if (d.allParts.filter (·.1 ≠ 0)).isEmpty then "0s"
      else " ".intercalate ((d.allParts.filter (·.1 ≠ 0)).map renderPart) := rfl
  rw [hrender]
  generalize d.allParts.filter (·.1 ≠ 0) = ps at hnanos hreadable
  cases ps with
  | nil =>
    obtain rfl : d = zero := Duration.ext hnanos.symm
    decide
  | cons p ps =>
    have hzero : zero.nanos + partsNanos (p :: ps) = d.nanos := by
      rw [hnanos]
      exact Nat.zero_add d.nanos
    have hread : parseFrom .between zero (" ".intercalate ((p :: ps).map renderPart)).toList =
        some d := by
      rw [parseFrom_parts hreadable zero (hzero ▸ d.inRange), hzero, ofNanos?_eq_some d.inRange]
    have hs : " ".intercalate ((p :: ps).map renderPart) ≠ "0" := by
      intro hs
      have hnone : parseFrom .between zero "0".toList = none := by decide
      rw [hs, hnone] at hread
      contradiction
    obtain ⟨c, cs, htext, hdigit⟩ := exists_intercalate_eq_cons p ps
    rw [List.isEmpty_cons, if_neg Bool.false_ne_true, parse?_eq_parseFrom htext hdigit hs, hread]

end LeaseStore.Duration
