/-
LeaseStore.Proofs.Formats.Decoding — which documents describe a record.

A document has a form (`WellFormed`): an object with an id, or an array of one
to eight values, in which every value that belongs to a field is of the kind of
that field. Nothing here follows how a document is decoded, field after field:
a decoder is characterised by what it makes of one field, a value as it stands
or the default where there is none (`Record.Stands`), and the same is then said
of all fields at once (`ofMembers?_eq_some_iff`).

* `documents_decode_by_format` — which documents are decoded, what becomes of
  their fields, that other members do not count, what is said of all other
  documents, and what a backend lists of the documents it is given.
-/
import LeaseStore.Document.Recorder
import LeaseStore.Proofs.Formats.Fields
import LeaseStore.Proofs.Store.Traffic
import Mathlib.Data.List.Forall2
import Mathlib.Data.List.Nodup

namespace LeaseStore

namespace Document

open Record

/-! ## The format -/

/-- What a document gives for a field, if anything. -/
def value? (doc : Json) (f : Field) : Option Json :=
  match doc with
  | .object members => members.lookup f.member
  | .array items => items[f.place]?
  | _ => none

/-- The documents that describe a record. -/
inductive WellFormed : Json → Prop
  | object {members : List (String × Json)} (hid : members.lookup "id" ≠ none)
      (hkinds : ∀ (f : Field) v, members.lookup f.member = some v → f.kind.Admits v) :
      WellFormed (.object members)
  | array {items : List Json} (hsome : 1 ≤ items.length) (hfew : items.length ≤ 8)
      (hkinds : ∀ (f : Field) v, items[f.place]? = some v → f.kind.Admits v) :
      WellFormed (.array items)

/-- The failure of a document that describes no record; a retry cannot help. -/
def malformed : BackendError :=
  .failure "malformed record document" false (some .malformedDocument)

end Document

namespace Record

open Document

/-! ## One field -/

/-- A field of a record is what was given, or what stands for nothing. -/
def Stands (given : Option Json) (absent x : TableValue) : Prop :=
  given = some x.toJson ∨ given = none ∧ x = absent

theorem string?_eq_some_iff {v : Json} {s : String} : v.string? = some s ↔ v = .string s := by
  cases v <;> simp [Json.string?]

theorem text?_eq_some_iff {given : Option Json} {s : String} :
    text? given = some s ↔ Stands given (.text "") (.text s) := by
  cases given with
  | none => simp [text?, Stands, eq_comm]
  | some v => simp [text?, Stands, string?_eq_some_iff, TableValue.toJson]

theorem ofMs?_eq_some_iff {n : Int} {t : Instant} : Instant.ofMs? n = some t ↔ n = t.ms := by
  constructor
  · intro h
    unfold Instant.ofMs? at h
    split at h
    · obtain rfl := Option.some.inj h
      rfl
    · simp at h
  · rintro rfl
    exact Instant.ofMs?_ms t

theorem instant?_eq_some_iff {given : Option Json} {absent t : Instant} :
    instant? absent given = some t ↔ Stands given (.int64 absent) (.int64 t) := by
  cases given with
  | none => simp [instant?, Stands, eq_comm]
  | some v => cases v <;> simp [instant?, Stands, Json.int?, ofMs?_eq_some_iff, TableValue.toJson]

/-- A value that stands is of the kind of its field, and there is one for each
value that the kind admits. -/
theorem exists_stands_iff {given : Option Json} {f : Field} :
    (∃ x, x.kind = f.kind ∧ Stands given f.absent x) ↔ ∀ v, given = some v → f.kind.Admits v := by
  constructor
  · rintro ⟨x, hx, hgiven | ⟨hgiven, -⟩⟩ v hv
    · rw [hgiven] at hv
      exact Kind.admits_iff.mpr ⟨x, hx, (Option.some.inj hv).symm⟩
    · simp [hgiven] at hv
  · intro h
    cases given with
    | none => exact ⟨f.absent, f.kind_absent, .inr ⟨rfl, rfl⟩⟩
    | some v =>
      obtain ⟨x, hx, rfl⟩ := Kind.admits_iff.mp (h v rfl)
      exact ⟨x, hx, .inl rfl⟩

theorem kind_field (r : Record) (f : Field) : (r.field f).kind = f.kind := by
  cases f <;> rfl

/-! ## All fields -/

/-- Members describe a record exactly if there is an id and every field of the
record stands. -/
theorem ofMembers?_eq_some_iff {member : String → Option Json} {r : Record} :
    ofMembers? member = some r ↔
      member "id" ≠ none ∧ ∀ f : Field, Stands (member f.member) f.absent (r.field f) := by
  have hid {s : String} : (∃ v, member "id" = some v ∧ v.string? = some s) ↔
      member "id" ≠ none ∧ Stands (member "id") (.text "") (.text s) := by
    cases member "id" with
    | none => simp
    | some v => simp [string?_eq_some_iff, Stands, TableValue.toJson]
  constructor
  · intro h
    simp only [ofMembers?, bind, Option.bind_eq_some_iff, pure, Option.some.injEq] at h
    obtain ⟨id, hid', token, htoken, data, hdata, expires, hexpires, modified, hmodified, owner,
      howner, kind, hkind, lock, hlock, rfl⟩ := h
    obtain ⟨hsome, hstands⟩ := hid.mp hid'
    refine ⟨hsome, fun f => ?_⟩
    cases f with
    | id => exact hstands
    | token => exact text?_eq_some_iff.mp htoken
    | data => exact text?_eq_some_iff.mp hdata
    | expiresAt => exact instant?_eq_some_iff.mp hexpires
    | modifiedAt => exact instant?_eq_some_iff.mp hmodified
    | ownerId => exact text?_eq_some_iff.mp howner
    | ownerKind => exact text?_eq_some_iff.mp hkind
    | lockExpiresAt => exact instant?_eq_some_iff.mp hlock
  · rintro ⟨hsome, h⟩
    simp only [ofMembers?, bind, Option.bind_eq_some_iff, pure, Option.some.injEq]
    exact ⟨r.id, hid.mpr ⟨hsome, h .id⟩, r.token, text?_eq_some_iff.mpr (h .token),
      r.data, text?_eq_some_iff.mpr (h .data), r.expiresAt, instant?_eq_some_iff.mpr (h .expiresAt),
      r.modifiedAt, instant?_eq_some_iff.mpr (h .modifiedAt),
      r.lockOwner.id, text?_eq_some_iff.mpr (h .ownerId),
      r.lockOwner.kind, text?_eq_some_iff.mpr (h .ownerKind),
      r.lockExpiresAt, instant?_eq_some_iff.mpr (h .lockExpiresAt), rfl⟩

/-- The values of an array are found by the names of their places. Induction on
the names. -/
theorem lookup_zip {α : Type} {names : List String} (hnodup : names.Nodup) {i : Nat}
    {name : String} (hname : names[i]? = some name) (items : List α) :
    (names.zip items).lookup name = items[i]? := by
  induction names generalizing i items with
  | nil => simp at hname
  | cons first names ih =>
    obtain ⟨hfirst, hnodup⟩ := List.nodup_cons.mp hnodup
    cases items with
    | nil => simp
    | cons item items =>
      cases i with
      | zero =>
        obtain rfl : first = name := by simpa using hname
        simp
      | succ i =>
        have hname' : names[i]? = some name := by simpa using hname
        have hne : (name == first) = false := by
          rw [beq_eq_false_iff_ne]
          rintro rfl
          exact hfirst (List.mem_of_getElem? hname')
        simp [List.lookup_cons, hne, ih hnodup hname']

/-- A document is looked up field by field where its form allows it. -/
theorem lookup?_eq_some {doc : Json} {look : String → Option Json}
    (h : lookup? doc = some look) (f : Field) : look f.member = value? doc f := by
  cases doc with
  | object members =>
    obtain rfl := Option.some.inj h
    rfl
  | array items =>
    rw [lookup?] at h
    split at h
    · obtain rfl := Option.some.inj h
      exact lookup_zip (by decide) f.memberNames_getElem? items
    · simp at h
  | null | bool | int | decimal | string => simp [lookup?] at h

theorem wellFormed_iff {doc : Json} :
    WellFormed doc ↔ (∃ look, lookup? doc = some look) ∧ value? doc .id ≠ none ∧
      ∀ f v, value? doc f = some v → f.kind.Admits v := by
  constructor
  · intro h
    cases h with
    | object hid hkinds => exact ⟨⟨_, rfl⟩, hid, hkinds⟩
    | @array items hsome hfew hkinds =>
      refine ⟨⟨_, if_pos hfew⟩, ?_, hkinds⟩
      simpa [value?, Field.place] using List.ne_nil_of_length_pos hsome
  · rintro ⟨⟨look, hlook⟩, hid, hkinds⟩
    cases doc with
    | object members => exact .object hid hkinds
    | array items =>
      rw [lookup?] at hlook
      split at hlook
      case isTrue hfew =>
        refine .array ?_ hfew hkinds
        simpa [value?, Field.place, Nat.one_le_iff_ne_zero] using hid
      case isFalse => simp at hlook
    | null | bool | int | decimal | string => simp [lookup?] at hlook

/-- A document is decoded to the record whose fields all stand. -/
theorem ofDocument?_eq_some_iff {doc : Json} {r : Record} :
    ofDocument? doc = some r ↔
      WellFormed doc ∧ ∀ f, Stands (value? doc f) f.absent (r.field f) := by
  rw [ofDocument?, Option.bind_eq_some_iff, wellFormed_iff]
  constructor
  · rintro ⟨look, hlook, hr⟩
    obtain ⟨hid, hstands⟩ := ofMembers?_eq_some_iff.mp hr
    simp only [lookup?_eq_some hlook] at hstands
    refine ⟨⟨⟨look, hlook⟩, ?_, fun f => ?_⟩, hstands⟩
    · rw [← lookup?_eq_some hlook]
      exact hid
    · exact exists_stands_iff.mp ⟨r.field f, r.kind_field f, hstands f⟩
  · rintro ⟨⟨⟨look, hlook⟩, hid, -⟩, hstands⟩
    refine ⟨look, hlook, ofMembers?_eq_some_iff.mpr ⟨?_, fun f => ?_⟩⟩
    · rw [← lookup?_eq_some hlook] at hid
      exact hid
    · rw [lookup?_eq_some hlook]
      exact hstands f

/-- Every well-formed document is decoded. -/
theorem exists_ofDocument?_eq_some {doc : Json} (h : WellFormed doc) :
    ∃ r, ofDocument? doc = some r := by
  obtain ⟨-, -, hkinds⟩ := wellFormed_iff.mp h
  choose x hkind hstands using fun f => exists_stands_iff.mpr (hkinds f)
  obtain ⟨r, hr⟩ := exists_field_eq x hkind
  refine ⟨r, ofDocument?_eq_some_iff.mpr ⟨h, fun f => ?_⟩⟩
  rw [hr]
  exact hstands f

/-! ## What a database holds -/

theorem ofStored_eq_ok_iff {doc : Json} {r : Record} :
    ofStored doc = .ok r ↔ WellFormed doc ∧ ∀ f, Stands (value? doc f) f.absent (r.field f) := by
  rw [← ofDocument?_eq_some_iff, ofStored]
  cases ofDocument? doc <;> simp

theorem ofStored_of_not_wellFormed {doc : Json} (h : ¬ WellFormed doc) :
    ofStored doc = .error malformed := by
  have hnone : ofDocument? doc = none :=
    Option.eq_none_iff_forall_ne_some.mpr fun r hr => h (ofDocument?_eq_some_iff.mp hr).1
  rw [ofStored, hnone]
  rfl

theorem exists_ofStored_eq_ok_iff {doc : Json} :
    (∃ r, ofStored doc = .ok r) ↔ WellFormed doc := by
  constructor
  · rintro ⟨r, hr⟩
    exact (ofStored_eq_ok_iff.mp hr).1
  · intro h
    obtain ⟨r, hr⟩ := exists_ofDocument?_eq_some h
    exact ⟨r, ofStored_eq_ok_iff.mpr (ofDocument?_eq_some_iff.mp hr)⟩

/-- Only the members that belong to fields count. -/
theorem ofStored_object_congr {ms ns : List (String × Json)}
    (h : ∀ f : Field, ms.lookup f.member = ns.lookup f.member) :
    ofStored (.object ms) = ofStored (.object ns) := by
  have hvalue : value? (.object ms) = value? (.object ns) := funext h
  have hform : WellFormed (.object ms) ↔ WellFormed (.object ns) := by
    rw [wellFormed_iff, wellFormed_iff, hvalue]
    simp [lookup?]
  by_cases hms : WellFormed (.object ms)
  case pos =>
    obtain ⟨r, hr⟩ := exists_ofStored_eq_ok_iff.mpr hms
    rw [hr, eq_comm, ofStored_eq_ok_iff, ← hvalue]
    exact ⟨hform.mp hms, (ofStored_eq_ok_iff.mp hr).2⟩
  case neg => rw [ofStored_of_not_wellFormed hms, ofStored_of_not_wellFormed (mt hform.mpr hms)]

/-- One document that is not well formed spoils the list. Induction on the
documents. -/
theorem mapM_ofStored_of_not_wellFormed {docs : List Json} {doc : Json} (hdoc : doc ∈ docs)
    (h : ¬ WellFormed doc) : docs.mapM ofStored = .error malformed := by
  induction docs with
  | nil => simp at hdoc
  | cons first docs ih =>
    rw [List.mapM_cons]
    by_cases hfirst : WellFormed first
    case neg =>
      rw [ofStored_of_not_wellFormed hfirst]
      rfl
    case pos =>
      obtain ⟨r, hr⟩ := exists_ofStored_eq_ok_iff.mpr hfirst
      rcases List.mem_cons.mp hdoc with rfl | hdoc
      · exact absurd hfirst h
      · rw [hr, ih hdoc]
        rfl

theorem wellFormed_of_forall₂ {docs : List Json} {rs : List Record}
    (h : List.Forall₂ (fun doc r => ofStored doc = .ok r) docs rs) :
    ∀ doc ∈ docs, WellFormed doc := by
  have hboth : List.Forall₂ (fun doc r => WellFormed doc ∧ ofStored doc = .ok r) docs rs :=
    h.imp fun doc r hr => ⟨exists_ofStored_eq_ok_iff.mp ⟨r, hr⟩, hr⟩
  exact ((List.forall₂_and_left docs rs).mp hboth).1

/-- The list succeeds if every document is decoded. -/
theorem mapM_ofStored_eq_ok_iff {docs : List Json} {rs : List Record} :
    docs.mapM ofStored = .ok rs ↔ List.Forall₂ (fun doc r => ofStored doc = .ok r) docs rs := by
  by_cases hall : ∀ doc ∈ docs, WellFormed doc
  case pos =>
    let g (doc : Json) : Record := (ofDocument? doc).getD default
    have hg {doc : Json} {r : Record} (hr : ofStored doc = .ok r) : g doc = r := by
      rw [ofStored_eq_ok_iff, ← ofDocument?_eq_some_iff] at hr
      simp [g, hr]
    have hdecode : ∀ doc ∈ docs, ofStored doc = .ok (g doc) := by
      intro doc hdoc
      obtain ⟨r, hr⟩ := exists_ofStored_eq_ok_iff.mpr (hall doc hdoc)
      rw [hr, hg hr]
    rw [mapM_eq_ok hdecode, Except.ok.injEq]
    constructor
    · rintro rfl
      rw [List.forall₂_map_right_iff, List.forall₂_same]
      exact hdecode
    · intro h
      have heq : List.Forall₂ Eq (docs.map g) rs :=
        List.forall₂_map_left_iff.mpr (h.imp fun _ _ => hg)
      rwa [List.forall₂_eq_eq_eq] at heq
  case neg =>
    obtain ⟨doc, hdoc, hnot⟩ : ∃ doc ∈ docs, ¬ WellFormed doc := by simpa using hall
    rw [mapM_ofStored_of_not_wellFormed hdoc hnot]
    exact ⟨fun h => by simp at h, fun h => absurd (wellFormed_of_forall₂ h) hall⟩

end Record

open Document Record in
/-- **Documents are decoded by their format.** A document is decoded exactly if
it is an object with an id, or an array of one to eight values, and each value
that belongs to a field is of its kind: a text, or an integer of 64 bits with a
sign. The record takes every such value as it stands, and a field without one
has its default: a record that does not expire, the epoch for the other
instants, the empty text. Whatever other members an object has, they change
nothing. A document that has not this form, with a null in a field for
instance, is a lasting failure of the backend. A backend that is given a list of
documents lists the records in the order of the documents if all are decoded,
and otherwise answers that failure alone. -/
theorem documents_decode_by_format :
    (∀ doc, (∃ r, ofStored doc = .ok r) ↔ WellFormed doc) ∧
    (∀ doc r, ofStored doc = .ok r → ∀ f,
      (∀ v, value? doc f = some v → (r.field f).toJson = v) ∧
      (value? doc f = none → r.field f = f.absent)) ∧
    (∀ ms ns : List (String × Json), (∀ f : Field, ms.lookup f.member = ns.lookup f.member) →
      ofStored (.object ms) = ofStored (.object ns)) ∧
    (∀ doc, ¬ WellFormed doc → ofStored doc = .error malformed) ∧
    ∀ {σ : Type} (client : DocumentClient σ) (throughput : Nat) (c : CollectionRef) (s s' : σ)
      (docs : List Json), client.query c DocumentClient.selectAll s = (.ok docs, s') →
      (∀ rs, (client.backend throughput).list c s = (.ok rs, s') ↔
        List.Forall₂ (fun doc r => ofStored doc = .ok r) docs rs) ∧
      ((∃ doc ∈ docs, ¬ WellFormed doc) →
        (client.backend throughput).list c s = (.error malformed, s')) := by
  refine ⟨fun doc => exists_ofStored_eq_ok_iff, ?_, fun ms ns => ofStored_object_congr,
    fun doc => ofStored_of_not_wellFormed, ?_⟩
  · intro doc r hr f
    rcases (ofStored_eq_ok_iff.mp hr).2 f with hgiven | ⟨hgiven, hdefault⟩
    · exact ⟨fun v hv => Option.some.inj (hgiven.symm.trans hv), fun h => by simp [h] at hgiven⟩
    · exact ⟨fun v hv => by simp [hgiven] at hv, fun _ => hdefault⟩
  · intro σ client throughput c s s' docs hquery
    have hlist : (client.backend throughput).list c s = (docs.mapM ofStored, s') := by
      simp only [DocumentClient.backend, Backend.asking, hquery]
    rw [hlist]
    refine ⟨fun rs => ?_, ?_⟩
    · rw [Prod.mk.injEq, mapM_ofStored_eq_ok_iff]
      simp
    · rintro ⟨doc, hdoc, h⟩
      rw [mapM_ofStored_of_not_wellFormed hdoc h]

open Document Record in
/-- A document with an id and an expiration, alone and with a member that
belongs to no field; one with a null in place of a text; and a container that
holds both. -/
theorem documents_decode_by_format_sparse :
    let sparse := Json.object [("id", .string "x"), ("expiresAtUtcMs", .int 5)]
    let larger := Json.object
      [("_rid", .string "y"), ("expiresAtUtcMs", .int 5), ("id", .string "x")]
    let blank := Json.object [("id", .string "x"), ("data", .null)]
    ∃ r, ofStored sparse = .ok r ∧ r.field .expiresAt = .int64 ⟨5, by decide⟩ ∧
      r.field .lockExpiresAt = .int64 Instant.epoch ∧ ofStored larger = .ok r ∧
      ofStored blank = .error malformed ∧
      (DocumentRecorder.client.backend 400).list ⟨"d", "c"⟩ { replies := [sparse, blank] } =
        (.error malformed, { sent := [.query ⟨"d", "c"⟩ DocumentClient.selectAll],
                             replies := [sparse, blank] }) := by
  intro sparse larger blank
  obtain ⟨hform, hfields, hothers, hmalformed, hlist⟩ := documents_decode_by_format
  have hsparse : WellFormed sparse := (hform sparse).mp ⟨_, rfl⟩
  obtain ⟨r, hr⟩ := (hform sparse).mpr hsparse
  have hblank : ¬ WellFormed blank := by
    intro h
    obtain ⟨r, hr⟩ := (hform blank).mpr h
    cases hr
  refine ⟨r, hr, ?_, (hfields sparse r hr .lockExpiresAt).2 rfl, ?_, hmalformed blank hblank, ?_⟩
  · exact TableValue.toJson_inj.mp ((hfields sparse r hr .expiresAt).1 (.int 5) rfl)
  · rw [hothers _ [("id", .string "x"), ("expiresAtUtcMs", .int 5)] (fun f => by cases f <;> rfl)]
    exact hr
  · exact (hlist DocumentRecorder.client 400 _ _ _ [sparse, blank] rfl).2
      ⟨blank, by simp, hblank⟩

end LeaseStore
