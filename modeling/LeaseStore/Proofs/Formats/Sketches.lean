/-
LeaseStore.Proofs.Formats.Sketches — records that are given in part.

A sketch is what two stores may hold of one record: an id, a tag, and some of
the other fields, each with a text or an instant that need not be of the kind of
the field. It can be written as a document and as an entity. Both decoders are
characterised by what they make of one field, in `Record.Stands` for a document
and in `Record.StandsIn` for an entity, and on the two forms of a sketch these
say the same of every field.

* `sketches_decode_alike` — the two forms of a sketch decode to the same record,
  or are both lasting failures; other members and properties do not count; and a
  record that was decoded is the same after another round through either form.
-/
import LeaseStore.Proofs.Formats.Decoding

namespace LeaseStore

namespace Record

open Document

/-- What is given of a record. -/
structure Sketch where
  id : String
  tag : String
  given : Field → Option TableValue

namespace Sketch

/-- The members of the fields that are given. -/
def members (k : Sketch) (fields : List Field) : List (String × Json) :=
  fields.filterMap fun f => (k.given f).map fun x => (f.member, x.toJson)

/-- The properties of the fields that are given. -/
def entries (k : Sketch) (fields : List Field) : List (String × TableValue) :=
  fields.filterMap fun f => (k.given f).map fun x => (f.property, x)

/-- The sketch as a document with its entity tag. -/
def document (k : Sketch) : Json :=
  .object (("id", .string k.id) :: ("_etag", .string k.tag) :: k.members Field.properties)

/-- The sketch as an entity. -/
def entity (k : Sketch) : TableEntity :=
  { key := .ofId k.id, tag := k.tag, properties := .ofList (k.entries Field.properties) }

/-- Every field that is given has a value of its kind. -/
def Typed (k : Sketch) : Prop :=
  ∀ f ∈ Field.properties, ∀ x, k.given f = some x → x.kind = f.kind

end Sketch

/-! ## Names of fields -/

theorem Field.member_inj {f g : Field} : f.member = g.member ↔ f = g := by
  cases f <;> cases g <;> decide

theorem Field.property_inj {f g : Field} : f.property = g.property ↔ f = g := by
  cases f <;> cases g <;> decide

theorem Field.mem_properties_iff {f : Field} :
    f ∈ Field.properties ↔ f ≠ .id ∧ f ≠ .token := by
  cases f <;> decide

/-- A field is the id, the token, or one that an entity has a property for. -/
theorem Field.id_or_token_or_mem (f : Field) : f = .id ∨ f = .token ∨ f ∈ Field.properties := by
  cases f <;> decide

/-! ## The two forms of a sketch -/

namespace Sketch

/-- Induction on the fields. -/
theorem lookup_members (k : Sketch) (fields : List Field) (f : Field) :
    (k.members fields).lookup f.member =
      if f ∈ fields then (k.given f).map TableValue.toJson else none := by
  induction fields with
  | nil => simp [members]
  | cons g fields ih =>
    rw [members] at ih ⊢
    by_cases hfg : f = g
    case pos =>
      subst hfg
      cases hgiven : k.given f with
      | none => simp [hgiven, ih]
      | some x => simp [hgiven]
    case neg =>
      have hne : (f.member == g.member) = false := by simp [Field.member_inj, hfg]
      cases hgiven : k.given g with
      | none => simp [hgiven, ih, hfg]
      | some x => simp [hgiven, ih, hfg, hne, List.lookup_cons]

@[simp] theorem value?_id (k : Sketch) : value? k.document .id = some (.string k.id) := rfl

@[simp] theorem value?_token (k : Sketch) : value? k.document .token = some (.string k.tag) := rfl

/-- The document of a sketch gives what the sketch gives. -/
theorem value?_document (k : Sketch) {f : Field} (hf : f ∈ Field.properties) :
    value? k.document f = (k.given f).map TableValue.toJson := by
  have hlookup := k.lookup_members Field.properties f
  rw [if_pos hf] at hlookup
  obtain ⟨hid, htoken⟩ := Field.mem_properties_iff.mp hf
  have hid' : (f.member == "id") = false := by
    simpa [Field.member] using mt (Field.member_inj (g := .id)).mp hid
  have htoken' : (f.member == "_etag") = false := by
    simpa [Field.member] using mt (Field.member_inj (g := .token)).mp htoken
  simp [value?, document, List.lookup_cons, hid', htoken', hlookup]

theorem mem_entries {k : Sketch} {fields : List Field} {name : String} {x : TableValue} :
    (name, x) ∈ k.entries fields ↔ ∃ f ∈ fields, k.given f = some x ∧ f.property = name := by
  simp [entries]

theorem pairwise_entries (k : Sketch) (fields : List Field) (h : fields.Nodup) :
    (k.entries fields).Pairwise fun a b => ¬ compare a.1 b.1 = .eq := by
  refine List.Pairwise.filterMap _ ?_ h
  intro f g hne a ha b hb
  obtain ⟨x, -, rfl⟩ := Option.map_eq_some_iff.mp ha
  obtain ⟨y, -, rfl⟩ := Option.map_eq_some_iff.mp hb
  simpa [Field.property_inj] using hne

/-- The entity of a sketch gives what the sketch gives. -/
theorem getElem?_entity (k : Sketch) {f : Field} (hf : f ∈ Field.properties) :
    k.entity.properties[f.property]? = k.given f := by
  have hdistinct := k.pairwise_entries Field.properties (by decide)
  cases hgiven : k.given f with
  | some x =>
    exact Std.ExtTreeMap.getElem?_ofList_of_mem (Std.LawfulEqCmp.compare_eq_iff_eq.mpr rfl)
      hdistinct (mem_entries.mpr ⟨f, hf, hgiven, rfl⟩)
  | none =>
    refine Std.ExtTreeMap.getElem?_ofList_of_contains_eq_false ?_
    rw [← Bool.not_eq_true, List.contains_iff_mem]
    intro hmem
    obtain ⟨⟨name, x⟩, hx, hname⟩ := List.mem_map.mp hmem
    obtain ⟨g, -, hg, rfl⟩ := mem_entries.mp hx
    obtain rfl := Field.property_inj.mp hname
    simp [hgiven] at hg

end Sketch

/-! ## What is made of an entity -/

/-- A field of a record is the property that is there, or what stands for none. -/
def StandsIn (given : Option TableValue) (absent x : TableValue) : Prop :=
  given = some x ∨ given = none ∧ x = absent

theorem stands_map_iff {given : Option TableValue} {absent x : TableValue} :
    Stands (given.map TableValue.toJson) absent x ↔ StandsIn given absent x := by
  cases given <;> simp [Stands, StandsIn, TableValue.toJson_inj]

theorem text_eq_ok_iff {e : TableEntity} {name s : String} :
    e.text name = .ok s ↔ StandsIn e.properties[name]? (.text "") (.text s) := by
  rw [TableEntity.text]
  cases e.properties[name]? with
  | none => simp [StandsIn, eq_comm]
  | some v => cases v <;> simp [StandsIn]

theorem instant_eq_ok_iff {e : TableEntity} {name : String} {absent t : Instant} :
    e.instant name absent = .ok t ↔
      StandsIn e.properties[name]? (.int64 absent) (.int64 t) := by
  rw [TableEntity.instant]
  cases e.properties[name]? with
  | none => simp [StandsIn, eq_comm]
  | some v => cases v <;> simp [StandsIn]

/-- A failure that a retry will not mend, whatever it says. -/
def IsLasting (err : BackendError) : Prop := ∃ message cause, err = .failure message false cause

theorem isLasting_of_text {e : TableEntity} {name : String} {err : BackendError}
    (h : e.text name = .error err) : IsLasting err := by
  rw [TableEntity.text] at h
  split at h <;> cases h
  exact ⟨_, _, rfl⟩

theorem isLasting_of_instant {e : TableEntity} {name : String} {absent : Instant}
    {err : BackendError} (h : e.instant name absent = .error err) : IsLasting err := by
  rw [TableEntity.instant] at h
  split at h <;> cases h
  exact ⟨_, _, rfl⟩

theorem bind_eq_ok_iff {ε α β : Type} {x : Except ε α} {f : α → Except ε β} {b : β} :
    (x >>= f) = .ok b ↔ ∃ a, x = .ok a ∧ f a = .ok b := by
  cases x <;> simp [bind, Except.bind]

theorem bind_eq_error_iff {ε α β : Type} {x : Except ε α} {f : α → Except ε β} {e : ε} :
    (x >>= f) = .error e ↔ x = .error e ∨ ∃ a, x = .ok a ∧ f a = .error e := by
  cases x <;> simp [bind, Except.bind]

/-- An entity is decoded to the record whose fields all stand. -/
theorem ofEntity_eq_ok_iff {e : TableEntity} {r : Record} :
    ofEntity e = .ok r ↔ e.key.partition = r.id ∧ e.tag = r.token ∧
      ∀ f ∈ Field.properties, StandsIn e.properties[f.property]? f.absent (r.field f) := by
  simp only [ofEntity, bind_eq_ok_iff, text_eq_ok_iff, instant_eq_ok_iff, Field.properties,
    List.forall_mem_cons, Except.ok.injEq]
  constructor
  · rintro ⟨data, hdata, expires, hexpires, modified, hmodified, owner, howner, kind, hkind,
      lock, hlock, rfl⟩
    exact ⟨rfl, rfl, hdata, hexpires, hmodified, howner, hkind, hlock, by simp⟩
  · rintro ⟨hid, htag, hdata, hexpires, hmodified, howner, hkind, hlock, -⟩
    refine ⟨r.data, hdata, r.expiresAt, hexpires, r.modifiedAt, hmodified, r.lockOwner.id, howner,
      r.lockOwner.kind, hkind, r.lockExpiresAt, hlock, ?_⟩
    rw [hid, htag]

/-- An entity that is not decoded has a property of another kind, which a retry
cannot mend. -/
theorem isLasting_of_ofEntity {e : TableEntity} {err : BackendError}
    (h : ofEntity e = .error err) : IsLasting err := by
  simp only [ofEntity, bind_eq_error_iff] at h
  rcases h with h | ⟨_, -, h | ⟨_, -, h | ⟨_, -, h | ⟨_, -, h | ⟨_, -, h | ⟨_, -, h⟩⟩⟩⟩⟩⟩
  · exact isLasting_of_text h
  · exact isLasting_of_instant h
  · exact isLasting_of_instant h
  · exact isLasting_of_text h
  · exact isLasting_of_text h
  · exact isLasting_of_instant h
  · simp at h

/-- Only the properties that belong to fields count. -/
theorem ofEntity_congr {e e' : TableEntity} (hid : e.key.partition = e'.key.partition)
    (htag : e.tag = e'.tag)
    (h : ∀ f ∈ Field.properties, e.properties[f.property]? = e'.properties[f.property]?) :
    ofEntity e = ofEntity e' := by
  simp only [Field.properties, List.forall_mem_cons, Field.property] at h
  obtain ⟨hdata, hexpires, hmodified, howner, hkind, hlock, -⟩ := h
  simp only [ofEntity, TableEntity.text, TableEntity.instant, hid, htag, hdata, hexpires,
    hmodified, howner, hkind, hlock]

/-! ## The two decoders -/

/-- A document of a sketch is decoded to a record exactly if its entity is. -/
theorem ofStored_document_iff (k : Sketch) (r : Record) :
    ofStored k.document = .ok r ↔ ofEntity k.entity = .ok r := by
  rw [ofStored_eq_ok_iff, ofEntity_eq_ok_iff]
  have hid : Stands (value? k.document .id) Field.id.absent (r.field .id) ↔ k.id = r.id := by
    simp [Stands, field, TableValue.toJson]
  have htag : Stands (value? k.document .token) Field.token.absent (r.field .token) ↔
      k.tag = r.token := by
    simp [Stands, field, TableValue.toJson]
  have hfield {f : Field} (hf : f ∈ Field.properties) :
      Stands (value? k.document f) f.absent (r.field f) ↔
        StandsIn k.entity.properties[f.property]? f.absent (r.field f) := by
    rw [k.value?_document hf, k.getElem?_entity hf, stands_map_iff]
  constructor
  · rintro ⟨-, hstands⟩
    exact ⟨hid.mp (hstands .id), htag.mp (hstands .token), fun f hf => (hfield hf).mp (hstands f)⟩
  · rintro ⟨hid', htag', hstands⟩
    have hall (f : Field) : Stands (value? k.document f) f.absent (r.field f) := by
      rcases f.id_or_token_or_mem with rfl | rfl | hf
      · exact hid.mpr hid'
      · exact htag.mpr htag'
      · exact (hfield hf).mpr (hstands f hf)
    refine ⟨wellFormed_iff.mpr ⟨⟨_, rfl⟩, ?_, fun f => ?_⟩, hall⟩
    · simp
    · exact exists_stands_iff.mp ⟨r.field f, r.kind_field f, hall f⟩

/-- The document of a sketch has the form exactly if the sketch is typed. -/
theorem wellFormed_document_iff (k : Sketch) : WellFormed k.document ↔ k.Typed := by
  rw [wellFormed_iff]
  constructor
  · rintro ⟨-, -, hkinds⟩ f hf x hx
    have hadmits := hkinds f x.toJson (by rw [k.value?_document hf, hx]; rfl)
    obtain ⟨y, hy, heq⟩ := Kind.admits_iff.mp hadmits
    rw [TableValue.toJson_inj.mp heq]
    exact hy
  · intro htyped
    refine ⟨⟨_, rfl⟩, by simp, fun f v hv => ?_⟩
    rcases f.id_or_token_or_mem with rfl | rfl | hf
    · exact ⟨k.id, by simpa using hv.symm⟩
    · exact ⟨k.tag, by simpa using hv.symm⟩
    · rw [k.value?_document hf] at hv
      obtain ⟨x, hx, rfl⟩ := Option.map_eq_some_iff.mp hv
      exact Kind.admits_iff.mpr ⟨x, htyped f hf x hx, rfl⟩

/-- A record that is written and read back under its own tag is the same, in
either form. -/
theorem decode_encode (r : Record) :
    ofStored (r.toDocument.setMember tagName (.string r.token)) = .ok r ∧
      ofEntity { r.toEntity with tag := r.token } = .ok r := by
  refine ⟨?_, ofEntity_toEntity r r.token⟩
  rw [ofStored, ofDocument?_setMember_toDocument]

end Record

open Document Record in
/-- **Records that are given in part decode alike.** Take an id, a tag and any of
the other fields of a record, each with a text or an instant. Its document and
its entity decode to the same record, if each field that is given has a value of
its kind; otherwise both are failures that a retry cannot mend. Members of other
names change nothing in the document, nor do properties of other names or
another row key in the entity. A record that was decoded, written in either form
and decoded again under the same tag, is the same record. -/
theorem sketches_decode_alike (k : Sketch) :
    (k.Typed ∧ (∃ r, ofStored k.document = .ok r ∧ ofEntity k.entity = .ok r) ∨
      ¬ k.Typed ∧ ∃ err err', ofStored k.document = .error err ∧ ofEntity k.entity = .error err' ∧
        IsLasting err ∧ IsLasting err') ∧
    (∀ ms : List (String × Json), (∀ f : Field, ms.lookup f.member = value? k.document f) →
      ofStored (.object ms) = ofStored k.document) ∧
    (∀ e : TableEntity, e.key.partition = k.id → e.tag = k.tag →
      (∀ f ∈ Field.properties, e.properties[f.property]? = k.entity.properties[f.property]?) →
      ofEntity e = ofEntity k.entity) ∧
    ∀ r, ofStored k.document = .ok r →
      ofStored (r.toDocument.setMember tagName (.string k.tag)) = .ok r ∧
        ofEntity { r.toEntity with tag := k.tag } = .ok r := by
  refine ⟨?_, fun ms h => ofStored_object_congr h, fun e hid htag h => ofEntity_congr hid htag h,
    ?_⟩
  · by_cases htyped : k.Typed
    case pos =>
      obtain ⟨r, hr⟩ := exists_ofStored_eq_ok_iff.mpr ((wellFormed_document_iff k).mpr htyped)
      exact .inl ⟨htyped, r, hr, (ofStored_document_iff k r).mp hr⟩
    case neg =>
      have hnot := mt (wellFormed_document_iff k).mp htyped
      cases hentity : ofEntity k.entity with
      | ok r =>
        have hr := (ofStored_document_iff k r).mpr hentity
        exact absurd (exists_ofStored_eq_ok_iff.mp ⟨r, hr⟩) hnot
      | error err' =>
        exact .inr ⟨htyped, malformed, err', ofStored_of_not_wellFormed hnot, rfl, ⟨_, _, rfl⟩,
          isLasting_of_ofEntity hentity⟩
  · intro r hr
    obtain ⟨-, htag, -⟩ := ofEntity_eq_ok_iff.mp ((ofStored_document_iff k r).mp hr)
    have htag' : k.tag = r.token := htag
    rw [htag']
    exact r.decode_encode

/-- A record with a payload and the end of a lease. -/
def Record.Sketch.leased : Record.Sketch where
  id := "x"
  tag := "t"
  given
    | .data => some (.text "d")
    | .lockExpiresAt => some (.int64 ⟨60, by decide⟩)
    | _ => none

open Document Record in
/-- The two forms of a sketch, each with more than belongs to a record, and the
record after another round. -/
theorem sketches_decode_alike_leased :
    ∃ r, ofStored (.object [("data", .string "d"), ("_rid", .null),
        ("lockExpiresAtUtcMs", .int 60), ("_etag", .string "t"), ("id", .string "x")]) = .ok r ∧
      ofEntity { key := ⟨"x", "other"⟩, tag := "t",
                 properties := Sketch.leased.entity.properties.insert "Region" (.text "north") } =
        .ok r ∧
      ofStored (r.toDocument.setMember tagName (.string "t")) = .ok r ∧
      ofEntity { r.toEntity with tag := "t" } = .ok r := by
  obtain ⟨hdecode, hmembers, hproperties, hagain⟩ := sketches_decode_alike Sketch.leased
  have htyped : Sketch.leased.Typed := by
    intro f _ x hx
    cases f <;> simp [Sketch.leased] at hx <;> subst hx <;> rfl
  rcases hdecode with ⟨-, r, hdocument, hentity⟩ | ⟨hnot, -⟩
  case inr => exact absurd htyped hnot
  refine ⟨r, ?_, ?_, hagain r hdocument⟩
  · rw [hmembers _ fun f => by cases f <;> rfl]
    exact hdocument
  · rw [hproperties _ rfl rfl ?_]
    · exact hentity
    · intro f _
      have hother : compare "Region" f.property ≠ .eq := by cases f <;> decide
      rw [Std.ExtTreeMap.getElem?_insert, if_neg hother]

end LeaseStore
