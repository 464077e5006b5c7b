/-
LeaseStore.Proofs.Store.Tables — records in entities keep the laws.

A table service knows tables and no databases, so two collections of one
name are one shelf. The record of an entity is what the codec makes of it.
A state is sound if every entity stands under its own keys and describes a
record.

A conditional write of an entity that is gone is refused as one that is not
there; the backend makes a stale token of it, as the laws ask.
-/
import LeaseStore.Proofs.Store.Shelves
import LeaseStore.Proofs.Store.Traffic
import LeaseStore.Proofs.Text.Numeral
import LeaseStore.Table.Service

namespace LeaseStore

/-- The record of an entity stands under its partition and has its tag. -/
theorem Record.id_token_of_ofEntity {e : TableEntity} {r : Record}
    (h : Record.ofEntity e = .ok r) : r.id = e.key.partition ∧ r.token = e.tag := by
  simp only [Record.ofEntity, bind, Except.bind] at h
  repeat' split at h
  all_goals cases h
  exact ⟨rfl, rfl⟩

namespace TableService

open LeaseStore.Text

/-! ## Tags -/

theorem tagOf_inj {m n : Nat} (h : tagOf m = tagOf n) : m = n := by
  have hlist := congrArg String.toList h
  simp only [tagOf, String.toList_append, List.append_cancel_right_eq,
    List.append_cancel_left_eq, String.toList_inj] at hlist
  exact decimal_inj hlist

theorem isToken_tagOf (n : Nat) : WriteCondition.IsToken (tagOf n) := by
  constructor <;> intro h <;> have hlist := congrArg String.toList h <;>
    simp [tagOf, String.toList_append, WriteCondition.wildcard] at hlist

/-! ## The view -/

/-- The view of a table service. -/
def view : View TableService where
  shelf c := ⟨"", c.collection⟩
  look s c id := (s.entity? c.collection (.ofId id)).bind fun e => (Record.ofEntity e).toOption
  Unissued s t := ∃ n, s.tags < n ∧ t = tagOf n
  Provided s c := c.collection ∈ s.tables
  Calm s := s.traffic.Free
  Sound s := ∀ table key e, s.entity? table key = some e →
    e.key = key ∧ ∃ r, Record.ofEntity e = .ok r
  isToken_of_unissued := by
    rintro s t ⟨n, -, rfl⟩
    exact isToken_tagOf n
  id_of_look := by
    intro s c id r hs hr
    obtain ⟨e, he, hof⟩ := Option.bind_eq_some_iff.1 hr
    obtain ⟨hkey, r', hr'⟩ := hs _ _ _ he
    rw [hr'] at hof
    cases hof
    rw [(Record.id_token_of_ofEntity hr').1, hkey]
    rfl
  look_of_shelf := by
    intro s c c' h
    have hname : c.collection = c'.collection := (CollectionRef.mk.inj h).2
    funext id
    rw [hname]

/-- The service after a tag was taken. -/
def burn (s : TableService) : TableService := { s with tags := s.tags + 1 }

/-- The service with an entity put into a table that holds these rows. -/
def put (s : TableService) (table : String) (rows : Std.ExtTreeMap TableKey TableEntity)
    (e : TableEntity) : TableService :=
  { s with tables := s.tables.insert table (rows.insert e.key e) }

/-- The entity of a record under the next tag. -/
def stamped (s : TableService) (r : Record) : TableEntity :=
  { r.toEntity with tag := tagOf (s.tags + 1) }

theorem ofEntity_stamped (s : TableService) (r : Record) :
    Record.ofEntity (s.stamped r) = .ok { r with token := tagOf (s.tags + 1) } :=
  r.ofEntity_toEntity _

theorem entity?_eq {s : TableService} {table : String}
    {rows : Std.ExtTreeMap TableKey TableEntity} (h : s.tables[table]? = some rows)
    (key : TableKey) : s.entity? table key = rows[key]? :=
  Shelves.find?_eq (fun rows => rows) h key

theorem look_eq_none_iff {s : TableService} (hs : view.Sound s) {c : CollectionRef}
    {id : String} : view.look s c id = none ↔ s.entity? c.collection (.ofId id) = none := by
  show (s.entity? c.collection (.ofId id)).bind _ = none ↔ _
  cases he : s.entity? c.collection (.ofId id) with
  | none => simp
  | some e =>
    obtain ⟨-, r, hof⟩ := hs _ _ _ he
    simp [hof, Except.toOption]

theorem not_provided {s : TableService} {c : CollectionRef}
    (h : s.tables[c.collection]? = none) : ¬ (view.Calm s ∧ view.Provided s c) := by
  rintro ⟨-, hc : c.collection ∈ s.tables⟩
  exact absurd h (by simpa using hc)

theorem shelf_eq_iff {c c' : CollectionRef} :
    view.shelf c' = view.shelf c ↔ c'.collection = c.collection :=
  ⟨congrArg CollectionRef.collection, congrArg (CollectionRef.mk "")⟩

/-! ## Steps of the service -/

/-- Nothing but the traffic changes. -/
theorem same_traffic {s : TableService} {t : Traffic} (h : s.traffic.Free → t.Free) :
    view.Same s { s with traffic := t } :=
  ⟨⟨id, h, fun _ => id, fun _ => id⟩, fun _ _ => rfl⟩

theorem same_burn (s : TableService) : view.Same s s.burn where
  sound := id
  calm := id
  provided _ := id
  unissued := by
    rintro t ⟨n, hn, rfl⟩
    exact ⟨n, Nat.lt_of_succ_lt hn, rfl⟩
  look _ _ := rfl

/-- A new, empty table changes nothing that can be seen. -/
theorem same_insert {s : TableService} {table : String} (h : table ∉ s.tables) :
    view.Same s { s with tables := s.tables.insert table ∅ } := by
  have hent (table' : String) (key : TableKey) :
      entity? { s with tables := s.tables.insert table ∅ } table' key =
        s.entity? table' key :=
    Shelves.find?_insert_empty (fun rows => rows) h rfl table' key
  refine ⟨⟨fun hs table' key e he => hs table' key e (hent table' key ▸ he), fun q => q,
    fun c' hc' => ?_, fun _ ht => ht⟩, fun c' id => ?_⟩
  · exact Std.ExtTreeMap.mem_insert.2 (.inr hc')
  · exact congrArg (·.bind fun e => (Record.ofEntity e).toOption) (hent c'.collection (.ofId id))

theorem stored_put {s : TableService} {c : CollectionRef}
    {rows : Std.ExtTreeMap TableKey TableEntity} (h : s.tables[c.collection]? = some rows)
    (r : Record) :
    view.Stored s (s.burn.put c.collection rows (s.stamped r)) c
      { r with token := tagOf (s.tags + 1) } := by
  have hent (table : String) (key : TableKey) :
      (s.burn.put c.collection rows (s.stamped r)).entity? table key =
        if table = c.collection ∧ key = .ofId r.id then some (s.stamped r)
        else s.entity? table key :=
    Shelves.find?_put (fun rows => rows) h rfl table key
  refine ⟨⟨fun hs table key e he => ?_, fun q => q, fun c' hc' => ?_, ?_⟩, ?_, ?_,
    fun c' id => ?_⟩
  · rw [hent] at he
    split at he
    case isTrue hboth =>
      cases he
      exact ⟨hboth.2.symm, _, s.ofEntity_stamped r⟩
    case isFalse => exact hs table key e he
  · exact Std.ExtTreeMap.mem_insert.2 (.inr hc')
  · rintro t ⟨n, hn, rfl⟩
    exact ⟨n, Nat.lt_of_succ_lt hn, rfl⟩
  · exact ⟨s.tags + 1, Nat.lt_succ_self _, rfl⟩
  · rintro ⟨n, hn, heq⟩
    have hnumber : s.tags + 1 = n := tagOf_inj heq
    have hless : s.tags + 1 < n := hn
    omega
  · show (entity? _ c'.collection (.ofId id)).bind _ = _
    rw [hent]
    by_cases hboth : c'.collection = c.collection ∧ id = r.id
    · rw [if_pos ⟨hboth.1, congrArg TableKey.ofId hboth.2⟩,
        if_pos ⟨shelf_eq_iff.2 hboth.1, hboth.2⟩, Option.bind_some, ofEntity_stamped]
      rfl
    · rw [if_neg (fun h => hboth ⟨h.1, congrArg TableKey.partition h.2⟩),
        if_neg (fun h => hboth ⟨shelf_eq_iff.1 h.1, h.2⟩)]
      rfl

theorem removed_erase {s : TableService} {c : CollectionRef}
    {rows : Std.ExtTreeMap TableKey TableEntity} (h : s.tables[c.collection]? = some rows)
    (id : String) :
    view.Removed s
      { s with tables := s.tables.insert c.collection (rows.erase (.ofId id)) } c id := by
  have hent (table : String) (key : TableKey) :
      entity? { s with tables := s.tables.insert c.collection (rows.erase (.ofId id)) }
          table key =
        if table = c.collection ∧ key = .ofId id then none else s.entity? table key :=
    Shelves.find?_take (fun rows => rows) h rfl table key
  refine ⟨⟨fun hs table key e he => ?_, fun q => q, fun c' hc' => ?_, fun _ ht => ht⟩,
    fun c' id' => ?_⟩
  · rw [hent] at he
    split at he
    case isTrue => cases he
    case isFalse => exact hs table key e he
  · exact Std.ExtTreeMap.mem_insert.2 (.inr hc')
  · show (entity? _ c'.collection (.ofId id')).bind _ = _
    rw [hent]
    by_cases hboth : c'.collection = c.collection ∧ id' = id
    · rw [if_pos ⟨hboth.1, congrArg TableKey.ofId hboth.2⟩,
        if_pos ⟨shelf_eq_iff.2 hboth.1, hboth.2⟩, Option.bind_none]
    · rw [if_neg (fun h => hboth ⟨h.1, congrArg TableKey.partition h.2⟩),
        if_neg (fun h => hboth ⟨shelf_eq_iff.1 h.1, h.2⟩)]
      rfl

/-! ## Requests -/

theorem inTable_none {s : TableService} {table : String} (h : s.tables[table]? = none)
    {t : Traffic} {α : Type}
    {f : Std.ExtTreeMap TableKey TableEntity → Requesting TableService α} :
    inTable table f { s with traffic := t } =
      (.error (noTable table), { s with traffic := t }) := by
  simp only [inTable, h]

theorem inTable_some {s : TableService} {table : String}
    {rows : Std.ExtTreeMap TableKey TableEntity} (h : s.tables[table]? = some rows)
    {t : Traffic} {α : Type}
    {f : Std.ExtTreeMap TableKey TableEntity → Requesting TableService α} :
    inTable table f { s with traffic := t } = f rows { s with traffic := t } := by
  simp only [inTable, h]

/-- A request is refused or carried out, and before that only the traffic
changes. -/
theorem counted_cases {α : Type} (op : ServiceOp) (f : Requesting TableService α)
    (s : TableService) :
    ∃ t, view.Same s { s with traffic := t } ∧
      ((¬ view.Calm s ∧
          ∃ e, Traffic.counted trafficPart op f s = (.error e, { s with traffic := t })) ∨
        Traffic.counted trafficPart op f s = f { s with traffic := t }) := by
  obtain ⟨e, t, hfree, heq⟩ | ⟨t, hfree, heq⟩ := Traffic.counted_cases trafficPart op f s
  · exact ⟨t, same_traffic fun h => absurd h hfree, .inl ⟨hfree, e, heq⟩⟩
  · exact ⟨t, same_traffic hfree, .inr heq⟩

/-- What a write may come to: its table is missing, it meets an objection,
or the record is stored under the next tag. -/
theorem write_cases (c : CollectionRef) (r : Record)
    (check : TableKey → Option TableEntity → Option ServiceError) (s : TableService) :
    (¬ (view.Calm s ∧ view.Provided s c) ∧
        ∃ e, write c.collection r.toEntity check s = (.error e, s.burn)) ∨
      (∃ e, check (.ofId r.id) (s.entity? c.collection (.ofId r.id)) = some e ∧
        write c.collection r.toEntity check s = (.error e, s.burn)) ∨
      check (.ofId r.id) (s.entity? c.collection (.ofId r.id)) = none ∧
        ∃ s', view.Stored s s' c { r with token := tagOf (s.tags + 1) } ∧
          write c.collection r.toEntity check s = (.ok (s.stamped r), s') := by
  have hkey : r.toEntity.key = .ofId r.id := rfl
  cases htable : s.tables[c.collection]? with
  | none =>
    refine .inl ⟨not_provided htable, noTable c.collection, ?_⟩
    simp only [write, inTable, htable]
    rfl
  | some rows =>
    rw [entity?_eq htable]
    cases hobj : check (.ofId r.id) rows[TableKey.ofId r.id]? with
    | some e =>
      refine .inr (.inl ⟨e, rfl, ?_⟩)
      simp only [write, inTable, htable, hkey, hobj]
      rfl
    | none =>
      refine .inr (.inr ⟨rfl, _, stored_put htable r, ?_⟩)
      simp only [write, inTable, htable, hkey, hobj]
      rfl

theorem mustBeNew_eq_none_iff {s : TableService} (hs : view.Sound s) (c : CollectionRef)
    (id : String) :
    mustBeNew (.ofId id) (s.entity? c.collection (.ofId id)) = none ↔
      view.look s c id = none := by
  rw [look_eq_none_iff hs, mustBeNew]
  cases s.entity? c.collection (.ofId id) <;> simp

theorem mustMatch_eq_none_iff {s : TableService} (hs : view.Sound s) (c : CollectionRef)
    (id : String) {w : WriteCondition} (hw : ∃ token, w = .ofToken token) :
    mustMatch w.token? (.ofId id) (s.entity? c.collection (.ofId id)) = none ↔
      w.Meets (view.look s c id) := by
  cases w with
  | always => simp [mustMatch, WriteCondition.token?, WriteCondition.Meets]
  | ifToken token =>
    have hwild : token ≠ WriteCondition.wildcard := WriteCondition.ne_wildcard_of_ofToken hw
    show _ ↔ ∃ r : Record,
      (s.entity? c.collection (.ofId id)).bind _ = some r ∧ r.token = token
    cases he : s.entity? c.collection (.ofId id) with
    | none => simp [mustMatch, WriteCondition.token?]
    | some e =>
      obtain ⟨-, r, hof⟩ := hs _ _ _ he
      simp [mustMatch, WriteCondition.token?, hwild, hof, Except.toOption,
        ← (Record.id_token_of_ofEntity hof).2]

theorem toBackendError_of_mustBeNew {key : TableKey} {stored : Option TableEntity}
    {e : ServiceError} (h : mustBeNew key stored = some e) :
    e.toBackendError = .alreadyExists := by
  rw [mustBeNew] at h
  split at h
  · cases h
    rfl
  · cases h

/-- An objection to the tag of a write means a lost race, be the entity
another version or gone. -/
theorem lostRace_of_mustMatch {tag : Option String} {key : TableKey}
    {stored : Option TableEntity} {e : ServiceError} (h : mustMatch tag key stored = some e) :
    TableClient.lostRace e.toBackendError = .preconditionFailed := by
  unfold mustMatch at h
  split at h
  · cases h
  · cases h
    rfl
  · split at h
    · cases h
    · cases h
      rfl

/-! ## The laws -/

theorem lawful_ensure (c : CollectionRef) (s : TableService) :
    view.Ensures s (client.backend.ensure c s).2 c (client.backend.ensure c s).1 := by
  show view.Ensures s (Backend.asking (client.createTable c.collection) .ok s).2 c
    (Backend.asking (client.createTable c.collection) .ok s).1
  obtain ⟨t, hsame, ⟨hcalm, e, heq⟩ | heq⟩ := counted_cases .provision
    (fun s => if c.collection ∈ s.tables then (.ok (), s)
      else (.ok (), { s with tables := s.tables.insert c.collection ∅ })) s
  · rw [Backend.asking_error (client.createTable c.collection) heq]
    exact .failed hcalm hsame
  by_cases hc : c.collection ∈ s.tables
  · rw [if_pos hc] at heq
    rw [Backend.asking_ok (client.createTable c.collection) heq]
    exact .provided hsame hc
  · rw [if_neg hc] at heq
    rw [Backend.asking_ok (client.createTable c.collection) heq]
    exact .provided (hsame.trans (same_insert (s := { s with traffic := t }) hc))
      (Std.ExtTreeMap.mem_insert.2 (.inl (by simp)))

theorem lawful_create (c : CollectionRef) (r : Record) (s : TableService) (hs : view.Sound s) :
    view.Writes s (client.backend.create c r s).2 c r (view.look s c r.id = none) .alreadyExists
      (client.backend.create c r s).1 := by
  show view.Writes s
    (Backend.asking (client.insert c.collection r.toEntity) Record.ofEntity s).2 c r _ _
    (Backend.asking (client.insert c.collection r.toEntity) Record.ofEntity s).1
  obtain ⟨t, hsame, ⟨hcalm, e, heq⟩ | heq⟩ :=
    counted_cases .create (write c.collection r.toEntity mustBeNew) s
  · rw [Backend.asking_error (client.insert c.collection r.toEntity) heq]
    exact .failed (fun h => hcalm h.1) hsame
  refine View.Writes.of_same hsame ?_
  have hcheck := mustBeNew_eq_none_iff (s := { s with traffic := t }) hs c r.id
  obtain ⟨hmiss, e, hwrite⟩ | ⟨e, hobj, hwrite⟩ | ⟨hnone, s', hstored, hwrite⟩ :=
    write_cases c r mustBeNew { s with traffic := t }
  · rw [Backend.asking_error (client.insert c.collection r.toEntity) (heq.trans hwrite)]
    exact .failed hmiss (same_burn _)
  · rw [Backend.asking_error (client.insert c.collection r.toEntity) (heq.trans hwrite),
      toBackendError_of_mustBeNew hobj]
    refine .refused (fun habsent => ?_) (same_burn _)
    rw [hcheck.2 habsent] at hobj
    cases hobj
  · rw [Backend.asking_ok (client.insert c.collection r.toEntity) (heq.trans hwrite),
      ofEntity_stamped]
    exact .stored (hcheck.1 hnone) hstored

/-- What the client makes of the service's reply to a write on a condition. -/
def upserted (w : WriteCondition) : Except ServiceError TableEntity → Except BackendError Record
  | .ok stored => Record.ofEntity stored
  | .error e =>
    match w with
    | .always => .error e.toBackendError
    | .ifToken _ => .error (TableClient.lostRace e.toBackendError)

theorem upsert_eq {σ : Type} (client : TableClient σ) (c : CollectionRef) (r : Record)
    (w : WriteCondition) : client.backend.upsert c r w = fun s =>
      (upserted w (client.upsert c.collection r.toEntity w.token? s).1,
        (client.upsert c.collection r.toEntity w.token? s).2) := by
  funext s
  simp only [TableClient.backend]
  rcases client.upsert c.collection r.toEntity w.token? s with ⟨_ | _, _⟩
  · cases w <;> rfl
  · rfl

theorem lawful_upsert (c : CollectionRef) (r : Record) (w : WriteCondition) (s : TableService)
    (hw : ∃ token, w = .ofToken token) (hs : view.Sound s) :
    view.Writes s (client.backend.upsert c r w s).2 c r (w.Meets (view.look s c r.id))
      .preconditionFailed (client.backend.upsert c r w s).1 := by
  simp only [TableClient.backend]
  obtain ⟨t, hsame, ⟨hcalm, e, heq⟩ | heq⟩ :=
    counted_cases .upsert (write c.collection r.toEntity (mustMatch w.token?)) s
  · rw [show client.upsert c.collection r.toEntity w.token? s = _ from heq]
    cases w <;> exact .failed (fun h => hcalm h.1) hsame
  refine View.Writes.of_same hsame ?_
  have hcheck := mustMatch_eq_none_iff (s := { s with traffic := t }) hs c r.id hw
  obtain ⟨hmiss, e, hwrite⟩ | ⟨e, hobj, hwrite⟩ | ⟨hnone, s', hstored, hwrite⟩ :=
    write_cases c r (mustMatch w.token?) { s with traffic := t }
  · rw [show client.upsert c.collection r.toEntity w.token? s = _ from heq.trans hwrite]
    cases w <;> exact .failed hmiss (same_burn _)
  · rw [show client.upsert c.collection r.toEntity w.token? s = _ from heq.trans hwrite]
    cases w with
    | always => cases hobj
    | ifToken token =>
      show view.Writes _ _ c r _ _ (.error (TableClient.lostRace e.toBackendError))
      rw [lostRace_of_mustMatch hobj]
      refine .refused (fun hmeets => ?_) (same_burn _)
      rw [hcheck.2 hmeets] at hobj
      cases hobj
  · rw [show client.upsert c.collection r.toEntity w.token? s = _ from heq.trans hwrite]
    show view.Writes _ _ c r _ _ (Record.ofEntity (stamped _ r))
    rw [ofEntity_stamped]
    exact .stored (hcheck.1 hnone) hstored

theorem lawful_read (c : CollectionRef) (id : String) (s : TableService) (hs : view.Sound s) :
    view.Reads s (client.backend.read c id s).2 c id (client.backend.read c id s).1 := by
  show view.Reads s (Backend.asking (client.get c.collection (.ofId id)) Record.ofEntity s).2 c id
    (Backend.asking (client.get c.collection (.ofId id)) Record.ofEntity s).1
  obtain ⟨t, hsame, ⟨hcalm, e, heq⟩ | heq⟩ :=
    counted_cases .read (inTable c.collection (fetch (.ofId id))) s
  · rw [Backend.asking_error (client.get c.collection (.ofId id)) heq]
    exact .failed (fun h => hcalm h.1) hsame
  cases htable : s.tables[c.collection]? with
  | none =>
    rw [inTable_none htable] at heq
    rw [Backend.asking_error (client.get c.collection (.ofId id)) heq]
    exact .failed (not_provided htable) hsame
  | some rows =>
    rw [inTable_some htable] at heq
    cases hrow : rows[TableKey.ofId id]? with
    | none =>
      simp only [fetch, hrow] at heq
      rw [Backend.asking_error (client.get c.collection (.ofId id)) heq]
      exact .absent ((look_eq_none_iff hs).2 ((entity?_eq htable _).trans hrow)) hsame
    | some e =>
      simp only [fetch, hrow] at heq
      rw [Backend.asking_ok (client.get c.collection (.ofId id)) heq]
      obtain ⟨-, r, hof⟩ := hs _ _ _ ((entity?_eq htable _).trans hrow)
      rw [hof]
      refine .found ?_ hsame
      show (s.entity? c.collection (.ofId id)).bind _ = _
      rw [entity?_eq htable, hrow, Option.bind_some, hof]
      rfl

theorem lawful_delete (c : CollectionRef) (id : String) (s : TableService) (hs : view.Sound s) :
    view.Deletes s (client.backend.deleteNow c id s).2 c id
      (client.backend.deleteNow c id s).1 := by
  show view.Deletes s (Backend.asking (client.delete c.collection (.ofId id)) .ok s).2 c id
    (Backend.asking (client.delete c.collection (.ofId id)) .ok s).1
  obtain ⟨t, hsame, ⟨hcalm, e, heq⟩ | heq⟩ := counted_cases .delete
    (inTable c.collection fun rows s =>
      if TableKey.ofId id ∈ rows then
        (.ok (), { s with tables := s.tables.insert c.collection (rows.erase (.ofId id)) })
      else (.error (noEntity (.ofId id)), s)) s
  · rw [Backend.asking_error (client.delete c.collection (.ofId id)) heq]
    exact .failed (fun h => hcalm h.1) hsame
  cases htable : s.tables[c.collection]? with
  | none =>
    rw [inTable_none htable] at heq
    rw [Backend.asking_error (client.delete c.collection (.ofId id)) heq]
    exact .failed (not_provided htable) hsame
  | some rows =>
    rw [inTable_some htable] at heq
    by_cases hmem : TableKey.ofId id ∈ rows
    · rw [if_pos hmem] at heq
      rw [Backend.asking_ok (client.delete c.collection (.ofId id)) heq]
      refine .removed (fun hnone => ?_) ?_
      · rw [look_eq_none_iff hs, entity?_eq htable] at hnone
        exact absurd hmem (by simpa using hnone)
      · exact .of_same hsame (removed_erase (s := { s with traffic := t }) htable id)
    · rw [if_neg hmem] at heq
      rw [Backend.asking_error (client.delete c.collection (.ofId id)) heq]
      refine .absent ((look_eq_none_iff hs).2 ?_) hsame
      rw [entity?_eq htable]
      simpa using hmem

/-- The record of an entity that describes one. -/
def described (e : TableEntity) : Record := (Record.ofEntity e).toOption.getD default

/-- The entities of records in a table: each stands under its own keys,
describes a record, and comes after those of lesser ids. -/
theorem entities_of_sound {s : TableService} (hs : view.Sound s) {table : String}
    {rows : Std.ExtTreeMap TableKey TableEntity} (htable : s.tables[table]? = some rows) :
    let entities := (rows.toList.map (·.2)).filter (·.key.row = TableKey.recordRow)
    (∀ e ∈ entities, Record.ofEntity e = .ok (described e)) ∧
      (∀ e, e ∈ entities ↔ e.key.row = TableKey.recordRow ∧ rows[e.key]? = some e) ∧
      entities.Pairwise fun a b => compare a.key.partition b.key.partition = .lt := by
  have hstored {p : TableKey × TableEntity} (hp : rows[p.1]? = some p.2) :
      p.2.key = p.1 ∧ Record.ofEntity p.2 = .ok (described p.2) := by
    rw [← entity?_eq htable] at hp
    obtain ⟨hkey, r, hof⟩ := hs _ _ _ hp
    exact ⟨hkey, by rw [described, hof]; rfl⟩
  have hmem (e : TableEntity) : e ∈ rows.toList.map (·.2) ↔ rows[e.key]? = some e := by
    rw [List.mem_map]
    constructor
    · rintro ⟨p, hp, rfl⟩
      rw [Std.ExtTreeMap.mem_toList_iff_getElem?_eq_some] at hp
      rw [(hstored hp).1]
      exact hp
    · exact fun he => ⟨(e.key, e), Std.ExtTreeMap.mem_toList_iff_getElem?_eq_some.2 he, rfl⟩
  refine ⟨fun e he => ?_, fun e => ?_, ?_⟩
  · exact (hstored (p := (e.key, e)) ((hmem e).1 (List.mem_filter.1 he).1)).2
  · rw [List.mem_filter, hmem, decide_eq_true_eq, and_comm]
  · have hkeys : (rows.toList.map (·.2)).Pairwise fun a b => compare a.key b.key = .lt := by
      rw [List.pairwise_map]
      refine rows.ordered_keys_toList.imp_of_mem fun ha hb hab => ?_
      rw [(hstored (Std.ExtTreeMap.mem_toList_iff_getElem?_eq_some.1 ha)).1,
        (hstored (Std.ExtTreeMap.mem_toList_iff_getElem?_eq_some.1 hb)).1]
      exact hab
    refine (hkeys.filter _).imp_of_mem fun {a b} ha hb hab => ?_
    have hrow {e : TableEntity} (he : e ∈ (rows.toList.map (·.2)).filter
        (·.key.row = TableKey.recordRow)) : e.key.row = TableKey.recordRow := by
      simpa using (List.mem_filter.1 he).2
    have hlex : (compare a.key.partition b.key.partition).then
        (compare a.key.row b.key.row) = .lt := hab
    rwa [hrow ha, hrow hb, Std.compare_self, Ordering.then_eq] at hlex

theorem lawful_list (c : CollectionRef) (s : TableService) (hs : view.Sound s) :
    view.Lists s (client.backend.list c s).2 c (client.backend.list c s).1 := by
  show view.Lists s
    (Backend.asking (client.query c.collection TableClient.recordFilter)
      (fun entities => entities.mapM Record.ofEntity) s).2 c
    (Backend.asking (client.query c.collection TableClient.recordFilter)
      (fun entities => entities.mapM Record.ofEntity) s).1
  have hfilter : rowOfFilter? TableClient.recordFilter = some TableKey.recordRow := by
    cbv
  have hquery : client.query c.collection TableClient.recordFilter =
      Traffic.counted trafficPart .query (inTable c.collection fun rows s =>
        (.ok ((rows.toList.map (·.2)).filter (·.key.row = TableKey.recordRow)), s)) := by
    simp only [client, hfilter]
  rw [hquery]
  obtain ⟨t, hsame, ⟨hcalm, e, heq⟩ | heq⟩ := counted_cases .query
    (inTable c.collection fun rows s =>
      (.ok ((rows.toList.map (·.2)).filter (·.key.row = TableKey.recordRow)), s)) s
  · rw [Backend.asking_error _ heq]
    exact .failed (fun h => hcalm h.1) hsame
  cases htable : s.tables[c.collection]? with
  | none =>
    rw [inTable_none htable] at heq
    rw [Backend.asking_error _ heq]
    exact .failed (not_provided htable) hsame
  | some rows =>
    rw [inTable_some htable] at heq
    rw [Backend.asking_ok _ heq]
    obtain ⟨hall, hmem, hordered⟩ := entities_of_sound hs htable
    generalize (rows.toList.map (·.2)).filter (·.key.row = TableKey.recordRow) = entities
      at hall hmem hordered
    rw [mapM_eq_ok hall]
    refine .all ⟨?_, fun r => ?_⟩ hsame
    · rw [List.pairwise_map]
      refine hordered.imp_of_mem fun ha hb hab => ?_
      rw [(Record.id_token_of_ofEntity (hall _ ha)).1, (Record.id_token_of_ofEntity (hall _ hb)).1]
      exact hab
    · rw [List.mem_map]
      show _ ↔ (s.entity? c.collection (.ofId r.id)).bind _ = some r
      rw [entity?_eq htable, Option.bind_eq_some_iff]
      constructor
      · rintro ⟨e, he, rfl⟩
        have hkey : e.key = .ofId (described e).id :=
          TableKey.ext (Record.id_token_of_ofEntity (hall e he)).1.symm ((hmem e).1 he).1
        refine ⟨e, hkey ▸ ((hmem e).1 he).2, ?_⟩
        rw [hall e he]
        rfl
      · rintro ⟨e, he, hof⟩
        have hkey : e.key = .ofId r.id := (hs _ _ _ ((entity?_eq htable _).trans he)).1
        refine ⟨e, (hmem e).2 ⟨by rw [hkey]; rfl, by rw [hkey]; exact he⟩, ?_⟩
        rw [described, hof, Option.getD_some]

/-- **The table service keeps the laws.** -/
theorem lawful : client.backend.Lawful view where
  ensure c s _ := lawful_ensure c s
  create := lawful_create
  upsert := lawful_upsert
  read := lawful_read
  delay _ _ _ := rfl
  started _ _ s := .refl s
  delete := lawful_delete
  list := lawful_list
  health s _ := by
    obtain ⟨t, hsame, ⟨hcalm, e, heq⟩ | heq⟩ :=
      counted_cases .ping (fun s => (.ok (), s)) s
    · rw [show client.backend.health s = _ from Backend.asking_error client.ping heq]
      exact .failed hcalm hsame
    · rw [show client.backend.health s = _ from Backend.asking_ok client.ping heq]
      exact .reached hsame

end TableService

end LeaseStore
