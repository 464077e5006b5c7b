/-
LeaseStore.Proofs.Store.Documents — records in documents keep the laws.

The record of a document is what the codec makes of it, so the view looks
through the codec. A state is sound if every document describes a record
whose id is the name it is held under, and whose token is its entity tag;
the documents that a backend writes are such.

A write takes its tag before it is let through, so a refused write uses one
up. The laws do not mind: a token that was used up is not issued any more.
-/
import LeaseStore.Document.Service
import LeaseStore.Proofs.Store.Shelves
import LeaseStore.Proofs.Store.Traffic
import LeaseStore.Proofs.Text.Numeral

namespace LeaseStore.DocumentService

open LeaseStore.Text

/-! ## Tags -/

theorem tagOf_inj {m n : Nat} (h : tagOf m = tagOf n) : m = n := by
  have hlist := congrArg String.toList h
  simp only [tagOf, String.toList_append, List.append_cancel_right_eq,
    List.append_cancel_left_eq, String.toList_inj] at hlist
  exact hex_inj hlist

theorem isToken_tagOf (n : Nat) : WriteCondition.IsToken (tagOf n) := by
  constructor <;> intro h <;> have hlist := congrArg String.toList h <;>
    simp [tagOf, String.toList_append, WriteCondition.wildcard] at hlist

/-! ## The view -/

/-- The view of a document database. -/
def view : View DocumentService where
  shelf := id
  look s c id := (s.document? c id).bind Record.ofDocument?
  Unissued s t := ∃ n, s.tags < n ∧ t = tagOf n
  Provided s c := c ∈ s.containers
  Calm s := s.traffic.Free
  Sound s := ∀ c id doc, s.document? c id = some doc →
    ∃ r, Record.ofDocument? doc = some r ∧ r.id = id ∧ Document.tag? doc = some r.token
  isToken_of_unissued := by
    rintro s t ⟨n, -, rfl⟩
    exact isToken_tagOf n
  id_of_look := by
    intro s c id r hs hr
    obtain ⟨doc, hdoc, hof⟩ := Option.bind_eq_some_iff.1 hr
    obtain ⟨r', hof', hid, -⟩ := hs c id doc hdoc
    rw [hof] at hof'
    cases hof'
    exact hid
  look_of_shelf := by
    rintro s c c' rfl
    rfl

/-- The service after a tag was taken. -/
def burn (s : DocumentService) : DocumentService := { s with tags := s.tags + 1 }

/-- The document of a record under the next tag. -/
def stamped (s : DocumentService) (r : Record) : Json :=
  r.toDocument.setMember Document.tagName (.string (tagOf (s.tags + 1)))

theorem ofDocument?_stamped (s : DocumentService) (r : Record) :
    Record.ofDocument? (s.stamped r) = some { r with token := tagOf (s.tags + 1) } :=
  r.ofDocument?_setMember_toDocument _

theorem ofStored_stamped (s : DocumentService) (r : Record) :
    Record.ofStored (s.stamped r) = .ok { r with token := tagOf (s.tags + 1) } := by
  rw [Record.ofStored, ofDocument?_stamped]

theorem tag?_stamped (s : DocumentService) (r : Record) :
    Document.tag? (s.stamped r) = some (tagOf (s.tags + 1)) := by
  show ((Json.replaceMember Document.tagName _ r.members).lookup Document.tagName).bind _ = _
  rw [Json.lookup_replaceMember, if_pos rfl]
  rfl

theorem document?_eq {s : DocumentService} {c : CollectionRef} {content : Container}
    (h : s.containers[c]? = some content) (id : String) :
    s.document? c id = content.documents[id]? :=
  Shelves.find?_eq Container.documents h id

theorem look_eq_none_iff {s : DocumentService} (hs : view.Sound s) {c : CollectionRef}
    {id : String} : view.look s c id = none ↔ s.document? c id = none := by
  show (s.document? c id).bind _ = none ↔ _
  cases hdoc : s.document? c id with
  | none => simp
  | some doc =>
    obtain ⟨r, hof, -⟩ := hs c id doc hdoc
    simp [hof]

theorem not_provided {s : DocumentService} {c : CollectionRef} (h : s.containers[c]? = none) :
    ¬ (view.Calm s ∧ view.Provided s c) := by
  rintro ⟨-, hc : c ∈ s.containers⟩
  exact absurd h (by simpa using hc)

/-! ## Steps of the service -/

/-- Nothing but the traffic changes. -/
theorem same_traffic {s : DocumentService} {t : Traffic} (h : s.traffic.Free → t.Free) :
    view.Same s { s with traffic := t } :=
  ⟨⟨id, h, fun _ => id, fun _ => id⟩, fun _ _ => rfl⟩

theorem same_burn (s : DocumentService) : view.Same s s.burn where
  sound := id
  calm := id
  provided _ := id
  unissued := by
    rintro t ⟨n, hn, rfl⟩
    exact ⟨n, Nat.lt_of_succ_lt hn, rfl⟩
  look _ _ := rfl

theorem stored_put {s : DocumentService} {c : CollectionRef} {content : Container}
    (h : s.containers[c]? = some content) (r : Record) :
    view.Stored s (s.burn.put c content r.id (s.stamped r)) c
      { r with token := tagOf (s.tags + 1) } := by
  have hdoc (c' : CollectionRef) (id : String) :
      (s.burn.put c content r.id (s.stamped r)).document? c' id =
        if c' = c ∧ id = r.id then some (s.stamped r) else s.document? c' id :=
    Shelves.find?_put Container.documents h rfl c' id
  refine ⟨⟨fun hs c' id doc hd => ?_, fun q => q, fun c' hc' => ?_, ?_⟩, ?_, ?_, fun c' id => ?_⟩
  · rw [hdoc] at hd
    split at hd
    case isTrue hboth =>
      cases hd
      exact ⟨_, s.ofDocument?_stamped r, hboth.2.symm, s.tag?_stamped r⟩
    case isFalse => exact hs c' id doc hd
  · exact Std.ExtTreeMap.mem_insert.2 (.inr hc')
  · rintro t ⟨n, hn, rfl⟩
    exact ⟨n, Nat.lt_of_succ_lt hn, rfl⟩
  · exact ⟨s.tags + 1, Nat.lt_succ_self _, rfl⟩
  · rintro ⟨n, hn, heq⟩
    have hnumber : s.tags + 1 = n := tagOf_inj heq
    have hless : s.tags + 1 < n := hn
    omega
  · show ((s.burn.put c content r.id (s.stamped r)).document? c' id).bind _ =
      if c' = c ∧ id = r.id then _ else _
    rw [hdoc]
    by_cases hboth : c' = c ∧ id = r.id
    · rw [if_pos hboth, if_pos hboth, Option.bind_some, ofDocument?_stamped]
    · rw [if_neg hboth, if_neg hboth]
      rfl

theorem removed_erase {s : DocumentService} {c : CollectionRef} {content : Container}
    (h : s.containers[c]? = some content) (id : String) :
    view.Removed s
      { s with
        containers := s.containers.insert c
          { content with documents := content.documents.erase id } } c id := by
  have hdoc (c' : CollectionRef) (id' : String) :
      document? { s with
        containers := s.containers.insert c
          { content with documents := content.documents.erase id } } c' id' =
        if c' = c ∧ id' = id then none else s.document? c' id' :=
    Shelves.find?_take Container.documents h rfl c' id'
  refine ⟨⟨fun hs c' id' doc hd => ?_, fun q => q, fun c' hc' => ?_, fun _ ht => ht⟩,
    fun c' id' => ?_⟩
  · rw [hdoc] at hd
    split at hd
    case isTrue => cases hd
    case isFalse => exact hs c' id' doc hd
  · exact Std.ExtTreeMap.mem_insert.2 (.inr hc')
  · show (document? _ c' id').bind _ = if c' = c ∧ id' = id then _ else _
    rw [hdoc]
    by_cases hboth : c' = c ∧ id' = id
    · rw [if_pos hboth, if_pos hboth, Option.bind_none]
    · rw [if_neg hboth, if_neg hboth]
      rfl

/-! ## Requests -/

theorem inContainer_none {s : DocumentService} {c : CollectionRef} (h : s.containers[c]? = none)
    {t : Traffic} {α : Type} {f : Container → Requesting DocumentService α} :
    inContainer c f { s with traffic := t } =
      (.error (absent ("container " ++ c.render)), { s with traffic := t }) := by
  simp only [inContainer, h]

theorem inContainer_some {s : DocumentService} {c : CollectionRef} {content : Container}
    (h : s.containers[c]? = some content) {t : Traffic} {α : Type}
    {f : Container → Requesting DocumentService α} :
    inContainer c f { s with traffic := t } = f content { s with traffic := t } := by
  simp only [inContainer, h]

/-- A write takes a tag, and then it is let through, objected to, or misses
its container. -/
theorem write_eq (c : CollectionRef) (r : Record)
    (check : String → Option Json → Option ServiceError) (s : DocumentService) :
    write c r.toDocument check s =
      match s.containers[c]? with
      | none => (.error (absent ("container " ++ c.render)), s.burn)
      | some content =>
        match check r.id (s.document? c r.id) with
        | some e => (.error e, s.burn)
        | none => (.ok (s.stamped r), s.burn.put c content r.id (s.stamped r)) := by
  have hid : Document.id? r.toDocument = some r.id := rfl
  cases hc : s.containers[c]? with
  | none =>
    simp only [write, hid, inContainer, nextTag, hc]
    rfl
  | some content =>
    simp only [write, hid, inContainer, nextTag, hc, document?_eq hc]
    rfl

/-- What the backend makes of a write that is let through exactly if
`admitted`. -/
theorem writes_write {s : DocumentService} {c : CollectionRef} {r : Record}
    {check : String → Option Json → Option ServiceError} {admitted : Prop}
    {refusal : BackendError}
    (hcheck : (check r.id (s.document? c r.id) = none ↔ admitted))
    (hrefusal : ∀ e, check r.id (s.document? c r.id) = some e → e.toBackendError = refusal) :
    view.Writes s (Backend.asking (write c r.toDocument check) Record.ofStored s).2 c r admitted
      refusal (Backend.asking (write c r.toDocument check) Record.ofStored s).1 := by
  have hwrite := write_eq c r check s
  cases hc : s.containers[c]? with
  | none =>
    rw [hc] at hwrite
    rw [Backend.asking_error _ hwrite]
    exact .failed (not_provided hc) (same_burn s)
  | some content =>
    rw [hc] at hwrite
    cases hobj : check r.id (s.document? c r.id) with
    | some e =>
      simp only [hobj] at hwrite
      rw [Backend.asking_error _ hwrite, hrefusal e hobj]
      refine .refused (fun hadm => ?_) (same_burn s)
      rw [hcheck.2 hadm] at hobj
      cases hobj
    | none =>
      simp only [hobj] at hwrite
      rw [Backend.asking_ok _ hwrite, ofStored_stamped]
      exact .stored (hcheck.1 hobj) (stored_put hc r)

theorem mustBeNew_eq_none_iff {s : DocumentService} (hs : view.Sound s) {c : CollectionRef}
    {id : String} :
    mustBeNew id (s.document? c id) = none ↔ view.look s c id = none := by
  rw [look_eq_none_iff hs, mustBeNew]
  cases s.document? c id <;> simp

theorem mustMatch_eq_none_iff {s : DocumentService} (hs : view.Sound s) {c : CollectionRef}
    {id : String} (w : WriteCondition) :
    mustMatch w.token? id (s.document? c id) = none ↔ w.Meets (view.look s c id) := by
  cases w with
  | always => simp [mustMatch, WriteCondition.token?, WriteCondition.Meets]
  | ifToken token =>
    show _ ↔ ∃ r : Record, (s.document? c id).bind _ = some r ∧ r.token = token
    cases hdoc : s.document? c id with
    | none => simp [mustMatch, WriteCondition.token?]
    | some doc =>
      obtain ⟨r, hof, -, htag⟩ := hs c id doc hdoc
      simp [mustMatch, WriteCondition.token?, hof, htag]

theorem toBackendError_of_mustBeNew {id : String} {stored : Option Json} {e : ServiceError}
    (h : mustBeNew id stored = some e) : e.toBackendError = .alreadyExists := by
  rw [mustBeNew] at h
  split at h
  · cases h
    rfl
  · cases h

theorem toBackendError_of_mustMatch {tag : Option String} {id : String} {stored : Option Json}
    {e : ServiceError} (h : mustMatch tag id stored = some e) :
    e.toBackendError = .preconditionFailed := by
  cases tag with
  | none => cases h
  | some tag =>
    rw [mustMatch] at h
    split at h
    · cases h
    · cases h
      rfl

/-! ## The laws -/

/-- A request is refused or carried out, and before that only the traffic
changes. -/
theorem counted_cases {α : Type} (op : ServiceOp) (f : Requesting DocumentService α)
    (s : DocumentService) :
    ∃ t, view.Same s { s with traffic := t } ∧
      ((¬ view.Calm s ∧
          ∃ e, Traffic.counted trafficPart op f s = (.error e, { s with traffic := t })) ∨
        Traffic.counted trafficPart op f s = f { s with traffic := t }) := by
  obtain ⟨e, t, hfree, heq⟩ | ⟨t, hfree, heq⟩ := Traffic.counted_cases trafficPart op f s
  · exact ⟨t, same_traffic fun h => absurd h hfree, .inl ⟨hfree, e, heq⟩⟩
  · exact ⟨t, same_traffic hfree, .inr heq⟩

/-- A new, empty container changes nothing that can be seen. -/
theorem same_insert {s : DocumentService} {c : CollectionRef} (h : c ∉ s.containers)
    (throughput : Nat) :
    view.Same s { s with containers := s.containers.insert c { throughput } } := by
  have hdoc (c' : CollectionRef) (id : String) :
      document? { s with containers := s.containers.insert c { throughput } } c' id =
        s.document? c' id :=
    Shelves.find?_insert_empty Container.documents h rfl c' id
  refine ⟨⟨fun hs c' id doc hd => hs c' id doc (hdoc c' id ▸ hd), fun q => q, fun c' hc' => ?_,
    fun _ ht => ht⟩, fun c' id => ?_⟩
  · exact Std.ExtTreeMap.mem_insert.2 (.inr hc')
  · exact congrArg (·.bind Record.ofDocument?) (hdoc c' id)

theorem ensures_container (throughput : Nat) {c : CollectionRef} {s : DocumentService}
    (h : c.database ∈ s.databases) :
    view.Ensures s (Backend.asking (client.createContainer c throughput) .ok s).2 c
      (Backend.asking (client.createContainer c throughput) .ok s).1 := by
  obtain ⟨t, hsame, ⟨hcalm, e, heq⟩ | heq⟩ := counted_cases .provision
    (fun s => if c.database ∉ s.databases then (.error (absent ("database " ++ c.database)), s)
      else if c ∈ s.containers then (.ok (), s)
      else (.ok (), { s with containers := s.containers.insert c { throughput } })) s
  · rw [Backend.asking_error (client.createContainer c throughput) heq]
    exact .failed hcalm hsame
  rw [if_neg (not_not_intro h)] at heq
  by_cases hc : c ∈ s.containers
  · rw [if_pos hc] at heq
    rw [Backend.asking_ok (client.createContainer c throughput) heq]
    exact .provided hsame hc
  · rw [if_neg hc] at heq
    rw [Backend.asking_ok (client.createContainer c throughput) heq]
    exact .provided (hsame.trans (same_insert (s := { s with traffic := t }) hc throughput))
      (Std.ExtTreeMap.mem_insert.2 (.inl (by simp)))

theorem lawful_ensure (throughput : Nat) (c : CollectionRef) (s : DocumentService) :
    view.Ensures s ((client.backend throughput).ensure c s).2 c
      ((client.backend throughput).ensure c s).1 := by
  simp only [DocumentClient.backend]
  obtain ⟨t, hsame, ⟨hcalm, e, heq⟩ | heq⟩ := counted_cases .provision
    (fun s => (.ok (), { s with databases :=
      if c.database ∈ s.databases then s.databases else s.databases ++ [c.database] })) s
  · rw [show client.createDatabase c.database s = _ from heq]
    exact .failed hcalm hsame
  rw [show client.createDatabase c.database s = _ from heq]
  have hthere : c.database ∈
      (if c.database ∈ s.databases then s.databases else s.databases ++ [c.database]) := by
    split
    case isTrue h => exact h
    case isFalse => simp
  generalize (if c.database ∈ s.databases then s.databases
    else s.databases ++ [c.database]) = databases at hthere
  have hdatabase : view.Same s { s with databases, traffic := t } :=
    hsame.trans ⟨⟨id, id, fun _ => id, fun _ => id⟩, fun _ _ => rfl⟩
  exact (ensures_container throughput hthere).of_same hdatabase

/-- The record of a document that describes one. -/
def described (doc : Json) : Record := (Record.ofDocument? doc).getD default

theorem lawful_list (throughput : Nat) (c : CollectionRef) (s : DocumentService)
    (hs : view.Sound s) :
    view.Lists s ((client.backend throughput).list c s).2 c
      ((client.backend throughput).list c s).1 := by
  show view.Lists s (Backend.asking (client.query c DocumentClient.selectAll)
      (fun docs => docs.mapM Record.ofStored) s).2 c
    (Backend.asking (client.query c DocumentClient.selectAll)
      (fun docs => docs.mapM Record.ofStored) s).1
  have hquery : lowered (trimmed DocumentClient.selectAll) = lowered DocumentClient.selectAll := by
    decide +kernel
  obtain ⟨t, hsame, ⟨hcalm, e, heq⟩ | heq⟩ := counted_cases .query
    (fun s => if lowered (trimmed DocumentClient.selectAll) = lowered DocumentClient.selectAll then
      inContainer c (fun content s => (.ok (content.documents.toList.map (·.2)), s)) s
      else (.error (unsupported DocumentClient.selectAll), s)) s
  · rw [Backend.asking_error (client.query c _) heq]
    exact .failed (fun h => hcalm h.1) hsame
  rw [if_pos hquery] at heq
  cases hc : s.containers[c]? with
  | none =>
    rw [inContainer_none hc] at heq
    rw [Backend.asking_error (client.query c _) heq]
    exact .failed (not_provided hc) hsame
  | some content =>
    rw [inContainer_some hc] at heq
    rw [Backend.asking_ok (client.query c _) heq]
    have hstored {p : String × Json} (hp : p ∈ content.documents.toList) :
        Record.ofDocument? p.2 = some (described p.2) ∧ (described p.2).id = p.1 := by
      rw [Std.ExtTreeMap.mem_toList_iff_getElem?_eq_some, ← document?_eq hc] at hp
      obtain ⟨r, hof, hid, -⟩ := hs _ _ _ hp
      simp only [described, hof, Option.getD_some, hid, and_self]
    have hall : (content.documents.toList.map (·.2)).mapM Record.ofStored =
        .ok ((content.documents.toList.map (·.2)).map described) := by
      refine mapM_eq_ok fun doc hdoc => ?_
      obtain ⟨p, hp, rfl⟩ := List.mem_map.1 hdoc
      rw [Record.ofStored, (hstored hp).1]
    rw [hall, List.map_map]
    refine .all ⟨?_, fun r => ?_⟩ hsame
    · rw [List.pairwise_map]
      refine content.documents.ordered_keys_toList.imp_of_mem fun ha hb hab => ?_
      show compare (described _).id (described _).id = .lt
      rw [(hstored ha).2, (hstored hb).2]
      exact hab
    · rw [List.mem_map]
      show (∃ p : String × Json, _ ∧ described p.2 = r) ↔ (s.document? c r.id).bind _ = some r
      rw [document?_eq hc, Option.bind_eq_some_iff]
      constructor
      · rintro ⟨p, hp, rfl⟩
        rw [(hstored hp).2]
        exact ⟨p.2, Std.ExtTreeMap.mem_toList_iff_getElem?_eq_some.1 hp, (hstored hp).1⟩
      · rintro ⟨doc, hdoc, hof⟩
        refine ⟨(r.id, doc), Std.ExtTreeMap.mem_toList_iff_getElem?_eq_some.2 hdoc, ?_⟩
        simp only [described, hof, Option.getD_some]

theorem lawful_create (throughput : Nat) (c : CollectionRef) (r : Record) (s : DocumentService)
    (hs : view.Sound s) :
    view.Writes s ((client.backend throughput).create c r s).2 c r
      (view.look s c r.id = none) .alreadyExists ((client.backend throughput).create c r s).1 := by
  show view.Writes s (Backend.asking (client.create c r.toDocument) Record.ofStored s).2 c r
    (view.look s c r.id = none) .alreadyExists
    (Backend.asking (client.create c r.toDocument) Record.ofStored s).1
  obtain ⟨t, hsame, ⟨hcalm, e, heq⟩ | heq⟩ :=
    counted_cases .create (write c r.toDocument mustBeNew) s
  · rw [Backend.asking_error (client.create c r.toDocument) heq]
    exact .failed (fun h => hcalm h.1) hsame
  · rw [Backend.asking_congr (client.create c r.toDocument) heq]
    exact (writes_write (mustBeNew_eq_none_iff (s := { s with traffic := t }) hs)
      fun e he => toBackendError_of_mustBeNew he).of_same hsame

theorem lawful_upsert (throughput : Nat) (c : CollectionRef) (r : Record) (w : WriteCondition)
    (s : DocumentService) (hs : view.Sound s) :
    view.Writes s ((client.backend throughput).upsert c r w s).2 c r
      (w.Meets (view.look s c r.id)) .preconditionFailed
      ((client.backend throughput).upsert c r w s).1 := by
  show view.Writes s
    (Backend.asking (client.upsert c r.toDocument w.token?) Record.ofStored s).2 c r
    (w.Meets (view.look s c r.id)) .preconditionFailed
    (Backend.asking (client.upsert c r.toDocument w.token?) Record.ofStored s).1
  obtain ⟨t, hsame, ⟨hcalm, e, heq⟩ | heq⟩ :=
    counted_cases .upsert (write c r.toDocument (mustMatch w.token?)) s
  · rw [Backend.asking_error (client.upsert c r.toDocument w.token?) heq]
    exact .failed (fun h => hcalm h.1) hsame
  · rw [Backend.asking_congr (client.upsert c r.toDocument w.token?) heq]
    exact (writes_write (mustMatch_eq_none_iff (s := { s with traffic := t }) hs w)
      fun e he => toBackendError_of_mustMatch he).of_same hsame

theorem lawful_read (throughput : Nat) (c : CollectionRef) (id : String) (s : DocumentService)
    (hs : view.Sound s) :
    view.Reads s ((client.backend throughput).read c id s).2 c id
      ((client.backend throughput).read c id s).1 := by
  show view.Reads s (Backend.asking (client.read c id) Record.ofStored s).2 c id
    (Backend.asking (client.read c id) Record.ofStored s).1
  obtain ⟨t, hsame, ⟨hcalm, e, heq⟩ | heq⟩ :=
    counted_cases .read (inContainer c (fetch id)) s
  · rw [Backend.asking_error (client.read c id) heq]
    exact .failed (fun h => hcalm h.1) hsame
  cases hc : s.containers[c]? with
  | none =>
    rw [inContainer_none hc] at heq
    rw [Backend.asking_error (client.read c id) heq]
    exact .failed (not_provided hc) hsame
  | some content =>
    rw [inContainer_some hc] at heq
    cases hdoc : content.documents[id]? with
    | none =>
      simp only [fetch, hdoc] at heq
      rw [Backend.asking_error (client.read c id) heq]
      exact .absent ((look_eq_none_iff hs).2 ((document?_eq hc id).trans hdoc)) hsame
    | some doc =>
      simp only [fetch, hdoc] at heq
      rw [Backend.asking_ok (client.read c id) heq]
      obtain ⟨r, hof, -⟩ := hs c id doc ((document?_eq hc id).trans hdoc)
      rw [Record.ofStored, hof]
      refine .found ?_ hsame
      show (s.document? c id).bind _ = _
      rw [document?_eq hc, hdoc, Option.bind_some, hof]

theorem lawful_delete (throughput : Nat) (c : CollectionRef) (id : String) (s : DocumentService)
    (hs : view.Sound s) :
    view.Deletes s ((client.backend throughput).deleteNow c id s).2 c id
      ((client.backend throughput).deleteNow c id s).1 := by
  show view.Deletes s (Backend.asking (client.delete c id) .ok s).2 c id
    (Backend.asking (client.delete c id) .ok s).1
  obtain ⟨t, hsame, ⟨hcalm, e, heq⟩ | heq⟩ := counted_cases .delete
    (inContainer c fun content s =>
      if id ∈ content.documents then
        (.ok (), { s with
          containers := s.containers.insert c
            { content with documents := content.documents.erase id } })
      else (.error (absent ("document " ++ id)), s)) s
  · rw [Backend.asking_error (client.delete c id) heq]
    exact .failed (fun h => hcalm h.1) hsame
  cases hc : s.containers[c]? with
  | none =>
    rw [inContainer_none hc] at heq
    rw [Backend.asking_error (client.delete c id) heq]
    exact .failed (not_provided hc) hsame
  | some content =>
    rw [inContainer_some hc] at heq
    by_cases hmem : id ∈ content.documents
    · rw [if_pos hmem] at heq
      rw [Backend.asking_ok (client.delete c id) heq]
      refine .removed (fun hnone => ?_) ?_
      · rw [look_eq_none_iff hs, document?_eq hc] at hnone
        exact absurd hmem (by simpa using hnone)
      · exact .of_same hsame (removed_erase (s := { s with traffic := t }) hc id)
    · rw [if_neg hmem] at heq
      rw [Backend.asking_error (client.delete c id) heq]
      refine .absent ((look_eq_none_iff hs).2 ?_) hsame
      rw [document?_eq hc]
      simpa using hmem

/-- **The document database keeps the laws.** -/
theorem lawful (throughput : Nat) : (client.backend throughput).Lawful view where
  ensure c s _ := lawful_ensure throughput c s
  create := lawful_create throughput
  upsert c r w s _ hs := lawful_upsert throughput c r w s hs
  read := lawful_read throughput
  delay _ _ _ := rfl
  started _ _ s := .refl s
  delete := lawful_delete throughput
  list := lawful_list throughput
  health s _ := by
    obtain ⟨t, hsame, ⟨hcalm, e, heq⟩ | heq⟩ :=
      counted_cases .ping (fun s => (.ok (), s)) s
    · rw [show (client.backend throughput).health s = _ from
        Backend.asking_error client.ping heq]
      exact .failed hcalm hsame
    · rw [show (client.backend throughput).health s = _ from
        Backend.asking_ok client.ping heq]
      exact .reached hsame

end LeaseStore.DocumentService
