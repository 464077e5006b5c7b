/-
LeaseStore.Proofs.Connection.Secrecy — secrets show nowhere.

Two texts differ in their secrets when they are the same, piece by piece, but
for what stands behind the equals sign of an account key or a shared access
signature (`DifferInSecrets`). Once the blanks are gone, such pieces are the
same or two settings of one secret name, each with a value (`Veiled`). Names,
faults of the grammar and values of other settings are therefore the same on
both sides, and all that is printed is made of those.

* `secrets_show_nowhere` — such texts are refused with the same error, or both
  read, and then nothing that is shown of them or of their accounts, and no
  error about them, tells them apart; nor does a configuration show its
  connection string.
-/
import LeaseStore.Config
import LeaseStore.Proofs.Agreement.Renaming
import LeaseStore.Proofs.Connection.Restyling

namespace LeaseStore

open LeaseStore.Text

namespace ConnectionString

/-! ## Texts that differ in their secrets -/

/-- The name of a setting whose value is a secret. -/
def IsSecretName (name : String) : Prop :=
  name = lowered "AccountKey" ∨ name = lowered "SharedAccessSignature"

/-- A piece and what has become of it: itself, or another value of the same
secret. The key may be in any letters, with blanks around it. -/
inductive Resealed : List Char → List Char → Prop
  | same (piece : List Char) : Resealed piece piece
  | secret {key value value' : List Char} (hkey : '=' ∉ key)
      (hsecret : IsSecretName (lowered (String.ofList (trim key))))
      (hvalue : ¬ AllBlank value) (hvalue' : ¬ AllBlank value') :
      Resealed (key ++ '=' :: value) (key ++ '=' :: value')

/-- Two texts that differ only in the values of secrets. -/
def DifferInSecrets (s t : String) : Prop := List.Forall₂ Resealed (pieces s) (pieces t)

/-- Two connection strings of which everything that is shown is the same, and
so is every error about what they lack. -/
structure LooksLike (c d : ConnectionString) : Prop where
  shown : c.describe = d.describe
  missing : ∀ key err, c.require key = .error err ↔ d.require key = .error err
  document : Except.Alike (fun a b => a.describe = b.describe ∧ a.endpoint = b.endpoint)
    (DocumentAccount.ofSettings c) (DocumentAccount.ofSettings d)
  table : Except.Alike
    (fun a b => a.describe = b.describe ∧ a.endpoint = b.endpoint ∧ a.accountName = b.accountName)
    (TableAccount.ofSettings c) (TableAccount.ofSettings d)

/-! ## Pieces that differ in their secrets -/

/-- Two pieces that are the same, or two values of one secret. -/
inductive Veiled : List Char → List Char → Prop
  | same (piece : List Char) : Veiled piece piece
  | secret {p q : List Char} (hp : IsSetting p) (hq : IsSetting q) (hname : nameOf p = nameOf q)
      (hsecret : IsSecretName (nameOf p)) (hvalue : valueOf p ≠ "") (hvalue' : valueOf q ≠ "") :
      Veiled p q

theorem Veiled.name {p q : List Char} (h : Veiled p q) : nameOf p = nameOf q := by
  cases h with
  | same => rfl
  | secret _ _ hname => exact hname

theorem Veiled.isSetting {p q : List Char} (h : Veiled p q) (hp : IsSetting p) : IsSetting q := by
  cases h with
  | same => exact hp
  | secret _ hq => exact hq

theorem isSetting_of_isSecretName {key : List Char} (hkey : '=' ∉ key)
    (hsecret : IsSecretName (lowered (String.ofList (trim key)))) (value : List Char) :
    IsSetting (key ++ '=' :: value) := by
  rw [isSetting_written_iff hkey, ← keyText_written hkey value, ← nameOf_eq_empty_iff,
    nameOf_written hkey]
  intro hempty
  rw [hempty] at hsecret
  revert hsecret
  simp [IsSecretName, lowered_eq_empty_iff, eq_comm (a := "")]

theorem valueOf_written_ne_empty {key : List Char} (hkey : '=' ∉ key) {value : List Char}
    (hvalue : ¬ AllBlank value) : valueOf (key ++ '=' :: value) ≠ "" := by
  rw [valueOf_written hkey]
  intro hempty
  exact hvalue (trim_eq_nil_iff.mp (String.ofList_eq_empty_iff.mp hempty))

theorem Resealed.veiled {p q : List Char} (h : Resealed p q) :
    Veiled (Text.trim p) (Text.trim q) := by
  cases h with
  | same => exact .same _
  | @secret key value value' hkey hsecret hvalue hvalue' =>
    have hp := Alike.trim (key ++ '=' :: value)
    have hq := Alike.trim (key ++ '=' :: value')
    refine .secret ?_ ?_ ?_ ?_ ?_ ?_
    · exact hp.isSetting.mpr (isSetting_of_isSecretName hkey hsecret value)
    · exact hq.isSetting.mpr (isSetting_of_isSecretName hkey hsecret value')
    · rw [hp.name, hq.name, nameOf_written hkey, nameOf_written hkey]
    · rw [hp.name, nameOf_written hkey]
      exact hsecret
    · rw [hp.value]
      exact valueOf_written_ne_empty hkey hvalue
    · rw [hq.value]
      exact valueOf_written_ne_empty hkey hvalue'

/-- Induction on the pieces: a piece that does not count is the same piece on
both sides. -/
theorem veiled_kept {ps qs : List (List Char)} (h : List.Forall₂ Resealed ps qs) :
    List.Forall₂ Veiled (kept ps) (kept qs) := by
  induction h with
  | nil => exact .nil
  | @cons p q ps qs hpq _ ih =>
    by_cases hblank : AllBlank p
    case pos =>
      cases hpq with
      | same => simpa [kept_cons_blank hblank] using ih
      | secret => exact absurd hblank fun h => equals_notMem_of_allBlank h (by simp)
    case neg =>
      have hkept : kept (p :: ps) = Text.trim p :: kept ps := by
        simp [kept, trim_eq_nil_iff, hblank]
      have hkept' : kept (q :: qs) = Text.trim q :: kept qs := by
        cases hpq with
        | same => simp [kept, trim_eq_nil_iff, hblank]
        | secret => exact kept_cons_of_mem (by simp) qs
      rw [hkept, hkept']
      exact .cons hpq.veiled ih

/-! ## The grammar -/

theorem map_nameOf_of_veiled {ps qs : List (List Char)} (h : List.Forall₂ Veiled ps qs) :
    ps.map nameOf = qs.map nameOf := by
  induction h with
  | nil => rfl
  | cons hpq _ ih => simp [hpq.name, ih]

theorem exists_veiled {ps qs : List (List Char)} (h : List.Forall₂ Veiled ps qs) {q : List Char}
    (hq : q ∈ qs) : ∃ p ∈ ps, Veiled p q := by
  induction h with
  | nil => simp at hq
  | @cons p q' ps qs hpq _ ih =>
    rcases List.mem_cons.mp hq with rfl | hq
    · exact ⟨p, by simp, hpq⟩
    · obtain ⟨p', hp', hveiled⟩ := ih hq
      exact ⟨p', by simp [hp'], hveiled⟩

theorem Grammatical.veiled {ps qs : List (List Char)} (hps : Grammatical ps)
    (h : List.Forall₂ Veiled ps qs) : Grammatical qs where
  settings q hq := by
    obtain ⟨p, hp, hveiled⟩ := exists_veiled h hq
    exact hveiled.isSetting (hps.settings p hp)
  distinct := by
    rw [← map_nameOf_of_veiled h]
    exact hps.distinct

/-- A secret that offends does so by its name alone. -/
theorem Offends.veiled {before before' : List (List Char)} {p q : List Char}
    {err : ConnectionError} (hoffends : Offends before p err)
    (hbefore : before.map nameOf = before'.map nameOf) (h : Veiled p q) :
    Offends before' q err := by
  cases hoffends with
  | unassigned hequals =>
    cases h with
    | same => exact .unassigned hequals
    | secret hp => exact absurd hp.1 hequals
  | nameless hequals hblank =>
    cases h with
    | same => exact .nameless hequals hblank
    | secret hp => exact absurd hblank hp.2
  | repeated hsetting hmem =>
    rw [h.name]
    exact .repeated (h.isSetting hsetting) (hbefore ▸ h.name ▸ hmem)

theorem FirstOffence.veiled {ps qs : List (List Char)} {err : ConnectionError}
    (hps : FirstOffence ps err) (h : List.Forall₂ Veiled ps qs) : FirstOffence qs err := by
  obtain ⟨before, p, after, rfl, hbefore, hoffends⟩ := hps
  have hfront := List.forall₂_take before.length h
  have hrest := List.forall₂_drop before.length h
  rw [List.take_left] at hfront
  rw [List.drop_left, List.forall₂_cons_left_iff] at hrest
  obtain ⟨q, after', hpq, -, hdrop⟩ := hrest
  refine ⟨qs.take before.length, q, after', ?_, hbefore.veiled hfront, ?_⟩
  · rw [← hdrop, List.take_append_drop]
  · exact hoffends.veiled (map_nameOf_of_veiled hfront) hpq

/-! ## What has been read -/

/-- Two connection strings with the same settings but for the values of their
secrets. -/
def SameButSecrets (c d : ConnectionString) : Prop :=
  ∀ name, c.settings[name]? = d.settings[name]? ∨
    IsSecretName name ∧ ∃ value value', value ≠ "" ∧ value' ≠ "" ∧
      c.settings[name]? = some value ∧ d.settings[name]? = some value'

theorem sameButSecrets_of_veiled {c d : ConnectionString} {ps qs : List (List Char)}
    (hc : Holds c.settings ps) (hd : Holds d.settings qs) (h : List.Forall₂ Veiled ps qs) :
    SameButSecrets c d := by
  intro name
  by_cases hname : name ∈ qs.map nameOf
  case neg =>
    have hname' : name ∉ ps.map nameOf := map_nameOf_of_veiled h ▸ hname
    left
    rw [Std.ExtTreeMap.getElem?_eq_none (mt hc.mem_iff.mp hname'),
      Std.ExtTreeMap.getElem?_eq_none (mt hd.mem_iff.mp hname)]
  case pos =>
    obtain ⟨q, hq, rfl⟩ := List.mem_map.mp hname
    obtain ⟨p, hp, hpq⟩ := exists_veiled h hq
    have hvalue := (hc (nameOf q) (valueOf p)).mpr ⟨p, hp, hpq.name, rfl⟩
    have hvalue' := (hd (nameOf q) (valueOf q)).mpr ⟨q, hq, rfl, rfl⟩
    cases hpq with
    | same => exact .inl (hvalue.trans hvalue'.symm)
    | secret _ _ hname hsecret hne hne' =>
      exact .inr ⟨hname ▸ hsecret, _, _, hne, hne', hvalue, hvalue'⟩

/-- What is shown of the value of a setting. -/
def shownValue (name value : String) : String :=
  if name ∈ secretKeys then redacted else quoted value

theorem describe_eq (c : ConnectionString) :
    c.describe = describeMap (c.settings.map shownValue).toList := by
  rw [describe, Std.ExtTreeMap.toList_map]
  rfl

theorem mem_secretKeys_of_isSecretName {name : String} (h : IsSecretName name) :
    name ∈ secretKeys := by
  rcases h with rfl | rfl <;> decide +kernel

theorem SameButSecrets.describe {c d : ConnectionString} (h : SameButSecrets c d) :
    c.describe = d.describe := by
  have hshown : c.settings.map shownValue = d.settings.map shownValue := by
    refine Std.ExtTreeMap.ext_getElem? fun name => ?_
    rw [Std.ExtTreeMap.getElem?_map, Std.ExtTreeMap.getElem?_map]
    rcases h name with heq | ⟨hsecret, value, value', -, -, hvalue, hvalue'⟩
    · rw [heq]
    · simp [hvalue, hvalue', shownValue, mem_secretKeys_of_isSecretName hsecret]
  rw [describe_eq, describe_eq, hshown]

/-- A look-up finds the same on both sides, or finds a secret on each. -/
theorem SameButSecrets.get? {c d : ConnectionString} (h : SameButSecrets c d) (key : String) :
    c.get? key = d.get? key ∨
      IsSecretName (lowered key) ∧
        ∃ value value', c.get? key = some value ∧ d.get? key = some value' := by
  rcases h (lowered key) with heq | ⟨hsecret, value, value', hne, hne', hvalue, hvalue'⟩
  · left
    rw [ConnectionString.get?, ConnectionString.get?, heq]
  · refine .inr ⟨hsecret, value, value', ?_, ?_⟩
    · simp [ConnectionString.get?, hvalue, hne]
    · simp [ConnectionString.get?, hvalue', hne']

theorem SameButSecrets.get?_eq {c d : ConnectionString} (h : SameButSecrets c d) (key : String)
    (hkey : lowered key ∉ secretKeys) : c.get? key = d.get? key := by
  rcases h.get? key with heq | ⟨hsecret, -⟩
  · exact heq
  · exact absurd (mem_secretKeys_of_isSecretName hsecret) hkey

/-- What must be there is there on both sides, or missing on both. -/
theorem SameButSecrets.require_cases {c d : ConnectionString} (h : SameButSecrets c d)
    (key : String) :
    (∃ err, c.require key = .error err ∧ d.require key = .error err) ∨
      ∃ value value', c.require key = .ok value ∧ d.require key = .ok value' := by
  simp only [ConnectionString.require]
  rcases h.get? key with heq | ⟨-, value, value', hvalue, hvalue'⟩
  · rw [heq]
    cases d.get? key with
    | none => exact .inl ⟨_, rfl, rfl⟩
    | some value => exact .inr ⟨value, value, rfl, rfl⟩
  · rw [hvalue, hvalue']
    exact .inr ⟨value, value', rfl, rfl⟩

theorem SameButSecrets.require_eq {c d : ConnectionString} (h : SameButSecrets c d) (key : String)
    (hkey : lowered key ∉ secretKeys) : c.require key = d.require key := by
  rw [ConnectionString.require, ConnectionString.require, h.get?_eq key hkey]

/-! ## The accounts -/

theorem SameButSecrets.document {c d : ConnectionString} (h : SameButSecrets c d) :
    Except.Alike (fun a b => a.describe = b.describe ∧ a.endpoint = b.endpoint)
      (DocumentAccount.ofSettings c) (DocumentAccount.ofSettings d) := by
  rw [DocumentAccount.ofSettings, DocumentAccount.ofSettings,
    h.require_eq "AccountEndpoint" (by decide +kernel)]
  cases d.require "AccountEndpoint" with
  | error err => exact .error err
  | ok endpoint =>
    rcases h.require_cases "AccountKey" with ⟨err, hc, hd⟩ | ⟨value, value', hc, hd⟩
    · rw [hc, hd]
      exact .error err
    · rw [hc, hd]
      exact .ok ⟨rfl, rfl⟩

theorem SameButSecrets.table {c d : ConnectionString} (h : SameButSecrets c d) :
    Except.Alike
      (fun a b => a.describe = b.describe ∧ a.endpoint = b.endpoint ∧
        a.accountName = b.accountName)
      (TableAccount.ofSettings c) (TableAccount.ofSettings d) := by
  have hname := h.get?_eq "AccountName" (by decide +kernel)
  have hname' := h.require_eq "AccountName" (by decide +kernel)
  have hprotocol := h.get?_eq "DefaultEndpointsProtocol" (by decide +kernel)
  have hsuffix := h.get?_eq "EndpointSuffix" (by decide +kernel)
  rw [TableAccount.ofSettings, TableAccount.ofSettings,
    h.get?_eq "TableEndpoint" (by decide +kernel)]
  cases d.get? "TableEndpoint" with
  | some endpoint =>
    refine .ok ⟨?_, rfl, hname⟩
    have hkey : (c.get? "AccountKey").map (fun _ => redacted) =
        (d.get? "AccountKey").map fun _ => redacted := by
      rcases h.get? "AccountKey" with heq | ⟨-, value, value', hvalue, hvalue'⟩
      · rw [heq]
      · simp [hvalue, hvalue']
    simp only [TableAccount.describe, hname, hkey]
  | none =>
    simp only [hname', hprotocol, hsuffix]
    cases d.require "AccountName" with
    | error err => exact .error err
    | ok name =>
      rcases h.require_cases "AccountKey" with ⟨err, hc, hd⟩ | ⟨value, value', hc, hd⟩
      · rw [hc, hd]
        exact .error err
      · rw [hc, hd]
        exact .ok ⟨rfl, rfl, rfl⟩

theorem SameButSecrets.looksLike {c d : ConnectionString} (h : SameButSecrets c d) :
    LooksLike c d where
  shown := h.describe
  missing key err := by
    rcases h.require_cases key with ⟨err', hc, hd⟩ | ⟨value, value', hc, hd⟩
    · rw [hc, hd]
    · simp [hc, hd]
  document := h.document
  table := h.table

/-- Texts that differ in their secrets meet the same fate. -/
theorem DifferInSecrets.parse {s t : String} (h : DifferInSecrets s t) :
    Except.Alike LooksLike (parse s) (parse t) := by
  have hveiled : List.Forall₂ Veiled (segments s) (segments t) := veiled_kept h
  by_cases hempty : segments s = []
  case pos =>
    rw [hempty, List.forall₂_nil_left_iff] at hveiled
    rw [parse_of_empty hempty, parse_of_empty hveiled]
    exact .error _
  case neg =>
    rcases grammatical_or_firstOffence (segments s) with hgrammatical | ⟨err, hoffence⟩
    · have hempty' : segments t ≠ [] := by
        intro hnil
        rw [hnil, List.forall₂_nil_right_iff] at hveiled
        exact hempty hveiled
      obtain ⟨c, hc, hholds⟩ := parse_of_grammatical hempty hgrammatical
      obtain ⟨d, hd, hholds'⟩ := parse_of_grammatical hempty' (hgrammatical.veiled hveiled)
      rw [hc, hd]
      exact .ok (sameButSecrets_of_veiled hholds hholds' hveiled).looksLike
    · rw [parse_of_firstOffence hoffence, parse_of_firstOffence (hoffence.veiled hveiled)]
      exact .error err

end ConnectionString

open ConnectionString in
/-- **Secrets show nowhere.** Take two texts that are the same, piece by piece,
but for the values of account keys and shared access signatures, whatever the
letters of those keys and however often they come; each such value is not
blank. Then both are refused with the same error, or both are read. In the
second case nothing that is shown tells them apart: not the diagnostic form of
the connection string, not that of either account, nor its endpoint or the name
of the account; and wherever one lacks a setting, so does the other, with the
same error. Equal errors have equal texts, also as errors of the store. A
configuration shows nothing of its connection string at all. -/
theorem secrets_show_nowhere :
    (∀ s t, DifferInSecrets s t → Except.Alike LooksLike (parse s) (parse t)) ∧
    ∀ (config : Config) (s t : String),
      Config.describe { config with connectionString := s } =
        Config.describe { config with connectionString := t } :=
  ⟨fun _ _ h => h.parse, fun _ _ _ => rfl⟩

open ConnectionString in
/-- A key in capitals, with blanks around, is changed for another one, and
nothing shows. -/
theorem secrets_show_nowhere_rotated :
    ∃ c d, parse "AccountEndpoint=https://x/; ACCOUNTKEY = YWJj==" = .ok c ∧
      parse "AccountEndpoint=https://x/; ACCOUNTKEY = ZGVm" = .ok d ∧
      c.get? "AccountKey" = some "YWJj==" ∧ d.get? "AccountKey" = some "ZGVm" ∧
      c.describe = d.describe := by
  obtain ⟨c, hc⟩ : ∃ c, parse "AccountEndpoint=https://x/; ACCOUNTKEY = YWJj==" = .ok c :=
    parse_ok_iff.mpr (by decide +kernel)
  obtain ⟨d, hd⟩ : ∃ d, parse "AccountEndpoint=https://x/; ACCOUNTKEY = ZGVm" = .ok d :=
    parse_ok_iff.mpr (by decide +kernel)
  have hdiffer : DifferInSecrets "AccountEndpoint=https://x/; ACCOUNTKEY = YWJj=="
      "AccountEndpoint=https://x/; ACCOUNTKEY = ZGVm" := by
    have hold : pieces "AccountEndpoint=https://x/; ACCOUNTKEY = YWJj==" =
        ["AccountEndpoint=https://x/".toList,
          " ACCOUNTKEY ".toList ++ '=' :: " YWJj==".toList] := by
      decide +kernel
    have hnew : pieces "AccountEndpoint=https://x/; ACCOUNTKEY = ZGVm" =
        ["AccountEndpoint=https://x/".toList, " ACCOUNTKEY ".toList ++ '=' :: " ZGVm".toList] := by
      decide +kernel
    rw [DifferInSecrets, hold, hnew]
    have hsecret : IsSecretName (lowered (String.ofList (trim " ACCOUNTKEY ".toList))) :=
      .inl (lowered_eq_lowered_iff.mpr (by decide +kernel))
    exact .cons (.same _)
      (.cons (.secret (by decide +kernel) hsecret (by decide +kernel) (by decide +kernel)) .nil)
  have halike := secrets_show_nowhere.1 _ _ hdiffer
  rw [hc, hd] at halike
  refine ⟨c, d, hc, hd, ?_, ?_, ?_⟩
  · exact (get?_eq_some_iff hc).mpr ⟨by decide, "ACCOUNTKEY = YWJj==".toList, by decide +kernel,
      lowered_eq_lowered_iff.mpr (by decide +kernel), by decide +kernel⟩
  · exact (get?_eq_some_iff hd).mpr ⟨by decide, "ACCOUNTKEY = ZGVm".toList, by decide +kernel,
      lowered_eq_lowered_iff.mpr (by decide +kernel), by decide +kernel⟩
  · cases halike with
    | ok h => exact h.shown

end LeaseStore
