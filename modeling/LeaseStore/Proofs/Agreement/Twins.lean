/-
LeaseStore.Proofs.Agreement.Twins — calls that do alike on either side.

A token is only ever handed on: no operation looks into one. So if a request
is made of one store, and its renamed self of another, the two calls take the
same actions up to the renaming, as long as the stores reply alike.
`Call.Twin` says so of two calls from here on. A renaming holds until a write
succeeds; then the two new tokens are paired, and the calls are twins under
the renaming that has grown.

* `Call.Twin.bind` — twins put together are twins.
* `Request.twin` — a request and its renamed self are twins, unless it is a
  bulk delete.
-/
import LeaseStore.Proofs.Agreement.Renaming
import LeaseStore.Proofs.Calls.Path

namespace LeaseStore

/-- An action in which no token takes part, so that both sides get the
same reply. -/
def Action.IsPlain : Action → Prop
  | .now | .delete _ | .deleteWave _ | .health | .count _ | .pause _ | .draw _ => True
  | _ => False

namespace Call

variable {α β γ δ : Type} {ρ ρ' : Renaming}

/-- From here on two calls take the same actions, up to the renaming, if they
are replied to alike, and end with related values. -/
inductive Twin (R : Renaming → α → β → Prop) : Renaming → Call α → Call β → Prop
  | done {ρ : Renaming} {a : α} {b : β} : R ρ a b → Twin R ρ (.done a) (.done b)
  | plain {ρ : Renaming} {a : Action} {next : a.Reply → Call α} {next' : a.Reply → Call β} :
      a.IsPlain → (∀ r, Twin R ρ (next r) (next' r)) → Twin R ρ (.act a next) (.act a next')
  | connect {ρ : Renaming} {next : Except StoreError Config → Call α}
      {next' : Except StoreError Config → Call β} :
      (∀ c c', Except.Alike (fun _ _ : Config => True) c c' →
        Twin R ρ (next c) (next' c')) → Twin R ρ (.act .connect next) (.act .connect next')
  | read {ρ : Renaming} {id : String} {next : Except BackendError Record → Call α}
      {next' : Except BackendError Record → Call β} :
      (∀ r r', Except.Alike (Record.Alike ρ) r r' → Twin R ρ (next r) (next' r')) →
        Twin R ρ (.act (.read id) next) (.act (.read id) next')
  | list {ρ : Renaming} {next : Except BackendError (List Record) → Call α}
      {next' : Except BackendError (List Record) → Call β} :
      (∀ rs rs', Except.Alike (List.Forall₂ (Record.Alike ρ)) rs rs' →
        Twin R ρ (next rs) (next' rs')) → Twin R ρ (.act .list next) (.act .list next')
  | create {ρ : Renaming} {r r' : Record} {next : Except BackendError Record → Call α}
      {next' : Except BackendError Record → Call β} : r.Alike ρ r' →
      (∀ ρ', ρ.Within ρ' → ∀ s s', Except.Alike (Record.Alike ρ') s s' →
        Twin R ρ' (next s) (next' s')) → Twin R ρ (.act (.create r) next) (.act (.create r') next')
  | upsert {ρ : Renaming} {r r' : Record} {token token' : String}
      {next : Except BackendError Record → Call α}
      {next' : Except BackendError Record → Call β} : r.Alike ρ r' → ρ.Links token token' →
      (∀ ρ', ρ.Within ρ' → ∀ s s', Except.Alike (Record.Alike ρ') s s' →
        Twin R ρ' (next s) (next' s')) →
      Twin R ρ (.act (.upsert r (.ofToken token)) next) (.act (.upsert r' (.ofToken token')) next')

variable {R : Renaming → α → β → Prop} {S : Renaming → γ → δ → Prop}

/-- Induction on the first pair of twins: the second goes on at each of its
ends, under the renaming that it has come to. -/
theorem Twin.bind {x : Call α} {y : Call β} {f : α → Call γ} {g : β → Call δ}
    (hx : Twin R ρ x y)
    (hf : ∀ ρ', ρ.Within ρ' → ∀ a b, R ρ' a b → Twin S ρ' (f a) (g b)) :
    Twin S ρ (x >>= f) (y >>= g) := by
  induction hx with
  | done hab => exact hf _ (.refl _) _ _ hab
  | plain hplain _ ih => exact .plain hplain fun r => ih r hf
  | connect _ ih => exact .connect fun c c' h => ih c c' h hf
  | read _ ih => exact .read fun r r' h => ih r r' h hf
  | list _ ih => exact .list fun rs rs' h => ih rs rs' h hf
  | create hr _ ih =>
    exact .create hr fun ρ' hle s s' h =>
      ih ρ' hle s s' h fun ρ'' hle' => hf ρ'' (hle.trans hle')
  | upsert hr htoken _ ih =>
    exact .upsert hr htoken fun ρ' hle s s' h =>
      ih ρ' hle s s' h fun ρ'' hle' => hf ρ'' (hle.trans hle')

/-- One action and what follows it. To state it apart keeps what follows
from being evaluated. -/
theorem Twin.perform {a : Action} {f : a.Reply → Call α} {g : a.Reply → Call β}
    (hplain : a.IsPlain) (h : ∀ r, Twin R ρ (f r) (g r)) :
    Twin R ρ (perform a >>= f) (perform a >>= g) :=
  .plain hplain h

end Call

namespace Operation

open Call

variable {ρ : Renaming}

/-! ## What is left out of the renaming -/

/-- Values that hold no token are related if they are the same. -/
abbrev Same {α : Type} : Renaming → α → α → Prop := fun _ a b => a = b

theorem twin_classify (id : String) (err : BackendError) :
    Twin Same ρ (classify id err) (classify id err) :=
  .plain trivial fun _ => .done rfl

theorem twin_purge (id : String) : Twin Same ρ (purge id) (purge id) := by
  refine .plain trivial fun _ => .plain trivial fun r => ?_
  match r with
  | .ok () => exact .plain trivial fun _ => .done rfl
  | .error .notFound => exact .done rfl
  | .error (.alreadyExists) | .error (.preconditionFailed) | .error (.failure ..) =>
    exact .plain trivial fun _ => .done rfl

theorem twin_purgeAll (ids : List String) : Twin Same ρ (purgeAll ids) (purgeAll ids) := by
  induction ids generalizing ρ with
  | nil => exact .done rfl
  | cons id ids ih => exact (twin_purge id).bind fun _ _ _ _ _ => ih

/-! ## Reading -/

/-- Records found, or the same error. -/
abbrev Found (ρ : Renaming) : Except StoreError Record → Except StoreError Record → Prop :=
  Except.Alike (Record.Alike ρ)

theorem twin_get (id : String) : Twin Found ρ (get id) (get id) := by
  refine .connect fun c c' hc => ?_
  cases hc with
  | error err => exact .done (.error err)
  | ok _ =>
    refine .plain trivial fun _ => .read fun r r' hr => ?_
    cases hr with
    | error err =>
      refine (twin_classify id err).bind fun ρ' _ err err' h => ?_
      subst h
      exact .done (.error err)
    | ok hv =>
      rename_i v v'
      obtain ⟨token, hlinks, rfl⟩ := hv
      refine .plain trivial fun t => ?_
      -- an expiration does not depend on the token
      show Twin _ _ (if v.isExpiredAt t then _ else _) (if v.isExpiredAt t then _ else _)
      split
      case isTrue =>
        refine (twin_purge id).bind fun ρ' _ _ _ _ => ?_
        exact .plain trivial fun _ => .done (.error _)
      case isFalse => exact .done (.ok ⟨token, hlinks, rfl⟩)

theorem twin_contains (id : String) : Twin Same ρ (contains id) (contains id) := by
  refine (twin_get id).bind fun ρ' _ r r' hr => ?_
  cases hr with
  | ok => exact .done rfl
  | error err => cases err <;> exact .done rfl

/-- What a test that looks at no token picks out of alike lists is alike. -/
theorem filter_alike {p : Record → Bool} (hp : ∀ r token, p { r with token } = p r)
    {rs rs' : List Record} (h : List.Forall₂ (Record.Alike ρ) rs rs') :
    List.Forall₂ (Record.Alike ρ) (rs.filter p) (rs'.filter p) := by
  induction h with
  | nil => exact .nil
  | @cons r r' _ _ hr _ ih =>
    obtain ⟨token, hlinks, rfl⟩ := hr
    cases hpick : p r with
    | true =>
      rw [List.filter_cons_of_pos hpick, List.filter_cons_of_pos ((hp r token).trans hpick)]
      exact .cons ⟨token, hlinks, rfl⟩ ih
    | false =>
      rw [List.filter_cons_of_neg (by simp [hpick]), List.filter_cons_of_neg (by simp [hp, hpick])]
      exact ih

theorem map_id_alike {rs rs' : List Record} (h : List.Forall₂ (Record.Alike ρ) rs rs') :
    rs.map (·.id) = rs'.map (·.id) := by
  induction h with
  | nil => rfl
  | cons hr _ ih =>
    obtain ⟨token, -, rfl⟩ := hr
    rw [List.map_cons, List.map_cons, ih]

theorem twin_getAll :
    Twin (fun ρ => Except.Alike (List.Forall₂ (Record.Alike ρ))) ρ getAll getAll := by
  refine .connect fun c c' hc => ?_
  cases hc with
  | error err => exact .done (.error err)
  | ok _ =>
    refine .plain trivial fun _ => .list fun rs rs' hrs => ?_
    cases hrs with
    | error err =>
      refine (twin_classify "*" err).bind fun ρ' _ err err' h => ?_
      subst h
      exact .done (.error err)
    | ok hall =>
      rename_i rs rs'
      refine .plain trivial fun t => ?_
      show Twin _ _
        (purgeAll ((rs.partition (·.isExpiredAt t)).1.map (·.id)) >>= fun _ =>
          done (Except.ok (rs.partition (·.isExpiredAt t)).2))
        (purgeAll ((rs'.partition (·.isExpiredAt t)).1.map (·.id)) >>= fun _ =>
          done (Except.ok (rs'.partition (·.isExpiredAt t)).2))
      have hexpired := filter_alike (p := (·.isExpiredAt t)) (fun _ _ => rfl) hall
      have hlive := filter_alike (p := not ∘ (·.isExpiredAt t)) (fun _ _ => rfl) hall
      rw [List.partition_eq_filter_filter, List.partition_eq_filter_filter, map_id_alike hexpired]
      refine (twin_purgeAll _).bind fun ρ' hle _ _ _ => .done (.ok ?_)
      exact hlive.imp fun _ _ h => h.within hle

theorem twin_healthCheck : Twin Same ρ healthCheck healthCheck := by
  refine .connect fun c c' hc => ?_
  cases hc with
  | error err => exact .done rfl
  | ok _ =>
    refine .plain trivial fun r => ?_
    match r with
    | .ok () | .error (.failure ..) | .error .notFound | .error .alreadyExists
    | .error .preconditionFailed => exact .done rfl

/-! ## Writing -/

theorem twin_create {r r' : Record} (h : r.Alike ρ r') : Twin Found ρ (create r) (create r') := by
  obtain ⟨token, hlinks, rfl⟩ := h
  refine .connect fun c c' hc => ?_
  cases hc with
  | error err => exact .done (.error err)
  | ok _ =>
    refine .plain trivial fun t => .create ⟨token, hlinks, rfl⟩ fun ρ' _ s s' hs => ?_
    cases hs with
    | error err =>
      refine (twin_classify r.id err).bind fun ρ'' _ err err' h => ?_
      subst h
      exact .done (.error err)
    | ok hstored => exact .plain trivial fun _ => .done (.ok hstored)

theorem twin_write {r r' : Record} {token token' : String} (h : r.Alike ρ r')
    (htoken : ρ.Links token token') :
    Twin Found ρ (write r (.ofToken token)) (write r' (.ofToken token')) := by
  obtain ⟨own, hlinks, rfl⟩ := h
  refine .connect fun c c' hc => ?_
  cases hc with
  | error err => exact .done (.error err)
  | ok _ =>
    refine .plain trivial fun t => .upsert ⟨own, hlinks, rfl⟩ htoken fun ρ' _ s s' hs => ?_
    cases hs with
    | error err =>
      refine (twin_classify r.id err).bind fun ρ'' _ err err' h => ?_
      subst h
      exact .done (.error err)
    | ok hstored => exact .plain trivial fun _ => .done (.ok hstored)

theorem twin_upsert {r r' : Record} (h : r.Alike ρ r') : Twin Found ρ (upsert r) (upsert r') := by
  obtain ⟨token, hlinks, rfl⟩ := h
  exact twin_write ⟨token, hlinks, rfl⟩ hlinks

/-! ## Deleting -/

theorem twin_deleted (id : String) (r : Except BackendError Unit) :
    Twin Same ρ (deleted id r) (deleted id r) := by
  match r with
  | .ok () | .error .notFound => exact .done rfl
  | .error (.alreadyExists) | .error (.preconditionFailed) | .error (.failure ..) =>
    exact .plain trivial fun _ => .done rfl

theorem twin_delete (id : String) : Twin Same ρ (delete id) (delete id) := by
  refine .connect fun c c' hc => ?_
  cases hc with
  | error err => exact .done rfl
  | ok _ => exact .plain trivial fun _ => .plain trivial fun r => twin_deleted id r

/-! ## Locking -/

theorem twin_readForLock (id : String) :
    Twin (fun ρ => Except.Alike (Option.Rel (Record.Alike ρ))) ρ (readForLock id)
      (readForLock id) := by
  refine (twin_get id).bind fun ρ' _ r r' hr => ?_
  cases hr with
  | ok hv => exact .done (.ok (.some hv))
  | error err =>
    cases err with
    | notFound | uninitialized | unknownBackend | config => exact .done (.error _)
    | conflict | lockedByOther | external => exact .done (.ok .none)

theorem twin_writeBack {r r' : Record} (h : r.Alike ρ r') :
    Twin Same ρ (writeBack r) (writeBack r') := by
  obtain ⟨token, hlinks, rfl⟩ := h
  refine .upsert ⟨token, hlinks, rfl⟩ hlinks fun ρ' _ s s' hs => ?_
  cases hs with
  | ok => exact .plain trivial fun _ => .done rfl
  | error err => exact (twin_classify r.id err).bind fun _ _ _ _ _ => .done rfl

theorem twin_tryToLock (id : String) (owner : Owner) (seconds : Nat) :
    Twin Same ρ (tryToLock id owner seconds) (tryToLock id owner seconds) := by
  refine (twin_readForLock id).bind fun ρ' _ r r' hr => ?_
  cases hr with
  | error err => exact .done rfl
  | ok hv =>
    cases hv with
    | none => exact .plain trivial fun _ => .done rfl
    | some hv =>
      rename_i v v'
      obtain ⟨token, hlinks, rfl⟩ := hv
      refine .plain trivial fun t => ?_
      show Twin _ _ (if v.isLockedByOthersAt owner t then _ else _)
        (if v.isLockedByOthersAt owner t then _ else _)
      split
      case isTrue => exact .plain trivial fun _ => .done rfl
      case isFalse =>
        have hlocked : Record.Alike ρ' ((v.touchAt t).lockAt owner seconds t)
            ((Record.touchAt { v with token } t).lockAt owner seconds t) := ⟨token, hlinks, rfl⟩
        refine (twin_writeBack hlocked).bind fun ρ'' _ ok ok' h => ?_
        subst h
        cases ok with
        | true => exact .plain trivial fun _ => .done rfl
        | false => exact .plain trivial fun _ => .done rfl

/-- A lock is ended alike on alike records. -/
theorem unlockAt_alike {r r' : Record} (h : r.Alike ρ r') (owner : Owner) (t : Instant) :
    Except.Alike (Record.Alike ρ) (r.unlockAt owner t) (r'.unlockAt owner t) := by
  obtain ⟨token, hlinks, rfl⟩ := h
  show Except.Alike _
    (if !r.isLockedAt t then _ else if r.canUnlockAt owner t then _ else _)
    (if !r.isLockedAt t then _ else if r.canUnlockAt owner t then _ else _)
  split
  case isTrue => exact .ok ⟨token, hlinks, rfl⟩
  case isFalse =>
    split
    case isTrue => exact .ok ⟨token, hlinks, rfl⟩
    case isFalse => exact .error _

theorem twin_release {r r' : Record} (h : r.Alike ρ r') (owner : Owner) (t : Instant) :
    Twin Same ρ (release r owner t) (release r' owner t) := by
  have htouched : (r.touchAt t).Alike ρ (r'.touchAt t) := by
    obtain ⟨token, hlinks, rfl⟩ := h
    exact ⟨token, hlinks, rfl⟩
  have hends := unlockAt_alike htouched owner t
  unfold release
  generalize (r.touchAt t).unlockAt owner t = ended at hends ⊢
  generalize (r'.touchAt t).unlockAt owner t = ended' at hends ⊢
  cases hends with
  | error err => exact .plain trivial fun _ => .done rfl
  | ok hreleased =>
    refine (twin_writeBack hreleased).bind fun ρ' _ ok ok' h => ?_
    subst h
    cases ok with
    | true => exact .plain trivial fun _ => .done rfl
    | false => exact .plain trivial fun _ => .done rfl

theorem twin_tryToUnlock (id : String) (owner : Owner) :
    Twin Same ρ (tryToUnlock id owner) (tryToUnlock id owner) := by
  refine (twin_readForLock id).bind fun ρ' _ r r' hr => ?_
  cases hr with
  | error err => exact .done rfl
  | ok hv =>
    cases hv with
    | none => exact .plain trivial fun _ => .done rfl
    | @some v v' hv =>
      refine .plain trivial fun t => ?_
      have hlocked : v'.isLockedAt t = v.isLockedAt t := by
        obtain ⟨token, -, rfl⟩ := hv
        rfl
      show Twin _ _ (if !v.isLockedAt t then _ else _) (if !v'.isLockedAt t then _ else _)
      rw [hlocked]
      split
      case isTrue => exact .plain trivial fun _ => .done rfl
      case isFalse => exact twin_release hv owner t

theorem twin_pauseThen {policy : RetryPolicy} {n : Nat}
    {rest : Call (Option (Except StoreError Bool))} (hrest : Twin Same ρ rest rest) :
    Twin Same ρ (pauseThen policy n rest) (pauseThen policy n rest) := by
  unfold pauseThen
  refine Twin.perform (a := .draw _) trivial fun jitter => ?_
  cases policy.delay? n jitter with
  | none => exact .done rfl
  | some d => exact Twin.perform (a := .pause d) trivial fun _ => hrest

/-- Induction on the attempts left. -/
theorem twin_retryFrom {policy : RetryPolicy} {attempt : Call (Except StoreError Bool)}
    (hattempt : ∀ ρ, Twin Same ρ attempt attempt) (left n : Nat) :
    Twin Same ρ (retryFrom policy attempt left n) (retryFrom policy attempt left n) := by
  induction left generalizing n ρ with
  | zero => exact .done rfl
  | succ left ih =>
    unfold retryFrom
    refine (hattempt ρ).bind fun ρ' _ res res' h => ?_
    subst h
    rcases res with err | _ | _
    · exact .done rfl
    · dsimp only
      split
      case isTrue => exact .done rfl
      case isFalse => exact twin_pauseThen (ih (n + 1))
    · exact .done rfl

end Operation

/-! ## Requests -/

namespace Call

variable {α β : Type} {ρ : Renaming} {R : Renaming → α → β → Prop}

/-- What twins answer, wrapped. -/
theorem Twin.wrap {x : Call α} {y : Call β} (h : Twin R ρ x y) {f : α → Answer}
    {g : β → Answer} (hfg : ∀ ρ a b, R ρ a b → (f a).Alike ρ (g b)) :
    Twin Answer.Alike ρ (x >>= fun a => .done (f a)) (y >>= fun b => .done (g b)) :=
  h.bind fun ρ' _ a b hab => .done (hfg ρ' a b hab)

theorem Twin.wrap_same {x : Call α} (h : Twin Operation.Same ρ x x) {f : α → Answer}
    (hf : ∀ ρ a, (f a).Alike ρ (f a)) :
    Twin Answer.Alike ρ (x >>= fun a => .done (f a)) (x >>= fun a => .done (f a)) := by
  refine h.wrap fun ρ' a b hab => ?_
  subst hab
  exact hf ρ' a

end Call

open Call Operation in
/-- **A request and its renamed self are twins**, if the renaming links the
tokens that the caller supplies. Only a bulk delete is none, since each
engine goes about it in waves of its own. -/
theorem Request.twin {ρ : Renaming} {f : String → String} (q : Request)
    (hbulk : ∀ ids, q ≠ .deleteMany ids) (h : ∀ t ∈ q.tokens, ρ.Links t (f t)) :
    Twin Answer.Alike ρ q.call (q.rename f).call := by
  cases q with
  | get id => exact (twin_get id).wrap fun _ _ _ h => .record h
  | contains id => exact (twin_contains id).wrap_same fun _ => .truth
  | getAll => exact twin_getAll.wrap fun _ _ _ h => .records h
  | create r =>
    have hr : r.Alike ρ (r.rename f) := Record.alike_rename (h r.token (by simp [tokens]))
    exact (twin_create hr).wrap fun _ _ _ h => .record h
  | upsert r =>
    have hr : r.Alike ρ (r.rename f) := Record.alike_rename (h r.token (by simp [tokens]))
    exact (twin_upsert hr).wrap fun _ _ _ h => .record h
  | upsertWithToken r token =>
    have hr : r.Alike ρ (r.rename f) := Record.alike_rename (h r.token (by simp [tokens]))
    exact (twin_write hr (h token (by simp [tokens]))).wrap fun _ _ _ h => .record h
  | delete id => exact (twin_delete id).wrap_same fun _ => .unit
  | deleteMany ids => exact absurd rfl (hbulk ids)
  | tryToLock id owner seconds =>
    exact (twin_tryToLock id owner seconds).wrap_same fun _ => .truth
  | tryToUnlock id owner => exact (twin_tryToUnlock id owner).wrap_same fun _ => .truth
  | lockWithRetry id owner seconds policy =>
    have htwin : Twin Same ρ (Operation.lockWithRetry id owner seconds policy)
        (Operation.lockWithRetry id owner seconds policy) :=
      twin_retryFrom (fun _ => twin_tryToLock id owner seconds) policy.attempts 0
    exact htwin.wrap_same fun _ => .retried
  | healthCheck => exact twin_healthCheck.wrap_same fun _ => .unit

end LeaseStore
