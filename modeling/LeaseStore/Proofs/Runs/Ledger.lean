/-
LeaseStore.Proofs.Runs.Ledger — what each call counts.

An engine keeps its counts by the way, in its calls. Here the counts that the
calls owe are told apart (`Account`): what is owed for the contacts with the
backend, for the point reads that were shown an expired record, and for the
attempts to lock and unlock as they ended (`Verdict`). A list of exchanges is
balanced if it books what it owes, in every account.

* `Request.balanced` — every path of every request is balanced, whatever the
  connector, the backend, the clock and chance reply.
-/
import LeaseStore.Proofs.Calls.Request
import LeaseStore.Proofs.Runs.Contacts

namespace LeaseStore

/-! ## What holds of all paths of a call -/

/-- A reply that can be: a wave of deletes is replied to one by one. -/
def Exchange.Sane : Exchange → Prop
  | ⟨.deleteWave ids, rs⟩ => rs.length = ids.length
  | _ => True

namespace Call

variable {α β : Type} {P Q : List Exchange → α → Prop}

/-- Whatever a call is replied to, `P` holds of what it does and how it ends. -/
def Yields : Call α → (List Exchange → α → Prop) → Prop
  | done a, P => P [] a
  | act a next, P => ∀ r, Exchange.Sane ⟨a, r⟩ → (next r).Yields fun xs b => P (⟨a, r⟩ :: xs) b

/-- Induction on the call. -/
theorem Yields.mono {x : Call α} (h : x.Yields P) (hmono : ∀ xs a, P xs a → Q xs a) :
    x.Yields Q := by
  induction x generalizing P Q with
  | done a => exact hmono [] a h
  | act a next ih => exact fun r hr => ih r (h r hr) fun xs b hP => hmono _ b hP

/-- Induction on the first call: the second goes on at each of its ends. -/
theorem yields_bind {x : Call α} {f : α → Call β} {R : List Exchange → β → Prop}
    (hx : x.Yields P) (hf : ∀ xs a, P xs a → (f a).Yields fun ys b => R (xs ++ ys) b) :
    (x >>= f).Yields R := by
  induction x generalizing P R with
  | done a => exact hf [] a hx
  | act a next ih => exact fun r hr => ih r (hx r hr) fun xs a' hP => hf _ a' hP

/-- One action and what follows it. To state it apart keeps what follows from
being evaluated. -/
theorem yields_perform {a : Action} {f : a.Reply → Call β} {R : List Exchange → β → Prop}
    (hf : ∀ r, Exchange.Sane ⟨a, r⟩ → (f r).Yields fun ys b => R (⟨a, r⟩ :: ys) b) :
    (perform a >>= f).Yields R := hf

end Call

/-! ## Accounts -/

/-- How an attempt to lock or to unlock a record has ended. -/
inductive Verdict where
  | lock (r : Except StoreError Bool)
  | unlock (r : Except StoreError Bool)

namespace Verdict

/-- An attempt to lock a record that has succeeded, or one that was lost. -/
def isLock (success : Bool) : Verdict → Bool
  | lock (.ok b) => b == success
  | _ => false

/-- An attempt to unlock a record that has succeeded, or one that was lost. -/
def isUnlock (success : Bool) : Verdict → Bool
  | unlock (.ok b) => b == success
  | _ => false

end Verdict

namespace Contact

/-- The operation, however it ended. -/
def asks (op : BackendOp) : Contact → Bool
  | asked o _ => o = op
  | opened _ _ => false

/-- The operation, if it has succeeded. -/
def succeeds (op : BackendOp) : Contact → Bool
  | asked o failure => o = op && failure.isNone
  | opened _ _ => false

/-- The operation, if it has failed. -/
def fails (op : BackendOp) : Contact → Bool
  | asked o failure => o = op && failure.isSome
  | opened _ _ => false

/-- A read, a listing or a write that has failed. -/
def isRefusal (x : Contact) : Bool :=
  x.fails .read || x.fails .list || x.fails .create || x.fails .upsert

/-- A delete that has failed, and not for want of a record. -/
def failsToDelete : Contact → Bool
  | asked .delete (some e) => e ≠ .notFound
  | _ => false

end Contact

/-- What is counted, and what for. -/
inductive Account where
  | gets
  | scans
  | deletes
  | creates
  | upserts
  | locksAcquired
  | locksLost
  | unlocks
  | unlocksRefused
  | purged
  | cleanupFailures
  | errors

namespace Account

/-- The counters of an account. -/
def counters : Account → List Counter
  | gets => [.get]
  | scans => [.scan]
  | deletes => [.delete]
  | creates => [.create]
  | upserts => [.upsert]
  | locksAcquired => [.lockAcquired]
  | locksLost => [.lockContended, .lockFailed]
  | unlocks => [.unlock]
  | unlocksRefused => [.unlockRefused]
  | purged => [.expiredPurged]
  | cleanupFailures => [.cleanupFailure]
  | errors => [.notFound, .conflict, .backendError]

/-- The contacts that an account is owed for, in a call that deletes at its
caller's request (`direct`) or to clean up. -/
def charges (direct : Bool) : Account → Contact → Bool
  | gets, x => x.asks .read
  | scans, x => x.asks .list
  | deletes, x => x.asks .delete
  | creates, x => x.succeeds .create
  | upserts, x => x.succeeds .upsert
  | purged, x => x.succeeds .delete && !direct
  | cleanupFailures, x => x.failsToDelete && !direct
  | errors, x => x.isRefusal || x.failsToDelete && direct
  | locksAcquired, _ | locksLost, _ | unlocks, _ | unlocksRefused, _ => false

/-- The verdicts that an account is owed for. -/
def credits : Account → Verdict → Bool
  | locksAcquired, v => v.isLock true
  | locksLost, v => v.isLock false
  | unlocks, v => v.isUnlock true
  | unlocksRefused, v => v.isUnlock false
  | _, _ => false

/-- The exchange counts for this account. -/
def books (a : Account) : Exchange → Bool
  | ⟨.count n, _⟩ => a.counters.contains n
  | _ => false

end Account

/-- A point read was shown a record that is expired by the reading of the clock
that follows. -/
def Exchange.stale (x : Exchange) (rest : List Exchange) : Bool :=
  match x, rest with
  | ⟨.read _, .ok r⟩, ⟨.now, t⟩ :: _ => r.isExpiredAt t
  | _, _ => false

/-- The number of point reads that were shown an expired record. -/
def staleReads : List Exchange → Nat
  | [] => 0
  | x :: rest => (x.stale rest).toNat + staleReads rest

/-- The counts for an account. -/
def Account.booked (a : Account) (xs : List Exchange) : Nat := xs.countP a.books

/-- The stale reads that an account is owed for. -/
def Account.stale : Account → List Exchange → Nat
  | errors, xs => staleReads xs
  | _, _ => 0

/-- The counts that an account is owed. -/
def Account.owed (direct : Bool) (a : Account) (xs : List Exchange) (vs : List Verdict) : Nat :=
  (xs.flatMap Exchange.contacts).countP (a.charges direct) + vs.countP a.credits + a.stale xs

/-- What follows these exchanges does not tell that one of them was stale. -/
def Apart (xs : List Exchange) : Prop :=
  ∀ ys, staleReads (xs ++ ys) = staleReads xs + staleReads ys

/-- The exchanges book what they owe. -/
structure Balanced (direct : Bool) (xs : List Exchange) (vs : List Verdict) : Prop where
  apart : Apart xs
  even : ∀ a : Account, a.booked xs = a.owed direct xs vs

variable {direct : Bool} {xs ys zs : List Exchange} {vs ws : List Verdict} {x : Exchange}

theorem Apart.append (hx : Apart xs) (hy : Apart ys) : Apart (xs ++ ys) := by
  intro zs
  rw [List.append_assoc, hx, hy, hx, Nat.add_assoc]

namespace Account

variable {a : Account}

theorem booked_append (xs ys : List Exchange) :
    a.booked (xs ++ ys) = a.booked xs + a.booked ys := List.countP_append

theorem owed_append (hx : Apart xs) (ys : List Exchange) (vs ws : List Verdict) :
    a.owed direct (xs ++ ys) (vs ++ ws) = a.owed direct xs vs + a.owed direct ys ws := by
  have hstale : a.stale (xs ++ ys) = a.stale xs + a.stale ys := by
    cases a with
    | errors => exact hx ys
    | _ => rfl
  simp only [owed, List.flatMap_append, List.countP_append, hstale]
  omega

end Account

namespace Balanced

theorem nil : Balanced direct [] [] where
  apart _ := (Nat.zero_add _).symm
  even a := by cases a <;> rfl

theorem append (hx : Balanced direct xs vs) (hy : Balanced direct ys ws) :
    Balanced direct (xs ++ ys) (vs ++ ws) where
  apart := hx.apart.append hy.apart
  even a := by rw [Account.booked_append, Account.owed_append hx.apart, hx.even, hy.even]

/-- What is owed before balanced exchanges may be booked after them. -/
theorem around (hy : Balanced direct ys vs) (hx : Apart xs) (hz : Apart zs)
    (h : ∀ a : Account, a.booked xs + a.booked zs = a.owed direct xs [] + a.owed direct zs ws) :
    Balanced direct (xs ++ (ys ++ zs)) (vs ++ ws) where
  apart := hx.append (hy.apart.append hz)
  even a := by
    have heven := hy.even a
    have hall := h a
    have howed : a.owed direct (xs ++ (ys ++ zs)) ([] ++ (vs ++ ws)) = _ :=
      Account.owed_append hx (ys ++ zs) [] (vs ++ ws)
    rw [List.nil_append] at howed
    rw [Account.booked_append, Account.booked_append, howed, Account.owed_append hy.apart]
    omega

end Balanced

/-! ## Entries -/

/-- Nothing is counted for the exchange, and nothing is owed. -/
def Exchange.Idle : Exchange → Prop
  | ⟨.connect, _⟩ | ⟨.now, _⟩ | ⟨.pause _, _⟩ | ⟨.draw _, _⟩ | ⟨.health, _⟩ => True
  | _ => False

/-- The counter is one of those for errors. -/
def Counter.IsError (n : Counter) : Prop := n = .notFound ∨ n = .conflict ∨ n = .backendError

theorem Operation.isError_counterOf (err : StoreError) : (counterOf err).IsError := by
  cases err with
  | notFound => exact .inl rfl
  | conflict => exact .inr (.inl rfl)
  | lockedByOther | uninitialized | unknownBackend | config | external => exact .inr (.inr rfl)

theorem Apart.nil : Apart [] := fun _ => (Nat.zero_add _).symm

/-- Only a read can be stale. -/
theorem Apart.cons (h : ∀ rest, x.stale rest = false) (hxs : Apart xs) : Apart (x :: xs) := by
  intro ys
  rw [List.cons_append, staleReads, staleReads, h, h, hxs, Nat.add_assoc]

/-- Whether a read was stale is told by the next reading of the clock. -/
theorem Apart.timed {t : Instant} (hxs : Apart xs) : Apart (x :: ⟨.now, t⟩ :: xs) := by
  intro ys
  have hstale : x.stale (⟨.now, t⟩ :: (xs ++ ys)) = x.stale (⟨.now, t⟩ :: xs) := by
    obtain ⟨a, r⟩ := x
    cases a <;> first | rfl | (cases r <;> rfl)
  have htail : Apart (⟨.now, t⟩ :: xs) := hxs.cons fun _ => rfl
  show (x.stale (⟨.now, t⟩ :: (xs ++ ys))).toNat + staleReads ((⟨.now, t⟩ :: xs) ++ ys) = _
  rw [hstale, htail, ← Nat.add_assoc]
  rfl

theorem Exchange.Idle.balanced (h : x.Idle) : Balanced direct [x] [] := by
  obtain ⟨a, r⟩ := x
  cases a with
  | connect | now | pause | draw | health =>
    exact ⟨.cons (fun _ => rfl) .nil, fun a => by cases a <;> rfl⟩
  | read | list | create | upsert | delete | deleteWave | count => exact h.elim

namespace Balanced

theorem idle (h : x.Idle) (hxs : Balanced direct xs vs) : Balanced direct (x :: xs) vs :=
  h.balanced.append hxs

/-- A verdict is counted as it is given. -/
theorem verdict {n : Counter} {v : Verdict}
    (h : ∀ a : Account, a.counters.contains n = a.credits v) :
    Balanced direct [⟨.count n, ()⟩] [v] where
  apart := .cons (fun _ => rfl) .nil
  even a := by
    have hbooked : a.booked [⟨.count n, ()⟩] = [v].countP a.credits := by
      simp only [Account.booked, Account.books, List.countP_singleton, h]
    rw [hbooked]
    cases a <;> exact (Nat.zero_add _).symm

/-- An attempt that ends with an error is not counted. -/
theorem aborted {v : Verdict} (h : ∀ a : Account, a.credits v = false) :
    Balanced direct [] [v] where
  apart := .nil
  even a := by
    have howed : [v].countP a.credits = 0 := by simp only [List.countP_singleton, h]; rfl
    cases a <;> exact (congrArg (0 + ·) howed).symm

section Chunks

variable {id : String} {e : BackendError} {rs : List Record} {r v : Record} {w : WriteCondition}
  {t : Instant} {n : Counter}

theorem failedRead (hn : n.IsError) :
    Balanced direct [⟨.count .get, ()⟩, ⟨.read id, .error e⟩, ⟨.count n, ()⟩] [] where
  apart := .cons (fun _ => rfl) (.cons (fun _ => rfl) (.cons (fun _ => rfl) .nil))
  even a := by obtain rfl | rfl | rfl := hn <;> cases a <;> rfl

theorem read (hlive : v.isExpiredAt t = false) :
    Balanced direct [⟨.count .get, ()⟩, ⟨.read id, .ok v⟩, ⟨.now, t⟩] [] where
  apart := .cons (fun _ => rfl) (.timed .nil)
  even a := by
    have hstale : staleReads [⟨.count .get, ()⟩, ⟨.read id, .ok v⟩, ⟨.now, t⟩] = 0 := by
      simp only [staleReads, Exchange.stale, hlive, Bool.toNat_false]
    cases a with
    | errors => exact hstale.symm.trans (Nat.zero_add _).symm
    | _ => rfl

/-- A stale read is counted once it has been cleaned up after. -/
theorem staleRead (hstale : v.isExpiredAt t = true) (hxs : Balanced direct xs []) :
    Balanced direct ([⟨.count .get, ()⟩, ⟨.read id, .ok v⟩, ⟨.now, t⟩] ++
      (xs ++ [⟨.count .notFound, ()⟩])) [] := by
  refine hxs.around (.cons (fun _ => rfl) (.timed .nil)) (.cons (fun _ => rfl) .nil) fun a => ?_
  have hone : staleReads [⟨.count .get, ()⟩, ⟨.read id, .ok v⟩, ⟨.now, t⟩] = 1 := by
    simp only [staleReads, Exchange.stale, hstale, Bool.toNat_false, Bool.toNat_true]
  cases a with
  | errors => exact hone.symm.trans (Nat.zero_add _).symm
  | _ => rfl

theorem failedList (hn : n.IsError) :
    Balanced direct [⟨.count .scan, ()⟩, ⟨.list, .error e⟩, ⟨.count n, ()⟩] [] where
  apart := .cons (fun _ => rfl) (.cons (fun _ => rfl) (.cons (fun _ => rfl) .nil))
  even a := by obtain rfl | rfl | rfl := hn <;> cases a <;> rfl

theorem list : Balanced direct [⟨.count .scan, ()⟩, ⟨.list, .ok rs⟩, ⟨.now, t⟩] [] where
  apart := .cons (fun _ => rfl) (.cons (fun _ => rfl) (.cons (fun _ => rfl) .nil))
  even a := by cases a <;> rfl

theorem failedCreate (hn : n.IsError) :
    Balanced direct [⟨.create r, .error e⟩, ⟨.count n, ()⟩] [] where
  apart := .cons (fun _ => rfl) (.cons (fun _ => rfl) .nil)
  even a := by obtain rfl | rfl | rfl := hn <;> cases a <;> rfl

theorem create : Balanced direct [⟨.create r, .ok v⟩, ⟨.count .create, ()⟩] [] where
  apart := .cons (fun _ => rfl) (.cons (fun _ => rfl) .nil)
  even a := by cases a <;> rfl

theorem failedUpsert (hn : n.IsError) :
    Balanced direct [⟨.upsert r w, .error e⟩, ⟨.count n, ()⟩] [] where
  apart := .cons (fun _ => rfl) (.cons (fun _ => rfl) .nil)
  even a := by obtain rfl | rfl | rfl := hn <;> cases a <;> rfl

theorem upsert : Balanced direct [⟨.upsert r w, .ok v⟩, ⟨.count .upsert, ()⟩] [] where
  apart := .cons (fun _ => rfl) (.cons (fun _ => rfl) .nil)
  even a := by cases a <;> rfl

end Chunks

end Balanced

namespace Operation

open Call

/-! ## Reading -/

/-- A cleanup. -/
theorem yields_purge (id : String) : (purge id).Yields fun xs _ => Balanced false xs [] := by
  intro _ _ r _
  have hapart {more : List Exchange} (h : Apart more) :
      Apart (⟨.count .delete, ()⟩ :: ⟨.delete id, r⟩ :: more) :=
    .cons (fun _ => rfl) (.cons (fun _ => rfl) h)
  match r with
  | .ok () => exact fun _ _ => ⟨hapart (.cons (fun _ => rfl) .nil), fun a => by cases a <;> rfl⟩
  | .error .notFound => exact ⟨hapart .nil, fun a => by cases a <;> rfl⟩
  | .error .alreadyExists | .error .preconditionFailed | .error (.failure ..) =>
    exact fun _ _ => ⟨hapart (.cons (fun _ => rfl) .nil), fun a => by cases a <;> rfl⟩

/-- Induction on the ids. -/
theorem yields_purgeAll (ids : List String) :
    (purgeAll ids).Yields fun xs _ => Balanced false xs [] := by
  induction ids with
  | nil => exact .nil
  | cons id ids ih =>
    exact yields_bind (yields_purge id) fun xs _ hxs => ih.mono fun ys _ hys => hxs.append hys

theorem yields_get (id : String) : (get id).Yields fun xs _ => Balanced false xs [] := by
  intro c _
  match c with
  | .error err => exact .idle trivial .nil
  | .ok config =>
    intro _ _ r _
    match r with
    | .error e => exact fun _ _ => .idle trivial (.failedRead (isError_counterOf _))
    | .ok v =>
      intro t _
      show Yields (if v.isExpiredAt t then _ else _) _
      split
      case isTrue hstale =>
        exact yields_bind (yields_purge id) fun xs _ hxs => fun _ _ =>
          .idle trivial (.staleRead hstale hxs)
      case isFalse hlive => exact .idle trivial (.read (Bool.not_eq_true _ ▸ hlive))

/-- A call that only passes on what another ends with. -/
theorem yields_pass {α β : Type} {x : Call α} {f : α → Call β} {P : List Exchange → α → Prop}
    {Q : List Exchange → β → Prop} (hx : x.Yields P)
    (hf : ∀ xs a, P xs a → ∃ b, f a = done b ∧ Q xs b) : (x >>= f).Yields Q := by
  refine yields_bind hx fun xs a hP => ?_
  obtain ⟨b, hb, hQ⟩ := hf xs a hP
  rw [hb]
  show Q (xs ++ []) b
  rwa [List.append_nil]

theorem yields_contains (id : String) :
    (contains id).Yields fun xs _ => Balanced false xs [] := by
  refine yields_pass (yields_get id) ?_
  rintro xs (err | v) hxs
  · cases err <;> exact ⟨_, rfl, hxs⟩
  · exact ⟨_, rfl, hxs⟩

theorem yields_getAll : getAll.Yields fun xs _ => Balanced false xs [] := by
  intro c _
  match c with
  | .error err => exact .idle trivial .nil
  | .ok config =>
    intro _ _ r _
    match r with
    | .error e => exact fun _ _ => .idle trivial (.failedList (isError_counterOf _))
    | .ok rs =>
      intro t _
      show Yields (purgeAll ((rs.partition (·.isExpiredAt t)).1.map (·.id)) >>= fun _ => done _) _
      exact yields_pass (yields_purgeAll _) fun xs _ hxs =>
        ⟨_, rfl, .idle trivial (Balanced.list.append hxs)⟩

/-! ## Writing -/

theorem yields_create (r : Record) : (create r).Yields fun xs _ => Balanced false xs [] := by
  intro c _
  match c with
  | .error err => exact .idle trivial .nil
  | .ok config =>
    intro t _ reply _
    match reply with
    | .error e =>
      exact fun _ _ => .idle trivial (.idle trivial (.failedCreate (isError_counterOf _)))
    | .ok v => exact fun _ _ => .idle trivial (.idle trivial .create)

theorem yields_write (r : Record) (w : WriteCondition) :
    (write r w).Yields fun xs _ => Balanced false xs [] := by
  intro c _
  match c with
  | .error err => exact .idle trivial .nil
  | .ok config =>
    intro t _ reply _
    match reply with
    | .error e =>
      exact fun _ _ => .idle trivial (.idle trivial (.failedUpsert (isError_counterOf _)))
    | .ok v => exact fun _ _ => .idle trivial (.idle trivial .upsert)

theorem yields_delete (id : String) : (delete id).Yields fun xs _ => Balanced true xs [] := by
  intro c _
  match c with
  | .error err => exact .idle trivial .nil
  | .ok config =>
    intro _ _ r _
    have hapart {more : List Exchange} (h : Apart more) :
        Apart (⟨.count .delete, ()⟩ :: ⟨.delete id, r⟩ :: more) :=
      .cons (fun _ => rfl) (.cons (fun _ => rfl) h)
    match r with
    | .ok () | .error .notFound =>
      exact .idle trivial ⟨hapart .nil, fun a => by cases a <;> rfl⟩
    | .error .alreadyExists | .error .preconditionFailed | .error (.failure ..) =>
      refine fun _ _ => .idle trivial ⟨hapart (.cons (fun _ => rfl) .nil), fun a => ?_⟩
      cases a <;> rfl

theorem yields_healthCheck : healthCheck.Yields fun xs _ => Balanced direct xs [] := by
  intro c _
  match c with
  | .error err => exact .idle trivial .nil
  | .ok config =>
    intro r _
    match r with
    | .ok () | .error .notFound | .error .alreadyExists | .error .preconditionFailed
    | .error (.failure ..) => exact .idle trivial (.idle trivial .nil)

/-! ## Locking -/

theorem yields_readForLock (id : String) :
    (readForLock id).Yields fun xs _ => Balanced false xs [] := by
  refine yields_pass (yields_get id) ?_
  rintro xs (err | v) hxs
  · cases err <;> exact ⟨_, rfl, hxs⟩
  · exact ⟨_, rfl, hxs⟩

theorem yields_writeBack (r : Record) :
    (writeBack r).Yields fun xs _ => Balanced false xs [] := by
  intro reply _
  match reply with
  | .ok v => exact fun _ _ => .upsert
  | .error e => exact fun _ _ => .failedUpsert (isError_counterOf _)

/-- A write back, and the verdict on it. -/
theorem yields_judged {r : Record} {won lost : Counter} {verdict : Except StoreError Bool → Verdict}
    (hwon : ∀ a : Account, a.counters.contains won = a.credits (verdict (.ok true)))
    (hlost : ∀ a : Account, a.counters.contains lost = a.credits (verdict (.ok false))) :
    Yields (writeBack r >>= fun ok =>
        if ok then act (.count won) fun _ => done (Except.ok true)
        else act (.count lost) fun _ => done (.ok false))
      fun xs res => Balanced false xs [verdict res] := by
  refine yields_bind (yields_writeBack r) ?_
  rintro xs (_ | _) hxs _ _
  · exact hxs.append (.verdict hlost)
  · exact hxs.append (.verdict hwon)

theorem yields_tryToLock (id : String) (owner : Owner) (seconds : Nat) :
    (tryToLock id owner seconds).Yields fun xs res => Balanced false xs [.lock res] := by
  refine yields_bind (yields_readForLock id) ?_
  rintro xs (err | _ | v) hxs
  · exact hxs.append (.aborted fun a => by cases a <;> rfl)
  · exact fun _ _ => hxs.append (.verdict fun a => by cases a <;> rfl)
  · intro t _
    show Yields (if v.isLockedByOthersAt owner t then _ else _) _
    split
    case isTrue =>
      exact fun _ _ => hxs.append (.idle trivial (.verdict fun a => by cases a <;> rfl))
    case isFalse =>
      exact (yields_judged (fun a => by cases a <;> rfl) fun a => by cases a <;> rfl).mono
        fun ys res hys => hxs.append (.idle trivial hys)

theorem yields_tryToUnlock (id : String) (owner : Owner) :
    (tryToUnlock id owner).Yields fun xs res => Balanced false xs [.unlock res] := by
  refine yields_bind (yields_readForLock id) ?_
  rintro xs (err | _ | v) hxs
  · exact hxs.append (.aborted fun a => by cases a <;> rfl)
  · exact fun _ _ => hxs.append (.verdict fun a => by cases a <;> rfl)
  · intro t _
    show Yields (if !v.isLockedAt t then _ else release v owner t) _
    split
    case isTrue =>
      exact fun _ _ => hxs.append (.idle trivial (.verdict fun a => by cases a <;> rfl))
    case isFalse =>
      unfold release
      split
      case h_1 =>
        exact fun _ _ => hxs.append (.idle trivial (.verdict fun a => by cases a <;> rfl))
      case h_2 released _ =>
        exact (yields_judged (fun a => by cases a <;> rfl) fun a => by cases a <;> rfl).mono
          fun ys res hys => hxs.append (.idle trivial hys)

/-- Pauses after the lost attempt number `n` and goes on with `rest`, unless the
pause would be longer than any duration. -/
def pauseOr {α : Type} (p : RetryPolicy) (n : Nat) (tooLong : α) (rest : Call α) : Call α := do
  let jitter ← perform (.draw (p.jitterBound n))
  match p.delay? n jitter with
  | none => return tooLong
  | some d =>
    perform (.pause d)
    rest

theorem pauseOr_bind {α : Type} (p : RetryPolicy) (n : Nat) (tooLong : α) (rest : Call α)
    (f : α → Call (Option (Except StoreError Bool))) (h : f tooLong = done none) :
    (pauseOr p n tooLong rest >>= f) = pauseThen p n (rest >>= f) := by
  unfold pauseOr pauseThen
  rw [Call.bind_assoc]
  refine congrArg _ (funext fun jitter => ?_)
  cases p.delay? n jitter with
  | none => exact h
  | some d => rfl

theorem yields_pauseOr {α : Type} {p : RetryPolicy} {n : Nat} {tooLong : α} {rest : Call α}
    {P : List Exchange → α → Prop} (hnone : ∀ x, Exchange.Idle x → P [x] tooLong)
    (hrest : ∀ x y, Exchange.Idle x → Exchange.Idle y →
      rest.Yields fun xs a => P (x :: y :: xs) a) :
    (pauseOr p n tooLong rest).Yields P := by
  unfold pauseOr
  refine yields_perform (a := .draw _) fun jitter _ => ?_
  cases p.delay? n jitter with
  | none => exact hnone _ trivial
  | some d => exact yields_perform (a := .pause d) fun _ _ => hrest _ _ trivial trivial

/-- Attempts with pauses in between, and how each of them has ended. -/
def attemptsFrom (p : RetryPolicy) (attempt : Call (Except StoreError Bool)) :
    Nat → Nat → Call (List (Except StoreError Bool) × Option (Except StoreError Bool))
  | 0, _ => return ([], some (.ok false))
  | left + 1, n => do
    match ← attempt with
    | .error err => return ([.error err], some (.error err))
    | .ok true => return ([.ok true], some (.ok true))
    | .ok false =>
      if left = 0 then return ([.ok false], some (.ok false))
      else pauseOr p n ([.ok false], none) do
        let rs ← attemptsFrom p attempt left (n + 1)
        return (.ok false :: rs.1, rs.2)

/-- They are the same attempts. Induction on the attempts left. -/
theorem attemptsFrom_bind (p : RetryPolicy) (attempt : Call (Except StoreError Bool))
    (left n : Nat) :
    (attemptsFrom p attempt left n >>= fun rs => done rs.2) = retryFrom p attempt left n := by
  induction left generalizing n with
  | zero => rfl
  | succ left ih =>
    rw [attemptsFrom, retryFrom, Call.bind_assoc]
    refine congrArg (attempt >>= ·) (funext fun res => ?_)
    match res with
    | .error err | .ok true => rfl
    | .ok false =>
      dsimp only
      split
      case isTrue => rfl
      case isFalse =>
        refine (pauseOr_bind (α := List (Except StoreError Bool) × _) p n _ _
          (fun rs => done rs.2) rfl).trans ?_
        rw [Call.bind_assoc, ← ih (n + 1)]
        rfl

theorem yields_attemptsFrom {p : RetryPolicy} {attempt : Call (Except StoreError Bool)}
    (hattempt : attempt.Yields fun xs res => Balanced false xs [.lock res]) (left n : Nat) :
    (attemptsFrom p attempt left n).Yields fun xs rs => Balanced false xs (rs.1.map .lock) := by
  induction left generalizing n with
  | zero => exact .nil
  | succ left ih =>
    rw [attemptsFrom]
    refine yields_bind hattempt ?_
    rintro xs (err | _ | _) hxs
    · exact hxs.append .nil
    · dsimp only
      split
      case isTrue => exact hxs.append .nil
      case isFalse =>
        refine yields_pauseOr (fun x hx => hxs.append (.idle hx .nil)) fun x y hx hy => ?_
        exact yields_pass (ih (n + 1)) fun ys rs hys =>
          ⟨_, rfl, hxs.append (.idle hx (.idle hy hys))⟩
    · exact hxs.append .nil

/-! ## Bulk deletes -/

/-- Events that are counted one after the other. -/
def entries (ns : List Counter) : List Exchange := ns.map fun n => ⟨.count n, ()⟩

theorem contacts_entries (ns : List Counter) : (entries ns).flatMap Exchange.contacts = [] := by
  induction ns with
  | nil => rfl
  | cons n ns ih => exact ih

theorem staleReads_entries (ns : List Counter) : staleReads (entries ns) = 0 := by
  induction ns with
  | nil => rfl
  | cons n ns ih => exact (Nat.zero_add _).trans ih

theorem apart_entries (ns : List Counter) : Apart (entries ns) := by
  induction ns with
  | nil => exact .nil
  | cons n ns ih => exact ih.cons fun _ => rfl

theorem booked_entries (a : Account) (ns : List Counter) :
    a.booked (entries ns) = ns.countP (a.counters.contains ·) := by
  rw [Account.booked, entries, List.countP_map]
  rfl

theorem yields_countTimes (n : Counter) (k : Nat) :
    (countTimes n k).Yields fun xs _ => xs = entries (List.replicate k n) := by
  induction k with
  | zero => rfl
  | succ k ih =>
    refine fun _ _ => ih.mono fun xs _ hxs => ?_
    rw [hxs, List.replicate_succ]
    rfl

/-- The delete has failed, and not for want of a record. -/
def failing : Except BackendError Unit → Bool
  | .error .notFound | .ok () => false
  | .error _ => true

/-- The failures of a wave are counted as errors. Induction on the outcomes. -/
theorem yields_tally (report : BulkDelete) (outcomes : List (String × Except BackendError Unit)) :
    (tally report outcomes).Yields fun xs _ => ∃ ns : List Counter, xs = entries ns ∧
      (∀ n ∈ ns, n.IsError) ∧ ns.length = outcomes.countP (failing ·.2) := by
  induction outcomes generalizing report with
  | nil => exact ⟨[], rfl, fun n hn => (nomatch hn), rfl⟩
  | cons outcome rest ih =>
    obtain ⟨id, r⟩ := outcome
    match r with
    | .ok () | .error .notFound => exact ih _
    | .error .alreadyExists | .error .preconditionFailed | .error (.failure ..) =>
      refine fun _ _ => (ih _).mono ?_
      rintro xs - ⟨ns, rfl, herror, hlength⟩
      refine ⟨_ :: ns, rfl, List.forall_mem_cons.2 ⟨isError_counterOf _, herror⟩, ?_⟩
      rw [List.length_cons, hlength, List.countP_cons_of_pos rfl]

/-- Counters for errors are of one account. -/
theorem countP_errors (a : Account) {ns : List Counter} (h : ∀ n ∈ ns, n.IsError) :
    ns.countP (a.counters.contains ·) = match a with | .errors => ns.length | _ => 0 := by
  have hcontains (n : Counter) (hn : n ∈ ns) :
      a.counters.contains n = match a with | .errors => true | _ => false := by
    obtain rfl | rfl | rfl := h n hn <;> cases a <;> rfl
  cases a with
  | errors => exact List.countP_eq_length.2 fun n hn => hcontains n hn
  | _ => exact List.countP_eq_zero.2 fun n hn => by rw [hcontains n hn]; exact Bool.false_ne_true

theorem balanced_wave {ids : List String} {rs : List (Except BackendError Unit)}
    {ns : List Counter} (hrs : rs.length = ids.length) (herror : ∀ n ∈ ns, n.IsError)
    (hns : ns.length = rs.countP failing) :
    Balanced true (entries (List.replicate ids.length .delete) ++
      (⟨.deleteWave ids, rs⟩ :: entries ns)) [] where
  apart := (apart_entries _).append ((apart_entries ns).cons fun _ => rfl)
  even a := by
    have hbooked : a.booked (⟨.deleteWave ids, rs⟩ :: entries ns) = a.booked (entries ns) := rfl
    rw [Account.booked_append, hbooked, booked_entries, booked_entries, List.countP_replicate,
      countP_errors a herror]
    -- there is no read in a wave, so nothing is owed for a stale one
    have hnone : staleReads (entries (List.replicate ids.length .delete) ++
        (⟨.deleteWave ids, rs⟩ :: entries ns)) = 0 := by
      rw [apart_entries, staleReads_entries, staleReads, staleReads_entries]
      rfl
    have hstale : a.stale (entries (List.replicate ids.length .delete) ++
        (⟨.deleteWave ids, rs⟩ :: entries ns)) = 0 := by
      cases a with
      | errors => exact hnone
      | _ => rfl
    have hcontacts : (entries (List.replicate ids.length .delete) ++
        (⟨.deleteWave ids, rs⟩ :: entries ns)).flatMap Exchange.contacts =
          rs.map fun r => .asked .delete (Except.failure? r) := by
      rw [List.flatMap_append, contacts_entries, List.flatMap_cons, contacts_entries,
        List.append_nil]
      rfl
    rw [Account.owed, hcontacts, List.countP_map, hstale]
    cases a with
    | deletes =>
      have hall : rs.countP (Account.charges true .deletes ∘ fun r =>
          .asked .delete (Except.failure? r)) = rs.length :=
        List.countP_eq_length.2 fun r _ => rfl
      rw [hall, hrs]
      rfl
    | errors =>
      have hfailing : rs.countP (Account.charges true .errors ∘ fun r =>
          .asked .delete (Except.failure? r)) = rs.countP failing :=
        List.countP_congr fun r _ => by rcases r with (_ | _ | _ | _) | _ <;> rfl
      rw [hfailing, ← hns]
      exact Nat.zero_add _
    | _ =>
      refine (List.countP_eq_zero.2 fun r _ => ?_).symm
      rcases r with (_ | _ | _ | _) | _ <;> exact Bool.false_ne_true

/-- Induction on the waves. -/
theorem yields_deleteWaves (report : BulkDelete) (waves : List (List String)) :
    (deleteWaves report waves).Yields fun xs _ => Balanced true xs [] := by
  induction waves generalizing report with
  | nil => exact .nil
  | cons ids rest ih =>
    refine yields_bind (yields_countTimes .delete ids.length) ?_
    rintro xs _ rfl rs hrs
    show Yields (tally report (ids.zip rs) >>= fun report => deleteWaves report rest) _
    refine yields_bind (yields_tally report (ids.zip rs)) ?_
    rintro xs report' ⟨ns, rfl, herror, hns⟩
    have hzip : (ids.zip rs).countP (failing ·.2) = rs.countP failing := by
      have hsnd : (ids.zip rs).map (·.2) = rs := List.map_snd_zip (Nat.le_of_eq hrs)
      have hmap : rs.countP failing = ((ids.zip rs).map (·.2)).countP failing := by rw [hsnd]
      rw [hmap, List.countP_map]
      rfl
    refine (ih report').mono fun ys _ hys => ?_
    have hwave := (balanced_wave hrs herror (hns.trans hzip)).append hys
    rw [List.append_assoc] at hwave
    exact hwave

theorem yields_deleteMany (ids : List String) :
    (deleteMany ids).Yields fun xs _ => Balanced true xs [] := by
  intro c _
  match c with
  | .error err => exact .idle trivial .nil
  | .ok config =>
    show Yields (deleteWaves _ (waves config.maxPending ids) >>= fun report =>
      done (Except.ok report)) _
    exact yields_pass (yields_deleteWaves _ _) fun xs _ hxs => ⟨_, rfl, .idle trivial hxs⟩

end Operation

/-! ## Requests -/

open Call Operation

/-- The request asks for records to be deleted. Other calls delete to clean up. -/
def Request.deletes : Request → Bool
  | delete _ | deleteMany _ => true
  | _ => false

/-- The call that a request is, with how its attempts to lock and to unlock have
ended. -/
def Request.judged : Request → Call (List Verdict × Answer)
  | tryToLock id owner seconds => do
    let r ← Operation.tryToLock id owner seconds
    return ([.lock r], .truth r)
  | tryToUnlock id owner => do
    let r ← Operation.tryToUnlock id owner
    return ([.unlock r], .truth r)
  | lockWithRetry id owner seconds policy => do
    let rs ← attemptsFrom policy (Operation.tryToLock id owner seconds) policy.attempts 0
    return (rs.1.map .lock, .retried rs.2)
  | q => do return ([], ← q.call)

/-- It is the same call. -/
theorem Request.judged_bind (q : Request) : (q.judged >>= fun r => done r.2) = q.call := by
  have hsame : ((do return ([], ← q.call) : Call (List Verdict × Answer)) >>= fun r => done r.2) =
      q.call := by
    rw [Call.bind_assoc]
    exact Call.bind_done q.call
  cases q with
  | tryToLock | tryToUnlock =>
    rw [judged, Call.bind_assoc]
    rfl
  | lockWithRetry id owner seconds policy =>
    rw [judged, Call.bind_assoc, call, Operation.lockWithRetry, ← attemptsFrom_bind,
      Call.bind_assoc]
    rfl
  | get | contains | getAll | create | upsert | upsertWithToken | delete | deleteMany
  | healthCheck => exact hsame

/-- **Every path of every request is balanced.** Cases on the request. -/
theorem Request.balanced (q : Request) :
    q.judged.Yields fun xs r => Balanced q.deletes xs r.1 := by
  have hwrap {α : Type} {x : Call α} {f : α → Answer} {direct : Bool}
      (h : x.Yields fun xs _ => Balanced direct xs []) :
      Yields ((x >>= fun a => done (f a)) >>= fun a => done (([] : List Verdict), a))
        fun xs r => Balanced direct xs r.1 := by
    rw [Call.bind_assoc]
    exact yields_pass h fun xs a hxs => ⟨_, rfl, hxs⟩
  cases q with
  | get id => exact hwrap (yields_get id)
  | contains id => exact hwrap (yields_contains id)
  | getAll => exact hwrap yields_getAll
  | create r => exact hwrap (yields_create r)
  | upsert r | upsertWithToken r => exact hwrap (yields_write _ _)
  | delete id => exact hwrap (yields_delete id)
  | deleteMany ids => exact hwrap (yields_deleteMany ids)
  | healthCheck => exact hwrap yields_healthCheck
  | tryToLock id owner seconds =>
    exact yields_pass (yields_tryToLock id owner seconds) fun xs r hxs => ⟨_, rfl, hxs⟩
  | tryToUnlock id owner =>
    exact yields_pass (yields_tryToUnlock id owner) fun xs r hxs => ⟨_, rfl, hxs⟩
  | lockWithRetry id owner seconds policy =>
    exact yields_pass (yields_attemptsFrom (yields_tryToLock id owner seconds) _ _)
      fun xs rs hxs => ⟨_, rfl, hxs⟩

end LeaseStore
