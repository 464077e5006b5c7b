/-
LeaseStore.Proofs.Rules.Tenure — who holds a lock, told from its history.

A record keeps the owner of its last lock and the deadline, and these fields
stay as they are when the lock runs out. Who holds the lock can be told without
them, from what has been done to the record (`Record.HeldBy`): the last one who
took the lock holds it until the deadline, unless it was given back before. The
two agree, since a change that neither takes a lock nor gives one back keeps the
fields (`Record.changed_keeps_lock`): they tell the last lock until that is given
back (`Record.Tenure.lock_fields`), and a lock that is held has been taken
(`Record.exists_tenure`).

* `Record.tenure_iff` — a lock has been given back if its owner unlocked before
  the deadline, so that not even the answers of the record are needed.
* `lock_follows_history` — all that a record answers about its lock, for every
  history of a new record.
-/
import LeaseStore.Record.Change
import Mathlib.Data.List.Induction

namespace LeaseStore

namespace Record

/-! ## Histories -/

/-- A change, and the reading of the clock it is made at. -/
structure Entry where
  time : Instant
  change : Change

/-- The change takes the lock, from whomever. -/
def Change.IsLock (c : Change) : Prop := ∃ owner seconds, c = .lock owner seconds

/-- The record after these entries. -/
def after (r : Record) (h : List Entry) : Record :=
  h.foldl (fun r x => r.changed x.time x.change) r

/-- By this entry an owner gives back a lock that is held, and is not refused. -/
def Releases (r : Record) (x : Entry) (o : Owner) : Prop :=
  x.change = .unlock o ∧ r.isLockedAt x.time = true ∧ ∃ r', r.unlockAt o x.time = .ok r'

/-- What an owner has been given by a history that began with `r`: the last lock
is this owner's, with this deadline, and has not been given back since. -/
def Tenure (r : Record) (h : List Entry) (o : Owner) (deadline : Instant) : Prop :=
  ∃ before now seconds since, h = before ++ ⟨now, .lock o seconds⟩ :: since ∧
    deadline = now.after seconds ∧ (∀ x ∈ since, ¬ x.change.IsLock) ∧
    ∀ mid x rest, since = mid ++ x :: rest →
      ¬ (r.after (before ++ ⟨now, .lock o seconds⟩ :: mid)).Releases x o

/-- After a history that began with `r`, this owner holds the lock at `t`. -/
def HeldBy (r : Record) (h : List Entry) (o : Owner) (t : Instant) : Prop :=
  ∃ deadline, r.Tenure h o deadline ∧ t < deadline

/-- Two records answer the same to whoever asks about their lock, at any time. -/
structure LockAlike (r r' : Record) : Prop where
  holder : ∀ o t, r'.isLockedByAt o t = r.isLockedByAt o t
  others : ∀ o t, r'.isLockedByOthersAt o t = r.isLockedByOthersAt o t
  leave : ∀ o t, r'.canUnlockAt o t = r.canUnlockAt o t
  refusal : ∀ o t err, r'.unlockAt o t = .error err ↔ r.unlockAt o t = .error err

variable {r s : Record} {x : Entry} {h : List Entry} {o : Owner} {t deadline : Instant}

@[simp] theorem after_nil (r : Record) : r.after [] = r := rfl

@[simp] theorem after_cons (r : Record) (x : Entry) (h : List Entry) :
    r.after (x :: h) = (r.changed x.time x.change).after h := rfl

theorem after_append (r : Record) (h h' : List Entry) :
    r.after (h ++ h') = (r.after h).after h' := List.foldl_append

/-! ## One change -/

/-- Giving a lock back is refused to those whom it keeps out, and they are told
who holds it. -/
theorem unlockAt_eq_error_iff {err : StoreError} :
    r.unlockAt o t = .error err ↔
      r.isLockedByOthersAt o t = true ∧ err = .lockedByOther r.id r.lockOwner := by
  obtain ⟨hfree, hok⟩ | ⟨hheld, hok⟩ | ⟨hothers, herror⟩ := r.unlockAt_cases o t
  · simp [hok, isLockedByOthersAt, hfree]
  · simp [hok, isLockedByOthersAt_iff, (isLockedByAt_iff.1 hheld).2]
  · simp [herror, hothers, eq_comm]

/-- Whoever gives a lock back has held it. -/
theorem releases_iff :
    s.Releases x o ↔ x.change = .unlock o ∧ s.isLockedByAt o x.time = true := by
  unfold Releases
  obtain ⟨hfree, hok⟩ | ⟨hheld, hok⟩ | ⟨hothers, herror⟩ := s.unlockAt_cases o x.time
  · simp [hfree, isLockedByAt]
  · have hlocked : s.isLockedAt x.time = true := isLockedAt_iff.2 (isLockedByAt_iff.1 hheld).1
    simp [hheld, hok, hlocked]
  · simp [herror, isLockedByAt_iff, (isLockedByOthersAt_iff.1 hothers).2]

@[simp] theorem id_changed (r : Record) (t : Instant) (c : Change) : (r.changed t c).id = r.id := by
  cases c with
  | unlock o =>
    obtain ⟨-, h⟩ | ⟨-, h⟩ | ⟨-, h⟩ := r.unlockAt_cases o t <;> simp [changed, change, h, released]
  | _ => rfl

/-- A change that takes no lock, and gives none back, keeps the lock as it is. -/
theorem changed_keeps_lock (hlock : ¬ x.change.IsLock) (hkept : ¬ s.Releases x s.lockOwner) :
    (s.changed x.time x.change).lockOwner = s.lockOwner ∧
      (s.changed x.time x.change).lockExpiresAt = s.lockExpiresAt := by
  rw [releases_iff] at hkept
  cases hc : x.change with
  | lock o seconds => exact absurd ⟨o, seconds, hc⟩ hlock
  | unlock o =>
    obtain ⟨-, h⟩ | ⟨hheld, -⟩ | ⟨-, h⟩ := s.unlockAt_cases o x.time
    · simp [changed, change, h]
    · have howner : s.lockOwner = o := (isLockedByAt_iff.1 hheld).2
      exact absurd ⟨howner ▸ hc, howner ▸ hheld⟩ hkept
    · simp [changed, change, h]
  | _ => exact ⟨rfl, rfl⟩

/-- An owner keeps a lock by not giving it back in time. -/
theorem not_releases_iff : ¬ s.Releases x s.lockOwner ↔
    (x.change = .unlock s.lockOwner → s.lockExpiresAt ≤ x.time) := by
  simp [releases_iff, isLockedByAt_iff, Instant.lt_def, Instant.le_def]

/-- A lock that is given back is over for good. -/
theorem lockExpiresAt_of_releases (h : s.Releases x o) :
    (s.changed x.time x.change).lockExpiresAt = Instant.epoch := by
  obtain ⟨hc, hheld⟩ := releases_iff.1 h
  obtain ⟨hlocked, howner⟩ := isLockedByAt_iff.1 hheld
  obtain ⟨hfree, -⟩ | ⟨-, hok⟩ | ⟨hothers, -⟩ := s.unlockAt_cases o x.time
  · simp [← isLockedAt_iff, hfree] at hlocked
  · rw [hc]
    simp [changed, change, hok, released]
  · exact absurd howner (isLockedByOthersAt_iff.1 hothers).2

/-- Records with the same lock answer the same about it. -/
theorem LockAlike.of_fields {r r' : Record} (hid : r'.id = r.id)
    (howner : r'.lockOwner = r.lockOwner) (hends : r'.lockExpiresAt = r.lockExpiresAt) :
    LockAlike r r' := by
  have hlocked : ∀ t, r'.isLockedAt t = r.isLockedAt t := by simp [isLockedAt, hends]
  have howned : ∀ o, r'.isOwnedBy o = r.isOwnedBy o := by simp [isOwnedBy, howner]
  refine ⟨?_, ?_, ?_, ?_⟩
  · simp [isLockedByAt, hlocked, howned]
  · simp [isLockedByOthersAt, hlocked, howned]
  · simp [canUnlockAt, hlocked, howned]
  · simp [unlockAt_eq_error_iff, isLockedByOthersAt, hlocked, howned, hid, howner]

/-! ## What a history leaves -/

theorem id_after (r : Record) (h : List Entry) : (r.after h).id = r.id := by
  induction h generalizing r with
  | nil => rfl
  | cons x h ih => rw [after_cons, ih, id_changed]

/-- What is asked of each element and those before it. -/
theorem forall_split_cons {α : Type} {P : List α → α → Prop} {x : α} {xs : List α} :
    (∀ mid y rest, x :: xs = mid ++ y :: rest → P mid y) ↔
      P [] x ∧ ∀ mid y rest, xs = mid ++ y :: rest → P (x :: mid) y := by
  constructor
  · intro hall
    exact ⟨hall [] x xs rfl, fun mid y rest heq => hall (x :: mid) y rest (by simp [heq])⟩
  · rintro ⟨hfirst, hrest⟩ mid y rest heq
    cases mid with
    | nil =>
      obtain ⟨rfl, -⟩ := List.cons.inj heq
      exact hfirst
    | cons z mid =>
      obtain ⟨rfl, htail⟩ := List.cons.inj heq
      exact hrest mid y rest htail

/-- As long as nobody takes the lock, and its owner does not give it back, it is
kept. Induction on the entries. -/
theorem after_keeps_lock (hlock : ∀ x ∈ h, ¬ x.change.IsLock)
    (hkept : ∀ mid x rest, h = mid ++ x :: rest → ¬ (s.after mid).Releases x s.lockOwner) :
    (s.after h).lockOwner = s.lockOwner ∧ (s.after h).lockExpiresAt = s.lockExpiresAt := by
  induction h generalizing s with
  | nil => exact ⟨rfl, rfl⟩
  | cons x h ih =>
    obtain ⟨hfirst, hlater⟩ := List.forall_mem_cons.1 hlock
    rw [forall_split_cons, after_nil] at hkept
    obtain ⟨hnot, hrest⟩ := hkept
    obtain ⟨howner, hends⟩ := changed_keeps_lock hfirst hnot
    have hafter := ih (s := s.changed x.time x.change) hlater (by rwa [howner])
    rwa [howner, hends] at hafter

/-- Whether the owner has given the lock back can be told from the readings: it
would have been before the deadline. Induction on the entries. -/
theorem kept_iff (hlock : ∀ x ∈ h, ¬ x.change.IsLock) :
    (∀ mid x rest, h = mid ++ x :: rest → ¬ (s.after mid).Releases x s.lockOwner) ↔
      ∀ x ∈ h, x.change = .unlock s.lockOwner → s.lockExpiresAt ≤ x.time := by
  induction h generalizing s with
  | nil => simp
  | cons x h ih =>
    obtain ⟨hfirst, hlater⟩ := List.forall_mem_cons.1 hlock
    rw [forall_split_cons, List.forall_mem_cons, after_nil, ← not_releases_iff]
    refine and_congr_right fun hnot => ?_
    obtain ⟨howner, hends⟩ := changed_keeps_lock hfirst hnot
    rw [← howner, ← hends]
    exact ih hlater

/-- The record after the last lock, and what came then. -/
theorem after_lock (r : Record) (before : List Entry) (now : Instant) (o : Owner) (seconds : Nat)
    (h : List Entry) : r.after (before ++ ⟨now, .lock o seconds⟩ :: h) =
      ((r.after before).lockAt o seconds now).after h := by
  rw [after_append, after_cons]
  rfl

/-- **The history alone tells what an owner has been given**: of the last lock, by
whom, when and for how long it was taken; of what came then, that no unlock of
its owner came in time. -/
theorem tenure_iff : r.Tenure h o deadline ↔
    ∃ before now seconds since, h = before ++ ⟨now, .lock o seconds⟩ :: since ∧
      deadline = now.after seconds ∧ (∀ x ∈ since, ¬ x.change.IsLock) ∧
      ∀ x ∈ since, x.change = .unlock o → deadline ≤ x.time := by
  unfold Tenure
  simp only [after_lock]
  refine exists_congr fun before => exists_congr fun now => exists_congr fun seconds =>
    exists_congr fun since => and_congr_right fun _ => and_congr_right fun hdeadline =>
      and_congr_right fun hlock => ?_
  subst hdeadline
  exact kept_iff (s := (r.after before).lockAt o seconds now) hlock

/-- The record tells the last lock, whose it is and when it ends. -/
theorem Tenure.lock_fields (htenure : r.Tenure h o deadline) :
    (r.after h).lockOwner = o ∧ (r.after h).lockExpiresAt = deadline := by
  obtain ⟨before, now, seconds, since, rfl, rfl, hlock, hkept⟩ := htenure
  simp only [after_lock] at hkept ⊢
  exact after_keeps_lock hlock hkept

/-- A lock that is held has been taken. Induction on the entries, from the last
one back: it is a lock, gives one back, or has nothing to do with locks. -/
theorem exists_tenure (hfree : r.lockExpiresAt ≤ t) (hend : Instant.epoch ≤ t)
    (hlocked : t < (r.after h).lockExpiresAt) :
    r.Tenure h (r.after h).lockOwner (r.after h).lockExpiresAt := by
  induction h using List.reverseRecOn with
  | nil => exact absurd hlocked (Int.not_lt.2 hfree)
  | append_singleton h x ih =>
    have hafter : r.after (h ++ [x]) = (r.after h).changed x.time x.change := by
      rw [after_append, after_cons, after_nil]
    rw [hafter] at hlocked ⊢
    by_cases hlock : x.change.IsLock
    · obtain ⟨time, change⟩ := x
      obtain ⟨o, seconds, rfl⟩ := hlock
      exact ⟨h, time, seconds, [], rfl, rfl, by simp, by simp⟩
    · by_cases hrel : (r.after h).Releases x (r.after h).lockOwner
      · rw [lockExpiresAt_of_releases hrel] at hlocked
        exact absurd hlocked (Int.not_lt.2 hend)
      · obtain ⟨howner, hends⟩ := changed_keeps_lock hlock hrel
        rw [hends] at hlocked
        obtain ⟨before, now, seconds, since, heq, hdeadline, hlocks, hkept⟩ :=
          tenure_iff.1 (ih hlocked)
        rw [howner, hends, tenure_iff]
        have hsplit : h ++ [x] = before ++ ⟨now, .lock (r.after h).lockOwner seconds⟩ ::
            (since ++ [x]) := by
          rw [← List.cons_append, ← List.append_assoc, ← heq]
        refine ⟨before, now, seconds, since ++ [x], hsplit, hdeadline, ?_, ?_⟩
        · simpa [or_imp, forall_and] using ⟨hlocks, hlock⟩
        · simpa [or_imp, forall_and] using ⟨hkept, not_releases_iff.1 hrel⟩

/-! ## Who holds the lock -/

theorem isLockedByAt_after_iff (hfree : r.lockExpiresAt ≤ t) (hend : Instant.epoch ≤ t) :
    (r.after h).isLockedByAt o t = true ↔ r.HeldBy h o t := by
  rw [isLockedByAt_iff]
  constructor
  · rintro ⟨hlocked, rfl⟩
    exact ⟨_, exists_tenure hfree hend hlocked, hlocked⟩
  · rintro ⟨deadline, htenure, hlocked⟩
    obtain ⟨howner, rfl⟩ := htenure.lock_fields
    exact ⟨hlocked, howner⟩

theorem isLockedByOthersAt_after_iff (hfree : r.lockExpiresAt ≤ t) (hend : Instant.epoch ≤ t) :
    (r.after h).isLockedByOthersAt o t = true ↔ ∃ o', o' ≠ o ∧ r.HeldBy h o' t := by
  simp only [← isLockedByAt_after_iff hfree hend, isLockedByOthersAt_iff, isLockedByAt_iff]
  constructor
  · rintro ⟨hlocked, hne⟩
    exact ⟨_, hne, hlocked, rfl⟩
  · rintro ⟨o', hne, hlocked, rfl⟩
    exact ⟨hlocked, hne⟩

/-- Only those whom the lock keeps out are refused, and they are told whose it is. -/
theorem unlockAt_after_eq_error_iff (hfree : r.lockExpiresAt ≤ t) (hend : Instant.epoch ≤ t)
    {err : StoreError} : (r.after h).unlockAt o t = .error err ↔
      ∃ o', o' ≠ o ∧ r.HeldBy h o' t ∧ err = .lockedByOther r.id o' := by
  simp only [← isLockedByAt_after_iff hfree hend, unlockAt_eq_error_iff, isLockedByOthersAt_iff,
    isLockedByAt_iff, id_after]
  constructor
  · rintro ⟨⟨hlocked, hne⟩, rfl⟩
    exact ⟨_, hne, ⟨hlocked, rfl⟩, rfl⟩
  · rintro ⟨o', hne, ⟨hlocked, rfl⟩, rfl⟩
    exact ⟨⟨hlocked, hne⟩, rfl⟩

end Record

open Record in
/-- **The lock follows its history.** A new record has been through any changes, at
any readings of the clock. From the epoch on, an owner holds its lock exactly if
this owner was the last to take it, the deadline is still to come, and the owner
has not given it back while it was held. Someone else holds it exactly if this is
so of another owner; then, and only then, one who wants to give the lock back is
refused, is told whose it is, and leaves the record as it was.

Whatever change comes next, if it neither takes the lock nor gives it back, the
record answers as before. -/
theorem lock_follows_history (id data : String) (h : List Entry) :
    let r : Record := { id, data }
    let s := r.after h
    (∀ t, Instant.epoch ≤ t → ∀ o,
      (s.isLockedByAt o t = true ↔ r.HeldBy h o t) ∧
      (s.isLockedByOthersAt o t = true ↔ ∃ o', o' ≠ o ∧ r.HeldBy h o' t) ∧
      (s.canUnlockAt o t = false ↔ ∃ o', o' ≠ o ∧ r.HeldBy h o' t) ∧
      (∀ err, s.unlockAt o t = .error err ↔
        ∃ o', o' ≠ o ∧ r.HeldBy h o' t ∧ err = .lockedByOther id o') ∧
      ((∃ o', o' ≠ o ∧ r.HeldBy h o' t) → s.changed t (.unlock o) = s)) ∧
    ∀ x : Entry, ¬ x.change.IsLock → (∀ o, ¬ s.Releases x o) →
      s.LockAlike (s.changed x.time x.change) := by
  intro r s
  refine ⟨?_, ?_⟩
  · intro t hend o
    have hfree : r.lockExpiresAt ≤ t := hend
    have hothers : s.isLockedByOthersAt o t = true ↔ ∃ o', o' ≠ o ∧ r.HeldBy h o' t :=
      isLockedByOthersAt_after_iff hfree hend
    refine ⟨isLockedByAt_after_iff hfree hend, hothers, ?_,
      fun _ => unlockAt_after_eq_error_iff hfree hend, ?_⟩
    · rw [← hothers, canUnlockAt_eq_not, Bool.not_eq_false']
    · intro hheld
      have hrefused := unlockAt_eq_error_iff.2 ⟨hothers.2 hheld, rfl⟩
      simp [changed, change, hrefused]
  · intro x hlock hkept
    obtain ⟨howner, hends⟩ := changed_keeps_lock hlock (hkept s.lockOwner)
    exact .of_fields (id_changed s x.time x.change) howner hends

/-- Two owners, one after the other: the first gives the lock back, and each asks
for the other's in vain. -/
def handing : List Record.Entry :=
  [⟨Instant.epoch.after 1, .lock ⟨"x", "node"⟩ 60⟩, ⟨Instant.epoch.after 2, .setData "v"⟩,
    ⟨Instant.epoch.after 3, .unlock ⟨"y", "node"⟩⟩, ⟨Instant.epoch.after 4, .unlock ⟨"x", "node"⟩⟩,
    ⟨Instant.epoch.after 5, .lock ⟨"y", "node"⟩ 10⟩, ⟨Instant.epoch.after 6, .unlock ⟨"x", "node"⟩⟩]

open Record in
/-- The second owner holds the lock until it runs out, and a new payload in
between changes nothing about that. -/
theorem lock_follows_history_handing :
    let r : Record := { id := "a", data := "" }
    let s := r.after handing
    let last := Instant.epoch.after 14
    let gone := Instant.epoch.after 15
    Instant.epoch ≤ last ∧ r.HeldBy handing ⟨"y", "node"⟩ last ∧
      ¬ r.HeldBy handing ⟨"x", "node"⟩ last ∧
      s.unlockAt ⟨"x", "node"⟩ last = .error (.lockedByOther "a" ⟨"y", "node"⟩) ∧
      Instant.epoch ≤ gone ∧ ¬ r.HeldBy handing ⟨"y", "node"⟩ gone ∧
      s.LockAlike (s.changed last (.setData "w")) := by
  intro r s last gone
  have hlast : Instant.epoch ≤ last := by decide
  have hgone : Instant.epoch ≤ gone := by decide
  obtain ⟨hanswers, hquiet⟩ := lock_follows_history "a" "" handing
  obtain ⟨hy, -⟩ := hanswers last hlast ⟨"y", "node"⟩
  obtain ⟨hx, -, -, hrefused, -⟩ := hanswers last hlast ⟨"x", "node"⟩
  obtain ⟨hended, -⟩ := hanswers gone hgone ⟨"y", "node"⟩
  have hheld : r.HeldBy handing ⟨"y", "node"⟩ last := hy.1 (by decide)
  refine ⟨hlast, hheld, mt hx.2 (by decide), (hrefused _).2 ⟨_, by decide, hheld, rfl⟩, hgone,
    mt hended.2 (by decide), hquiet ⟨last, .setData "w"⟩ ?_ ?_⟩
  · rintro ⟨owner, seconds, h⟩
    cases h
  · rintro o ⟨h, -⟩
    cases h

end LeaseStore
