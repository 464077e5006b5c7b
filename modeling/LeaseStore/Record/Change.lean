/-
LeaseStore.Record.Change — what is done to a record in memory.

Between reading a record and writing it back, a caller changes the value in
its hands (`Record.change`). Of all changes only one can be refused: to end a
lock that someone else holds. A refused change leaves the record as it was
(`Record.changed`).
-/
import LeaseStore.Record

namespace LeaseStore.Record

/-- A change to a record in memory. -/
inductive Change where
  | setData (data : String)
  | setToken (token : String)
  | expireAt (t : Instant)
  | neverExpire
  | expireAfter (seconds : Nat)
  | touch
  | lock (owner : Owner) (seconds : Nat)
  | unlock (owner : Owner)
  deriving DecidableEq

/-- The record after a change at a reading of the clock, or why it is refused. -/
def change (r : Record) (now : Instant) : Change → Except StoreError Record
  | .setData data => .ok { r with data }
  | .setToken token => .ok { r with token }
  | .expireAt t => .ok { r with expiresAt := t }
  | .neverExpire => .ok { r with expiresAt := Instant.never }
  | .expireAfter seconds => .ok (r.expireAfter now seconds)
  | .touch => .ok (r.touchAt now)
  | .lock owner seconds => .ok (r.lockAt owner seconds now)
  | .unlock owner => r.unlockAt owner now

/-- The record after a change, refused or not. -/
def changed (r : Record) (now : Instant) (c : Change) : Record :=
  match r.change now c with
  | .ok r' => r'
  | .error _ => r

end LeaseStore.Record
