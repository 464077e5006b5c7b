/-
LeaseStore.Faults — a backend that fails on purpose.

The points of failure `memory-adapter-read`, `memory-adapter-upsert` and
`memory-adapter-delete`.

A fault is set for one operation. It lets some calls pass, then fails
some, or all that follow, and then lets calls pass again. A call that
fails this way never reaches the backend. The plan of faults stands beside
the backend's own state, so that backends can share one.
-/
import LeaseStore.Backend

namespace LeaseStore

/-- The operations that can be made to fail. -/
inductive FaultPoint where
  | read
  | upsert
  | delete
  deriving DecidableEq, Repr

namespace FaultPoint

/-- The name of the operation. -/
def name : FaultPoint → String
  | read => "read"
  | upsert => "upsert"
  | delete => "delete"

/-- The operation of a name. -/
def ofName? (name : String) : Option FaultPoint := [read, upsert, delete].find? (·.name = name)

end FaultPoint

/-- A fault: how many calls pass, and how many fail after them. -/
structure PlannedFault where
  skip : Nat := 0
  /-- Without a number, all calls fail. -/
  times : Option Nat := none
  deriving DecidableEq, Repr

namespace PlannedFault

/-- Whether the next call fails, and the fault after it. -/
def strike (f : PlannedFault) : Bool × PlannedFault :=
  match f.skip, f.times with
  | n + 1, _ => (false, { f with skip := n })
  | 0, none => (true, f)
  | 0, some 0 => (false, f)
  | 0, some (n + 1) => (true, { f with times := some n })

end PlannedFault

/-- The fault that is set for each operation. -/
structure FaultPlan where
  read : Option PlannedFault := none
  upsert : Option PlannedFault := none
  delete : Option PlannedFault := none
  deriving DecidableEq, Repr

namespace FaultPlan

instance : Inhabited FaultPlan := ⟨{}⟩

/-- The fault of an operation. -/
def get (p : FaultPlan) : FaultPoint → Option PlannedFault
  | .read => p.read
  | .upsert => p.upsert
  | .delete => p.delete

/-- Sets or lifts the fault of an operation. -/
def set (p : FaultPlan) : FaultPoint → Option PlannedFault → FaultPlan
  | .read, f => { p with read := f }
  | .upsert, f => { p with upsert := f }
  | .delete, f => { p with delete := f }

/-- Whether the next call of an operation fails, and the plan after it. -/
def strike (p : FaultPlan) (point : FaultPoint) : Bool × FaultPlan :=
  match p.get point with
  | none => (false, p)
  | some f => (f.strike.1, p.set point (some f.strike.2))

/-- Without a fault for it an operation passes, and the plan stays. -/
theorem strike_of_get_none {p : FaultPlan} {point : FaultPoint}
    (h : p.get point = none) : p.strike point = (false, p) := by
  simp [strike, h]

end FaultPlan

namespace Backend

/-- An operation behind its fault. -/
def behind {σ α : Type} (name : String) (point : FaultPoint) (f : Answering σ α) :
    Answering (σ × FaultPlan) α
  | (s, plan) =>
    match plan.strike point with
    | (true, plan) =>
      (.error (.passing ("injected failure in " ++ name ++ " " ++ point.name)), (s, plan))
    | (false, plan) =>
      let (r, s) := f s
      (r, (s, plan))

/-- An operation that has no fault. -/
def beside {σ α : Type} (f : σ → α × σ) : σ × FaultPlan → α × (σ × FaultPlan)
  | (s, plan) =>
    let (r, s) := f s
    (r, (s, plan))

/-- A backend whose reads, upserts and deletes can be made to fail. -/
def faulty {σ : Type} (b : Backend σ) : Backend (σ × FaultPlan) where
  name := b.name
  ensure c := beside (b.ensure c)
  create c r := beside (b.create c r)
  upsert c r w := behind b.name .upsert (b.upsert c r w)
  read c id := behind b.name .read (b.read c id)
  startDelete c id s :=
    let (d, s) := beside (b.startDelete c id) s
    ({ delay := d.delay, settle := behind b.name .delete d.settle }, s)
  list c := beside (b.list c)
  health := beside b.health

end Backend

end LeaseStore
