import Conveyor.Task.Record
import Conveyor.Task.Moves
import Conveyor.Error
import Conveyor.Word

/-!
# The task store

The store holds every Top, Parent and Child record, the children of each staged parent in
creation order, the registered workers, and the parents and children a cancel was accepted for.
Each table holds at most one record per id; writing a record replaces the one with its id or
adds it at the end.

A store operation runs in `StoreM`: it reads and writes the store and may stop with a
`Failure`, either an `Error` of the domain or a `Panic`. Writes made before the failure stay.
-/

namespace Conveyor

/-- Records that carry their own key. -/
class Keyed (α : Type) (κ : outParam Type) where
  key : α → κ

instance : Keyed Top TaskId := ⟨Top.id⟩
instance : Keyed Parent TaskId := ⟨Parent.id⟩
instance : Keyed Child TaskId := ⟨Child.id⟩
instance : Keyed Worker WorkerId := ⟨Worker.id⟩

namespace Table

variable {α κ : Type} [Keyed α κ] [DecidableEq κ]

/-- The record with a key. -/
def find? (xs : List α) (k : κ) : Option α := xs.find? (Keyed.key · = k)

/-- Whether a record has the key. -/
def has (xs : List α) (k : κ) : Bool := xs.any (Keyed.key · = k)

/-- Write a record: replace the one with its key, or add it at the end. -/
def put (xs : List α) (x : α) : List α :=
  if has xs (Keyed.key x) then xs.map fun y => if Keyed.key y = Keyed.key x then x else y
  else xs ++ [x]

/-- Remove the record with a key. -/
def erase (xs : List α) (k : κ) : List α := xs.filter (Keyed.key · ≠ k)

end Table

/-- Everything the task store holds. -/
structure Store where
  tops : List Top := []
  parents : List Parent := []
  children : List Child := []
  /-- The children of each staged parent, in creation order. -/
  childLists : List (TaskId × List TaskId) := []
  workers : List Worker := []
  /-- Parents and children a cancel was accepted for. -/
  marks : List TaskId := []
  /-- How many ids the store has invented. -/
  serial : Nat := 0
deriving Repr, Inhabited

/-- Why a store operation stopped. -/
inductive Failure where
  | error (e : Error)
  | panic (p : Panic)
deriving DecidableEq, Repr

/-- A store operation. -/
abbrev StoreM := ExceptT Failure (StateM Store)

namespace Store

/-- Stop with an error. -/
def fail {α : Type} (e : Error) : StoreM α := throw (.error e)

/-- Lift a computation that may panic. -/
def guardPanic {α : Type} (r : Except Panic α) : StoreM α :=
  match r with
  | .ok a => pure a
  | .error p => throw (.panic p)

/-- Lift a computation that may fail with an error. -/
def guardError {α : Type} (r : Except Error α) : StoreM α :=
  match r with
  | .ok a => pure a
  | .error e => throw (.error e)

/-- The ids of a parent's children. -/
def childIds (s : Store) (p : TaskId) : List TaskId :=
  ((s.childLists.find? (·.1 = p)).map (·.2)).getD []

/-- A Top task, or `TaskNotFound`. -/
def top (id : TaskId) : StoreM Top := do
  match Table.find? (← get).tops id with
  | some t => pure t
  | none => fail (.taskNotFound id)

/-- A Parent task, or `TaskNotFound`. -/
def parent (id : TaskId) : StoreM Parent := do
  match Table.find? (← get).parents id with
  | some p => pure p
  | none => fail (.taskNotFound id)

/-- A Child task, or `TaskNotFound`. -/
def child (id : TaskId) : StoreM Child := do
  match Table.find? (← get).children id with
  | some c => pure c
  | none => fail (.taskNotFound id)

/-- Write a Top task. -/
def putTop (t : Top) : StoreM Unit := modify fun s => { s with tops := Table.put s.tops t }

/-- Write a Parent task. -/
def putParent (p : Parent) : StoreM Unit := modify fun s => { s with parents := Table.put s.parents p }

/-- Write a Child task. -/
def putChild (c : Child) : StoreM Unit := modify fun s => { s with children := Table.put s.children c }

/-- A parent assigned to the worker: `TaskNotFound`, or `NotOwner` if another worker (or none)
holds it. -/
def ownedParent (id : TaskId) (w : WorkerId) : StoreM Parent := do
  let p ← parent id
  if p.worker = some w then pure p else fail (.notOwner id)

/-- A child assigned to the worker: `TaskNotFound`, or `NotOwner`. -/
def ownedChild (id : TaskId) (w : WorkerId) : StoreM Child := do
  let c ← child id
  if c.worker = some w then pure c else fail (.notOwner id)

/-- Whether the Top task exists and a cancel was accepted for it. -/
def topCancelled (s : Store) (id : TaskId) : Bool :=
  (Table.find? s.tops id).any (·.cancelRequested)

/-- A fresh id. -/
def freshId : StoreM TaskId := do
  let s ← get
  set { s with serial := s.serial + 1 }
  pure ⟨Uuid.spawned s.serial⟩

end Store

/-- Move to a status the transition table allows; the first non-terminal status sets the start,
a terminal one the end. -/
def moveStatus (kind : Kind) (current : Status) (started ended : Option Stamp) (target : Status)
    (now : Stamp) : Except Error (Status × Option Stamp × Option Stamp) :=
  if kind.canMove current target then
    .ok (target, (if started.isNone && !target.isTerminal then some now else started),
      (if target.isTerminal then some now else ended))
  else .error (.invalidTransition current target)

/-- Move a parent to a status. -/
def Parent.moveTo (p : Parent) (target : Status) (now : Stamp) : Except Error Parent :=
  (moveStatus .parent p.status p.started p.ended target now).map fun (st, a, b) =>
    { p with status := st, started := a, ended := b }

/-- Move a child to a status. -/
def Child.moveTo (c : Child) (target : Status) (now : Stamp) : Except Error Child :=
  (moveStatus .child c.status c.started c.ended target now).map fun (st, a, b) =>
    { c with status := st, started := a, ended := b }

/-- What the scheduler sees of a Parent or Child task. -/
structure Row where
  id : TaskId
  tenant : String
  status : Status
  worker : Option WorkerId
  created : Stamp
deriving DecidableEq, Repr

/-- The rows of one kind. -/
def Store.rows (s : Store) : Kind → List Row
  | .parent => s.parents.map fun p => ⟨p.id, p.tenant, p.status, p.worker, p.created⟩
  | .child => s.children.map fun c => ⟨c.id, c.tenant, c.status, c.worker, c.created⟩

/-- Whether the dispatcher may hand out a task of a kind in a status. -/
def Kind.isReady : Kind → Status → Bool
  | .parent, .accepted | .parent, .staging | .parent, .staged => true
  | .child, .accepted | .child, .inProgress => true
  | _, _ => false

end Conveyor
