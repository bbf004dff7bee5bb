import Conveyor.Store.Basic

/-!
# Submission and queries

- `Store.createTransfer` accepts a transfer with at least one parent, all of them its own, under
  an id the store does not hold yet; it records the parents' ids in order on the Top task.
- `Store.listTops` gives a tenant's transfers (of one user, if given), newest first, ties by id,
  at most `limit` of them.
- `Store.parentsOf` and `Store.childrenOf` follow the recorded order.
-/

namespace Conveyor
namespace Store

/-- Accept a new transfer with its parents. -/
def createTransfer (t : Top) (parents : List Parent) : StoreM Top := do
  if parents.isEmpty then fail (.invalidRequest "a transfer needs at least one element")
  match parents.find? (·.top != t.id) with
  | some stray =>
    fail (.invalidRequest ("parent " ++ stray.id.render ++ " does not belong to transfer " ++ t.id.render))
  | none => pure ()
  if Table.has (← get).tops t.id then fail (.store ("transfer " ++ t.id.render ++ " already exists"))
  let t := { t with parents := parents.map (·.id) }
  for p in parents do putParent p
  putTop t
  return t

/-- A tenant's transfers, newest first. -/
def listTops (tenant : String) (user : Option String) (limit : Nat) : StoreM (List Top) := do
  let s ← get
  let picked := s.tops.filter fun t => t.tenant == tenant && (user.all (· == t.user))
  let sorted := picked.mergeSort fun a b =>
    a.created > b.created || (a.created == b.created && a.id.uuid.value ≤ b.id.uuid.value)
  return sorted.take limit

/-- The parents of a transfer, in submission order. -/
def parentsOf (topId : TaskId) : StoreM (List Parent) := do
  let t ← top topId
  let s ← get
  return t.parents.filterMap (Table.find? s.parents)

/-- The children of a parent, in creation order. -/
def childrenOf (parentId : TaskId) : StoreM (List Child) := do
  let _ ← parent parentId
  let s ← get
  return (s.childIds parentId).filterMap (Table.find? s.children)

/-- Whether a task of a kind has the id. -/
def contains (kind : Kind) (id : TaskId) : StoreM Bool := do
  return ((← get).rows kind).any (·.id == id)

/-- How many tasks of a kind are in each status (statuses with none left out). -/
def statusCounts (kind : Kind) : StoreM (List (Status × Nat)) := do
  let rows := (← get).rows kind
  return (Status.all.map fun st => (st, (rows.filter (·.status == st)).length)).filter (·.2 > 0)

end Store
end Conveyor
