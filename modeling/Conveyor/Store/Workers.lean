import Conveyor.Store.Basic

/-!
# Workers and assignments

A worker registers, sends heartbeats and deregisters; a heartbeat from an unknown worker registers
it again (on host `unknown`). Leaving releases every task the worker held.

The dispatcher assigns ready, unassigned tasks to registered workers:

- `Store.readyIds` lists the unassigned tasks whose status lets them be handed out, oldest first
  (ties by id), at most `limit` per tenant.
- `Store.assign` succeeds only for a registered worker and a ready, unassigned task.
- `Store.clearOrphans` releases tasks held by workers that are no longer registered, and
  `Store.backlogs` counts, for every registered worker, the unfinished tasks it holds.
-/

namespace Conveyor
namespace Store

/-- Register a worker, replacing an earlier record of it. -/
def registerWorker (w : Worker) : StoreM Unit :=
  modify fun s => { s with workers := Table.put s.workers w }

/-- Record a heartbeat. -/
def heartbeat (w : WorkerId) (at_ : Stamp) : StoreM Unit :=
  modify fun s =>
    match Table.find? s.workers w with
    | some r => { s with workers := Table.put s.workers { r with heartbeat := at_ } }
    | none => { s with workers := Table.put s.workers ⟨w, "unknown", at_, at_⟩ }

/-- Release every task a worker holds; gives how many. -/
def releaseWorker (w : WorkerId) : StoreM Nat := do
  let s ← get
  let held := (s.parents.filter (·.worker == some w)).length + (s.children.filter (·.worker == some w)).length
  set { s with
    parents := s.parents.map fun (p : Parent) => if p.worker == some w then { p with worker := none } else p
    children := s.children.map fun (c : Child) => if c.worker == some w then { c with worker := none } else c }
  return held

/-- Remove a worker and release its tasks. -/
def deregisterWorker (w : WorkerId) : StoreM Unit := do
  modify fun s => { s with workers := Table.erase s.workers w }
  let _ ← releaseWorker w

/-- The registered workers, oldest registration first, ties by id. -/
def listWorkers : StoreM (List Worker) := do
  return (← get).workers.mergeSort fun a b =>
    a.registered < b.registered || (a.registered == b.registered && a.id.uuid.value ≤ b.id.uuid.value)

/-- Remove the workers not heard from since the cutoff; gives their ids. -/
def evictStale (cutoff : Stamp) : StoreM (List WorkerId) := do
  let s ← get
  let stale := (s.workers.filter fun w => !w.isLive cutoff).map (·.id)
  set { s with workers := s.workers.filter fun w => w.isLive cutoff }
  return stale

/-- Set or clear the worker of a task. -/
def setWorker (kind : Kind) (id : TaskId) (w : Option WorkerId) : StoreM Unit :=
  modify fun s => match kind with
    | .parent => { s with parents := s.parents.map fun (p : Parent) => if p.id == id then { p with worker := w } else p }
    | .child => { s with children := s.children.map fun (c : Child) => if c.id == id then { c with worker := w } else c }

/-- Release tasks of a kind held by unregistered workers; gives how many. -/
def clearOrphans (kind : Kind) : StoreM Nat := do
  let s ← get
  let orphaned := (s.rows kind).filter fun r => match r.worker with
    | some w => !Table.has s.workers w
    | none => false
  for r in orphaned do setWorker kind r.id none
  return orphaned.length

/-- For every registered worker, how many unfinished tasks of a kind it holds. -/
def backlogs (kind : Kind) : StoreM (List (WorkerId × Nat)) := do
  let s ← get
  let rows := s.rows kind
  return s.workers.map fun w =>
    (w.id, (rows.filter fun r => r.worker == some w.id && !r.status.isTerminal).length)

/-- Order rows by creation time, then id. -/
def byAge (rows : List Row) : List Row :=
  rows.mergeSort fun a b => a.created < b.created || (a.created == b.created && a.id.uuid.value ≤ b.id.uuid.value)

/-- Keep the first `limit` rows of each tenant. -/
def perTenant (limit : Nat) (rows : List Row) : List Row :=
  (rows.foldl (fun (acc : List Row × List (String × Nat)) r =>
    let n := ((acc.2.find? (·.1 == r.tenant)).map (·.2)).getD 0 + 1
    let counts := (r.tenant, n) :: acc.2.filter (·.1 != r.tenant)
    (if n ≤ limit then acc.1 ++ [r] else acc.1, counts)) ([], [])).1

/-- The ready, unassigned tasks of a kind, oldest first, at most `limit` per tenant. -/
def readyIds (kind : Kind) (limit : Nat) : StoreM (List (String × TaskId)) := do
  let rows := ((← get).rows kind).filter fun r => r.worker.isNone && kind.isReady r.status
  return (perTenant limit (byAge rows)).map fun r => (r.tenant, r.id)

/-- Assign a ready, unassigned task to a registered worker. -/
def assign (kind : Kind) (id : TaskId) (w : WorkerId) : StoreM Bool := do
  let s ← get
  if !Table.has s.workers w then return false
  match (s.rows kind).find? (·.id == id) with
  | some r =>
    if r.worker.isNone && kind.isReady r.status then
      setWorker kind id (some w)
      return true
    else return false
  | none => fail (.taskNotFound id)

/-- The unfinished tasks of a kind a worker holds, oldest first. -/
def assignedTo (kind : Kind) (w : WorkerId) : StoreM (List TaskId) := do
  let rows := ((← get).rows kind).filter fun r => r.worker == some w && !r.status.isTerminal
  return (byAge rows).map (·.id)

end Store
end Conveyor
