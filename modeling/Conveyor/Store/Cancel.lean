import Conveyor.Store.Rollup

/-!
# Cancellation in the store

A cancel of a task reaches the task and everything below it. A task no worker holds is cancelled
at once (an `IN_PROGRESS` parent instead rolls up); a task a worker holds is reported in flight,
and the worker's pipeline stops it. A cancel of a finished task, or of a task of a finished
transfer, is not accepted and changes nothing.

- `Store.requestCancel` marks the transfer (or the parent or child), cancels what it can, and
  refreshes the transfer. Its outcome lists the tasks it cancelled and those in flight, in the
  order it met them.
- `Store.isCancelRequested` tells whether a cancel was accepted for a task, its parent or its
  transfer.
-/

namespace Conveyor

/-- What a cancel request did. -/
structure CancelOutcome where
  top : TaskId
  tenant : String
  accepted : Bool
  cancelled : List TaskId
  inFlight : List TaskId
deriving DecidableEq, Repr

namespace Store

/-- Cancel a child no worker holds; report a held one in flight. -/
def cancelChild (id : TaskId) (out : CancelOutcome) (now : Stamp) : StoreM CancelOutcome := do
  let c ← child id
  if c.status.isTerminal then return out
  if c.worker.isSome then return { out with inFlight := out.inFlight ++ [id] }
  let c ← guardError (c.moveTo .cancelled now)
  putChild { c with error := some "cancelled by request" }
  return { out with cancelled := out.cancelled ++ [id] }

/-- Cancel the children of a parent in order. -/
def cancelChildren (ids : List TaskId) (out : CancelOutcome) (now : Stamp) : StoreM CancelOutcome :=
  ids.foldlM (fun out id => cancelChild id out now) out

/-- Cancel a parent and its children as far as no worker holds them. -/
def cancelParent (id : TaskId) (out : CancelOutcome) (now : Stamp) : StoreM CancelOutcome := do
  let p ← parent id
  if p.status.isTerminal then return out
  let out ← cancelChildren ((← get).childIds id) out now
  if p.worker.isSome then return { out with inFlight := out.inFlight ++ [id] }
  if p.status == .inProgress then
    rollUpParent id now
    return out
  let p ← parent id
  let p ← guardError (p.moveTo .cancelled now)
  putParent { p with error := some "cancelled by request" }
  return { out with cancelled := out.cancelled ++ [id] }

/-- Add a cancel mark. -/
def mark (id : TaskId) : StoreM Unit :=
  modify fun s => { s with marks := if s.marks.contains id then s.marks else s.marks ++ [id] }

/-- Accept a cancel of a transfer, parent or child, unless it or its transfer has ended. -/
def requestCancel (id : TaskId) (now : Stamp) : StoreM CancelOutcome := do
  let s ← get
  let (topId, terminal) ← match Table.find? s.tops id, Table.find? s.parents id,
      Table.find? s.children id with
    | some t, _, _ => pure (t.id, t.status.isTerminal)
    | none, some p, _ => pure (p.top, p.status.isTerminal)
    | none, none, some c => pure (c.top, c.status.isTerminal)
    | none, none, none => fail (.taskNotFound id)
  let t ← top topId
  let out : CancelOutcome := ⟨topId, t.tenant, false, [], []⟩
  if terminal || t.status.isTerminal then return out
  let mut out := { out with accepted := true }
  if id == topId then
    putTop { t with cancelRequested := true }
    let t ← top topId
    out ← t.parents.foldlM (fun out pid => cancelParent pid out now) out
  else if Table.has (← get).parents id then
    mark id
    out ← cancelParent id out now
  else
    mark id
    out ← cancelChild id out now
    let c ← child id
    rollUpParent c.parent now
  refreshTop topId now
  return out

/-- Whether a cancel was accepted for the task, its parent or its transfer. -/
def isCancelRequested (id : TaskId) : StoreM Bool := do
  let s ← get
  match Table.find? s.tops id, Table.find? s.parents id, Table.find? s.children id with
  | some t, _, _ => pure t.cancelRequested
  | none, some p, _ => pure (s.marks.contains id || s.marks.contains p.id || s.topCancelled p.top)
  | none, none, some c => pure (s.marks.contains id || s.marks.contains c.parent || s.topCancelled c.top)
  | none, none, none => fail (.taskNotFound id)

end Store
end Conveyor
