import Conveyor.Store.Basic

/-!
# Roll-ups

A Parent's progress is the sum of its children's, and its end follows from theirs; a Top's
status follows from its parents.

- `Store.setChildBytes` moves a child's byte count and the parent's total with it (the total
  stops at zero and at the top of a 64-bit word).
- `Store.rollUpParent` ends an `IN_PROGRESS` parent once all of its children ended: its status
  is `rollUp` of theirs, its bytes their exact 64-bit sum, it is released from its worker, and
  its error names the failures (`k of n files failed; first: source: error`) or the cancel.
  Then the transfer is refreshed.
- `Store.refreshTop` sets the transfer's status to `deriveTop` of its parents, with the start
  and end times and the error of the first failed required parent.
-/

namespace Conveyor
namespace Store

/-- Set a child's byte count, moving the parent's total by the difference. -/
def setChildBytes (id : TaskId) (bytes : Nat) : StoreM Unit := do
  let s ← get
  match Table.find? s.children id with
  | none => pure ()
  | some c =>
    let previous := c.bytes
    putChild { c with bytes }
    let s ← get
    match Table.find? s.parents c.parent with
    | none => pure ()
    | some p =>
      putParent { p with bytes := Word.saturatingAdd Word.max64 (Word.saturatingSub p.bytes previous) bytes }

/-- The error a transfer takes when it ends. -/
def topError (next : Status) (parents : List Parent) : Option String :=
  match next with
  | .failed => (parents.find? fun p => !p.optional && p.status == .failed).map fun p =>
      p.source ++ ": " ++ p.error.getD "transfer failed"
  | .cancelled => some "transfer cancelled"
  | _ => none

/-- Derive a transfer's status from its parents. -/
def refreshTop (topId : TaskId) (now : Stamp) : StoreM Unit := do
  let t ← top topId
  let s ← get
  let parents := t.parents.filterMap (Table.find? s.parents)
  let next := deriveTop t.status t.cancelRequested (parents.map fun p => ⟨p.status, p.optional⟩)
  if next == t.status then return
  let error := topError next parents
  putTop { t with
    status := next
    started := if next != .accepted && t.started.isNone then some now else t.started
    ended := if next.isTerminal then some now else t.ended
    error := if error.isSome then error else t.error }

/-- The error a parent takes when it rolls up. -/
def parentError (outcome : Status) (children : List Child) : Option String :=
  let failed := children.filter (·.status == .failed)
  match outcome, failed.head? with
  | .failed, some f | .completed, some f =>
    some (toString failed.length ++ " of " ++ toString children.length ++ " files failed; first: " ++
      f.source ++ ": " ++ f.error.getD "unknown error")
  | .cancelled, _ => some "transfer cancelled"
  | _, _ => none

/-- End an `IN_PROGRESS` parent whose children all ended, then refresh its transfer. -/
def rollUpParent (parentId : TaskId) (now : Stamp) : StoreM Unit := do
  let p ← parent parentId
  if p.status != .inProgress then return
  let s ← get
  let children := (s.childIds parentId).filterMap (Table.find? s.children)
  let cancel := s.topCancelled p.top || children.any (·.status == .cancelled)
  match rollUp p.optional cancel (children.map (·.status)) with
  | none => pure ()
  | some outcome =>
    let error := parentError outcome children
    let bytes ← guardPanic (Word.sum Word.max64 (children.map (·.bytes)))
    let p ← parent parentId
    let p ← guardError (p.moveTo outcome now)
    putParent { p with bytes, error, worker := none }
    refreshTop p.top now

end Store
end Conveyor
