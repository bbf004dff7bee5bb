import Conveyor.Task.Status

/-!
# Status moves and roll-ups

A parent walks `ACCEPTED → STAGING → STAGED → IN_PROGRESS`; a child skips staging and goes
`ACCEPTED → IN_PROGRESS`. From each non-terminal status a task may also fail, be cancelled or
pause, and a paused task may resume or be cancelled. `Kind.moves` lists the statuses one step
away, in a fixed order; `Kind.canMove` checks one step against it.

- `rollUp` gives a parent's final status once all of its children are final: a failed child
  fails a required parent, a cancelled child cancels a required parent (or an optional one
  whose transfer was cancelled), and anything else completes it.
- `deriveTop` gives the status of a whole transfer from its parents. A terminal status is
  kept; a failed required parent fails the transfer; once every parent is final, the transfer
  is cancelled if a required parent was, or if it was asked to cancel and some parent was;
  otherwise it is in progress as soon as one parent has left `ACCEPTED`.
-/

namespace Conveyor

namespace Kind

/-- The statuses one step away from `s`, in table order. -/
def moves : Kind → Status → List Status
  | .parent, .accepted => [.staging, .failed, .cancelled, .paused]
  | .parent, .staging => [.staged, .failed, .cancelled, .paused]
  | .parent, .staged => [.inProgress, .failed, .cancelled, .paused]
  | .child, .accepted => [.inProgress, .failed, .cancelled, .paused]
  | _, .inProgress => [.completed, .failed, .cancelled, .paused]
  | _, .paused => [.inProgress, .cancelled]
  | _, _ => []

/-- Whether one step from `s` to `t` is allowed. -/
def canMove (k : Kind) (s t : Status) : Bool :=
  (k.moves s).contains t

end Kind

/-- A parent's final status from its children's statuses, or `none` while one is not final. -/
def rollUp (optional cancelRequested : Bool) (children : List Status) : Option Status :=
  if children.all Status.isTerminal then
    let anyFailed := children.contains .failed
    let anyCancelled := children.contains .cancelled
    if !optional && anyFailed then some .failed
    else if anyCancelled && (cancelRequested || !optional) then some .cancelled
    else some .completed
  else none

/-- What the transfer status needs to know of one parent. -/
structure ParentView where
  status : Status
  optional : Bool
deriving DecidableEq, Repr

/-- A transfer's status from its current status and its parents. -/
def deriveTop (current : Status) (cancelRequested : Bool) (parents : List ParentView) : Status :=
  if current.isTerminal then current
  else if parents.any (fun p => !p.optional && p.status == .failed) then .failed
  else if parents.all (·.status.isTerminal) then
    let anyCancelled := parents.any (·.status == .cancelled)
    let requiredCancelled := parents.any fun p => !p.optional && p.status == .cancelled
    if (cancelRequested && anyCancelled) || requiredCancelled then .cancelled else .completed
  else if parents.any (·.status != .accepted) then .inProgress
  else .accepted

end Conveyor
