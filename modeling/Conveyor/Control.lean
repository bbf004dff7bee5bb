import Conveyor.Task.Id

/-!
# Cancellation control

A running copy or listing holds a cancellation token, registered under its task together with
its scope: the task, its parent, its transfer and its tenant. A cancel action names one task of
one tenant and reaches every running task of that tenant whose own id, parent or transfer is
the named one.

- `Scope.matches` is that rule.
- `Registry.apply` cancels the tokens the action reaches and counts them, whether or not they
  were cancelled already.
- `Broadcast.receive` gives what a subscriber reads of a ring of `capacity` slots (rounded up
  to a power of two) after a run of sends: everything, or a count of lost actions followed by
  the last `capacity` of them.
-/

namespace Conveyor

/-- What a running task belongs to. -/
structure Scope where
  task : TaskId
  parent : Option TaskId
  top : TaskId
  tenant : String
deriving DecidableEq, Repr

/-- A request to cancel a task and all that runs beneath it. -/
structure CancelAction where
  task : TaskId
  tenant : String
deriving DecidableEq, Repr

/-- Whether a cancel action reaches a running task. -/
def Scope.matches (s : Scope) (a : CancelAction) : Bool :=
  a.tenant == s.tenant && (a.task == s.task || a.task == s.top || some a.task == s.parent)

/-- A cancellation token, named by the number it was created with. -/
abbrev Token := Nat

/-- The cancellation state of all tokens. -/
structure Tokens where
  /-- The next token to hand out. -/
  next : Nat := 0
  /-- The tokens that were cancelled. -/
  cancelled : List Token := []
deriving Repr

namespace Tokens

/-- A fresh, uncancelled token. -/
def fresh (t : Tokens) : Token × Tokens := (t.next, { t with next := t.next + 1 })

/-- Cancel a token (again, if it already is). -/
def cancel (t : Tokens) (k : Token) : Tokens :=
  if t.cancelled.contains k then t else { t with cancelled := k :: t.cancelled }

/-- Whether a token was cancelled. -/
def isCancelled (t : Tokens) (k : Token) : Bool := t.cancelled.contains k

end Tokens

/-- The running tasks, one entry per task id, each with its scope and token. -/
structure Registry where
  running : List (Scope × Token) := []
deriving Repr

namespace Registry

/-- Register a running task with its token, replacing an entry of the same task. -/
def register (r : Registry) (s : Scope) (k : Token) : Registry :=
  { running := r.running.filter (·.1.task != s.task) ++ [(s, k)] }

/-- Forget a task. -/
def unregister (r : Registry) (task : TaskId) : Registry :=
  { running := r.running.filter (·.1.task != task) }

/-- Whether a task is registered. -/
def isRunning (r : Registry) (task : TaskId) : Bool :=
  r.running.any (·.1.task == task)

/-- How many tasks are registered. -/
def size (r : Registry) : Nat := r.running.length

/-- The tokens an action reaches. -/
def reached (r : Registry) (a : CancelAction) : List Token :=
  (r.running.filter (·.1.matches a)).map (·.2)

/-- Cancel the tokens an action reaches, and count them. -/
def apply (r : Registry) (a : CancelAction) (t : Tokens) : Nat × Tokens :=
  let ks := r.reached a
  (ks.length, ks.foldl Tokens.cancel t)

end Registry

/-- What a subscriber reads from a broadcast ring. -/
inductive Reception (α : Type) where
  /-- This many messages were overwritten before they were read. -/
  | lagged (count : Nat)
  /-- A message. -/
  | message (a : α)
deriving Repr

namespace Broadcast

/-- The least power of two at or above `n` (one for zero). -/
def ceilPowerOfTwo (n : Nat) : Nat :=
  ((List.range 65).find? fun k => n ≤ Nat.pow 2 k).map (Nat.pow 2) |>.getD n

/-- What a subscriber that was there before every send reads after `sent`, with a ring of
`capacity` slots. -/
def receive {α : Type} (capacity : Nat) (sent : List α) : List (Reception α) :=
  let cap := ceilPowerOfTwo (max capacity 1)
  if sent.length > cap then
    .lagged (sent.length - cap) :: (sent.drop (sent.length - cap)).map .message
  else sent.map .message

end Broadcast

end Conveyor
