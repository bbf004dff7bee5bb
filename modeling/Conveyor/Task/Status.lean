/-!
# Task statuses and kinds

Every task, at each of the three levels (Top, Parent, Child), is in one of eight statuses.
`COMPLETED`, `FAILED` and `CANCELLED` are terminal: nothing leaves them. `STAGING`, `STAGED`,
`IN_PROGRESS` and `PAUSED` are active. `ACCEPTED` is neither.

Parents and children are the two schedulable kinds; each has its own queue.
-/

namespace Conveyor

/-- The lifecycle status shared by every task level. -/
inductive Status where
  /-- Persisted, waiting for a worker. -/
  | accepted
  /-- A parent is listing its source. -/
  | staging
  /-- A parent's children are committed. -/
  | staged
  /-- Work is running. -/
  | inProgress
  /-- Work is suspended. -/
  | paused
  /-- Finished successfully. -/
  | completed
  /-- Finished with an error. -/
  | failed
  /-- Finished because cancellation was requested. -/
  | cancelled
deriving DecidableEq, Repr, Inhabited

namespace Status

/-- All statuses, in lifecycle order. -/
def all : List Status :=
  [accepted, staging, staged, inProgress, paused, completed, failed, cancelled]

/-- A terminal status is final. -/
def isTerminal : Status → Bool
  | completed | failed | cancelled => true
  | _ => false

/-- An active status is one of running or paused work. -/
def isActive : Status → Bool
  | staging | staged | inProgress | paused => true
  | _ => false

/-- The stable upper-case name. -/
def name : Status → String
  | accepted => "ACCEPTED"
  | staging => "STAGING"
  | staged => "STAGED"
  | inProgress => "IN_PROGRESS"
  | paused => "PAUSED"
  | completed => "COMPLETED"
  | failed => "FAILED"
  | cancelled => "CANCELLED"

/-- The status with an upper-case name. -/
def ofName? (s : String) : Option Status :=
  all.find? (·.name == s)

end Status

/-- A schedulable task level. -/
inductive Kind where
  /-- One source and destination element. -/
  | parent
  /-- One file copy. -/
  | child
deriving DecidableEq, Repr, Inhabited

namespace Kind

/-- The lower-case name. -/
def name : Kind → String
  | parent => "parent"
  | child => "child"

/-- The kind with a lower-case name. -/
def ofName? : String → Option Kind
  | "parent" => some parent
  | "child" => some child
  | _ => none

/-- The name of the queue of ready tasks of this kind. -/
def queueName : Kind → String
  | parent => "parent-ready"
  | child => "child-ready"

end Kind

end Conveyor
