import Conveyor.Task.Id
import Conveyor.Task.Status

/-!
# Task records

A transfer is a tree of tasks three levels deep. The Top task stands for the user's request;
each of its Parent tasks moves one source to one destination, and a staged Parent has one Child
task per file to copy. Workers register themselves and take Parent and Child tasks.

Times are instants in nanoseconds since 1970-01-01T00:00:00Z (`Stamp`).
-/

namespace Conveyor

/-- An instant, in nanoseconds since 1970-01-01T00:00:00Z. -/
abbrev Stamp := Int

/-- A user's transfer request. -/
structure Top where
  id : TaskId
  tenant : String
  user : String
  tag : Option String
  status : Status
  /-- The error of the first required failure. -/
  error : Option String
  /-- Whether a cancel was accepted for this transfer. -/
  cancelRequested : Bool
  /-- The parents, in submission order. -/
  parents : List TaskId
  created : Stamp
  /-- When the first parent left `ACCEPTED`. -/
  started : Option Stamp
  /-- When the status became terminal. -/
  ended : Option Stamp
deriving DecidableEq, Repr, Inhabited

/-- One source and destination element of a transfer. -/
structure Parent where
  id : TaskId
  top : TaskId
  tenant : String
  source : String
  destination : String
  status : Status
  optional : Bool
  /-- The total size of the children, once staged. -/
  totalBytes : Option Nat
  bytes : Nat
  childCount : Nat
  worker : Option WorkerId
  retries : Nat
  error : Option String
  created : Stamp
  started : Option Stamp
  ended : Option Stamp
deriving DecidableEq, Repr, Inhabited

/-- A file a staged parent will copy. -/
structure ChildSpec where
  source : String
  destination : String
  size : Nat
deriving DecidableEq, Repr

/-- One file copy. -/
structure Child where
  id : TaskId
  parent : TaskId
  top : TaskId
  tenant : String
  source : String
  destination : String
  status : Status
  size : Nat
  bytes : Nat
  optional : Bool
  worker : Option WorkerId
  retries : Nat
  error : Option String
  created : Stamp
  started : Option Stamp
  ended : Option Stamp
deriving DecidableEq, Repr, Inhabited

/-- A registered worker. -/
structure Worker where
  id : WorkerId
  host : String
  registered : Stamp
  heartbeat : Stamp
deriving DecidableEq, Repr, Inhabited

/-- A worker is live if it was heard from at or after the cutoff. -/
def Worker.isLive (w : Worker) (cutoff : Stamp) : Bool := w.heartbeat ≥ cutoff

/-- A new accepted transfer. -/
def Top.fresh (id : TaskId) (tenant user : String) (tag : Option String) (created : Stamp) : Top :=
  ⟨id, tenant, user, tag, .accepted, none, false, [], created, none, none⟩

/-- A new accepted parent of a transfer. -/
def Parent.fresh (id : TaskId) (top : Top) (source destination : String) (optional : Bool)
    (created : Stamp) : Parent :=
  ⟨id, top.id, top.tenant, source, destination, .accepted, optional, none, 0, 0, none, 0, none,
   created, none, none⟩

/-- A new accepted child of a parent. -/
def Child.fresh (id : TaskId) (p : Parent) (spec : ChildSpec) (created : Stamp) : Child :=
  ⟨id, p.id, p.top, p.tenant, spec.source, spec.destination, .accepted, spec.size, 0, p.optional,
   none, 0, none, created, none, none⟩

end Conveyor
