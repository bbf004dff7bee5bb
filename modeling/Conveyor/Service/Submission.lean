import Conveyor.Service.Basic
import Conveyor.Request

/-!
# Submitting transfers

A transfer enters a node with the identifiers its caller chose, at a time of the task clock: the
transfer at that time, its `i`-th parent (counted from 0) one millisecond later for each place,
`i + 1` milliseconds after it, unless the parent brings a time of its own. A submission without a
time takes the node's `clock`, and every submission moves the clock to one second and the number
of parents past its time, so that consecutive submissions never share an instant.

- `Service.create` stores a transfer built from its parts; a parent may name another transfer
  (the store then refuses it), and the parents may be published on the parent queue.
- `Service.submit` builds the transfer from a request, as a user submits it: the request must be
  valid, and there must be one identifier per element. The parents are published and the
  submission is counted.
-/

namespace Conveyor

/-- A parent as a caller builds it. -/
structure NewParent where
  id : TaskId
  source : String
  destination : String
  optional : Bool := false
  /-- The transfer it names, if not the one it is submitted with. -/
  top : Option TaskId := none
  /-- Its own creation time, in milliseconds of the task clock. -/
  createdAt : Option Int := none
deriving DecidableEq, Repr

namespace Service

/-- The time of a submission, and the clock after it. -/
def submissionTime (at? : Option Int) (parents : Nat) : ServiceM Int := do
  let t := at?.getD (← get).clock
  modify fun w => { w with clock := t + 1000 + parents }
  return t

/-- Store a transfer built from its parts. -/
def create (top : TaskId) (tenant user : String) (tag : Option String) (at? : Option Int)
    (publish : Bool) (parents : List NewParent) : ServiceM Top := do
  let t ← submissionTime at? parents.length
  let record := Top.fresh top tenant user tag (taskTime t)
  let ps := parents.zipIdx.map fun (p, i) =>
    { Parent.fresh p.id record p.source p.destination p.optional
        (taskTime (p.createdAt.getD (t + i + 1))) with top := p.top.getD top }
  let created ← atNow fun _ => Store.createTransfer record ps
  if publish then Service.publish .parent (ps.map (·.id))
  return created

/-- Submit a request under chosen identifiers; gives `none` when the identifiers of the parents
do not match the elements one for one. -/
def submit (top : TaskId) (names : List TaskId) (at? : Option Int) (r : Request) :
    ServiceM (Option Top) := do
  let (record, parents) ← guard (r.toTasks top (fun i => names.getD i top) 0)
  if names.length != parents.length then return none
  let t ← submissionTime at? parents.length
  let record := { record with created := taskTime t }
  let parents := parents.zipIdx.map fun (p, i) => { p with created := taskTime (t + i + 1) }
  let created ← atNow fun _ => Store.createTransfer record parents
  Service.publish .parent (parents.map (·.id))
  note Statistics.noteSubmitted
  return some created

end Service

end Conveyor
