import Conveyor.Task.Record
import Conveyor.Uri.Location
import Conveyor.Text.Blank

/-!
# Transfer requests

A request names a tenant, a user, an optional tag and the elements to move, each a source and a
destination location and whether the element is optional. A request is valid when tenant and
user are not blank, it has an element, and every location reads as a hierarchical location;
the first failure is reported, sources before destinations, element by element.

`Request.toTasks` turns a valid request into an accepted Top task and one accepted Parent task
per element, in order, under the ids and the creation time given.
-/

namespace Conveyor

/-- One source and destination of a request. -/
structure Element where
  source : String
  destination : String
  optional : Bool := false
deriving DecidableEq, Repr

/-- A user's request to move data. -/
structure Request where
  tenant : String
  user : String
  tag : Option String := none
  elements : List Element
deriving DecidableEq, Repr

namespace Request

/-- Check a request. -/
def validate (r : Request) : Except Error Unit := do
  if (trimBlank r.tenant).isEmpty then throw (.invalidRequest "tenant must not be empty")
  if (trimBlank r.user).isEmpty then throw (.invalidRequest "user must not be empty")
  if r.elements.isEmpty then throw (.invalidRequest "a transfer needs at least one element")
  for e in r.elements do
    let _ ← Location.parse e.source
    let _ ← Location.parse e.destination

/-- The tasks of a valid request: the Top task under `topId` and one parent per element, the
`i`-th under `parentId i`, all created at `now`. -/
def toTasks (r : Request) (topId : TaskId) (parentId : Nat → TaskId) (now : Stamp) :
    Except Error (Top × List Parent) := do
  r.validate
  let top := Top.fresh topId r.tenant r.user r.tag now
  let parents := r.elements.zipIdx.map fun (e, i) =>
    Parent.fresh (parentId i) top e.source e.destination e.optional now
  pure (top, parents)

end Request

end Conveyor
