import Conveyor.Store.Cancel

/-!
# The worker's bookkeeping

A worker moves the tasks it holds through their lifecycle; every step checks that the worker
still holds the task (`NotOwner` otherwise), so a task taken away from a worker can never be
written by it.

- A parent is staged (`beginStaging`), lists its source (`recordParentRetry` counts retries),
  commits its children (`commitStaging`), and starts (`startParent`), which releases it: from then
  on its children carry it, and it rolls up when they end. `finishParent` ends it early.
- A child starts an attempt (`beginChildAttempt`, which counts it and resets its bytes), reports
  progress (`recordProgress`) and ends (`finishChild`), which rolls up its parent.
-/

namespace Conveyor
namespace Store

/-- Start or resume staging a parent. -/
def beginStaging (id : TaskId) (w : WorkerId) (now : Stamp) : StoreM Parent := do
  let p ← ownedParent id w
  let p ← match p.status with
    | .accepted => guardError (p.moveTo .staging now)
    | .staging | .staged => pure p
    | st => fail (.invalidTransition st .staging)
  putParent p
  refreshTop p.top now
  return p

/-- Count a listing retry of a parent. -/
def recordParentRetry (id : TaskId) (w : WorkerId) : StoreM Nat := do
  let p ← ownedParent id w
  let n ← guardPanic (Word.add Word.max32 p.retries 1)
  putParent { p with retries := n }
  return n

/-- Record the children of a parent, replacing an earlier list. -/
def setChildList (lists : List (TaskId × List TaskId)) (id : TaskId) (ids : List TaskId) :
    List (TaskId × List TaskId) :=
  if lists.any (·.1 == id) then lists.map fun kv => if kv.1 == id then (kv.1, ids) else kv
  else lists ++ [(id, ids)]

/-- Create the children of a parent and mark it staged. -/
def commitStaging (id : TaskId) (w : WorkerId) (specs : List ChildSpec) (now : Stamp) :
    StoreM (List Child) := do
  let p ← ownedParent id w
  let _ ← guardError (p.moveTo .staged now)
  let created ← specs.zipIdx.mapM fun (spec, i) => do
    let cid ← freshId
    pure (Child.fresh cid p spec (now + i))
  let total ← guardPanic (Word.sum Word.max64 (created.map (·.size)))
  let p ← guardError (p.moveTo .staged now)
  putParent { p with totalBytes := some total, childCount := created.length, bytes := 0 }
  modify fun s => { s with childLists := setChildList s.childLists id (created.map (·.id)) }
  for c in created do putChild c
  return created

/-- Start a staged parent: its children carry it from now on. -/
def startParent (id : TaskId) (w : WorkerId) (now : Stamp) : StoreM Parent := do
  let p ← ownedParent id w
  let p ← guardError (p.moveTo .inProgress now)
  putParent { p with worker := none }
  rollUpParent id now
  refreshTop p.top now
  parent id

/-- End a parent with a terminal status; its unfinished children no worker holds are cancelled. -/
def finishParent (id : TaskId) (w : WorkerId) (status : Status) (error : Option String)
    (now : Stamp) : StoreM Parent := do
  if !status.isTerminal then fail (.invalidRequest (status.name ++ " is not a terminal status"))
  let p ← ownedParent id w
  let p ← guardError (p.moveTo status now)
  putParent { p with worker := none, error }
  let _ ← cancelChildren ((← get).childIds id) ⟨p.top, p.tenant, true, [], []⟩ now
  refreshTop p.top now
  parent id

/-- Start or resume an attempt of a child: count it and reset its bytes. -/
def beginChildAttempt (id : TaskId) (w : WorkerId) (now : Stamp) : StoreM Child := do
  let c ← ownedChild id w
  let c ← match c.status with
    | .accepted => guardError (c.moveTo .inProgress now)
    | .inProgress => pure c
    | st => fail (.invalidTransition st .inProgress)
  putChild c
  let n ← guardPanic (Word.add Word.max32 c.retries 1)
  putChild { c with retries := n }
  setChildBytes id 0
  child id

/-- Record a child's progress. -/
def recordProgress (id : TaskId) (w : WorkerId) (bytes : Nat) : StoreM Unit := do
  let _ ← ownedChild id w
  setChildBytes id bytes

/-- End a child with a terminal status and its final byte count, then roll up its parent. -/
def finishChild (id : TaskId) (w : WorkerId) (status : Status) (bytes : Nat) (error : Option String)
    (now : Stamp) : StoreM Child := do
  if !status.isTerminal then fail (.invalidRequest (status.name ++ " is not a terminal status"))
  let c ← ownedChild id w
  let c ← guardError (c.moveTo status now)
  putChild { c with worker := none, error }
  setChildBytes id bytes
  rollUpParent c.parent now
  child id

end Store
end Conveyor
