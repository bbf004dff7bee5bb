import Conveyor.Service.Run
import Conveyor.Uri.Location

/-!
# Staging a parent

The parent pipeline turns one element of a transfer into its files. It is run by the worker the
parent is assigned to; every store write names that worker, so a parent taken away from it
fails its next write with `NotOwner`, which ends the pipeline with that error.

- A parent with a cancel is finished `CANCELLED`.
- Otherwise the parent is staged (`Store.beginStaging`). One already `STAGED` only publishes its
  unfinished children again and starts.
- Staging reads the source: a file is one child; a directory is listed level by level, depth
  first, every file below it one child, in the order of their sources. A listing deeper than
  `maxDepth` or with more than `maxChildren` files fails. Transient failures of `stat` and
  `list` are retried as the retry policy allows, each retry counted in the store and followed
  by a retry delay.
- A staged parent commits its children, publishes the unfinished ones on the child queue and
  starts (`Store.startParent`): from then on its children carry it.
- A cancel during staging finishes it `CANCELLED`; a missing source of an optional parent
  commits no children; a failure of the store's bookkeeping ends the pipeline with that error;
  any other failure finishes the parent `FAILED` with the failure's text.
-/

namespace Conveyor

/-- The error text of a task stopped by a cancel. -/
def cancelledByRequest : String := "cancelled by request"

/-- Whether a failure is the store's bookkeeping refusing a write. -/
def Error.isBookkeeping (e : Error) : Bool := e.kind == .state || e.kind == .store

/-- The objects of the storage's memories and the items of its disk, together. -/
def Storage.width (st : Storage) : Nat :=
  (st.memories.map fun m => m.objects.length).foldl (· + ·) 0 + st.disk.items.length

namespace Pipe

/-- Run a storage query, retrying transient failures as the policy allows. -/
def withRetry {α : Type} (query : Storage → Except Error α) (id : TaskId) :
    Nat → Nat → PipeM α
  | 0, _ => throw (.error .cancelled)
  | fuel + 1, attempts => do
    match query (← get).service.storage with
    | .ok a => return a
    | .error e =>
      let w := (← get).service
      if e.shouldRetry && w.worker.retry.canRetry (attempts + 1) then
        let worker := (← get).run.worker
        let _ ← lift (Service.liftStore (Store.recordParentRetry id worker))
        sleep
        withRetry query id fuel (attempts + 1)
      else throw (.error e)

/-- Run a storage query with retries. -/
def retrying {α : Type} (query : Storage → Except Error α) (id : TaskId) : PipeM α := do
  withRetry query id ((← get).service.worker.retry.maxRetries + 1) 0

/-- Where a listing stands: the files found and the directories still to list, with depths. -/
structure Listing where
  found : List ChildSpec := []
  pending : List (String × Nat)
deriving Repr

/-- Add the entries of one directory to a listing. -/
def addEntries (source destination : Location) (depth : Nat) :
    List Entry → Listing → Except Error Listing
  | [], l => .ok l
  | e :: rest, l =>
    if e.isDir then
      addEntries source destination depth rest { l with pending := l.pending ++ [(e.path, depth)] }
    else
      match source.relativeTo e.path with
      | some relative =>
        let spec : ChildSpec :=
          ⟨(source.withPath e.path).render, (destination.join relative).render, e.size⟩
        addEntries source destination depth rest { l with found := l.found ++ [spec] }
      | none => .error (.other (e.path ++ " listed outside of " ++ source.render))

/-- List the directories of a listing, deepest pending first. -/
def enumerate (b : Backend) (source destination : Location) (id : TaskId) :
    Nat → Listing → PipeM (List ChildSpec)
  | 0, l => return l.found
  | fuel + 1, l =>
    match l.pending.getLast? with
    | none => return l.found
    | some (dir, depth) => do
      let l := { l with pending := l.pending.dropLast }
      if ← tokenCancelled then throw (.error .cancelled)
      let w := (← get).service.worker
      if depth > w.maxDepth then
        throw (.error (.other (dir ++ ": directory nesting exceeds " ++ toString w.maxDepth ++
          " levels")))
      let entries ← retrying (·.list b dir) id
      let l ← match addEntries source destination (depth + 1) entries l with
        | .ok l => pure l
        | .error e => throw (.error e)
      if l.found.length > w.maxChildren then
        throw (.error (.other (source.render ++ " holds more than " ++ toString w.maxChildren ++
          " files")))
      enumerate b source destination id fuel l

/-- A bound on the rounds of a listing. No listing of the node's storage holds more entries than its
`width`; a listing that may go `maxDepth` levels down then lists at most
`1 + width + ... + width ^ maxDepth` directories, fewer than `(width + 2) ^ (maxDepth + 1)`. -/
def listingBound (w : Service) : Nat := Nat.pow (w.storage.width + 2) (w.worker.maxDepth + 1)

/-- Find the files of a parent. -/
def stage (parent : Parent) : PipeM (List ChildSpec) := do
  let source ← lift (Service.guard (Location.parse parent.source))
  let destination ← lift (Service.guard (Location.parse parent.destination))
  let reader ← lift (Service.resolve source.system)
  let _ ← lift (Service.resolve destination.system)
  let root ← retrying (·.stat reader source.path) parent.id
  let children ← if root.isDir then do
      let found ← enumerate reader source destination parent.id (listingBound (← get).service)
        { pending := [(root.path, 0)] }
      pure (found.mergeSort fun a b => decide (a.source ≤ b.source))
    else pure [⟨source.render, destination.render, root.size⟩]
  if ← cancelRequested parent.id then throw (.error .cancelled)
  return children

/-- Finish a parent with a status and an error text. -/
def finishParent (id : TaskId) (status : Status) (error : String) : PipeM Parent := do
  let worker := (← get).run.worker
  lift (Service.atNow (Store.finishParent id worker status (some error)))

/-- Commit children, made at consecutive instants of the real clock. -/
def commit (id : TaskId) (specs : List ChildSpec) : PipeM (List Child) := do
  let worker := (← get).run.worker
  lift (Service.commitChildren id worker specs)

/-- Publish a parent's unfinished children and start it. -/
def publishAndStart (id : TaskId) : PipeM Parent := do
  let children ← lift (Service.liftStore (Store.childrenOf id))
  lift (Service.publish .child ((children.filter fun c => !c.status.isTerminal).map (·.id)))
  let worker := (← get).run.worker
  lift (Service.atNow (Store.startParent id worker))

/-- Run the parent pipeline. -/
def runParent (id : TaskId) : PipeM Parent := do
  let parent ← lift (Service.liftStore (Store.parent id))
  if ← cancelRequested parent.id then return ← finishParent id .cancelled cancelledByRequest
  let worker := (← get).run.worker
  let parent ← lift (Service.atNow (Store.beginStaging id worker))
  if parent.status == .staged then return ← publishAndStart id
  match ← attempt (stage parent) with
  | .ok children =>
    let _ ← commit id children
    lift (Service.note Statistics.noteStaged)
    publishAndStart id
  | .error .cancelled => finishParent id .cancelled cancelledByRequest
  | .error (.notFound path) =>
    if parent.optional then
      let _ ← commit id []
      publishAndStart id
    else finishParent id .failed (Error.notFound path).message
  | .error e =>
    if e.isBookkeeping then throw (.error e)
    else finishParent id .failed e.message

end Pipe

end Conveyor
