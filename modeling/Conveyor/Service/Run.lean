import Conveyor.Service.Basic
import Conveyor.Control

/-!
# Pipeline runs

A worker runs one task at a time through a pipeline. A `Run` is what the pipeline carries besides
the node: the worker, the task, its cancellation token, and possibly a `Watch`, something that
runs beside the pipeline and reacts once to a condition.

A pipeline gives the watch a chance to act only while it waits: before each throttled read of a
copy, and during each retry delay (`Pipe.pause`). The watch checks its `Trigger` (how often a
memory path was opened for reading, or the task's stored retry count) and, the first time it
holds, performs its `Reaction`: cancel the token, deregister the worker (which takes the task
away from it), request a cancel in the store, or cancel a transfer as an engine does, which
requests the cancel and, once it is accepted, cancels the token if the action reaches the task.
-/

namespace Conveyor

/-- What a watch waits for. -/
inductive Trigger where
  /-- A memory path was opened for reading at least `count` times. -/
  | opens (memory : String) (path : String) (count : Nat)
  /-- The task's stored retry count reached `count`. -/
  | retries (count : Nat)
deriving DecidableEq, Repr

/-- What a watch does, once. -/
inductive Reaction where
  /-- Cancel the pipeline's token. -/
  | cancelToken
  /-- Deregister the pipeline's worker. -/
  | deregister
  /-- Request a cancel of a task in the store. -/
  | requestCancel (target : TaskId)
  /-- Cancel a transfer as an engine does: request the cancel in the store and, once it is
  accepted, send the cancel action to the running task. -/
  | cancelTransfer (target : TaskId)
  /-- A reaction nobody knows. -/
  | unknown (name : String)
deriving DecidableEq, Repr

/-- A watch beside a pipeline. -/
structure Watch where
  trigger : Trigger
  reaction : Reaction
  fired : Bool := false
  /-- What the store answered to a cancel request, or why the reaction failed. -/
  answer : Option (Except Failure CancelOutcome) := none

/-- What a pipeline carries besides the node. -/
structure Run where
  worker : WorkerId
  kind : Kind
  task : TaskId
  /-- Whether the pipeline's token is cancelled. -/
  cancelled : Bool := false
  watch : Option Watch := none

/-- A node with a pipeline running on it. -/
structure Pipe where
  service : Service
  run : Run

/-- A step of a pipeline. -/
abbrev PipeM := ExceptT Failure (StateM Pipe)

namespace Pipe

/-- Run a node operation inside a pipeline. -/
def lift {α : Type} (m : ServiceM α) : PipeM α :=
  ExceptT.mk fun p =>
    let (r, w) := (ExceptT.run m).run p.service
    (r, { p with service := w })

/-- Change the pipeline's run. -/
def modifyRun (f : Run → Run) : PipeM Unit := modify fun p => { p with run := f p.run }

/-- Run a step and give the error it stopped with, keeping what it wrote; a panic goes on. -/
def attempt {α : Type} (m : PipeM α) : PipeM (Except Error α) :=
  tryCatch (Except.ok <$> m) fun f =>
    match f with
    | .error e => pure (Except.error e)
    | .panic p => throw (.panic p)

/-- Whether the pipeline's token is cancelled. -/
def tokenCancelled : PipeM Bool := return (← get).run.cancelled

/-- Whether a trigger holds on a node for a task. -/
def Trigger.holds (w : Service) (kind : Kind) (task : TaskId) : Trigger → Bool
  | .opens memory path count =>
    match lookupKey memory w.storage.names with
    | some slot => (w.storage.memoryAt slot).readOpens path ≥ count
    | none => count == 0
  | .retries count =>
    match kind with
    | .parent => (Table.find? w.store.parents task).any (·.retries ≥ count)
    | .child => (Table.find? w.store.children task).any (·.retries ≥ count)

/-- The scope of the task a pipeline runs. -/
def runScope (w : Service) (r : Run) : Option Scope :=
  match r.kind with
  | .parent => (Table.find? w.store.parents r.task).map fun p => ⟨p.id, none, p.top, p.tenant⟩
  | .child => (Table.find? w.store.children r.task).map fun c => ⟨c.id, some c.parent, c.top, c.tenant⟩

/-- Perform a reaction. -/
def react (r : Run) : Reaction → PipeM (Option (Except Failure CancelOutcome))
  | .cancelToken => do
    modifyRun fun r => { r with cancelled := true }
    return none
  | .deregister => do
    lift (Service.liftStore (Store.deregisterWorker r.worker))
    return none
  | .requestCancel target => do
    let p ← get
    let (answer, w) := (ExceptT.run (Service.atNow (Store.requestCancel target))).run p.service
    set { p with service := w }
    return some answer
  | .cancelTransfer target => do
    let p ← get
    let (answer, w) := (ExceptT.run (Service.atNow (Store.requestCancel target))).run p.service
    set { p with service := w }
    if let .ok o := answer then
      if o.accepted then
        lift (Service.note Statistics.noteCancel)
        if (runScope (← get).service r).any (·.matches ⟨target, o.tenant⟩) then
          modifyRun fun r => { r with cancelled := true }
    return some answer
  | .unknown name => return some (.error (.error (.other ("unknown action " ++ name))))

/-- The pipeline waits: a watch whose trigger holds reacts, once. -/
def pause : PipeM Unit := do
  let p ← get
  match p.run.watch with
  | some watch =>
    if !watch.fired && Trigger.holds p.service p.run.kind p.run.task watch.trigger then
      modifyRun fun r => { r with watch := some { watch with fired := true } }
      let answer ← react p.run watch.reaction
      modifyRun fun r => { r with watch := some { watch with fired := true, answer } }
  | none => pure ()

/-- Wait out a retry delay; a cancelled token ends the wait with `Cancelled`. -/
def sleep : PipeM Unit := do
  if ← tokenCancelled then throw (.error .cancelled)
  pause
  if ← tokenCancelled then throw (.error .cancelled)

/-- Whether the task should stop: its token is cancelled or the store has a cancel for it. -/
def cancelRequested (id : TaskId) : PipeM Bool := do
  if ← tokenCancelled then return true
  lift (Service.liftStore (Store.isCancelRequested id))

end Pipe

end Conveyor
