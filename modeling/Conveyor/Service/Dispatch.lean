import Conveyor.Service.Transfer
import Conveyor.Schedule.Fair

/-!
# Dispatching work

One cycle of the dispatcher for a kind of task (`Service.runCycle`):

1. evict the workers not heard from within the heartbeat timeout, and release the tasks held by
   workers that are gone;
2. take the deliveries off the kind's ready queue, acknowledging those of known tasks and
   dropping the others;
3. find the needy workers, whose count of unfinished tasks is below the backlog threshold,
   least loaded first (ties by id), and read the ready tasks, oldest first and at most
   `maxReadyRows` per tenant;
4. interleave the tenants fairly into a batch of at most `maxBatch` tasks and of the needy
   workers' total deficit, split it into consecutive runs, one per needy worker, and assign.

`Service.runWatched` runs one pipeline beside a watch. `Service.drive` stands in for the node's loops: each round runs a cycle for parents, lets every
worker (in id order) run the pipelines of the parents it holds, then does the same for
children; it stops after a round that moved nothing, and logs every pipeline run.
-/

namespace Conveyor

/-- What one dispatcher cycle did. -/
structure CycleReport where
  workersEvicted : Nat := 0
  assignmentsReclaimed : Nat := 0
  intakeAcked : Nat := 0
  intakeRequeued : Nat := 0
  needyWorkers : Nat := 0
  assigned : Nat := 0
deriving DecidableEq, Repr

/-- The record a pipeline ends with. -/
inductive TaskRecord where
  | parent (p : Parent)
  | child (c : Child)
deriving DecidableEq, Repr

/-- The status of a record. -/
def TaskRecord.status : TaskRecord → Status
  | .parent p => p.status
  | .child c => c.status

/-- One pipeline run of a drive. -/
structure DriveEntry where
  kind : Kind
  task : TaskId
  worker : WorkerId
  outcome : Except Error Status

namespace Service

/-- The cutoff of liveness: now minus the heartbeat timeout. A timeout the calendar cannot convert is
refused; a cutoff before the calendar's earliest instant is a panic. -/
def cutoff : ServiceM Stamp := do
  let w ← get
  let timeout := w.dispatch.heartbeatTimeout
  if timeout > w.calendar.longestSpan then
    fail (.config "Invalid heartbeat timeout: Source duration value is out of range for the target type")
  let now ← tick
  let c := now - Stamp.ofMillis timeout
  if c < w.calendar.earliest then throw (.panic .timeUnderflow)
  return c

/-- Take the deliveries off a kind's queue: acknowledge known tasks, drop the others. -/
def intake (kind : Kind) (report : CycleReport) : ServiceM CycleReport := do
  let w ← get
  let (deliveries, q) := (w.queues.get kind).consume w.dispatch.prefetch
  set { w with queues := w.queues.set kind q }
  deliveries.foldlM (fun report d => do
    let known ← liftStore (Store.contains kind d.id)
    let w ← get
    if known then
      let (_, q) := (w.queues.get kind).ack d.tag
      set { w with queues := w.queues.set kind q }
      return { report with intakeAcked := report.intakeAcked + 1 }
    else
      let (_, q) := (w.queues.get kind).nack d.tag false
      set { w with queues := w.queues.set kind q }
      return report) report

/-- Assign the ids of a batch to their workers, counting the assignments made. -/
def assignAll (kind : Kind) (plan : List (WorkerId × List TaskId)) : ServiceM Nat :=
  plan.foldlM (fun n (worker, ids) =>
    ids.foldlM (fun n id => do
      if ← atNow fun _ => Store.assign kind id worker then return n + 1 else return n) n) 0

/-- One dispatcher cycle for a kind. -/
def runCycle (kind : Kind) : ServiceM CycleReport := do
  let c ← cutoff
  let evicted ← liftStore (Store.evictStale c)
  let reclaimed ← atNow fun _ => Store.clearOrphans kind
  let report ← intake kind { workersEvicted := evicted.length, assignmentsReclaimed := reclaimed }
  let backlogs ← atNow fun _ => Store.backlogs kind
  let d := (← get).dispatch
  let needy := (backlogs.filter (·.2 < d.backlogThreshold)).mergeSort fun a b =>
    a.2 < b.2 || (a.2 == b.2 && a.1.uuid.value ≤ b.1.uuid.value)
  let report := { report with needyWorkers := needy.length }
  if needy.isEmpty then return report
  let deficit ← match Word.sum Word.max64 (needy.map fun (_, b) => d.backlogThreshold - b) with
    | .ok n => pure n
    | .error p => throw (.panic p)
  let limit := min d.maxBatch deficit
  let ready ← atNow fun _ => Store.readyIds kind d.maxReadyRows
  let batch := fairInterleave ready limit
  let assigned ← assignAll kind (distribute batch (needy.map (·.1)))
  return { report with assigned }

/-- Run a pipeline; gives its record or the error it ended with, and the run as it ended. A panic
stops the operation. -/
def pipeline (r : Run) : ServiceM (Except Error TaskRecord × Run) :=
  ExceptT.mk fun w =>
    let m : PipeM TaskRecord := match r.kind with
      | .parent => TaskRecord.parent <$> Pipe.runParent r.task
      | .child => TaskRecord.child <$> Pipe.runChild r.task
    let (res, p) := (ExceptT.run m).run ⟨w, r⟩
    match res with
    | .ok rec => (.ok (.ok rec, p.run), p.service)
    | .error (.error e) => (.ok (.error e, p.run), p.service)
    | .error (.panic x) => (.error (.panic x), p.service)

/-- What a pipeline run beside a watch gave. -/
structure WatchedRun where
  /-- Whether the watch reacted. -/
  triggered : Bool
  /-- What its cancel request gave, or why its reaction failed. -/
  answer : Option (Except Failure CancelOutcome)
  pipeline : Except Error TaskRecord

/-- Run a pipeline with a fresh token beside a watch. -/
def runWatched (kind : Kind) (task : TaskId) (worker : WorkerId) (trigger : Trigger)
    (reaction : Reaction) : ServiceM WatchedRun := do
  let (res, run) ← pipeline { worker, kind, task, watch := some { trigger, reaction } }
  match run.watch with
  | some w => return ⟨w.fired, w.answer, res⟩
  | none => return ⟨false, none, res⟩

/-- Let every worker run the pipelines of the tasks of a kind it holds. -/
def work (kind : Kind) : ServiceM (List DriveEntry) := do
  let workers := ((← get).store.workers.map (·.id)).mergeSort fun a b =>
    a.uuid.value ≤ b.uuid.value
  workers.foldlM (fun log worker => do
    let ids ← liftStore (Store.assignedTo kind worker)
    ids.foldlM (fun log id => do
      let (res, _) ← pipeline { worker, kind, task := id }
      return log ++ [⟨kind, id, worker, res.map TaskRecord.status⟩]) log) []

/-- One round of the drive: gives whether it moved anything, and its log. -/
def driveRound : ServiceM (Bool × List DriveEntry) := do
  [Kind.parent, Kind.child].foldlM (fun (moved, log) kind => do
    let report ← runCycle kind
    let entries ← work kind
    return (moved || report.assigned > 0 || !entries.isEmpty, log ++ entries)) (false, [])

/-- Drive the node for at most some rounds, stopping after a round that moved nothing. -/
def drive : Nat → ServiceM (List DriveEntry)
  | 0 => return []
  | rounds + 1 => do
    let (moved, log) ← driveRound
    if moved then return log ++ (← drive rounds) else return log

end Service

end Conveyor
