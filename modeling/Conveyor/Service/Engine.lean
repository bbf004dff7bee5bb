import Conveyor.Service.Dispatch
import Conveyor.Service.Submission

/-!
# The transfer engine

An `Engine` runs a node with workers of its own. It is built idle; `Engine.start` starts the
dispatcher and spawns the configured number of workers (a second start does nothing, and a start
after `Engine.shutdown` fails). Every worker registers in the store when it is spawned.

- `Engine.stopWorker` stops a worker, which leaves the store and so releases what it held;
  `Engine.killWorker` stops it without leaving, as if its process died: it stays registered,
  silent, until the dispatcher evicts it for a stale heartbeat, and its tasks are then handed
  out again. Both pick the worker by its place among the running workers in id order.
- `Engine.submit` records a transfer under fresh ids and queues its parents; `Engine.cancel`
  requests a cancel and, when it is accepted, counts it.
- `Engine.settle` stands in for the node's loops until every transfer and task has ended: each
  round the running workers send heartbeats, and for parents and then children a dispatcher
  cycle hands out work that the running workers carry out (a failing cycle hands out nothing).
  When a round moves nothing, time jumps to the next eviction of a killed worker, if that comes
  before the deadline; otherwise the wait ends unsettled.

A watch may wait beside the pipelines: the first pipeline during whose waits its trigger holds
performs its reaction, and the engine keeps what the reaction gave.
-/

namespace Conveyor

/-- A transfer engine: its node, its workers and its state. -/
structure Engine where
  service : Service
  /-- How many workers a start spawns. -/
  initialWorkers : Nat
  /-- The running workers, in the order they were spawned. -/
  live : List WorkerId := []
  /-- Workers stopped without leaving the store. -/
  killed : List WorkerId := []
  /-- Whether the dispatcher runs. -/
  running : Bool := false
  /-- Whether the engine was shut down. -/
  shutDown : Bool := false
  /-- A watch still waiting: its trigger and its reaction. -/
  watch : Option (Trigger × Reaction) := none
  /-- What the watch's reaction gave, once it fired. -/
  watchAnswer : Option (Option (Except Failure CancelOutcome)) := none

/-- An operation of an engine. -/
abbrev EngineM := ExceptT Failure (StateM Engine)

namespace Engine

/-- Run an operation of the node. -/
def onNode {α : Type} (m : ServiceM α) : EngineM α :=
  ExceptT.mk fun e =>
    let (r, w) := (ExceptT.run m).run e.service
    (r, { e with service := w })

/-- Order workers by id. -/
def byId (ws : List WorkerId) : List WorkerId :=
  ws.mergeSort fun a b => a.uuid.value ≤ b.uuid.value

/-- The running workers, in id order. -/
def workerIds : EngineM (List WorkerId) := do return byId (← get).live

/-- A fresh worker id. -/
def freshWorker : EngineM WorkerId := do
  let id ← onNode (Service.liftStore Store.freshId)
  return ⟨id.uuid⟩

/-- Spawn a worker: it registers and runs. -/
def spawnWorker : EngineM WorkerId := do
  let w ← freshWorker
  let now ← onNode Service.tick
  onNode (Service.liftStore (Store.registerWorker ⟨w, "engine", now, now⟩))
  modify fun e => { e with live := e.live ++ [w] }
  return w

/-- Start the dispatcher and the configured workers; nothing happens if it runs already. -/
def start : EngineM (Except Error Unit) := do
  let e ← get
  if e.running then return .ok ()
  if e.shutDown then return .error (.other "transfer engine was shut down")
  set { e with running := true }
  for _ in List.range e.initialWorkers do
    let _ ← spawnWorker
  return .ok ()

/-- Stop the dispatcher and every worker; the workers leave the store. -/
def shutdown : EngineM Unit := do
  for w in (← get).live do
    onNode (Service.liftStore (Store.deregisterWorker w))
  modify fun e => { e with live := [], running := false, shutDown := true }

/-- Take a running worker away from the engine by its place in id order. -/
def takeWorker (i : Nat) : EngineM (Except Error WorkerId) := do
  match (← workerIds)[i]? with
  | some w =>
    modify fun e => { e with live := e.live.erase w }
    return .ok w
  | none =>
    let ghost ← freshWorker
    return .error (.other ("Unknown worker " ++ ghost.render))

/-- Stop a worker: it leaves the store. -/
def stopWorker (i : Nat) : EngineM (Except Error Unit) := do
  match ← takeWorker i with
  | .ok w =>
    onNode (Service.liftStore (Store.deregisterWorker w))
    return .ok ()
  | .error e => return .error e

/-- Kill a worker: it stops but stays registered. -/
def killWorker (i : Nat) : EngineM (Except Error Unit) := do
  match ← takeWorker i with
  | .ok w =>
    modify fun e => { e with killed := e.killed ++ [w] }
    return .ok ()
  | .error e => return .error e

/-- Run a node operation, giving the error it stopped with; a panic goes on. -/
def attemptNode {α : Type} (m : ServiceM α) : EngineM (Except Error α) := do
  match ← onNode (Service.outcome m) with
  | .ok a => return .ok a
  | .error (.error e) => return .error e
  | .error (.panic p) => throw (.panic p)

/-- Accept a transfer: record its tasks under fresh ids and queue its parents. -/
def submit (r : Request) : EngineM (Except Error Top) := do
  match r.validate with
  | .error e => return .error e
  | .ok () =>
    attemptNode do
      let top ← Service.liftStore Store.freshId
      let ids ← r.elements.mapM fun _ => Service.liftStore Store.freshId
      let now ← Service.tick
      let (record, parents) ← Service.guard (r.toTasks top (fun i => ids.getD i top) now)
      let created ← Service.atNow fun _ => Store.createTransfer record parents
      Service.publish .parent (parents.map (·.id))
      Service.note Statistics.noteSubmitted
      pure created

/-- Cancel a task; an accepted cancel is counted. -/
def cancel (id : TaskId) : EngineM (Except Error CancelOutcome) := do
  match ← attemptNode (Service.atNow (Store.requestCancel id)) with
  | .ok o =>
    if o.accepted then onNode (Service.note Statistics.noteCancel)
    return .ok o
  | .error e => return .error e

/-- The running workers send heartbeats. -/
def heartbeats : EngineM Unit := do
  for w in (← get).live do
    let now ← onNode Service.tick
    onNode (Service.liftStore (Store.heartbeat w now))

/-- Run one pipeline, beside the watch if it still waits. -/
def runPipeline (kind : Kind) (task : TaskId) (worker : WorkerId) : EngineM Unit := do
  let watch := (← get).watch.map fun (trigger, reaction) => ({ trigger, reaction } : Watch)
  let (_, run) ← onNode (Service.pipeline { worker, kind, task, watch })
  if let some w := run.watch then
    if w.fired then modify fun e => { e with watch := none, watchAnswer := some w.answer }

/-- Every running worker carries out the tasks of a kind it holds; gives whether any ran. -/
def work (kind : Kind) : EngineM Bool := do
  (← workerIds).foldlM (fun ran worker => do
    let ids ← onNode (Service.liftStore (Store.assignedTo kind worker))
    for id in ids do runPipeline kind id worker
    return ran || !ids.isEmpty) false

/-- One round of the node's loops; gives whether it moved anything. -/
def round : EngineM Bool := do
  heartbeats
  [Kind.parent, Kind.child].foldlM (fun moved kind => do
    let assigned := match ← onNode (Service.outcome (Service.runCycle kind)) with
      | .ok r => r.assigned
      | .error _ => 0
    let ran ← work kind
    return moved || assigned > 0 || ran) false

/-- Whether the transfers and every task have ended. -/
def settled (tops : List TaskId) : EngineM Bool := do
  let s := (← get).service.store
  return tops.all (fun t => (Table.find? s.tops t).any (·.status.isTerminal)) &&
    s.parents.all (·.status.isTerminal) && s.children.all (·.status.isTerminal)

/-- When the next killed worker still registered goes stale. -/
def nextEviction : EngineM (Option Stamp) := do
  let e ← get
  let timeout := Stamp.ofMillis e.service.dispatch.heartbeatTimeout
  let stamps := e.killed.filterMap fun w =>
    (Table.find? e.service.store.workers w).map fun r => r.heartbeat + timeout + 1
  return stamps.min?

/-- Move the real clock on to a stamp. -/
def advanceTo (t : Stamp) : EngineM Unit :=
  modify fun e => { e with service := { e.service with now := max e.service.now t } }

/-- Let the engine run until the transfers and every task have ended, for at most some rounds
and until the deadline; gives whether they did. -/
def settle (tops : List TaskId) (deadline : Stamp) : Nat → EngineM Bool
  | 0 => settled tops
  | rounds + 1 => do
    if ← settled tops then return true
    if !(← get).running then return false
    if ← round then settle tops deadline rounds
    else
      match ← nextEviction with
      | some t =>
        if t ≤ deadline then
          advanceTo t
          settle tops deadline rounds
        else return false
      | none => return false

/-- Wait until no killed worker is registered, up to the deadline; gives whether none is. -/
def awaitEviction (deadline : Stamp) : EngineM Bool := do
  match ← nextEviction with
  | none => return true
  | some t =>
    if t ≤ deadline && (← get).running then
      advanceTo t
      let _ ← onNode (Service.outcome (Service.runCycle .parent))
    return (← nextEviction).isNone

end Engine

end Conveyor
