import Conveyor.Service.Run

/-!
# Launching pipelines

A worker runs the tasks it holds through pipelines of their own, several at once. Its serve loop
polls the store, and for each task of each kind assigned to it that no pipeline of its own runs
(`Registry.isRunning`), it takes a permit of a semaphore of `max 1 n` permits, reads the task's
scope, registers the task under a fresh cancellation token and spawns the pipeline. A pipeline
whose work has ended unregisters its task and then releases its permit. When the worker is told
to shut down, the loop returns at its next wait (for the poll or for a permit), and the worker
aborts the pipelines still there, which drops their permits.

A `Launcher` is the state all of them share: where the loop stands, the free permits, the
registry of running tasks and the pipelines launched. An `Event` is one atomic step of one of
them: a step of the loop, a pipeline unregistering or releasing, the shutdown. The loop reads the
store twice per task, for the assignment list and for the scope; each read sees the node as the
event gives it, so other workers, the dispatcher and users may change it between any two steps.
`Launcher.run` performs a list of events: every interleaving of the loop and its pipelines with
any changes of the store is such a list.

Left out: what a pipeline does between its spawn and its unregistering (it touches neither the
registry nor the permits), the poll timer's period, the collection of finished pipelines, and the
worker's heartbeat and control loops (the control loop cancels tokens and never registers).
-/

namespace Conveyor

/-- A pipeline a worker launched, from its spawn to the release of its permit. -/
structure Pipeline where
  kind : Kind
  task : TaskId
  token : Token
  /-- Whether it still works on its task; once it has unregistered the task it only releases its
  permit. -/
  working : Bool := true
deriving DecidableEq, Repr

/-- Where a pass of the serve loop stands: the kind whose assignment list it goes through, the
tasks of that list still to come, and the kinds whose lists are still to be read. -/
structure Pass where
  kind : Kind
  tasks : List TaskId
  kinds : List Kind
deriving DecidableEq, Repr

namespace Launcher

/-- Where the serve loop stands. -/
inductive Loop where
  /-- Waiting for the next poll. -/
  | waiting
  /-- Reading the assignment lists of these kinds, in turn. -/
  | reading (kinds : List Kind)
  /-- Going through an assignment list. -/
  | checking (pass : Pass)
  /-- Waiting for a permit to launch a task. -/
  | acquiring (task : TaskId) (pass : Pass)
  /-- Holding a permit, reading the task's scope. -/
  | scoping (task : TaskId) (pass : Pass)
  /-- Holding a permit, registering the task under its scope. -/
  | registering (scope : Scope) (pass : Pass)
  /-- Holding a permit, the task registered under a token, spawning its pipeline. -/
  | spawning (task : TaskId) (token : Token) (pass : Pass)
  /-- The loop returned. -/
  | stopped
deriving DecidableEq, Repr

end Launcher

/-- A worker's serve loop and the pipelines it launched. -/
structure Launcher where
  worker : WorkerId
  loop : Launcher.Loop := .waiting
  /-- Whether the worker was told to shut down. -/
  shutdown : Bool := false
  /-- The free permits of the semaphore. -/
  permits : Nat
  registry : Registry := {}
  tokens : Tokens := {}
  pipelines : List Pipeline := []

namespace Launcher

/-- One atomic step of a worker's serve loop or of one of its pipelines. -/
inductive Event where
  /-- The serve loop takes its next step; a read of the store sees the node `w`. -/
  | serve (w : Service)
  /-- The worker is told to shut down. -/
  | shutdown
  /-- The pipeline at this place has ended its work and unregisters its task. -/
  | unregister (i : Nat)
  /-- The pipeline at this place, its task unregistered, releases its permit and ends. -/
  | release (i : Nat)
  /-- The loop having returned, the worker aborts the pipeline at this place. -/
  | abort (i : Nat)

/-- A worker about to serve, with a semaphore of `max 1 n` permits. -/
def start (worker : WorkerId) (n : Nat) : Launcher := { worker, permits := max 1 n }

/-- The kinds of task the loop reads, in the order it reads them. -/
def pollOrder : List Kind := [.parent, .child]

/-- The next step of the serve loop, its reads of the store seeing the node `w`. -/
def serveStep (l : Launcher) (w : Service) : Launcher :=
  match l.loop with
  | .waiting => if l.shutdown then { l with loop := .stopped } else { l with loop := .reading pollOrder }
  | .reading [] => { l with loop := .waiting }
  | .reading (kind :: kinds) =>
    -- a store that cannot answer skips the kind
    match ((ExceptT.run (Store.assignedTo kind l.worker)).run w.store).1 with
    | .ok tasks => { l with loop := .checking ⟨kind, tasks, kinds⟩ }
    | .error _ => { l with loop := .reading kinds }
  | .checking ⟨_, [], kinds⟩ => { l with loop := .reading kinds }
  | .checking ⟨kind, task :: tasks, kinds⟩ =>
    if l.registry.isRunning task then { l with loop := .checking ⟨kind, tasks, kinds⟩ }
    else { l with loop := .acquiring task ⟨kind, tasks, kinds⟩ }
  | .acquiring task pass =>
    if l.shutdown then { l with loop := .stopped }
    else if l.permits = 0 then l
    else { l with permits := l.permits - 1, loop := .scoping task pass }
  | .scoping task pass =>
    -- a task the store no longer has is skipped, and its permit dropped
    match Pipe.runScope w { worker := l.worker, kind := pass.kind, task } with
    | some scope => { l with loop := .registering scope pass }
    | none => { l with permits := l.permits + 1, loop := .checking pass }
  | .registering scope pass =>
    let (token, tokens) := l.tokens.fresh
    { l with registry := l.registry.register scope token, tokens,
             loop := .spawning scope.task token pass }
  | .spawning task token pass =>
    { l with pipelines := l.pipelines ++ [⟨pass.kind, task, token, true⟩], loop := .checking pass }
  | .stopped => l

/-- The pipeline at place `i` unregisters its task, if it still works on it. -/
def unregister (l : Launcher) (i : Nat) : Launcher :=
  match l.pipelines[i]? with
  | some p =>
    if p.working then
      { l with registry := l.registry.unregister p.task,
               pipelines := l.pipelines.set i { p with working := false } }
    else l
  | none => l

/-- The pipeline at place `i` releases its permit and ends, if it has unregistered its task. -/
def release (l : Launcher) (i : Nat) : Launcher :=
  match l.pipelines[i]? with
  | some p =>
    if p.working then l
    else { l with permits := l.permits + 1, pipelines := l.pipelines.eraseIdx i }
  | none => l

/-- Once the loop has returned, the worker aborts the pipeline at place `i`: its permit is
dropped, and its task stays registered. -/
def abort (l : Launcher) (i : Nat) : Launcher :=
  if l.loop = .stopped ∧ i < l.pipelines.length then
    { l with permits := l.permits + 1, pipelines := l.pipelines.eraseIdx i }
  else l

/-- Perform one event. -/
def step (l : Launcher) : Event → Launcher
  | .serve w => l.serveStep w
  | .shutdown => { l with shutdown := true }
  | .unregister i => l.unregister i
  | .release i => l.release i
  | .abort i => l.abort i

/-- Perform a list of events, in order. -/
def run (l : Launcher) (events : List Event) : Launcher := events.foldl step l

end Launcher

end Conveyor
