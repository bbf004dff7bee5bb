import Conveyor.Store.Lifecycle
import Conveyor.Store.Queries
import Conveyor.Store.Workers
import Conveyor.Storage.Registry
import Conveyor.Queue
import Conveyor.Monitor
import Conveyor.Retry

/-!
# A transfer node

A `Service` is everything one node of the transfer system holds: the task store, the storage
systems, the two ready queues, the statistics, the settings of its workers and of its
dispatcher, and its clocks, with the `Calendar` that bounds the instants they can name.

Two clocks run on a node. Task times are stamps like any other; the real clock `now` moves on
by a nanosecond with every store operation, so that operations are ordered by the time they ran.
Worker times are given in milliseconds from the moment the node started (`Service.started`).
Submissions without a time of their own take theirs from `Service.clock`, milliseconds of the
task clock, whose zero is 2000-01-01T00:00:00Z (`Service.taskEpoch`).

Operations of a node run in `ServiceM`: they may stop with a `Failure`, and what they wrote
before stays written. `Service.liftStore` runs a store operation on the node's store, and
`Service.atNow` runs one that needs the current time.
-/

namespace Conveyor

/-- How the workers of a node run their pipelines. -/
structure WorkerSettings where
  retry : RetryPolicy
  /-- The buffer of a copy, in bytes. -/
  bufferSize : Nat
  /-- The most files one parent may stage. -/
  maxChildren : Nat
  /-- The deepest directory nesting a listing follows. -/
  maxDepth : Nat
  /-- Milliseconds between two stored progress counts of a copy. -/
  window : Nat

/-- How the dispatcher of a node hands out work. -/
structure DispatchSettings where
  /-- Milliseconds after which a silent worker is evicted. -/
  heartbeatTimeout : Nat
  /-- A worker holding fewer unfinished tasks than this gets more. -/
  backlogThreshold : Nat
  /-- The most ready tasks of a tenant read per cycle. -/
  maxReadyRows : Nat
  /-- The most tasks handed out per cycle. -/
  maxBatch : Nat
  /-- The most deliveries taken off a queue per cycle. -/
  prefetch : Nat
deriving Repr

/-- Milliseconds as nanoseconds. -/
def Stamp.ofMillis (ms : Int) : Int := ms * 1000000

/-- Nanoseconds as whole milliseconds, cut toward zero. -/
def Stamp.toMillis (ns : Int) : Int := Int.tdiv ns 1000000

/-- The range of the date-time library a node's dispatcher computes its cutoff with: durations of at most
`longestSpan` milliseconds convert to a stamp difference, and no instant before `earliest` can be named. -/
structure Calendar where
  /-- The longest duration, in milliseconds, that converts to a stamp difference. -/
  longestSpan : Nat
  /-- The earliest instant a stamp can be. -/
  earliest : Stamp
deriving Repr

/-- The calendar of a running node: durations up to `2 ^ 63 - 1` milliseconds, and instants from
-262144-01-01T00:00:00Z on. -/
def Calendar.standard : Calendar := ⟨Nat.pow 2 63 - 1, -8334632851200 * 1000000000⟩

/-- Everything a node holds. -/
structure Service where
  store : Store := {}
  storage : Storage := {}
  queues : WorkQueues := {}
  stats : Statistics := {}
  worker : WorkerSettings
  dispatch : DispatchSettings
  /-- The real clock. -/
  now : Stamp
  /-- The task-clock milliseconds of the next submission without a time of its own. -/
  clock : Int := 0
  calendar : Calendar := .standard

/-- An operation of a node. -/
abbrev ServiceM := ExceptT Failure (StateM Service)

namespace Service

/-- 2000-01-01T00:00:00Z, the zero of the task clock. -/
def taskEpoch : Stamp := Stamp.ofMillis 946684800000

/-- The real time a node starts at, the zero of the worker clock. -/
def started : Stamp := Stamp.ofMillis 1767225600000

/-- A stamp of the task clock. -/
def taskTime (ms : Int) : Stamp := taskEpoch + Stamp.ofMillis ms

/-- A stamp of the worker clock. -/
def workerTime (ms : Int) : Stamp := started + Stamp.ofMillis ms

/-- A fresh node. -/
def fresh (worker : WorkerSettings) (dispatch : DispatchSettings) : Service :=
  { worker, dispatch, now := started }

/-- Read the real clock and move it on. -/
def tick : ServiceM Stamp :=
  modifyGet fun w => (w.now, { w with now := w.now + 1 })

/-- Move the real clock on by some nanoseconds. -/
def advance (n : Nat) : ServiceM Unit :=
  modify fun w => { w with now := w.now + n }

/-- Run a store operation on the node's store. -/
def liftStore {α : Type} (m : StoreM α) : ServiceM α :=
  ExceptT.mk fun w =>
    let (r, st) := (ExceptT.run m).run w.store
    (r, { w with store := st })

/-- Run a store operation at the current time. -/
def atNow {α : Type} (f : Stamp → StoreM α) : ServiceM α := do
  let t ← tick
  liftStore (f t)

/-- Commit a parent's children, made at consecutive instants of the real clock. -/
def commitChildren (id : TaskId) (worker : WorkerId) (specs : List ChildSpec) :
    ServiceM (List Child) := do
  let created ← atNow (Store.commitStaging id worker specs)
  advance specs.length
  return created

/-- Stop with an error. -/
def fail {α : Type} (e : Error) : ServiceM α := throw (.error e)

/-- Run an operation and give how it ended, keeping what it wrote. -/
def outcome {α : Type} (m : ServiceM α) : ServiceM (Except Failure α) :=
  tryCatch (Except.ok <$> m) fun f => pure (Except.error f)

/-- Lift a computation that may fail with an error. -/
def guard {α : Type} (r : Except Error α) : ServiceM α :=
  match r with
  | .ok a => pure a
  | .error e => throw (.error e)

/-- Change the statistics. -/
def note (f : Statistics → Statistics) : ServiceM Unit :=
  modify fun w => { w with stats := f w.stats }

/-- Publish tasks on the queue of a kind. -/
def publish (kind : Kind) (ids : List TaskId) : ServiceM Unit :=
  modify fun w => { w with queues := w.queues.set kind ((w.queues.get kind).publishAll ids) }

/-- Run a storage operation that gives a new storage. -/
def onStorage {α : Type} (f : Storage → Except Error (α × Storage)) : ServiceM α := do
  match f (← get).storage with
  | .ok (a, st) =>
    modify fun w => { w with storage := st }
    return a
  | .error e => fail e

/-- The backend of an enabled system. -/
def resolve (system : String) : ServiceM Backend := do
  guard ((← get).storage.resolve system)

end Service

end Conveyor
