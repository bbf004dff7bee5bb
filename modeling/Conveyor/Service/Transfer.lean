import Conveyor.Service.Stream
import Conveyor.Service.Staging

/-!
# Copying a child

The child pipeline copies one file, attempt after attempt:

- a child with a cancel is finished `CANCELLED` (with 0 bytes, "cancelled by request");
- a child that used up its attempts is finished `FAILED` ("gave up after n attempts");
- otherwise an attempt starts (`Store.beginChildAttempt` counts it) and copies the source into
  the destination, storing progress as it goes;
- a copy that ends finishes the child `COMPLETED` with the bytes copied; one stopped by the token
  finishes it `CANCELLED`; a transient failure, with attempts left, waits a retry delay and tries
  again (a cancel during the wait finishes it `CANCELLED`); a failure of the store's bookkeeping
  ends the pipeline with that error; any other failure finishes it `FAILED` with the failure's
  text.

The statistics count every attempt (and whether it was a retry) and how each child ended.
-/

namespace Conveyor

namespace Pipe

/-- Finish a child. -/
def finishChild (id : TaskId) (status : Status) (bytes : Nat) (error : Option String) :
    PipeM Child := do
  let worker := (← get).run.worker
  lift (Service.atNow (Store.finishChild id worker status bytes error))

/-- Finish a child as cancelled. -/
def cancelChild (id : TaskId) : PipeM Child := do
  lift (Service.note Statistics.noteCancelled)
  finishChild id .cancelled 0 (some cancelledByRequest)

/-- One copy of a child's source into its destination. -/
def copyOnce (c : Child) : PipeM Nat := do
  let source ← lift (Service.guard (Location.parse c.source))
  let destination ← lift (Service.guard (Location.parse c.destination))
  let reader ← lift (Service.resolve source.system)
  let writer ← lift (Service.resolve destination.system)
  let src ← lift (Service.onStorage (·.openRead reader source.path))
  let sink ← lift (Service.onStorage (·.openWrite writer destination.path))
  let w := (← get).service.worker
  let events := timedEvents (src.pieces w.bufferSize).1.length src.delay w.window
  match ← copy src sink w.bufferSize c.source c.id events with
  | .ok n => return n
  | .error e => throw (.error e)

/-- Attempt a child's copy until it ends. -/
def attemptChild (id : TaskId) : Nat → Nat → PipeM Child
  | 0, made => do
    lift (Service.note Statistics.noteFailed)
    finishChild id .failed 0 (some ("gave up after " ++ toString made ++ " attempts"))
  | fuel + 1, made => do
    if ← cancelRequested id then return ← cancelChild id
    let policy := (← get).service.worker.retry
    if !policy.canRetry made then
      lift (Service.note Statistics.noteFailed)
      return ← finishChild id .failed 0 (some ("gave up after " ++ toString made ++ " attempts"))
    let worker := (← get).run.worker
    let attempt' ← lift (Service.atNow (Store.beginChildAttempt id worker))
    let made := attempt'.retries
    lift (Service.note (·.noteAttempt (made > 1)))
    match ← attempt (copyOnce attempt') with
    | .ok bytes =>
      lift (Service.note (·.noteCompleted bytes 0))
      finishChild id .completed bytes none
    | .error .cancelled => cancelChild id
    | .error e =>
      if e.shouldRetry && policy.canRetry made then
        match ← attempt sleep with
        | .error _ => cancelChild id
        | .ok () => attemptChild id fuel made
      else if e.isBookkeeping then throw (.error e)
      else
        lift (Service.note Statistics.noteFailed)
        finishChild id .failed 0 (some e.message)

/-- Run the child pipeline. -/
def runChild (id : TaskId) : PipeM Child := do
  let c ← lift (Service.liftStore (Store.child id))
  attemptChild id ((← get).service.worker.retry.maxRetries + 1) c.retries

end Pipe

end Conveyor
