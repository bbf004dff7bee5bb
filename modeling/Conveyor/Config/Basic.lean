import Conveyor.Retry

/-!
# Engine configuration

A `Config` holds every setting of an engine, in six sections: the dispatcher, the worker pool,
the retry policy, progress persistence, staging limits and logging. Every setting has a default
(`Config.default`); the only one that depends on the machine is how many pipelines a worker runs
at once, the machine's processor count but at least two.

`Config.validate` accepts only settings the dispatcher and the pipelines can run with. It checks
in a fixed order and reports the first failure: the dispatcher's timeout, backlog threshold,
batch limits and idle backoff, the worker's concurrency and heartbeat, the retry policy, the
progress window, the staging limit, and last the log level.
-/

namespace Conveyor

/-- Dispatcher settings; times in milliseconds. -/
structure Config.Dispatch where
  heartbeatTimeoutMs : Nat := 600000
  backlogThreshold : Nat := 4
  maxReadyRows : Nat := 1000
  maxBatchSize : Nat := 100
  idleBackoffBaseMs : Nat := 100
  idleBackoffMaxMs : Nat := 5000
  queuePrefetch : Nat := 256
deriving DecidableEq, Repr

/-- Worker pool settings; times in milliseconds. -/
structure Config.Workers where
  heartbeatIntervalMs : Nat := 30000
  pollIntervalMs : Nat := 250
  maxConcurrentTasks : Nat
  /-- The copy buffer size, a power of two from 1 KiB to 64 MiB. -/
  bufferSize : Nat := 65536
deriving DecidableEq, Repr

/-- Retry settings; times in milliseconds. -/
structure Config.Retry where
  maxRetries : Nat := 5
  initialDelayMs : Nat := 10000
  maxDelayMs : Nat := 300000
  backoffMultiplier : Float := 2.0
deriving BEq, Repr

/-- Progress persistence: at most one sample per window of milliseconds. -/
structure Config.Progress where
  windowMs : Nat := 1000
deriving DecidableEq, Repr

/-- Staging limits. -/
structure Config.Staging where
  maxChildrenPerParent : Nat := 100000
  maxListingDepth : Nat := 64
deriving DecidableEq, Repr

/-- Logging settings. -/
structure Config.Logging where
  level : String := "info"
  jsonFormat : Bool := false
  logFile : Option String := none
deriving DecidableEq, Repr

/-- Every setting of an engine. -/
structure Config where
  dispatch : Config.Dispatch := {}
  worker : Config.Workers
  retry : Config.Retry := {}
  progress : Config.Progress := {}
  staging : Config.Staging := {}
  logging : Config.Logging := {}
deriving BEq, Repr

namespace Config

/-- The pipelines a worker runs at once by default on a machine with `cpus` processors. -/
def defaultConcurrency (cpus : Nat) : Nat := max cpus 2

/-- The default settings on a machine with `cpus` processors. -/
def default (cpus : Nat) : Config := { worker := { maxConcurrentTasks := defaultConcurrency cpus } }

/-- The log levels a configuration may name. -/
def logLevels : List String := ["trace", "debug", "info", "warn", "error"]

/-- The retry policy of the settings. -/
def Retry.policy (r : Retry) : Except RetryFault RetryPolicy :=
  RetryPolicy.make r.maxRetries r.initialDelayMs r.maxDelayMs r.backoffMultiplier

/-- Why settings are refused. -/
inductive Fault where
  | heartbeatTimeoutZero
  | backlogThresholdZero
  | batchLimitZero
  | idleBackoff
  | concurrencyZero
  | heartbeatInterval
  | retry (f : RetryFault)
  | progressWindowZero
  | maxChildrenZero
  | logLevel
deriving DecidableEq, Repr

/-- The text of a refusal. -/
def Fault.message : Fault → String
  | .heartbeatTimeoutZero => "Heartbeat timeout must be greater than 0"
  | .backlogThresholdZero => "Backlog threshold must be greater than 0"
  | .batchLimitZero => "Batch size and ready row cutoff must be greater than 0"
  | .idleBackoff => "Idle backoff base must be positive and not exceed the idle backoff cap"
  | .concurrencyZero => "Worker concurrency must be greater than 0"
  | .heartbeatInterval => "Heartbeat interval must be shorter than the heartbeat timeout"
  | .retry f => f.message
  | .progressWindowZero => "Progress window must be greater than 0"
  | .maxChildrenZero => "Maximum children per parent must be greater than 0"
  | .logLevel => "Log level must be one of: trace, debug, info, warn, error"

/-- The first refusal of a list of checks, each a failure condition with its refusal. -/
def firstFault : List (Bool × Fault) → Option Fault
  | [] => none
  | (bad, f) :: rest => if bad then some f else firstFault rest

/-- Check settings; gives the first refusal. -/
def validate (c : Config) : Except Fault Unit :=
  let d := c.dispatch
  let early := firstFault [
    (d.heartbeatTimeoutMs == 0, .heartbeatTimeoutZero),
    (d.backlogThreshold == 0, .backlogThresholdZero),
    (d.maxBatchSize == 0 || d.maxReadyRows == 0, .batchLimitZero),
    (d.idleBackoffBaseMs == 0 || d.idleBackoffBaseMs > d.idleBackoffMaxMs, .idleBackoff),
    (c.worker.maxConcurrentTasks == 0, .concurrencyZero),
    (c.worker.heartbeatIntervalMs ≥ d.heartbeatTimeoutMs, .heartbeatInterval)]
  match early with
  | some f => .error f
  | none =>
    match c.retry.policy with
    | .error f => .error (.retry f)
    | .ok _ =>
      match firstFault [
        (c.progress.windowMs == 0, .progressWindowZero),
        (c.staging.maxChildrenPerParent == 0, .maxChildrenZero),
        (!logLevels.contains c.logging.level, .logLevel)] with
      | some f => .error f
      | none => .ok ()

end Config

end Conveyor
