import Conveyor.Config.Basic

/-!
# The layout of a configuration

Outside the library a configuration is a table of six sections, each a table of named settings.
`Config.sections` lists the sections and their settings in the order in which they are written,
each setting with its name, the `Kind` of value it holds, and how to read it from and write it
into a `Config`. Writers and readers of every format go through this one list.
-/

namespace Conveyor
namespace Config

/-- The kinds of values settings hold. -/
inductive Kind where
  /-- A count of at most 64 bits. -/
  | count
  /-- A count of at most 32 bits. -/
  | count32
  /-- A copy buffer size: a count that must be an allowed buffer size. -/
  | buffer
  /-- A double. -/
  | ratio
  /-- A text. -/
  | text
  /-- A yes or no. -/
  | flag
  /-- A file path, or none. -/
  | path
deriving DecidableEq, Repr

/-- The value of one setting. -/
inductive Value where
  | count (n : Nat)
  | ratio (x : Float)
  | text (s : String)
  | flag (b : Bool)
  | path (p : Option String)
deriving Repr, Inhabited

/-- One setting: its name, kind, and how it is read and written. -/
structure Field where
  name : String
  kind : Kind
  get : Config → Value
  set : Config → Value → Config

/-- A count setting. -/
def countField (name : String) (kind : Kind) (get : Config → Nat) (set : Config → Nat → Config) :
    Field :=
  ⟨name, kind, fun c => .count (get c), fun c v => match v with | .count n => set c n | _ => c⟩

/-- The dispatcher's settings. -/
def dispatchFields : List Field := [
  countField "heartbeat_timeout_ms" .count (·.dispatch.heartbeatTimeoutMs)
    fun c n => { c with dispatch.heartbeatTimeoutMs := n },
  countField "backlog_threshold" .count (·.dispatch.backlogThreshold)
    fun c n => { c with dispatch.backlogThreshold := n },
  countField "max_ready_rows" .count (·.dispatch.maxReadyRows)
    fun c n => { c with dispatch.maxReadyRows := n },
  countField "max_batch_size" .count (·.dispatch.maxBatchSize)
    fun c n => { c with dispatch.maxBatchSize := n },
  countField "idle_backoff_base_ms" .count (·.dispatch.idleBackoffBaseMs)
    fun c n => { c with dispatch.idleBackoffBaseMs := n },
  countField "idle_backoff_max_ms" .count (·.dispatch.idleBackoffMaxMs)
    fun c n => { c with dispatch.idleBackoffMaxMs := n },
  countField "queue_prefetch" .count (·.dispatch.queuePrefetch)
    fun c n => { c with dispatch.queuePrefetch := n }]

/-- The worker pool's settings. -/
def workerFields : List Field := [
  countField "heartbeat_interval_ms" .count (·.worker.heartbeatIntervalMs)
    fun c n => { c with worker.heartbeatIntervalMs := n },
  countField "poll_interval_ms" .count (·.worker.pollIntervalMs)
    fun c n => { c with worker.pollIntervalMs := n },
  countField "max_concurrent_tasks" .count (·.worker.maxConcurrentTasks)
    fun c n => { c with worker.maxConcurrentTasks := n },
  countField "buffer_size" .buffer (·.worker.bufferSize)
    fun c n => { c with worker.bufferSize := n }]

/-- The retry settings. -/
def retryFields : List Field := [
  countField "max_retries" .count32 (·.retry.maxRetries)
    fun c n => { c with retry.maxRetries := n },
  countField "initial_delay_ms" .count (·.retry.initialDelayMs)
    fun c n => { c with retry.initialDelayMs := n },
  countField "max_delay_ms" .count (·.retry.maxDelayMs)
    fun c n => { c with retry.maxDelayMs := n },
  ⟨"backoff_multiplier", .ratio, fun c => .ratio c.retry.backoffMultiplier,
    fun c v => match v with | .ratio x => { c with retry.backoffMultiplier := x } | _ => c⟩]

/-- The progress settings. -/
def progressFields : List Field := [
  countField "window_ms" .count (·.progress.windowMs) fun c n => { c with progress.windowMs := n }]

/-- The staging settings. -/
def stagingFields : List Field := [
  countField "max_children_per_parent" .count (·.staging.maxChildrenPerParent)
    fun c n => { c with staging.maxChildrenPerParent := n },
  countField "max_listing_depth" .count (·.staging.maxListingDepth)
    fun c n => { c with staging.maxListingDepth := n }]

/-- The logging settings. -/
def loggingFields : List Field := [
  ⟨"level", .text, fun c => .text c.logging.level,
    fun c v => match v with | .text s => { c with logging.level := s } | _ => c⟩,
  ⟨"json_format", .flag, fun c => .flag c.logging.jsonFormat,
    fun c v => match v with | .flag b => { c with logging.jsonFormat := b } | _ => c⟩,
  ⟨"log_file", .path, fun c => .path c.logging.logFile,
    fun c v => match v with | .path p => { c with logging.logFile := p } | _ => c⟩]

/-- A section: its name, the name of its type, and its settings. -/
structure Section where
  name : String
  typeName : String
  fields : List Field

/-- The sections of a configuration, in the order they are written. -/
def sections : List Section := [
  ⟨"dispatch", "DispatchConfig", dispatchFields⟩,
  ⟨"worker", "WorkerPoolConfig", workerFields⟩,
  ⟨"retry", "RetryPolicyConfig", retryFields⟩,
  ⟨"progress", "ProgressConfig", progressFields⟩,
  ⟨"staging", "StagingConfig", stagingFields⟩,
  ⟨"logging", "LoggingConfig", loggingFields⟩]

end Config
end Conveyor
