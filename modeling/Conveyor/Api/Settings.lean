import Conveyor.Api.Fields
import Conveyor.Config.Render

/-!
# Requests on configurations

Configuration answers write the configuration as JSON, except that a worker concurrency equal to
the machine's default is written `"default"`: the machine's processor count is not part of the
answer. The requests read a configuration the strict way, over defaults whose worker
concurrency is two.
-/

namespace Conveyor
namespace Api

/-- The processor count of the machine the library answers for. -/
def hostCpus : Nat := 12

/-- A configuration as an answer. -/
def configJson (c : Config) : Json :=
  let showDefault := c.worker.maxConcurrentTasks == Config.defaultConcurrency hostCpus
  match Config.toJson c with
  | .obj ms => .obj (ms.map fun (k, v) =>
      if k == "worker" && showDefault then
        match v with
        | .obj fs => (k, .obj (fs.map fun (f, x) =>
            if f == "max_concurrent_tasks" then (f, .str "default") else (f, x)))
        | v => (k, v)
      else (k, v))
  | v => v

/-- The defaults requests read configurations over: a worker concurrency of `n`. -/
def baseConfig (n : Nat) : Config :=
  { Config.default hostCpus with worker.maxConcurrentTasks := n }

/-- A configuration read strictly, or the answer that refuses it. -/
def strictConfig (n : Nat) (v : Json) : Except Json Config :=
  match Config.ofJson (baseConfig n) v with
  | .ok c => .ok c
  | .error (.buffer f) => .error (fail "Deserialize" f.message)
  | .error .shape => .error (.obj [("error", .str "Deserialize")])

/-- What a valid configuration sets for the engine's parts. -/
def validAnswer (c : Config) (p : RetryPolicy) : Json :=
  .obj [("valid", .bool true),
    ("retry_delays_ms", .arr ((List.range 4).map fun i => natJson (p.delayFor i))),
    ("heartbeat_timeout_ms", natJson c.dispatch.heartbeatTimeoutMs),
    ("idle_backoff_max_ms", natJson c.dispatch.idleBackoffMaxMs),
    ("poll_interval_ms", natJson c.worker.pollIntervalMs),
    ("progress_window_ms", natJson c.progress.windowMs),
    ("buffer_size", natJson c.worker.bufferSize)]

/-- Answer `config_validate`. -/
def configValidateOp (j : Json) : Decode Json := do
  match strictConfig 2 (← need j "config") with
  | .error answer => pure answer
  | .ok c =>
    match c.validate, c.retry.policy with
    | .error f, _ => pure (fail "Validation" f.message)
    | .ok (), .ok p => pure (ok (validAnswer c p))
    | .ok (), .error f => pure (fail "Validation" f.message)

/-- Answer `config_render`. -/
def configRenderOp (j : Json) : Decode Json := do
  match strictConfig 2 (← need j "config") with
  | .error answer => pure answer
  | .ok c =>
    let format := Config.Format.ofExtension (← strOpt j "format")
    pure (ok (.str (c.render format)))

end Api
end Conveyor
