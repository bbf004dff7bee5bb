import Conveyor.Api.Session
import Conveyor.Api.Console
import Conveyor.Api.Settings
import Conveyor.Api.Loading
import Conveyor.Api.Engine
import Conveyor.Api.Cli

/-!
# Answering requests

`Api.answer` answers one request by its `op`.
-/

namespace Conveyor
namespace Api

/-- Answer one request. -/
def answer (j : Json) : Decode Json := do
  let op ← str j "op"
  match op with
  | "transition" =>
    let kind ← kindReq j "kind"
    let src ← status j "from"
    let dst ← status j "to"
    let can := kind.canMove src dst
    let result := if can then .obj [("ok", statusJson dst)]
      else errorJson [] (.invalidTransition src dst)
    pure (ok (.obj [("can", .bool can), ("allowed", .arr ((kind.moves src).map statusJson)),
                    ("result", result)]))
  | "roll_up_parent" =>
    let children ← (← arr j "children").mapM fun v => status (.obj [("s", v)]) "s"
    let r := rollUp (← boolD j "optional" false) (← boolD j "cancel_requested" false) children
    pure (ok (match r with | some s => statusJson s | none => .null))
  | "derive_top" =>
    let parents ← (← arr j "parents").mapM fun p => do
      pure (ParentView.mk (← status p "status") (← boolD p "optional" false))
    pure (ok (statusJson (deriveTop (← status j "current") (← boolD j "cancel_requested" false) parents)))
  | "status_info" =>
    let s ← status j "status"
    pure (ok (.obj [("name", .str s.name), ("display", .str s.name), ("is_terminal", .bool s.isTerminal),
                    ("is_active", .bool s.isActive), ("serde", .str s.name)]))
  | "kind_info" =>
    let k ← kindReq j "kind"
    pure (ok (.obj [("display", .str k.name), ("queue_name", .str k.queueName),
                    ("queue", .str k.queueName)]))
  | "error_info" => pure (ok (errorInfo (← decodeError (← need j "error"))))
  | "from_io" =>
    let kindName ← str j "io_kind"
    let some kind := IoKind.ofName? kindName | throw ("unknown io kind " ++ kindName)
    let text ← str j "message"
    let path ← strD j "path" text
    pure (ok (errorInfo (Error.ofIo kind text path)))
  | "retry" =>
    let maxRetries := (← nat j "max_retries") % Nat.pow 2 32
    let initial ← nat j "initial_delay_ms"
    let cap ← nat j "max_delay_ms"
    let mult ← float j "backoff_multiplier"
    match RetryPolicy.make maxRetries initial cap mult with
    | .error e => pure (fail "RetryConfig" e.message)
    | .ok p => pure (ok (.obj (← retryAnswer p j)))
  | "retry_default" =>
    let p := RetryPolicy.standard
    pure (ok (.obj ((← retryAnswer p j) ++
      [("max_retries", natJson p.maxRetries), ("initial_delay_ms", natJson p.initialDelay),
       ("max_delay_ms", natJson p.maxDelay), ("backoff_multiplier", .float p.multiplier)])))
  | "buffer_size" =>
    match BufferSize.make (← nat j "size") with
    | .error e => pure (fail "BufferSize" e.message)
    | .ok b => pure (ok (.obj [("ok", natJson b.bytes), ("serde", natJson b.bytes)]))
  | "fair_interleave" =>
    let ready ← (← arr j "ready").mapM fun v => do
      match v with
      | .arr [.str t, .str n] => do
        let u ← uuidOfName n
        pure (t, u)
      | _ => throw "ready entries are [tenant, name]"
    pure (ok (.arr ((fairInterleave ready (← nat j "limit")).map fun u => .str (nameOf [] u))))
  | "distribute" =>
    let batch ← (← arr j "batch").mapM fun v => do uuidOfName (← asStr "batch" v)
    let workers ← (← arr j "workers").mapM fun v => do uuidOfName (← asStr "workers" v)
    pure (ok (.arr ((distribute batch workers).map fun (w, ids) =>
      .arr [.str (nameOf [] w), .arr (ids.map fun u => .str (nameOf [] u))])))
  | "throttle" => pure (ok (← throttleOp j))
  | "statistics" => statisticsOp j
  | "scope_matches" =>
    pure (ok (.bool ((← scopeOf (← need j "scope")).matches (← actionOf (← need j "action")))))
  | "queue" => pure (ok (← queueOp j))
  | "control" => pure (ok (← controlOp j))
  | "channel" => pure (ok (← channelOp j))
  | "uri" => uriOp j
  | "request" => requestOp j
  | "scenario" => scenarioOp j
  | "copy_stream" => copyStreamOp j
  | "display" => displayOp j
  | "config_default" => pure (ok (configJson (Config.default hostCpus)))
  | "config_validate" => configValidateOp j
  | "config_render" => configRenderOp j
  | "config_load" => configLoadOp j
  | "config_files" => configFilesOp j
  | "engine" => engineOp j
  | "cli" => cliOp j
  | _ => throw ("unknown op " ++ op)

end Api
end Conveyor
