import Conveyor.Api.Fields
import Conveyor.Retry
import Conveyor.Queue
import Conveyor.Control
import Conveyor.Monitor
import Conveyor.Schedule.Fair
import Conveyor.Uri.Location
import Conveyor.Request

/-!
# Requests on single parts

Requests that exercise one part of the library on its own: the lifecycle tables, the error
causes, the retry policy and buffer sizes, fair batches, queues, cancellation registries and
channels, progress throttling, statistics, locations and transfer requests.
-/

namespace Conveyor
namespace Api

/-! ## Pure operations -/

def errorInfo (e : Error) : Json :=
  .obj [("variant", .str e.variant), ("message", .str (renameIn [] e.message)),
        ("kind", .str e.kind.name), ("is_transient", .bool e.isTransient),
        ("should_retry", .bool e.shouldRetry), ("is_not_found", .bool e.isNotFound)]

def decodeError (j : Json) : Decode Error := do
  let v ← str j "variant"
  match v with
  | "NotFound" => return .notFound (← str j "path")
  | "PermissionDenied" => return .permissionDenied (← str j "path")
  | "SystemNotFound" => return .systemNotFound (← str j "system")
  | "SystemDisabled" => return .systemDisabled (← str j "system")
  | "Unsupported" => return .unsupported (← str j "operation") (← str j "backend")
  | "Io" => return .io (← str j "message")
  | "Store" => return .store (← str j "message")
  | "InvalidRequest" => return .invalidRequest (← str j "message")
  | "Config" => return .config (← str j "message")
  | "Other" => return .other (← str j "message")
  | "Timeout" => return .timeout (← nat j "seconds")
  | "InvalidTransition" => return .invalidTransition (← status j "from") (← status j "to")
  | "NotOwner" => return .notOwner (← taskId j "task")
  | "TaskNotFound" => return .taskNotFound (← taskId j "id")
  | "Cancelled" => return .cancelled
  | _ => throw ("unknown variant " ++ v)

def retryAnswer (p : RetryPolicy) (j : Json) : Decode (List (String × Json)) := do
  let attempts ← (← arrD j "attempts").mapM (asNat "attempts")
  let probes ← (← arrD j "can_retry").mapM (asNat "can_retry")
  let clamp (n : Nat) := min n Word.max32
  return [("delays_ms", .arr (attempts.map fun n => natJson (p.delayFor (clamp n)))),
          ("can_retry", .arr (probes.map fun n => .bool (p.canRetry (clamp n))))]

def runQueueStep (qs : WorkQueues) (kind : Kind) (step : Json) (names : Names) :
    Decode (Json × WorkQueues) := do
  let q := qs.get kind
  let verb ← str step "do"
  match verb with
  | "publish" =>
    let ids ← (← arrD step "ids").mapM fun v => do pure (TaskId.mk (← uuidOfName (← asStr "ids" v)))
    pure (.null, qs.set kind (ids.foldl WorkQueue.publish q))
  | "publish_all" =>
    let ids ← (← arrD step "ids").mapM fun v => do pure (TaskId.mk (← uuidOfName (← asStr "ids" v)))
    pure (.null, qs.set kind (q.publishAll ids))
  | "consume" =>
    let (ds, q') := q.consume (← nat step "prefetch")
    pure (.arr (ds.map fun d => .arr [natJson d.tag, .str (nameOf names d.id.uuid), .bool d.redelivered]),
      qs.set kind q')
  | "ack" =>
    let (b, q') := q.ack (← nat step "tag")
    pure (.bool b, qs.set kind q')
  | "nack" =>
    let (b, q') := q.nack (← nat step "tag") (← boolD step "requeue" false)
    pure (.bool b, qs.set kind q')
  | "len" => pure (natJson q.length, qs)
  | "is_empty" => pure (.bool (q.length == 0), qs)
  | "in_flight" => pure (natJson q.inFlight, qs)
  | "name" => pure (.str q.name, qs)
  | _ => throw ("unknown queue step " ++ verb)

def queueOp (j : Json) : Decode Json := do
  let steps ← arr j "steps"
  let (_, out) ← steps.foldlM (fun (acc : WorkQueues × List Json) step => do
    let (r, qs) ← runQueueStep acc.1 (← kindD step "kind") step []
    pure (qs, acc.2 ++ [.obj [("result", r)]])) ({}, [])
  pure (.arr out)

def scopeOf (j : Json) : Decode Scope := do
  let parent ← match field? j "parent" with
    | some v => do pure (some (TaskId.mk (← uuidOfName (← asStr "parent" v))))
    | none => pure none
  pure ⟨← taskId j "task", parent, ← taskId j "top", ← str j "tenant"⟩

def actionOf (j : Json) : Decode CancelAction := do
  pure ⟨← taskId j "task", ← str j "tenant"⟩

structure ControlBench where
  registry : Registry := {}
  tokens : Tokens := {}
  /-- Tokens handed out, by task name, in order. -/
  handed : List (String × List Token) := []

def controlOp (j : Json) : Decode Json := do
  let steps ← arr j "steps"
  let mut bench : ControlBench := {}
  let mut out : List Json := []
  for step in steps do
    let verb ← str step "do"
    match verb with
    | "register" =>
      let scope ← scopeOf step
      let name ← str step "task"
      let (k, tokens) := bench.tokens.fresh
      let handed := if bench.handed.any (·.1 == name) then
          bench.handed.map fun (n, ks) => if n == name then (n, ks ++ [k]) else (n, ks)
        else bench.handed ++ [(name, [k])]
      bench := { registry := bench.registry.register scope k, tokens, handed }
      out := out ++ [.obj [("result", .null)]]
    | "unregister" =>
      bench := { bench with registry := bench.registry.unregister (← taskId step "task") }
      out := out ++ [.obj [("result", .null)]]
    | "apply" =>
      let (n, tokens) := bench.registry.apply (← actionOf step) bench.tokens
      bench := { bench with tokens }
      out := out ++ [.obj [("result", natJson n)]]
    | "is_running" =>
      out := out ++ [.obj [("result", .bool (bench.registry.isRunning (← taskId step "task")))]]
    | "len" => out := out ++ [.obj [("result", natJson bench.registry.size)]]
    | "is_empty" => out := out ++ [.obj [("result", .bool (bench.registry.size == 0))]]
    | "tokens" =>
      let t := bench.tokens
      out := out ++ [.obj [("result", .obj (bench.handed.map fun (n, ks) =>
        (n, .arr (ks.map fun k => .bool (t.isCancelled k)))))]]
    | _ =>
      out := out ++ [badInput ("unknown control step " ++ verb)]
  pure (.arr out)

def channelOp (j : Json) : Decode Json := do
  let capacity ← natD j "capacity" 1024
  let subscribers ← natD j "subscribers" 0
  let actions ← (← arr j "actions").mapM fun a => do
    pure (← str a "task", ← str a "tenant")
  let message (a : String × String) : Json := .arr [.str a.1, .str a.2, .str "CANCEL"]
  let received := (List.replicate subscribers ()).map fun _ =>
    Json.arr ((Broadcast.receive capacity actions).map fun
      | .lagged n => .obj [("lagged", natJson n)]
      | .message a => message a)
  pure (.obj [("published", .arr (actions.map fun _ => natJson subscribers)),
              ("received", .arr received)])

def throttleOp (j : Json) : Decode Json := do
  let steps ← arr j "steps"
  let shape := "throttle steps are \x7b\"offer\": n\x7d or \x7b\"take\": true\x7d"
  let mut t : Throttle := {}
  let mut out : List Json := []
  for step in steps do
    match field? step "offer", field? step "take" with
    | some v, _ =>
      t := t.offer (← asNat "offer" v)
      out := out ++ [.null]
    | none, some (.bool true) =>
      let (r, t') := t.take
      t := t'
      out := out ++ [match r with | some b => natJson b | none => .null]
    | _, _ => throw shape
  pure (.arr out)

def statisticsOp (j : Json) : Decode Json := do
  let s : Statistics := {
    childrenCompleted := ← natD j "completed" 0, childrenFailed := ← natD j "failed" 0,
    childrenCancelled := ← natD j "cancelled" 0, bytesTransferred := ← natD j "bytes" 0,
    transferTime := ← natD j "transfer_time_ns" 0 }
  match s.successRate with
  | .error p => pure (fail "panic" p.message)
  | .ok rate => pure (ok (.obj [("success_rate", .float rate), ("throughput", .float s.throughput)]))

def locationJson (l : Location) : List (String × Json) :=
  [("scheme", .str l.scheme), ("system", .str l.system), ("path", .str l.path),
   ("display", .str l.render)]

def uriOp (j : Json) : Decode Json := do
  let input ← str j "input"
  match Location.parse input with
  | .error e => pure (errorJson [] e)
  | .ok l =>
    -- a list is answered only when the request names it
    let listed := fun (k : String) (answer : String → Json) =>
      match field? j k with
      | some v => do
        let xs ← (← asArr k v).mapM (asStr k)
        pure [(k, Json.arr (xs.map answer))]
      | none => pure []
    let joins ← listed "join" fun r =>
      let l' := l.join r
      .obj (locationJson l' ++ [("same", .bool (l'.same l))])
    let rels ← listed "relative_to" fun p => match l.relativeTo p with
      | some r => .str r
      | none => .null
    let paths ← listed "with_path" fun p => .obj (locationJson (l.withPath p))
    pure (ok (.obj (locationJson l ++ joins ++ rels ++ paths)))

def elementOf (j : Json) : Decode Element := do
  pure ⟨← str j "source", ← str j "destination", ← boolD j "optional" false⟩

def requestOf (j : Json) : Decode Request := do
  pure ⟨← str j "tenant", ← str j "user", ← strOpt j "tag", ← (← arr j "elements").mapM elementOf⟩

def requestOp (j : Json) : Decode Json := do
  let r ← requestOf j
  let topId : TaskId := ⟨Uuid.spawned 0⟩
  match r.toTasks topId (fun i => ⟨Uuid.spawned (i + 1)⟩) 0 with
  | .error e => pure (errorJson [] e)
  | .ok (top, parents) =>
    pure (ok (.obj [("tenant", .str top.tenant), ("user", .str top.user),
      ("tag", match top.tag with | some t => .str t | none => .null),
      ("status", statusJson top.status), ("cancel_requested", .bool top.cancelRequested),
      ("parent_ids", natJson top.parents.length),
      ("parents", .arr (parents.map fun p => .obj [
        ("same_top", .bool (p.top == top.id)), ("tenant", .str p.tenant),
        ("source", .str p.source), ("destination", .str p.destination),
        ("optional", .bool p.optional), ("status", statusJson p.status),
        ("total_bytes", match p.totalBytes with | some b => natJson b | none => .null),
        ("child_count", natJson p.childCount)]))]))

end Api
end Conveyor
