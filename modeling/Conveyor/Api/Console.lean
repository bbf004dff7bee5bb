import Conveyor.Api.Normal
import Conveyor.Console.Summary

/-!
# Requests on the console rendering

`displayOp` answers the `display` requests: byte and duration formatting, the machine-readable
summary of a transfer, in normal form with its duration kept, and a progress display driven
through updates, a cancel and a finish, each of which shows nothing.
-/

namespace Conveyor
namespace Api

/-- A status field, `ACCEPTED` when absent. -/
def statusD (j : Json) (k : String) : Decode Status :=
  match field? j k with
  | some _ => status j k
  | none => pure .accepted

/-- A transfer record from its fields; its parents are given later. -/
def topOf (id : TaskId) (j : Json) : Decode Top := do
  let t := Top.fresh id (← str j "tenant") (← str j "user") none 0
  return { t with status := (← statusD j "status"), error := (← strOpt j "error"),
                  tag := (← strOpt j "tag"), cancelRequested := (← boolD j "cancel_requested" false) }

/-- The parent records of a transfer from their fields, with identifiers counted from `next`. -/
def parentsOf (top : Top) (next : Nat) (js : List Json) : Decode (List Parent) :=
  js.zipIdx.mapM fun (j, i) => do
    let p := Parent.fresh ⟨Uuid.spawned (next + i)⟩ top (← str j "source") (← str j "destination")
      (← boolD j "optional" false) 0
    return { p with status := (← statusD j "status"), childCount := (← natD j "child_count" 0),
                    bytes := (← natD j "bytes_transferred" 0), totalBytes := (← natOpt j "total_bytes"),
                    error := (← strOpt j "error"), retries := (← natD j "retry_count" 0) }

/-- A transfer and its parents, the parents listed on the transfer. -/
def recordsOf (j : Json) : Decode (Top × List Parent) := do
  let top ← topOf ⟨Uuid.spawned 0⟩ (← need j "top")
  let parents ← parentsOf top 1 (← arrD j "parents")
  return ({ top with parents := parents.map (·.id) }, parents)

/-- The statistics of a summary request, and its duration. -/
def statsOf (j : Json) : Decode (Statistics × Span) := do
  let s ← need j "stats"
  let stats : Statistics := {
    childrenCompleted := (← natD s "children_completed" 0),
    childrenFailed := (← natD s "children_failed" 0),
    childrenCancelled := (← natD s "children_cancelled" 0),
    childRetries := (← natD s "child_retries" 0),
    bytesTransferred := (← natD s "bytes_transferred" 0) }
  return (stats, Span.ofMillis (← natD s "uptime_ms" 0))

/-- Run the steps of a progress display; each shows nothing. -/
def progressSteps (p : Progress) : List Json → Decode (Except Panic (List Json))
  | [] => pure (.ok [])
  | step :: rest => do
    let next ← match ← str step "do" with
      | "update" => do
        let (top, parents) ← recordsOf step
        pure (p.update top parents)
      | "cancelling" => pure (.ok p.cancelling)
      | "finish" => do
        let (top, _) ← recordsOf (.obj [("top", ← need step "top")])
        pure (.ok (p.finish top))
      | other => throw ("unknown progress step " ++ other)
    match next with
    | .error e => pure (.error e)
    | .ok p =>
      match ← progressSteps p rest with
      | .ok out => pure (.ok (.null :: out))
      | .error e => pure (.error e)

/-- Answer a `display` request. -/
def displayOp (j : Json) : Decode Json := do
  match ← str j "fn" with
  | "format_bytes" => pure (ok (.str (formatBytes (← nat j "bytes"))))
  | "format_duration" =>
    match (Span.ofMillis (← natD j "ms" 0)).add (Span.ofSecs (← natD j "secs" 0)) with
    | .ok d => pure (ok (.str (formatDuration d)))
    | .error p => pure (fail "panic" p.message)
  | "summary_json" =>
    let (top, parents) ← recordsOf j
    let (stats, uptime) ← statsOf j
    match summaryJson top parents stats uptime with
    | .ok v => pure (ok (normalDocument { keepDuration := true } [] v).1)
    | .error p => pure (fail "panic" p.message)
  | "progress" =>
    match ← progressSteps (Progress.start (← boolD j "quiet" false)) (← arrD j "steps") with
    | .ok out => pure (ok (.arr out))
    | .error p => pure (fail "panic" p.message)
  | other => throw ("unknown display fn " ++ other)

end Api
end Conveyor
