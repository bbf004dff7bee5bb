import Conveyor.Api.Records
import Conveyor.Api.Probes
import Conveyor.Service.Submission
import Conveyor.Service.Snapshots
import Conveyor.Service.Files
import Conveyor.Service.Systems

/-!
# Sessions on a node

A session builds one node from a configuration and runs a list of steps on it. Each step gives
its result or the error it stopped with, and the digest of the store when the step changed it.
-/

namespace Conveyor
namespace Api

/-- What a step gives: its result for the names after it, or a refusal of its input. -/
inductive Reply where
  | result (enc : Names → Json) (staged : List TaskId := [])
  | refused (msg : String)
  /-- A failure the answer gives only in outline: its kind and a fixed message. -/
  | outline (variant message : String)

def give (enc : Names → Json) : ServiceM Reply := pure (.result enc)

def unit : ServiceM Reply := give fun _ => .null

def store {α : Type} (m : StoreM α) : ServiceM α := Service.liftStore m

def storeNow {α : Type} (f : Stamp → StoreM α) : ServiceM α := Service.atNow f

def cancelJson (names : Names) (o : CancelOutcome) : Json :=
  .obj [("top", taskName names o.top), ("tenant", .str o.tenant), ("accepted", .bool o.accepted),
    ("cancelled", .arr (o.cancelled.map (taskName names))),
    ("in_flight", .arr (o.inFlight.map (taskName names)))]

def statsJson (s : Statistics) : ServiceM Json := do
  let rate ← match s.successRate with
    | .ok r => pure r
    | .error p => throw (.panic p)
  return .obj [("transfers_submitted", natJson s.transfersSubmitted),
    ("cancels_accepted", natJson s.cancelsAccepted), ("parents_staged", natJson s.parentsStaged),
    ("child_attempts", natJson s.childAttempts), ("child_retries", natJson s.childRetries),
    ("children_completed", natJson s.childrenCompleted),
    ("children_failed", natJson s.childrenFailed),
    ("children_cancelled", natJson s.childrenCancelled),
    ("bytes_transferred", natJson s.bytesTransferred), ("success_rate", .float rate)]

def triggerOf (j : Json) : Decode Trigger := do
  let w ← need j "when"
  let on ← str w "on"
  match on with
  | "opens" => pure (.opens (← str w "memory") (← str w "path") (← natD w "count" 1))
  | "retries" => pure (.retries (← natD w "count" 1))
  | _ => throw ("unknown condition " ++ on)

def reactionOf (names : Names) (j : Json) (id : TaskId) : Decode Reaction := do
  let t ← str j "then"
  match t with
  | "cancel_token" => pure .cancelToken
  | "deregister" => pure .deregister
  | "request_cancel" =>
    match field? j "target" with
    | some v => pure (.requestCancel ⟨← idOf names (← asStr "target" v)⟩)
    | none => pure (.requestCancel id)
  | _ => pure (.unknown t)

def specOf (j : Json) : Decode ChildSpec := do
  pure ⟨← str j "source", ← str j "destination", ← nat j "size"⟩

/-- The parents whose children a step may stage. -/
def stagedBy (names : Names) (j : Json) : List TaskId :=
  match j.get? "do" with
  | some (.str "commit_staging") | some (.str "run_parent") =>
    match taskIn names j "id" with
    | .ok id => [id]
    | .error _ => []
  | some (.str "run_concurrent") =>
    match kindReq j "kind", taskIn names j "id" with
    | .ok .parent, .ok id => [id]
    | _, _ => []
  | _ => []

/-- The action of one step. -/
def stepAction (names : Names) (j : Json) : Decode (ServiceM Reply) := do
  let verb ← str j "do"
  match verb with
  | "create" =>
    let top ← taskIn names j "top"
    let parents ← (← arr j "parents").mapM fun p => do
      let ptop ← match field? p "top" with
        | some v => do pure (some (TaskId.mk (← idOf names (← asStr "top" v))))
        | none => pure none
      pure ({ id := ← taskIn names p "name", source := ← str p "source",
              destination := ← str p "destination", optional := ← boolD p "optional" false,
              top := ptop, createdAt := ← intOpt p "at" } : NewParent)
    let tenant ← str j "tenant"
    let user ← str j "user"
    let tag ← strOpt j "tag"
    let at? ← intOpt j "at"
    let publish ← boolD j "publish" false
    pure do
      let t ← Service.create top tenant user tag at? publish parents
      give fun n => topJson n t
  | "submit" =>
    let top ← taskIn names j "top"
    let ids ← (← arr j "names").mapM fun v => do pure (TaskId.mk (← idOf names (← asStr "names" v)))
    let elements ← (← arr j "elements").mapM elementOf
    let r : Request := ⟨← str j "tenant", ← str j "user", ← strOpt j "tag", elements⟩
    let at? ← intOpt j "at"
    pure do
      match ← Service.submit top ids at? r with
      | some t => give fun n => topJson n t
      | none => pure (.refused "one name per element is needed")
  | "get_top" => let id ← taskIn names j "id"; pure do
      let t ← store (Store.top id); give fun n => topJson n t
  | "get_parent" => let id ← taskIn names j "id"; pure do
      let p ← store (Store.parent id); give fun n => parentJson n p
  | "get_child" => let id ← taskIn names j "id"; pure do
      let c ← store (Store.child id); give fun n => childJson n c
  | "list_tops" =>
    let tenant ← str j "tenant"
    let user ← strOpt j "user"
    let limit ← nat j "limit"
    pure do
      let ts ← store (Store.listTops tenant user limit); give fun n => .arr (ts.map (topJson n))
  | "parents_of" => let id ← taskIn names j "id"; pure do
      let ps ← store (Store.parentsOf id); give fun n => .arr (ps.map (parentJson n))
  | "children_of" => let id ← taskIn names j "id"; pure do
      let cs ← store (Store.childrenOf id); give fun n => .arr (cs.map (childJson n))
  | "contains" =>
    let kind ← kindReq j "kind"
    let id ← taskIn names j "id"
    pure do let b ← store (Store.contains kind id); give fun _ => .bool b
  | "status_counts" =>
    let kind ← kindReq j "kind"
    pure do
      let counts ← store (Store.statusCounts kind)
      give fun _ => sortedObj (counts.map fun (s, c) => (s.name, natJson c))
  | "cancel" => let id ← taskIn names j "id"; pure do
      let o ← storeNow (Store.requestCancel id)
      if o.accepted then Service.note Statistics.noteCancel
      give fun n => cancelJson n o
  | "is_cancel_requested" => let id ← taskIn names j "id"; pure do
      let b ← store (Store.isCancelRequested id); give fun _ => .bool b
  | "register_worker" =>
    let w ← workerIn names j "worker"
    let host ← strD j "host" "node"
    let reg ← intD j "registered_ms" 0
    let hb ← intD j "heartbeat_ms" reg
    pure do
      store (Store.registerWorker ⟨w, host, Service.workerTime reg, Service.workerTime hb⟩); unit
  | "heartbeat" =>
    let w ← workerIn names j "worker"
    let at_ ← int j "at"
    pure do store (Store.heartbeat w (Service.workerTime at_)); unit
  | "deregister" => let w ← workerIn names j "worker"; pure do
      store (Store.deregisterWorker w); unit
  | "workers" => pure do
      let ws ← store Store.listWorkers; give fun n => .arr (ws.map (workerJson n))
  | "live" =>
    let cutoff := Service.workerTime (← int j "cutoff")
    pure do
      let ws ← store Store.listWorkers
      give fun n => .arr (ws.map fun w => .arr [workerName n w.id, .bool (w.isLive cutoff)])
  | "evict" =>
    let cutoff := Service.workerTime (← int j "cutoff")
    pure do
      let gone ← store (Store.evictStale cutoff)
      give fun n => strList (sortedNames (gone.map fun w => nameOf n w.uuid))
  | "clear_orphans" => let kind ← kindReq j "kind"; pure do
      let c ← storeNow fun _ => Store.clearOrphans kind; give fun _ => natJson c
  | "backlogs" => let kind ← kindReq j "kind"; pure do
      let bs ← store (Store.backlogs kind)
      give fun n => sortedObj (bs.map fun (w, c) => (nameOf n w.uuid, natJson c))
  | "ready_ids" =>
    let kind ← kindReq j "kind"
    let limit ← nat j "limit"
    pure do
      let rs ← store (Store.readyIds kind limit)
      give fun n => .arr (rs.map fun (t, id) => .arr [.str t, taskName n id])
  | "assign" =>
    let kind ← kindReq j "kind"
    let id ← taskIn names j "id"
    let w ← workerIn names j "worker"
    pure do let b ← storeNow fun _ => Store.assign kind id w; give fun _ => .bool b
  | "assigned_to" =>
    let kind ← kindReq j "kind"
    let w ← workerIn names j "worker"
    pure do
      let ids ← store (Store.assignedTo kind w); give fun n => .arr (ids.map (taskName n))
  | "begin_staging" =>
    let id ← taskIn names j "id"
    let w ← workerIn names j "worker"
    pure do let p ← storeNow (Store.beginStaging id w); give fun n => parentJson n p
  | "start_parent" =>
    let id ← taskIn names j "id"
    let w ← workerIn names j "worker"
    pure do let p ← storeNow (Store.startParent id w); give fun n => parentJson n p
  | "record_parent_retry" =>
    let id ← taskIn names j "id"
    let w ← workerIn names j "worker"
    pure do let r ← store (Store.recordParentRetry id w); give fun _ => natJson r
  | "commit_staging" =>
    let id ← taskIn names j "id"
    let w ← workerIn names j "worker"
    let specs ← (← arr j "children").mapM specOf
    pure do
      let cs ← Service.commitChildren id w specs; give fun n => .arr (cs.map (childJson n))
  | "finish_parent" =>
    let id ← taskIn names j "id"
    let w ← workerIn names j "worker"
    let st ← status j "status"
    let err ← strOpt j "error"
    pure do let p ← storeNow (Store.finishParent id w st err); give fun n => parentJson n p
  | "begin_child" =>
    let id ← taskIn names j "id"
    let w ← workerIn names j "worker"
    pure do let c ← storeNow (Store.beginChildAttempt id w); give fun n => childJson n c
  | "record_progress" =>
    let id ← taskIn names j "id"
    let w ← workerIn names j "worker"
    let bytes ← nat j "bytes"
    pure do store (Store.recordProgress id w bytes); unit
  | "finish_child" =>
    let id ← taskIn names j "id"
    let w ← workerIn names j "worker"
    let st ← status j "status"
    let bytes ← nat j "bytes"
    let err ← strOpt j "error"
    pure do let c ← storeNow (Store.finishChild id w st bytes err); give fun n => childJson n c
  | "snapshot" => pure do let s ← Service.snapshot; give fun n => snapshotLists n s
  | "snapshot_roundtrip" => pure do let s ← Service.roundTrip; give fun n => snapshotLists n s
  | "load_snapshot_text" =>
    let text ← str j "text"
    pure do
      Service.writeText "snapshot.json" text
      match ← Service.outcome (Service.restoreFile "snapshot.json") with
      | .ok s => give fun n => snapshotLists n s
      | .error (.error (.store m)) =>
        -- the detail of a document that does not read is not part of the answer
        if m.startsWith "Failed to parse snapshot" then pure (.outline "Store" "Failed to parse snapshot")
        else throw (.error (.store m))
      | .error f => throw f
  | "load_snapshot_missing" => pure do
      match ← Service.outcome (Service.restoreFile "missing-snapshot.json") with
      | .ok s => give fun n => snapshotLists n s
      | .error (.error e) => give fun _ => .obj [("variant", .str e.variant), ("kind", .str e.kind.name)]
      | .error (.panic p) => throw (.panic p)
  | "save_snapshot" =>
    let path ← str j "path"
    pure do
      let s ← Service.saveSnapshot "$DIR" path
      give fun _ => .obj [("version", natJson s.version), ("tops", natJson s.tops.length),
        ("parents", natJson s.parents.length), ("children", natJson s.children.length)]
  | "register_system" =>
    let system ← str j "system"
    let backend ← str j "backend"
    let mount ← match backend with
      | "memory" => pure (Mount.memory (← str j "memory"))
      | "readonly" => pure (Mount.readonly (← str j "memory") (← str j "label"))
      | "local" => pure Mount.disk
      | _ => throw ("unknown backend " ++ backend)
    pure do let l ← Service.registerSystem system mount; give fun _ => .str l
  | "new_memory" =>
    let m ← str j "memory"
    let chunk ← natD j "read_chunk" 65536
    let delay ← natD j "read_delay_ms" 0
    if delay > 20 then throw "read_delay_ms above 20 would make the scenario slow"
    pure do Service.newMemory m chunk delay; unit
  | "set_enabled" =>
    let system ← str j "system"
    let enabled ← boolD j "enabled" true
    pure do Service.setEnabled system enabled; unit
  | "systems" => pure do let ns ← Service.systemNames; give fun _ => strList ns
  | "resolve" => let uri ← str j "uri"; pure do
      let l ← Service.backendOf uri; give fun _ => .str l
  | "put" =>
    let m ← str j "memory"
    let path ← str j "path"
    let data ← bytesOf j
    pure do Service.onMemory m fun mem => ((), mem.insert path data); unit
  | "put_many" =>
    let m ← str j "memory"
    let paths ← (← arr j "paths").mapM (asStr "paths")
    let data ← bytesOf j
    pure do
      Service.onMemory m fun mem => ((), paths.foldl (fun mem p => mem.insert p data) mem); unit
  | "get" =>
    let m ← str j "memory"
    let path ← str j "path"
    pure do
      let d ← Service.onMemory m fun mem => (mem.get? path, mem)
      give fun _ => match d with | some bs => bytesJson bs | none => .null
  | "paths" => let m ← str j "memory"; pure do
      let ps ← Service.onMemory m fun mem => (mem.paths, mem); give fun _ => strList ps
  | "fault" =>
    let m ← str j "memory"
    let path ← str j "path"
    let count ← nat j "count"
    pure do Service.onMemory m fun mem => ((), mem.injectFaults path count); unit
  | "deny" =>
    let m ← str j "memory"
    let path ← str j "path"
    pure do Service.onMemory m fun mem => ((), mem.deny path); unit
  | "read_opens" =>
    let m ← str j "memory"
    let path ← str j "path"
    pure do
      let c ← Service.onMemory m fun mem => (mem.readOpens path, mem); give fun _ => natJson c
  | "stat" =>
    let system ← str j "system"
    let path ← str j "path"
    pure do let e ← Service.statFile system path; give fun _ => entryJson e
  | "list" =>
    let system ← str j "system"
    let path ← str j "path"
    pure do let es ← Service.listFiles system path; give fun _ => .arr (es.map entryJson)
  | "read" =>
    let system ← str j "system"
    let path ← str j "path"
    let buffer ← natD j "buffer_size" 4096
    pure do
      let r ← Service.readFile system path buffer
      give fun n => .obj [("copied", match r.copied with
          | .ok c => natJson c
          | .error e => errorJson n e),
        ("data", bytesJson r.data), ("progress", natJson r.progress)]
  | "write" =>
    let system ← str j "system"
    let path ← str j "path"
    let data ← bytesOf j
    let finish ← boolD j "shutdown" true
    pure do
      let r ← Service.writeFile system path data finish
      give fun _ => match r with | some c => natJson c | none => .str "unfinished"
  | "copy" =>
    let system ← str j "system"
    let src ← str j "source"
    let dst ← str j "destination"
    pure do Service.copyFile system src dst; unit
  | "rename" =>
    let system ← str j "system"
    let src ← str j "source"
    let dst ← str j "destination"
    pure do Service.renameFile system src dst; unit
  | "delete" =>
    let system ← str j "system"
    let path ← str j "path"
    pure do Service.deleteFile system path; unit
  | "run_parent" | "run_child" =>
    let kind : Kind := if verb == "run_parent" then .parent else .child
    let id ← taskIn names j "id"
    let w ← workerIn names j "worker"
    let cancelled ← boolD j "token_cancelled" false
    pure do
      let (res, _) ← Service.pipeline { worker := w, kind, task := id, cancelled }
      match res with
      | .ok rec => give fun n => recordJson n rec
      | .error e => Service.fail e
  | "dispatch" =>
    let kind ← kindReq j "kind"
    pure do
      let r ← Service.runCycle kind
      give fun _ => .obj [("workers_evicted", natJson r.workersEvicted),
        ("assignments_reclaimed", natJson r.assignmentsReclaimed),
        ("intake_acked", natJson r.intakeAcked), ("intake_requeued", natJson r.intakeRequeued),
        ("needy_workers", natJson r.needyWorkers), ("assigned", natJson r.assigned)]
  | "drive" =>
    let rounds ← natD j "rounds" 10
    pure do
      let log ← Service.drive rounds
      let staged := (log.filter (·.kind == .parent)).map (·.task)
      let enc : Names → Json := fun n => .arr (log.map fun e => .arr [.str e.kind.name,
        taskName n e.task, workerName n e.worker, match e.outcome with
          | .ok s => statusJson s
          | .error err => .str err.variant])
      pure (.result enc staged)
  | "run_concurrent" =>
    let kind ← kindReq j "kind"
    let id ← taskIn names j "id"
    let w ← workerIn names j "worker"
    let trigger ← triggerOf j
    let reaction ← reactionOf names j id
    pure do
      let r ← Service.runWatched kind id w trigger reaction
      give fun n => .obj [("triggered", .bool r.triggered),
        ("action", match r.answer with
          | none => .null
          | some (.ok o) => .obj [("accepted", .bool o.accepted),
              ("cancelled", natJson o.cancelled.length), ("in_flight", natJson o.inFlight.length)]
          | some (.error f) => failureJson n f),
        ("pipeline", match r.pipeline with
          | .ok rec => recordJson n rec
          | .error e => errorJson n e)]
  | "queue" =>
    let kind ← kindReq j "kind"
    let step ← need j "step"
    pure do
      let w ← get
      match runQueueStep w.queues kind step names with
      | .ok (r, qs) =>
        set { w with queues := qs }
        give fun _ => r
      | .error msg => pure (.refused msg)
  | "stats" => pure do
      let js ← statsJson (← get).stats; give fun _ => js
  | _ => throw ("unknown step " ++ verb)

/-- A scenario in progress: the node, the names of children, and the last digest. -/
structure Session where
  service : Service
  names : Names := []
  digest : String

/-- Run one step; gives its entry. -/
def runStep (ses : Session) (step : Json) : Session × Json :=
  match stepAction ses.names step with
  | .error msg => (ses, badInput msg)
  | .ok action =>
    let (res, w) := (ExceptT.run action).run ses.service
    let staged := match res with
      | .ok (.result _ staged) => staged
      | _ => []
    let names := nameChildren ses.names w.store (stagedBy ses.names step ++ staged)
    let entry := match res with
      | .ok (.result enc _) => [("result", enc names)]
      | .ok (.refused msg) => [("error", .str "bad_input"), ("message", .str msg)]
      | .ok (.outline v msg) => [("error", .str v), ("message", .str msg)]
      | .error f => match failureJson names f with
        | .obj ms => ms
        | other => [("error", other)]
    let d := (digest names w.store).compact
    let entry := if d == ses.digest then entry
      else entry ++ [("state", digest names w.store)]
    ({ service := w, names, digest := d }, .obj entry)

/-- The settings of a scenario from its configuration. -/
def scenarioService (j : Json) : Decode (Except String Service) := do
  let c := (field? j "config").getD (.obj [])
  let maxRetries := (← natD c "max_retries" 5) % Nat.pow 2 32
  let initial ← natD c "initial_delay_ms" 0
  let cap ← natD c "max_delay_ms" 0
  if cap > 20 then throw "max_delay_ms above 20 would make the scenario slow"
  let mult ← match field? c "backoff_multiplier" with
    | some _ => float c "backoff_multiplier"
    | none => pure 2.0
  match RetryPolicy.make maxRetries initial cap mult with
  | .error e => pure (.error e.message)
  | .ok retry =>
    let worker : WorkerSettings := ⟨retry, ← natD c "buffer_size" 1024,
      ← natD c "max_children_per_parent" 100000, ← natD c "max_listing_depth" 64, 5⟩
    let dispatch : DispatchSettings := ⟨← natD c "heartbeat_timeout_ms" 600000,
      ← natD c "backlog_threshold" 4, ← natD c "max_ready_rows" 1000,
      ← natD c "max_batch_size" 100, ← natD c "queue_prefetch" 256⟩
    pure (.ok (Service.fresh worker dispatch))

def scenarioOp (j : Json) : Decode Json := do
  match ← scenarioService j with
  | .error msg => pure (fail "RetryConfig" msg)
  | .ok w =>
    let steps ← arr j "steps"
    let ses : Session := { service := w, digest := (digest [] w.store).compact }
    let (_, out) := steps.foldl (fun (acc : Session × List Json) step =>
      let (ses, e) := runStep acc.1 step
      (ses, acc.2 ++ [e])) (ses, [])
    pure (ok (.arr out))

/-- Copy bytes held in memory into a buffer, as `copy_stream` asks. -/
def copyStreamOp (j : Json) : Decode Json := do
  let data ← bytesOf j
  let chunk ← natD j "read_chunk" 65536
  let faults ← natD j "faults" 0
  let buffer ← natD j "buffer_size" 1024
  let cancelled ← boolD j "cancelled" false
  let source ← strD j "source" "src"
  let destination ← strD j "destination" "dst"
  match Memory.streamCopy data chunk faults buffer cancelled source destination with
  | .error e => pure (errorJson [] e)
  | .ok (copied, sink) =>
    let read := sink.length
    pure (ok (.obj [("copied", match copied with
        | .ok n => natJson n
        | .error e => .obj [("error", .str e.variant), ("message", .str e.message),
                            ("retry", .bool e.shouldRetry)]),
      ("sink", bytesJson sink), ("bytes_read", natJson read), ("progress", natJson read)]))

end Api
end Conveyor
