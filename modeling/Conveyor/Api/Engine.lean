import Conveyor.Api.Session
import Conveyor.Service.Engine

/-!
# Requests on a transfer engine

An `engine` request builds an engine, lets it run transfers to their end, and reports what
happened: how the transfers and their tasks ended, the cancels, the statistics, the memory's
and the disk's files, and what was asked of the workers.

Every memory system of the request is served by one shared memory, and every local system by
one shared directory. Ids the engine invents are not part of the answer; an id inside a message
is written `<id>`.
-/

namespace Conveyor
namespace Api

/-- The memory every memory system of an engine shares. -/
def sharedMemory : String := "shared"

/-- The directory every local system of an engine shares. -/
def localRoot : String := "local1"

/-- A count field with a default, refused above a bound that would make the run slow. -/
def atMost (j : Json) (k : String) (d bound : Nat) : Decode Nat := do
  let n ← natD j k d
  if n > bound then throw (k ++ " above " ++ toString bound ++ " would make the run slow")
  pure n

/-- A float field with a default. -/
def floatD (j : Json) (k : String) (d : Float) : Decode Float :=
  match field? j k with
  | some _ => float j k
  | none => pure d

/-- A text with every id written `<id>`. -/
def maskIds (s : String) : String := replaceIds (fun _ => "<id>") s

/-- An error as an engine answer writes it. -/
def engineError (e : Error) : Json := fail e.variant (maskIds e.message)

/-- The storage of an engine request: the shared memory with the request's files, read in
pieces of `chunk` bytes with `delay` milliseconds before each, the shared directory with the
local files, and the systems. -/
def engineStorage (j : Json) (chunk delay : Nat) : Decode Storage := do
  let (st, slot) := ({} : Storage).renew sharedMemory (Memory.throttled chunk delay)
  let systems ← arrD j "systems"
  let locals ← arrD j "local_files"
  let usesDisk := (field? j "local_files").isSome ||
    systems.any fun s => match field? s "backend" with
      | some (.str "local") => true
      | _ => false
  let st := if usesDisk then
      { st with disk := ((st.disk.makeDirs [localRoot]).toOption).getD st.disk, roots := 1 }
    else st
  let st ← systems.foldlM (fun (st : Storage) s => do
    let name ← str s "system"
    let backend ← match ← strD s "backend" "memory" with
      | "memory" => pure (Backend.memory slot)
      | "readonly" => pure (Backend.readonly slot (← strD s "label" name))
      | "local" => pure (Backend.disk localRoot)
      | other => throw ("unknown backend " ++ other)
    let st := st.attach name backend
    if ← boolD s "enabled" true then pure st
    else pure ((st.setEnabled name false).toOption.getD st)) st
  let st ← (← arrD j "files").foldlM (fun (st : Storage) f => do
    let path ← str f "path"
    let data ← bytesOf f
    let faults ← natD f "faults" 0
    let deny ← boolD f "deny" false
    pure (st.modifyMemory slot fun m =>
      let m := (m.insert path data).injectFaults path faults
      if deny then m.deny path else m)) st
  locals.foldlM (fun (st : Storage) f => do
    let names := localRoot :: (DiskPath.ofString (← str f "path")).names
    let data ← bytesOf f
    let disk := ((st.disk.makeDirs names.dropLast).toOption).getD st.disk
    pure { st with disk := disk.put names (.file data) }) st

/-- What a request asks of the engine's workers. -/
inductive WorkerAction where
  | spawn
  | stop (index : Nat)
  | kill (index : Nat)
  | count
  | registered
  | other
deriving DecidableEq, Repr

/-- A worker action of a request. -/
def workerActionOf (j : Json) : Decode WorkerAction := do
  match ← str j "do" with
  | "spawn" => pure .spawn
  | "stop" => pure (.stop (← nat j "index"))
  | "kill" => pure (.kill (← nat j "index"))
  | "count" => pure .count
  | "registered" => pure .registered
  | _ => pure .other

/-- Perform a worker action; gives its answer. -/
def performAction : WorkerAction → EngineM Json
  | .spawn => do let _ ← Engine.spawnWorker; pure .null
  | .stop i => do
    match ← Engine.stopWorker i with
    | .ok () => pure .null
    | .error e => pure (engineError e)
  | .kill i => do
    match ← Engine.killWorker i with
    | .ok () => pure .null
    | .error e => pure (engineError e)
  | .count => do pure (natJson (← get).live.length)
  | .registered => do pure (natJson (← get).service.store.workers.length)
  | .other => pure .null

/-- A cancel outcome as counts. -/
def cancelCounts (o : CancelOutcome) : Json :=
  .obj [("accepted", .bool o.accepted), ("cancelled", natJson o.cancelled.length),
    ("in_flight", natJson o.inFlight.length)]

/-- A child as an engine answer shows it. -/
def engineChild (c : Child) : Json :=
  .obj [("source", .str c.source), ("destination", .str c.destination),
    ("status", statusJson c.status), ("size", natJson c.size),
    ("bytes_transferred", natJson c.bytes), ("retry_count", natJson c.retries),
    ("error", optStr [] c.error)]

/-- A parent with its children as an engine answer shows it; with `lookups`, whether fetching
the parent and each child alone gives the same records. -/
def engineParent (s : Store) (lookups : Bool) (p : Parent) : Json :=
  let children := (s.childIds p.id).filterMap (Table.find? s.children)
  let agree := Table.find? s.parents p.id == some p &&
    children.all fun c => Table.find? s.children c.id == some c
  .obj ([("source", .str p.source), ("status", statusJson p.status), ("optional", .bool p.optional),
    ("total_bytes", optNat p.totalBytes), ("bytes_transferred", natJson p.bytes),
    ("child_count", natJson p.childCount), ("retry_count", natJson p.retries),
    ("error", optStr [] p.error)] ++
    (if lookups then [("lookups_agree", .bool agree)] else []) ++
    [("children", .arr (children.map engineChild))])

/-- A transfer as an engine answer shows it. -/
def engineTop (s : Store) (lookups : Bool) (t : Top) : Json :=
  .obj [("status", statusJson t.status), ("error", optStr [] t.error),
    ("cancel_requested", .bool t.cancelRequested),
    ("parents", .arr ((t.parents.filterMap (Table.find? s.parents)).map (engineParent s lookups)))]

/-- The statistics as an engine answer shows them. -/
def engineStats (s : Statistics) : Json :=
  .obj [("cancels_accepted", natJson s.cancelsAccepted),
    ("transfers_submitted", natJson s.transfersSubmitted),
    ("parents_staged", natJson s.parentsStaged), ("child_attempts", natJson s.childAttempts),
    ("child_retries", natJson s.childRetries), ("children_completed", natJson s.childrenCompleted),
    ("children_failed", natJson s.childrenFailed),
    ("children_cancelled", natJson s.childrenCancelled),
    ("bytes_transferred", natJson s.bytesTransferred)]

/-- The files below the shared directory, with their sizes, by path. -/
def localPaths (d : Disk) : Json :=
  let files := d.items.filterMap fun (names, it) =>
    match names, it with
    | root :: rest, .file data => if root == localRoot then some ("/".intercalate rest, data.length) else none
    | _, _ => none
  .arr ((files.mergeSort fun a b => decide (a.1 ≤ b.1)).map fun (p, n) => .arr [.str p, natJson n])

/-- The error variants of the lookups of an id that names nothing. -/
def missingLookups : EngineM Json := do
  let ghost ← Engine.onNode (Service.liftStore Store.freshId)
  let lookups : List (StoreM Unit) := [Store.parent ghost *> pure (), Store.child ghost *> pure (),
    Store.top ghost *> pure (), Store.parentsOf ghost *> pure (), Store.childrenOf ghost *> pure ()]
  let variants ← lookups.mapM fun m => Engine.attemptNode (Service.liftStore m)
  pure (.arr (variants.map fun (r : Except Error Unit) => match r with
    | .ok () => Json.null
    | .error e => Json.str e.variant))

/-- What an engine request asks for, read. -/
structure EngineAsk where
  shutdownFirst : Bool
  actions : Option (List WorkerAction)
  transfers : List Request
  cancels : List Nat
  start : Bool
  /-- The memory path to wait for and the transfer to cancel then. -/
  cancelRunning : Option (String × Nat)
  timeoutMs : Nat
  lookups : Bool
  noShutdown : Bool
  listTenant : String
  localFiles : Bool
  slots : Nat

/-- Run an engine through a request; gives the answer's members, or the answer of a failure
that ends it. -/
def engineRun (a : EngineAsk) : EngineM (Except Json (List (String × Json))) := do
  let mut out : List (String × Json) := []
  if a.shutdownFirst then
    Engine.shutdown
    if let .error e := ← Engine.start then out := out ++ [("start_error", engineError e)]
  if let some actions := a.actions then
    if let .error e := ← Engine.start then return .error (engineError e)
    let answers ← actions.mapM performAction
    out := out ++ [("worker_actions", .arr answers)]
  let submitted ← a.transfers.mapM Engine.submit
  let tops := submitted.filterMap fun r => match r with | .ok t => some t.id | .error _ => none
  let topAt := fun (i : Nat) => match submitted[i]? with
    | some (.ok t) => some t.id
    | _ => none
  let cancels ← a.cancels.mapM fun i => do
    let id ← match topAt i with
      | some id => pure id
      | none => Engine.onNode (Service.liftStore Store.freshId)
    match ← Engine.cancel id with
    | .ok o => pure (cancelCounts o)
    | .error e => pure (.obj [("error", .str e.variant)])
  if a.start then
    if let .error e := ← Engine.start then return .error (engineError e)
    if let .error e := ← Engine.start then return .error (engineError e)
  let workersStarted := (← get).live.length
  if let some (path, i) := a.cancelRunning then
    if let some id := topAt i then
      modify fun e => { e with watch := some (.opens sharedMemory path 1, .cancelTransfer id) }
  let deadline := (← get).service.now + Stamp.ofMillis a.timeoutMs
  let settled ← Engine.settle tops deadline 5000
  if let some (path, i) := a.cancelRunning then
    let e ← get
    let opened := match e.watchAnswer with
      | some _ => true
      | none =>
        match lookupKey sharedMemory e.service.storage.names with
        | some slot => (e.service.storage.memoryAt slot).readOpens path ≥ 1
        | none => false
    modify fun e => { e with watch := none }
    let accepted ← match e.watchAnswer, topAt i with
      | some (some (.ok o)), _ => pure (some (Json.bool o.accepted))
      | some _, _ => pure (some .null)
      | none, some id =>
        match ← Engine.cancel id with
        | .ok o => pure (some (Json.bool o.accepted))
        | .error _ => pure (some .null)
      | none, none => pure none
    out := out ++ [("cancel_running", .obj ([("opened", .bool opened)] ++
      (match accepted with | some v => [("accepted", v)] | none => [])))]
  if !(← get).killed.isEmpty then
    out := out ++ [("evicted", .bool (← Engine.awaitEviction deadline))]
  let s := (← get).service.store
  let transfers := submitted.map fun r => match r with
    | .error e => engineError e
    | .ok t =>
      match Table.find? s.tops t.id with
      | some t => if t.status.isTerminal then engineTop s a.lookups t
        else if a.lookups then engineError (.timeout (a.timeoutMs / 1000))
        else .obj [("error", .str "Timeout")]
      | none => .obj [("error", .str "TaskNotFound")]
  let counts := (Status.all.map fun st =>
    (st.name, (s.children.filter (·.status == st)).length)).filter (·.2 > 0)
  let listed := (s.tops.filter (·.tenant == a.listTenant)).length
  if a.lookups then
    out := out ++ [("missing_lookups", ← missingLookups),
      ("config", .obj [("max_retries", natJson (← get).service.worker.retry.maxRetries),
        ("heartbeat_timeout_ms", natJson (← get).service.dispatch.heartbeatTimeout),
        ("max_concurrent_tasks", natJson a.slots)])]
  let e ← get
  let paths := match lookupKey sharedMemory e.service.storage.names with
    | some slot => ((e.service.storage.memoryAt slot).paths.mergeSort fun x y => decide (x ≤ y))
    | none => []
  if a.localFiles then out := out ++ [("local_paths", localPaths e.service.storage.disk)]
  let stats := engineStats e.service.stats
  let left ← if a.noShutdown then pure Json.null else do
    Engine.shutdown
    pure (natJson (← get).live.length)
  return .ok (out ++ [("settled", .bool settled), ("cancels", .arr cancels),
    ("workers_started", natJson workersStarted), ("workers_left", left),
    ("listed", natJson listed), ("child_counts", .obj (counts.map fun (k, n) => (k, natJson n))),
    ("paths", strList paths), ("stats", stats), ("transfers", .arr transfers)])

/-- Answer `engine`. -/
def engineOp (j : Json) : Decode Json := do
  let workers ← atMost j "workers" 2 8
  let slots ← natD j "slots" 2
  let maxRetries := (← natD j "max_retries" 5) % Nat.pow 2 32
  let depth ← natD j "max_listing_depth" 64
  let maxChildren ← natD j "max_children_per_parent" 100000
  let buffer ← natD j "buffer_size" 65536
  let timeoutMs ← atMost j "timeout_ms" 5000 5000
  let heartbeatTimeout ← natD j "heartbeat_timeout_ms" 600000
  let initial ← atMost j "initial_delay_ms" 0 20
  let cap ← atMost j "max_delay_ms" 1 20
  let mult ← floatD j "backoff_multiplier" 2.0
  let chunk ← natD j "read_chunk" 65536
  let delay ← atMost j "read_delay_ms" 0 20
  let storage ← engineStorage j chunk delay
  let actions ← match field? j "worker_actions" with
    | some v => do pure (some (← (← asArr "worker_actions" v).mapM workerActionOf))
    | none => pure none
  let cancelRunning ← match field? j "cancel_running" with
    | some v => do pure (some (← str v "path", ← natD v "transfer" 0))
    | none => pure none
  let ask : EngineAsk := {
    shutdownFirst := ← boolD j "shutdown_first" false
    actions
    transfers := ← (← arrD j "transfers").mapM requestOf
    cancels := ← (← arrD j "cancel").mapM (asNat "cancel")
    start := ← boolD j "start" true
    cancelRunning
    timeoutMs
    lookups := ← boolD j "lookups" false
    noShutdown := ← boolD j "no_shutdown" false
    listTenant := ← strD j "list_tenant" "ta"
    localFiles := (field? j "local_files").isSome
    slots }
  match RetryPolicy.make maxRetries initial cap mult with
  | .error f => pure (fail "Config" ("Configuration error: Configuration validation failed: " ++ f.message))
  | .ok retry =>
    let service := { Service.fresh ⟨retry, buffer, maxChildren, depth, 10⟩
      ⟨heartbeatTimeout, 4, 1000, 100, 256⟩ with storage }
    let engine : Engine := { service, initialWorkers := workers }
    let (r, _) := (ExceptT.run (engineRun ask)).run engine
    match r with
    | .ok (.ok members) => pure (ok (.obj members))
    | .ok (.error answer) => pure answer
    | .error f => pure (failureJson [] f)

end Api
end Conveyor
