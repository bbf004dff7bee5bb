import Conveyor.Cli.Args
import Conveyor.Cli.Log
import Conveyor.Config.Load
import Conveyor.Service.Engine
import Conveyor.Console.Summary

/-!
# A run of the command line

`run` is the whole program as a function of the machine (`Host`), the time it starts at and the
arguments: what it writes to standard output and standard error, the exit code, and the machine
after it.

1. The arguments are read (`readArgs`); a help, the version or a refusal ends the run there.
2. The configuration is loaded: from the file `-c` names (which must exist), or the default way.
3. The log is set up: its level is `debug` with `-d`, else `info` with `-v`, else `error` with
   `-q`, else the configuration's; a valid `RUST_LOG` replaces it. The log goes to the
   configuration's log file (which must name a file) or to standard error, as text or JSON.
4. The command runs.
   - `config` prints the configuration (or the defaults with `--default`) in the chosen format,
     or writes it to the `-o` file in the format of that file's extension.
   - `copy` turns each source and the destination into a location (a text with `://` is kept,
     a path becomes an absolute `file:` location), putting each of several sources below the
     destination under its last name, checks the request, and runs an engine with the
     configuration and the workers asked for, with the local disk as system `file`, until the
     transfer ends. It prints each element before, and a summary (or the JSON summary) after.
     A transfer that does not complete fails the run.

A failure ends the run with exit code 1 and `Error:` followed by the failure's message and, under
`Caused by:`, the messages of its causes, numbered when there are several.
-/

namespace Conveyor
namespace Cli

open Config

/-- The version of the program. -/
def version : String := "0.1.0"

/-- What a run of the command line leaves behind. -/
structure Outcome where
  /-- The exit code; `none` for a run that does not end by itself. -/
  code : Option Nat
  stdout : String
  stderr : String
  host : Host

/-- Lines after the first of a text, each behind an indent. -/
def indentRest (first rest : String) (text : String) : String :=
  match text.splitOn "\n" with
  | [] => first
  | l :: ls => first ++ l ++ String.join (ls.map fun x => "\n" ++ rest ++ x)

/-- A number right-aligned in five columns. -/
def rightFive (n : Nat) : String :=
  let s := toString n
  String.ofList (List.replicate (5 - s.length) ' ') ++ s

/-- The report of a failure, given as its message followed by the messages of its causes. -/
def failureText (chain : List String) : String :=
  match chain with
  | [] => ""
  | top :: causes =>
    let below := match causes with
      | [] => ""
      | [c] => "\n\nCaused by:\n" ++ indentRest "    " "    " c
      | cs => "\n\nCaused by:" ++
        String.join (cs.zipIdx.map fun (c, n) => "\n" ++ indentRest (rightFive n ++ ": ") "       " c)
    "Error: " ++ top ++ below ++ "\n"

/-- A loading failure with its causes: a file that cannot be read is caused by the system's
failure. -/
def LoadError.chain : LoadError → List String
  | .io path cause => [(LoadError.io path cause).message, cause]
  | e => [e.message]

/-- The module the program's own events come from. -/
def mainTarget : String := "ferrolift"

/-- An event of the program's own, at level info. -/
def note (message : String) : Event := ⟨.info, mainTarget, message⟩

/-- Where the log goes and how it is written. -/
structure LogSink where
  filter : List Directive
  json : Bool
  /-- The file the log is appended to, or standard error. -/
  file : Option String

/-- The last name of a path, if it is a plain name. -/
def pathFileName (p : String) : Option String :=
  match (Uri.components p).getLast? with
  | some ".." | some "." | none => none
  | some n => some n

/-- Set up the log. -/
def setUpLog (h : Host) (inv : Invocation) (logging : Config.Logging) : Except (List String) LogSink := do
  let level := if inv.debug then "debug" else if inv.verbose then "info" else if inv.quiet then "error"
    else logging.level
  let fallback := (directives? level).getD []
  let filter := match h.var? "RUST_LOG" with
    | some spec => (directives? spec).getD fallback
    | none => fallback
  match logging.logFile with
  | none => pure { filter, json := logging.jsonFormat, file := none }
  | some path =>
    match pathFileName path with
    | none => throw ["Log file path " ++ path ++ " has no file name"]
    | some _ => pure { filter, json := logging.jsonFormat, file := some path }

/-- Open a file for appending: a file is kept, a missing one is made. -/
def openAppend (d : Disk) (p : DiskPath) : Except Errno Disk :=
  match d.find p with
  | .ok (.file _) => .ok d
  | .ok .dir => .error .isDir
  | .error _ => d.create p

/-- Write the log lines of the events a sink lets through, from a time on, a microsecond apart;
gives the host and what goes to standard error. -/
def writeLog (h : Host) (sink : LogSink) (clock : Int) (events : List Event) : Except String (Host × String) :=
  let shown := events.filter (allows sink.filter)
  let text := String.join (shown.zipIdx.map fun (e, i) =>
    let t := clock + 1000 * i
    (if sink.json then e.jsonLine t else e.line t) ++ "\n")
  match sink.file with
  | none => .ok (h, text)
  | some path =>
    let p := DiskPath.ofString (h.absolute path)
    let opened : Except Errno Disk := match openAppend h.disk p with
      | .ok d => .ok d
      | .error _ =>
        match h.disk.makeDirs p.parent.names with
        | .ok d => openAppend d p
        | .error e => .error e
    match opened with
    | .ok d => .ok ({ h with disk := d.append p.names text.toUTF8.toList }, "")
    | .error e => .error ("initializing rolling file appender failed: " ++ e.breakage.text)

/-- Whether a text holds `://`, as a location does after its scheme. -/
def hasSchemeSeparator (input : String) : Bool := go input.toList
where
  go : List Char → Bool
    | ':' :: '/' :: '/' :: _ => true
    | _ :: cs => go cs
    | [] => false

/-- A source or destination as a location: kept if it has `://`, else the `file:` location the
URL library writes for the absolute path. -/
def toUri (L : UrlLibrary) (cwd : String) (input : String) : String :=
  if hasSchemeSeparator input then input
  else L.render (L.fromFilePath (if input.startsWith "/" then input else cwd ++ "/" ++ input))

/-- The last non-empty segment of a location's path, which places a source below a shared
destination. -/
def baseName (uri : String) : Except (List String) String :=
  match Uri.Url.parse uri with
  | .error e => .error ["Invalid URI '" ++ uri ++ "'", e.message]
  | .ok u =>
    let segments := if u.path.startsWith "/" then ((u.path.drop 1).toString.splitOn "/").filter (!·.isEmpty) else []
    match segments.getLast? with
    | some n => .ok n
    | none => .error ["Source '" ++ uri ++ "' has no file name"]

/-- A text without the slashes it ends in. -/
def trimSlashes (s : String) : String :=
  String.ofList (s.toList.reverse.dropWhile (· == '/')).reverse

/-- The request a `copy` asks for. -/
def buildRequest (cwd : String) (a : CopyArgs) : Except (List String) Request := do
  let destination := toUri .standard cwd a.destination
  let elements ← a.sources.mapM fun src => do
    let source := toUri .standard cwd src
    let target ← if a.sources.length == 1 then pure destination
      else do pure (trimSlashes destination ++ "/" ++ (← baseName source))
    pure ({ source, destination := target, optional := a.optional } : Element)
  let r : Request := { tenant := a.tenant, user := a.user, tag := a.tag, elements }
  match r.validate with
  | .ok () => pure r
  | .error e => throw [e.message]

/-- The engine a `copy` runs: the configuration's settings, the workers asked for, and the local
disk, unrooted, as system `file`. -/
def copyEngine (h : Host) (c : Config) (workers : Nat) : Engine :=
  let retry := (c.retry.policy.toOption).getD RetryPolicy.standard
  let storage := ({ disk := h.disk } : Storage).attach "file" (.disk "")
  let service := { Service.fresh
    ⟨retry, c.worker.bufferSize, c.staging.maxChildrenPerParent, c.staging.maxListingDepth, c.progress.windowMs⟩
    ⟨c.dispatch.heartbeatTimeoutMs, c.dispatch.backlogThreshold, c.dispatch.maxReadyRows,
      c.dispatch.maxBatchSize, c.dispatch.queuePrefetch⟩ with storage }
  { service, initialWorkers := workers }

/-- How many rounds a copy's engine may take. -/
def copyRounds : Nat := 100000

/-- Start the engine, submit the transfer and follow it until it ends, then stop the engine;
gives the transfer as it ended, or none if it never ends. -/
def followTransfer (r : Request) : EngineM (Except Error (Option Top)) := do
  let _ ← Engine.start
  match ← Engine.submit r with
  | .error e => return .error e
  | .ok top =>
    let deadline := Service.started + Stamp.ofMillis 10000
    if ← Engine.settle [top.id] deadline copyRounds then
      let ended ← Engine.onNode (Service.liftStore (Store.top top.id))
      Engine.shutdown
      return .ok (some ended)
    else return .ok none

/-- The text summary of a finished transfer. -/
def summaryText (top : Top) (parents : List Parent) (stats : Statistics) (uptime : Span) : String :=
  let parentLines := parents.map fun p =>
    "  " ++ p.status.name ++ " " ++ p.source ++ " -> " ++ p.destination ++
      (if p.optional then " (optional)" else "") ++ "\n" ++
    "      " ++ toString p.childCount ++ " files, " ++ formatBytes p.bytes ++ "\n" ++
    (match p.error with
      | some e => "      " ++ e ++ "\n"
      | none => "")
  "\nTransfer Summary:\n" ++
  "  Transfer: " ++ top.id.render ++ "\n" ++
  "  Status: " ++ top.status.name ++ "\n" ++
  (match top.error with
    | some e => "  Error: " ++ e ++ "\n"
    | none => "") ++
  String.join parentLines ++
  "  Files: " ++ toString stats.childrenCompleted ++ " copied, " ++ toString stats.childrenFailed ++
    " failed, " ++ toString stats.childrenCancelled ++ " cancelled\n" ++
  "  Retries: " ++ toString stats.childRetries ++ "\n" ++
  "  Bytes copied: " ++ formatBytes stats.bytesTransferred ++ "\n" ++
  "  Duration: " ++ formatDuration uptime ++ "\n" ++
  "  Transfer rate: " ++ formatBytes stats.throughput.toUInt64.toNat ++ "/s\n"

/-- How a command ended. -/
inductive Ending where
  | success
  /-- A failure, as its message and the messages of its causes. -/
  | failure (chain : List String)
  /-- A panic, with its message. -/
  | panic (message : String)
  /-- It does not end by itself. -/
  | hang
deriving Repr

/-- What a command did. -/
structure Ran where
  stdout : String := ""
  events : List Event := []
  host : Host
  ending : Ending := .success

/-- Run `config`. -/
def configCommand (h : Host) (loaded : Config) (a : ConfigArgs) : Ran :=
  let c := if a.useDefault then Config.default h.cpus else loaded
  match a.output with
  | some path =>
    match Loader.saveToFile h c path with
    | .ok (h, _) => { host := h, stdout := "⚙ Configuration written to " ++ path ++ "\n" }
    | .error e => { host := h, ending := .failure (("Failed to write " ++ path) :: LoadError.chain e) }
  | none => { host := h, stdout := c.render a.format }

/-- A delay in milliseconds as a span is written in the log: whole milliseconds below a second,
else seconds with the fraction's digits up to the last that is not zero. -/
def delayText (ms : Nat) : String :=
  if ms == 0 then "0ns"
  else if ms < 1000 then toString ms ++ "ms"
  else
    let frac := (Time.padded 3 (ms % 1000)).toList.reverse.dropWhile (· == '0') |>.reverse
    toString (ms / 1000) ++ (if frac.isEmpty then "" else "." ++ String.ofList frac) ++ "s"

/-- The events of an engine's life around a transfer, as its modules log them. -/
def engineEvents (h : Host) (c : Config) (workers : List WorkerId) (top : Top) (parents : List Parent)
    (children : List Child) (stopped : Bool) : List Event × List Event :=
  let host := (h.var? "HOSTNAME").getD "localhost"
  let engine := "ferrolift_engine::engine"
  let store := "ferrolift_store::memory"
  let executor := "ferrolift_engine::executor"
  let scheduler := "ferrolift_engine::scheduler"
  let pipeline := "ferrolift_engine::pipeline::parent"
  let id := top.id.render
  let before := [⟨.info, engine, "Transfer engine initialized"⟩,
    ⟨.info, "ferrolift_io::registry", "Registering storage system 'file' (local)"⟩,
    ⟨.info, scheduler, "Dispatcher loop for parent pool started"⟩,
    ⟨.info, scheduler, "Dispatcher loop for child pool started"⟩] ++
    workers.flatMap (fun w =>
      [⟨.info, store, "Registered worker " ++ w.render ++ " on " ++ host⟩,
       ⟨.info, executor, "Worker " ++ w.render ++ " registered on " ++ host ++ " with " ++
         toString (max c.worker.maxConcurrentTasks 1) ++ " slots"⟩]) ++
    [⟨.info, engine, "Transfer engine started with " ++ toString workers.length ++ " workers"⟩,
     ⟨.info, store, "Accepted transfer " ++ id ++ " for tenant " ++ top.tenant ++ " with " ++
       toString top.parents.length ++ " elements"⟩,
     ⟨.info, engine, "Accepted transfer " ++ id ++ " for " ++ top.tenant ++ "/" ++ top.user ++ " with " ++
       toString top.parents.length ++ " elements"⟩,
     note ("Submitted transfer " ++ id)]
  let retry := (c.retry.policy.toOption).getD RetryPolicy.standard
  let staging := parents.flatMap fun p =>
    match p.totalBytes, p.status, p.error with
    | none, .failed, some e =>
      (List.range p.retries).map (fun k => (⟨.warn, pipeline, "Listing for parent " ++ p.id.render ++
        " failed (" ++ e ++ "), retry " ++ toString (k + 1) ++ " in " ++ delayText (retry.delayFor k)⟩ : Event)) ++
      [⟨.warn, pipeline, "Parent " ++ p.id.render ++ " failed during staging: " ++ e⟩]
    | some _, _, _ => [⟨.info, pipeline, "Parent " ++ p.id.render ++ " staged with " ++ toString p.childCount ++ " children"⟩]
    | _, _, _ => []
  let child := "ferrolift_engine::pipeline::child"
  let failures := children.flatMap fun ch =>
    match ch.status, ch.error with
    | .failed, some e =>
      (List.range (ch.retries - 1)).map (fun k => (⟨.warn, child, "Child " ++ ch.id.render ++ " attempt " ++
        toString (k + 1) ++ " failed (" ++ e ++ "), retrying in " ++ delayText (retry.delayFor k)⟩ : Event)) ++
      [⟨.warn, child, "Child " ++ ch.id.render ++ " failed after " ++ toString ch.retries ++ " attempts: " ++ e⟩]
    | _, _ => []
  let rollups := parents.filterMap fun p =>
    if p.status.isTerminal && p.totalBytes.isSome then some ⟨.info, store, "Parent " ++ p.id.render ++ " rolled up to " ++ p.status.name⟩
    else none
  let finished := if top.status.isTerminal then [⟨.info, store, "Transfer " ++ id ++ " finished as " ++ top.status.name⟩] else []
  let after := if stopped then
      workers.flatMap (fun w => [⟨.info, store, "Deregistered worker " ++ w.render ++ ", released 0 tasks"⟩,
        (⟨.info, executor, "Worker " ++ w.render ++ " stopped"⟩ : Event)]) ++
      [⟨.info, scheduler, "Dispatcher loop for parent pool stopped"⟩,
       ⟨.info, scheduler, "Dispatcher loop for child pool stopped"⟩,
       ⟨.info, engine, "Transfer engine stopped"⟩]
    else []
  (before ++ staging ++ failures ++ rollups ++ finished, after)

/-- Run `copy`. -/
def copyCommand (h : Host) (c : Config) (a : CopyArgs) (quiet : Bool) : Ran :=
  match buildRequest h.cwd a with
  | .error chain => { host := h, ending := .failure chain }
  | .ok r =>
    if a.workers == 0 then { host := h, ending := .failure ["--workers must be at least 1"] }
    else
      let quiet := quiet || a.json
      let announced := if quiet then "" else
        String.join (r.elements.map fun e => "→ Copying " ++ e.source ++ " to " ++ e.destination ++ "\n")
      let (result, engine) := (ExceptT.run (followTransfer r)).run (copyEngine h c a.workers)
      let h := { h with disk := engine.service.storage.disk }
      let store := engine.service.store
      match result with
      | .error (.panic p) => { host := h, stdout := announced, ending := .panic p.message }
      | .error (.error e) => { host := h, stdout := announced, ending := .failure [e.message] }
      | .ok (.error e) => { host := h, stdout := announced, ending := .failure [e.message] }
      | .ok (.ok none) =>
        let top := (store.tops.head?).getD default
        let parents := store.parents.filter (·.top == top.id)
        let (events, _) := engineEvents h c engine.live top parents store.children false
        { host := h, stdout := announced, events, ending := .hang }
      | .ok (.ok (some top)) =>
        let parents := top.parents.filterMap (Table.find? store.parents)
        let workers := (Table.find? store.tops top.id).map (fun _ => engine.live) |>.getD []
        let stats := engine.service.stats
        let uptime := (engine.service.now - Service.started).toNat
        let span : Span := ⟨uptime / Span.nanosPerSec, uptime % Span.nanosPerSec⟩
        let (events, after) := engineEvents h c workers top parents store.children true
        let summary : Except Panic String := if a.json then
            match summaryJson top parents stats span with
            | .ok j => .ok (j.pretty ++ "\n")
            | .error p => .error p
          else if quiet then .ok ""
          else .ok (summaryText top parents stats span)
        match summary with
        | .error p => { host := h, stdout := announced, events := events ++ after, ending := .panic p.message }
        | .ok shown =>
          let stdout := announced ++ shown
          if top.status == .completed then
            { host := h, stdout, events := events ++ after ++ [note ("Transfer " ++ top.id.render ++ " completed")] }
          else
            { host := h, stdout, events := events ++ after,
              ending := .failure ["Transfer " ++ top.id.render ++ " finished as " ++ top.status.name ++
                ((top.error.map (": " ++ ·)).getD "")] }

/-- Run the command line on a host, from a time on, with arguments. -/
def run (h : Host) (clock : Int) (args : List String) : Outcome :=
  match readArgs args with
  | .error stop =>
    if stop.toStdout then ⟨some stop.code, stop.text, "", h⟩ else ⟨some stop.code, "", stop.text, h⟩
  | .ok inv =>
    let loaded := match inv.config with
      | some path => (Loader.loadFromFile h path).mapError fun e =>
          ("Failed to load configuration from " ++ path) :: LoadError.chain e
      | none => (Loader.loadDefault h).mapError LoadError.chain
    match loaded with
    | .error chain => ⟨some 1, "", failureText chain, h⟩
    | .ok c =>
      match setUpLog h inv c.logging with
      | .error chain => ⟨some 1, "", failureText chain, h⟩
      | .ok sink =>
        let ran := match inv.command with
          | .config a => configCommand h c a
          | .copy a => copyCommand h c a inv.quiet
        let events := note ("FerroLift v" ++ version ++ " starting") :: ran.events
        match writeLog ran.host sink clock events with
        | .error why => ⟨some 101, ran.stdout, "thread 'main' panicked:\n" ++ why ++ "\n", ran.host⟩
        | .ok (h, logged) =>
          match ran.ending with
          | .success => ⟨some 0, ran.stdout, logged, h⟩
          | .failure chain => ⟨some 1, ran.stdout, logged ++ failureText chain, h⟩
          | .panic message => ⟨some 101, ran.stdout, logged ++ "thread 'main' panicked:\n" ++ message ++ "\n", h⟩
          | .hang => ⟨none, ran.stdout, logged, h⟩

end Cli
end Conveyor
