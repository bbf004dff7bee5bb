import Conveyor.Api.Loading
import Conveyor.Api.Normal
import Conveyor.Cli.Run

/-!
# Requests on the command line

A `cli` request runs the command line on a fresh host, as `config_files` builds one, with
`HOSTNAME=oracle` in the environment, and answers with what the run wrote, in normal form:

- texts have the working directory written `$CWD`, identifiers numbered, the values of
  `Duration:` and `Transfer rate:` written `<timing>`, and a worker concurrency equal to the
  machine's default written `<cpus>` (`cliText`);
- standard output that reads as a JSON object is given as that object with sorted keys, with
  instants, workers, durations and the default concurrency masked;
- lines of standard error that are log lines (a line starting with an instant, or a JSON object
  with a `timestamp`) are kept apart, and only the first and the last are given, without their
  instants;
- every file below the working directory is listed by its path below it, sorted: a file of log
  lines as its first and last log line, a UTF-8 text of at most 4096 bytes as its text, and any
  other file as its length and the sum of its bytes.
-/

namespace Conveyor
namespace Api

open Config

/-- The instant a run of the command line starts at. -/
def cliClock : Int := Service.started

/-- A line with the values after `Duration: ` and `Transfer rate: ` written `<timing>`. -/
def maskTimingLine (line : String) : String :=
  let cut := fun (label : String) (l : String) =>
    match l.splitOn label with
    | first :: _ :: _ => some (first ++ label ++ "<timing>")
    | _ => none
  match cut "Duration: " line with
  | some l => l
  | none => (cut "Transfer rate: " line).getD line

/-- A text with the timings of its lines masked. -/
def maskTimings (s : String) : String := "\n".intercalate ((s.splitOn "\n").map maskTimingLine)

/-- A text of a run in normal form, its identifiers numbered after those already seen. -/
def cliText (seen : Seen) (s : String) : String × Seen :=
  let (s, seen) := numberText seen (toAnswer s)
  (maskConcurrency (maskTimings s), seen)

/-- The masks of a run's documents: those of every answer, and the default concurrency. -/
def cliMasks : Masks := { text := cliText }

/-- A document of a run with the default worker concurrency written `<cpus>`. -/
def maskCpus : Json → Json
  | .obj ms => .obj (maskCpusMembers ms)
  | .arr xs => .arr (maskCpusList xs)
  | v => v
where
  /-- `maskCpus` on members. -/
  maskCpusMembers : List (String × Json) → List (String × Json)
    | [] => []
    | (k, v) :: ms =>
      let v := match k, v with
        | "max_concurrent_tasks", .int n =>
          if n == Int.ofNat (Config.defaultConcurrency hostCpus) then .str "<cpus>" else .int n
        | _, v => maskCpus v
      (k, v) :: maskCpusMembers ms
  /-- `maskCpus` on elements. -/
  maskCpusList : List Json → List Json
    | [] => []
    | x :: xs => maskCpus x :: maskCpusList xs

/-- The rest of a line that starts with an instant: what follows the instant and the blanks after
it. -/
def afterInstant? (line : String) : Option String :=
  match line.splitOn " " with
  | first :: _ :: _ =>
    if (Time.parse? first).isSome then
      some (String.ofList ((line.toList.drop first.length).dropWhile (· == ' ')))
    else none
  | _ => none

/-- A log line as the answer shows it: a text line without its instant, or a JSON line without
its `timestamp`. -/
def asLogEntry (line : String) : Option Json :=
  match afterInstant? line with
  | some rest => some (.str rest)
  | none =>
    match Json.parse line with
    | .ok (.obj ms) =>
      if ms.any (·.1 == "timestamp") then some (.obj (ms.filter (·.1 != "timestamp"))) else none
    | _ => none

/-- The lines of a text, without the empty line after a final line break. -/
def textLines (s : String) : List String :=
  match (s.splitOn "\n").reverse with
  | "" :: rest => rest.reverse
  | ls => ls.reverse

/-- A log entry in normal form. -/
def normalEntry (seen : Seen) : Json → Json × Seen
  | .str s =>
    let (s, seen) := cliText seen s
    (.str s, seen)
  | v => normalDocument cliMasks seen v

/-- The first and last of some log entries, in normal form, or null if there are none. -/
def logSummary (seen : Seen) (entries : List Json) : Json × Seen :=
  match entries.head?, entries.getLast? with
  | some first, some last =>
    let (first, seen) := normalEntry seen first
    let (last, seen) := normalEntry seen last
    (.obj [("first", first), ("last", last)], seen)
  | _, _ => (.null, seen)

/-- The files below a directory of a disk, by their path below it, sorted. -/
def filesBelow (d : Disk) (dir : List String) : List (String × Bytes) :=
  let found := d.items.filterMap fun (names, it) =>
    match it with
    | .file data =>
      if Disk.isBelow names dir then some ("/".intercalate (names.drop dir.length), data) else none
    | .dir => none
  found.mergeSort fun a b => decide (a.1 ≤ b.1)

/-- A file of a run in normal form. -/
def fileEntry (seen : Seen) (data : Bytes) : Json × Seen :=
  match String.fromUTF8? (ByteArray.mk data.toArray) with
  | some text =>
    let lines := textLines text
    let entries := lines.filterMap asLogEntry
    if !lines.isEmpty && entries.length == lines.length then
      let (summary, seen) := logSummary seen entries
      (.obj [("log", summary)], seen)
    else if data.length ≤ 4096 then
      let (text, seen) := cliText seen text
      (.str text, seen)
    else (.obj [("len", .int data.length), ("byte_sum", .int (data.foldl (fun n b => n + b.toNat) 0))], seen)
  | none => (.obj [("len", .int data.length), ("byte_sum", .int (data.foldl (fun n b => n + b.toNat) 0))], seen)

/-- The answer for a run of the command line. -/
def cliAnswer (o : Cli.Outcome) : Json :=
  let (out, seen) := match Json.parse o.stdout with
    | .ok (.obj ms) =>
      let (v, seen) := normalDocument cliMasks [] (maskCpus (.obj ms))
      (("stdout_json", v), seen)
    | _ =>
      let (s, seen) := cliText [] o.stdout
      (("stdout", Json.str s), seen)
  let lines := textLines o.stderr
  let plain := lines.filter fun l => (asLogEntry l).isNone
  let entries := lines.filterMap asLogEntry
  let (plain, seen) := plain.foldl (fun (acc : List Json × Seen) l =>
    let (s, seen) := cliText acc.2 l
    (acc.1 ++ [.str s], seen)) ([], seen)
  let (log, seen) := logSummary seen entries
  let dir := (DiskPath.ofString workDir).names
  let (files, _) := (filesBelow o.host.disk dir).foldl (fun (acc : List Json × Seen) (path, data) =>
    let (entry, seen) := fileEntry acc.2 data
    (acc.1 ++ [.arr [.str path, entry]], seen)) ([], seen)
  ok (.obj [("code", match o.code with
      | some c => .int c
      | none => .null),
    out, ("stderr", .arr plain), ("log", log), ("files", .arr files)])

/-- Answer `cli`. -/
def cliOp (j : Json) : Decode Json := do
  let args ← (← arr j "args").mapM fun v => do pure (fromRequest (← asStr "args" v))
  let h ← requestHost j
  let h := { h with env := setVar h.env "HOSTNAME" "oracle" }
  pure (cliAnswer (Cli.run h cliClock args))

end Api
end Conveyor
