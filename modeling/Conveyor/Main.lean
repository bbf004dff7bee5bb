import Conveyor.Cli.Run
import Std.Time.DateTime.Timestamp

/-!
# The `ferrolift` program

`main` is the machine's side of `Cli.run`, which does all of the work. It reads the machine into a
`Host`, runs, prints what the run printed, writes back the files the run made or changed, and
exits with the run's code.

The machine is read by name only: the environment variables the program reads (those of the
configuration's sections among them), and the paths a run can reach, each with the directories
above it. Those paths are the configuration files searched for, the `-c` file, the sources and
the destination of a copy, the `-o` file, and the log file. A directory is read as an empty one,
as its entries are not listed.
-/

namespace Conveyor
namespace Cli

open Config

/-- The environment variables the program reads, besides those of the configuration. -/
def readVariables : List String :=
  ["HOME", "XDG_CONFIG_HOME", "APPDATA", "RUST_LOG", "HOSTNAME"]

/-- The environment variables that set a configuration value: `FERROLIFT__SECTION__FIELD`. -/
def settingVariables : List String :=
  Config.sections.flatMap fun s =>
    s.fields.map fun f => Loader.envStem ++ "__" ++ s.name.toUpper ++ "__" ++ f.name.toUpper

/-- Read the environment variables the program reads. -/
def readEnvironment : IO (List (String × String)) := do
  let mut env := []
  for name in readVariables ++ settingVariables do
    if let some v ← IO.getEnv name then env := env ++ [(name, v)]
  return env

/-- The number of processors in a list of processor numbers such as `0-3,6`. -/
def countCpus (list : String) : Nat :=
  let ranges := (list.trimAscii.toString.splitOn ",").filter (!·.isEmpty)
  ranges.foldl (fun n r =>
    match r.splitOn "-" with
    | [a, b] => n + (b.toNat?.getD 0 + 1 - a.toNat?.getD 0)
    | _ => n + 1) 0

/-- The number of processors online, at least one. -/
def readCpus : IO Nat := do
  try
    let list ← IO.FS.readFile "/sys/devices/system/cpu/online"
    return max (countCpus list) 1
  catch _ => return 1

/-- What a path of the machine holds: a file's bytes, a directory, or nothing. -/
def readItem (path : String) : IO (Option Item) := do
  try
    let data ← IO.FS.readBinFile path
    return some (.file data.toList)
  catch e =>
    match e with
    | .inappropriateType .. => return some .dir
    | _ => return none

/-- Add what a path holds on the machine to a host. -/
def readInto (h : Host) (path : String) : IO Host := do
  match ← readItem (h.absolute path) with
  | some it => return h.place path it
  | none => return h

/-- The paths a run of these arguments may read before its configuration is known. -/
def reachable (h : Host) (args : List String) : List String :=
  let configFiles := match readArgs args with
    | .ok inv =>
      match inv.config with
      | some p => p :: (Format.ofPath p).extensions.map (withExtension p)
      | none => Loader.searchPaths h
    | .error _ => []
  let commandFiles := match readArgs args with
    | .ok { command := .copy a, .. } =>
      (a.sources ++ [a.destination]).filter fun p => !hasSchemeSeparator p
    | .ok { command := .config a, .. } => a.output.toList
    | .error _ => []
  configFiles ++ commandFiles

/-- Read the machine: the working directory, the environment and the reachable paths. -/
def readHost (args : List String) : IO Host := do
  let cwd := (← IO.currentDir).toString
  let env ← readEnvironment
  let cpus ← readCpus
  let start : Host := ⟨(({} : Disk).makeDirs (DiskPath.ofString cwd).names).toOption.getD {}, cwd, env, cpus⟩
  let h ← (reachable start args).foldlM readInto start
  let logFile := match readArgs args with
    | .ok inv =>
      let loaded := match inv.config with
        | some p => Loader.loadFromFile h p
        | none => Loader.loadDefault h
      (loaded.toOption.bind (·.logging.logFile))
    | .error _ => none
  match logFile with
  | some p => readInto h p
  | none => return h

/-- The absolute path of a disk path's names. -/
def namesPath (names : List String) : String := "/" ++ "/".intercalate names

/-- Write back what a run made or changed on the disk. -/
def writeBack (before after : Disk) : IO Unit := do
  for (names, it) in after.items do
    if before.itemAt names != some it then
      match it with
      | .dir => IO.FS.createDirAll (namesPath names)
      | .file data =>
        IO.FS.createDirAll (namesPath names.dropLast)
        IO.FS.writeBinFile (namesPath names) (ByteArray.mk data.toArray)

end Cli
end Conveyor

/-- Run `ferrolift` on the machine. -/
def main (args : List String) : IO UInt32 := do
  let h ← Conveyor.Cli.readHost args
  let clock := (← Std.Time.Timestamp.now).toNanosecondsSinceUnixEpoch.val
  let o := Conveyor.Cli.run h clock args
  IO.print o.stdout
  IO.eprint o.stderr
  Conveyor.Cli.writeBack h.disk o.host.disk
  return UInt32.ofNat (o.code.getD 1)
