import Conveyor.Config.Sources
import Conveyor.Storage.Disk

/-!
# Loading a configuration

A configuration is built in layers over the defaults: each source adds a layer in the order it
was added, and a later layer wins over an earlier one (tables merge key by key). A file source
counts only if its path exists; its format follows its extension (`toml`, `json`, YAML for all
else). An environment source takes the variables whose lower-cased name starts with the stem and
the separator, turns every further separator into a dot, and reads each value as a boolean, an
integer, a float or else a string. The layered tree is then read into a `Config` and checked.

The files, the variables and the working directory are the `Host`'s. Without a file named, the
first existing path of a fixed search list is used (`Loader.configExists`), and the variables
of stem `FERROLIFT` apply on top.
-/

namespace Conveyor
namespace Config

/-- Why loading or saving a configuration failed. -/
inductive LoadError where
  /-- A file could not be read or written. -/
  | io (path : String) (cause : String)
  /-- The configuration was read but refused. -/
  | validation (message : String)
  /-- The configuration could not be read. -/
  | other (message : String)
deriving DecidableEq, Repr

namespace LoadError

/-- The name of the kind of failure. -/
def kind : LoadError → String
  | .io .. => "Io"
  | .validation _ => "Validation"
  | .other _ => "Other"

/-- The text of a failure. -/
def message : LoadError → String
  | .io path cause => "I/O error on config file '" ++ path ++ "': " ++ cause
  | .validation m => "Configuration validation failed: " ++ m
  | .other m => "Configuration error: " ++ m

end LoadError

/-- Append a path to a directory path; an absolute path replaces it. -/
def joinPath (base p : String) : String :=
  if p.startsWith "/" || base.isEmpty then p
  else if base.endsWith "/" then base ++ p
  else base ++ "/" ++ p

/-- The names of a path, without empty and `.` names. -/
def pathNames (p : String) : List String :=
  (p.splitOn "/").filter fun n => !n.isEmpty && n != "."

/-- The last name of a path, unless it is `..`. -/
def fileName (p : String) : Option String :=
  match (pathNames p).getLast? with
  | some ".." | none => none
  | some n => some n

/-- The extension of a path: what follows the last dot of its last name, unless that dot
starts the name. -/
def extension (p : String) : Option String :=
  (fileName p).bind fun n =>
    match (n.splitOn ".").reverse with
    | ext :: before :: rest => if before.isEmpty && rest.isEmpty then none else some ext
    | _ => none

/-- A path with its extension replaced. -/
def withExtension (p : String) (ext : String) : String :=
  let trimmed := String.ofList ((p.toList.reverse.dropWhile (· == '/')).reverse)
  let stem := match extension trimmed with
    | some old => String.ofList (trimmed.toList.take (trimmed.length - old.length - 1))
    | none => trimmed
  if ext.isEmpty then stem else stem ++ "." ++ ext

/-- A path relative to a directory, both absolute: `..` for every name of the directory past
their common beginning, then the rest of the path. -/
def relativeTo (dir p : String) : String :=
  let rec go : List String → List String → List String
    | [], [] => []
    | a :: as, [] => a :: as
    | [], _ :: bs => ".." :: go [] bs
    | a :: as, b :: bs =>
      if a == b then go as bs else List.replicate (bs.length + 1) ".." ++ a :: as
  "/".intercalate (go (pathNames p) (pathNames dir))

/-- The extensions a format's files may have. -/
def Format.extensions : Format → List String
  | .yaml => ["yaml", "yml"]
  | .toml => ["toml"]
  | .json => ["json"]

/-- The format a path's extension names. -/
def Format.ofPath (p : String) : Format := Format.ofExtension (extension p)

/-- The machine a configuration is loaded on. -/
structure Host where
  disk : Disk
  /-- The working directory, an absolute path. -/
  cwd : String
  /-- The environment variables, in order. -/
  env : List (String × String)
  /-- The number of processors. -/
  cpus : Nat

namespace Host

/-- An environment variable. -/
def var? (h : Host) (name : String) : Option String := (h.env.find? (·.1 == name)).map (·.2)

/-- The absolute form of a path. -/
def absolute (h : Host) (p : String) : String := joinPath h.cwd p

/-- What a path holds. -/
def item? (h : Host) (p : String) : Option Item :=
  match h.disk.find (DiskPath.ofString (h.absolute p)) with
  | .ok it => some it
  | .error _ => none

/-- Whether a path exists. -/
def pathExists (h : Host) (p : String) : Bool := (h.item? p).isSome

/-- Whether a path is a file. -/
def isFile (h : Host) (p : String) : Bool :=
  match h.item? p with
  | some (.file _) => true
  | _ => false

/-- Put a file or directory on a host, with the directories above it. -/
def place (h : Host) (path : String) (it : Item) : Host :=
  let names := (DiskPath.ofString (h.absolute path)).names
  let disk := ((h.disk.makeDirs names.dropLast).toOption).getD h.disk
  let disk := if it == .dir then ((disk.makeDirs names).toOption).getD disk else disk.put names it
  { h with disk }

/-- Write a file, replacing what it held. -/
def writeFile (h : Host) (p : String) (data : Bytes) : Except Errno Host := do
  let path := DiskPath.ofString (h.absolute p)
  let disk ← h.disk.create path
  pure { h with disk := disk.append path.names data }

end Host

/-- Where a configuration builder takes its layers from. -/
inductive Source where
  /-- The defaults, which are always the first layer anyway. -/
  | defaults
  /-- A file, if its path exists. -/
  | file (path : String)
  /-- The environment variables of a stem. -/
  | env (stem : String)
deriving DecidableEq, Repr

/-- The sources of a configuration, and the separator of environment variable names. -/
structure Builder where
  sources : List Source := []
  separator : String := "__"
deriving Repr

/-- Where a value of an environment variable comes from, in failures. -/
def environmentOrigin : String := "the environment"

/-- An environment value read as a boolean, an integer, a float, or else a string. -/
def envSetting (v : String) : Setting :=
  let o := some environmentOrigin
  if v.toLower == "true" then .bool o true
  else if v.toLower == "false" then .bool o false
  else match Numeral.integer? 64 v with
    | some i => .int o i
    | none =>
      match Numeral.float? v with
      | some x => .float o x
      | none => .text o v

/-- The layer of the environment variables of a stem. -/
def envLayer (env : List (String × String)) (stem separator : String) : List (String × Setting) :=
  let lead := (stem ++ separator).toLower
  env.filterMap fun (name, v) =>
    let key := name.toLower
    if key.startsWith lead then
      let rest := String.ofList (key.toList.drop lead.length)
      let rest := if separator.isEmpty then rest else rest.replace separator "."
      some (rest, envSetting v)
    else none

/-- The file a file source reads: the path if it is a file, else the path with one of its
format's extensions; gives the absolute path. -/
def findFile (h : Host) (name : String) (format : Format) : Except LoadError String :=
  let abs := h.absolute name
  if h.isFile abs then .ok abs
  else match format.extensions.find? (fun e => h.isFile (withExtension abs e)) with
    | some e => .ok (withExtension abs e)
    | none => .error (.other ("configuration file \"" ++ name ++ "\" not found"))

/-- The layer of a file source. -/
def readFileLayer (h : Host) (name : String) : Except LoadError (List (String × Setting)) := do
  let format := Format.ofPath name
  let abs ← findFile h name format
  let uri := relativeTo h.cwd abs
  let data := match h.item? abs with
    | some (.file d) => d
    | _ => []
  match String.fromUTF8? (ByteArray.mk data.toArray) with
  | none => .error (.other "stream did not contain valid UTF-8")
  | some text =>
    match fileLayer format (some uri) text with
    | .ok es => .ok es
    | .error f => .error (.other f.message)

/-- Add the layer of a source. -/
def addSource (h : Host) (separator : String) (root : Setting) : Source → Except LoadError Setting
  | .defaults => .ok root
  | .file path =>
    if h.pathExists path then (Setting.layer root ·) <$> readFileLayer h path
    else .ok root
  | .env stem => .ok (Setting.layer root (envLayer h.env stem separator))

/-- Build a configuration on a host: the defaults, the layers of the sources in order, then the
reading and the checks. -/
def Builder.build (h : Host) (b : Builder) : Except LoadError Config := do
  let base := Config.default h.cpus
  let root ← b.sources.foldlM (addSource h b.separator) (Config.toSetting base)
  let c ← match Config.ofSettings base root with
    | .ok c => pure c
    | .error f => throw (.other f.message)
  match c.validate with
  | .ok () => pure c
  | .error f => throw (.validation f.message)

/-- Build a configuration, or take the defaults if that fails. -/
def Builder.buildOrDefault (h : Host) (b : Builder) : Config :=
  match b.build h with
  | .ok c => c
  | .error _ => Config.default h.cpus

namespace Loader

/-- The stem of the environment variables a loaded configuration reads. -/
def envStem : String := "FERROLIFT"

/-- The directory of per-user configuration: `XDG_CONFIG_HOME`, else `$HOME/.config`, else
`APPDATA`. -/
def configDir (h : Host) : Option String :=
  match h.var? "XDG_CONFIG_HOME" with
  | some d => some d
  | none =>
    match h.var? "HOME" with
    | some home => some (joinPath home ".config")
    | none => h.var? "APPDATA"

/-- The paths searched for a configuration file, in order. -/
def searchPaths (h : Host) : List String :=
  ["ferrolift.yaml", "ferrolift.yml", "ferrolift.toml", ".ferrolift.yaml"] ++
    (match configDir h with
      | some d =>
        let dir := joinPath d "ferrolift"
        [joinPath dir "config.yaml", joinPath dir "config.toml"]
      | none => []) ++
    ["/etc/ferrolift/config.yaml", "/etc/ferrolift/config.toml"]

/-- The first path of the search list that exists. -/
def configExists (h : Host) : Option String := (searchPaths h).find? h.pathExists

/-- Load the configuration: the defaults, the first file of the search list, the environment. -/
def loadDefault (h : Host) : Except LoadError Config :=
  let file := match configExists h with
    | some p => [Source.file p]
    | none => []
  Builder.build h { sources := [.defaults] ++ file ++ [.env envStem] }

/-- Load the configuration of a file, which must exist, with the environment on top. -/
def loadFromFile (h : Host) (path : String) : Except LoadError Config :=
  if !h.pathExists path then .error (.io path "Configuration file not found")
  else Builder.build h { sources := [.defaults, .file path, .env envStem] }

/-- Save a configuration in the format of the path's extension; gives the host with the file
written and the text. -/
def saveToFile (h : Host) (c : Config) (path : String) : Except LoadError (Host × String) :=
  let text := c.render (Format.ofExtension (extension path))
  match h.writeFile path text.toUTF8.toList with
  | .ok h => .ok (h, text)
  | .error e => .error (.io path e.breakage.text)

end Loader

end Config
end Conveyor
