import Conveyor.Api.Settings
import Conveyor.Api.Records
import Conveyor.Config.Load

/-!
# Requests on configuration files

A request about configuration files runs on a fresh host: a working directory holding the
request's files, and environment variables the request sets. Texts of the request write the
working directory as `$CWD`, and so do the answers.

Answers do not depend on the machine's processor count: a worker concurrency equal to the
default it gives is written `"default"` in configurations and `<cpus>` in texts.
-/

namespace Conveyor
namespace Api

open Config

/-- The working directory of a host built for a request. -/
def workDir : String := "/tmp/conveyor-run"

/-- A text with `$CWD` standing for the working directory. -/
def fromRequest (s : String) : String := s.replace "$CWD" workDir

/-- A text with the working directory written as `$CWD`. -/
def toAnswer (s : String) : String := s.replace workDir "$CWD"

mutual
/-- Write the working directory as `$CWD` in every string of an answer. -/
def answerStrings : Json → Json
  | .str s => .str (toAnswer s)
  | .arr xs => .arr (answerStringsList xs)
  | .obj ms => .obj (answerStringsMembers ms)
  | v => v
/-- `answerStrings` on elements. -/
def answerStringsList : List Json → List Json
  | [] => []
  | x :: xs => answerStrings x :: answerStringsList xs
/-- `answerStrings` on members. -/
def answerStringsMembers : List (String × Json) → List (String × Json)
  | [] => []
  | (k, v) :: ms => (k, answerStrings v) :: answerStringsMembers ms
end

/-- Mask a count that follows `:` or `=` (and an optional quote and blanks) at the start of a
piece of text, if it equals `n`. -/
def maskAfter (n : Nat) (mask : String) (piece : String) : String :=
  let cs := piece.toList
  let isBlank := fun c => c == ' ' || c == '\t' || c == '\n' || c == '\r'
  let q := if cs.head? == some '"' then 1 else 0
  let a := cs.drop q
  let ws1 := (a.takeWhile isBlank).length
  match a.drop ws1 with
  | c :: rest =>
    if c == ':' || c == '=' then
      let ws2 := (rest.takeWhile isBlank).length
      let r := rest.drop ws2
      let ds := r.takeWhile Char.isDigit
      if !ds.isEmpty && Numeral.digitsValue ds == n then
        String.ofList (cs.take (q + ws1 + 1 + ws2)) ++ mask ++ String.ofList (r.drop ds.length)
      else piece
    else piece
  | [] => piece

/-- A text with a worker concurrency equal to the machine's default written `<cpus>`. -/
def maskConcurrency (text : String) : String :=
  let word := "max_concurrent_tasks"
  match text.splitOn word with
  | [] => text
  | first :: rest =>
    word.intercalate (first :: rest.map (maskAfter (Config.defaultConcurrency hostCpus) "<cpus>"))

/-- A fresh host: the working directory and the directories above it. -/
def freshHost (env : List (String × String)) : Host :=
  let names := (DiskPath.ofString workDir).names
  let disk := ((({} : Disk).makeDirs names).toOption).getD {}
  ⟨disk, workDir, env, hostCpus⟩

/-- Set an environment variable, replacing an earlier value. -/
def setVar (env : List (String × String)) (name value : String) : List (String × String) :=
  if env.any (·.1 == name) then env.map fun kv => if kv.1 == name then (name, value) else kv
  else env ++ [(name, value)]

/-- What a request puts in a file: a text, a directory, or bytes. -/
def itemOf (v : Json) : Decode Item :=
  match v with
  | .str s => pure (.file (fromRequest s).toUTF8.toList)
  | v =>
    match field? v "dir" with
    | some (.bool true) => pure .dir
    | _ => do pure (.file (← bytesOf v))

/-- The host of a request: its files, `HOME` (unless `home` is false), `XDG_CONFIG_HOME` with
`xdg`, `APPDATA` with `appdata`, then its `env`. -/
def requestHost (j : Json) : Decode Host := do
  let home ← match field? j "home" with
    | some (.bool false) => pure none
    | some v => pure (some (fromRequest (← asStr "home" v)))
    | none => pure (some (workDir ++ "/home"))
  let xdg ← match field? j "xdg" with
    | some (.bool true) => pure (some (workDir ++ "/xdg"))
    | some (.bool false) | some .null | none => pure none
    | some v => pure (some (fromRequest (← asStr "xdg" v)))
  let appdata := (← strOpt j "appdata").map fromRequest
  let env := [("HOME", home), ("XDG_CONFIG_HOME", xdg), ("APPDATA", appdata)].filterMap
    fun (k, v) => v.map (k, ·)
  let extra ← match field? j "env" with
    | some (.obj ms) => ms.mapM fun (k, v) => do pure (k, fromRequest (← asStr k v))
    | _ => pure []
  let env := extra.foldl (fun e (k, v) => setVar e k v) env
  let files ← match field? j "files" with
    | some (.obj ms) => ms.mapM fun (k, v) => do pure (k, ← itemOf v)
    | _ => pure []
  pure (files.foldl (fun h (p, it) => h.place p it) (freshHost env))

/-- A loading failure as an answer. -/
def loadFailure (e : LoadError) : Json := fail e.kind (toAnswer e.message)

/-- A loaded configuration as an answer. -/
def loadedAnswer (r : Except LoadError Config) : Json :=
  match r with
  | .ok c => ok (answerStrings (configJson c))
  | .error e => loadFailure e

/-- An engine's failure to take a configuration. -/
def engineFailure (e : LoadError) : Json := fail "Config" ("Configuration error: " ++ toAnswer e.message)

/-- The configuration an engine starts with, loaded the default way. -/
def engineConfig (h : Host) : Except LoadError Config := do
  let c ← Loader.loadDefault h
  match c.retry.policy with
  | .ok _ => pure c
  | .error f => throw (.validation f.message)

/-- A builder source of a request: `{}`, `{"file": path}` or `{"env": stem}`. -/
def sourceOf (v : Json) : Decode Config.Source := do
  match field? v "file", field? v "env" with
  | some p, _ => pure (.file (fromRequest (← asStr "file" p)))
  | none, some s => pure (.env (← asStr "env" s))
  | none, none => pure .defaults

/-- Answer `config_files`. -/
def configFilesOp (j : Json) : Decode Json := do
  let call ← str j "call"
  let h ← requestHost j
  match call with
  | "load_default" => pure (loadedAnswer (Loader.loadDefault h))
  | "load_from_file" => pure (loadedAnswer (Loader.loadFromFile h (fromRequest (← str j "path"))))
  | "config_exists" =>
    pure (ok (match Loader.configExists h with
      | some p => .str (toAnswer p)
      | none => .null))
  | "save_to_file" =>
    let path := fromRequest (← str j "path")
    let given ← match field? j "config" with
      | some v => pure (strictConfig 1 v)
      | none => pure (.ok (Config.default hostCpus))
    match given with
    | .error answer => pure answer
    | .ok c =>
      match Loader.saveToFile h c path with
      | .error e => pure (loadFailure e)
      | .ok (h, text) =>
        let reloads := match Loader.loadFromFile h path with
          | .ok c' => .bool (c' == c)
          | .error e => loadFailure e
        pure (ok (.obj [("reloads_equal", reloads), ("text", .str (maskConcurrency (toAnswer text)))]))
  | "builder" =>
    let sources ← (← arrD j "sources").mapM sourceOf
    let separator ← strD j "separator" "__"
    let b : Builder := { sources, separator }
    if ← boolD j "or_default" false then pure (ok (answerStrings (configJson (b.buildOrDefault h))))
    else pure (loadedAnswer (b.build h))
  | "engine_new" =>
    pure (match engineConfig h with
      | .ok c => ok (answerStrings (configJson c))
      | .error e => engineFailure e)
  | "engine_builder" =>
    pure (match engineConfig h with
      | .ok c => ok (.obj [("config", answerStrings (configJson c)), ("workers", natJson 0)])
      | .error e => engineFailure e)
  | "engine_with_config" =>
    match strictConfig 1 (← need j "config") with
    | .error answer => pure answer
    | .ok c =>
      match c.retry.policy with
      | .ok _ => pure (ok (answerStrings (configJson c)))
      | .error f => pure (engineFailure (.validation f.message))
  | _ => pure (badInput ("unknown call " ++ call))

/-- Answer `config_load`: the text is the file `config.<format>` of a fresh host, read over the
defaults. A worker concurrency is written `"default"` only when the text does not set it. -/
def configLoadOp (j : Json) : Decode Json := do
  let format ← str j "format"
  let text ← str j "text"
  let name := "config." ++ format
  let h := (freshHost []).place name (.file text.toUTF8.toList)
  match Builder.build h { sources := [.defaults, .file name] } with
  | .ok c =>
    if (text.splitOn "max_concurrent_tasks").length > 1 then pure (ok (Config.toJson c))
    else pure (ok (configJson c))
  | .error (.validation m) => pure (fail "Validation" m)
  | .error _ => pure (.obj [("error", .str "Other")])

end Api
end Conveyor
