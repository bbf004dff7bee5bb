import Conveyor.Cli.Spec
import Conveyor.Config.Render

/-!
# Reading the arguments

`readArgs` reads the arguments of `ferrolift` into an `Invocation`, or stops with what the
command line writes instead (`Stop`): a help or the version on standard output, or a refusal on
standard error with exit code 2.

The arguments are read one level at a time, left to right (`readLevel`):

- a command name (while no `--` was seen) ends the level; `help` shows the help of the commands
  named after it;
- `--` makes every later argument positional;
- `--name` and `--name=value` are long options, `-abc` a cluster of short ones in which an
  option taking a value takes the rest of the cluster (after an optional `=`) or else the next
  argument;
- anything else is the value an option waits for, or a positional argument.

An option waiting for a value that does not come (the next argument is an option, or there is no
next argument) is refused with `a value is required`; an option given twice is refused; a value is
checked when it is taken. At the end of a level the required arguments must have been given, and
the program itself needs a command.
-/

namespace Conveyor
namespace Cli

/-- What the command line writes instead of running a command. -/
structure Stop where
  text : String
  /-- Whether it goes to standard output rather than standard error. -/
  toStdout : Bool
  code : Nat
deriving Repr

/-- A refusal of the arguments. -/
def Stop.refuse (message : String) (tips : List String) (usage : Option String) : Stop :=
  ⟨refusal message tips usage, false, 2⟩

/-- A text shown on request. -/
def Stop.show (text : String) : Stop := ⟨text, true, 0⟩

/-- The version line. -/
def versionText : String := "ferrolift 0.1.0\n"

/-- What `copy` was asked to do. -/
structure CopyArgs where
  sources : List String
  destination : String
  optional : Bool
  tenant : String
  user : String
  tag : Option String
  workers : Nat
  json : Bool
deriving Repr

/-- What `config` was asked to do. -/
structure ConfigArgs where
  useDefault : Bool
  output : Option String
  format : Config.Format
deriving Repr

/-- The command to run. -/
inductive Command where
  | copy (a : CopyArgs)
  | config (a : ConfigArgs)
deriving Repr

/-- The arguments read. -/
structure Invocation where
  debug : Bool
  quiet : Bool
  verbose : Bool
  config : Option String
  command : Command
deriving Repr

/-- What a level of the arguments has given so far. -/
structure Matches where
  /-- The options given, by long name, with their values (`true` for a flag), in order. -/
  given : List (String × String) := []
  positionals : List String := []
  /-- The options and positional arguments used, in the order of their first use. -/
  order : List String := []
  /-- The option waiting for its value. -/
  pending : Option Opt := none
  /-- Whether `--` was seen. -/
  trailing : Bool := false
deriving Repr

namespace Matches

/-- Whether an option was given. -/
def has (m : Matches) (long : String) : Bool := m.given.any (·.1 == long)

/-- The value of an option. -/
def value? (m : Matches) (long : String) : Option String := (m.given.find? (·.1 == long)).map (·.2)

/-- Note the use of an option or positional argument. -/
def use (m : Matches) (id : String) : Matches :=
  if m.order.contains id then m else { m with order := m.order ++ [id] }

end Matches

/-- The list of values an option accepts, as refusals append it. -/
def choicesLine (o : Opt) : String :=
  if o.choices.isEmpty then "" else "\n  [possible values: " ++ ", ".intercalate o.choices ++ "]"

/-- The refusal of an option without a value. -/
def emptyValue (o : Opt) : Stop :=
  .refuse ("a value is required for '" ++ o.display ++ "' but none was supplied" ++ choicesLine o) [] none

/-- A count as a 64-bit word reads it: an optional `+`, then decimal digits, read left to right. -/
def countValue (s : String) : Except String Nat :=
  let digits := fun (ds : List Char) => ds.foldlM (fun (n : Nat) c =>
    if c.isDigit then
      let n := n * 10 + (c.toNat - '0'.toNat)
      if n < Nat.pow 2 64 then .ok n else .error "number too large to fit in target type"
    else .error "invalid digit found in string") 0
  match s.toList with
  | [] => .error "cannot parse integer from empty string"
  | ['+'] | ['-'] => .error "invalid digit found in string"
  | '+' :: ds => digits ds
  | ds => digits ds

/-- Check the value given to an option. -/
def checkValue (o : Opt) (v : String) : Except Stop Unit :=
  if !o.choices.isEmpty then
    if o.choices.contains v then .ok ()
    else if v.isEmpty then .error (emptyValue o)
    else
      let tips := match (similar v o.choices).getLast? with
        | some c => ["a similar value exists: '" ++ c ++ "'"]
        | none => []
      .error (.refuse ("invalid value '" ++ v ++ "' for '" ++ o.display ++ "'" ++ choicesLine o) tips none)
  else match o.kind with
    | .text => .ok ()
    | .path => if v.isEmpty then .error (emptyValue o) else .ok ()
    | .count =>
      match countValue v with
      | .ok _ => .ok ()
      | .error why => .error (.refuse ("invalid value '" ++ v ++ "' for '" ++ o.display ++ "': " ++ why) [] none)

/-- The refusal of an option given a second time. -/
def givenTwice (s : Spec) (o : Opt) : Stop :=
  .refuse ("the argument '" ++ o.display ++ "' cannot be used multiple times") [] (some s.usage)

/-- An option waiting for a value that did not come is refused. -/
def resolveEmpty (m : Matches) : Except Stop Matches :=
  match m.pending with
  | none => .ok m
  | some o => .error (emptyValue o)

/-- Give an option its value. -/
def setValue (s : Spec) (m : Matches) (o : Opt) (v : String) : Except Stop Matches := do
  let m := { m with pending := none }
  if m.has o.long then throw (givenTwice s o)
  checkValue o v
  pure { m.use o.long with given := m.given ++ [(o.long, v)] }

/-- Act on an option that takes no value: show the help or the version, or turn a flag on. -/
def flagAction (s : Spec) (m : Matches) (o : Opt) (long : Bool) : Except Stop Matches := do
  let m ← resolveEmpty m
  match o.action with
  | .help => throw (.show (s.help long))
  | .version => throw (.show versionText)
  | _ =>
    if m.has o.long then throw (givenTwice s o)
    pure { m.use o.long with given := m.given ++ [(o.long, "true")] }

/-- The tip for an argument that looks like an option, where a positional argument could take it. -/
def asValueTip (s : Spec) (m : Matches) (arg : String) : List String :=
  if s.positional.isSome && !m.trailing then ["to pass '" ++ arg ++ "' as a value, use '-- " ++ arg ++ "'"]
  else []

/-- The most similar long option of a command named among the arguments still to come, with
the command; of several, the command named first. -/
def similarBelow (s : Spec) (name : String) (rest : List String) : Option (String × String) :=
  let found := s.commands.filterMap fun (command, _) =>
    match Spec.find? command, rest.idxOf? command with
    | some sub, some at_ =>
      ((similar name (sub.opts.map (·.long))).getLast?).map fun long => (at_, command, long)
    | _, _ => none
  let first := found.foldl (fun (acc : Option (Nat × String × String)) x =>
    match acc with
    | some y => if x.1 < y.1 then some x else acc
    | none => some x) none
  first.map fun (_, command, long) => (command, long)

/-- The refusal of an unknown long option, with the most similar known one if there is one, or
else the most similar one of a command still to come. -/
def unknownLong (s : Spec) (m : Matches) (name : String) (rest : List String) : Stop :=
  let best := (similar name (s.opts.map (·.long))).getLast?
  let used := m.order ++ (best.toList.filter fun b => !m.order.contains b)
  let usage := if used.isEmpty then s.usage else s.usageWith used
  let tips := match best with
    | some b => ["a similar argument exists: '--" ++ b ++ "'"]
    | none =>
      match similarBelow s name rest with
      | some (command, long) => ["'" ++ command ++ " --" ++ long ++ "' exists"]
      | none => asValueTip s m ("--" ++ name)
  .refuse ("unexpected argument '--" ++ name ++ "' found") tips (some usage)

/-- Read a long option, `name` or `name=value`. -/
def longToken (s : Spec) (m : Matches) (body : String) (rest : List String) : Except Stop Matches :=
  let (name, attached) := match body.splitOn "=" with
    | [] => (body, none)
    | [n] => (n, none)
    | n :: vs => (n, some ("=".intercalate vs))
  match s.opts.find? (·.long == name) with
  | none => .error (unknownLong s m name rest)
  | some o =>
    if o.takesValue then
      match attached with
      | some v => do
        let m ← resolveEmpty m
        setValue s m o v
      | none => do
        let m ← resolveEmpty m
        pure { m with pending := some o }
    else
      match attached with
      | some v =>
        let required := (s.opts.filter (·.required)).map (·.long) ++
          ((s.positional.filter (·.required)).map (·.name)).toList
        let used := (m.order.filter fun id => !required.contains id) ++ [o.long]
        .error (.refuse ("unexpected value '" ++ v ++ "' for '" ++ o.display ++
          "' found; no more were expected") [] (some (s.usageWith used)))
      | none => flagAction s m o true

/-- Read a cluster of short options. -/
def shortCluster (s : Spec) (m : Matches) : List Char → Except Stop Matches
  | [] => .ok m
  | c :: rest =>
    match s.opts.find? (·.short == some c) with
    | none =>
      let arg := "-" ++ c.toString
      .error (.refuse ("unexpected argument '" ++ arg ++ "' found") (asValueTip s m arg) (some s.usage))
    | some o =>
      if o.takesValue then
        match rest with
        | [] => do
          let m ← resolveEmpty m
          pure { m with pending := some o }
        | '=' :: v | v => do
          let m ← resolveEmpty m
          setValue s m o (String.ofList v)
      else do
        let m ← flagAction s m o false
        shortCluster s m rest

/-- The refusal of an argument that neither an option nor a positional argument takes. -/
def stray (s : Spec) (m : Matches) (arg : String) : Stop :=
  if m.trailing && s.commands.any (·.1 == arg) then
    .refuse ("unexpected argument '" ++ arg ++ "' found")
      ["subcommand '" ++ arg ++ "' exists; to use it, remove the '--' before it"] (some s.usage)
  else if s.commands.isEmpty then
    .refuse ("unexpected argument '" ++ arg ++ "' found") [] (some s.usage)
  else
    let tips := similarTip "subcommand" (similar arg (s.commands.map (·.1)))
    .refuse ("unrecognized subcommand '" ++ arg ++ "'") tips (some s.usage)

/-- Read an argument that is not an option: the value an option waits for, or a positional
argument. -/
def plainToken (s : Spec) (m : Matches) (arg : String) : Except Stop Matches :=
  match m.pending, m.trailing with
  | some o, false => setValue s m o arg
  | _, _ =>
    match s.positional with
    | some p => do
      let m ← resolveEmpty m
      pure { m.use p.name with positionals := m.positionals ++ [arg] }
    | none => .error (stray s m arg)

/-- The help of the command that the names after `help` lead to. -/
def helpFor (top : Spec) (names : List String) : Stop :=
  let found : Except Stop Spec := names.foldlM (fun (s : Spec) name =>
    if s.commands.any (·.1 == name) then
      match Spec.find? name with
      | some sub => .ok sub
      | none => .error (Stop.refuse ("unrecognized subcommand '" ++ name ++ "'") [] (some s.usage))
    else .error (Stop.refuse ("unrecognized subcommand '" ++ name ++ "'") [] (some s.usage))) top
  match found with
  | .ok s => .show (s.help true)
  | .error stop => stop

/-- Read the arguments of one level, up to a command name or the end. -/
def readLevel (s : Spec) : Matches → List String → Except Stop (Matches × Option (String × List String))
  | m, [] => do
    let m ← resolveEmpty m
    pure (m, none)
  | m, arg :: rest =>
    if !m.trailing && s.commands.any (·.1 == arg) then
      if arg == "help" then .error (helpFor s rest)
      else do
        let m ← resolveEmpty m
        pure (m, some (arg, rest))
    else if !m.trailing && arg == "--" then readLevel s { m with trailing := true } rest
    else if !m.trailing && arg.startsWith "--" then do
      let m ← longToken s m (arg.drop 2).toString rest
      readLevel s m rest
    else if !m.trailing && arg.startsWith "-" && arg != "-" then do
      let m ← shortCluster s m (arg.toList.drop 1)
      readLevel s m rest
    else do
      let m ← plainToken s m arg
      readLevel s m rest

/-- The required arguments of a level that were not given, as written in refusals, with their ids. -/
def missing (s : Spec) (m : Matches) : List (String × String) :=
  ((s.opts.filter fun o => o.required && !m.has o.long).map fun o => (o.long, o.display)) ++
    (match s.positional with
      | some p => if p.required && m.positionals.isEmpty then [(p.name, p.display)] else []
      | none => [])

/-- Check that the required arguments of a level were given. -/
def checkRequired (s : Spec) (m : Matches) : Except Stop Unit :=
  match missing s m with
  | [] => .ok ()
  | absent =>
    .error (.refuse ("the following required arguments were not provided:" ++
      String.join (absent.map fun (_, d) => "\n  " ++ d)) []
      (some (s.usageWith (m.order ++ absent.map (·.1)))))

/-- The arguments of `copy`. -/
def copyArgs (m : Matches) : CopyArgs where
  sources := m.positionals
  destination := (m.value? "to").getD ""
  optional := m.has "optional"
  tenant := (m.value? "tenant").getD "default"
  user := (m.value? "user").getD "ferrolift"
  tag := m.value? "tag"
  workers := (((m.value? "workers").getD "2") |> countValue |>.toOption).getD 2
  json := m.has "json"

/-- The arguments of `config`. -/
def configArgs (m : Matches) : ConfigArgs where
  useDefault := m.has "default"
  output := m.value? "output"
  format := match m.value? "format" with
    | some "toml" => .toml
    | some "json" => .json
    | _ => .yaml

/-- Read the arguments of `ferrolift`. -/
def readArgs (args : List String) : Except Stop Invocation := do
  let (top, reached) ← readLevel Spec.top {} args
  match reached with
  | none =>
    if top.order.isEmpty then throw ⟨Spec.top.help false, false, 2⟩
    else throw (.refuse ("'ferrolift' requires a subcommand but one was not provided\n  [subcommands: " ++
      ", ".intercalate (Spec.top.commands.map (·.1)) ++ "]") [] (some Spec.top.usage))
  | some (name, rest) =>
    let sub := (Spec.find? name).getD Spec.config
    let (m, _) ← readLevel sub {} rest
    checkRequired sub m
    let command := if name == "copy" then Command.copy (copyArgs m) else Command.config (configArgs m)
    pure { debug := top.has "debug", quiet := top.has "quiet", verbose := top.has "verbose",
           config := top.value? "config", command }

end Cli
end Conveyor
