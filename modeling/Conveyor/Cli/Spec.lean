/-!
# The grammar of the command line

The program `ferrolift` has three options of its own and the commands `copy`, `config` and
`help`. This module describes them (`Spec.top`, `Spec.copy`, `Spec.config`) and writes what the
command line writes about them:

- the help of a command (`Spec.help`): its about text, its usage, its commands, arguments and
  options. The short form aligns every help text in a column and wraps it at 100 columns; the
  long form, used with `--help` when the command has a long about text, puts each help text on a
  line of its own, indented, with a blank line between options;
- a refusal of the arguments (`refusal`): `error:` and the message, tips, the usage if the kind of
  refusal shows one, and the pointer to `--help`;
- the similarity of a mistyped word to the known ones (`jaroAbove`): the Jaro similarity in
  double arithmetic, above `0.7`.
-/

namespace Conveyor
namespace Cli

/-- What an option does when it is given. -/
inductive Action where
  /-- Turns a setting on. -/
  | flag
  /-- Takes a value, named in help. -/
  | value (name : String)
  /-- Shows the help. -/
  | help
  /-- Shows the version. -/
  | version
deriving DecidableEq, Repr

/-- What the value of an option must be. -/
inductive ValueKind where
  /-- Any text. -/
  | text
  /-- A path, which must not be empty. -/
  | path
  /-- A count that fits a 64-bit word. -/
  | count
deriving DecidableEq, Repr

/-- An option of a command. -/
structure Opt where
  long : String
  short : Option Char := none
  action : Action
  help : String
  /-- The default the help shows. -/
  shownDefault : Option String := none
  /-- The values the option accepts, if it accepts only some. -/
  choices : List String := []
  /-- What its value must be. -/
  kind : ValueKind := .text
  required : Bool := false
deriving Repr

/-- A positional argument. -/
structure Positional where
  name : String
  help : String
  /-- Whether it takes several values. -/
  many : Bool
  required : Bool
deriving Repr

/-- A command: its texts, options, positional argument and commands. -/
structure Spec where
  /-- The name the usage starts with, such as `ferrolift copy`. -/
  path : String
  about : String
  longAbout : Option String := none
  opts : List Opt
  positional : Option Positional := none
  /-- The commands below this one, with their about texts. -/
  commands : List (String × String) := []

namespace Opt

/-- The option as written in messages: `--to <DESTINATION>`. -/
def display (o : Opt) : String :=
  match o.action with
  | .value n => "--" ++ o.long ++ " <" ++ n ++ ">"
  | _ => "--" ++ o.long

/-- Whether it takes a value. -/
def takesValue (o : Opt) : Bool :=
  match o.action with
  | .value _ => true
  | _ => false

end Opt

/-- The positional argument as written: `<SOURCES>...`, or in brackets when it is optional. -/
def Positional.display (p : Positional) : String :=
  (if p.required then "<" ++ p.name ++ ">" else "[" ++ p.name ++ "]") ++ (if p.many then "..." else "")

namespace Spec

/-- The about text of the help option. -/
def helpAbout (long : Bool) (hasLong : Bool) : String :=
  if !hasLong then "Print help"
  else if long then "Print help (see a summary with '-h')"
  else "Print help (see more with '--help')"

/-- The program's own options. -/
def top : Spec where
  path := "ferrolift"
  about := "Orchestrate file transfers with retries, cancellation and progress"
  longAbout := some ("FerroLift splits a transfer into per-element and per-file tasks, dispatches\n" ++
    "them fairly to a pool of workers and follows them to completion.")
  opts := [
    { long := "debug", short := some 'd', action := .flag, help := "Enable debug logging" },
    { long := "quiet", short := some 'q', action := .flag, help := "Quiet mode - minimal output" },
    { long := "verbose", short := some 'v', action := .flag, help := "Verbose mode - detailed output" },
    { long := "config", short := some 'c', action := .value "CONFIG", help := "Configuration file path",
      kind := .path },
    { long := "help", short := some 'h', action := .help, help := "" },
    { long := "version", short := some 'V', action := .version, help := "Print version" }]
  commands := [("copy", "Copy files and directories"), ("config", "Show configuration"),
    ("help", "Print this message or the help of the given subcommand(s)")]

/-- The options of `copy`. -/
def copy : Spec where
  path := "ferrolift copy"
  about := "Copy files and directories"
  opts := [
    { long := "to", action := .value "DESTINATION", help := "Destination path or file:// URI",
      required := true },
    { long := "optional", action := .flag,
      help := "A missing or failing source does not fail the transfer" },
    { long := "tenant", action := .value "TENANT", help := "Tenant submitting the transfer",
      shownDefault := some "default" },
    { long := "user", action := .value "USER", help := "Owning user", shownDefault := some "ferrolift" },
    { long := "tag", action := .value "TAG", help := "Free-form label" },
    { long := "workers", short := some 'w', action := .value "WORKERS", help := "Number of workers",
      shownDefault := some "2", kind := .count },
    { long := "json", action := .flag, help := "Print the result as JSON" },
    { long := "help", short := some 'h', action := .help, help := "" }]
  positional := some
    { name := "SOURCES", help := "Source paths or file:// URIs", many := true, required := true }

/-- The options of `config`. -/
def config : Spec where
  path := "ferrolift config"
  about := "Show configuration"
  opts := [
    { long := "default", action := .flag, help := "Show default configuration" },
    { long := "output", short := some 'o', action := .value "OUTPUT",
      help := "Write the configuration to this file instead of printing it", kind := .path },
    { long := "format", action := .value "FORMAT", help := "Output format when printing",
      shownDefault := some "yaml", choices := ["yaml", "toml", "json"] },
    { long := "help", short := some 'h', action := .help, help := "" }]

/-- The `help` command. -/
def helpCommand : Spec where
  path := "ferrolift help"
  about := "Print this message or the help of the given subcommand(s)"
  opts := []
  positional := some
    { name := "COMMAND", help := "Print help for the subcommand(s)", many := true, required := false }

/-- The command of a name. -/
def find? (name : String) : Option Spec :=
  if name == "copy" then some copy
  else if name == "config" then some config
  else if name == "help" then some helpCommand
  else none

/-- Whether the command has a long help of its own. -/
def hasLongHelp (s : Spec) : Bool := s.longAbout.isSome

/-- The help text of an option, with its default and its values. -/
def optHelp (s : Spec) (long : Bool) (o : Opt) : String × String :=
  let text := if o.action == .help then helpAbout long s.hasLongHelp else o.help
  let defaults := match o.shownDefault with
    | some d => ["[default: " ++ d ++ "]"]
    | none => []
  let values := if o.choices.isEmpty then [] else ["[possible values: " ++ ", ".intercalate o.choices ++ "]"]
  (text, " ".intercalate (defaults ++ values))

/-- The usage line after `Usage: `, as help shows it. -/
def usage (s : Spec) : String :=
  let optional := s.opts.any fun o => !o.required
  let required := (s.opts.filter (·.required)).map Opt.display
  let pos := match s.positional with
    | some p => [p.display]
    | none => []
  let command := if s.commands.isEmpty then [] else ["<COMMAND>"]
  " ".intercalate ([s.path] ++ (if optional then ["[OPTIONS]"] else []) ++ required ++ pos ++ command)

/-- The usage line naming what the arguments used: the required options, then the other used
options in the order they were used, then the positional argument if it is required or used. -/
def usageWith (s : Spec) (used : List String) : String :=
  let required := s.opts.filter (·.required)
  let others := used.filterMap fun id => s.opts.find? fun o => o.long == id && !o.required
  let opts := ((required ++ others).map Opt.display).eraseDups
  let pos := match s.positional with
    | some p => if p.required || used.contains p.name then [p.display] else []
    | none => []
  let command := if s.commands.isEmpty then [] else ["<COMMAND>"]
  " ".intercalate ([s.path] ++ opts ++ pos ++ command)

/-- Spaces. -/
def spaces (n : Nat) : String := String.ofList (List.replicate n ' ')

/-- Break a text into lines of at most `width` columns at spaces; a word longer than the width
stands alone. -/
def wrap (width : Nat) (text : String) : List String :=
  let words := (text.splitOn " ").filter (!·.isEmpty)
  let (lines, current) := words.foldl (fun (acc : List String × String) w =>
    let (lines, current) := acc
    if current.isEmpty then (lines, w)
    else if current.length + 1 + w.length > width then (lines ++ [current], w)
    else (lines, current ++ " " ++ w)) ([], "")
  if current.isEmpty then lines else lines ++ [current]

/-- A help text below its column start, wrapped; every line after a line break of the text is
wrapped on its own. -/
def helpLines (width : Nat) (text : String) : List String :=
  (text.splitOn "\n").flatMap fun line => if line.isEmpty then [""] else wrap width line

/-- The option column of an option: its short name, if any, and its long form. -/
def optColumn (o : Opt) : String :=
  (match o.short with
    | some c => "-" ++ c.toString ++ ", "
    | none => "    ") ++ o.display

/-- One entry of a section in the short form: the column, padded, and the wrapped help. -/
def shortEntry (column : String) (indent : Nat) (help : String) : String :=
  let lines := helpLines (100 - indent) help
  match lines with
  | [] => "  " ++ column ++ "\n"
  | first :: rest =>
    "  " ++ column ++ spaces (indent - 2 - column.length) ++ first ++ "\n" ++
      String.join (rest.map fun l => spaces indent ++ l ++ "\n")

/-- One entry in the long form: the column on its own line, then the help below it. -/
def longEntry (column : String) (help : String) : String :=
  "  " ++ column ++ "\n" ++
    String.join ((helpLines 90 help).map fun l => if l.isEmpty then "\n" else spaces 10 ++ l ++ "\n")

/-- The help of a command, short or long. -/
def help (s : Spec) (longWanted : Bool) : String :=
  let long := longWanted && s.hasLongHelp
  let about := if long then s.longAbout.getD s.about else s.about
  let commands := if s.commands.isEmpty then "" else
    let width := (s.commands.map (·.1.length)).foldl max 0
    "\nCommands:\n" ++ String.join (s.commands.map fun (n, a) =>
      "  " ++ n ++ spaces (width + 2 - n.length) ++ a ++ "\n")
  let arguments := match s.positional with
    | none => ""
    | some p =>
      let column := p.display
      "\nArguments:\n" ++
        (if long then longEntry column p.help else shortEntry column (column.length + 4) p.help)
  let longest := (s.opts.map fun o => o.display.length).foldl max 0
  let options := s.opts.map fun o =>
    let (text, specs) := optHelp s long o
    if long then
      longEntry (optColumn o) (if specs.isEmpty then text else text ++ "\n\n" ++ specs)
    else
      shortEntry (optColumn o) (longest + 8) (if specs.isEmpty then text else text ++ " " ++ specs)
  let optionsText := if options.isEmpty then "" else
    "\nOptions:\n" ++ (if long then "\n".intercalate options else String.join options)
  about ++ "\n\nUsage: " ++ s.usage ++ "\n" ++ commands ++ arguments ++ optionsText

end Spec

/-- The text of a refusal of the arguments: the message, tips, the usage if one is shown, and
the pointer to `--help`. -/
def refusal (message : String) (tips : List String) (usage : Option String) : String :=
  "error: " ++ message ++ "\n" ++
    (if tips.isEmpty then "" else "\n" ++ String.join (tips.map fun t => "  tip: " ++ t ++ "\n")) ++
    (match usage with
      | some u => "\nUsage: " ++ u ++ "\n"
      | none => "") ++
    "\nFor more information, try '--help'.\n"

/-- The matches of the Jaro similarity: for each character of `a`, whether it matches a
character of `b` not matched yet within the search window, and which characters of `b` were
matched. -/
def jaroMatches (a b : List Char) : List Bool × List Bool :=
  let window := (max a.length b.length / 2) - 1
  a.zipIdx.foldl (fun (acc : List Bool × List Bool) (c, i) =>
    let (am, bm) := acc
    let lo := i - window
    let hi := min b.length (i + window + 1)
    match (List.range hi).find? (fun j => lo ≤ j && b[j]? == some c && bm[j]? == some false) with
    | some j => (am ++ [true], bm.set j true)
    | none => (am ++ [false], bm)) ([], List.replicate b.length false)

/-- The Jaro similarity of two words, `(m / |a| + m / |b| + (m - t) / m) / 3` for `m` matches
and `t` transpositions, in double arithmetic: a similarity that is `0.7` in exact arithmetic may
come out just above it. -/
def jaro (a b : List Char) : Float :=
  if a.isEmpty && b.isEmpty then 1
  else if a.isEmpty || b.isEmpty then 0
  else
    let (am, bm) := jaroMatches a b
    let m := am.count true
    if m == 0 then 0
    else
      let fromA := (a.zip am).filterMap fun (c, hit) => if hit then some c else none
      let fromB := (b.zip bm).filterMap fun (c, hit) => if hit then some c else none
      let t := ((fromA.zip fromB).filter fun (x, y) => x != y).length / 2
      let mf := m.toFloat
      (mf / a.length.toFloat + mf / b.length.toFloat + (m - t).toFloat / mf) / 3

/-- Whether two words are similar: a Jaro similarity above `0.7`. -/
def jaroAbove (a b : String) : Bool :=
  jaro a.toList b.toList > 0.7

/-- The known words similar to a word, least similar first; equally similar ones keep their
order. -/
def similar (word : String) (known : List String) : List String :=
  let scored := (known.filter (jaroAbove word)).map fun k => (jaro word.toList k.toList, k)
  (scored.mergeSort fun x y => x.1 ≤ y.1).map (·.2)

/-- The tip naming the known words similar to a word, of a kind such as `subcommand`. -/
def similarTip (kind : String) (found : List String) : List String :=
  match found with
  | [] => []
  | [w] => ["a similar " ++ kind ++ " exists: '" ++ w ++ "'"]
  | ws => ["some similar " ++ kind ++ "s exist: " ++ ", ".intercalate (ws.map fun w => "'" ++ w ++ "'")]

end Cli
end Conveyor
