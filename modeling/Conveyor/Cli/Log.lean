import Conveyor.Text.Time
import Conveyor.Text.Json

/-!
# The log of the command line

The program logs events: a level, the module that writes it (its target) and a message.

A filter decides which events are written. It is a list of directives read from a text such as
`info` or `warn,ferrolift_engine=debug` (`directives?`): a directive is a level, a target (which
lets everything of that target through), or `target=level`. An event is written when the most
specific directive whose target starts the event's target lets its level through; a directive
with a longer target is more specific, one without a target least, and a later directive
replaces an earlier one of the same target. Levels are `off`, `error`, `warn`, `info`, `debug`
and `trace`, in any case, or the numbers `0` to `5`.

A written event is one line: the time, the level right-aligned in five columns and the message
(`Event.line`), or a JSON object with the time, the level and the message (`Event.jsonLine`).
-/

namespace Conveyor
namespace Cli

/-- How much a log event matters. -/
inductive Level where
  | error | warn | info | debug | trace
deriving DecidableEq, Repr

/-- The rank of a level: `1` for errors up to `5` for traces. -/
def Level.rank : Level → Nat
  | .error => 1
  | .warn => 2
  | .info => 3
  | .debug => 4
  | .trace => 5

/-- The name of a level. -/
def Level.name : Level → String
  | .error => "ERROR"
  | .warn => "WARN"
  | .info => "INFO"
  | .debug => "DEBUG"
  | .trace => "TRACE"

/-- A log event. -/
structure Event where
  level : Level
  /-- The module that writes it. -/
  target : String
  message : String
deriving Repr

/-- A directive of a filter: the target it applies to (all targets if none), whether it applies
only inside a span, and the highest rank it lets through (`0` lets nothing through). -/
structure Directive where
  target : Option String
  inSpan : Bool := false
  limit : Nat
deriving DecidableEq, Repr

/-- The rank a level text names, if it names one; the empty text names errors. -/
def limitOf? (s : String) : Option Nat :=
  let cs := s.toList
  let digits := match cs with
    | '+' :: ds => ds
    | ds => ds
  if !digits.isEmpty && digits.all Char.isDigit then
    let n := digits.foldl (fun n c => n * 10 + (c.toNat - '0'.toNat)) 0
    if n ≤ 5 then some n else none
  else
    match s.toLower with
    | "" => some 1
    | "off" => some 0
    | "error" => some 1
    | "warn" => some 2
    | "info" => some 3
    | "debug" => some 4
    | "trace" => some 5
    | _ => none

/-- Read one directive. A target given with a span in brackets never applies to these events,
which are written outside any span. -/
def directive? (s : String) : Option Directive :=
  let ofTarget := fun (t : String) (n : Nat) =>
    match t.splitOn "[" with
    | name :: _ :: _ => { target := some name, inSpan := true, limit := n }
    | _ => { target := some t, limit := n }
  match s.splitOn "=" with
  | [bare] =>
    match limitOf? bare with
    | some n => some { target := none, limit := n }
    | none => some (ofTarget bare 5)
  | [target, level] => (limitOf? level).map (ofTarget target)
  | _ => none

/-- Read a filter; `none` if a directive cannot be read. -/
def directives? (spec : String) : Option (List Directive) :=
  ((spec.splitOn ",").filter (!·.isEmpty)).mapM directive?

/-- How specific a directive is: the length of its target, above any directive without one. -/
def Directive.weight (d : Directive) : Nat :=
  match d.target with
  | some t => t.length + 1
  | none => 0

/-- Whether a directive applies to an event. -/
def Directive.applies (d : Directive) (e : Event) : Bool :=
  !d.inSpan && match d.target with
    | some t => e.target.startsWith t
    | none => true

/-- Whether a filter lets an event through: the most specific directive that applies decides,
the last one among equally specific ones. -/
def allows (filter : List Directive) (e : Event) : Bool :=
  let best := filter.foldl (fun (acc : Option Directive) d =>
    if d.applies e then
      match acc with
      | some b => if d.weight ≥ b.weight then some d else acc
      | none => some d
    else acc) none
  match best with
  | some d => e.level.rank ≤ d.limit
  | none => false

/-- The time of a log line: the date, the time of day and six decimals of the second, in UTC. -/
def stampText (t : Int) : String :=
  let secs := t / 1000000000
  let micros := ((t % 1000000000) / 1000).toNat
  let days := secs / 86400
  let daySecs := (secs % 86400).toNat
  let (y, m, d) := Time.dateOfDays days
  Time.yearText y ++ "-" ++ Time.padded 2 m ++ "-" ++ Time.padded 2 d ++ "T" ++
    Time.padded 2 (daySecs / 3600) ++ ":" ++ Time.padded 2 (daySecs / 60 % 60) ++ ":" ++
    Time.padded 2 (daySecs % 60) ++ "." ++ Time.padded 6 micros ++ "Z"

/-- An event as a text line written at a time. -/
def Event.line (e : Event) (t : Int) : String :=
  let name := e.level.name
  stampText t ++ " " ++ String.ofList (List.replicate (5 - name.length) ' ') ++ name ++ " " ++ e.message

/-- An event as a JSON line written at a time. -/
def Event.jsonLine (e : Event) (t : Int) : String :=
  Json.compact (.obj [("timestamp", .str (stampText t)), ("level", .str e.level.name),
    ("fields", .obj [("message", .str e.message)])])

end Cli
end Conveyor
