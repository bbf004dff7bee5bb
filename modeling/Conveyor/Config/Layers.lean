import Conveyor.Config.Schema
import Conveyor.Text.Numeral
import Conveyor.Text.Escape

/-!
# Layered configurations

A configuration is loaded from layers: the defaults, then files, then the environment. Each
layer is a tree of `Setting`s that remembers where each value came from (a file's name or the
environment; the defaults name nothing). Layers are merged into one tree one after the other
(`Setting.layer`): a table merges into a table key by key, and any other value replaces what was
there. A top-level key of a layer may be a path of names and list indices
(`dispatch.backlog_threshold`, `logging[2]`), which reaches into nested tables and lists, making
tables and growing lists (with empty values) where the path needs them.

`Config.ofSettings` reads the merged tree into a `Config`, converting loosely: a count may be
given as a boolean, a double (rounded) or a text holding a number (or `true`/`on`/`yes` for one,
`false`/`off`/`no` for zero); a double as a number or text; a yes or no as a number or text; a
text as any scalar. A section given as a list takes its settings in the order of the layout. The
first value that cannot be converted stops the reading, and the failure names the key path of
the value and where it came from.
-/

namespace Conveyor

/-- A value of a configuration layer, with where it came from. -/
inductive Setting where
  | nil (origin : Option String)
  | bool (origin : Option String) (b : Bool)
  | int (origin : Option String) (i : Int)
  | float (origin : Option String) (x : Float)
  | text (origin : Option String) (s : String)
  | list (origin : Option String) (items : List Setting)
  | table (origin : Option String) (entries : List (String × Setting))
deriving Inhabited

/-- What a value turned out to be where something else was expected. -/
inductive Unexpected where
  | bool (b : Bool)
  | int (i : Int)
  | uint (n : Nat)
  | float (x : Float)
  | text (s : String)
  | unit
  | seq
  | map

/-- The words for an unexpected value. -/
def Unexpected.describe : Unexpected → String
  | .bool b => "boolean `" ++ (if b then "true" else "false") ++ "`"
  | .int i => "64-bit integer `" ++ toString i ++ "`"
  | .uint n => "64-bit unsigned integer `" ++ toString n ++ "`"
  | .float x => "floating point `" ++ Numeral.display x ++ "`"
  | .text s => "string " ++ Escape.quoted s
  | .unit => "unit value"
  | .seq => "sequence"
  | .map => "map"

/-- Why a layered configuration cannot be loaded. -/
inductive LoadFault where
  /-- A value of the wrong kind, with what was expected, the key path and where it came from. -/
  | wrongType (origin : Option String) (found : Unexpected) (expected : String) (key : Option String)
  /-- A refusal in words, at a key path. -/
  | refused (text : String) (key : Option String)
  /-- A file that could not be read as its format. -/
  | unreadable (uri : Option String) (cause : String)
  /-- A failure outside the configuration, in words. -/
  | outside (text : String)

/-- The text of a loading failure. -/
def LoadFault.message : LoadFault → String
  | .wrongType origin found expected key =>
    "invalid type: " ++ found.describe ++ ", expected " ++ expected ++
      (match key with | some k => " for key `" ++ k ++ "`" | none => "") ++
      (match origin with | some o => " in " ++ o | none => "")
  | .refused text key => text ++ (match key with | some k => " for key `" ++ k ++ "`" | none => "")
  | .unreadable uri cause => cause ++ (match uri with | some u => " in " ++ u | none => "")
  | .outside text => text

/-- Put a key segment in front of a failure's key path; a list index joins without a dot. -/
def LoadFault.under (segment : String) : LoadFault → LoadFault
  | .wrongType origin found expected key =>
    .wrongType origin found expected (some (joinKey segment key))
  | .refused text key => .refused text (some (joinKey segment key))
  | f => f
where
  joinKey (segment : String) : Option String → String
    | none => segment
    | some k => if k.startsWith "[" then segment ++ k else segment ++ "." ++ k

namespace Setting

/-- Where a value came from. -/
def origin : Setting → Option String
  | .nil o | .bool o _ | .int o _ | .float o _ | .text o _ | .list o _ | .table o _ => o

/-- What a value is, for a failure. -/
def unexpected : Setting → Unexpected
  | .nil _ => .unit
  | .bool _ b => .bool b
  | .int _ i => .int i
  | .float _ x => .float x
  | .text _ s => .text s
  | .list _ _ => .seq
  | .table _ _ => .map

/-- Whether a character may stand in a name of a key path. -/
def isKeyChar (c : Char) : Bool :=
  (c ≥ 'a' && c ≤ 'z') || (c ≥ 'A' && c ≤ 'Z') || (c ≥ '0' && c ≤ '9') || c == '_' || c == '-'

/-- One step of a key path after its first name: into a table by name, or into a list by
index (a negative index counts from the end). -/
inductive Step where
  | key (name : String)
  | index (i : Int)
deriving Repr

/-- A name of a key path: one or more key characters. -/
def pathName (cs : List Char) : Option (String × List Char) :=
  let name := cs.takeWhile isKeyChar
  if name.isEmpty then none else some (String.ofList name, cs.drop name.length)

/-- Drop spaces and tabs. -/
def dropSpaces (cs : List Char) : List Char := cs.dropWhile fun c => c == ' ' || c == '\t'

/-- An index between brackets, after the opening one: blanks, an optional minus, digits that
fit a signed 64-bit index, blanks, and the closing bracket. -/
def pathIndex (cs : List Char) : Option (Int × List Char) :=
  let cs := dropSpaces cs
  let (negative, cs) := match cs with
    | '-' :: rest => (true, rest)
    | _ => (false, cs)
  let digits := cs.takeWhile Char.isDigit
  if digits.isEmpty then none
  else
    let n := digits.foldl (fun n d => n * 10 + (d.toNat - '0'.toNat)) 0
    let i : Int := if negative then -(n : Int) else n
    if i < -Int.ofNat (Nat.pow 2 63) || i ≥ Int.ofNat (Nat.pow 2 63) then none
    else match dropSpaces (cs.drop digits.length) with
      | ']' :: rest => some (i, rest)
      | _ => none

/-- The steps of a key path after its first name, to the end of the text; each step takes at
least one character, so the length of the text bounds their number. -/
def pathSteps : Nat → List Char → Option (List Step)
  | _, [] => some []
  | 0, _ :: _ => none
  | fuel + 1, '.' :: cs => do
    let (name, rest) ← pathName cs
    (Step.key name :: ·) <$> pathSteps fuel rest
  | fuel + 1, '[' :: cs => do
    let (i, rest) ← pathIndex cs
    (Step.index i :: ·) <$> pathSteps fuel rest
  | _ + 1, _ :: _ => none

/-- A key read as a path: a name, then steps (`.name` or `[index]`). A key that is not a
path is a single name. -/
def keyPath (key : String) : String × List Step :=
  match pathName key.toList with
  | some (name, rest) =>
    match pathSteps rest.length rest with
    | some steps => (name, steps)
    | none => (key, [])
  | none => (key, [])

/-- Write a value under a key of an association list: replace it, or add it at the end. -/
def putEntry (entries : List (String × Setting)) (k : String) (v : Setting) :
    List (String × Setting) :=
  if entries.any (·.1 == k) then entries.map fun e => if e.1 == k then (k, v) else e
  else entries ++ [(k, v)]

/-- The value under a key of an association list. -/
def entryAt (entries : List (String × Setting)) (k : String) : Option Setting :=
  (entries.find? (·.1 == k)).map (·.2)

/-- The entries of a table; anything else counts as an empty table. -/
def entriesOf : Setting → List (String × Setting)
  | .table _ es => es
  | _ => []

/-- A table's origin; anything else is replaced by a table without one. -/
def tableOrigin : Setting → Option String
  | .table o _ => o
  | _ => none

mutual
/-- Merge a value into a table under a key: a table merges key by key into what is there
(made a table if it is not one), any other value replaces it. -/
def putKey (root : Setting) (k : String) (v : Setting) : Setting :=
  let es := entriesOf root
  match v with
  | .table _ incoming =>
    let target := (entryAt es k).getD (.table none [])
    .table (tableOrigin root) (putEntry es k (mergeAll target incoming))
  | v => .table (tableOrigin root) (putEntry es k v)
/-- Merge entries one by one into a value, which becomes a table. -/
def mergeAll (target : Setting) : List (String × Setting) → Setting
  | [] => target
  | (k, v) :: rest => mergeAll (putKey target k v) rest
end

/-- Put a value where a path ends: a table merges into what is there (made a table if it is
not one), any other value replaces it. -/
def place (target v : Setting) : Setting :=
  match v with
  | .table _ incoming => mergeAll (.table (tableOrigin target) (entriesOf target)) incoming
  | v => v

/-- The items of a list that an index reaches, and the position it reaches. A list is grown
with empty values to hold an index past its end; a negative index counts from the end, and
one that reaches before the start grows the list at the front and reaches its first item. -/
def slot (items : List Setting) (i : Int) : List Setting × Nat :=
  if 0 ≤ i then
    let u := i.toNat
    (items ++ List.replicate (u + 1 - items.length) (.nil none), u)
  else if i.natAbs ≤ items.length then (items, items.length - i.natAbs)
  else (List.replicate (i.natAbs - items.length) (.nil none) ++ items, 0)

/-- Put a value along the steps of a path from a node. A step by name makes the node a table
(if it is not one) and goes to the entry, made empty if missing; a step by index makes the
node a list (if it is not one) and goes to the item, growing the list as `slot` says. -/
def putAlong (node : Setting) : List Step → Setting → Setting
  | [], v => place node v
  | .key k :: rest, v =>
    let es := entriesOf node
    .table (tableOrigin node) (putEntry es k (putAlong ((entryAt es k).getD (.nil none)) rest v))
  | .index i :: rest, v =>
    let (o, items) := match node with
      | .list o xs => (o, xs)
      | _ => (none, [])
    let (items, u) := slot items i
    .list o (items.set u (putAlong (items.getD u (.nil none)) rest v))

/-- Merge a layer's entries into a tree, each top-level key read as a path. -/
def layer (root : Setting) (entries : List (String × Setting)) : Setting :=
  entries.foldl (fun acc (k, v) =>
    let (name, steps) := keyPath k
    putAlong acc (.key name :: steps) v) root

/-- Rounding half away from zero, cut to a 64-bit count. -/
def roundToCount (x : Float) : Nat :=
  if x.isNaN then 0 else (x.round.toUInt64).toNat

/-- Words for yes and no. -/
def yesWords : List String := ["true", "on", "yes"]

/-- Words for no. -/
def noWords : List String := ["false", "off", "no"]

/-- A value as a 64-bit count. -/
def toCount (v : Setting) : Except LoadFault Nat :=
  match v with
  | .int o i =>
    if i ≥ 0 then .ok i.toNat
    else .error (.wrongType o (.int i) "an unsigned 64 bit or less integer" none)
  | .text o s =>
    let lower := s.toLower
    if yesWords.contains lower then .ok 1
    else if noWords.contains lower then .ok 0
    else match Numeral.natural? 64 s with
      | some n => .ok n
      | none => .error (.wrongType o (.text s) "an integer" none)
  | .bool _ b => .ok (if b then 1 else 0)
  | .float _ x => .ok (roundToCount x)
  | v => .error (.wrongType v.origin v.unexpected "an integer" none)

/-- A value as a double. -/
def toFloat (v : Setting) : Except LoadFault Float :=
  match v with
  | .float _ x => .ok x
  | .text o s =>
    let lower := s.toLower
    if yesWords.contains lower then .ok 1.0
    else if noWords.contains lower then .ok 0.0
    else match Numeral.float? s with
      | some x => .ok x
      | none => .error (.wrongType o (.text s) "a floating point" none)
  | .int _ i => .ok (if i ≥ 0 then Float.ofNat i.toNat else -Float.ofNat i.natAbs)
  | .bool _ b => .ok (if b then 1.0 else 0.0)
  | v => .error (.wrongType v.origin v.unexpected "a floating point" none)

/-- A value as a yes or no. -/
def toFlag (v : Setting) : Except LoadFault Bool :=
  match v with
  | .bool _ b => .ok b
  | .int _ i => .ok (i != 0)
  | .float _ x => .ok (x != 0.0)
  | .text o s =>
    let lower := s.toLower
    if ["1", "true", "on", "yes"].contains lower then .ok true
    else if ["0", "false", "off", "no"].contains lower then .ok false
    else .error (.wrongType o (.text lower) "a boolean" none)
  | v => .error (.wrongType v.origin v.unexpected "a boolean" none)

/-- A value as a text. -/
def toText (v : Setting) : Except LoadFault String :=
  match v with
  | .text _ s => .ok s
  | .bool _ b => .ok (if b then "true" else "false")
  | .int _ i => .ok (toString i)
  | .float _ x => .ok (Numeral.display x)
  | v => .error (.wrongType v.origin v.unexpected "a string" none)

end Setting

namespace Config

/-- A setting's value as a layer value without origin. -/
def Value.toSetting : Value → Setting
  | .count n => .int none n
  | .ratio x => .float none x
  | .text s => .text none s
  | .flag b => .bool none b
  | .path p => match p with | some s => .text none s | none => .nil none

/-- A configuration as the bottom layer. -/
def toSetting (c : Config) : Setting :=
  .table none (sections.map fun s =>
    (s.name, .table none (s.fields.map fun f => (f.name, (f.get c).toSetting))))

/-- Read one setting's value loosely. -/
def readLoose (k : Kind) (v : Setting) : Except LoadFault Value :=
  match k with
  | .count => Value.count <$> v.toCount
  | .count32 => do
    let n ← v.toCount
    if n < Nat.pow 2 32 then pure (.count n)
    else throw (.wrongType none (.uint n) "an unsigned 32 bit integer" none)
  | .buffer => do
    let n ← v.toCount
    match BufferSize.make n with
    | .ok b => pure (.count b.bytes)
    | .error f => throw (.refused f.message none)
  | .ratio => Value.ratio <$> v.toFloat
  | .text => Value.text <$> v.toText
  | .flag => Value.flag <$> v.toFlag
  | .path => match v with
    | .nil _ => pure (.path none)
    | v => (fun s => Value.path (some s)) <$> v.toText

/-- The words for a value where a section was expected. -/
def sectionMismatch : Setting → String
  | .nil _ => "unit value"
  | .bool _ b => "boolean `" ++ (if b then "true" else "false") ++ "`"
  | .int _ i => "integer `" ++ toString i ++ "`"
  | .float _ x =>
    let t := Numeral.display x
    "floating point `" ++ (if x.isNaN || x.isInf || t.contains '.' then t else t ++ ".0") ++ "`"
  | .text _ s => "string " ++ Escape.quoted s
  | .list _ _ => "sequence"
  | .table _ _ => "map"

/-- Read one section of a layered tree over a configuration. -/
def readSectionLoose (s : Section) (c : Config) (v : Setting) : Except LoadFault Config :=
  let put (c : Config) (key : String) (f : Field) (x : Setting) : Except LoadFault Config :=
    match readLoose f.kind x with
    | .ok val => .ok (f.set c val)
    | .error e => .error (e.under key)
  match v with
  | .table _ es =>
    es.foldlM (fun c (k, x) =>
      match s.fields.find? (·.name == k) with
      | some f => put c k f x
      | none => pure c) c
  | .list _ xs =>
    (s.fields.zip xs).zipIdx.foldlM (fun c ((f, x), i) => put c ("[" ++ toString i ++ "]") f x) c
  | v => .error (.refused ("invalid type: " ++ sectionMismatch v ++ ", expected struct " ++ s.typeName) none)

/-- Read a merged layered tree into a configuration over defaults. -/
def ofSettings (base : Config) (root : Setting) : Except LoadFault Config :=
  (Setting.entriesOf root).foldlM (fun c (k, v) =>
    match sections.find? (·.name == k) with
    | some s => match readSectionLoose s c v with
      | .ok c => .ok c
      | .error e => .error (e.under k)
    | none => pure c) base

end Config

end Conveyor
