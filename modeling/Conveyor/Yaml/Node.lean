import Conveyor.Text.Numeral
import Conveyor.Text.Escape

/-!
# YAML documents

A loaded YAML document is a tree of `Node`s. A plain scalar is resolved by its text: `~` and
`null` (only these spellings) are null, `true`, `True` and `TRUE` (and the same spellings of
false) booleans, a whole number of 64 bits (decimal with an optional sign,
hexadecimal after `0x`, octal after `0o`) an integer, a text that has a decimal digit and reads
as a double a real (kept as its text), as are the dotted spellings of infinity and NaN, and
anything else a string; so `nan` and `Infinity` stay strings. Quoted and block scalars are
always strings. A tag from the core schema asks for a kind; a scalar that does not fit it is a
bad value.
-/

namespace Conveyor
namespace Yaml

/-- A loaded YAML value. -/
inductive Node where
  | null
  | bool (b : Bool)
  | int (i : Int)
  | real (text : String)
  | str (s : String)
  | seq (items : List Node)
  | map (entries : List (Node × Node))
  | bad
deriving Inhabited, BEq

mutual
/-- A node as the loader's debugging text shows it, as in failures about keys. -/
def Node.debug : Node → String
  | .null => "Null"
  | .bool b => "Boolean(" ++ (if b then "true" else "false") ++ ")"
  | .int i => "Integer(" ++ toString i ++ ")"
  | .real t => "Real(" ++ Escape.quoted t ++ ")"
  | .str s => "String(" ++ Escape.quoted s ++ ")"
  | .seq items => "Array([" ++ debugItems items ++ "])"
  | .map es => "Hash(\x7b" ++ debugEntries es ++ "\x7d)"
  | .bad => "BadValue"
/-- Items in debugging text, separated by commas. -/
def debugItems : List Node → String
  | [] => ""
  | [x] => x.debug
  | x :: xs => x.debug ++ ", " ++ debugItems xs
/-- Entries in debugging text, separated by commas. -/
def debugEntries : List (Node × Node) → String
  | [] => ""
  | [(k, v)] => k.debug ++ ": " ++ v.debug
  | (k, v) :: es => k.debug ++ ": " ++ v.debug ++ ", " ++ debugEntries es
end

/-- The digits of a base after a prefix, as a 64-bit two's complement number. -/
def radixValue? (base : Nat) (cs : List Char) : Option Int :=
  let digit (c : Char) : Option Nat :=
    if c.isDigit then some (c.toNat - 48)
    else if 'a' ≤ c && c ≤ 'f' then some (c.toNat - 87)
    else if 'A' ≤ c && c ≤ 'F' then some (c.toNat - 55) else none
  let (neg, ds) := match cs with
    | '-' :: r => (true, r)
    | '+' :: r => (false, r)
    | r => (false, r)
  if ds.isEmpty then none else
  let vals := ds.map digit
  if vals.any (fun d => d.isNone || d.any (· ≥ base)) then none else
  let v := (vals.filterMap id).foldl (fun acc d => acc * base + d) 0
  if neg then (if v ≤ Nat.pow 2 63 then some (-(Int.ofNat v)) else none)
  else if v < Nat.pow 2 63 then some (Int.ofNat v) else none

/-- Whether a text reads as a double: the dotted spellings of infinity and NaN, or a decimal
with at least one digit (so `inf` and `nan` do not). -/
def readsAsReal (s : String) : Bool :=
  [".inf", ".Inf", ".INF", "+.inf", "+.Inf", "+.INF", "-.inf", "-.Inf", "-.INF", ".nan", ".NaN",
    ".NAN"].contains s || (s.any Char.isDigit && (Numeral.float? s).isSome)

/-- The spellings of null. -/
def nullWords : List String := ["~", "null"]

/-- A boolean by its spelling. -/
def boolWord? (v : String) : Option Bool :=
  if ["true", "True", "TRUE"].contains v then some true
  else if ["false", "False", "FALSE"].contains v then some false
  else none

/-- Resolve a plain scalar without a tag. -/
def resolvePlain (v : String) : Node :=
  let cs := v.toList
  let early : Option Node := match cs with
    | '0' :: 'x' :: rest => (radixValue? 16 rest).map Node.int
    | '0' :: 'o' :: rest => (radixValue? 8 rest).map Node.int
    | '+' :: rest => (Numeral.integer? 64 (String.ofList rest)).map Node.int
    | _ => none
  match early with
  | some n => n
  | none =>
    if nullWords.contains v then .null
    else match boolWord? v with
      | some b => .bool b
      | none => match Numeral.integer? 64 v with
        | some i => .int i
        | none => if readsAsReal v then .real v else .str v

/-- Resolve a plain scalar under a core schema tag. -/
def resolveTagged (suffix v : String) : Node :=
  if suffix == "bool" then
    match boolWord? v with | some b => .bool b | none => .bad
  else if suffix == "int" then
    match Numeral.integer? 64 v with | some i => .int i | none => .bad
  else if suffix == "float" then (if readsAsReal v then .real v else .bad)
  else if suffix == "null" then (if nullWords.contains v then .null else .bad)
  else .str v

end Yaml
end Conveyor
