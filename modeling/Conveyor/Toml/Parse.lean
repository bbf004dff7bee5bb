import Conveyor.Toml.Document
import Conveyor.Text.Numeral

/-!
# Reading TOML documents

`Toml.parse` reads a document in two passes: first its shape (`statementsOf`), then its keys,
values and tables (`build`). The first failure of the first pass that fails is the one
reported, so a failure of shape anywhere comes before a failure of content.

Numbers are kept as written and read when used: an integer must fit 64 signed bits, and a
float that is too large for a double (and is not written as `inf`) overflows. These failures
have no place in the text. Of several, the first in the order of the keys (sorted, tables
before what follows them, array items in order) is the one reported.
-/

namespace Conveyor
namespace Toml

/-- Read a TOML document into its root table's entries. -/
def parse (text : String) : Except Fault (List (String × Value)) := do
  let chars := text.toList.toArray
  let statements ← statementsOf chars
  build chars statements

/-- An integer's digits (with an optional sign) in a radix as a 64-bit signed integer, or why
it is not one. -/
def integerValue (digits : String) (radix : Nat) : Except String Int :=
  let cs := digits.toList
  let (negative, ds) := match cs with
    | '-' :: rest => (true, rest)
    | '+' :: rest => (false, rest)
    | rest => (false, rest)
  let digitValue (c : Char) : Option Nat := (Scalar.hexDigit? c).filter (· < radix)
  if cs.isEmpty then .error "cannot parse integer from empty string"
  else if ds.isEmpty || ds.any (fun c => (digitValue c).isNone) then
    .error "invalid digit found in string"
  else
    let v := ds.foldl (fun acc c => acc * radix + (digitValue c).getD 0) 0
    if negative then
      (if v > Nat.pow 2 63 then .error "number too small to fit in target type" else .ok (-(Int.ofNat v)))
    else if v ≥ Nat.pow 2 63 then .error "number too large to fit in target type"
    else .ok v

/-- A float's digits as a double, or why they are not one: a value too large for a double
overflows unless it is written as infinity. -/
def floatValue (digits : String) : Except String Float :=
  match Numeral.float? digits with
  | none => .error "invalid float literal"
  | some x =>
    if x.isInf && !((digits.splitOn "inf").length > 1) then .error "floating-point number overflowed"
    else .ok x

mutual
/-- The first number in a value that cannot be read, in the order of the keys. -/
def Value.numberFault? : Value → Option String
  | .int d r => match integerValue d r with
    | .error e => some e
    | .ok _ => none
  | .float d => match floatValue d with
    | .error e => some e
    | .ok _ => none
  | .array items _ => itemsFault? items
  | .table es _ _ _ =>
    ((entriesFaults es).mergeSort (fun a b => compare a.1 b.1 != .gt)).findSome? (·.2)
  | _ => none
/-- The first number in items that cannot be read. -/
def itemsFault? : List Value → Option String
  | [] => none
  | v :: vs => v.numberFault?.orElse fun _ => itemsFault? vs
/-- Each key of a table with the first number under it that cannot be read. -/
def entriesFaults : List (String × Value) → List (String × Option String)
  | [] => []
  | (k, v) :: rest => (k, v.numberFault?) :: entriesFaults rest
end

/-- The first number in a document's root entries that cannot be read. -/
def numberFault? (entries : List (String × Value)) : Option String :=
  (Value.table entries false false false).numberFault?

end Toml
end Conveyor
