import Conveyor.Unicode.Table
import Conveyor.Unicode.PropertyData

/-!
# Character properties

The properties that decide whether a domain name label is acceptable: whether a code point is
a combining mark, its bidirectional class, and its joining type.
-/

namespace Conveyor
namespace Unicode

/-- The combining marks. -/
def marks : RangeTable Unit := RangeTable.ofText (fun _ => ()) markText

/-- Whether a code point is a combining mark. -/
def isMark (cp : Nat) : Bool := (marks.find? cp).isSome

/-- The bidirectional classes that matter for labels; the classes of explicit embeddings,
isolates, separators and white space are `other`. -/
inductive BidiClass where
  | L
  | R
  | AL
  | AN
  | EN
  | ES
  | CS
  | ET
  | ON
  | BN
  | NSM
  | other
deriving DecidableEq, Repr, Inhabited

/-- A bidirectional class by its name. -/
def BidiClass.ofName : String → BidiClass
  | "L" => .L
  | "R" => .R
  | "AL" => .AL
  | "AN" => .AN
  | "EN" => .EN
  | "ES" => .ES
  | "CS" => .CS
  | "ET" => .ET
  | "ON" => .ON
  | "BN" => .BN
  | "NSM" => .NSM
  | _ => .other

/-- The bidirectional classes other than `L`. -/
def bidiClasses : RangeTable BidiClass := RangeTable.ofText BidiClass.ofName bidiClassText

/-- The bidirectional class of a code point. -/
def bidiClass (cp : Nat) : BidiClass := (bidiClasses.find? cp).getD .L

/-- How a code point joins its neighbours in cursive scripts. -/
inductive JoiningType where
  /-- Joins on both sides. -/
  | dual
  /-- Joins on the right only. -/
  | right
  /-- Joins on the left only. -/
  | left
  /-- Causes joining. -/
  | causing
  /-- Lets joining pass through. -/
  | transparent
  /-- Does not join. -/
  | nonJoining
deriving DecidableEq, Repr, Inhabited

/-- A joining type by its letter. -/
def JoiningType.ofLetter : String → JoiningType
  | "D" => .dual
  | "R" => .right
  | "L" => .left
  | "C" => .causing
  | "T" => .transparent
  | _ => .nonJoining

/-- The joining types. -/
def joiningTypes : RangeTable JoiningType := RangeTable.ofText JoiningType.ofLetter joiningTypeText

/-- The joining type of a code point. -/
def joiningType (cp : Nat) : JoiningType := (joiningTypes.find? cp).getD .nonJoining

end Unicode
end Conveyor
