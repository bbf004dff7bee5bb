import Conveyor.Unicode.Table
import Conveyor.Unicode.IdnaData

/-!
# The IDNA mapping

Every code point has a status for international domain names: valid, mapped to other code
points, a deviation (valid when names are not processed transitionally), ignored (dropped), or
disallowed. The statuses come as ranges (`idnaMappingText`), each running to the code point
before the next range; a run of single code points mapped by one shift is written as one item.
-/

namespace Conveyor
namespace Unicode

/-- What the IDNA mapping does with a code point. -/
inductive IdnaStatus where
  | valid
  | mapped (image : List Nat)
  | deviation
  | ignored
  | disallowed
deriving DecidableEq, Repr, Inhabited

/-- One entry of the mapping text: its first code point and its status. -/
def idnaEntry (e : String) : Nat × IdnaStatus :=
  let cs := e.toList
  let start := String.ofList (cs.takeWhile fun c => c.isDigit || ('a' ≤ c && c ≤ 'f'))
  let rest := cs.drop start.length
  let status := match rest with
    | 'V' :: _ => IdnaStatus.valid
    | 'D' :: _ => .deviation
    | 'I' :: _ => .ignored
    | 'M' :: image => .mapped (codePoints (String.ofList image))
    | _ => .disallowed
  (hexValue start, status)

/-- The entries an item of the mapping text stands for: the item itself, or for a run
`first-last>target`, one mapped entry for each of its code points. -/
def idnaEntries (e : String) : List (Nat × IdnaStatus) :=
  match e.splitOn ">" with
  | [range, target] =>
    match range.splitOn "-" with
    | [a, b] => (List.range (hexValue b + 1 - hexValue a)).map fun i =>
        (hexValue a + i, .mapped [hexValue target + i])
    | _ => [idnaEntry e]
  | _ => [idnaEntry e]

/-- The mapping as a table: first code points and statuses. -/
def idnaTable : KeyTable IdnaStatus :=
  (idnaMappingText.splitOn ";").foldl (fun t e =>
    (idnaEntries e).foldl (fun t (start, status) => ⟨t.keys.push start, t.values.push status⟩) t)
    ⟨#[], #[]⟩

/-- The IDNA status of a code point. -/
def idnaStatus (cp : Nat) : IdnaStatus :=
  match lastAtMost idnaTable.keys cp 64 0 idnaTable.keys.size with
  | some i => idnaTable.values.getD i .disallowed
  | none => .disallowed

end Unicode
end Conveyor
