import Conveyor.Api.Fields

/-!
# Answers that do not depend on the run

Invented identifiers and clock readings differ from run to run, so answers that show them are
put in a normal form. Every hyphenated identifier in a text becomes `<idN>`, numbered from 1 in
the order in which the identifiers first appear across the answer (`Seen` keeps that order). A
document has its keys sorted at every level before it is numbered, so the numbering follows the
sorted text; a non-null instant (a key ending in `_at`) becomes `<time>`, a non-null worker
`<worker>`, and a run's duration `<ms>` unless it is kept.
-/

namespace Conveyor
namespace Api

/-- The identifiers met so far, in the order they were first met. -/
abbrev Seen := List String

/-- The number of an identifier, and the identifiers met with it. -/
def number (seen : Seen) (id : String) : Nat × Seen :=
  match seen.idxOf? id with
  | some i => (i + 1, seen)
  | none => (seen.length + 1, seen ++ [id])

/-- Replace every hyphenated identifier of a character list by its number. -/
def numberChars (seen : Seen) : List Char → List Char × Seen
  | [] => ([], seen)
  | c :: rest =>
    match uuidPrefix? (c :: rest) with
    | some _ =>
      let (n, seen) := number seen (String.ofList ((c :: rest).take 36))
      let (out, seen) := numberChars seen ((c :: rest).drop 36)
      (("<id" ++ toString n ++ ">").toList ++ out, seen)
    | none =>
      let (out, seen) := numberChars seen rest
      (c :: out, seen)
termination_by cs => cs.length
decreasing_by
  · rw [List.length_drop]
    exact Nat.sub_lt (Nat.succ_pos _) (by decide)
  · exact Nat.lt_succ_self _

/-- Replace every hyphenated identifier of a text by its number. -/
def numberText (seen : Seen) (s : String) : String × Seen :=
  let (out, seen) := numberChars seen s.toList
  (String.ofList out, seen)

mutual
/-- A document with the members of every object sorted by key. -/
def sortKeys : Json → Json
  | .arr xs => .arr (sortKeysList xs)
  | .obj ms => .obj ((sortKeysMembers ms).mergeSort fun a b => decide (a.1 ≤ b.1))
  | v => v
/-- Elements with sorted keys. -/
def sortKeysList : List Json → List Json
  | [] => []
  | x :: xs => sortKeys x :: sortKeysList xs
/-- Members with sorted keys. -/
def sortKeysMembers : List (String × Json) → List (String × Json)
  | [] => []
  | (k, v) :: ms => (k, sortKeys v) :: sortKeysMembers ms
end

/-- How a document is put in normal form: what is done to its texts, and whether a run's
duration is kept. -/
structure Masks where
  text : Seen → String → String × Seen := numberText
  keepDuration : Bool := false

/-- The mask a member's value gets from its key, if any. -/
def Masks.forKey (m : Masks) (key : String) (v : Json) : Option Json :=
  match v with
  | .null => none
  | _ =>
    if key.endsWith "_at" then some (.str "<time>")
    else if key == "assigned_worker" then some (.str "<worker>")
    else if key == "duration_ms" && !m.keepDuration then some (.str "<ms>")
    else none

mutual
/-- A document in normal form, its texts numbered in order. -/
def normalize (m : Masks) (seen : Seen) : Json → Json × Seen
  | .str s =>
    let (s, seen) := m.text seen s
    (.str s, seen)
  | .arr xs =>
    let (xs, seen) := normalizeList m seen xs
    (.arr xs, seen)
  | .obj ms =>
    let (ms, seen) := normalizeMembers m seen ms
    (.obj ms, seen)
  | v => (v, seen)
/-- Elements in normal form. -/
def normalizeList (m : Masks) (seen : Seen) : List Json → List Json × Seen
  | [] => ([], seen)
  | x :: xs =>
    let (x, seen) := normalize m seen x
    let (xs, seen) := normalizeList m seen xs
    (x :: xs, seen)
/-- Members in normal form; keys are kept as they are. -/
def normalizeMembers (m : Masks) (seen : Seen) : List (String × Json) → List (String × Json) × Seen
  | [] => ([], seen)
  | (k, v) :: ms =>
    let (v, seen) := match m.forKey k v with
      | some masked => (masked, seen)
      | none => normalize m seen v
    let (ms, seen) := normalizeMembers m seen ms
    ((k, v) :: ms, seen)
end

/-- A document with sorted keys, in normal form. -/
def normalDocument (m : Masks) (seen : Seen) (v : Json) : Json × Seen :=
  normalize m seen (sortKeys v)

end Api
end Conveyor
