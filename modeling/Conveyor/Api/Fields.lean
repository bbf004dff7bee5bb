import Conveyor.Text.Json
import Conveyor.Task.Moves
import Conveyor.Error
import Conveyor.Word

/-!
# Reading requests and naming identifiers

Requests and answers of the JSON interface are JSON objects. `Decode` reads the fields of a
request and fails with the text of a bad input: a missing field, or one of the wrong type.

Requests name tasks and workers by short names: a name of 1 to 16 bytes stands for the
identifier whose bytes are the name's UTF-8 bytes, padded with zero bytes. Identifiers the
library invents get names from a `Names` table. Answers write every identifier as its name, in
records and inside message texts, and an identifier without a name as `?` and its hyphenated
form.
-/

namespace Conveyor
namespace Api

/-- Decoding fails with the text of a bad input. -/
abbrev Decode := Except String

/-! ## Reading fields -/

def field? (j : Json) (k : String) : Option Json :=
  match j.get? k with
  | some .null => none
  | v => v

def need (j : Json) (k : String) : Decode Json :=
  match field? j k with
  | some v => pure v
  | none => throw ("missing field '" ++ k ++ "'")

def asStr (k : String) : Json → Decode String
  | .str s => pure s
  | _ => throw ("field '" ++ k ++ "' must be a string")

def asNat (k : String) : Json → Decode Nat
  | .int i => if i ≥ 0 then pure i.toNat else throw ("field '" ++ k ++ "' must be a count")
  | _ => throw ("field '" ++ k ++ "' must be a count")

def asInt (k : String) : Json → Decode Int
  | .int i => pure i
  | _ => throw ("field '" ++ k ++ "' must be an integer")

def asBool (k : String) : Json → Decode Bool
  | .bool b => pure b
  | _ => throw ("field '" ++ k ++ "' must be a boolean")

def asArr (k : String) : Json → Decode (List Json)
  | .arr xs => pure xs
  | _ => throw ("field '" ++ k ++ "' must be a list")

def str (j : Json) (k : String) : Decode String := do asStr k (← need j k)
def nat (j : Json) (k : String) : Decode Nat := do asNat k (← need j k)
def int (j : Json) (k : String) : Decode Int := do asInt k (← need j k)
def bool (j : Json) (k : String) : Decode Bool := do asBool k (← need j k)
def arr (j : Json) (k : String) : Decode (List Json) := do asArr k (← need j k)

def strD (j : Json) (k : String) (d : String) : Decode String :=
  match field? j k with | some v => asStr k v | none => pure d
def natD (j : Json) (k : String) (d : Nat) : Decode Nat :=
  match field? j k with | some v => asNat k v | none => pure d
def intD (j : Json) (k : String) (d : Int) : Decode Int :=
  match field? j k with | some v => asInt k v | none => pure d
def boolD (j : Json) (k : String) (d : Bool) : Decode Bool :=
  match field? j k with | some v => asBool k v | none => pure d
def arrD (j : Json) (k : String) : Decode (List Json) :=
  match field? j k with | some v => asArr k v | none => pure []
def strOpt (j : Json) (k : String) : Decode (Option String) :=
  match field? j k with | some v => some <$> asStr k v | none => pure none
def natOpt (j : Json) (k : String) : Decode (Option Nat) :=
  match field? j k with | some v => some <$> asNat k v | none => pure none

def status (j : Json) (k : String) : Decode Status := do
  let v ← need j k
  match v with
  | .str s => match Status.ofName? s with
    | some st => pure st
    | none => throw ("bad status " ++ v.compact)
  | _ => throw ("bad status " ++ v.compact)

def kindD (j : Json) (k : String) : Decode Kind := do
  match field? j k with
  | none => pure .parent
  | some v => match v with
    | .str s => match Kind.ofName? s with
      | some kd => pure kd
      | none => throw ("bad kind " ++ v.compact)
    | _ => throw ("bad kind " ++ v.compact)

def kindReq (j : Json) (k : String) : Decode Kind := do
  let _ ← need j k
  kindD j k

/-- A float field: a number or one of the texts nan, inf, -inf. -/
def float (j : Json) (k : String) : Decode Float := do
  match ← need j k with
  | .int i => pure (if i ≥ 0 then Float.ofNat i.toNat else -(Float.ofNat i.natAbs))
  | .float x => pure x
  | .str "nan" => pure (0.0 / 0.0)
  | .str "inf" => pure (1.0 / 0.0)
  | .str "-inf" => pure (-1.0 / 0.0)
  | _ => throw ("field '" ++ k ++ "' must be a number")

/-! ## Names and ids -/

/-- The id of a name: its bytes padded with zeros. -/
def uuidOfName (s : String) : Decode Uuid :=
  let bs := s.toUTF8.toList
  if bs.isEmpty || bs.length > 16 || bs.getLast? == some 0 then
    throw ("bad name '" ++ s ++ "'")
  else pure (Uuid.ofBytes bs)

def taskId (j : Json) (k : String) : Decode TaskId := do
  pure ⟨← uuidOfName (← str j k)⟩

def workerId (j : Json) (k : String) : Decode WorkerId := do
  pure ⟨← uuidOfName (← str j k)⟩

/-- Names given to ids that are not padded names. -/
abbrev Names := List (Uuid × String)

/-- The name of an id, if it was made from one. -/
def paddedName? (u : Uuid) : Option String :=
  let bs := (u.bytes.reverse.dropWhile (· == 0)).reverse
  if bs.isEmpty then none else String.fromUTF8? (ByteArray.mk bs.toArray)

def nameOf (names : Names) (u : Uuid) : String :=
  match names.find? (·.1 == u) with
  | some (_, n) => n
  | none => match paddedName? u with
    | some n => n
    | none => "?" ++ u.render

def isHex (c : Char) : Bool := c.isDigit || ('a' ≤ c && c ≤ 'f')

/-- Parse a hyphenated id at the front of a character list. -/
def uuidPrefix? (cs : List Char) : Option Uuid :=
  let groups := [8, 4, 4, 4, 12]
  let rec go : List Nat → List Char → List Char → Option (List Char)
    | [], _, acc => some acc
    | [n], rest, acc =>
      let g := rest.take n
      if g.length == n && g.all isHex then some (acc ++ g) else none
    | n :: ns, rest, acc =>
      let g := rest.take n
      if g.length == n && g.all isHex && (rest.drop n).head? == some '-' then
        go ns (rest.drop (n + 1)) (acc ++ g)
      else none
  match go groups cs [] with
  | none => none
  | some hex =>
    some ⟨hex.foldl (fun acc c => acc * 16 + (if c.isDigit then c.toNat - 48 else c.toNat - 87)) 0⟩

/-- Replace every hyphenated id in a text by what `f` writes for it. -/
def replaceIds (f : Uuid → String) (s : String) : String :=
  let rec go (fuel : Nat) (cs : List Char) (acc : String) : String :=
    match fuel, cs with
    | 0, _ => acc ++ String.ofList cs
    | _, [] => acc
    | fuel + 1, c :: rest =>
      match uuidPrefix? (c :: rest) with
      | some u => go fuel ((c :: rest).drop 36) (acc ++ f u)
      | none => go fuel rest (acc.push c)
  go (s.length + 1) s.toList ""

/-- Replace every hyphenated id in a text by its name. -/
def renameIn (names : Names) (s : String) : String := replaceIds (nameOf names) s

/-! ## Answers -/

def ok (r : Json) : Json := .obj [("ok", r)]

def fail (kind : String) (msg : String) : Json := .obj [("error", .str kind), ("message", .str msg)]

def badInput (msg : String) : Json := fail "bad_input" msg

def errorJson (names : Names) (e : Error) : Json :=
  fail e.variant (renameIn names e.message)

def statusJson (s : Status) : Json := .str s.name

def natJson (n : Nat) : Json := .int n

def strList (xs : List String) : Json := .arr (xs.map .str)

end Api
end Conveyor
