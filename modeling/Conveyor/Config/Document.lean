import Conveyor.Config.Schema
import Conveyor.Text.Json

/-!
# Configurations as JSON documents

`Config.toJson` writes a configuration as a JSON object of sections, in the order of
`Config.sections`; a double that is not finite is written `null`, as JSON has no such number.

`Config.ofJson` reads a document strictly over a base configuration: a setting that is absent
keeps its base value, and a name the layout does not know is skipped. Members are read in the
order of their keys, and the first bad value stops the reading. A count must be a non-negative
integer that fits its width, a double any number, a text a string, a yes or no a boolean, and a
path a string or null. A section (or the whole configuration) may also be given as a list of
values in the order of the layout, with no more values than settings. A buffer size that is a
count but not an allowed size is refused with its own reason.
-/

namespace Conveyor
namespace Config

/-- The JSON value of a setting. -/
def Value.toJson : Value → Json
  | .count n => .int n
  | .ratio x => if x.isNaN || x.isInf then .null else .float x
  | .text s => .str s
  | .flag b => .bool b
  | .path p => match p with | some s => .str s | none => .null

/-- A configuration as a JSON object. -/
def toJson (c : Config) : Json :=
  .obj (sections.map fun s => (s.name, .obj (s.fields.map fun f => (f.name, (f.get c).toJson))))

/-- Why a document does not hold a configuration. -/
inductive DocFault where
  /-- A value of the wrong type or out of range, or a list too long. -/
  | shape
  /-- A count that is not an allowed buffer size. -/
  | buffer (f : BufferFault)
deriving DecidableEq, Repr

/-- A count below `2 ^ bits`. -/
def countBelow (bits : Nat) : Json → Except DocFault Nat
  | .int i => if 0 ≤ i && i < Int.ofNat (Nat.pow 2 bits) then .ok i.toNat else .error .shape
  | _ => .error .shape

/-- Read one setting's value strictly. -/
def readStrict (k : Kind) (v : Json) : Except DocFault Value :=
  match k, v with
  | .count, v => Value.count <$> countBelow 64 v
  | .count32, v => Value.count <$> countBelow 32 v
  | .buffer, v => do
    let n ← countBelow 64 v
    match BufferSize.make n with
    | .ok b => pure (.count b.bytes)
    | .error f => throw (.buffer f)
  | .ratio, .int i => .ok (.ratio (if i ≥ 0 then Float.ofNat i.toNat else -Float.ofNat i.natAbs))
  | .ratio, .float x => .ok (.ratio x)
  | .text, .str s => .ok (.text s)
  | .flag, .bool b => .ok (.flag b)
  | .path, .null => .ok (.path none)
  | .path, .str s => .ok (.path (some s))
  | _, _ => .error .shape

/-- Members sorted by key. -/
def byKey (ms : List (String × Json)) : List (String × Json) :=
  ms.mergeSort fun a b => decide (a.1 ≤ b.1)

/-- Read the members or the listed values of a table whose entries are read by `step`. -/
def readTable {α : Type} (names : List String) (step : α → String → Json → Except DocFault α)
    (base : α) : Json → Except DocFault α
  | .obj ms =>
    (byKey ms).foldlM (fun acc (k, v) => if names.contains k then step acc k v else pure acc) base
  | .arr xs =>
    if xs.length > names.length then .error .shape
    else (names.zip xs).foldlM (fun acc (k, v) => step acc k v) base
  | _ => .error .shape

/-- Read one section over a configuration. -/
def readSection (s : Section) (c : Config) (v : Json) : Except DocFault Config :=
  readTable (s.fields.map (·.name)) (fun c k v =>
    match s.fields.find? (·.name == k) with
    | some f => do pure (f.set c (← readStrict f.kind v))
    | none => pure c) c v

/-- Read a configuration document over a base configuration. -/
def ofJson (base : Config) (v : Json) : Except DocFault Config :=
  readTable (sections.map (·.name)) (fun c k v =>
    match sections.find? (·.name == k) with
    | some s => readSection s c v
    | none => pure c) base v

end Config
end Conveyor
