/-!
# Tables of code points

The Unicode data the project needs is kept as text in the data modules and read into sorted
arrays, which are searched by halving. A range table maps ranges of code points (sorted, not
overlapping) to values; a key table maps single keys to values.
-/

namespace Conveyor
namespace Unicode

/-- The value of a hexadecimal digit (zero for anything else). -/
def hexDigit (c : Char) : Nat :=
  if c.isDigit then c.toNat - '0'.toNat
  else if 'a' ≤ c && c ≤ 'f' then c.toNat - 'a'.toNat + 10
  else if 'A' ≤ c && c ≤ 'F' then c.toNat - 'A'.toNat + 10
  else 0

/-- The value of hexadecimal digits. -/
def hexValue (s : String) : Nat := s.foldl (fun n c => n * 16 + hexDigit c) 0

/-- The position of the last key at most `k` among the sorted keys in `[lo, hi)`, if any. -/
def lastAtMost (keys : Array Nat) (k : Nat) : Nat → Nat → Nat → Option Nat
  | 0, _, _ => none
  | fuel + 1, lo, hi =>
    if hi ≤ lo + 1 then
      if lo < hi && keys.getD lo 0 ≤ k then some lo else none
    else
      let mid := (lo + hi) / 2
      if keys.getD mid 0 ≤ k then lastAtMost keys k fuel mid hi
      else lastAtMost keys k fuel lo mid

/-- Ranges of code points with values: the first and last code point of each, sorted. -/
structure RangeTable (α : Type) where
  firsts : Array Nat
  lasts : Array Nat
  values : Array α

/-- The value of the range that holds a code point. -/
def RangeTable.find? {α : Type} (t : RangeTable α) (cp : Nat) : Option α :=
  match lastAtMost t.firsts cp 64 0 t.firsts.size with
  | some i => if cp ≤ t.lasts.getD i 0 then t.values[i]? else none
  | none => none

/-- A range table from text entries `first-last` or `first-last:value`, separated by
semicolons, with the value read by `read`. -/
def RangeTable.ofText {α : Type} (read : String → α) (text : String) : RangeTable α :=
  (text.splitOn ";").foldl (fun t e =>
    match e.splitOn ":" with
    | [] => t
    | range :: rest =>
      match range.splitOn "-" with
      | [a, b] => ⟨t.firsts.push (hexValue a), t.lasts.push (hexValue b),
          t.values.push (read (":".intercalate rest))⟩
      | _ => t) ⟨#[], #[], #[]⟩

/-- Single keys with values, sorted by key. -/
structure KeyTable (α : Type) where
  keys : Array Nat
  values : Array α

/-- The value of a key. -/
def KeyTable.find? {α : Type} (t : KeyTable α) (k : Nat) : Option α :=
  match lastAtMost t.keys k 64 0 t.keys.size with
  | some i => if t.keys.getD i 0 == k then t.values[i]? else none
  | none => none

/-- Code points in hexadecimal, separated by commas. -/
def codePoints (s : String) : List Nat := (s.splitOn ",").map hexValue

end Unicode
end Conveyor
