/-!
# Identifiers

Tasks and workers are named by 128-bit identifiers. They are written in the usual
hyphenated lower-case hexadecimal form `xxxxxxxx-xxxx-xxxx-xxxx-xxxxxxxxxxxx` and compare as
unsigned 128-bit numbers, which is the order of their sixteen big-endian bytes.

- `Uuid.ofBytes` reads up to sixteen bytes, padding with zeros on the right; `Uuid.bytes` gives
  the sixteen bytes back.
- `Uuid.spawned n` is the `n`-th identifier the library invents itself. Its first byte is `0xff`,
  which no UTF-8 text starts with, so it never meets an identifier padded from a name, and it
  never meets another invented one.
-/

namespace Conveyor

/-- A 128-bit identifier, kept as its value below `2 ^ 128`. -/
structure Uuid where
  value : Nat
deriving DecidableEq, Repr, Inhabited, Hashable

namespace Uuid

instance : Ord Uuid := ⟨fun a b => compare a.value b.value⟩

instance : LT Uuid := ⟨fun a b => a.value < b.value⟩

instance (a b : Uuid) : Decidable (a < b) := inferInstanceAs (Decidable (a.value < b.value))

/-- The identifier whose big-endian bytes are `bs`, padded with zero bytes to sixteen. -/
def ofBytes (bs : List UInt8) : Uuid :=
  ⟨((bs.take 16) ++ List.replicate (16 - bs.length) 0).foldl (fun acc (b : UInt8) => acc * 256 + b.toNat) 0⟩

/-- The sixteen big-endian bytes of an identifier. -/
def bytes (u : Uuid) : List UInt8 :=
  (List.range 16).map fun i => ((u.value / Nat.pow 256 (15 - i)) % 256).toUInt8

/-- The lower-case hexadecimal digit of a number below sixteen. -/
def hexDigit (n : Nat) : Char :=
  if n < 10 then Char.ofNat (48 + n) else Char.ofNat (87 + n)

/-- Two hexadecimal digits of a byte. -/
def hexByte (b : UInt8) : List Char :=
  [hexDigit (b.toNat / 16), hexDigit (b.toNat % 16)]

/-- The hyphenated form: groups of 4, 2, 2, 2 and 6 bytes. -/
def render (u : Uuid) : String :=
  let hex := u.bytes.map hexByte
  let group (start len : Nat) : String := String.ofList ((hex.drop start).take len).flatten
  group 0 4 ++ "-" ++ group 4 2 ++ "-" ++ group 6 2 ++ "-" ++ group 8 2 ++ "-" ++ group 10 6

/-- The value of a hexadecimal digit, either case. -/
def hexValue? (c : Char) : Option Nat :=
  if '0' ≤ c && c ≤ '9' then some (c.toNat - 48)
  else if 'a' ≤ c && c ≤ 'f' then some (c.toNat - 87)
  else if 'A' ≤ c && c ≤ 'F' then some (c.toNat - 55)
  else none

/-- The number written by hexadecimal digits. -/
def ofHex? (cs : List Char) : Option Nat :=
  cs.foldlM (fun acc c => (hexValue? c).map (acc * 16 + ·)) 0

/-- Whether the hyphens of a 36-character form stand where they belong. -/
def hyphensAt (cs : List Char) : Bool :=
  (List.range cs.length).all fun i =>
    (cs.getD i ' ' == '-') == (i == 8 || i == 13 || i == 18 || i == 23)

/-- Read an identifier: hyphenated, 32 plain digits, in braces, or after `urn:uuid:` in either
case. -/
def parse? (s : String) : Option Uuid :=
  let cs := s.toList
  let body :=
    if cs.length == 45 && (String.ofList ((cs.take 9).map Char.toLower)) == "urn:uuid:" then cs.drop 9
    else if cs.length == 38 && cs.head? == some '{' && cs.getLast? == some '}' then
      (cs.drop 1).dropLast
    else cs
  if body.length == 36 && hyphensAt body then
    (ofHex? (body.filter (· ≠ '-'))).map Uuid.mk
  else if body.length == 32 then (ofHex? body).map Uuid.mk
  else none

/-- The `n`-th invented identifier. The first `2 ^ 60` are shaped like random version-4
identifiers; no two are alike, as no two random ones are. -/
def spawned (n : Nat) : Uuid :=
  ⟨0xff * Nat.pow 2 120 + 4 * Nat.pow 2 76 + 8 * Nat.pow 2 60 + n⟩

end Uuid

/-- The identifier of a Top, Parent or Child task. -/
structure TaskId where
  uuid : Uuid
deriving DecidableEq, Repr, Inhabited, Hashable

/-- The identifier of a worker. -/
structure WorkerId where
  uuid : Uuid
deriving DecidableEq, Repr, Inhabited, Hashable

instance : Ord TaskId := ⟨fun a b => compare a.uuid b.uuid⟩

instance : Ord WorkerId := ⟨fun a b => compare a.uuid b.uuid⟩

/-- A task identifier is written as its 128-bit identifier. -/
def TaskId.render (id : TaskId) : String := id.uuid.render

/-- A worker identifier is written as its 128-bit identifier. -/
def WorkerId.render (id : WorkerId) : String := id.uuid.render

end Conveyor
