/-!
# Percent-encoding

A location is written in ASCII: a byte that a part of the location may not hold is written
as `%` and two upper-case hexadecimal digits. Each part has its own set of bytes to encode; every
set holds the control bytes, delete and all bytes from `0x80` up, and the sets grow from the
fragment set to the set for user names:

- fragment: also space, `"`, `<`, `>` and the backquote;
- query: space, `"`, `#`, `<`, `>`, and for the special schemes also `'`;
- path: the query set with the backquote, `?`, `{` and `}`;
- user information: the path set with `/`, `:`, `;`, `=`, `@`, `[`, `\`, `]`, `^` and `|`.

`decode` reads `%` and two hexadecimal digits (of either case) back into a byte and keeps every
other byte.
-/

namespace Conveyor
namespace Uri

/-- A set of bytes that a part of a location writes percent-encoded. -/
inductive EncodeSet where
  | controls | fragment | query | specialQuery | path | userinfo
  | pathSegment | specialPathSegment
deriving DecidableEq, Repr

/-- The bytes a set adds to the control bytes. -/
def EncodeSet.extra : EncodeSet → List Nat
  | .controls => []
  | .fragment => [0x20, 0x22, 0x3c, 0x3e, 0x60]
  | .query => [0x20, 0x22, 0x23, 0x3c, 0x3e]
  | .specialQuery => [0x20, 0x22, 0x23, 0x3c, 0x3e, 0x27]
  | .path => [0x20, 0x22, 0x23, 0x3c, 0x3e, 0x60, 0x3f, 0x7b, 0x7d]
  | .userinfo => [0x20, 0x22, 0x23, 0x3c, 0x3e, 0x60, 0x3f, 0x7b, 0x7d,
      0x2f, 0x3a, 0x3b, 0x3d, 0x40, 0x5b, 0x5c, 0x5d, 0x5e, 0x7c]
  | .pathSegment => [0x20, 0x22, 0x23, 0x3c, 0x3e, 0x60, 0x3f, 0x7b, 0x7d, 0x2f, 0x25]
  | .specialPathSegment => [0x20, 0x22, 0x23, 0x3c, 0x3e, 0x60, 0x3f, 0x7b, 0x7d, 0x2f, 0x25, 0x5c]

/-- Whether a set holds a byte. -/
def EncodeSet.holds (set : EncodeSet) (b : Nat) : Bool :=
  b < 0x20 || b ≥ 0x7f || set.extra.contains b

/-- The upper-case hexadecimal digit of a number below sixteen. -/
def hexUpper (n : Nat) : Char :=
  if n < 10 then Char.ofNat (48 + n) else Char.ofNat (55 + n)

/-- One byte, encoded if the set holds it. -/
def encodeByte (set : EncodeSet) (b : UInt8) : List Char :=
  if set.holds b.toNat then ['%', hexUpper (b.toNat / 16), hexUpper (b.toNat % 16)]
  else [Char.ofNat b.toNat]

/-- Bytes, each encoded if the set holds it. -/
def encodeBytes (set : EncodeSet) (bs : List UInt8) : List Char :=
  bs.flatMap (encodeByte set)

/-- The UTF-8 bytes of a character. -/
def utf8 (c : Char) : List UInt8 := c.toString.toUTF8.toList

/-- A character, as its UTF-8 bytes encoded by the set. -/
def encodeChar (set : EncodeSet) (c : Char) : List Char :=
  encodeBytes set (utf8 c)

/-- A text, each character encoded by the set. -/
def encodeText (set : EncodeSet) (cs : List Char) : List Char :=
  cs.flatMap (encodeChar set)

/-- The value of a hexadecimal digit of either case. -/
def hexValue? (b : UInt8) : Option Nat :=
  if 48 ≤ b && b ≤ 57 then some (b.toNat - 48)
  else if 65 ≤ b && b ≤ 70 then some (b.toNat - 55)
  else if 97 ≤ b && b ≤ 102 then some (b.toNat - 87)
  else none

/-- Bytes with each `%` and two hexadecimal digits read back into one byte. -/
def decode : List UInt8 → List UInt8
  | [] => []
  | 37 :: h :: l :: rest =>
    match hexValue? h, hexValue? l with
    | some a, some b => (a * 16 + b).toUInt8 :: decode rest
    | _, _ => 37 :: decode (h :: l :: rest)
  | b :: rest => b :: decode rest

end Uri
end Conveyor
