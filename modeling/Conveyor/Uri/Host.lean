import Conveyor.Uri.Percent
import Conveyor.Uri.Idna

/-!
# Hosts

The host of a location is a domain name, an IPv4 address or an IPv6 address in brackets.

- A special scheme's host is percent-decoded and brought to ASCII (`Idna.toAscii`); if its last
  label is a number, the whole host must be an IPv4 address, whose parts may be decimal, octal
  (a leading zero) or hexadecimal (`0x`), the last part filling the remaining bytes.
- Another scheme's host is opaque: it may not hold the characters that end or split a host, and
  the rest is percent-encoded with the control set.
- An IPv6 address is written in lower-case hexadecimal with the longest run of two or more zero
  pieces shortened to `::`.
-/

namespace Conveyor
namespace Uri

/-- Why a location cannot be read. -/
inductive UrlError where
  | emptyHost
  | idna
  | invalidPort
  | invalidIpv4
  | invalidIpv6
  | invalidDomainCharacter
  | relativeWithoutBase
deriving DecidableEq, Repr

/-- The text of a reading failure. -/
def UrlError.message : UrlError → String
  | .emptyHost => "empty host"
  | .idna => "invalid international domain name"
  | .invalidPort => "invalid port number"
  | .invalidIpv4 => "invalid IPv4 address"
  | .invalidIpv6 => "invalid IPv6 address"
  | .invalidDomainCharacter => "invalid domain character"
  | .relativeWithoutBase => "relative URL without a base"

/-- A host. -/
inductive Host where
  /-- A domain name or opaque host, as written. -/
  | domain (name : String)
  /-- An IPv4 address as a 32-bit number. -/
  | ipv4 (addr : Nat)
  /-- An IPv6 address as eight 16-bit pieces. -/
  | ipv6 (pieces : List Nat)
deriving DecidableEq, Repr

/-- Lower-case hexadecimal without leading zeros. -/
def hexLower (n : Nat) : String :=
  String.ofList (Nat.toDigits 16 n)

/-- Where the longest run of two or more zero pieces starts and ends, if there is one; of runs
of equal length the first. -/
def longestZeros (pieces : List Nat) : Option (Nat × Nat) :=
  let runs := (List.range 8).filterMap fun i =>
    if pieces.getD i 1 == 0 && (i == 0 || pieces.getD (i - 1) 1 != 0) then
      let len := ((pieces.drop i).takeWhile (· == 0)).length
      some (i, len)
    else none
  let best := runs.foldl (fun (acc : Option (Nat × Nat)) r =>
    match acc with
    | some a => if r.2 > a.2 then some r else some a
    | none => some r) none
  match best with
  | some (s, len) => if len ≥ 2 then some (s, s + len) else none
  | none => none

/-- The text of an IPv6 address, without brackets. -/
def ipv6Text (pieces : List Nat) : String :=
  match longestZeros pieces with
  | none => ":".intercalate (pieces.map hexLower)
  | some (s, e) =>
    ":".intercalate ((pieces.take s).map hexLower) ++ "::" ++
      ":".intercalate ((pieces.drop e).map hexLower)

/-- The text of a host. -/
def Host.render : Host → String
  | .domain name => name
  | .ipv4 a => toString (a / Nat.pow 2 24) ++ "." ++ toString ((a / Nat.pow 2 16) % 256) ++ "." ++
      toString ((a / Nat.pow 2 8) % 256) ++ "." ++ toString (a % 256)
  | .ipv6 ps => "[" ++ ipv6Text ps ++ "]"

/-! ## IPv4 -/

/-- One part of an IPv4 address: `none` if it is not a number, `some none` if it is too large. -/
def ipv4Number (cs : List Char) : Option (Option Nat) :=
  if cs.isEmpty then none else
  let (radix, digits) :=
    if cs.take 2 == ['0', 'x'] || cs.take 2 == ['0', 'X'] then (16, cs.drop 2)
    else if cs.length ≥ 2 && cs.head? == some '0' then (8, cs.drop 1)
    else (10, cs)
  if digits.isEmpty then some (some 0) else
  let value? (c : Char) : Option Nat :=
    if c.isDigit then some (c.toNat - 48)
    else if 'a' ≤ c && c ≤ 'f' then some (c.toNat - 87)
    else if 'A' ≤ c && c ≤ 'F' then some (c.toNat - 55)
    else none
  let vals := digits.map value?
  if vals.all (fun v => match v with | some d => d < radix | none => false) then
    let n := vals.foldl (fun acc v => acc * radix + v.getD 0) 0
    if n < Nat.pow 2 32 then some (some n) else some none
  else none

/-- Whether a domain's last label (before a trailing full stop) is a number. -/
def endsInNumber (cs : List Char) : Bool :=
  let parts := cs.splitOn '.'
  let last := match parts.reverse with
    | [] :: prev :: _ => some prev
    | [] :: [] => none
    | l :: _ => some l
    | [] => none
  match last with
  | none => false
  | some l => (!l.isEmpty && l.all Char.isDigit) || (ipv4Number l).isSome

/-- An IPv4 address. -/
def parseIpv4 (cs : List Char) : Except UrlError Nat := do
  let parts := cs.splitOn '.'
  let parts := if parts.getLast? == some [] then parts.dropLast else parts
  if parts.length > 4 then throw .invalidIpv4
  let numbers ← parts.mapM fun p => match ipv4Number p with
    | some (some n) => pure n
    | _ => throw .invalidIpv4
  match numbers.reverse with
  | [] => throw .invalidIpv4
  | last :: revInit =>
    let init := revInit.reverse
    if last ≥ Nat.pow 256 (4 - init.length) then throw .invalidIpv4
    if init.any (· > 255) then throw .invalidIpv4
    pure (init.zipIdx.foldl (fun acc (n, i) => acc + n * Nat.pow 256 (3 - i)) last)

/-! ## IPv6 -/

/-- The state of the IPv6 reader: pieces, where the next one goes, and where `::` stood. -/
structure Ipv6State where
  pieces : List Nat
  pointer : Nat
  compress : Option Nat

/-- Read up to four hexadecimal digits. -/
def hexRun (cs : List Char) : Nat × Nat × List Char :=
  let ds := (cs.take 4).takeWhile (fun c => c.isDigit || ('a' ≤ c && c ≤ 'f') || ('A' ≤ c && c ≤ 'F'))
  let v := ds.foldl (fun acc c =>
    acc * 16 + (if c.isDigit then c.toNat - 48 else if 'a' ≤ c then c.toNat - 87 else c.toNat - 55)) 0
  (v, ds.length, cs.drop ds.length)

/-- Read the dotted IPv4 tail of an IPv6 address into the pieces. -/
def ipv6Dotted (fuel : Nat) (cs : List Char) (seen : Nat) (st : Ipv6State) :
    Except UrlError Ipv6State :=
  match fuel with
  | 0 => throw .invalidIpv6
  | fuel + 1 =>
    if cs.isEmpty then
      if seen == 4 then pure st else throw .invalidIpv6
    else do
      let cs ← if seen > 0 then
          (if seen < 4 && cs.head? == some '.' then pure (cs.drop 1) else throw .invalidIpv6)
        else pure cs
      let ds := cs.takeWhile Char.isDigit
      if ds.isEmpty then throw .invalidIpv6
      if ds.length > 1 && ds.head? == some '0' then throw .invalidIpv6
      let v := ds.foldl (fun acc c => acc * 10 + (c.toNat - 48)) 0
      if v > 255 then throw .invalidIpv6
      let cur := st.pieces.getD st.pointer 0
      let pieces := st.pieces.set st.pointer (cur * 256 + v)
      let seen := seen + 1
      let pointer := if seen == 2 || seen == 4 then st.pointer + 1 else st.pointer
      ipv6Dotted fuel (cs.drop ds.length) seen { st with pieces, pointer }

/-- Read the pieces of an IPv6 address. -/
def ipv6Pieces (fuel : Nat) (cs : List Char) (st : Ipv6State) : Except UrlError Ipv6State :=
  match fuel with
  | 0 => throw .invalidIpv6
  | fuel + 1 =>
    match cs with
    | [] => pure st
    | c :: rest =>
      if st.pointer == 8 then throw .invalidIpv6
      else if c == ':' then
        if st.compress.isSome then throw .invalidIpv6
        else ipv6Pieces fuel rest { st with pointer := st.pointer + 1, compress := some (st.pointer + 1) }
      else
        let (v, n, after) := hexRun cs
        match after with
        | '.' :: _ =>
          if n == 0 || st.pointer > 6 then throw .invalidIpv6
          else ipv6Dotted (cs.length + 1) cs 0 st
        | ':' :: after' =>
          if after'.isEmpty then throw .invalidIpv6
          else ipv6Pieces fuel after' { st with pieces := st.pieces.set st.pointer v, pointer := st.pointer + 1 }
        | [] => pure { st with pieces := st.pieces.set st.pointer v, pointer := st.pointer + 1 }
        | _ :: _ => throw .invalidIpv6

/-- An IPv6 address (the text between the brackets). -/
def parseIpv6 (cs : List Char) : Except UrlError (List Nat) := do
  if cs.length < 2 then throw .invalidIpv6
  let start : Ipv6State := ⟨List.replicate 8 0, 0, none⟩
  let (cs, st) ← (match cs with
    | ':' :: c :: rest =>
      if c == ':' then pure (rest, { start with pointer := 1, compress := some 1 })
      else throw UrlError.invalidIpv6
    | _ => pure (cs, start) : Except UrlError (List Char × Ipv6State))
  let st ← ipv6Pieces (cs.length + 1) cs st
  match st.compress with
  | some cp =>
    -- move the pieces after the compression to the end
    let moved := (st.pieces.take st.pointer).drop cp
    let head := st.pieces.take cp
    pure (head ++ List.replicate (8 - cp - moved.length) 0 ++ moved)
  | none => if st.pointer != 8 then throw .invalidIpv6 else pure st.pieces

/-! ## Host reading -/

/-- The characters that cannot stand in an opaque host. -/
def opaqueRefused (c : Char) : Bool :=
  "\x00\t\n\r #/:<>?@[\\]^|".toList.contains c

/-- The host of a scheme that is not special. -/
def parseOpaque (cs : List Char) : Except UrlError Host :=
  if cs.head? == some '[' then
    if cs.getLast? != some ']' then throw .invalidIpv6
    else .ipv6 <$> parseIpv6 ((cs.drop 1).dropLast)
  else if cs.any opaqueRefused then throw .invalidDomainCharacter
  else pure (.domain (String.ofList (encodeText .controls cs)))

/-- The host of a special scheme. -/
def parseSpecial (cs : List Char) : Except UrlError Host :=
  if cs.head? == some '[' then
    if cs.getLast? != some ']' then throw .invalidIpv6
    else .ipv6 <$> parseIpv6 ((cs.drop 1).dropLast)
  else
    let bytes := decode (String.ofList cs).toUTF8.toList
    match String.fromUTF8? (ByteArray.mk bytes.toArray) with
    | none => throw .idna
    | some text =>
      match Idna.toAscii text.toList with
      | none => throw .idna
      | some ascii =>
        if ascii.isEmpty then throw .emptyHost
        else if endsInNumber ascii.toList then .ipv4 <$> parseIpv4 ascii.toList
        else pure (.domain ascii)

end Uri
end Conveyor
