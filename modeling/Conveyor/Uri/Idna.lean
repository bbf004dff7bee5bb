import Conveyor.Uri.Punycode
import Conveyor.Unicode.Mapping
import Conveyor.Unicode.Normalize
import Conveyor.Unicode.Properties

/-!
# International domain names

A host of a special scheme is a domain name, brought to its ASCII form by the processing of
UTS #46, non-transitional, with the joiner and bidirectional checks and without the hyphen and
length checks:

1. each code point is mapped by its IDNA status (`Unicode.idnaStatus`): valid code points and
   deviations stay, mapped ones are replaced, ignored ones dropped, and a disallowed one makes
   the name invalid; the result is put in canonical composed form (NFC);
2. the name is cut into labels at full stops; a label that starts with `xn--` must decode as
   Punycode into a label with a code point beyond ASCII that is in composed form and holds only
   valid code points (and does not itself start with `xn--`);
3. no label may start with a combining mark; a zero width joiner must follow a virama, and a
   zero width non-joiner must follow a virama or stand between a letter that joins to the
   right and one that joins to the left (with only transparent ones around it);
4. if any label has a right-to-left character (bidirectional class `R`, `AL` or `AN`), every
   label must keep the bidirectional rule: it starts left-to-right (`L`) or right-to-left
   (`R`, `AL`), holds only the classes its direction allows, and ends accordingly (before any
   marks); a right-to-left label may not mix European and Arabic digits;
5. a label beyond ASCII is written `xn--` and its Punycode.

Instead of the STD3 rules, the characters that cannot stand in a host are refused after the
mapping: the control characters, space, delete and `%#/:<>?@[\]^|`.
-/

namespace Conveyor
namespace Uri
namespace Idna

open Unicode

/-- The characters that cannot stand in a host. -/
def refused (c : Char) : Bool :=
  c.toNat ≤ 0x20 || c.toNat == 0x7f || "%#/:<>?@[\\]^|".toList.contains c

/-- Map a name by the IDNA statuses of its code points; `none` if one is disallowed. -/
def mapName (cps : List Nat) : Option (Array Nat) :=
  cps.foldlM (fun acc cp => match idnaStatus cp with
    | .valid | .deviation => some (acc.push cp)
    | .mapped image => some (acc ++ image.toArray)
    | .ignored => some acc
    | .disallowed => none) #[]

/-- The code points of `xn--`. -/
def acePrefix : List Nat := ['x', 'n', '-', '-'].map Char.toNat

/-- The virama class of combining. -/
def viramaClass : Nat := 9

/-- Whether the code point before a position is a virama. -/
def afterVirama (label : Array Nat) (i : Nat) : Bool :=
  i > 0 && combiningClass (label.getD (i - 1) 0) == viramaClass

/-- The joining type of the nearest code point from `i` going by `step` (down or up) that is
not transparent, within the label. -/
def nearestJoining (label : Array Nat) (down : Bool) : Nat → Nat → Option JoiningType
  | 0, _ => none
  | fuel + 1, i =>
    if i ≥ label.size then none
    else
      let t := joiningType (label.getD i 0)
      if t == .transparent then
        if down then (if i == 0 then none else nearestJoining label down fuel (i - 1))
        else nearestJoining label down fuel (i + 1)
      else some t

/-- Whether the joiners of a label stand where they may. -/
def joinersFit (label : Array Nat) : Bool :=
  (List.range label.size).all fun i =>
    let cp := label.getD i 0
    if cp == 0x200D then afterVirama label i
    else if cp == 0x200C then
      afterVirama label i ||
        (i > 0 &&
          (match nearestJoining label true label.size (i - 1) with
            | some .left | some .dual => true
            | _ => false) &&
          (match nearestJoining label false label.size (i + 1) with
            | some .right | some .dual => true
            | _ => false))
    else true

/-- Whether a label has a right-to-left character. -/
def isRightToLeft (label : List Nat) : Bool :=
  label.any fun cp => match bidiClass cp with
    | .R | .AL | .AN => true
    | _ => false

/-- The last class of a label that is not a mark, if any. -/
def lastNonMark (label : List Nat) : Option BidiClass :=
  (label.reverse.map bidiClass).find? (· != .NSM)

/-- Whether a label keeps the bidirectional rule. -/
def keepsBidiRule (label : List Nat) : Bool :=
  match label with
  | [] => true
  | first :: _ =>
    let classes := label.map bidiClass
    match bidiClass first with
    | .L =>
      classes.all (fun c => [BidiClass.L, .EN, .ES, .CS, .ET, .ON, .BN, .NSM].contains c) &&
        (match lastNonMark label with
          | some .L | some .EN => true
          | _ => false)
    | .R | .AL =>
      classes.all (fun c => [BidiClass.R, .AL, .AN, .EN, .ES, .CS, .ET, .ON, .BN, .NSM].contains c) &&
        (match lastNonMark label with
          | some .R | some .AL | some .EN | some .AN => true
          | _ => false) &&
        !(classes.contains .EN && classes.contains .AN)
    | _ => false

/-- Whether a Punycode label decodes to an acceptable label. -/
def decodedFits (decoded : List Nat) : Bool :=
  !decoded.isEmpty && decoded.any (· ≥ 0x80) && nfc decoded == decoded &&
    decoded.all (fun cp => match idnaStatus cp with
      | .valid | .deviation => true
      | _ => false) &&
    decoded.take 4 != acePrefix

/-- A mapped label: the form its checks apply to, and its ASCII form; `none` if an `xn--`
label does not decode to an acceptable label. -/
def readLabel (label : List Nat) : Option (List Nat × List Char) :=
  if label.take 4 == acePrefix then
    let rest := label.drop 4
    if rest.any (· ≥ 0x80) then none
    else match Punycode.decode (rest.map Char.ofNat) with
      | some decoded =>
        let cps := decoded.map Char.toNat
        if decodedFits cps then some (cps, label.map Char.ofNat) else none
      | none => none
  else if label.all (· < 0x80) then some (label, label.map Char.ofNat)
  else some (label, ['x', 'n', '-', '-'] ++ Punycode.encode (label.map Char.ofNat))

/-- Whether a label passes the checks of its own: no leading mark, joiners in place. -/
def labelFits (label : List Nat) : Bool :=
  match label with
  | [] => true
  | first :: _ => !isMark first && joinersFit label.toArray

/-- The ASCII form of a domain name, or `none` if it is not a valid name. -/
def toAscii (name : List Char) : Option String := do
  let mapped ← mapName (name.map Char.toNat)
  let normal := nfc mapped.toList
  if normal.any (fun cp => refused (Char.ofNat cp)) then none
  let labels ← (normal.splitOn ('.'.toNat)).mapM readLabel
  if !labels.all (fun l => labelFits l.1) then none
  if labels.any (fun l => isRightToLeft l.1) && !labels.all (fun l => keepsBidiRule l.1) then none
  some (String.ofList (List.intercalate ['.'] (labels.map (·.2))))

end Idna
end Uri
end Conveyor
