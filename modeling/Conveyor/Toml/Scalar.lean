import Conveyor.Toml.Lexer

/-!
# Reading TOML keys and scalar values

A string, key or unquoted value is read from its characters as written, which start at a known
position of the text, so that a failure can point into it.

Strings: a basic string takes the escapes `\b \t \n \f \r \e \" \\`, `\xHH`, `\uHHHH` and
`\UHHHHHHHH` (the last three naming a Unicode scalar value); a multi-line basic string also
drops a first line break and joins a line that ends in a backslash to the next non-blank
character; literal strings take everything as it stands. No string may hold control characters
other than tabs (and line breaks, in multi-line strings).

An unquoted value is read by its first character. A sign or digit starts a number or a
date-time: digits followed by `-` or `:` are a date-time; a fraction or exponent makes a float,
whose mantissa, fraction and exponent must have digits and whose mantissa has no leading zero;
`0x`, `0o` and `0b` start an integer in that radix, which may not be signed; an underscore must
stand between two digits. `true`, `false`, `inf` and `nan` must be spelled in lower case.
Anything else is a string that was not quoted.
-/

namespace Conveyor
namespace Toml

/-- A scalar value as read: a string, a boolean, a date-time (as written), a float (its digits
without underscores) or an integer (its digits without underscores, and its radix). -/
inductive Scalar where
  | text (s : String)
  | flag (b : Bool)
  | moment (raw : String)
  | real (digits : String)
  | whole (digits : String) (radix : Nat)
deriving DecidableEq, Repr

namespace Scalar

/-- A failure at a stretch of a token that starts at `base`. -/
def faultAt (base s e : Nat) (description : String) (expected : Option (List Expected)) : Fault :=
  Fault.at ⟨base + s, base + e⟩ description expected

/-- The value of a hexadecimal digit. -/
def hexDigit? (c : Char) : Option Nat :=
  if c.isDigit then some (c.toNat - '0'.toNat)
  else if 'a' ≤ c && c ≤ 'f' then some (c.toNat - 'a'.toNat + 10)
  else if 'A' ≤ c && c ≤ 'F' then some (c.toNat - 'A'.toNat + 10)
  else none

/-- The escapes a basic string knows, for failures. -/
def escapes : List Expected :=
  ["b", "e", "f", "n", "r", "t", "u", "U", "x", "\\", "\""].map Expected.literal

/-- An escape after a backslash at `j` (before `stop`): the character and where it ends. -/
def escape (raw : Array Char) (base j stop : Nat) : Except Fault (Char × Nat) :=
  let hex (k n : Nat) : Except Fault (Char × Nat) :=
    let ds := (List.range' k n).map (raw.getD · ' ')
    let vals := ds.filterMap hexDigit?
    let v := vals.foldl (fun acc d => acc * 16 + d) 0
    if k + n ≤ stop && vals.length == n && v < 0x110000 && !(0xD800 ≤ v && v ≤ 0xDFFF) then
      .ok (Char.ofNat v, k + n)
    else .error (faultAt base k k "invalid value" (some [.words "unicode hexadecimal value"]))
  if j < stop then
    match raw.getD j ' ' with
    | 'b' => .ok ('\x08', j + 1)
    | 'e' => .ok ('\x1b', j + 1)
    | 'f' => .ok ('\x0c', j + 1)
    | 'n' => .ok ('\n', j + 1)
    | 'r' => .ok ('\r', j + 1)
    | 't' => .ok ('\t', j + 1)
    | '\\' => .ok ('\\', j + 1)
    | '"' => .ok ('"', j + 1)
    | 'x' => hex (j + 1) 2
    | 'u' => hex (j + 1) 4
    | 'U' => hex (j + 1) 8
    | _ => .error (faultAt base j j "invalid escape sequence" (some escapes))
  else .error (faultAt base j j "invalid escape sequence" (some escapes))

/-- Whether a character may stand as it is in a string (besides line breaks): a tab, or
anything printable. -/
def isPlain (c : Char) : Bool := c == '\t' || (c.toNat ≥ 0x20 && c.toNat != 0x7F)

/-- Past blanks and line breaks, after a line-ending backslash. -/
def skipBlankLines (raw : Array Char) (stop : Nat) : Nat → Nat → Nat
  | 0, i => i
  | fuel + 1, i =>
    if i < stop then
      match raw.getD i ' ' with
      | ' ' | '\t' | '\n' => skipBlankLines raw stop fuel (i + 1)
      | '\r' => if i + 1 < stop && raw.getD (i + 1) ' ' == '\n' then skipBlankLines raw stop fuel (i + 2) else i
      | _ => i
    else i

/-- Whether a backslash at `i` ends its line: only blanks after it before a line break. -/
def endsLine (raw : Array Char) (i stop : Nat) : Bool :=
  let rest := (List.range' (i + 1) (stop - (i + 1))).map (raw.getD · ' ')
  match rest.dropWhile (fun c => c == ' ' || c == '\t') with
  | '\n' :: _ => true
  | '\r' :: '\n' :: _ => true
  | _ => false

/-- How a string's characters are checked: its name in failures, the words for what it may
hold, whether it has escapes, whether it spans lines, and the quote it may not hold as is. -/
structure Kind where
  name : String
  holds : String
  escapes : Bool
  multiLine : Bool
  quote : Option Char

/-- The characters of a string body from `i` up to `stop`, decoded. -/
def body (k : Kind) (raw : Array Char) (base stop : Nat) : Nat → Nat → String → Except Fault String
  | 0, _, acc => .ok acc
  | fuel + 1, i, acc =>
    if i < stop then
      let c := raw.getD i ' '
      if k.escapes && c == '\\' then
        if k.multiLine && endsLine raw i stop then
          body k raw base stop fuel (skipBlankLines raw stop (stop - i) (i + 1)) acc
        else match escape raw base (i + 1) stop with
          | .ok (ch, j) => body k raw base stop fuel j (acc.push ch)
          | .error e => .error e
      else if k.multiLine && c == '\n' then body k raw base stop fuel (i + 1) (acc.push '\n')
      else if k.multiLine && c == '\r' && i + 1 < stop && raw.getD (i + 1) ' ' == '\n' then
        body k raw base stop fuel (i + 2) (acc.push '\n')
      else if isPlain c && k.quote != some c then body k raw base stop fuel (i + 1) (acc.push c)
      else .error (faultAt base i (i + 1) ("invalid " ++ k.name) (some [.words k.holds]))
    else .ok acc

/-- The kinds of strings by quoting. -/
def kindOf : Quoting → Kind
  | .basic => ⟨"basic string", "non-double-quote visible characters", true, false, some '"'⟩
  | .literal => ⟨"literal string", "non-single-quote visible characters", false, false, some '\''⟩
  | .multiBasic => ⟨"multi-line basic string", "non-double-quote visible characters", true, true, none⟩
  | .multiLiteral => ⟨"multi-line literal string", "non-single-quote visible characters", false, true, none⟩

/-- The delimiter of a quoting. -/
def delimiter : Quoting → List Char
  | .basic => ['"']
  | .literal => ['\'']
  | .multiBasic => ['"', '"', '"']
  | .multiLiteral => ['\'', '\'', '\'']

/-- Decode a string token (its characters, starting at `base`). -/
def string (raw : Array Char) (base : Nat) (q : Quoting) : Except Fault String :=
  let k := kindOf q
  let d := delimiter q
  let n := raw.size
  let closed := n ≥ 2 * d.length && (raw.toList.drop (n - d.length)) == d
  if !closed then
    .error (faultAt base n n ("invalid " ++ k.name) (some [.literal (String.ofList d)]))
  else
    let start := d.length
    let stop := n - d.length
    let start := if k.multiLine then
        (if raw.getD start ' ' == '\n' && start < stop then start + 1
        else if raw.getD start ' ' == '\r' && raw.getD (start + 1) ' ' == '\n' && start + 1 < stop
          then start + 2
        else start)
      else start
    body k raw base stop (stop - start + 1) start ""

/-- Whether a character may stand in a bare key. -/
def isBare (c : Char) : Bool :=
  ('a' ≤ c && c ≤ 'z') || ('A' ≤ c && c ≤ 'Z') || c.isDigit || c == '-' || c == '_'

/-- What a bare key may hold, for failures. -/
def bareExpected : List Expected :=
  [.words "letters", .words "numbers", .literal "-", .literal "_"]

/-- Decode a key piece (its characters, starting at `base`). -/
def key (raw : Array Char) (base : Nat) : Option Quoting → Except Fault String
  | none =>
    if raw.isEmpty then .error (faultAt base 0 0 "invalid unquoted key" (some bareExpected))
    else match (List.range raw.size).find? (fun i => !isBare (raw.getD i ' ')) with
      | some i => .error (faultAt base i (i + 1) "invalid unquoted key" (some bareExpected))
      | none => .ok (String.ofList raw.toList)
  | some .multiBasic =>
    .error (faultAt base 0 raw.size "keys cannot be multi-line basic strings"
      (some [.words "basic string", .words "literal string"]))
  | some .multiLiteral =>
    .error (faultAt base 0 raw.size "keys cannot be multi-line literal strings"
      (some [.words "basic string", .words "literal string"]))
  | some q => string raw base q

/-- What a number is being read as. -/
inductive NumberKind where
  | float
  | integer (radix : Nat)
deriving DecidableEq

/-- Whether a character is a digit of a number of a kind, as underscores need on both sides:
decimal for floats, hexadecimal for any integer. -/
def isAnyDigit (c : Char) : NumberKind → Bool
  | .float => c.isDigit
  | .integer _ => (hexDigit? c).isSome

/-- An unquoted value that is not a value: a string without quotes. -/
def unquoted (raw : List Char) (base : Nat) : Except Fault Scalar :=
  .error (faultAt base 0 raw.length "string values must be quoted" (some [.words "literal string"]))

/-- The pieces of a text split at underscores, each with where it starts. -/
def underscoreParts (cs : List Char) (start : Nat) : List (List Char × Nat) :=
  let (parts, cur, curStart, _) := cs.foldl (fun (acc : List (List Char × Nat) × List Char × Nat × Nat) c =>
    let (parts, cur, curStart, i) := acc
    if c == '_' then (parts ++ [(cur, curStart)], [], i + 1, i + 1)
    else (parts, cur ++ [c], curStart, i + 1)) ([], [], start, start)
  parts ++ [(cur, curStart)]

/-- The digits of a number from position `s` of its token (of length `rawLen`), checking that
each underscore stands between two digits. -/
def digitsFrom (raw : List Char) (base s : Nat) (kind : NumberKind) : Except Fault String :=
  let stream := raw.drop s
  let n := raw.length
  let misplaced (i : Nat) : Except Fault String :=
    .error (faultAt base i (i + 1) "`_` may only go between digits" (some []))
  if !stream.contains '_' then .ok (String.ofList stream)
  else if stream.head? == some '_' then misplaced s
  else if stream.length > 1 && stream.getLast? == some '_' then misplaced (s + stream.length - 1)
  else
    let bad := (underscoreParts stream s).findSome? fun (part, ps) =>
      let pe := ps + part.length
      if ps > 0 && !isAnyDigit (part.head?.getD '0') kind then some (ps - 1)
      else if part.length > 1 && pe < n && !isAnyDigit (part.getLast?.getD '0') kind then some pe
      else if part.isEmpty && ps != 0 && pe != n then some ps
      else none
    match bad with
    | some i => misplaced i
    | none => .ok (String.ofList (stream.filter (· != '_')))

/-- A run of digits and underscores from `i` of `v` (which starts at `vstart` of its token),
which must hold a digit, and no leading zero unless `zeroOk`; gives where it ends. -/
def decimalRun (v : List Char) (base vstart i : Nat) (zeroOk : Bool) (description : String) :
    Except Fault Nat :=
  let run := (v.drop i).takeWhile fun c => c.isDigit || c == '_'
  let count := (run.filter Char.isDigit).length
  if count == 0 then .error (faultAt base (vstart + i) (vstart + i) description (some [.words "digits"]))
  else if count ≥ 2 && run.head? == some '0' && !zeroOk then
    .error (faultAt base (vstart + i) (vstart + i + 1) "unexpected leading zero" (some []))
  else .ok (i + run.length)

/-- Check the shape of a float `v` (which starts at `vstart` of a token of length `n`):
mantissa, then an optional fraction, then an optional exponent, and nothing more. -/
def checkFloat (v : List Char) (base vstart n : Nat) : Except Fault Unit := do
  let i ← decimalRun v base vstart 0 false "invalid mantissa"
  let i ← if v[i]? == some '.' then decimalRun v base vstart (i + 1) true "invalid fraction" else pure i
  let i ← if v[i]? == some 'e' || v[i]? == some 'E' then
      let j := if v[i + 1]? == some '+' || v[i + 1]? == some '-' then i + 2 else i + 1
      decimalRun v base vstart j true "invalid exponent"
    else pure i
  if i < v.length then throw (faultAt base (vstart + i) n "invalid float" (some []))

/-- A leading zero is refused. -/
def checkNoLeadingZero (v : List Char) (base vstart : Nat) : Except Fault Unit :=
  if v.head? == some '0' then .error (faultAt base vstart (vstart + 1) "unexpected leading zero" (some []))
  else .ok ()

/-- A value starting with digits after position `vstart`: an integer, a float or a date-time. -/
def numberLike (raw : List Char) (base vstart : Nat) : Except Fault Scalar := do
  let v := raw.drop vstart
  let digits := v.takeWhile Char.isDigit
  if digits.length == v.length then
    checkNoLeadingZero v base vstart
    return .whole (← digitsFrom raw base 0 (.integer 10)) 10
  let rest := v.drop digits.length
  match rest with
  | '-' :: _ | ':' :: _ => pure (.moment (String.ofList raw))
  | _ =>
    if rest.contains ' ' then unquoted raw base
    else if rest.any (fun c => c == '.' || c == 'e' || c == 'E') then
      checkFloat v base vstart raw.length
      return .real (← digitsFrom raw base 0 .float)
    else if rest.head? == some '_' then
      checkNoLeadingZero v base vstart
      return .whole (← digitsFrom raw base 0 (.integer 10)) 10
    else unquoted raw base

/-- The digits of an integer with a radix, from `s`: no sign, only digits of the radix (or
underscores). -/
def checkRadix (raw : List Char) (base s radix : Nat) : Except Fault Unit := do
  let stream := raw.drop s
  let signed := stream.head? == some '+' || stream.head? == some '-'
  if signed then
    let pos := (raw.findIdx? fun c => c == '+' || c == '-').getD s
    throw (faultAt base pos (pos + 1) "unexpected sign" (some []))
  let name := if radix == 16 then "invalid hexadecimal number"
    else if radix == 8 then "invalid octal number" else "invalid binary number"
  match stream.zipIdx.find? (fun (c, _) => c != '_' && !(hexDigit? c).any (· < radix)) with
  | some (_, j) => throw (faultAt base (s + j) (s + j) name none)
  | none => pure ()

/-- A value starting with a zero after position `vstart` (after a sign if `signed`). -/
def zeroPrefix (raw : List Char) (base vstart : Nat) (signed : Bool) : Except Fault Scalar := do
  let v := raw.drop vstart
  if v.length == 1 then return .whole (← digitsFrom raw base 0 (.integer 10)) 10
  let radixed (radix : Nat) (lower : String) : Except Fault Scalar := do
    if signed then throw (faultAt base 0 1 "integers with a radix cannot be signed" (some []))
    if v[1]? != lower.toList[1]? then
      throw (faultAt base vstart (vstart + 2) "radix must be lowercase" (some [.literal lower]))
    checkRadix raw base (vstart + 2) radix
    return .whole (← digitsFrom raw base (vstart + 2) (.integer radix)) radix
  match v[1]? with
  | some 'x' | some 'X' => radixed 16 "0x"
  | some 'o' | some 'O' => radixed 8 "0o"
  | some 'b' | some 'B' => radixed 2 "0b"
  | some 'd' | some 'D' =>
    if signed then throw (faultAt base 0 1 "redundant numeric sign" (some []))
    throw (faultAt base vstart (vstart + 2) "redundant integer number prefix" (some []))
  | _ => numberLike raw base vstart

/-- A word that must be spelled exactly. -/
def symbol (raw : List Char) (base : Nat) (word : String) (result : Scalar) (invalid : String) :
    Except Fault Scalar :=
  if String.ofList raw == word then .ok result
  else if raw.contains ' ' then unquoted raw base
  else .error (faultAt base 0 raw.length invalid (some [.literal word]))

/-- A float from its whole token. -/
def floatToken (raw : List Char) (base : Nat) : Except Fault Scalar := do
  checkFloat raw base 0 raw.length
  return .real (← digitsFrom raw base 0 .float)

/-- A value after a sign. -/
def afterSign (raw : List Char) (base : Nat) : Except Fault Scalar :=
  let v := raw.drop 1
  let special (word : String) : Except Fault Scalar :=
    if String.ofList v == word then .ok (.real (String.ofList raw))
    else .error (faultAt base 1 raw.length "invalid float" (some [.literal word]))
  match v with
  | [] => unquoted raw base
  | '+' :: _ | '-' :: _ => .error (faultAt base 1 2 "redundant numeric sign" (some []))
  | '_' :: _ => numberLike raw base 1
  | '0' :: _ => zeroPrefix raw base 1 true
  | '.' :: _ => floatToken raw base
  | 'i' :: _ | 'I' :: _ => special "inf"
  | 'n' :: _ | 'N' :: _ => special "nan"
  | c :: _ => if c.isDigit then numberLike raw base 1 else unquoted raw base

/-- Decode an unquoted value (its characters, starting at `base`). -/
def unquotedValue (raw : List Char) (base : Nat) : Except Fault Scalar :=
  match raw with
  | [] => unquoted raw base
  | '+' :: _ | '-' :: _ => afterSign raw base
  | '_' :: _ => numberLike raw base 0
  | '0' :: _ => zeroPrefix raw base 0 false
  | '.' :: _ => floatToken raw base
  | 't' :: _ | 'T' :: _ => symbol raw base "true" (.flag true) "invalid boolean"
  | 'f' :: _ | 'F' :: _ => symbol raw base "false" (.flag false) "invalid boolean"
  | 'i' :: _ | 'I' :: _ => symbol raw base "inf" (.real "inf") "invalid float"
  | 'n' :: _ | 'N' :: _ => symbol raw base "nan" (.real "nan") "invalid float"
  | c :: _ => if c.isDigit then numberLike raw base 0 else unquoted raw base

end Scalar

/-- Decode a scalar token: a string by its quoting, or an unquoted value. -/
def Scalar.read (raw : Array Char) (base : Nat) : Option Quoting → Except Fault Scalar
  | some q => Scalar.text <$> Scalar.string raw base q
  | none => Scalar.unquotedValue raw.toList base

end Toml
end Conveyor
