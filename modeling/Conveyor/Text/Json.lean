import Conveyor.Text.Decimal
import Conveyor.Task.Id

/-!
# JSON values

A JSON value keeps the order of its object members, as written. Numbers are integers or
doubles; a double always prints with a point or an exponent (`2.0`, `1e+300`), so it reads
back as a double, and a non-finite double prints as `null`.

- `Json.compact` writes without blanks; `Json.pretty` indents by two blanks, one member or
  element per line, with `": "` after a key.
- `Json.parse` reads a document: one value between optional blanks. Its failures carry the
  position of the offending byte as line and column.
-/

namespace Conveyor

/-- A JSON document. -/
inductive Json where
  | null
  | bool (b : Bool)
  | int (i : Int)
  | float (x : Float)
  | str (s : String)
  | arr (elems : List Json)
  | obj (members : List (String × Json))
deriving Inhabited

namespace Json

/-- Doubles are written as a JSON writer writes them: shortest digits, positional while the
point stays within sixteen places, and `e+` or `e-` before an exponent. -/
def floatStyle : Decimal.FloatStyle := ⟨16, -5, "+", true⟩

/-- The text of a double in a document. -/
def floatText (x : Float) : String :=
  if x.isNaN || x.isInf then "null" else Decimal.render floatStyle x

/-- Four lower-case hexadecimal digits. -/
def hex4 (n : Nat) : String :=
  String.ofList ((List.range 4).reverse.map fun i => Uuid.hexDigit ((n / Nat.pow 16 i) % 16))

/-- One character inside a quoted string: quote, backslash and control characters escaped. -/
def escapeChar (c : Char) : String :=
  match c with
  | '"' => "\\\""
  | '\\' => "\\\\"
  | '\n' => "\\n"
  | '\r' => "\\r"
  | '\t' => "\\t"
  | '\x08' => "\\b"
  | '\x0c' => "\\f"
  | c => if c.toNat < 0x20 then "\\u" ++ hex4 c.toNat else c.toString

/-- A quoted string. -/
def quote (s : String) : String :=
  "\"" ++ String.join (s.toList.map escapeChar) ++ "\""

mutual
/-- The compact text of a value. -/
def compact : Json → String
  | .null => "null"
  | .bool b => if b then "true" else "false"
  | .int i => toString i
  | .float x => floatText x
  | .str s => quote s
  | .arr xs => "[" ++ ",".intercalate (compactList xs) ++ "]"
  | .obj ms => "\x7b" ++ ",".intercalate (compactMembers ms) ++ "\x7d"
/-- The compact texts of elements. -/
def compactList : List Json → List String
  | [] => []
  | x :: xs => compact x :: compactList xs
/-- The compact texts of members. -/
def compactMembers : List (String × Json) → List String
  | [] => []
  | (k, v) :: ms => (quote k ++ ":" ++ compact v) :: compactMembers ms
end

mutual
/-- The indented text of a value whose first line starts at depth `d`. -/
def prettyAt (d : Nat) : Json → String
  | .arr [] => "[]"
  | .obj [] => "\x7b\x7d"
  | .arr xs =>
    "[\n" ++ ",\n".intercalate (prettyList (d + 1) xs) ++ "\n" ++ indent d ++ "]"
  | .obj ms =>
    "\x7b\n" ++ ",\n".intercalate (prettyMembers (d + 1) ms) ++ "\n" ++ indent d ++ "\x7d"
  | v => compactLeaf v
/-- Indented elements. -/
def prettyList (d : Nat) : List Json → List String
  | [] => []
  | x :: xs => (indent d ++ prettyAt d x) :: prettyList d xs
/-- Indented members. -/
def prettyMembers (d : Nat) : List (String × Json) → List String
  | [] => []
  | (k, v) :: ms => (indent d ++ quote k ++ ": " ++ prettyAt d v) :: prettyMembers d ms
/-- Blanks for a depth. -/
def indent (d : Nat) : String := String.ofList (List.replicate (2 * d) ' ')
/-- The text of a value without elements or members. -/
def compactLeaf : Json → String
  | .null => "null"
  | .bool b => if b then "true" else "false"
  | .int i => toString i
  | .float x => floatText x
  | .str s => quote s
  | _ => ""
end

/-- The indented text of a document. -/
def pretty (v : Json) : String := prettyAt 0 v

/-- The member of an object under a key, the first one if it repeats. -/
def get? (v : Json) (key : String) : Option Json :=
  match v with
  | .obj ms => (ms.find? (·.1 == key)).map (·.2)
  | _ => none

/-! ## Reading -/

/-- Why a document could not be read. -/
inductive SyntaxFault where
  | eofValue | eofString | eofList | eofObject
  | expectedValue | expectedColon | expectedListComma | expectedObjectComma
  | expectedIdent | keyMustBeString | invalidNumber | numberOutOfRange
  | invalidEscape | invalidUnicode | controlCharacter | trailingCharacters
  | recursionLimit
deriving DecidableEq, Repr

/-- The wording of a reading failure. -/
def SyntaxFault.text : SyntaxFault → String
  | .eofValue => "EOF while parsing a value"
  | .eofString => "EOF while parsing a string"
  | .eofList => "EOF while parsing a list"
  | .eofObject => "EOF while parsing an object"
  | .expectedValue => "expected value"
  | .expectedColon => "expected `:`"
  | .expectedListComma => "expected `,` or `]`"
  | .expectedObjectComma => "expected `,` or `\x7d`"
  | .expectedIdent => "expected ident"
  | .keyMustBeString => "key must be a string"
  | .invalidNumber => "invalid number"
  | .numberOutOfRange => "number out of range"
  | .invalidEscape => "invalid escape"
  | .invalidUnicode => "invalid unicode code point"
  | .controlCharacter => "control character (\\u0000-\\u001F) found while parsing a string"
  | .trailingCharacters => "trailing characters"
  | .recursionLimit => "recursion limit exceeded"

/-- A reading failure at a byte offset of the input. -/
structure ParseFault where
  fault : SyntaxFault
  offset : Nat
deriving Repr

/-- Line and column of a byte offset: the line counts newlines before it, the column the
bytes since the last newline. -/
def lineColumn (bytes : List UInt8) (offset : Nat) : Nat × Nat :=
  let before := bytes.take offset
  let line := 1 + before.count 10
  let col := (before.reverse.takeWhile (· != 10)).length
  (line, col)

/-- The message of a reading failure, with its position. -/
def ParseFault.message (e : ParseFault) (input : String) : String :=
  let (line, col) := lineColumn input.toUTF8.toList e.offset
  e.fault.text ++ " at line " ++ toString line ++ " column " ++ toString col

/-- The reader's state: the bytes left and how many were consumed. -/
structure Cursor where
  rest : List UInt8
  pos : Nat

/-- A reading step. -/
abbrev Reader (α : Type) := Cursor → Except ParseFault (α × Cursor)

/-- Fail at the byte just consumed. -/
def failHere (f : SyntaxFault) (c : Cursor) : Except ParseFault α :=
  .error ⟨f, c.pos⟩

/-- Fail at the next byte (its one-based column). -/
def failNext (f : SyntaxFault) (c : Cursor) : Except ParseFault α :=
  .error ⟨f, if c.rest.isEmpty then c.pos else c.pos + 1⟩

/-- Skip blanks: space, tab, newline and carriage return. -/
def skipBlanks (c : Cursor) : Cursor :=
  let n := (c.rest.takeWhile fun b => b == 32 || b == 9 || b == 10 || b == 13).length
  ⟨c.rest.drop n, c.pos + n⟩

/-- The value of a hexadecimal digit. -/
def hexValue? (b : UInt8) : Option Nat :=
  if 48 ≤ b && b ≤ 57 then some (b.toNat - 48)
  else if 97 ≤ b && b ≤ 102 then some (b.toNat - 87)
  else if 65 ≤ b && b ≤ 70 then some (b.toNat - 55)
  else none

/-- Four hexadecimal digits after `\u`. -/
def readHex4 (c : Cursor) : Except ParseFault (Nat × Cursor) :=
  match c.rest with
  | a :: b :: d :: e :: rest =>
    match hexValue? a, hexValue? b, hexValue? d, hexValue? e with
    | some w, some x, some y, some z => .ok (((w * 16 + x) * 16 + y) * 16 + z, ⟨rest, c.pos + 4⟩)
    | _, _, _, _ => .error ⟨.invalidEscape, c.pos + 1⟩
  | _ => .error ⟨.eofString, c.pos + c.rest.length⟩

/-- The bytes of a string up to its closing quote, escapes decoded into UTF-8. -/
def readStringBytes (fuel : Nat) (acc : Array UInt8) (c : Cursor) :
    Except ParseFault (Array UInt8 × Cursor) :=
  match fuel with
  | 0 => .error ⟨.eofString, c.pos⟩
  | fuel + 1 =>
    match c.rest with
    | [] => .error ⟨.eofString, c.pos⟩
    | 34 :: rest => .ok (acc, ⟨rest, c.pos + 1⟩)
    | 92 :: rest =>
      let c1 : Cursor := ⟨rest, c.pos + 1⟩
      match rest with
      | [] => .error ⟨.eofString, c1.pos⟩
      | e :: rest' =>
        let c2 : Cursor := ⟨rest', c1.pos + 1⟩
        let simple (b : UInt8) := readStringBytes fuel (acc.push b) c2
        if e == 34 then simple 34 else if e == 92 then simple 92 else if e == 47 then simple 47
        else if e == 98 then simple 8 else if e == 102 then simple 12 else if e == 110 then simple 10
        else if e == 114 then simple 13 else if e == 116 then simple 9
        else if e == 117 then
          match readHex4 c2 with
          | .error err => .error err
          | .ok (n, c3) =>
            if 0xD800 ≤ n && n < 0xDC00 then
              match c3.rest with
              | 92 :: 117 :: rest3 =>
                match readHex4 ⟨rest3, c3.pos + 2⟩ with
                | .error err => .error err
                | .ok (lo, c4) =>
                  if 0xDC00 ≤ lo && lo < 0xE000 then
                    let cp := 0x10000 + (n - 0xD800) * 0x400 + (lo - 0xDC00)
                    readStringBytes fuel (acc ++ (Char.ofNat cp).toString.toUTF8.toList.toArray) c4
                  else .error ⟨.invalidUnicode, c4.pos⟩
              | _ => .error ⟨.invalidUnicode, c3.pos⟩
            else if 0xDC00 ≤ n && n < 0xE000 then .error ⟨.invalidUnicode, c3.pos⟩
            else readStringBytes fuel (acc ++ (Char.ofNat n).toString.toUTF8.toList.toArray) c3
        else .error ⟨.invalidEscape, c2.pos⟩
    | b :: rest =>
      if b < 0x20 then .error ⟨.controlCharacter, c.pos + 1⟩
      else readStringBytes fuel (acc.push b) ⟨rest, c.pos + 1⟩

/-- A string after its opening quote. -/
def readString (c : Cursor) : Except ParseFault (String × Cursor) :=
  match readStringBytes (c.rest.length + 1) #[] c with
  | .error e => .error e
  | .ok (bytes, c') =>
    match String.fromUTF8? (ByteArray.mk bytes) with
    | some s => .ok (s, c')
    | none => .error ⟨.invalidUnicode, c'.pos⟩

/-- Whether a byte is a decimal digit. -/
def isDigit (b : UInt8) : Bool := 48 ≤ b && b ≤ 57

/-- The parts of a number as written: sign, digits before and after the point, and exponent. -/
structure Numeral where
  negative : Bool
  whole : List UInt8
  fraction : List UInt8
  pointed : Bool
  exponent : Int
  raised : Bool

/-- The value of decimal digits. -/
def digitsValue (ds : List UInt8) : Nat := ds.foldl (fun acc d => acc * 10 + (d.toNat - 48)) 0

/-- Scan the syntax of a number starting at the cursor. -/
def scanNumber (c : Cursor) : Except ParseFault (Numeral × Cursor) :=
  let (neg, c1) : Bool × Cursor := match c.rest with
    | 45 :: rest => (true, ⟨rest, c.pos + 1⟩)
    | _ => (false, c)
  let intDigits := c1.rest.takeWhile isDigit
  if intDigits.isEmpty then failNext .invalidNumber c1 else
  if intDigits.length > 1 && intDigits.head? == some 48 then
    .error ⟨.invalidNumber, c1.pos + 2⟩ else
  let c2 : Cursor := ⟨c1.rest.drop intDigits.length, c1.pos + intDigits.length⟩
  let (fracDigits, c3, fracOk) : List UInt8 × Cursor × Bool := match c2.rest with
    | 46 :: rest =>
      let ds := rest.takeWhile isDigit
      (ds, ⟨rest.drop ds.length, c2.pos + 1 + ds.length⟩, !ds.isEmpty)
    | _ => ([], c2, true)
  if !fracOk then failNext .invalidNumber c3 else
  let hasFrac := match c2.rest with | 46 :: _ => true | _ => false
  let (expVal, c4, expOk, hasExp) : Int × Cursor × Bool × Bool := match c3.rest with
    | b :: rest =>
      if b == 101 || b == 69 then
        let (sgn, rest', used) : Int × List UInt8 × Nat := match rest with
          | 43 :: r => (1, r, 1)
          | 45 :: r => (-1, r, 1)
          | r => (1, r, 0)
        let ds := rest'.takeWhile isDigit
        (sgn * Int.ofNat (digitsValue ds), ⟨rest'.drop ds.length, c3.pos + 1 + used + ds.length⟩,
          !ds.isEmpty, true)
      else (0, c3, true, false)
    | [] => (0, c3, true, false)
  if !expOk then failNext .invalidNumber c4 else
  .ok (⟨neg, intDigits, fracDigits, hasFrac, expVal, hasExp⟩, c4)

/-- The double nearest to `m · 10 ^ e`. A value whose digits reach beyond the ten-thousandth
power of ten either way is infinite or zero, without computing the power. -/
def scaled (m : Nat) (e : Int) : Float :=
  let size : Int := (toString m).length
  if m == 0 then 0
  else if e + size > 400 then 1.0 / 0.0
  else if e + size < -400 then 0
  else if e ≥ 0 then Float.ofScientific m false e.toNat
  else Float.ofScientific m true (-e).toNat

/-- The value of a number: an integer when it has neither point nor exponent and fits 64 bits,
else the nearest double; `none` for a double beyond the largest finite one. -/
def Numeral.value? (n : Numeral) : Option Json :=
  if !n.pointed && !n.raised then
    let v := digitsValue n.whole
    if n.negative then
      if v == 0 then some (.float (-0.0))
      else if v ≤ Nat.pow 2 63 then some (.int (-(Int.ofNat v)))
      else some (.float (-(scaled v 0)))
    else if v < Nat.pow 2 64 then some (.int (Int.ofNat v))
    else some (.float (scaled v 0))
  else
    let x := scaled (digitsValue (n.whole ++ n.fraction)) (n.exponent - Int.ofNat n.fraction.length)
    if x.isInf then none else some (.float (if n.negative then -x else x))

/-- A number starting at the cursor. -/
def readNumber (c : Cursor) : Except ParseFault (Json × Cursor) :=
  match scanNumber c with
  | .error e => .error e
  | .ok (n, c') =>
    match n.value? with
    | some v => .ok (v, c')
    | none => .error ⟨.numberOutOfRange, c'.pos⟩

/-- Expect literal bytes (the rest of `true`, `false` or `null`). -/
def expectWord (word : List UInt8) (v : Json) (c : Cursor) : Except ParseFault (Json × Cursor) :=
  let rec go : List UInt8 → Cursor → Except ParseFault (Json × Cursor)
    | [], c => .ok (v, c)
    | w :: ws, c => match c.rest with
      | b :: rest => if b == w then go ws ⟨rest, c.pos + 1⟩ else .error ⟨.expectedIdent, c.pos + 1⟩
      | [] => .error ⟨.eofValue, c.pos⟩
  go word c

/-! ### Skipping a value

A skipped value is checked for its syntax only: the escapes of its strings must be well formed,
but need not name characters; its numbers may lie beyond the doubles; and its nesting has no
bound, as the skip keeps the open brackets in a list instead of recursing. -/

/-- Skip a string after its opening quote. -/
def skipString (fuel : Nat) (c : Cursor) : Except ParseFault Cursor :=
  match fuel with
  | 0 => .error ⟨.eofString, c.pos⟩
  | fuel + 1 =>
    match c.rest with
    | [] => .error ⟨.eofString, c.pos⟩
    | 34 :: rest => .ok ⟨rest, c.pos + 1⟩
    | 92 :: rest =>
      match rest with
      | [] => .error ⟨.eofString, c.pos + 1⟩
      | e :: rest' =>
        let c2 : Cursor := ⟨rest', c.pos + 2⟩
        if e == 34 || e == 92 || e == 47 || e == 98 || e == 102 || e == 110 || e == 114 ||
            e == 116 then skipString fuel c2
        else if e == 117 then
          match readHex4 c2 with
          | .ok (_, c3) => skipString fuel c3
          | .error err => .error err
        else .error ⟨.invalidEscape, c2.pos⟩
    | b :: rest =>
      if b < 0x20 then .error ⟨.controlCharacter, c.pos + 1⟩
      else skipString fuel ⟨rest, c.pos + 1⟩

/-- Where a skip stands: before a value, before a key of an object, or after a value (`opened`
when right after an opening bracket). -/
inductive SkipAt where
  | value
  | key
  | after (opened : Bool)

/-- Skip inside the open brackets `stack` (innermost first). -/
def skipLoop : Nat → List UInt8 → SkipAt → Cursor → Except ParseFault Cursor
  | 0, _, _, c => .error ⟨.eofValue, c.pos⟩
  | fuel + 1, stack, .value, c =>
    let c := skipBlanks c
    match c.rest with
    | [] => .error ⟨.eofValue, c.pos⟩
    | b :: rest =>
      let c1 : Cursor := ⟨rest, c.pos + 1⟩
      if b == 91 || b == 123 then skipLoop fuel (b :: stack) (.after true) c1
      else
        let scalar : Except ParseFault Cursor :=
          if b == 110 then (expectWord [117, 108, 108] .null c1).map (·.2)
          else if b == 116 then (expectWord [114, 117, 101] .null c1).map (·.2)
          else if b == 102 then (expectWord [97, 108, 115, 101] .null c1).map (·.2)
          else if b == 34 then skipString (rest.length + 1) c1
          else if b == 45 || isDigit b then (scanNumber c).map (·.2)
          else .error ⟨.expectedValue, c.pos + 1⟩
        match scalar, stack with
        | .error e, _ => .error e
        | .ok c2, [] => .ok c2
        | .ok c2, _ => skipLoop fuel stack (.after false) c2
  | fuel + 1, stack, .key, c =>
    let c := skipBlanks c
    match c.rest with
    | [] => .error ⟨.eofObject, c.pos⟩
    | 34 :: rest =>
      match skipString (rest.length + 1) ⟨rest, c.pos + 1⟩ with
      | .error e => .error e
      | .ok c2 =>
        let c3 := skipBlanks c2
        match c3.rest with
        | [] => .error ⟨.eofObject, c3.pos⟩
        | 58 :: rest3 => skipLoop fuel stack .value ⟨rest3, c3.pos + 1⟩
        | _ => .error ⟨.expectedColon, c3.pos + 1⟩
    | _ => .error ⟨.keyMustBeString, c.pos + 1⟩
  | fuel + 1, stack, .after opened, c =>
    let c := skipBlanks c
    match stack with
    | [] => .ok c
    | frame :: outer =>
      let inList := frame == 91
      match c.rest with
      | [] => .error ⟨if inList then .eofList else .eofObject, c.pos⟩
      | b :: rest =>
        let c1 : Cursor := ⟨rest, c.pos + 1⟩
        if (inList && b == 93) || (!inList && b == 125) then
          match outer with
          | [] => .ok c1
          | _ => skipLoop fuel outer (.after false) c1
        else if opened then skipLoop fuel stack (if inList then .value else .key) c
        else if b == 44 then skipLoop fuel stack (if inList then .value else .key) c1
        else .error ⟨if inList then .expectedListComma else .expectedObjectComma, c.pos + 1⟩

/-- Skip one value at the cursor. -/
def skipValue (c : Cursor) : Except ParseFault Cursor :=
  skipLoop (2 * c.rest.length + 2) [] .value c

/-! ### Reading by shape -/

/-- Which parts of a document are read. A `whole` value is read as it stands. A `record` is an
object whose listed members are read by their shapes while any other member is skipped; written
as a list instead, its elements are its listed members in order. A `list` has elements of one
shape. A value of another form than its shape expects is read whole. -/
inductive Shape where
  | whole
  | record (fields : List (String × Shape))
  | list (elem : Shape)

/-- The shape of a member of a record, if it is listed. -/
def Shape.field? (fields : List (String × Shape)) (key : String) : Option Shape :=
  (fields.find? (·.1 == key)).map (·.2)

/-- The shape of the `i`-th element of a list read as `shape`. -/
def Shape.element (shape : Shape) (i : Nat) : Shape :=
  match shape with
  | .list elem => elem
  | .record fields => ((fields.map (·.2))[i]?).getD .whole
  | .whole => .whole

/-- A list read as `shape`: a record's elements become its members when there are as many as
it lists. -/
def Shape.finishList (shape : Shape) (elems : List Json) : Json :=
  match shape with
  | .record fields =>
    if elems.length == fields.length then .obj ((fields.map (·.1)).zip elems) else .arr elems
  | _ => .arr elems

mutual
/-- A value at the cursor, read by `shape`, blanks before it skipped; `depth` is how many
brackets may still open, `fuel` bounds the steps. -/
def readValue (fuel depth : Nat) (shape : Shape) (c : Cursor) : Except ParseFault (Json × Cursor) :=
  let c := skipBlanks c
  match fuel with
  | 0 => .error ⟨.eofValue, c.pos⟩
  | fuel + 1 =>
    match c.rest with
    | [] => .error ⟨.eofValue, c.pos⟩
    | b :: rest =>
      let c1 : Cursor := ⟨rest, c.pos + 1⟩
      if b == 110 then expectWord [117, 108, 108] .null c1
      else if b == 116 then expectWord [114, 117, 101] (.bool true) c1
      else if b == 102 then expectWord [97, 108, 115, 101] (.bool false) c1
      else if b == 34 then
        match readString c1 with
        | .ok (s, c2) => .ok (.str s, c2)
        | .error e => .error e
      else if b == 91 || b == 123 then
        if depth ≤ 1 then .error ⟨.recursionLimit, c.pos + 1⟩
        else if b == 91 then readElems fuel (depth - 1) shape 0 [] c1
        else
          match shape with
          | .record fields => readMembers fuel (depth - 1) (some fields) [] true c1
          | _ => readMembers fuel (depth - 1) none [] true c1
      else if b == 45 || isDigit b then readNumber c
      else .error ⟨.expectedValue, c.pos + 1⟩
/-- The elements of a list read as `shape`, after `[` or a comma; `i` elements read so far. -/
def readElems (fuel depth : Nat) (shape : Shape) (i : Nat) (acc : List Json) (c : Cursor) :
    Except ParseFault (Json × Cursor) :=
  let c := skipBlanks c
  match fuel with
  | 0 => .error ⟨.eofList, c.pos⟩
  | fuel + 1 =>
    match c.rest with
    | [] => .error ⟨.eofList, c.pos⟩
    | 93 :: rest =>
      if i == 0 then .ok (shape.finishList acc.reverse, ⟨rest, c.pos + 1⟩)
      else .error ⟨.expectedValue, c.pos + 1⟩
    | _ =>
      match readValue fuel depth (shape.element i) c with
      | .error e => .error e
      | .ok (v, c2) =>
        let c3 := skipBlanks c2
        match c3.rest with
        | [] => .error ⟨.eofList, c3.pos⟩
        | 44 :: rest => readElems fuel depth shape (i + 1) (v :: acc) ⟨rest, c3.pos + 1⟩
        | 93 :: rest => .ok (shape.finishList (v :: acc).reverse, ⟨rest, c3.pos + 1⟩)
        | _ => .error ⟨.expectedListComma, c3.pos + 1⟩
/-- The members of an object after `{` or a comma: all of them read whole when `fields` is
`none`, else the listed ones read by their shapes and the others skipped. -/
def readMembers (fuel depth : Nat) (fields : Option (List (String × Shape)))
    (acc : List (String × Json)) (first : Bool) (c : Cursor) : Except ParseFault (Json × Cursor) :=
  let c := skipBlanks c
  match fuel with
  | 0 => .error ⟨.eofObject, c.pos⟩
  | fuel + 1 =>
    match c.rest with
    | [] => .error ⟨.eofObject, c.pos⟩
    | 125 :: rest =>
      if first then .ok (.obj acc.reverse, ⟨rest, c.pos + 1⟩)
      else .error ⟨.keyMustBeString, c.pos + 1⟩
    | 34 :: rest =>
      match readString ⟨rest, c.pos + 1⟩ with
      | .error e => .error e
      | .ok (k, c2) =>
        let c3 := skipBlanks c2
        match c3.rest with
        | [] => .error ⟨.eofObject, c3.pos⟩
        | 58 :: rest3 =>
          let member : Except ParseFault (Option Json × Cursor) :=
            match fields with
            | none => (readValue fuel depth .whole ⟨rest3, c3.pos + 1⟩).map fun (v, c') => (some v, c')
            | some fs =>
              match Shape.field? fs k with
              | some sh => (readValue fuel depth sh ⟨rest3, c3.pos + 1⟩).map fun (v, c') => (some v, c')
              | none => (skipValue ⟨rest3, c3.pos + 1⟩).map fun c' => (none, c')
          match member with
          | .error e => .error e
          | .ok (v, c4) =>
            let acc := match v with
              | some v => (k, v) :: acc
              | none => acc
            let c5 := skipBlanks c4
            match c5.rest with
            | [] => .error ⟨.eofObject, c5.pos⟩
            | 44 :: rest5 => readMembers fuel depth fields acc false ⟨rest5, c5.pos + 1⟩
            | 125 :: rest5 => .ok (.obj acc.reverse, ⟨rest5, c5.pos + 1⟩)
            | _ => .error ⟨.expectedObjectComma, c5.pos + 1⟩
        | _ => .error ⟨.expectedColon, c3.pos + 1⟩
    | _ => .error ⟨.keyMustBeString, c.pos + 1⟩
end

/-- Read a whole document by a shape: one value between optional blanks, with at most 127
brackets open at once. -/
def parseShaped (shape : Shape) (input : String) : Except ParseFault Json :=
  let bytes := input.toUTF8.toList
  let c : Cursor := ⟨bytes, 0⟩
  match readValue (2 * bytes.length + 2) 128 shape c with
  | .error e => .error e
  | .ok (v, c') =>
    let c'' := skipBlanks c'
    if c''.rest.isEmpty then .ok v else .error ⟨.trailingCharacters, c''.pos + 1⟩

/-- Read a whole document. -/
def parse (input : String) : Except ParseFault Json := parseShaped .whole input

end Json
end Conveyor
