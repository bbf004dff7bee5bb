import Conveyor.Text.Decimal

/-!
# Writing YAML scalars

A text is written as a YAML scalar in the first style that reads back as the same text:

- *plain* when nothing in it has a meaning of its own: it is not empty of content at its ends,
  holds no indicator where one would start a token, no line break, and only printable
  characters, and it would not read back as null, a boolean or a number;
- *single-quoted* (quotes doubled) when plain is not possible but the text has no line break
  next to a space and only printable characters;
- *literal block* for a text with line feeds that a block can hold;
- *double-quoted* with escapes otherwise.

Printable characters are a line feed, ASCII from space to tilde, and the characters from `0xA0`
to `0xFFFD` apart from surrogates and the byte order mark; characters beyond the basic plane
are not printable and are escaped.

A `Pen` writes a block document and keeps its column: a line of a plain or quoted scalar that
has run past column 80 breaks at its next single blank and goes on at the scalar's indentation,
and so does a line after a line break character of the text.

Doubles are written with the fewest digits that read back, positionally from `1e-5` up to
`1e16`, `.inf`, `-.inf` and `.nan` for the others.
-/

namespace Conveyor
namespace Yaml

/-- Whether a character may stand unescaped in a scalar. -/
def isPrintable (c : Char) : Bool :=
  let n := c.toNat
  n == 0x0A || (0x20 ≤ n && n ≤ 0x7E) || (0xA0 ≤ n && n ≤ 0xD7FF) ||
    (0xE000 ≤ n && n ≤ 0xFFFD && n != 0xFEFF)

/-- Whether a character breaks a line. -/
def isBreak (c : Char) : Bool :=
  c == '\r' || c == '\n' || c.toNat == 0x85 || c.toNat == 0x2028 || c.toNat == 0x2029

/-- Whether a character ends a token: blank, line break, or the end (`none`). -/
def isBlankOrEnd : Option Char → Bool
  | none => true
  | some c => c == ' ' || c == '\t' || isBreak c

/-- Whether a text is a run of digits with a leading zero, after an optional sign: a text, not a
number, in YAML 1.2. -/
def digitsButNotNumber (s : String) : Bool :=
  let cs := match s.toList with
    | '-' :: rest | '+' :: rest => rest
    | cs => cs
  cs.length > 1 && cs.head? == some '0' && cs.all Char.isDigit

/-- Digits of a base. -/
def isDigitIn (base : Nat) (c : Char) : Bool :=
  if base == 16 then c.isDigit || ('a' ≤ c && c ≤ 'f') || ('A' ≤ c && c ≤ 'F')
  else if base == 8 then '0' ≤ c && c ≤ '7'
  else if base == 2 then c == '0' || c == '1'
  else c.isDigit

/-- The value of digits of a base. -/
def digitsValue (base : Nat) (cs : List Char) : Nat :=
  cs.foldl (fun acc c =>
    let d := if c.isDigit then c.toNat - 48 else if 'a' ≤ c && c ≤ 'f' then c.toNat - 87
      else c.toNat - 55
    acc * base + d) 0

/-- The value of a non-empty run of digits of a base. -/
def digitsIn (base : Nat) (cs : List Char) : Option Nat :=
  if cs.isEmpty || !cs.all (isDigitIn base) then none else some (digitsValue base cs)

/-- A whole number as the writer reads a plain scalar back: decimal without a leading zero, or
hexadecimal, octal or binary after `0x`, `0o`, `0b`, with an optional sign; at most 128 bits. -/
def readsAsInteger (s : String) : Bool :=
  let cs := s.toList
  let unpositive := match cs with | '+' :: rest => rest | cs => cs
  let fits (bound : Nat) (v : Option Nat) : Bool := v.any (· ≤ bound)
  let positive := match unpositive with
    | '0' :: 'x' :: rest => fits (Nat.pow 2 128 - 1) (digitsIn 16 rest)
    | '0' :: 'o' :: rest => fits (Nat.pow 2 128 - 1) (digitsIn 8 rest)
    | '0' :: 'b' :: rest => fits (Nat.pow 2 128 - 1) (digitsIn 2 rest)
    | rest => !digitsButNotNumber s && fits (Nat.pow 2 128 - 1) (digitsIn 10 rest)
  let negative := match cs with
    | '-' :: '0' :: 'x' :: rest => fits (Nat.pow 2 127) (digitsIn 16 rest)
    | '-' :: '0' :: 'o' :: rest => fits (Nat.pow 2 127) (digitsIn 8 rest)
    | '-' :: '0' :: 'b' :: rest => fits (Nat.pow 2 127) (digitsIn 2 rest)
    | '-' :: rest => !digitsButNotNumber s && fits (Nat.pow 2 127) (digitsIn 10 rest)
    | _ => false
  positive || negative

/-- Whether a text is a decimal number as a number reader takes it: digits with an optional
point and fraction, or a point and digits, then an optional exponent; with its value. -/
def decimalValue? (cs : List Char) : Option (Nat × Int) :=
  let whole := cs.takeWhile Char.isDigit
  let rest := cs.dropWhile Char.isDigit
  let (frac, rest, hasPoint) := match rest with
    | '.' :: r => (r.takeWhile Char.isDigit, r.dropWhile Char.isDigit, true)
    | r => ([], r, false)
  if whole.isEmpty && frac.isEmpty then none
  else if !hasPoint && whole.isEmpty then none
  else
    let mant := digitsValue 10 (whole ++ frac)
    match rest with
    | [] => some (mant, -(Int.ofNat frac.length))
    | e :: r =>
      if e != 'e' && e != 'E' then none
      else
        let (neg, ds) := match r with
          | '+' :: d => (false, d)
          | '-' :: d => (true, d)
          | d => (false, d)
        if ds.isEmpty || !ds.all Char.isDigit then none
        else
          let ev := Int.ofNat (digitsValue 10 ds)
          some (mant, (if neg then -ev else ev) - Int.ofNat frac.length)

/-- Whether a decimal `m · 10 ^ e` stays below the largest double once rounded. -/
def decimalFinite (m : Nat) (e : Int) : Bool :=
  let magnitude := Int.ofNat (toString m).length + e
  if m == 0 then true
  else if magnitude > 400 then false
  else if magnitude < -400 then true
  else
    let x : Float := if e ≥ 0 then Float.ofScientific m false e.toNat
      else Float.ofScientific m true (-e).toNat
    !x.isInf

/-- A finite double as the writer reads a plain scalar back: the special spellings of
infinity and NaN do not count, nor a number too large for a double. -/
def readsAsFloat (s : String) : Bool :=
  let cs := s.toList
  let unpositive := match cs with | '+' :: rest => rest | cs => cs
  if cs.head? == some '+' && (unpositive.head? == some '+' || unpositive.head? == some '-') then false
  else if [".inf", ".Inf", ".INF"].contains (String.ofList unpositive) then true
  else if ["-.inf", "-.Inf", "-.INF", ".nan", ".NaN", ".NAN"].contains s then true
  else
    let body := match unpositive with | '-' :: r => r | '+' :: r => r | r => r
    match decimalValue? body with
    | some (m, e) => decimalFinite m e
    | none => false

/-- Whether a plain scalar with this text would read back as something other than a text. -/
def readsAsNonText (s : String) : Bool :=
  s.isEmpty || ["null", "Null", "NULL", "~", "true", "True", "TRUE", "false", "False", "FALSE"].contains s ||
    readsAsInteger s || (!digitsButNotNumber s && readsAsFloat s) || digitsButNotNumber s

/-- What the characters of a text allow. -/
structure Allowed where
  plain : Bool
  singleQuoted : Bool
  block : Bool
  multiline : Bool

/-- Whether a character opens a token at the start of a plain scalar. -/
def isLeadIndicator (c : Char) : Bool :=
  "#,[]\x7b\x7d&*!|>'\"%@`".toList.contains c

/-- Walk a text and record what its characters allow in block context. -/
def analyze (s : String) : Allowed :=
  let cs := s.toList
  if cs.isEmpty then ⟨true, true, false, false⟩ else
  let dashes := cs.take 3 == ['-', '-', '-'] || cs.take 3 == ['.', '.', '.']
  let n := cs.length
  let step := fun (acc : Bool × Bool × Bool × Bool × Bool × Bool × Bool × Bool × Bool × Bool × Bool)
      (ic : Nat × Char) =>
    let (indicators, breaks, special, leadSpace, leadBreak, trailSpace, trailBreak, breakSpace,
      spaceBreak, prevSpace, prevBreak) := acc
    let (i, c) := ic
    let first := i == 0
    let last := i + 1 == n
    let followedByBlank := isBlankOrEnd cs[i + 1]?
    let precededByBlank := if first then true else isBlankOrEnd cs[i - 1]?
    let ind :=
      if first then
        isLeadIndicator c || ((c == '?' || c == ':') && followedByBlank) ||
          (c == '-' && followedByBlank)
      else (c == ':' && followedByBlank) || (c == '#' && precededByBlank)
    let special' := special || !isPrintable c
    if c == ' ' then
      (indicators || ind, breaks, special', leadSpace || first, leadBreak, trailSpace || last,
        trailBreak, breakSpace || prevBreak, spaceBreak, true, false)
    else if isBreak c then
      (indicators || ind, true, special', leadSpace, leadBreak || first, trailSpace,
        trailBreak || last, breakSpace, spaceBreak || prevSpace, false, true)
    else
      (indicators || ind, breaks, special', leadSpace, leadBreak, trailSpace, trailBreak,
        breakSpace, spaceBreak, false, false)
  let (indicators, breaks, special, leadSpace, leadBreak, trailSpace, trailBreak, breakSpace,
    spaceBreak, _, _) := cs.zipIdx.foldl (fun acc (c, i) => step acc (i, c))
      (dashes, false, false, false, false, false, false, false, false, false, false)
  let edges := leadSpace || leadBreak || trailSpace || trailBreak
  let plain := !(edges || breakSpace || spaceBreak || special || breaks || indicators)
  let single := !(breakSpace || spaceBreak || special)
  let block := !(trailSpace || spaceBreak || special)
  ⟨plain, single, block, breaks⟩

/-- Where a writer of a block document stands: the text written, its column, whether the last
thing written leaves blank space before the next (`white`), whether only indentation was written
since the line began (`indented`), and whether the document must be closed by `...` because a
block scalar kept its final line breaks (`openEnded`). -/
structure Pen where
  text : String
  column : Nat
  white : Bool
  indented : Bool
  openEnded : Bool

namespace Pen

/-- A writer at the start of a document. -/
def start : Pen := ⟨"", 0, true, true, false⟩

/-- The widest column a line may reach before a blank inside a scalar breaks it. -/
def bestWidth : Nat := 80

/-- Write one character on the current line. -/
def put (p : Pen) (c : Char) : Pen := { p with text := p.text.push c, column := p.column + 1 }

/-- Write characters on the current line. -/
def puts (p : Pen) (s : String) : Pen := s.toList.foldl put p

/-- End the line with a line feed. -/
def lineFeed (p : Pen) : Pen := { p with text := p.text.push '\n', column := 0 }

/-- Write a line break character of the text itself. -/
def writeBreak (p : Pen) (c : Char) : Pen :=
  if c == '\n' then p.lineFeed else { p with text := p.text.push c, column := 0 }

/-- Go to column `indent` of a line: a new line unless the current one holds only indentation
short of it. -/
def indentTo (p : Pen) (indent : Nat) : Pen :=
  let p := if !p.indented || p.column > indent || (p.column == indent && !p.white) then p.lineFeed else p
  let p := (List.replicate (indent - p.column) ' ').foldl put p
  { p with white := true, indented := true }

/-- Write an indicator such as `:` or a quote, after a blank if `spaced` and none is there. -/
def indicator (p : Pen) (s : String) (spaced : Bool) : Pen :=
  let p := if spaced && !p.white then p.put ' ' else p
  { p.puts s with white := false, indented := false, openEnded := false }

/-- Whether a blank at this place of a scalar may break the line: the line is past the best width,
the blank does not follow another, and (`inner`) it is neither the first nor the last character. -/
def mayFold (p : Pen) (spaces inner : Bool) : Bool :=
  !spaces && p.column > bestWidth && inner

/-- The body of a plain scalar. -/
def plainBody (indent : Nat) : Pen → Bool → Bool → List Char → Pen
  | p, _, _, [] => p
  | p, spaces, breaks, c :: rest =>
    if c == ' ' then
      let p := if p.mayFold spaces (rest.head? != some ' ') then p.indentTo indent else p.put c
      plainBody indent p true breaks rest
    else if isBreak c then
      let p := if !breaks && c == '\n' then p.lineFeed else p
      plainBody indent { p.writeBreak c with indented := true } spaces true rest
    else
      let p := if breaks then p.indentTo indent else p
      plainBody indent { p.put c with indented := false } false false rest

/-- Write a plain scalar at indentation `indent`. -/
def plain (p : Pen) (indent : Nat) (s : String) : Pen :=
  let p := if !p.white && !s.isEmpty then p.put ' ' else p
  { plainBody indent p false false s.toList with white := false, indented := false }

/-- The body of a single-quoted scalar; gives whether it ended in a line break. -/
def singleBody (indent : Nat) : Pen → Bool → Bool → Bool → List Char → Pen × Bool
  | p, _, _, breaks, [] => (p, breaks)
  | p, first, spaces, breaks, c :: rest =>
    if c == ' ' then
      let fold := p.mayFold spaces (!first && !rest.isEmpty && rest.head? != some ' ')
      let p := if fold then p.indentTo indent else p.put c
      singleBody indent p false true breaks rest
    else if isBreak c then
      let p := if !breaks && c == '\n' then p.lineFeed else p
      singleBody indent { p.writeBreak c with indented := true } false spaces true rest
    else
      let p := if breaks then p.indentTo indent else p
      let p := if c == '\'' then p.put '\'' else p
      singleBody indent { p.put c with indented := false } false false false rest

/-- Write a single-quoted scalar at indentation `indent`, quotes doubled. -/
def singleQuoted (p : Pen) (indent : Nat) (s : String) : Pen :=
  let p := p.indicator "'" true
  let (p, breaks) := singleBody indent p true false false s.toList
  let p := if breaks then p.indentTo indent else p
  p.indicator "'" false

/-- Hexadecimal digits of a number, upper case, padded to a width. -/
def hexUpper (width n : Nat) : String :=
  let digit (d : Nat) : Char := if d < 10 then Char.ofNat (48 + d) else Char.ofNat (55 + d)
  String.ofList ((List.range width).reverse.map fun i => digit ((n / Nat.pow 16 i) % 16))

/-- Whether a character is escaped inside double quotes. -/
def escaped (c : Char) : Bool :=
  !isPrintable c || c.toNat == 0xFEFF || isBreak c || c == '"' || c == '\\'

/-- The escape of a character inside double quotes. -/
def escapeDouble (c : Char) : String :=
  let n := c.toNat
  if c == '"' then "\\\"" else if c == '\\' then "\\\\"
  else if n == 0 then "\\0" else if n == 7 then "\\a" else if n == 8 then "\\b"
  else if n == 9 then "\\t" else if n == 10 then "\\n" else if n == 11 then "\\v"
  else if n == 12 then "\\f" else if n == 13 then "\\r" else if n == 27 then "\\e"
  else if n == 0x85 then "\\N" else if n == 0xA0 then "\\_" else if n == 0x2028 then "\\L"
  else if n == 0x2029 then "\\P"
  else if n ≤ 0xFF then "\\x" ++ hexUpper 2 n
  else if n ≤ 0xFFFF then "\\u" ++ hexUpper 4 n
  else "\\U" ++ hexUpper 8 n

/-- The body of a double-quoted scalar. A line broken at a blank that another blank follows
ends in a backslash, so that the second blank is kept. -/
def doubleBody (indent : Nat) : Pen → Bool → Bool → List Char → Pen
  | p, _, _, [] => p
  | p, first, spaces, c :: rest =>
    if escaped c then doubleBody indent (p.puts (escapeDouble c)) false false rest
    else if c == ' ' then
      if p.mayFold spaces (!first && !rest.isEmpty) then
        let p := p.indentTo indent
        let p := if rest.head? == some ' ' then p.put '\\' else p
        doubleBody indent p false true rest
      else doubleBody indent (p.put c) false true rest
    else doubleBody indent (p.put c) false false rest

/-- Write a double-quoted scalar at indentation `indent`, with escapes. -/
def doubleQuoted (p : Pen) (indent : Nat) (s : String) : Pen :=
  let p := p.indicator "\"" true
  let p := doubleBody indent p true false s.toList
  p.indicator "\"" false

/-- The body of a literal block. -/
def literalBody (indent : Nat) : Pen → Bool → List Char → Pen
  | p, _, [] => p
  | p, breaks, c :: rest =>
    if isBreak c then literalBody indent { p.writeBreak c with indented := true } true rest
    else
      let p := if breaks then p.indentTo indent else p
      literalBody indent { p.put c with indented := false } false rest

/-- Write a text with line breaks as a literal block at indentation `indent`. Its header gives
the indentation when the text starts with a blank or a break, and keeps a final line break (`|`),
strips it (`|-`) or keeps several (`|+`, which leaves the document open). -/
def literal (p : Pen) (indent : Nat) (s : String) : Pen :=
  let cs := s.toList
  let p := p.indicator "|" true
  let p := match cs.head? with
    | some c => if c == ' ' || isBreak c then p.indicator "2" false else p
    | none => p
  let (chomp, open_) := match cs.reverse with
    | [] => ("-", false)
    | c :: rest =>
      if !isBreak c then ("-", false)
      else match rest with
        | [] => ("+", true)
        | d :: _ => if isBreak d then ("+", true) else ("", false)
  let p := if chomp.isEmpty then p else p.indicator chomp false
  let p := { p.lineFeed with indented := true, white := true, openEnded := open_ }
  literalBody indent p true cs

/-- Write a text as a scalar at indentation `indent`, in the first style that reads back as the
same text. -/
def textScalar (p : Pen) (indent : Nat) (s : String) : Pen :=
  let a := analyze s
  if s.contains '\n' then
    if a.block then p.literal indent s else p.doubleQuoted indent s
  else if readsAsNonText s then
    if a.singleQuoted then p.singleQuoted indent s else p.doubleQuoted indent s
  else if a.plain then p.plain indent s
  else if a.singleQuoted then p.singleQuoted indent s
  else p.doubleQuoted indent s

/-- Start a mapping entry at indentation `indent`: its key and the colon. -/
def key (p : Pen) (indent : Nat) (name : String) : Pen :=
  ((p.indentTo indent).plain indent name).indicator ":" false

/-- End the document: close the last line, and write `...` if a block scalar left it open. -/
def finish (p : Pen) : String :=
  let p := p.indentTo 0
  let p := if p.openEnded then (p.indicator "..." true).indentTo 0 else p
  p.text

end Pen

/-- How a YAML writer writes finite doubles. -/
def floatStyle : Decimal.FloatStyle := ⟨16, -5, "", true⟩

/-- A double as a plain scalar. -/
def floatScalar (x : Float) : String :=
  if x.isNaN then ".nan"
  else if x.isInf then (if x > 0 then ".inf" else "-.inf")
  else Decimal.render floatStyle x

end Yaml
end Conveyor
