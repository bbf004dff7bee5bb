import Conveyor.Yaml.Token

/-!
# Scanning YAML

`Yaml.scan` cuts a text into tokens. Indentation opens and closes block collections: a line
indented deeper than the current block, where a sequence entry or a mapping key starts, opens a
block (`blockSequenceStart`, `blockMappingStart`), and a line indented less closes blocks
(`blockEnd`). Inside brackets indentation does not count.

A *simple key* is a scalar or a flow collection followed on the same line by `:` and a blank.
When the scanner meets a possible simple key it remembers where the key's token will go; if a
`:` follows, the `key` token (and the start of a mapping, if the key opens one) is put in front
of the key's own tokens. A possible simple key that is not followed by `:` on its line lapses;
one in a block at the block's own indentation is required, and its lapse is a failure.

Scalars are plain (ended by `: `, ` #`, the end of the line where the next line is indented no
deeper than the block, and in brackets also by `,[]{}`), single-quoted (a quote doubled stands
for itself), double-quoted (with backslash escapes), or literal (`|`) and folded (`>`) blocks.
In the flow forms, a single line break between lines becomes a blank and further line breaks
are kept.
-/

namespace Conveyor
namespace Yaml

/-- A possible simple key: where its tokens start. -/
structure SimpleKey where
  possible : Bool
  required : Bool
  tokenNumber : Nat
  mark : Mark
deriving Repr

/-- The scanner's state. -/
structure Scanner where
  input : Array Char
  pos : Nat
  mark : Mark
  tokens : Array Token
  /-- The possible simple key of each flow level, innermost first. -/
  keys : List SimpleKey
  indent : Int
  indents : List Int
  flowLevel : Nat
  keyAllowed : Bool
  /-- Where a `:` right after a quoted scalar counts as a value indicator in brackets. -/
  adjacentAt : Option Nat
  ended : Bool

/-- A scanning step. -/
abbrev ScanM := ExceptT ScanError (StateM Scanner)

namespace Scanner

/-- A line break character. -/
def isBreakChar (c : Char) : Bool := c == '\n' || c == '\r'

/-- The end of the text. -/
def isEnd (c : Char) : Bool := c == '\x00'

/-- A line break or the end. -/
def isBreakz (c : Char) : Bool := isBreakChar c || isEnd c

/-- A blank. -/
def isBlank (c : Char) : Bool := c == ' ' || c == '\t'

/-- A blank, a line break or the end. -/
def isBlankz (c : Char) : Bool := isBlank c || isBreakz c

/-- A flow indicator. -/
def isFlow (c : Char) : Bool := c == ',' || c == '[' || c == ']' || c == '{' || c == '}'

/-- A hexadecimal digit. -/
def isHex (c : Char) : Bool := c.isDigit || ('a' ≤ c && c ≤ 'f') || ('A' ≤ c && c ≤ 'F')

/-- The value of a hexadecimal digit. -/
def hexValue (c : Char) : Nat :=
  if c.isDigit then c.toNat - 48 else if 'a' ≤ c && c ≤ 'f' then c.toNat - 87 else c.toNat - 55

/-- The character `k` places ahead; the null character past the end. -/
def ch (s : Scanner) (k : Nat) : Char := s.input.getD (s.pos + k) '\x00'

/-- Step over one character. -/
def skip (s : Scanner) : Scanner :=
  let mark : Mark := if s.ch 0 == '\n' then ⟨s.mark.index + 1, s.mark.line + 1, 0⟩
    else ⟨s.mark.index + 1, s.mark.line, s.mark.col + 1⟩
  { s with pos := s.pos + 1, mark }

/-- Step over `n` characters. -/
def skipN (s : Scanner) : Nat → Scanner
  | 0 => s
  | n + 1 => skipN s.skip n

/-- Step over one line break (a carriage return and line feed count as one). -/
def skipLine (s : Scanner) : Scanner :=
  if s.ch 0 == '\r' && s.ch 1 == '\n' then s.skip.skip
  else if isBreakChar (s.ch 0) then s.skip else s

/-- Step over one line break, adding a line feed to a text. -/
def readBreak (s : Scanner) (acc : String) : Scanner × String :=
  if s.ch 0 == '\r' && s.ch 1 == '\n' then (s.skip.skip, acc.push '\n')
  else if isBreakChar (s.ch 0) then (s.skip, acc.push '\n') else (s, acc)

/-- How many characters are left; bounds every loop. -/
def left (s : Scanner) : Nat := s.input.size - s.pos + 1

/-- Step over blanks and a comment after them, up to the end of the line. -/
def restOfLine (s : Scanner) : Scanner :=
  let rec blanks : Nat → Scanner → Scanner
    | 0, s => s
    | n + 1, s => if isBlank (s.ch 0) then blanks n s.skip else s
  let rec comment : Nat → Scanner → Scanner
    | 0, s => s
    | n + 1, s => if isBreakz (s.ch 0) then s else comment n s.skip
  let s := blanks s.left s
  if s.ch 0 == '#' then comment s.left s else s

/-- Whether only blanks stand before the current character on its line. -/
def inIndentation (s : Scanner) : Bool :=
  (s.input.extract (s.pos - s.mark.col) s.pos).all isBlank

/-- Step over blanks and a comment up to the end of the line, as after a quoted scalar: a
comment must be separated from what comes before it by a blank. -/
def skipToLineEnd : Nat → Bool → Scanner → Except ScanError Scanner
  | 0, _, s => .ok s
  | n + 1, blank, s =>
    let c := s.ch 0
    if isBlank c then skipToLineEnd n true s.skip
    else if c == '#' then
      if blank then .ok s.restOfLine
      else .error ⟨s.mark, "comments must be separated from other tokens by whitespace"⟩
    else .ok s

/-- Fail at a mark. -/
def failAt {α : Type} (mark : Mark) (info : String) : ScanM α := throw ⟨mark, info⟩

/-- Add a token at the end. -/
def push (t : Token) : ScanM Unit := modify fun s => { s with tokens := s.tokens.push t }

/-- Put a token at a place among the tokens. -/
def insertAt (i : Nat) (t : Token) : ScanM Unit :=
  modify fun s => { s with tokens := (s.tokens.toList.take i ++ [t] ++ s.tokens.toList.drop i).toArray }

/-- The current simple key is no longer possible; a required one is a failure. -/
def removeSimpleKey : ScanM Unit := do
  let s ← get
  match s.keys with
  | k :: rest =>
    if k.possible && k.required then failAt s.mark "simple key expected"
    set { s with keys := { k with possible := false } :: rest }
  | [] => pure ()

/-- Remember a possible simple key here, if one may start. -/
def saveSimpleKey : ScanM Unit := do
  let s ← get
  if s.keyAllowed then
    let required := s.flowLevel == 0 && s.indent == Int.ofNat s.mark.col
    let sk : SimpleKey := ⟨true, required, s.tokens.size, s.mark⟩
    removeSimpleKey
    modify fun s => { s with keys := match s.keys with | _ :: rest => sk :: rest | [] => [sk] }

/-- Let possible simple keys lapse that lie on an earlier line or too far back. -/
def staleSimpleKeys : ScanM Unit := do
  let s ← get
  let keys ← s.keys.mapM fun k =>
    if k.possible && (k.mark.line < s.mark.line || k.mark.index + 1024 < s.mark.index) then
      if k.required then failAt s.mark "simple key expect ':'" else pure { k with possible := false }
    else pure k
  set { s with keys }

/-- Close the blocks indented deeper than a column. -/
def unrollIndent (col : Int) : ScanM Unit := do
  let s ← get
  if s.flowLevel > 0 then return
  let rec close : List Int → Int → Array Token → Int × List Int × Array Token
    | [], indent, toks => (indent, [], toks)
    | i :: rest, indent, toks =>
      if indent > col then close rest i (toks.push ⟨s.mark, .blockEnd⟩) else (indent, i :: rest, toks)
  let (indent, indents, tokens) := close s.indents s.indent s.tokens
  set { s with indent, indents, tokens }

/-- Open a block at a column if it is deeper than the current one. -/
def rollIndent (col : Nat) (number : Option Nat) (kind : TokenKind) (mark : Mark) : ScanM Unit := do
  let s ← get
  if s.flowLevel == 0 && s.indent < Int.ofNat col then
    set { s with indents := s.indent :: s.indents, indent := Int.ofNat col }
    match number with
    | some n => insertAt n ⟨mark, kind⟩
    | none => push ⟨mark, kind⟩

/-- Allow or forbid a simple key to start. -/
def allowKey (b : Bool) : ScanM Unit := modify fun s => { s with keyAllowed := b }

/-- Skip blanks, line breaks and comments up to the next token. -/
def skipToNextToken : Nat → ScanM Unit
  | 0 => pure ()
  | fuel + 1 => do
    let s ← get
    let c := s.ch 0
    if c == '\t' && s.flowLevel == 0 && s.inIndentation && Int.ofNat s.mark.col < s.indent then
      let rest := s.restOfLine
      if !isBreakz (rest.ch 0) then
        failAt rest.mark "tabs disallowed within this context (block indentation)"
      set rest
      skipToNextToken fuel
    else if c == ' ' || c == '\t' then
      set s.skip
      skipToNextToken fuel
    else if isBreakChar c then
      set s.skipLine
      if s.flowLevel == 0 then allowKey true
      skipToNextToken fuel
    else if c == '#' then
      let rec comment : Nat → Scanner → Scanner
        | 0, s => s
        | n + 1, s => if isBreakz (s.ch 0) then s else comment n s.skip
      set (comment s.left s)
      skipToNextToken fuel
    else pure ()

/-- The start of the stream. -/
def fetchStreamStart : ScanM Unit := do
  let s ← get
  set { s with indent := -1, keyAllowed := true,
               keys := [⟨false, false, 0, ⟨0, 0, 0⟩⟩] }
  push ⟨s.mark, .streamStart⟩

/-- The end of the stream, on a line of its own. -/
def fetchStreamEnd : ScanM Unit := do
  let s ← get
  if s.mark.col != 0 then set { s with mark := ⟨s.mark.index, s.mark.line + 1, 0⟩ }
  unrollIndent (-1)
  removeSimpleKey
  allowKey false
  let s ← get
  push ⟨s.mark, .streamEnd⟩
  modify fun s => { s with ended := true }

/-- A letter, a digit, `_` or `-`: the characters of directive names and tag handles. -/
def isAlpha (c : Char) : Bool := c.isAlphanum || c == '_' || c == '-'

/-- A character that may stand in a tag's URI. -/
def isUriChar (c : Char) : Bool :=
  isAlpha c || "#;/?:@&=+$,_.!~*()[]%".toList.contains c || c == '\''

/-- A character that may stand in a tag's shorthand suffix: a URI character that is neither a
flow indicator nor `!`. -/
def isTagChar (c : Char) : Bool := isUriChar c && !isFlow c && c != '!'

/-- The characters from here while a test holds. -/
def takeRun (p : Char → Bool) : Nat → Scanner → String → Scanner × String
  | 0, s, acc => (s, acc)
  | n + 1, s, acc => if p (s.ch 0) then takeRun p n s.skip (acc.push (s.ch 0)) else (s, acc)

/-- A character written as URI escapes `%XX`, as many as the first octet's UTF-8 length says;
the octets are put together as one number, which must be a code point. -/
def uriEscape (mark : Mark) : ScanM Char := do
  let rec octets : Nat → Nat → Nat → ScanM Nat
    | 0, _, code => pure code
    | fuel + 1, width, code => do
      let s ← get
      if !(s.ch 0 == '%' && isHex (s.ch 1) && isHex (s.ch 2)) then
        failAt mark "while parsing a tag, did not find URI escaped octet"
      let octet := hexValue (s.ch 1) * 16 + hexValue (s.ch 2)
      let (width, code) ←
        if width == 0 then
          let w := if octet &&& 0x80 == 0 then 1 else if octet &&& 0xE0 == 0xC0 then 2
            else if octet &&& 0xF0 == 0xE0 then 3 else if octet &&& 0xF8 == 0xF0 then 4 else 0
          if w == 0 then failAt mark "while parsing a tag, found an incorrect leading UTF-8 octet"
          pure (w, octet)
        else
          if octet &&& 0xC0 != 0x80 then
            failAt mark "while parsing a tag, found an incorrect trailing UTF-8 octet"
          pure (width, code * 256 + octet)
      set (s.skipN 3)
      if width == 1 then pure code else octets fuel (width - 1) code
  let code ← octets 4 0 0
  if code.isValidChar then pure (Char.ofNat code)
  else failAt mark "while parsing a tag, found an invalid UTF-8 codepoint"

/-- The characters of a URI from here, escapes read. -/
def uriRun (mark : Mark) (p : Char → Bool) : Nat → String → ScanM String
  | 0, acc => pure acc
  | fuel + 1, acc => do
    let s ← get
    let c := s.ch 0
    if !p c then pure acc
    else if c == '%' then uriRun mark p fuel (acc.push (← uriEscape mark))
    else do set s.skip; uriRun mark p fuel (acc.push c)

/-- A tag handle: `!`, then letters, digits, `_` and `-`, then `!` if there is one. In a
`%TAG` directive the closing `!` is required unless the handle is `!` alone. -/
def tagHandle (directive : Bool) (mark : Mark) : ScanM String := do
  let s ← get
  if s.ch 0 != '!' then failAt mark "while scanning a tag, did not find expected '!'"
  let (s, name) := takeRun isAlpha s.left s.skip "!"
  if s.ch 0 == '!' then
    set s.skip
    pure (name.push '!')
  else if directive && name != "!" then
    failAt mark "while parsing a tag directive, did not find expected '!'"
  else
    set s
    pure name

/-- The suffix of a shorthand tag: what follows `head` (without its `!`) in tag characters. -/
def tagSuffix (head : String) (mark : Mark) : ScanM String := do
  let before := (← get).pos
  let text ← uriRun mark isTagChar (← get).left (String.ofList (head.toList.drop 1))
  if head.isEmpty && (← get).pos == before then
    failAt mark "while parsing a tag, did not find expected tag URI"
  pure text

/-- A verbatim tag `!<uri>`. -/
def verbatimTag (mark : Mark) : ScanM String := do
  modify fun s => s.skip.skip
  let text ← uriRun mark isUriChar (← get).left ""
  let s ← get
  if s.ch 0 != '>' then failAt mark "while scanning a verbatim tag, did not find the expected '>'"
  set s.skip
  pure text

/-- What a `%TAG` directive expands a handle to: `!` or a tag character, then URI characters. -/
def tagExpansion (mark : Mark) : ScanM String := do
  let s ← get
  let c := s.ch 0
  let first ←
    if c == '!' then do set s.skip; pure "!"
    else if !isTagChar c then failAt mark "invalid global tag character"
    else if c == '%' then do pure (String.singleton (← uriEscape mark))
    else do set s.skip; pure c.toString
  uriRun mark isUriChar (← get).left first

/-- Step over blanks. -/
def skipBlanks : ScanM Unit := modify fun s => (takeRun isBlank s.left s "").1

/-- One number of a `%YAML` directive: at most nine digits. -/
def versionNumber (mark : Mark) : ScanM Nat := do
  let s ← get
  let (s', digits) := takeRun Char.isDigit s.left s ""
  if digits.length > 9 then
    failAt mark "while scanning a YAML directive, found extremely long version number"
  if digits.isEmpty then failAt mark "while scanning a YAML directive, did not find expected version number"
  set s'
  pure (digits.toNat?.getD 0)

/-- The value of a `%YAML` directive: two numbers and a dot between them. -/
def versionDirective (mark : Mark) : ScanM TokenKind := do
  skipBlanks
  let major ← versionNumber mark
  let s ← get
  if s.ch 0 != '.' then
    failAt mark "while scanning a YAML directive, did not find expected digit or '.' character"
  set s.skip
  let minor ← versionNumber mark
  pure (.versionDirective major minor)

/-- The value of a `%TAG` directive: a handle and what it expands to. -/
def tagDirective (mark : Mark) : ScanM TokenKind := do
  skipBlanks
  let handle ← tagHandle true mark
  skipBlanks
  let expansion ← tagExpansion mark
  if isBlankz ((← get).ch 0) then pure (.tagDirective handle expansion)
  else failAt mark "while scanning TAG, did not find expected whitespace or line break"

/-- A directive: `%YAML` with a version, `%TAG` with a handle and its expansion, or another
name, whose line is passed over (it reads as a `%TAG` directive of nothing). Blanks and a
comment may end the line. -/
def fetchDirective : ScanM Unit := do
  unrollIndent (-1)
  removeSimpleKey
  allowKey false
  let s ← get
  let start := s.mark
  let nameMark := s.skip.mark
  let (s, name) := takeRun isAlpha s.left s.skip ""
  if name.isEmpty then
    failAt nameMark "while scanning a directive, could not find expected directive name"
  if !isBlankz (s.ch 0) then
    failAt nameMark "while scanning a directive, found unexpected non-alphabetical character"
  set s
  let kind ← match name with
    | "YAML" => versionDirective start
    | "TAG" => tagDirective start
    | _ => do
      modify fun s => (takeRun (fun c => !isBreakz c) s.left s "").1
      pure (.tagDirective "" "")
  skipBlanks
  if (← get).ch 0 == '#' then modify fun s => (takeRun (fun c => !isBreakz c) s.left s "").1
  let s ← get
  if !isBreakz (s.ch 0) then
    failAt start "while scanning a directive, did not find expected comment or line break"
  set s.skipLine
  push ⟨start, kind⟩

/-- A document start or end marker. -/
def fetchDocumentIndicator (kind : TokenKind) : ScanM Unit := do
  unrollIndent (-1)
  removeSimpleKey
  allowKey false
  let s ← get
  set (s.skipN 3)
  push ⟨s.mark, kind⟩
  if kind == .documentEnd then
    let rest := (s.skipN 3).restOfLine
    if !isBreakz (rest.ch 0) then failAt rest.mark "invalid content after document end marker"
    set rest

/-- What may follow a quoted scalar on its line: blanks and a comment, then the end of the
line, a `:` (on the scalar's first line, outside brackets), or in brackets `,`, `]` or `}`. -/
def afterQuoted (start : Mark) : ScanM Unit := do
  let s ← get
  match skipToLineEnd s.left false s with
  | .error e => throw e
  | .ok s =>
    let c := s.ch 0
    let inFlow := s.flowLevel > 0
    let fits := (inFlow && (c == ',' || c == '}' || c == ']')) || isBreakz c ||
      (c == ':' && (inFlow || start.line == s.mark.line))
    if !fits then failAt s.mark "invalid trailing content after double-quoted scalar"
    set s

/-- An opening bracket. -/
def fetchFlowStart (kind : TokenKind) : ScanM Unit := do
  saveSimpleKey
  modify fun s => { s with keys := ⟨false, false, 0, ⟨0, 0, 0⟩⟩ :: s.keys, flowLevel := s.flowLevel + 1 }
  allowKey true
  let s ← get
  set s.skip
  push ⟨s.mark, kind⟩

/-- A closing bracket. -/
def fetchFlowEnd (kind : TokenKind) : ScanM Unit := do
  removeSimpleKey
  modify fun s =>
    if s.flowLevel > 0 then { s with flowLevel := s.flowLevel - 1, keys := s.keys.drop 1 } else s
  allowKey false
  let s ← get
  set s.skip
  push ⟨s.mark, kind⟩

/-- A comma between flow entries. -/
def fetchFlowEntry : ScanM Unit := do
  removeSimpleKey
  allowKey true
  let s ← get
  set s.skip
  push ⟨s.mark, .flowEntry⟩

/-- A block sequence entry `- `. -/
def fetchBlockEntry : ScanM Unit := do
  let s ← get
  if s.flowLevel == 0 then
    if !s.keyAllowed then failAt s.mark "block sequence entries are not allowed in this context"
    rollIndent s.mark.col none .blockSequenceStart s.mark
  else failAt s.mark "\"-\" is only valid inside a block"
  removeSimpleKey
  allowKey true
  let s ← get
  set s.skip
  push ⟨s.mark, .blockEntry⟩

/-- A complex key indicator `? `. -/
def fetchKey : ScanM Unit := do
  let s ← get
  let start := s.mark
  if s.flowLevel == 0 then
    if !s.keyAllowed then failAt s.mark "mapping keys are not allowed in this context"
    rollIndent start.col none .blockMappingStart start
  removeSimpleKey
  let s ← get
  allowKey (s.flowLevel == 0)
  let s ← get
  set s.skip
  push ⟨start, .key⟩

/-- A value indicator `:`; a pending simple key becomes a key. -/
def fetchValue : ScanM Unit := do
  let s ← get
  let start := s.mark
  match s.keys with
  | sk :: _ =>
    if sk.possible then
      insertAt sk.tokenNumber ⟨sk.mark, .key⟩
      rollIndent sk.mark.col (some sk.tokenNumber) .blockMappingStart start
      modify fun s => { s with keys := { sk with possible := false } :: (s.keys.drop 1) }
      allowKey false
    else
      if s.flowLevel == 0 then
        if !s.keyAllowed then failAt start "mapping values are not allowed in this context"
        rollIndent start.col none .blockMappingStart start
      let s ← get
      allowKey (s.flowLevel == 0)
  | [] => pure ()
  let s ← get
  set s.skip
  push ⟨start, .value⟩

/-- Characters of an anchor or alias name. -/
def isAnchorChar (c : Char) : Bool := !isBlankz c && !isFlow c

/-- An anchor `&name` or an alias `*name`. -/
def fetchAnchor (isAlias : Bool) : ScanM Unit := do
  saveSimpleKey
  allowKey false
  let s ← get
  let start := s.mark
  let s := s.skip
  let rec name : Nat → Scanner → String → Scanner × String
    | 0, s, acc => (s, acc)
    | n + 1, s, acc => if isAnchorChar (s.ch 0) then name n s.skip (acc.push (s.ch 0)) else (s, acc)
  let (s, text) := name s.left s ""
  if text.isEmpty then
    failAt start "while scanning an anchor or alias, did not find expected alphabetic or numeric character"
  set s
  push ⟨start, if isAlias then .alias text else .anchor text⟩

/-- A tag `!suffix`, `!!suffix`, `!handle!suffix` or `!<uri>`; `!` alone is the
non-specific tag. A blank, a line break or, in brackets, a flow indicator must follow. -/
def fetchTag : ScanM Unit := do
  saveSimpleKey
  allowKey false
  let s ← get
  let start := s.mark
  let (handle, suffix) ←
    if s.ch 1 == '<' then do
      pure ("", ← verbatimTag start)
    else do
      let handle ← tagHandle false start
      if handle.length ≥ 2 && handle.endsWith "!" then
        pure (handle, ← tagSuffix "" start)
      else
        let suffix ← tagSuffix handle start
        pure (if suffix.isEmpty then ("", "!") else ("!", suffix))
  let s ← get
  if isBlankz (s.ch 0) || (s.flowLevel > 0 && isFlow (s.ch 0)) then push ⟨start, .tag handle suffix⟩
  else failAt start "while scanning a tag, did not find expected whitespace or line break"

/-- Whether a document marker (`---` or `...` and a blank) starts here. -/
def atDocumentMarker (s : Scanner) : Bool :=
  s.mark.col == 0 &&
    ((s.ch 0 == '-' && s.ch 1 == '-' && s.ch 2 == '-') ||
     (s.ch 0 == '.' && s.ch 1 == '.' && s.ch 2 == '.')) && isBlankz (s.ch 3)

/-- What a flow scalar has gathered: the text, the pending line breaks and blanks. -/
structure Folding where
  text : String := ""
  leadingBreak : String := ""
  trailingBreaks : String := ""
  whitespaces : String := ""
  leadingBlanks : Bool := false

/-- Join what lies between two runs of characters: a single line break becomes a blank,
further line breaks are kept, and blanks within a line are kept. -/
def Folding.join (f : Folding) : Folding :=
  if f.leadingBlanks then
    let text :=
      if f.leadingBreak.isEmpty then f.text ++ f.leadingBreak ++ f.trailingBreaks
      else if f.trailingBreaks.isEmpty then f.text.push ' '
      else f.text ++ f.trailingBreaks
    { f with text, leadingBreak := "", trailingBreaks := "", leadingBlanks := false }
  else { f with text := f.text ++ f.whitespaces, whitespaces := "" }

/-- Gather blanks and line breaks. `tabCheck` looks at a blank in the indentation of a
continuation line: it may fail, or pass over the rest of the line. -/
def gatherBlanks (tabCheck : Scanner → Folding → Except ScanError (Option Scanner)) :
    Nat → Scanner → Folding → Except ScanError (Scanner × Folding)
  | 0, s, f => .ok (s, f)
  | n + 1, s, f =>
    let c := s.ch 0
    if isBlank c then
      match tabCheck s f with
      | .error e => .error e
      | .ok (some s) => gatherBlanks tabCheck n s f
      | .ok none =>
        if f.leadingBlanks then gatherBlanks tabCheck n s.skip f
        else gatherBlanks tabCheck n s.skip { f with whitespaces := f.whitespaces.push c }
    else if isBreakChar c then
      if f.leadingBlanks then
        let (s, tb) := s.readBreak f.trailingBreaks
        gatherBlanks tabCheck n s { f with trailingBreaks := tb }
      else
        let (s, lb) := s.readBreak f.leadingBreak
        gatherBlanks tabCheck n s { f with whitespaces := "", leadingBreak := lb, leadingBlanks := true }
    else .ok (s, f)

/-- The characters of a plain scalar up to a blank or an indicator that ends it. -/
def plainRun (flow : Bool) : Nat → Scanner → Folding → Scanner × Folding
  | 0, s, f => (s, f)
  | n + 1, s, f =>
    let c := s.ch 0
    if isBlankz c then (s, f)
    else if c == ':' && (isBlankz (s.ch 1) || (flow && isFlow (s.ch 1))) then (s, f)
    else if flow && isFlow c then (s, f)
    else
      let f := if f.leadingBlanks || !f.whitespaces.isEmpty then f.join else f
      plainRun flow n s.skip { f with text := f.text.push c }

/-- A plain scalar. -/
def scanPlain : ScanM Token := do
  let s ← get
  let start := s.mark
  let indent := s.indent + 1
  let flow := s.flowLevel > 0
  let tabCheck := fun (s : Scanner) (f : Folding) =>
    if f.leadingBlanks && Int.ofNat s.mark.col < indent && s.ch 0 == '\t' then
      let rest := s.restOfLine
      if isBreakz (rest.ch 0) then .ok (some rest)
      else .error (⟨start, "while scanning a plain scalar, found a tab"⟩ : ScanError)
    else .ok none
  let rec go : Nat → Scanner → Folding → Except ScanError (Scanner × Folding)
    | 0, s, f => .ok (s, f)
    | n + 1, s, f =>
      if s.atDocumentMarker || s.ch 0 == '#' then .ok (s, f) else
      let (s, f) := plainRun flow s.left s f
      if !(isBlank (s.ch 0) || isBreakChar (s.ch 0)) then .ok (s, f) else
      match gatherBlanks tabCheck s.left s f with
      | .error e => .error e
      | .ok (s, f) =>
        if !flow && Int.ofNat s.mark.col < indent then .ok (s, f) else go n s f
  match go s.left s {} with
  | .error e => throw e
  | .ok (s, f) =>
    set (if f.leadingBlanks then { s with keyAllowed := true } else s)
    return ⟨start, .scalar .plain f.text⟩

/-- The character of a one-letter escape. -/
def simpleEscape (c : Char) : Option Char :=
  if c == '0' then some '\x00' else if c == 'a' then some '\x07' else if c == 'b' then some '\x08'
  else if c == 't' || c == '\t' then some '\t' else if c == 'n' then some '\n'
  else if c == 'v' then some '\x0b' else if c == 'f' then some '\x0c'
  else if c == 'r' then some '\r' else if c == 'e' then some '\x1b'
  else if c == ' ' then some ' ' else if c == '"' then some '"' else if c == '\'' then some '\''
  else if c == '\\' then some '\\' else if c == 'N' then some (Char.ofNat 0x85)
  else if c == '_' then some (Char.ofNat 0xA0) else if c == 'L' then some (Char.ofNat 0x2028)
  else if c == 'P' then some (Char.ofNat 0x2029) else none

/-- The characters of a quoted scalar up to a blank or its closing quote. -/
def quotedRun (single : Bool) (start : Mark) :
    Nat → Scanner → Folding → Except ScanError (Scanner × Folding)
  | 0, s, f => .ok (s, f)
  | n + 1, s, f =>
    let c := s.ch 0
    if isBlankz c then .ok (s, f)
    else if single && c == '\'' && s.ch 1 == '\'' then
      quotedRun single start n s.skip.skip { f with text := f.text.push '\'' }
    else if single && c == '\'' then .ok (s, f)
    else if !single && c == '"' then .ok (s, f)
    else if !single && c == '\\' && isBreakChar (s.ch 1) then
      .ok (s.skip.skipLine, { f with leadingBlanks := true })
    else if !single && c == '\\' then
      let e := s.ch 1
      match simpleEscape e with
      | some x => quotedRun single start n s.skip.skip { f with text := f.text.push x }
      | none =>
        let width := if e == 'x' then 2 else if e == 'u' then 4 else if e == 'U' then 8 else 0
        if width == 0 then
          .error ⟨start, "while parsing a quoted scalar, found unknown escape character"⟩
        else
          let s := s.skip.skip
          let digits := (List.range width).map s.ch
          if !digits.all isHex then
            .error ⟨start, "while parsing a quoted scalar, did not find expected hexadecimal number"⟩
          else
            let v := digits.foldl (fun acc d => acc * 16 + hexValue d) 0
            if v > 0x10FFFF || (0xD800 ≤ v && v ≤ 0xDFFF) then
              .error ⟨start, "while parsing a quoted scalar, found invalid Unicode character escape code"⟩
            else quotedRun single start n (s.skipN width) { f with text := f.text.push (Char.ofNat v) }
    else quotedRun single start n s.skip { f with text := f.text.push c }

/-- A single- or double-quoted scalar. -/
def scanQuoted (single : Bool) : ScanM Token := do
  let s ← get
  let start := s.mark
  let rec go : Nat → Scanner → Folding → Except ScanError (Scanner × Folding)
    | 0, s, f => .ok (s, f)
    | n + 1, s, f =>
      if s.atDocumentMarker then
        .error ⟨start, "while scanning a quoted scalar, found unexpected document indicator"⟩
      else if s.pos ≥ s.input.size then
        .error ⟨start, "while scanning a quoted scalar, found unexpected end of stream"⟩
      else
        match quotedRun single start s.left s { f with leadingBlanks := false } with
        | .error e => .error e
        | .ok (s, f) =>
          let c := s.ch 0
          if (single && c == '\'') || (!single && c == '"') then .ok (s, f) else
          match gatherBlanks (fun _ _ => .ok none) s.left s f with
          | .error e => .error e
          | .ok (s, f) => go n s f.join
  match go s.left s.skip {} with
  | .error e => throw e
  | .ok (s, f) =>
    set s.skip
    return ⟨start, .scalar (if single then .singleQuoted else .doubleQuoted) f.text⟩

/-- Skip the indentation and empty lines before a block scalar's line; settle the
indentation if it is not known yet. -/
def blockBreaks (outer : Int) :
    Nat → Scanner → Nat → String → Nat → Except ScanError (Scanner × Nat × String)
  | 0, s, indent, breaks, _ => .ok (s, indent, breaks)
  | n + 1, s, indent, breaks, maxIndent =>
    let rec spaces : Nat → Scanner → Scanner
      | 0, s => s
      | k + 1, s => if (indent == 0 || s.mark.col < indent) && s.ch 0 == ' ' then spaces k s.skip else s
    let s := spaces s.left s
    let maxIndent := max maxIndent s.mark.col
    if (indent == 0 || s.mark.col < indent) && s.ch 0 == '\t' then
      .error ⟨s.mark, "while scanning a block scalar, found a tab character where an indentation space is expected"⟩
    else if !isBreakChar (s.ch 0) then
      let indent := if indent == 0 then max (max maxIndent (outer + 1).toNat) 1 else indent
      .ok (s, indent, breaks)
    else
      let (s, breaks) := s.readBreak breaks
      blockBreaks outer n s indent breaks maxIndent

/-- A literal or folded block scalar. -/
def scanBlockScalar (literal : Bool) : ScanM Token := do
  let s ← get
  let start := s.mark
  let s := s.skip
  let (chomp, increment, s) ← do
    let c := s.ch 0
    if c == '+' || c == '-' then
      let chomp : Int := if c == '+' then 1 else -1
      let s := s.skip
      if (s.ch 0).isDigit then
        if s.ch 0 == '0' then
          failAt start "while scanning a block scalar, found an indentation indicator equal to 0"
        pure (chomp, (s.ch 0).toNat - 48, s.skip)
      else pure (chomp, 0, s)
    else if c.isDigit then
      if c == '0' then
        failAt start "while scanning a block scalar, found an indentation indicator equal to 0"
      let increment := c.toNat - 48
      let s := s.skip
      let c := s.ch 0
      if c == '+' || c == '-' then pure ((if c == '+' then 1 else -1), increment, s.skip)
      else pure (0, increment, s)
    else pure (0, 0, s)
  let rec blanks : Nat → Scanner → Scanner
    | 0, s => s
    | k + 1, s => if isBlank (s.ch 0) then blanks k s.skip else s
  let s := blanks s.left s
  let rec comment : Nat → Scanner → Scanner
    | 0, s => s
    | k + 1, s => if isBreakz (s.ch 0) then s else comment k s.skip
  let s := if s.ch 0 == '#' then comment s.left s else s
  if !isBreakz (s.ch 0) then
    failAt start "while scanning a block scalar, did not find expected comment or line break"
  let s := if isBreakChar (s.ch 0) then s.skipLine else s
  let indent : Nat :=
    if increment > 0 then (if s.indent ≥ 0 then (s.indent + Int.ofNat increment).toNat else increment)
    else 0
  let (s, indent, trailing) ← match blockBreaks s.indent s.left s indent "" 0 with
    | .ok r => pure r
    | .error e => throw e
  let rec lines : Nat → Scanner → String → String → String → Bool →
      Except ScanError (Scanner × String × String × String)
    | 0, s, text, lb, tb, _ => .ok (s, text, lb, tb)
    | k + 1, s, text, lb, tb, leadingBlank =>
      if !(s.mark.col == indent && s.pos < s.input.size) then .ok (s, text, lb, tb) else
      let trailingBlank := isBlank (s.ch 0)
      let (text, lb) :=
        if !literal && !lb.isEmpty && !leadingBlank && !trailingBlank then
          ((if tb.isEmpty then text.push ' ' else text), "")
        else (text ++ lb, "")
      let text := text ++ tb
      let leadingBlank := isBlank (s.ch 0)
      let rec content : Nat → Scanner → String → Scanner × String
        | 0, s, t => (s, t)
        | j + 1, s, t => if isBreakChar (s.ch 0) || s.pos ≥ s.input.size then (s, t)
          else content j s.skip (t.push (s.ch 0))
      let (s, text) := content s.left s text
      if s.pos ≥ s.input.size then .ok (s, text, lb, "") else
      let (s, lb) := s.readBreak lb
      match blockBreaks s.indent s.left s indent "" 0 with
      | .error e => .error e
      | .ok (s, _, tb) => lines k s text lb tb leadingBlank
  match lines s.left s "" "" trailing false with
  | .error e => throw e
  | .ok (s, text, lb, tb) =>
    let text := if chomp != -1 then text ++ lb else text
    let text := if chomp == 1 then text ++ tb else text
    set s
    return ⟨start, .scalar (if literal then .literal else .folded) text⟩

/-- Scan the next token. -/
def fetchNext : ScanM Unit := do
  let s ← get
  if s.tokens.isEmpty then fetchStreamStart; return
  skipToNextToken ((← get).left)
  staleSimpleKeys
  let s ← get
  unrollIndent (Int.ofNat s.mark.col)
  let s ← get
  let c := s.ch 0
  let nc := s.ch 1
  if s.pos ≥ s.input.size then fetchStreamEnd
  else if s.mark.col == 0 && c == '%' then fetchDirective
  else if s.mark.col == 0 && c == '-' && nc == '-' && s.ch 2 == '-' && isBlankz (s.ch 3) then
    fetchDocumentIndicator .documentStart
  else if s.mark.col == 0 && c == '.' && nc == '.' && s.ch 2 == '.' && isBlankz (s.ch 3) then
    fetchDocumentIndicator .documentEnd
  else if c == '[' then fetchFlowStart .flowSequenceStart
  else if c == '{' then fetchFlowStart .flowMappingStart
  else if c == ']' then fetchFlowEnd .flowSequenceEnd
  else if c == '}' then fetchFlowEnd .flowMappingEnd
  else if c == ',' then fetchFlowEntry
  else if c == '-' && isBlankz nc then fetchBlockEntry
  else if c == '?' && isBlankz nc then fetchKey
  else if c == ':' && (isBlankz nc || (s.flowLevel > 0 && (isFlow nc || s.adjacentAt == some s.mark.index))) then
    fetchValue
  else if c == '*' then fetchAnchor true
  else if c == '&' then fetchAnchor false
  else if c == '!' then fetchTag
  else if c == '|' && s.flowLevel == 0 then do
    saveSimpleKey; allowKey true; let t ← scanBlockScalar true; push t
  else if c == '>' && s.flowLevel == 0 then do
    saveSimpleKey; allowKey true; let t ← scanBlockScalar false; push t
  else if c == '\'' || c == '"' then do
    saveSimpleKey
    allowKey false
    let t ← scanQuoted (c == '\'')
    afterQuoted t.mark
    skipToNextToken ((← get).left)
    modify fun s => { s with adjacentAt := some s.mark.index }
    push t
  else if c == '%' || c == '@' || c == '`' then
    failAt s.mark ("unexpected character: `" ++ c.toString ++ "'")
  else do
    saveSimpleKey
    allowKey false
    let t ← scanPlain
    push t

/-- Scan until the end of the stream. -/
def scanAll : Nat → ScanM Unit
  | 0 => pure ()
  | fuel + 1 => do
    fetchNext
    if (← get).ended then pure () else scanAll fuel

end Scanner

/-- The tokens of a text a reader gets, and the failure that stopped the scanning, if any. A
reader asks for tokens one by one, and a token is handed out only once no possible simple key
could still be put in front of it; so after a failure the reader gets the tokens before the
first one a possible simple key waits on. -/
def scan (text : String) : Array Token × Option ScanError :=
  let input := text.toList.toArray
  let s : Scanner := ⟨input, 0, ⟨0, 1, 0⟩, #[], [], -1, [], 0, false, none, false⟩
  match (Scanner.scanAll (4 * input.size + 16)).run.run s with
  | (.ok (), s) => (s.tokens, none)
  | (.error e, s) =>
    let waiting := (s.keys.filter (·.possible)).map (·.tokenNumber)
    let handed := waiting.foldl min s.tokens.size
    (s.tokens.extract 0 handed, some e)

end Yaml
end Conveyor
