import Conveyor.Toml.Lexer

/-!
# The shape of a TOML document

The first reading of a document checks only its shape: the order of the tokens, and that
comments and line breaks hold nothing they may not. It gives the document's statements (table
headers and key/value pairs) with their keys and values as written, still undecoded. What the
keys and values say, and whether the tables fit together, is read afterwards; so a failure of
shape anywhere in a document is found before any failure of content.

A value made of atoms takes the dots and atoms that follow it, and an atom after a single blank,
so that `1.5`, `07:32:00.25` and `1979-05-27 07:32:00` are each one value (and `1 2` one value
that will not read). A key or value that is missing where the shape allows it (an empty key
between dots, an empty value before a line break) is kept as an empty stretch, to be refused
when it is read. Inline tables may span lines and end with a comma.
-/

namespace Conveyor
namespace Toml

/-- A piece of a key as written: where it stands, and its quoting (none for a bare key). -/
structure KeyPart where
  span : Span
  quoting : Option Quoting
deriving Repr

/-- A value as written. -/
inductive Piece where
  | scalar (span : Span) (quoting : Option Quoting)
  | array (items : List Piece)
  | inline (entries : List (List KeyPart × Piece))
deriving Repr

/-- A statement of a document as written: a table header (of an array of tables or not), or
a key/value pair. -/
inductive Statement where
  | header (ofArray : Bool) (key : List KeyPart)
  | pair (key : List KeyPart) (value : Piece)
deriving Repr

namespace Syntax

/-- The text and its tokens. -/
structure Input where
  chars : Array Char
  tokens : Array Token

/-- The token at a position (the end token past the last). -/
def Input.at (inp : Input) (p : Nat) : Token :=
  inp.tokens.getD p ⟨.eof, ⟨inp.chars.size, inp.chars.size⟩⟩

/-- Past a blank. -/
def blanks (inp : Input) (p : Nat) : Nat :=
  if (inp.at p).kind == .blank then p + 1 else p

/-- Whether a character may stand in a comment: a tab, or anything printable. -/
def isCommentChar (c : Char) : Bool :=
  c == '\t' || (c.toNat ≥ 0x20 && c.toNat != 0x7F)

/-- A comment may hold only tabs and printable characters. -/
def checkComment (inp : Input) (t : Token) : Except Fault Unit :=
  let positions := List.range' t.span.start (t.span.stop - t.span.start)
  match positions.find? (fun i => !isCommentChar (inp.chars.getD i ' ')) with
  | some i => throw (Fault.at ⟨i, i + 1⟩ "invalid comment character" (some [.words "printable characters"]))
  | none => pure ()

/-- A carriage return must be followed by a line feed. -/
def checkNewline (inp : Input) (t : Token) : Except Fault Unit :=
  if t.span.stop == t.span.start + 1 && inp.chars.getD t.span.start ' ' == '\r' then
    throw (Fault.at t.span "carriage return must be followed by newline" (some [.literal "\n"]))
  else pure ()

/-- A comment, and the line break after it if there is one. -/
def commentLine (inp : Input) (p : Nat) : Except Fault Nat := do
  checkComment inp (inp.at p)
  let t := inp.at (p + 1)
  if t.kind == .newline then
    checkNewline inp t
    pure (p + 2)
  else pure (p + 1)

/-- The end of a statement: a blank, a comment, then a line break or the end. -/
def lineEnd (inp : Input) (p : Nat) : Except Fault Nat := do
  let p := blanks inp p
  let t := inp.at p
  match t.kind with
  | .comment => commentLine inp p
  | .newline => checkNewline inp t; pure (p + 1)
  | .eof => pure p
  | _ => throw (Fault.at t.span.before "unexpected key or value" (some [.literal "\n", .literal "#"]))

/-- Pass over the rest of a line, still checking its comments and line break. -/
def skipLine (inp : Input) : Nat → Nat → Except Fault Nat
  | 0, p => pure p
  | fuel + 1, p =>
    let t := inp.at p
    match t.kind with
    | .newline => do checkNewline inp t; pure (p + 1)
    | .eof => pure p
    | .comment => do checkComment inp t; skipLine inp fuel (p + 1)
    | _ => skipLine inp fuel (p + 1)

/-- The key piece of a string or atom token. -/
def partOf (t : Token) : KeyPart := ⟨t.span, t.kind.quoting⟩

/-- An empty key piece where a token starts. -/
def emptyPart (t : Token) : KeyPart := ⟨t.span.before, none⟩

mutual
/-- More pieces of a dotted key, each after a dot; also whether none was missing. -/
def dotKeys (inp : Input) : Nat → Nat → Array KeyPart → Array KeyPart × Bool × Nat
  | 0, p, acc => (acc, true, p)
  | fuel + 1, p, acc =>
    let p := blanks inp p
    if (inp.at p).kind == .dot then afterDot inp fuel (p + 1) acc else (acc, true, p)
/-- The piece after a dot; a missing one is kept empty. -/
def afterDot (inp : Input) : Nat → Nat → Array KeyPart → Array KeyPart × Bool × Nat
  | 0, p, acc => (acc, true, p)
  | fuel + 1, p, acc =>
    let t := inp.at p
    match t.kind with
    | .blank => afterDot inp fuel (p + 1) acc
    | .dot => afterDot inp fuel (p + 1) (acc.push (emptyPart t))
    | k => if k.isWord then dotKeys inp fuel (p + 1) (acc.push (partOf t))
      else (acc.push (emptyPart t), false, p)
end

/-- The key of a table header; also whether it is whole. -/
def headerKey (inp : Input) : Nat → Nat → Array KeyPart → Array KeyPart × Bool × Nat
  | 0, p, acc => (acc, false, p)
  | fuel + 1, p, acc =>
    let t := inp.at p
    match t.kind with
    | .blank => headerKey inp fuel (p + 1) acc
    | .dot => headerKey inp fuel (p + 1) (acc.push (emptyPart t))
    | k => if k.isWord then dotKeys inp fuel (p + 1) (acc.push (partOf t))
      else (acc.push (emptyPart t), false, p)

/-- The stretch of the last token before a position that is not a blank, comment, line break
or the end (the start of the text if there is none). -/
def lastSignificant (inp : Input) (p : Nat) : Span :=
  let significant (t : Token) : Bool :=
    !(t.kind == .blank || t.kind == .comment || t.kind == .newline || t.kind == .eof)
  match ((inp.tokens.toList.take p).reverse.find? significant) with
  | some t => t.span
  | none => ⟨0, 0⟩

/-- The stretch of the last token before a position that is not a blank. -/
def lastNonBlank (inp : Input) (p : Nat) : Option Span :=
  ((inp.tokens.toList.take p).reverse.find? (·.kind != .blank)).map (·.span)

/-- A value made of atoms: the dots and atoms that follow, and an atom after a blank. -/
def mergeAtoms (inp : Input) : Nat → Span → Nat → Span × Nat
  | 0, s, p => (s, p)
  | fuel + 1, s, p =>
    let t := inp.at p
    match t.kind with
    | .dot | .atom => mergeAtoms inp fuel (s.join t.span) (p + 1)
    | .blank =>
      let t2 := inp.at (p + 1)
      if t2.kind == .atom then mergeAtoms inp fuel (s.join t2.span) (p + 2) else (s, p)
    | _ => (s, p)

/-- A scalar value at a string, atom or dot token. -/
def scalarAt (inp : Input) (fuel p : Nat) : Piece × Nat :=
  let t := inp.at p
  match t.kind.quoting with
  | some q => (.scalar t.span (some q), p + 1)
  | none =>
    let (s, p) := mergeAtoms inp fuel t.span (p + 1)
    (.scalar s none, p)

/-- Where an inline table is: waiting for a key, for `=` after a key, for the value of a key,
or for a comma. -/
inductive InlineState where
  | key
  | equals (key : Array KeyPart)
  | value (key : Array KeyPart)
  | comma

/-- What an inline table waits for, in failures. -/
def InlineState.expected : InlineState → List Expected
  | .key => [.words "key"]
  | .equals _ => [.literal "="]
  | .value _ => [.words "value"]
  | .comma => [.literal ","]

/-- A failure for running out of steps, which a text of this many tokens never meets. -/
def exhausted (inp : Input) (p : Nat) : Fault :=
  Fault.at (inp.at p).span "recursion limit exceeded" none

mutual
/-- A value. -/
def value (inp : Input) : Nat → Nat → Except Fault (Piece × Nat)
  | 0, p => throw (exhausted inp p)
  | fuel + 1, p =>
    let t := inp.at p
    match t.kind with
    | .comment | .comma | .newline | .eof | .blank => pure (.scalar t.span.before none, p)
    | .equals => throw (Fault.at t.span "extra `=`" (some []))
    | .openBrace => inlineBody inp fuel (p + 1) .key #[]
    | .closeBrace => throw (Fault.at t.span.before "missing inline table opening" (some [.literal "\x7b"]))
    | .openBracket => arrayBody inp fuel (p + 1) true #[]
    | .closeBracket => throw (Fault.at t.span.before "missing array opening" (some [.literal "["]))
    | _ => pure (scalarAt inp fuel p)
/-- The items of an array after its opening bracket; `needsValue` after the bracket and after
each comma. -/
def arrayBody (inp : Input) : Nat → Nat → Bool → Array Piece → Except Fault (Piece × Nat)
  | 0, p, _, _ => throw (exhausted inp p)
  | fuel + 1, p, needsValue, items =>
    let t := inp.at p
    let separated : Except Fault Unit :=
      if needsValue then pure ()
      else throw (Fault.at t.span.before "missing comma between array elements" (some [.literal ","]))
    match t.kind with
    | .comment => do
      let p ← commentLine inp p
      arrayBody inp fuel p needsValue items
    | .blank => arrayBody inp fuel (p + 1) needsValue items
    | .newline => do
      checkNewline inp t
      arrayBody inp fuel (p + 1) needsValue items
    | .eof => throw (Fault.at (lastSignificant inp p).after "unclosed array" (some [.literal "]"]))
    | .comma =>
      if needsValue then throw (Fault.at t.span "extra comma in array" (some [.words "value"]))
      else arrayBody inp fuel (p + 1) true items
    | .equals => throw (Fault.at t.span "unexpected `=` in array" (some [.words "value", .literal "]"]))
    | .openBrace => do
      separated
      let (v, p) ← inlineBody inp fuel (p + 1) .key #[]
      arrayBody inp fuel p false (items.push v)
    | .closeBrace =>
      throw (Fault.at t.span "unexpected `\x7d` in array" (some [.words "value", .literal "]"]))
    | .openBracket => do
      separated
      let (v, p) ← arrayBody inp fuel (p + 1) true #[]
      arrayBody inp fuel p false (items.push v)
    | .closeBracket => pure (.array items.toList, p + 1)
    | _ => do
      separated
      let (v, p) := scalarAt inp fuel p
      arrayBody inp fuel p false (items.push v)
/-- The entries of an inline table after its opening brace. -/
def inlineBody (inp : Input) : Nat → Nat → InlineState → Array (List KeyPart × Piece) →
    Except Fault (Piece × Nat)
  | 0, p, _, _ => throw (exhausted inp p)
  | fuel + 1, p, st, entries =>
    let t := inp.at p
    let refuse (description : String) : Except Fault (Piece × Nat) :=
      throw (Fault.at t.span.before description (some st.expected))
    match t.kind with
    | .comment => do
      let p ← commentLine inp p
      inlineBody inp fuel p st entries
    | .blank => inlineBody inp fuel (p + 1) st entries
    | .newline => do
      checkNewline inp t
      inlineBody inp fuel (p + 1) st entries
    | .eof =>
      throw (Fault.at (lastSignificant inp p).after "unclosed inline table" (some [.literal "\x7d"]))
    | .comma =>
      match st with
      | .comma => inlineBody inp fuel (p + 1) .key entries
      | _ => refuse "extra comma in inline table"
    | .equals =>
      match st with
      | .key => inlineBody inp fuel (p + 1) (.value #[emptyPart t]) entries
      | .equals k => inlineBody inp fuel (p + 1) (.value k) entries
      | _ => refuse "extra assignment between key-value pairs"
    | .openBrace | .openBracket =>
      match st with
      | .value k => do
        let (v, p) ← if t.kind == .openBrace then inlineBody inp fuel (p + 1) .key #[]
          else arrayBody inp fuel (p + 1) true #[]
        inlineBody inp fuel p .comma (entries.push (k.toList, v))
      | .equals _ => refuse "missing assignment between key-value pairs"
      | _ => refuse "missing key for inline table element"
    | .closeBrace =>
      match st with
      | .key | .comma => pure (.inline entries.toList, p + 1)
      | .equals _ => refuse "key with no value"
      | .value k => pure (.inline (entries.push (k.toList, .scalar t.span.before none)).toList, p + 1)
    | .closeBracket =>
      match st with
      | .value _ => throw (Fault.at t.span.before "missing array opening" (some [.literal "["]))
      | _ => refuse "missing key for inline table element"
    | _ =>
      match st with
      | .key =>
        let (parts, _, p) := if t.kind == .dot then dotKeys inp fuel p #[emptyPart t]
          else dotKeys inp fuel (p + 1) #[partOf t]
        inlineBody inp fuel p (.equals parts) entries
      | .equals _ => refuse "missing assignment between key-value pairs"
      | .value k =>
        let (v, p) := scalarAt inp fuel p
        inlineBody inp fuel p .comma (entries.push (k.toList, v))
      | .comma => refuse "missing comma between key-value pairs"
end

/-- The value of a key/value pair after its key, to the end of the line. -/
def pairValue (inp : Input) (fuel : Nat) (key : Array KeyPart) (p : Nat) :
    Except Fault (Statement × Nat) := do
  let p := blanks inp p
  let t := inp.at p
  if t.kind == .equals then
    let (v, p) ← value inp fuel (blanks inp (p + 1))
    let p ← lineEnd inp p
    pure (.pair key.toList v, p)
  else throw (Fault.at t.span.before "key with no value" (some [.literal "="]))

/-- A table header, from its opening bracket to the end of the line. -/
def tableHeader (inp : Input) (fuel p : Nat) : Except Fault (Statement × Nat) := do
  let ofArray := (inp.at (p + 1)).kind == .openBracket
  let (key, whole, q) := headerKey inp fuel (blanks inp (p + if ofArray then 2 else 1)) #[]
  let q := blanks inp q
  let t := inp.at q
  let header := Statement.header ofArray key.toList
  if t.kind == .closeBracket then
    if ofArray then
      if (inp.at (q + 1)).kind == .closeBracket then pure (header, ← lineEnd inp (q + 2))
      else throw (Fault.at t.span.after "unclosed array table" (some [.literal "]"]))
    else pure (header, ← lineEnd inp (q + 1))
  else if whole then
    let last := (lastNonBlank inp q).getD (inp.at p).span
    throw (Fault.at last.after (if ofArray then "unclosed array table" else "unclosed table")
      (some [.literal (if ofArray then "]]" else "]")]))
  else pure (header, ← skipLine inp fuel q)

/-- The statements of a document from a position. -/
def statements (inp : Input) : Nat → Nat → Array Statement → Except Fault (Array Statement)
  | 0, _, acc => pure acc
  | fuel + 1, p, acc =>
    let t := inp.at p
    match t.kind with
    | .eof => pure acc
    | .blank => statements inp fuel (p + 1) acc
    | .newline => do
      checkNewline inp t
      statements inp fuel (p + 1) acc
    | .comment => do
      let p ← commentLine inp p
      statements inp fuel p acc
    | .openBracket => do
      let (st, p) ← tableHeader inp fuel p
      statements inp fuel p (acc.push st)
    | .closeBracket => throw (Fault.at t.span.before "missing table open" (some [.literal "["]))
    | .comma | .openBrace | .closeBrace => throw (Fault.at t.span.before "missing key" (some [.words "key"]))
    | .equals => do
      let (st, p) ← pairValue inp fuel #[emptyPart t] p
      statements inp fuel p (acc.push st)
    | _ => do
      let (key, _, q) := if t.kind == .dot then dotKeys inp fuel p #[emptyPart t]
        else dotKeys inp fuel (p + 1) #[partOf t]
      let (st, p) ← pairValue inp fuel key q
      statements inp fuel p (acc.push st)

end Syntax

/-- The statements of a document given as its characters, or the first failure of shape. -/
def statementsOf (cs : Array Char) : Except Fault (List Statement) :=
  let inp : Syntax.Input := ⟨cs, lex cs⟩
  (·.toList) <$> Syntax.statements inp (2 * inp.tokens.size + 4) 0 #[]

end Toml
end Conveyor
