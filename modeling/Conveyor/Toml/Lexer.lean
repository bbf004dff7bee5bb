import Conveyor.Toml.Source

/-!
# Tokens of a TOML text

The lexer cuts a text into tokens and never fails: whatever is wrong is found later, by the
parser or when a token is read. The punctuation `[ ] { } = , .` are tokens of one character; a
run of spaces and tabs is a blank; a comment runs from `#` to the end of its line (not taking
the line break); a line break is `\n` or `\r\n` (a lone `\r` is a line break too, to be refused
later). Strings take their quotes: a one-line string ends at its closing quote, or just before
the end of its line if it has none; a multi-line string ends at its closing delimiter, which
may have one or two quotes more before it, or at the end of the text. Anything else is an atom,
running up to the next punctuation, blank, comment or line break: bare keys, numbers,
booleans and date-times are all atoms. A byte order mark at the start is passed over, and an
end token closes the list.
-/

namespace Conveyor
namespace Toml

/-- What a token is. -/
inductive TokenKind where
  | openBracket
  | closeBracket
  | openBrace
  | closeBrace
  | equals
  | comma
  | dot
  | blank
  | comment
  | newline
  | basic
  | literal
  | multiBasic
  | multiLiteral
  | atom
  | eof
deriving DecidableEq, Repr, Inhabited

/-- A token: what it is and where. -/
structure Token where
  kind : TokenKind
  span : Span
deriving Repr, Inhabited

/-- How a string is quoted. -/
inductive Quoting where
  | basic
  | literal
  | multiBasic
  | multiLiteral
deriving DecidableEq, Repr

/-- The quoting of a string token. -/
def TokenKind.quoting : TokenKind → Option Quoting
  | .basic => some .basic
  | .literal => some .literal
  | .multiBasic => some .multiBasic
  | .multiLiteral => some .multiLiteral
  | _ => none

/-- Whether a token can stand as a key or a value by itself: a string or an atom. -/
def TokenKind.isWord (k : TokenKind) : Bool := k == .atom || k.quoting.isSome

namespace Lexer

/-- Whether the text has a run of characters at a position. -/
def hasAt (cs : Array Char) (i : Nat) : List Char → Bool
  | [] => true
  | c :: rest => cs[i]? == some c && hasAt cs (i + 1) rest

/-- The first position at or after `i` whose character fails a test (or the end). -/
def skipWhile (cs : Array Char) (p : Char → Bool) (i : Nat) : Nat :=
  if h : i < cs.size then
    if p cs[i] then skipWhile cs p (i + 1) else i
  else i
termination_by cs.size - i

/-- The end of a basic string from after its opening quote: past the closing quote, or at
the line break or the end of the text. A backslash passes over a following backslash or quote. -/
def basicEnd (cs : Array Char) (i : Nat) : Nat :=
  if h : i < cs.size then
    let c := cs[i]
    if c == '"' then i + 1
    else if c == '\n' then i
    else if c == '\\' then
      if cs[i + 1]? == some '\\' || cs[i + 1]? == some '"' then basicEnd cs (i + 2)
      else basicEnd cs (i + 1)
    else basicEnd cs (i + 1)
  else i
termination_by cs.size - i

/-- The end of a literal string from after its opening quote: past the closing quote, or at
the line break or the end of the text. -/
def literalEnd (cs : Array Char) (i : Nat) : Nat :=
  let j := skipWhile cs (fun c => c != '\'' && c != '\n') i
  if cs[j]? == some '\'' then j + 1 else j

/-- Past up to two more quotes after a closing delimiter. -/
def extraQuotes (cs : Array Char) (q : Char) (i : Nat) : Nat :=
  if cs[i]? == some q then (if cs[i + 1]? == some q then i + 2 else i + 1) else i

/-- The end of a multi-line basic string from after its opening delimiter. -/
def multiBasicEnd (cs : Array Char) (i : Nat) : Nat :=
  if h : i < cs.size then
    if hasAt cs i ['"', '"', '"'] then extraQuotes cs '"' (i + 3)
    else if cs[i] == '\\' then
      if cs[i + 1]? == some '\\' || cs[i + 1]? == some '"' then multiBasicEnd cs (i + 2)
      else multiBasicEnd cs (i + 1)
    else multiBasicEnd cs (i + 1)
  else i
termination_by cs.size - i

/-- The end of a multi-line literal string from after its opening delimiter. -/
def multiLiteralEnd (cs : Array Char) (i : Nat) : Nat :=
  if h : i < cs.size then
    if hasAt cs i ['\'', '\'', '\''] then extraQuotes cs '\'' (i + 3)
    else multiLiteralEnd cs (i + 1)
  else i
termination_by cs.size - i

/-- Whether a character ends an atom. -/
def endsAtom (c : Char) : Bool :=
  c == '.' || c == '=' || c == ',' || c == '[' || c == ']' || c == '{' || c == '}' ||
    c == ' ' || c == '\t' || c == '#' || c == '\r' || c == '\n'

/-- The token that starts at a position before the end: its kind and where it ends. -/
def tokenAt (cs : Array Char) (i : Nat) (c : Char) : TokenKind × Nat :=
  match c with
  | '.' => (.dot, i + 1)
  | '=' => (.equals, i + 1)
  | ',' => (.comma, i + 1)
  | '[' => (.openBracket, i + 1)
  | ']' => (.closeBracket, i + 1)
  | '{' => (.openBrace, i + 1)
  | '}' => (.closeBrace, i + 1)
  | ' ' | '\t' => (.blank, skipWhile cs (fun c => c == ' ' || c == '\t') i)
  | '#' => (.comment, skipWhile cs (fun c => c != '\r' && c != '\n') i)
  | '\r' => (.newline, if cs[i + 1]? == some '\n' then i + 2 else i + 1)
  | '\n' => (.newline, i + 1)
  | '\'' =>
    if hasAt cs i ['\'', '\'', '\''] then (.multiLiteral, multiLiteralEnd cs (i + 3))
    else (.literal, literalEnd cs (i + 1))
  | '"' =>
    if hasAt cs i ['"', '"', '"'] then (.multiBasic, multiBasicEnd cs (i + 3))
    else (.basic, basicEnd cs (i + 1))
  | _ => (.atom, skipWhile cs (fun c => !endsAtom c) i)

/-- The tokens from a position to the end. -/
def tokensFrom (cs : Array Char) (i : Nat) (acc : Array Token) : Array Token :=
  if h : i < cs.size then
    let t := tokenAt cs i cs[i]
    let next := if t.2 ≤ i then i + 1 else t.2
    tokensFrom cs next (acc.push ⟨t.1, ⟨i, next⟩⟩)
  else acc.push ⟨.eof, ⟨cs.size, cs.size⟩⟩
termination_by cs.size - i
decreasing_by all_goals (split <;> omega)

end Lexer

/-- The tokens of a text, given as its characters. -/
def lex (cs : Array Char) : Array Token :=
  Lexer.tokensFrom cs (if cs[0]? == some '\uFEFF' then 1 else 0) #[]

end Toml
end Conveyor
