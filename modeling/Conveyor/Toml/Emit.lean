import Conveyor.Text.Decimal
import Conveyor.Toml.Lexer

/-!
# Writing TOML values

- A text is written in the first of these forms that holds it without escapes: a *basic*
  string (`"…"`) if it has no control character, backslash, double quote or line feed; a
  *literal* string (`'…'`) if it has no control character, single quote or line feed; a
  multi-line basic string (`"""…"""`) if it has no control character, backslash or run of three
  double quotes; a multi-line literal string (`'''…'''`) if it has no control character or run of
  three single quotes. Otherwise it is a multi-line basic string with escapes if it has a line
  feed, and a basic one if not. Tab and line feed do not count as control characters here; a
  multi-line form starts with a line break when the text has a line feed.
- A double is written with the fewest digits that read back, always positionally, and with
  `.0` when it is whole; `inf`, `-inf`, `nan` and `-nan` otherwise.
-/

namespace Conveyor
namespace Toml

/-- Whether a character is a control character that must be escaped. -/
def isControl (c : Char) : Bool := c.toNat ≤ 0x1F || c.toNat == 0x7F

/-- The longest run of a character in a list of characters. -/
def longestRun (q : Char) (cs : List Char) : Nat :=
  (cs.foldl (fun (acc : Nat × Nat) c =>
    if c == q then (max acc.1 (acc.2 + 1), acc.2 + 1) else (acc.1, 0)) (0, 0)).1

/-- The form a text is written in. -/
def quoting (s : String) : Quoting :=
  let cs := s.toList
  let controls := cs.any fun c => isControl c && c != '\t' && c != '\n'
  let backslash := cs.contains '\\'
  let newline := cs.contains '\n'
  let singles := longestRun '\'' cs
  let doubles := longestRun '"' cs
  if !controls && !backslash && doubles == 0 && !newline then .basic
  else if !controls && singles == 0 && !newline then .literal
  else if !controls && !backslash && doubles ≤ 2 then .multiBasic
  else if !controls && singles ≤ 2 then .multiLiteral
  else if newline then .multiBasic
  else .basic

/-- Four upper-case hexadecimal digits. -/
def hex4 (n : Nat) : String :=
  let digit (d : Nat) : Char := if d < 10 then Char.ofNat (48 + d) else Char.ofNat (55 + d)
  String.ofList ((List.range 4).reverse.map fun i => digit ((n / Nat.pow 16 i) % 16))

/-- One character of a basic string, other than a double quote. -/
def escapeBasic (multiLine : Bool) (c : Char) : String :=
  let n := c.toNat
  if n == 8 then "\\b" else if n == 9 then "\\t"
  else if n == 10 then (if multiLine then "\n" else "\\n")
  else if n == 12 then "\\f" else if n == 13 then "\\r"
  else if c == '\\' then "\\\\"
  else if isControl c then "\\u" ++ hex4 n
  else c.toString

/-- The body of a basic string: every double quote escaped in one line; in several lines only one
that two unescaped ones precede. -/
def basicBody (multiLine : Bool) (cs : List Char) : String :=
  (cs.foldl (fun (acc : String × Nat) c =>
    if c == '"' then
      if !multiLine || acc.2 ≥ 2 then (acc.1 ++ "\\\"", 0) else (acc.1 ++ "\"", acc.2 + 1)
    else (acc.1 ++ escapeBasic multiLine c, 0)) ("", 0)).1

/-- A text as a TOML string. -/
def string (s : String) : String :=
  let lead := if s.toList.contains '\n' then "\n" else ""
  match quoting s with
  | .basic => "\"" ++ basicBody false s.toList ++ "\""
  | .literal => "'" ++ s ++ "'"
  | .multiBasic => "\"\"\"" ++ lead ++ basicBody true s.toList ++ "\"\"\""
  | .multiLiteral => "'''" ++ lead ++ s ++ "'''"

/-- Doubles written positionally with the fewest digits, without `.0`. -/
def plainStyle : Decimal.FloatStyle := ⟨1000, -1000, "", false⟩

/-- A double as a TOML float. -/
def float (x : Float) : String :=
  if x.isNaN then (if x.toBits.toNat ≥ Nat.pow 2 63 then "-nan" else "nan")
  else if x.isInf then (if x > 0 then "inf" else "-inf")
  else if x == 0 then (if x.toBits.toNat ≥ Nat.pow 2 63 then "-0.0" else "0.0")
  else
    let text := Decimal.render plainStyle x
    if text.contains '.' then text else text ++ ".0"

end Toml
end Conveyor
