/-!
# Texts in quotes for messages

Messages show a text in double quotes with escapes: backslash, double quote, tab, carriage
return, line feed and the null character by a backslash and a letter, other control characters
as `\u` with their hexadecimal code in braces.
-/

namespace Conveyor
namespace Escape

/-- Lower-case hexadecimal digits of a number, without leading zeros. -/
def hex (n : Nat) : String := String.ofList (Nat.toDigits 16 n)

/-- One character inside double quotes. -/
def char (c : Char) : String :=
  let n := c.toNat
  if c == '\\' then "\\\\" else if c == '"' then "\\\""
  else if c == '\t' then "\\t" else if c == '\r' then "\\r" else if c == '\n' then "\\n"
  else if n == 0 then "\\0"
  else if n < 0x20 || (0x7F ≤ n && n < 0xA0) then "\\u\x7b" ++ hex n ++ "\x7d"
  else c.toString

/-- A text in double quotes with escapes. -/
def quoted (s : String) : String :=
  "\"" ++ String.join (s.toList.map char) ++ "\""

end Escape
end Conveyor
