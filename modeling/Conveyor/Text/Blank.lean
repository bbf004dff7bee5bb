/-!
# Blank characters

The characters with the Unicode White_Space property: tab, line feed, vertical tab, form feed,
carriage return, space, next line, no-break space, ogham space mark, the spaces from en quad to
hair space, line and paragraph separators, narrow no-break space, medium mathematical space and
ideographic space. `isBlank` is that set; `trimBlank` drops blanks at both ends.
-/

namespace Conveyor

/-- Whether a character has the Unicode White_Space property. -/
def isBlank (c : Char) : Bool :=
  let n := c.toNat
  (0x09 ≤ n && n ≤ 0x0d) || n == 0x20 || n == 0x85 || n == 0xa0 || n == 0x1680 ||
  (0x2000 ≤ n && n ≤ 0x200a) || n == 0x2028 || n == 0x2029 || n == 0x202f || n == 0x205f ||
  n == 0x3000

/-- A text without blanks at either end. -/
def trimBlank (s : String) : String :=
  String.ofList ((s.toList.dropWhile isBlank).reverse.dropWhile isBlank).reverse

end Conveyor
