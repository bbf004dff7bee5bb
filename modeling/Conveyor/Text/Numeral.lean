import Conveyor.Text.Decimal

/-!
# Reading numerals

The numerals of configuration values:

- `Numeral.natural? bits` reads a count: an optional `+` and decimal digits, below `2 ^ bits`;
- `Numeral.integer? bits` reads a whole number with an optional sign, within the two's
  complement range of `bits` bits;
- `Numeral.float?` reads a decimal double: an optional sign, then digits with an optional point
  and fraction (or a point and digits), and an optional exponent; or, in any case of letters,
  `inf`, `infinity` or `nan`. The value is the double nearest to the decimal.

`Numeral.display` writes a double the way a plain display does: the fewest digits that read
back, always positionally, without `.0` for a whole number; `NaN`, `inf` and `-inf` otherwise.
-/

namespace Conveyor
namespace Numeral

/-- The value of decimal digits. -/
def digitsValue (cs : List Char) : Nat :=
  cs.foldl (fun acc c => acc * 10 + (c.toNat - 48)) 0

/-- A non-empty run of decimal digits. -/
def digits? (cs : List Char) : Option Nat :=
  if cs.isEmpty || !cs.all Char.isDigit then none else some (digitsValue cs)

/-- A count below `2 ^ bits`, with an optional `+`. -/
def natural? (bits : Nat) (s : String) : Option Nat :=
  let cs := match s.toList with | '+' :: rest => rest | cs => cs
  (digits? cs).filter (· < Nat.pow 2 bits)

/-- A whole number of `bits` bits in two's complement, with an optional sign. -/
def integer? (bits : Nat) (s : String) : Option Int :=
  match s.toList with
  | '-' :: rest => (digits? rest).bind fun n =>
      if n ≤ Nat.pow 2 (bits - 1) then some (-(Int.ofNat n)) else none
  | '+' :: rest => (digits? rest).bind fun n =>
      if n < Nat.pow 2 (bits - 1) then some (Int.ofNat n) else none
  | cs => (digits? cs).bind fun n => if n < Nat.pow 2 (bits - 1) then some (Int.ofNat n) else none

/-- A decimal without sign as mantissa and exponent: digits, an optional point and fraction,
an optional exponent. -/
def decimal? (cs : List Char) : Option (Nat × Int) :=
  let whole := cs.takeWhile Char.isDigit
  let rest := cs.dropWhile Char.isDigit
  let (frac, rest) := match rest with
    | '.' :: r => (r.takeWhile Char.isDigit, r.dropWhile Char.isDigit)
    | r => ([], r)
  if whole.isEmpty && frac.isEmpty then none
  else
    let mant := digitsValue (whole ++ frac)
    let fracLen := Int.ofNat frac.length
    match rest with
    | [] => some (mant, -fracLen)
    | e :: r =>
      if e != 'e' && e != 'E' then none
      else
        let (neg, ds) := match r with
          | '+' :: d => (false, d)
          | '-' :: d => (true, d)
          | d => (false, d)
        match digits? ds with
        | some ev => some (mant, (if neg then -(Int.ofNat ev) else Int.ofNat ev) - fracLen)
        | none => none

/-- The double nearest to `m · 10 ^ e`. -/
def scientific (m : Nat) (e : Int) : Float :=
  let magnitude := Int.ofNat (toString m).length + e
  if m == 0 then 0.0
  else if magnitude > 400 then 1.0 / 0.0
  else if magnitude < -400 then 0.0
  else if e ≥ 0 then Float.ofScientific m false e.toNat
  else Float.ofScientific m true (-e).toNat

/-- A decimal double, or one of the words for infinity and NaN. -/
def float? (s : String) : Option Float :=
  let (neg, body) := match s.toList with
    | '-' :: rest => (true, rest)
    | '+' :: rest => (false, rest)
    | cs => (false, cs)
  let word := (String.ofList body).toLower
  let apply (x : Float) : Float := if neg then -x else x
  if word == "inf" || word == "infinity" then some (apply (1.0 / 0.0))
  else if word == "nan" then some (apply (0.0 / 0.0))
  else (decimal? body).map fun (m, e) => apply (scientific m e)

/-- Doubles written positionally with the fewest digits, without `.0`. -/
def displayStyle : Decimal.FloatStyle := ⟨1000, -1000, "", false⟩

/-- A double as a plain display writes it. -/
def display (x : Float) : String :=
  if x.isNaN then "NaN"
  else if x.isInf then (if x > 0 then "inf" else "-inf")
  else Decimal.render displayStyle x

end Numeral
end Conveyor
