/-!
# Decimal text of binary floating-point numbers

A finite double is `m · 2 ^ q` for integers `m` and `q`. Every real in its rounding interval
reads back as the same double; the interval reaches half way to each neighbour and holds its
ends exactly when `m` is even (ties go to the even mantissa when text is read).

- `Decimal.shortest` finds the fewest significant digits `d` and the exponent `e` with
  `d · 10 ^ e` in the rounding interval; among two candidates on the same grid it takes the
  nearer, and an exact tie goes to the even digit string.
- `Decimal.fixed` writes the exact binary value with a fixed number of places, a tie going to
  the even last digit.
- `FloatStyle` records the choices of one printer: where positional notation ends, how the
  exponent is marked, and whether a whole number keeps a `.0`.
-/

namespace Conveyor
namespace Decimal

/-- The number of decimal digits of a positive number (one for zero). -/
def digitCount (n : Nat) : Nat :=
  (toString n).length

/-- The largest `k` with `10 ^ k ≤ num / den`, for positive `num` and `den`. -/
def floorLog10 (num den : Nat) : Int :=
  if den ≤ num then
    Int.ofNat (digitCount (num / den)) - 1
  else
    -(Int.ofNat (digitCount ((den - 1) / num)))

/-- A nonnegative rational `num / den` times `10 ^ k`. -/
def scale10 (num den : Nat) (k : Int) : Nat × Nat :=
  if 0 ≤ k then (num * Nat.pow 10 k.toNat, den) else (num, den * Nat.pow 10 (-k).toNat)

/-- The parts of a finite double: sign, integer mantissa `m` and exponent `q`, with the value
`m · 2 ^ q`, and whether the gap below is half the gap above (at a power of two). -/
structure Parts where
  negative : Bool
  mantissa : Nat
  exponent : Int
  narrowBelow : Bool

/-- Split a double into its parts; `none` for infinities and NaN. -/
def parts (x : Float) : Option Parts :=
  let bits := x.toBits.toNat
  let negative := bits / Nat.pow 2 63 == 1
  let biased := (bits / Nat.pow 2 52) % Nat.pow 2 11
  let fraction := bits % Nat.pow 2 52
  if biased == 2047 then none
  else if biased == 0 then
    some ⟨negative, fraction, -1074, false⟩
  else
    some ⟨negative, fraction + Nat.pow 2 52, Int.ofNat biased - 1075, fraction == 0 && biased > 1⟩

/-- The rational `n · 2 ^ e` as numerator and denominator. -/
def binaryRatio (n : Nat) (e : Int) : Nat × Nat :=
  if 0 ≤ e then (n * Nat.pow 2 e.toNat, 1) else (n, Nat.pow 2 (-e).toNat)

/-- Whether `a / b ≤ c / d` for positive denominators. -/
def ratioLe (a b c d : Nat) : Bool := a * d ≤ c * b

/-- Whether `a / b < c / d` for positive denominators. -/
def ratioLt (a b c d : Nat) : Bool := a * d < c * b

/-- The shortest digits of a positive finite double given by its parts: `(d, e)` with value
`d · 10 ^ e` and no trailing zero in `d`. -/
def shortestOfParts (p : Parts) : Nat × Int :=
  -- value and interval ends, all as multiples of 2 ^ (exponent - 2)
  let e := p.exponent - 2
  let v := 4 * p.mantissa
  let hi := v + 2
  let lo := if p.narrowBelow then v - 1 else v - 2
  let inclusive := p.mantissa % 2 == 0
  let (vn, vd) := binaryRatio v e
  let (hn, hd) := binaryRatio hi e
  let (ln, ld) := binaryRatio lo e
  let top := floorLog10 vn vd
  let inside (c : Nat) (k : Int) : Bool :=
    let (cn, cd) := scale10 c 1 k
    if inclusive then ratioLe ln ld cn cd && ratioLe cn cd hn hd
    else ratioLt ln ld cn cd && ratioLt cn cd hn hd
  let distance (c : Nat) (k : Int) : Nat × Nat :=
    -- |c · 10 ^ k - v| as a ratio over a common denominator
    let (cn, cd) := scale10 c 1 k
    let a := cn * vd
    let b := vn * cd
    (if a ≥ b then a - b else b - a, cd * vd)
  let pick (n : Nat) : Option (Nat × Int) :=
    let k := top - Int.ofNat n + 1
    let (sn, sd) := scale10 vn vd (-k)
    let below := sn / sd
    let above := below + 1
    match inside below k, inside above k with
    | true, true =>
      let (da, db) := distance below k
      let (ua, ub) := distance above k
      if ratioLt da db ua ub then some (below, k)
      else if ratioLt ua ub da db then some (above, k)
      else if below % 2 == 0 then some (below, k) else some (above, k)
    | true, false => some (below, k)
    | false, true => some (above, k)
    | false, false => none
  let found := (List.range 17).findSome? fun i => pick (i + 1)
  let (d, k) := found.getD (0, 0)
  -- strip trailing zeros
  let rec strip (fuel : Nat) (d : Nat) (k : Int) : Nat × Int :=
    match fuel with
    | 0 => (d, k)
    | fuel + 1 => if d != 0 && d % 10 == 0 then strip fuel (d / 10) (k + 1) else (d, k)
  strip 20 d k

/-- The shortest decimal form of a finite nonzero double: sign, digits and exponent. -/
def shortest (x : Float) : Option (Bool × Nat × Int) :=
  match parts x with
  | none => none
  | some p => if p.mantissa == 0 then some (p.negative, 0, 0) else
      let (d, k) := shortestOfParts p
      some (p.negative, d, k)

/-- How one printer writes a finite double. -/
structure FloatStyle where
  /-- Positional notation is used while the decimal point stays within this many places
  after the last digit on the left. -/
  maxPoint : Int
  /-- Positional notation is used while the point is after this position on the right
  (a negative number of leading zeros). -/
  minPoint : Int
  /-- Text between the mantissa and a positive exponent. -/
  plusMark : String
  /-- Whether a whole number keeps `.0`. -/
  keepPointZero : Bool

/-- Write a number with digit string `ds` and point after position `point`
(`d₁…dₙ · 10 ^ (point - n)`) positionally. -/
def positional (ds : String) (point : Int) (keepPointZero : Bool) : String :=
  let n := Int.ofNat ds.length
  if point ≥ n then
    ds ++ String.ofList (List.replicate (point - n).toNat '0') ++ (if keepPointZero then ".0" else "")
  else if point > 0 then
    String.ofList (ds.toList.take point.toNat) ++ "." ++ String.ofList (ds.toList.drop point.toNat)
  else
    "0." ++ String.ofList (List.replicate (-point).toNat '0') ++ ds

/-- Write a finite double in a style; infinities and NaN are left to the caller. -/
def render (style : FloatStyle) (x : Float) : String :=
  match shortest x with
  | none => ""
  | some (neg, d, k) =>
    let sign := if neg then "-" else ""
    if d == 0 then sign ++ (if style.keepPointZero then "0.0" else "0") else
    let ds := toString d
    let point := Int.ofNat ds.length + k
    if style.minPoint < point && point ≤ style.maxPoint then
      sign ++ positional ds point style.keepPointZero
    else
      let exp := point - 1
      let mant := if ds.length == 1 then ds else
        String.ofList (ds.toList.take 1) ++ "." ++ String.ofList (ds.toList.drop 1)
      let expText := if exp < 0 then "-" ++ toString (-exp) else style.plusMark ++ toString exp
      sign ++ mant ++ "e" ++ expText

/-- The number of digits kept by `fixed` after rounding `num / den` to `places` decimals,
as the integer `round(num / den · 10 ^ places)`, ties to even. -/
def roundScaled (num den places : Nat) : Nat :=
  let scaled := num * Nat.pow 10 places
  let q := scaled / den
  let r := scaled % den
  if 2 * r > den then q + 1
  else if 2 * r < den then q
  else if q % 2 == 0 then q else q + 1

/-- The exact value of a finite double written with `places` decimals, a tie going to the
even last digit. -/
def fixed (x : Float) (places : Nat) : String :=
  match parts x with
  | none => ""
  | some p =>
    let (num, den) := binaryRatio p.mantissa p.exponent
    let q := roundScaled num den places
    let s := toString q
    let padded := String.ofList (List.replicate (places + 1 - s.length) '0') ++ s
    let whole := String.ofList (padded.toList.take (padded.length - places))
    let frac := String.ofList (padded.toList.drop (padded.length - places))
    let sign := if p.negative && q != 0 then "-" else ""
    if places == 0 then sign ++ whole else sign ++ whole ++ "." ++ frac

end Decimal
end Conveyor
