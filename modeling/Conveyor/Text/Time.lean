import Conveyor.Text.Blank

/-!
# Instants as RFC 3339 text

An instant is a count of nanoseconds since 1970-01-01T00:00:00Z, on the proleptic Gregorian
calendar without leap seconds.

- `Time.render` writes `YYYY-MM-DDTHH:MM:SS`, then the fraction of the second with 3, 6 or 9
  digits, the fewest of them that hold it exactly (none for a whole second), then `Z`.
- `Time.parse?` reads RFC 3339 leniently and gives the instant in UTC: blanks may stand before
  each number and separator; a year is up to four digits, or a sign and any number of digits;
  other fields are one or two digits; `T`, `t` or a blank separates date and time; the second
  may be a leap second `60`, which counts as the first second of the next minute; digits of the
  fraction beyond the ninth are dropped; the offset is `Z`, `z`, `UTC` in any case, or a sign
  (`+`, `-` or the minus sign) with two digits of hours, then colons or blanks, then two digits
  of minutes, less than a day either way.
-/

namespace Conveyor

namespace Time

/-- Days from 1970-01-01 to a date. -/
def daysOfDate (y : Int) (m d : Nat) : Int :=
  let y := if m ≤ 2 then y - 1 else y
  let era := (if y ≥ 0 then y else y - 399) / 400
  let yoe := y - era * 400
  let mp : Int := if m > 2 then m - 3 else m + 9
  let doy := (153 * mp + 2) / 5 + d - 1
  let doe := yoe * 365 + yoe / 4 - yoe / 100 + doy
  era * 146097 + doe - 719468

/-- The date of a day counted from 1970-01-01: year, month and day of month. -/
def dateOfDays (z : Int) : Int × Nat × Nat :=
  let z := z + 719468
  let era := (if z ≥ 0 then z else z - 146096) / 146097
  let doe := z - era * 146097
  let yoe := (doe - doe / 1460 + doe / 36524 - doe / 146096) / 365
  let y := yoe + era * 400
  let doy := doe - (365 * yoe + yoe / 4 - yoe / 100)
  let mp := (5 * doy + 2) / 153
  let d := doy - (153 * mp + 2) / 5 + 1
  let m := if mp < 10 then mp + 3 else mp - 9
  ((if m ≤ 2 then y + 1 else y), m.toNat, d.toNat)

/-- A number with at least `width` digits. -/
def padded (width : Nat) (n : Nat) : String :=
  let s := toString n
  String.ofList (List.replicate (width - s.length) '0') ++ s

/-- The year as written: four digits, or a sign and the digits outside 0 to 9999. -/
def yearText (y : Int) : String :=
  if 0 ≤ y && y ≤ 9999 then padded 4 y.toNat
  else if y < 0 then "-" ++ padded 4 y.natAbs
  else "+" ++ padded 4 y.toNat

/-- The fraction of a second: the fewest of 3, 6 or 9 digits that hold it. -/
def fractionText (nanos : Nat) : String :=
  if nanos == 0 then ""
  else if nanos % 1000000 == 0 then "." ++ padded 3 (nanos / 1000000)
  else if nanos % 1000 == 0 then "." ++ padded 6 (nanos / 1000)
  else "." ++ padded 9 nanos

/-- The RFC 3339 text of an instant. -/
def render (t : Int) : String :=
  let secs := t / 1000000000
  let nanos := (t % 1000000000).toNat
  let days := secs / 86400
  let daySecs := (secs % 86400).toNat
  let (y, m, d) := dateOfDays days
  yearText y ++ "-" ++ padded 2 m ++ "-" ++ padded 2 d ++ "T" ++ padded 2 (daySecs / 3600) ++ ":" ++
    padded 2 (daySecs / 60 % 60) ++ ":" ++ padded 2 (daySecs % 60) ++ fractionText nanos ++ "Z"

/-- The value of decimal digits. -/
def digitValue (ds : List Char) : Nat :=
  ds.foldl (fun acc c => acc * 10 + (c.toNat - 48)) 0

/-- Read one to `max` decimal digits after blanks. -/
def number (max : Nat) (cs : List Char) : Option (Nat × List Char) :=
  let cs := cs.dropWhile isBlank
  let ds := (cs.takeWhile Char.isDigit).take max
  if ds.isEmpty then none else some (digitValue ds, cs.drop ds.length)

/-- Expect a character after blanks. -/
def expect (c : Char) (cs : List Char) : Option (List Char) :=
  match cs.dropWhile isBlank with
  | d :: rest => if c == d then some rest else none
  | [] => none

/-- The days of a month. -/
def monthDays (y : Int) (m : Nat) : Nat :=
  if m == 2 then
    if (y % 4 == 0 && y % 100 != 0) || y % 400 == 0 then 29 else 28
  else if m == 4 || m == 6 || m == 9 || m == 11 then 30 else 31

/-- Read a year after blanks: up to four digits, or a sign and any number of digits. -/
def year (cs : List Char) : Option (Int × List Char) :=
  match cs.dropWhile isBlank with
  | '-' :: rest => (number rest.length rest).map fun (n, r) => (-(n : Int), r)
  | '+' :: rest => (number rest.length rest).map fun (n, r) => ((n : Int), r)
  | cs => (number 4 cs).map fun (n, r) => ((n : Int), r)

/-- Read the fraction of a second as nanoseconds: the digits after the point, the first nine of
them counted. -/
def fraction (cs : List Char) : Option (Nat × List Char) :=
  match cs with
  | '.' :: rest =>
    let ds := rest.takeWhile Char.isDigit
    if ds.isEmpty then none
    else
      let nine := (ds.take 9) ++ List.replicate (9 - min ds.length 9) '0'
      some (digitValue nine, rest.drop ds.length)
  | _ => some (0, cs)

/-- Read an offset from UTC, in seconds. -/
def offset (cs : List Char) : Option (Int × List Char) :=
  match cs with
  | 'Z' :: rest | 'z' :: rest => some (0, rest)
  | c :: rest =>
    if c == '+' || c == '-' || c == '\u2212' then
      match rest with
      | h1 :: h2 :: rest =>
        if h1.isDigit && h2.isDigit then
          match rest.dropWhile (fun c => c == ':' || isBlank c) with
          | m1 :: m2 :: rest =>
            if '0' ≤ m1 && m1 ≤ '5' && m2.isDigit then
              let secs : Int := digitValue [h1, h2] * 3600 + digitValue [m1, m2] * 60
              some (if c == '+' then secs else -secs, rest)
            else none
          | _ => none
        else none
      | _ => none
    else none
  | [] => none

/-- The years a date may have. -/
def yearsValid (y : Int) : Bool := -262144 ≤ y && y ≤ 262143

/-- Read an RFC 3339 instant, leniently. -/
def parse? (s : String) : Option Int := do
  let (y, cs) ← year s.toList
  let cs ← expect '-' cs
  let (m, cs) ← number 2 cs
  let cs ← expect '-' cs
  let (d, cs) ← number 2 cs
  let cs ← match cs with
    | 'T' :: r | 't' :: r | ' ' :: r => some r
    | _ => none
  let (h, cs) ← number 2 cs
  let cs ← expect ':' cs
  let (mi, cs) ← number 2 cs
  let cs ← expect ':' cs
  let (sec, cs) ← number 2 cs
  let (nanos, cs) ← fraction cs
  let cs := cs.dropWhile isBlank
  let (off, cs) ← match cs with
    | a :: b :: c :: rest =>
      if a.toLower == 'u' && b.toLower == 't' && c.toLower == 'c' then some (0, rest) else offset cs
    | _ => offset cs
  if !(cs.dropWhile isBlank).isEmpty then none
  if !yearsValid y || m < 1 || m > 12 || d < 1 || d > monthDays y m || h > 23 || mi > 59 ||
    sec > 60 || off.natAbs ≥ 86400 then none
  let secs : Int := daysOfDate y m d * 86400 + h * 3600 + mi * 60 + sec - off
  some (secs * 1000000000 + nanos)

end Time

end Conveyor
