/-!
# TOML date-times

A date-time value is a date (`YYYY-MM-DD`), a time (`HH:MM`, with optional `:SS` and, after
seconds, an optional fraction), or a date and a time joined by `T`, `t` or a space; a date
with a time may have an offset (`Z`, `z`, or a sign with `HH:MM`). Each field is checked for its
digits and its range (days by month, February by leap year; a second may be 60). A failure
names what was being read (a date, a time, an offset) and what was expected.

A date-time is shown in one way: upper-case `T` and `Z`, the offset `-00:00` as `+00:00`, the
fraction cut to nine digits and without trailing zeros (and left out when zero), and seconds
only when they were given.
-/

namespace Conveyor
namespace Toml

/-- A calendar date. -/
structure Date where
  year : Nat
  month : Nat
  day : Nat
deriving DecidableEq, Repr

/-- A time of day; seconds are optional, and the fraction is in nanoseconds. -/
structure Time where
  hour : Nat
  minute : Nat
  second : Option Nat
  nanosecond : Nat
deriving DecidableEq, Repr

/-- An offset from universal time: `Z`, or a number of minutes. -/
inductive Offset where
  | zulu
  | minutes (m : Int)
deriving DecidableEq, Repr

/-- A date-time: a date, a time, or both, with an offset only when both are there. -/
structure Datetime where
  date : Option Date
  time : Option Time
  offset : Option Offset
deriving DecidableEq, Repr

/-- Why a date-time does not read: what was being read and what was expected there. -/
structure DatetimeFault where
  what : Option String
  expected : Option String
deriving DecidableEq, Repr

/-- The words of a date-time failure. -/
def DatetimeFault.message : DatetimeFault → String
  | ⟨some w, some e⟩ => "invalid " ++ w ++ ", expected " ++ e
  | ⟨some w, none⟩ => "invalid " ++ w
  | ⟨none, some e⟩ => "invalid datetime, expected " ++ e
  | ⟨none, none⟩ => "failed to parse datetime"

namespace Datetime

/-- A piece of a date-time text. -/
inductive Piece where
  | digits (ds : List Char)
  | dash
  | colon
  | dot
  | tee
  | space
  | zulu
  | plus
  | unknown
deriving DecidableEq, Repr

/-- The next piece of a date-time text and the rest; anything unknown takes the rest. -/
def next : List Char → Option (Piece × List Char)
  | [] => none
  | c :: rest =>
    if c.isDigit then
      let ds := (c :: rest).takeWhile Char.isDigit
      some (.digits ds, (c :: rest).drop ds.length)
    else match c with
      | '-' => some (.dash, rest)
      | ':' => some (.colon, rest)
      | '.' => some (.dot, rest)
      | 'T' | 't' => some (.tee, rest)
      | ' ' => some (.space, rest)
      | 'Z' | 'z' => some (.zulu, rest)
      | '+' => some (.plus, rest)
      | _ => some (.unknown, [])

/-- A failure while reading something, expecting something. -/
def fault (what : Option String) (expected : String) : DatetimeFault := ⟨what, some expected⟩

/-- The digits of the next piece, or a failure. -/
def digitsOf (cs : List Char) (f : DatetimeFault) : Except DatetimeFault (List Char × List Char) :=
  match next cs with
  | some (.digits ds, rest) => .ok (ds, rest)
  | _ => .error f

/-- The next piece, which must be the given one, or a failure. -/
def expect (cs : List Char) (p : Piece) (f : DatetimeFault) : Except DatetimeFault (List Char) :=
  match next cs with
  | some (q, rest) => if q == p then .ok rest else .error f
  | none => .error f

/-- The value of decimal digits. -/
def value (ds : List Char) : Nat := ds.foldl (fun n d => n * 10 + (d.toNat - '0'.toNat)) 0

/-- Nanoseconds from the digits of a fraction: the first nine count. -/
def nanos (ds : List Char) : Nat :=
  value ((ds.take 9) ++ List.replicate (9 - min 9 ds.length) '0')

/-- Whether a year is a leap year. -/
def isLeap (y : Nat) : Bool := y % 4 == 0 && (y % 100 != 0 || y % 400 == 0)

/-- The number of days of a month, and the words for its range. -/
def monthDays (y m : Nat) : Nat × String :=
  if m == 2 then (if isLeap y then (29, "day between 01 and 29") else (28, "day between 01 and 28"))
  else if m == 4 || m == 6 || m == 9 || m == 11 then (30, "day between 01 and 30")
  else (31, "day between 01 and 31")

/-- A date after its year and dash. -/
def readDate (year : List Char) (cs : List Char) : Except DatetimeFault (Date × List Char) := do
  let (month, cs) ← digitsOf cs (fault (some "date") "month")
  let cs ← expect cs .dash (fault (some "date") "`-` (MM-DD)")
  let (day, cs) ← digitsOf cs (fault (some "date") "day")
  if year.length != 4 then throw (fault (some "date") "a four-digit year (YYYY)")
  if month.length != 2 then throw (fault (some "date") "a two-digit month (MM)")
  if day.length != 2 then throw (fault (some "date") "a two-digit day (DD)")
  let d : Date := ⟨value year, value month, value day⟩
  if d.month < 1 || d.month > 12 then throw (fault (some "date") "month between 01 and 12")
  let (most, words) := monthDays d.year d.month
  if d.day < 1 || d.day > most then throw (fault (some "date") words)
  pure (d, cs)

/-- A time: hour, minute, optional second and fraction. -/
def readTime (cs : List Char) : Except DatetimeFault (Time × List Char) := do
  let (hour, cs) ← digitsOf cs (fault (some "time") "hour")
  let cs ← expect cs .colon (fault (some "time") "`:` (HH:MM)")
  let (minute, cs) ← digitsOf cs (fault (some "time") "minute")
  let (second, cs) ← match next cs with
    | some (.colon, rest) => do
      let (s, rest) ← digitsOf rest (fault (some "time") "second")
      pure (some s, rest)
    | _ => pure (none, cs)
  let (fraction, cs) ← match second, next cs with
    | some _, some (.dot, rest) => do
      let (f, rest) ← digitsOf rest (fault (some "time") "nanosecond")
      pure (some f, rest)
    | _, _ => pure (none, cs)
  if hour.length != 2 then throw (fault (some "time") "a two-digit hour (HH)")
  if minute.length != 2 then throw (fault (some "time") "a two-digit minute (MM)")
  if second.any (·.length != 2) then throw (fault (some "time") "a two-digit second (SS)")
  let t : Time := ⟨value hour, value minute, second.map value, (fraction.map nanos).getD 0⟩
  if t.hour > 23 then throw (fault (some "time") "hour between 00 and 23")
  if t.minute > 59 then throw (fault (some "time") "minute between 00 and 59")
  if t.second.any (· > 60) then throw (fault (some "time") "second between 00 and 60")
  pure (t, cs)

/-- An offset after a date and time, if there is one. -/
def readOffset (cs : List Char) : Except DatetimeFault (Option Offset × List Char) :=
  match next cs with
  | none => .ok (none, cs)
  | some (.zulu, rest) => .ok (some .zulu, rest)
  | some (.plus, rest) | some (.dash, rest) => do
    let sign : Int := if cs.head? == some '+' then 1 else -1
    let (hours, rest) ← digitsOf rest (fault (some "offset") "hour")
    let rest ← expect rest .colon (fault (some "offset") "`:` (HH:MM)")
    let (minutes, rest) ← digitsOf rest (fault (some "offset") "minute")
    if hours.length != 2 then throw (fault (some "offset") "a two-digit hour (HH)")
    if minutes.length != 2 then throw (fault (some "offset") "a two-digit minute (MM)")
    if value hours > 23 then throw (fault (some "offset") "hours between 00 and 23")
    if value minutes > 59 then throw (fault (some "offset") "minutes between 00 and 59")
    pure (some (.minutes (sign * (value hours * 60 + value minutes : Nat))), rest)
  | some _ => .error (fault (some "offset") "`Z`, +OFFSET, -OFFSET")

/-- Read a date-time text. -/
def parse (text : String) : Except DatetimeFault Datetime := do
  let cs := text.toList
  let (first, rest) ← digitsOf cs (fault none "year or hour")
  match next rest with
  | some (.dash, afterDash) =>
    let (date, rest) ← readDate first afterDash
    match next rest with
    | none => pure ⟨some date, none, none⟩
    | some (.tee, afterT) | some (.space, afterT) =>
      let (time, rest) ← readTime afterT
      let (offset, rest) ← readOffset rest
      if rest.isEmpty then pure ⟨some date, some time, offset⟩
      else throw ⟨some "date-time", none⟩
    | some _ => throw (fault (some "date-time") "`T` between date and time")
  | some (.colon, _) =>
    let (time, rest) ← readTime cs
    if rest.isEmpty then pure ⟨none, some time, none⟩
    else throw ⟨some "date-time", none⟩
  | _ => throw (fault none "`-` (YYYY-MM) or `:` (HH:MM)")

/-- A number with at least two digits. -/
def two (n : Nat) : String := if n < 10 then "0" ++ toString n else toString n

/-- A number with at least four digits. -/
def four (n : Nat) : String :=
  let s := toString n
  String.ofList (List.replicate (4 - min 4 s.length) '0') ++ s

/-- The text of a fraction of nanoseconds: nine digits without trailing zeros. -/
def fractionText (ns : Nat) : String :=
  let s := toString ns
  let padded := List.replicate (9 - min 9 s.length) '0' ++ s.toList
  String.ofList (padded.reverse.dropWhile (· == '0')).reverse

end Datetime

open Datetime in
/-- The text of a date. -/
def Date.render (d : Date) : String := four d.year ++ "-" ++ two d.month ++ "-" ++ two d.day

open Datetime in
/-- The text of a time. -/
def Time.render (t : Time) : String :=
  two t.hour ++ ":" ++ two t.minute ++
    (match t.second with | some s => ":" ++ two s | none => "") ++
    (if t.nanosecond == 0 then "" else "." ++ fractionText t.nanosecond)

open Datetime in
/-- The text of an offset. -/
def Offset.render : Offset → String
  | .zulu => "Z"
  | .minutes m =>
    let sign := if m < 0 then "-" else "+"
    let a := m.natAbs
    sign ++ two (a / 60) ++ ":" ++ two (a % 60)

/-- The text of a date-time. -/
def Datetime.render (d : Datetime) : String :=
  (match d.date with | some x => x.render | none => "") ++
    (match d.time with
      | some t => (if d.date.isSome then "T" else "") ++ t.render
      | none => "") ++
    (match d.offset with | some o => o.render | none => "")

end Toml
end Conveyor
