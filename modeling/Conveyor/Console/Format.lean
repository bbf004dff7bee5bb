import Conveyor.Text.Decimal
import Conveyor.Word

/-!
# Sizes and durations for people

- `formatBytes` writes a byte count in the largest unit of 1024 (up to terabytes) that keeps the
  number at 1 or more, with two decimals; plain bytes are written as a whole number. The count is
  first made a double, and each step divides the double by 1024, which is exact, so the two
  decimals are those of the count over a power of 1024, rounded with ties to even.
- `formatDuration` writes a `Span` below a minute as seconds with two decimals, then as minutes
  and seconds, then as hours, minutes and seconds, with the whole seconds cut down.
-/

namespace Conveyor

/-- A span of time: whole seconds, and the nanoseconds beyond them (below `10 ^ 9`). -/
structure Span where
  secs : Nat
  nanos : Nat
deriving DecidableEq, Repr

namespace Span

/-- Nanoseconds in a second. -/
def nanosPerSec : Nat := 1000000000

/-- A span of milliseconds. -/
def ofMillis (ms : Nat) : Span := ⟨ms / 1000, ms % 1000 * 1000000⟩

/-- A span of whole seconds. -/
def ofSecs (s : Nat) : Span := ⟨s, 0⟩

/-- The sum of two spans; more seconds than a 64-bit count holds panic. -/
def add (a b : Span) : Except Panic Span :=
  let nanos := a.nanos + b.nanos
  let secs := a.secs + b.secs + nanos / nanosPerSec
  if secs ≤ Word.max64 then .ok ⟨secs, nanos % nanosPerSec⟩ else .error .durationOverflow

/-- The whole milliseconds of a span. -/
def toMillis (d : Span) : Nat := d.secs * 1000 + d.nanos / 1000000

/-- The span in seconds as a double: the seconds, plus the nanoseconds over `10 ^ 9`. -/
def toSeconds (d : Span) : Float :=
  Float.ofNat d.secs + Float.ofNat d.nanos / 1000000000.0

end Span

/-- The units of `formatBytes`, each 1024 times the one before. -/
def byteUnits : List String := ["B", "KB", "MB", "GB", "TB"]

/-- Divide by 1024 while the size is at least 1024 and a larger unit is left; gives the size and
the index of its unit. -/
def scaleBytes (size : Float) (unit : Nat) : Nat → Float × Nat
  | 0 => (size, unit)
  | fuel + 1 =>
    if size ≥ 1024.0 then scaleBytes (size / 1024.0) (unit + 1) fuel else (size, unit)

/-- A byte count in the largest fitting unit. -/
def formatBytes (bytes : Nat) : String :=
  let (size, unit) := scaleBytes (Float.ofNat bytes) 0 (byteUnits.length - 1)
  if unit == 0 then toString bytes ++ " B"
  else Decimal.fixed size 2 ++ " " ++ byteUnits.getD unit ""

/-- A span as seconds, minutes and seconds, or hours, minutes and seconds. -/
def formatDuration (d : Span) : String :=
  let secs := d.secs
  if secs < 60 then Decimal.fixed d.toSeconds 2 ++ "s"
  else if secs < 3600 then toString (secs / 60) ++ "m " ++ toString (secs % 60) ++ "s"
  else
    toString (secs / 3600) ++ "h " ++ toString (secs % 3600 / 60) ++ "m " ++
      toString (secs % 60) ++ "s"

end Conveyor
