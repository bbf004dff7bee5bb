/-!
# Machine words and panics

Counts, sizes and byte totals are 64-bit words, retry counts 32-bit words. Arithmetic on them is
checked: a sum past the top of the word does not wrap, it stops the operation with a `Panic`.
A panic is not an error of the domain; it ends the operation that met it, and what that
operation had already written stays written.
-/

namespace Conveyor

/-- A broken arithmetic assumption that stops an operation. -/
inductive Panic where
  /-- A sum passed the top of its word. -/
  | addOverflow
  /-- A time moved before the earliest representable instant. -/
  | timeUnderflow
  /-- A span of time passed the largest count of seconds. -/
  | durationOverflow
deriving DecidableEq, Repr, Inhabited

/-- The text of a panic. -/
def Panic.message : Panic → String
  | .addOverflow => "attempt to add with overflow"
  | .timeUnderflow => "`DateTime - TimeDelta` overflowed"
  | .durationOverflow => "overflow when adding durations"

namespace Word

/-- The largest 64-bit count. -/
def max64 : Nat := Nat.pow 2 64 - 1

/-- The largest 32-bit count. -/
def max32 : Nat := Nat.pow 2 32 - 1

/-- A sum that must stay at or below `top`. -/
def add (top a b : Nat) : Except Panic Nat :=
  if a + b ≤ top then .ok (a + b) else .error .addOverflow

/-- A left-to-right sum whose running total must stay at or below `top`. -/
def sum (top : Nat) (xs : List Nat) : Except Panic Nat :=
  xs.foldlM (add top) 0

/-- A difference that stops at zero. -/
def saturatingSub (a b : Nat) : Nat := a - b

/-- A sum that stops at `top`. -/
def saturatingAdd (top a b : Nat) : Nat := min (a + b) top

end Word

end Conveyor
