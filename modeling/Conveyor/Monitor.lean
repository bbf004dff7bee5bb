import Conveyor.Word

/-!
# Statistics and progress throttling

`Statistics` counts what the engine did: transfers submitted, cancels accepted, parents staged,
child attempts and retries, and how the children ended, with the bytes and the time of the
completed copies.

- `Statistics.successRate` is the completed share of finished children, in percent; with no
  finished child it is `0`. The count of finished children is a 64-bit sum.
- `Statistics.throughput` is bytes per second of copy time, `0` without copy time.
- `Throttle` keeps the latest progress offered and hands it out once per window, unless it is the
  count already handed out.
-/

namespace Conveyor

/-- Counters of an engine run. Times are in nanoseconds. -/
structure Statistics where
  transfersSubmitted : Nat := 0
  cancelsAccepted : Nat := 0
  parentsStaged : Nat := 0
  childAttempts : Nat := 0
  childRetries : Nat := 0
  childrenCompleted : Nat := 0
  childrenFailed : Nat := 0
  childrenCancelled : Nat := 0
  bytesTransferred : Nat := 0
  transferTime : Nat := 0
deriving Repr, Inhabited

namespace Statistics

/-- The share of completed children among finished ones, in percent. -/
def successRate (s : Statistics) : Except Panic Float := do
  let finished ← Word.sum Word.max64 [s.childrenCompleted, s.childrenFailed, s.childrenCancelled]
  if finished > 0 then
    return Float.ofNat s.childrenCompleted / Float.ofNat finished * 100.0
  else return 0.0

/-- Seconds of a nanosecond count, as whole seconds plus the fraction. -/
def seconds (ns : Nat) : Float :=
  Float.ofNat (ns / 1000000000) + Float.ofNat (ns % 1000000000) / 1000000000.0

/-- Bytes copied per second of copy time. -/
def throughput (s : Statistics) : Float :=
  if seconds s.transferTime > 0.0 then
    Float.ofNat s.bytesTransferred / seconds s.transferTime
  else 0.0

/-- Count a submitted transfer. -/
def noteSubmitted (s : Statistics) : Statistics :=
  { s with transfersSubmitted := s.transfersSubmitted + 1 }

/-- Count an accepted cancel. -/
def noteCancel (s : Statistics) : Statistics :=
  { s with cancelsAccepted := s.cancelsAccepted + 1 }

/-- Count a staged parent. -/
def noteStaged (s : Statistics) : Statistics :=
  { s with parentsStaged := s.parentsStaged + 1 }

/-- Count a child attempt, and a retry if it was one. -/
def noteAttempt (s : Statistics) (retry : Bool) : Statistics :=
  { s with childAttempts := s.childAttempts + 1,
           childRetries := if retry then s.childRetries + 1 else s.childRetries }

/-- Count a completed child with its bytes and copy time. -/
def noteCompleted (s : Statistics) (bytes elapsed : Nat) : Statistics :=
  { s with childrenCompleted := s.childrenCompleted + 1,
           bytesTransferred := s.bytesTransferred + bytes,
           transferTime := s.transferTime + elapsed }

/-- Count a failed child. -/
def noteFailed (s : Statistics) : Statistics :=
  { s with childrenFailed := s.childrenFailed + 1 }

/-- Count a cancelled child. -/
def noteCancelled (s : Statistics) : Statistics :=
  { s with childrenCancelled := s.childrenCancelled + 1 }

end Statistics

/-- The latest progress offered and the last one handed out. -/
structure Throttle where
  pending : Option Nat := none
  lastTaken : Option Nat := none
deriving Repr, Inhabited

namespace Throttle

/-- Offer a byte count, replacing any pending one. -/
def offer (t : Throttle) (bytes : Nat) : Throttle := { t with pending := some bytes }

/-- Take the pending count, unless it equals the last one taken. -/
def take (t : Throttle) : Option Nat × Throttle :=
  match t.pending with
  | none => (none, t)
  | some b =>
    if t.lastTaken == some b then (none, { t with pending := none })
    else (some b, { pending := none, lastTaken := some b })

end Throttle

end Conveyor
