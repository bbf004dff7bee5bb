/-!
# Retry policy

A transient failure is retried after a delay that grows geometrically: attempt `0` waits the
initial delay, attempt `n` the initial delay times `multiplier ^ n` (the exponent capped at
64), and no delay exceeds the cap. Delays are whole milliseconds; the growth is computed in
double precision and cut to whole milliseconds, a result beyond the range of 64-bit counts
saturating.

The power is taken by binary exponentiation, squaring the base once per bit of the exponent,
so its rounding is that of this sequence of products.

- `RetryPolicy.make` refuses a multiplier that is not above one and an initial delay above the
  cap. A NaN multiplier is not refused; the delays it gives are then the cap.
- `RetryPolicy.canRetry n` holds while fewer than `maxRetries` attempts were made.
-/

namespace Conveyor

/-- How often and how late a transient failure is retried. -/
structure RetryPolicy where
  /-- How many attempts may be made (a 32-bit count). -/
  maxRetries : Nat
  /-- The first delay, in milliseconds. -/
  initialDelay : Nat
  /-- The largest delay, in milliseconds. -/
  maxDelay : Nat
  /-- The growth factor from one delay to the next. -/
  multiplier : Float
deriving Inhabited

/-- Why a retry policy is refused. -/
inductive RetryFault where
  /-- The multiplier is at most one. -/
  | multiplierTooSmall
  /-- The initial delay is above the cap. -/
  | initialAboveMax
deriving DecidableEq, Repr

/-- The text of a refusal. -/
def RetryFault.message : RetryFault → String
  | .multiplierTooSmall => "Backoff multiplier must be greater than 1.0"
  | .initialAboveMax => "Initial delay cannot be greater than max delay"

/-- `a ^ n` by binary exponentiation: the running product takes the base at each set bit, and
the base is squared between bits. `fuel` bounds the number of bits. -/
def Float.powBinary (a : Float) (n : Nat) : Float :=
  go (n + 1) a n 1
where
  go : Nat → Float → Nat → Float → Float
    | 0, _, _, acc => acc
    | fuel + 1, a, n, acc =>
      let acc := if n % 2 == 1 then acc * a else acc
      let n := n / 2
      if n == 0 then acc else go fuel (a * a) n acc

/-- The smaller of two doubles, a NaN giving way to the other one. -/
def Float.minNum (x y : Float) : Float :=
  if x.isNaN then y else if y.isNaN then x else if x ≤ y then x else y

namespace RetryPolicy

/-- The largest count of a 64-bit word. -/
def wordMax : Nat := Nat.pow 2 64 - 1

/-- A policy, after checking that delays grow and the first does not pass the cap. -/
def make (maxRetries initialDelay maxDelay : Nat) (multiplier : Float) :
    Except RetryFault RetryPolicy :=
  if multiplier ≤ 1.0 then .error .multiplierTooSmall
  else if initialDelay > maxDelay then .error .initialAboveMax
  else .ok ⟨maxRetries, initialDelay, maxDelay, multiplier⟩

/-- Five attempts, ten seconds growing by two up to five minutes. -/
def standard : RetryPolicy := ⟨5, 10000, 300000, 2.0⟩

/-- The delay before attempt `attempt`, in milliseconds. -/
def delayFor (p : RetryPolicy) (attempt : Nat) : Nat :=
  if attempt == 0 then min p.initialDelay p.maxDelay
  else
    let grown := Float.ofNat p.initialDelay * Float.powBinary p.multiplier (min attempt 64)
    (Float.minNum grown (Float.ofNat p.maxDelay)).toUInt64.toNat

/-- Whether another attempt may follow `made` attempts. -/
def canRetry (p : RetryPolicy) (made : Nat) : Bool := made < p.maxRetries

end RetryPolicy

/-- A copy buffer size: a power of two from 1 KiB to 64 MiB. -/
structure BufferSize where
  bytes : Nat
deriving DecidableEq, Repr

/-- Why a buffer size is refused. -/
inductive BufferFault where
  | belowMinimum (size : Nat)
  | aboveMaximum (size : Nat)
  | notPowerOfTwo (size : Nat)
deriving DecidableEq, Repr

namespace BufferSize

/-- The smallest buffer. -/
def minimum : Nat := 1024

/-- The largest buffer. -/
def maximum : Nat := 64 * 1024 * 1024

/-- The buffer used when none is chosen. -/
def standard : BufferSize := ⟨64 * 1024⟩

/-- Whether `n` is a power of two (zero is not). -/
def isPowerOfTwo (n : Nat) : Bool :=
  (List.range 64).any fun k => Nat.pow 2 k == n

/-- A buffer size, after checking its bounds and then that it is a power of two. -/
def make (n : Nat) : Except BufferFault BufferSize :=
  if n < minimum then .error (.belowMinimum n)
  else if n > maximum then .error (.aboveMaximum n)
  else if !isPowerOfTwo n then .error (.notPowerOfTwo n)
  else .ok ⟨n⟩

end BufferSize

/-- The text of a refused buffer size. -/
def BufferFault.message : BufferFault → String
  | .belowMinimum n => "Buffer size " ++ toString n ++ " is below minimum " ++ toString BufferSize.minimum
  | .aboveMaximum n => "Buffer size " ++ toString n ++ " exceeds maximum " ++ toString BufferSize.maximum
  | .notPowerOfTwo n => "Buffer size " ++ toString n ++ " must be a power of two"

end Conveyor
