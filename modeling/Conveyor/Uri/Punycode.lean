/-!
# Punycode

The bootstring encoding of RFC 3492 writes a label of any code points in the letters, digits
and hyphen of ASCII: the ASCII code points first, a hyphen if there were any, and then the other
code points in increasing order, each as the distance from the previous insertion written in
variable-length base 36 with an adaptive bias.

- `encode` writes a label; `decode` reads one back, or fails on a malformed text.
- Every loop ends by a measure: `adaptScale` divides its argument, `encodeDigits` shrinks the
  number it writes, `decodeDigits` and `decodeRun` consume their input.
-/

namespace Conveyor
namespace Uri
namespace Punycode

/-- The character of a base-36 digit: `a` to `z`, then `0` to `9`. -/
def digitChar (d : Nat) : Char :=
  if d < 26 then Char.ofNat (97 + d) else Char.ofNat (22 + d)

/-- The value of a base-36 digit of either case. -/
def digitValue? (c : Char) : Option Nat :=
  let n := c.toNat
  if 97 ≤ n && n ≤ 122 then some (n - 97)
  else if 65 ≤ n && n ≤ 90 then some (n - 65)
  else if 48 ≤ n && n ≤ 57 then some (n - 22)
  else none

/-- The threshold of the digit at position `k` under a bias, between 1 and 26. -/
def threshold (k bias : Nat) : Nat :=
  if k ≤ bias then 1 else if bias + 26 ≤ k then 26 else k - bias

theorem threshold_pos (k bias : Nat) : 1 ≤ threshold k bias := by
  unfold threshold; split <;> (try split) <;> omega

theorem threshold_le (k bias : Nat) : threshold k bias ≤ 26 := by
  unfold threshold; split <;> (try split) <;> omega

/-- Divide `delta` by 35 until it is at most 455, counting 36 per division in `k`. -/
def adaptScale (delta k : Nat) : Nat × Nat :=
  if 455 < delta then adaptScale (delta / 35) (k + 36) else (delta, k)
termination_by delta
decreasing_by omega

/-- The bias after a delta, with `points` code points handled so far. -/
def adapt (delta points : Nat) (first : Bool) : Nat :=
  let d := if first then delta / 700 else delta / 2
  let (d, k) := adaptScale (d + d / points) 0
  k + 36 * d / (d + 38)

/-- A number in variable-length base 36, least significant digit first. -/
def encodeDigits (bias k q : Nat) : List Char :=
  let t := threshold k bias
  if q < t then [digitChar q]
  else digitChar (t + (q - t) % (36 - t)) :: encodeDigits bias (k + 36) ((q - t) / (36 - t))
termination_by q
decreasing_by
  have := threshold_pos k bias
  have := threshold_le k bias
  have : (q - threshold k bias) / (36 - threshold k bias) ≤ q - threshold k bias :=
    Nat.div_le_self _ _
  omega

/-- The state of the encoder: output so far, delta, bias and code points handled. -/
structure Encoder where
  out : List Char
  delta : Nat
  bias : Nat
  handled : Nat

/-- Pass one input code point while inserting code point `m`. -/
def Encoder.step (basic m : Nat) (st : Encoder) (c : Char) : Encoder :=
  if c.toNat < m then { st with delta := st.delta + 1 }
  else if c.toNat == m then
    { out := st.out ++ encodeDigits st.bias 36 st.delta, delta := 0,
      bias := adapt st.delta (st.handled + 1) (st.handled == basic), handled := st.handled + 1 }
  else st

/-- Insert the code points `ms` (increasing) in turn, `n` being the last one inserted plus one. -/
def encodeRun (input : List Char) (basic : Nat) : List Nat → Nat → Encoder → Encoder
  | [], _, st => st
  | m :: ms, n, st =>
    let st := { st with delta := st.delta + (m - n) * (st.handled + 1) }
    let st := input.foldl (Encoder.step basic m) st
    encodeRun input basic ms (m + 1) { st with delta := st.delta + 1 }

/-- The distinct values of a list, increasing. -/
def sortedDistinct (xs : List Nat) : List Nat :=
  (xs.foldl (fun acc x => if acc.contains x then acc else acc ++ [x]) []).mergeSort (· ≤ ·)

/-- The Punycode text of a label (without the `xn--` mark). -/
def encode (input : List Char) : List Char :=
  let basic := input.filter (·.toNat < 0x80)
  let others := sortedDistinct ((input.filter (0x80 ≤ ·.toNat)).map Char.toNat)
  let st := encodeRun input basic.length others 128 ⟨[], 0, 72, basic.length⟩
  basic ++ (if basic.isEmpty then [] else ['-']) ++ st.out

/-- Read one variable-length number, giving the new index and the rest of the input. -/
def decodeDigits (bias : Nat) : List Char → Nat → Nat → Nat → Option (Nat × List Char)
  | [], _, _, _ => none
  | c :: rest, k, w, i =>
    match digitValue? c with
    | none => none
    | some d =>
      if d < threshold k bias then some (i + d * w, rest)
      else decodeDigits bias rest (k + 36) (w * (36 - threshold k bias)) (i + d * w)

theorem decodeDigits_shorter : ∀ (bias : Nat) (l : List Char) (k w i : Nat) (r : Nat × List Char),
    decodeDigits bias l k w i = some r → r.2.length < l.length
  | _, [], _, _, _, _, h => by simp [decodeDigits] at h
  | bias, c :: rest, k, w, i, r, h => by
    rw [decodeDigits] at h
    split at h
    · simp at h
    · split at h
      · rw [← Option.some.inj h]; simp
      · have := decodeDigits_shorter bias rest (k + 36) _ _ r h
        simp; omega

/-- Insert the encoded code points into the basic ones. -/
def decodeRun (bias n i : Nat) (out : List Char) : List Char → Option (List Char)
  | [] => some out
  | c :: rest =>
    match h : decodeDigits bias (c :: rest) 36 1 i with
    | none => none
    | some (i', rem) =>
      let points := out.length + 1
      let n' := n + i' / points
      let pos := i' % points
      if n' < 0xD800 || (0xDFFF < n' && n' < 0x110000) then
        decodeRun (adapt (i' - i) points (i == 0)) n' (pos + 1) (out.insertIdx pos (Char.ofNat n')) rem
      else none
termination_by l => l.length
decreasing_by
  have := decodeDigits_shorter bias (c :: rest) 36 1 i (i', rem) h
  simpa using this

/-- The label of a Punycode text (without the `xn--` mark), or `none` if it is malformed. -/
def decode (input : List Char) : Option (List Char) :=
  let (basic, ext) := match input.reverse.span (· != '-') with
    | (revExt, []) => ([], revExt.reverse)
    | (revExt, _ :: revBasic) => (revBasic.reverse, revExt.reverse)
  if basic.any (0x80 ≤ ·.toNat) then none
  else decodeRun 72 128 0 basic ext

end Punycode
end Uri
end Conveyor
