import Conveyor.Unicode.Table
import Conveyor.Unicode.NormalData

/-!
# Canonical composition (NFC)

A text is brought to its canonical composed form in three steps: every code point is
decomposed canonically, all the way down (Hangul syllables by rule, into their leading
consonant, vowel and optional trailing consonant); each run of combining marks is put in the
order of their combining classes, keeping the order of marks of the same class; then each
mark is composed with the last starter before it when nothing between them blocks it (a
starter, or a mark of the same or a higher class) and the two form a primary composite.
-/

namespace Conveyor
namespace Unicode

/-- The canonical decompositions, one step deep. -/
def decompositions : KeyTable (List Nat) :=
  (decompositionText.splitOn ";").foldl (fun t e =>
    match e.splitOn ":" with
    | [k, v] => ⟨t.keys.push (hexValue k), t.values.push (codePoints v)⟩
    | _ => t) ⟨#[], #[]⟩

/-- The key of a pair of code points. -/
def pairKey (a b : Nat) : Nat := a * 0x110000 + b

/-- The primary composites by the pair they compose from: the decompositions into two code points, but
those of the composites composition leaves out, sorted by the pair. -/
def compositions : KeyTable Nat :=
  let excluded := codePoints compositionExclusionText
  let pairs := (decompositionText.splitOn ";").filterMap fun e =>
    match e.splitOn ":" with
    | [k, v] =>
      match codePoints v with
      | [a, b] => if excluded.contains (hexValue k) then none else some (pairKey a b, hexValue k)
      | _ => none
    | _ => none
  let sorted := pairs.mergeSort fun x y => x.1 ≤ y.1
  ⟨(sorted.map (·.1)).toArray, (sorted.map (·.2)).toArray⟩

/-- The canonical combining classes that are not zero. -/
def combiningClasses : RangeTable Nat := RangeTable.ofText (fun s => s.toNat?.getD 0) combiningClassText

/-- The canonical combining class of a code point. -/
def combiningClass (cp : Nat) : Nat := (combiningClasses.find? cp).getD 0

namespace Hangul

/-- The first syllable. -/
def syllableBase : Nat := 0xAC00
/-- The first leading consonant. -/
def leadBase : Nat := 0x1100
/-- The first vowel. -/
def vowelBase : Nat := 0x1161
/-- One before the first trailing consonant. -/
def trailBase : Nat := 0x11A7
/-- The number of leading consonants. -/
def leadCount : Nat := 19
/-- The number of vowels. -/
def vowelCount : Nat := 21
/-- The number of trailing consonants, with none. -/
def trailCount : Nat := 28
/-- The number of syllables per leading consonant. -/
def blockCount : Nat := vowelCount * trailCount
/-- The number of syllables. -/
def syllableCount : Nat := leadCount * blockCount

/-- Whether a code point is a precomposed syllable. -/
def isSyllable (cp : Nat) : Bool := syllableBase ≤ cp && cp < syllableBase + syllableCount

/-- The parts of a syllable. -/
def decompose (cp : Nat) : List Nat :=
  let s := cp - syllableBase
  let t := s % trailCount
  [leadBase + s / blockCount, vowelBase + (s % blockCount) / trailCount] ++
    (if t == 0 then [] else [trailBase + t])

/-- A syllable from a leading consonant and a vowel, or from a syllable without a trailing
consonant and a trailing consonant. -/
def compose (a b : Nat) : Option Nat :=
  if leadBase ≤ a && a < leadBase + leadCount && vowelBase ≤ b && b < vowelBase + vowelCount then
    some (syllableBase + ((a - leadBase) * vowelCount + (b - vowelBase)) * trailCount)
  else if isSyllable a && (a - syllableBase) % trailCount == 0 &&
      trailBase < b && b < trailBase + trailCount then
    some (a + (b - trailBase))
  else none

end Hangul

/-- The full canonical decomposition of a code point (the depth is bounded by `fuel`). -/
def decomposeFully : Nat → Nat → List Nat
  | 0, cp => [cp]
  | fuel + 1, cp =>
    if Hangul.isSyllable cp then Hangul.decompose cp
    else match decompositions.find? cp with
      | some ds => ds.flatMap (decomposeFully fuel)
      | none => [cp]

/-- Put a mark into a run of marks after those of a class not above its own. -/
def insertMark (m : Nat × Nat) : List (Nat × Nat) → List (Nat × Nat)
  | [] => [m]
  | x :: xs => if m.1 < x.1 then m :: x :: xs else x :: insertMark m xs

/-- Put each run of marks in the order of their classes (the run so far is `run`). -/
def canonicalOrder : List Nat → List (Nat × Nat) → List Nat
  | [], run => run.map (·.2)
  | cp :: rest, run =>
    let k := combiningClass cp
    if k == 0 then run.map (·.2) ++ cp :: canonicalOrder rest []
    else canonicalOrder rest (insertMark (k, cp) run)

/-- The primary composite of two code points, if any. -/
def composePair (a b : Nat) : Option Nat :=
  (Hangul.compose a b).orElse fun _ => compositions.find? (pairKey a b)

/-- Compose a decomposed, ordered text: `out` so far, the position of the last starter in it,
and the class of the last mark after that starter (none if there is none). -/
def composeFrom : List Nat → Array Nat → Option Nat → Option Nat → Array Nat
  | [], out, _, _ => out
  | cp :: rest, out, starter, last =>
    let k := combiningClass cp
    let blocked := match last with
      | some lc => lc == 0 || lc ≥ k
      | none => false
    let composed := match starter with
      | some s => if blocked then none else composePair (out.getD s 0) cp
      | none => none
    match composed, starter with
    | some c, some s => composeFrom rest (out.setIfInBounds s c) starter last
    | _, _ =>
      if k == 0 then composeFrom rest (out.push cp) (some out.size) none
      else composeFrom rest (out.push cp) starter (some k)

/-- The canonical composed form (NFC) of a text given as code points. -/
def nfc (cps : List Nat) : List Nat :=
  let decomposed := cps.flatMap (decomposeFully 8)
  (composeFrom (canonicalOrder decomposed []) #[] none none).toList

/-- The canonical composed form of a text given as characters. -/
def nfcChars (cs : List Char) : List Char := (nfc (cs.map Char.toNat)).map Char.ofNat

end Unicode
end Conveyor
