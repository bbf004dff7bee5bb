import Conveyor.Error

/-!
# Entries and open files of a storage system

A storage system answers a question about a path with an `Entry`: the path, its size, and whether
it is a directory (a directory has size 0). File contents are byte strings.

An opened file is a `Source`: its bytes, the most bytes one read hands out, the milliseconds each
read waits before it hands them out, and, when reading breaks off, the offset where it does and
the failure the system reports there. `Source.pieces` lists the sizes of the successive reads
into a buffer of a given size, and whether the reading ends in that failure.
-/

namespace Conveyor

/-- File contents. -/
abbrev Bytes := List UInt8

/-- What a storage system reports about a path. -/
structure Entry where
  path : String
  size : Nat
  isDir : Bool
deriving DecidableEq, Repr

namespace Entry

/-- A file of a size. -/
def file (path : String) (size : Nat) : Entry := ⟨path, size, false⟩

/-- A directory. -/
def directory (path : String) : Entry := ⟨path, 0, true⟩

end Entry

/-- The failure a system reports when a read breaks off: its kind and its text. -/
structure Breakage where
  kind : IoKind
  text : String
deriving DecidableEq, Repr

/-- An opened file. -/
structure Source where
  data : Bytes
  /-- The most bytes one read hands out (at least 1). -/
  chunk : Nat
  /-- Milliseconds each read waits before it hands out bytes. -/
  delay : Nat := 0
  /-- Where reading breaks off, and how. -/
  breaks : Option (Nat × Breakage) := none
deriving Repr

namespace Source

/-- The sizes of the reads from an offset on into a buffer, and the failure they end in, if any.
A read first meets the break, then the end, then hands out as much as chunk, buffer, end and
break allow. -/
def piecesFrom (s : Source) (buffer : Nat) (pos : Nat) : List Nat × Option Breakage :=
  match s.breaks with
  | some (at_, b) =>
    if at_ ≤ pos then ([], some b)
    else if s.data.length ≤ pos then ([], none)
    else
      let n := min (max s.chunk 1) (min (max buffer 1) (min (s.data.length - pos) (at_ - pos)))
      let (rest, fault) := piecesFrom s buffer (pos + n)
      (n :: rest, fault)
  | none =>
    if s.data.length ≤ pos then ([], none)
    else
      let n := min (max s.chunk 1) (min (max buffer 1) (s.data.length - pos))
      let (rest, fault) := piecesFrom s buffer (pos + n)
      (n :: rest, fault)
termination_by s.data.length - pos
decreasing_by all_goals omega

/-- The sizes of the reads of the whole file into a buffer, and the failure they end in. -/
def pieces (s : Source) (buffer : Nat) : List Nat × Option Breakage := s.piecesFrom buffer 0

end Source

end Conveyor
