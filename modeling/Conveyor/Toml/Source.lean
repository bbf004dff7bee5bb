/-!
# Places in a TOML text, and reading failures

A reader works on the characters of a text; a `Span` is a stretch of them by position. A
`Fault` says what went wrong and, for most failures, where: it is shown as a report that names
the line and column, repeats the line, and puts carets under the stretch. The column counts
characters, while the carets count the bytes of the stretch (at least one, and no further than
the end of the line). A failure without a place is shown as its message alone.
-/

namespace Conveyor
namespace Toml

/-- A stretch of a text, from one character position up to another. -/
structure Span where
  start : Nat
  stop : Nat
deriving DecidableEq, Repr, Inhabited

namespace Span

/-- The empty stretch where a stretch starts. -/
def before (s : Span) : Span := ⟨s.start, s.start⟩

/-- The empty stretch where a stretch ends. -/
def after (s : Span) : Span := ⟨s.stop, s.stop⟩

/-- From the start of one stretch to the end of another. -/
def join (a b : Span) : Span := ⟨a.start, b.stop⟩

/-- A stretch moved forward by a number of characters. -/
def shift (s : Span) (n : Nat) : Span := ⟨s.start + n, s.stop + n⟩

end Span

/-- Something a failure says it expected: a literal text or a description. -/
inductive Expected where
  | literal (s : String)
  | words (s : String)
deriving DecidableEq, Repr

/-- How an expected literal is named: a line break by name, a backtick in quotes, anything
else between backticks. -/
def Expected.render : Expected → String
  | .literal "\n" => "newline"
  | .literal "`" => "'`'"
  | .literal s => "`" ++ s ++ "`"
  | .words s => s

/-- A reading failure: where (if anywhere) and what. -/
structure Fault where
  span : Option Span
  message : String
deriving Repr

/-- A failure at a stretch, described, with what was expected there (none: nothing said; the
empty list: nothing at all). -/
def Fault.at (span : Span) (description : String) (expected : Option (List Expected)) : Fault :=
  let tail := match expected with
    | none => ""
    | some [] => ", expected nothing"
    | some es => ", expected " ++ ", ".intercalate (es.map Expected.render)
  ⟨some span, description ++ tail⟩

/-- A failure without a place. -/
def Fault.plain (message : String) : Fault := ⟨none, message⟩

/-- The byte offset of each character position of a text, and of its end. -/
def byteOffsets (cs : List Char) : Array Nat :=
  (cs.foldl (fun (acc : Array Nat × Nat) c => (acc.1.push acc.2, acc.2 + c.utf8Size)) (#[], 0)) |>
    fun (offs, total) => offs.push total

/-- The line (from zero) and column (in characters, from zero) of a byte offset. Past the end
of the text the column keeps counting; an offset inside a character counts bytes from the
start of its line. -/
def linePosition (bytes : ByteArray) (index : Nat) : Nat × Nat :=
  if bytes.size = 0 then (0, index) else
  let safe := min index (bytes.size - 1)
  let extra := index - safe
  let breaks := (List.range safe).filter fun i => bytes.data.getD i 0 == 10
  let lineStart := match breaks.getLast? with
    | some i => i + 1
    | none => 0
  let line := breaks.length
  let column := match String.fromUTF8? (bytes.extract lineStart (safe + 1)) with
    | some s => s.length - 1
    | none => safe - lineStart
  (line, column + extra)

/-- The report of a failure in a text. -/
def Fault.render (f : Fault) (input : String) : String :=
  match f.span with
  | none => f.message
  | some span =>
    let offs := byteOffsets input.toList
    let byteAt (i : Nat) : Nat := offs.getD i (offs.back?.getD 0)
    let bytes := input.toUTF8
    let (start, stop) := (byteAt span.start, byteAt span.stop)
    let (line, column) := linePosition bytes start
    let lineNum := line + 1
    let gutter := (toString lineNum).length
    let content := ((input.splitOn "\n")[line]?).getD ""
    let highlight := min (stop - start) (content.utf8ByteSize - column)
    let pad (n : Nat) := String.ofList (List.replicate n ' ')
    "TOML parse error at line " ++ toString lineNum ++ ", column " ++ toString (column + 1) ++
      "\n" ++ pad (gutter + 1) ++ "|\n" ++
      toString lineNum ++ " | " ++ content ++ "\n" ++
      pad (gutter + 1) ++ "|" ++ pad (column + 1) ++
      String.ofList (List.replicate (max highlight 1) '^') ++ "\n" ++
      f.message ++ "\n"

end Toml
end Conveyor
