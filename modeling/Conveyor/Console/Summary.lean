import Conveyor.Console.Format
import Conveyor.Store.Snapshot
import Conveyor.Monitor

/-!
# The summary of a finished transfer

`summaryJson` is the machine-readable summary: the transfer record, its parent records, and the
statistics of the run with the run's duration in milliseconds and the success rate. The success
rate sums the finished children in a 64-bit word, so that sum can panic.

`Progress` is what a progress display knows. A quiet display knows nothing and does nothing. A
shown one starts as a spinner with the message `Staging...`; each update sums the known sizes of
the parents (once every parent is staged, the first such update fixes the bar's length), the
bytes they copied and their file counts, each a 64-bit sum that can panic, and shows the
transfer's status with the file count. Cancelling and finishing only change the message.
-/

namespace Conveyor

/-- The machine-readable summary of a transfer, its parents and a run's statistics. -/
def summaryJson (top : Top) (parents : List Parent) (stats : Statistics) (uptime : Span) :
    Except Panic Json := do
  let rate ← stats.successRate
  return .obj [("transfer", Snapshot.topJson top), ("parents", .arr (parents.map Snapshot.parentJson)),
    ("statistics", .obj [("children_completed", .int stats.childrenCompleted),
      ("children_failed", .int stats.childrenFailed),
      ("children_cancelled", .int stats.childrenCancelled),
      ("child_retries", .int stats.childRetries),
      ("bytes_transferred", .int stats.bytesTransferred),
      ("duration_ms", .int (uptime.toMillis % Nat.pow 2 64)),
      ("success_rate", .float rate)])]

/-- What a shown progress display holds. -/
structure Bar where
  message : String := "Staging..."
  /-- The total bytes, once every parent is staged. -/
  length : Option Nat := none
  position : Nat := 0
  finished : Bool := false
deriving DecidableEq, Repr

/-- A progress display: `none` when quiet. -/
abbrev Progress := Option Bar

namespace Progress

/-- A new display; a quiet one shows nothing. -/
def start (quiet : Bool) : Progress := if quiet then none else some {}

/-- How many parents know their size, and the sum of those sizes. -/
def stagedTotal (parents : List Parent) : Except Panic (Nat × Nat) := do
  let sizes := parents.filterMap (·.totalBytes)
  return (sizes.length, ← Word.sum Word.max64 sizes)

/-- Show the latest records of a transfer. -/
def update (p : Progress) (top : Top) (parents : List Parent) : Except Panic Progress := do
  match p with
  | none => return none
  | some bar =>
    let (staged, total) ← stagedTotal parents
    let copied ← Word.sum Word.max64 (parents.map (·.bytes))
    let bar :=
      if staged == parents.length && total > 0 then
        let length := bar.length.getD total
        { bar with length := some length, position := min copied total }
      else bar
    let files ← Word.sum Word.max64 (parents.map (·.childCount))
    return some { bar with message := top.status.name ++ " (" ++ toString files ++ " files)" }

/-- Show that a cancel was requested. -/
def cancelling (p : Progress) : Progress :=
  p.map fun bar => { bar with message := "Cancelling..." }

/-- Stop showing, with the transfer's outcome. -/
def finish (p : Progress) (top : Top) : Progress :=
  let message :=
    if top.status == .completed then "Transfer completed" else "Transfer " ++ top.status.name
  p.map fun bar => { bar with finished := true, message }

end Progress

end Conveyor
