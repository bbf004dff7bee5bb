import Conveyor.Service.Run
import Conveyor.Store.Call

/-!
# Copying a stream

A copy reads a `Source` piece by piece into a buffer and hands each piece to a `Sink`; at the
end of the source it finishes the sink, which is when a memory object appears. A read that
breaks off ends the copy with the system's failure, named after the source's label.

Inside a pipeline (`Pipe.copy`) the copy runs joined with a loop that stores its progress, and
the node's other parties call the store meanwhile; a run is any order of their events
(`CopyEvent`). Each read publishes the running total on a channel; the loop offers each total it
sees to a `Throttle` and, at each tick of its ticker, stores the latest total unless it stored it
last. The copy stops at a cancelled token, and at a stop from the loop: a store that refuses a
total because the task was taken away from the worker ends the loop with that `NotOwner`. On a
node the events come in the order `Pipe.timedEvents` gives: each throttled read is a wait, during
which the watch may act and the ticker fires once per window of time counted from the start of
the copy.

Outside a pipeline a copy is `copyStream`: it reads a stream into a buffer of at least one byte
and hands each piece to a writer, looking at its token before every read, until a read hands out
nothing; then it shuts the writer down. A failed read is named after the source, a failed write or
shutdown after the destination. `Source.copyOut` copies an opened file so into a buffer in memory.
-/

namespace Conveyor

/-- A call a copy makes on the writer it copies into. -/
inductive WriterCall where
  /-- Write all of these bytes. -/
  | write (bytes : Bytes)
  /-- Finish the writing. -/
  | shutdown
deriving DecidableEq, Repr

/-- The bytes a call hands to the writer. -/
def WriterCall.bytes : WriterCall → Bytes
  | .write bytes => bytes
  | .shutdown => []

/-- The end of a copy: it shuts the writer down, and gives the `total` bytes written unless the writer
refuses. -/
def copyStream.finish (writer : List WriterCall → Option Breakage) (destination : String) (total : Nat)
    (calls : List WriterCall) : Except Error Nat × List WriterCall :=
  let calls := calls ++ [.shutdown]
  match writer calls with
  | some b => (.error (Error.ofIo b.kind b.text destination), calls)
  | none => (.ok total, calls)

/-- The rounds of a copy from its `k`-th read on, with `total` bytes written in the `calls` made so
far. `answers` are what the reads still to come hand out: bytes, or the failure the system reports;
a read that hands out nothing, or one past the answers, finds the end of the stream. The token is
first seen cancelled at the look before read `cancelAt`, if ever; the writer answers each call,
given all calls made up to it, with the failure it reports, if any. -/
def copyStream.pump (writer : List WriterCall → Option Breakage) (cancelAt : Option Nat)
    (source destination : String) :
    List (Except Breakage Bytes) → Nat → Nat → List WriterCall → Except Error Nat × List WriterCall
  | answers, k, total, calls =>
    if cancelAt = some k then (.error .cancelled, calls)
    else match answers with
      | [] | .ok [] :: _ => finish writer destination total calls
      | .error b :: _ => (.error (Error.ofIo b.kind b.text source), calls)
      | .ok (x :: xs) :: rest =>
        let calls := calls ++ [.write (x :: xs)]
        match writer calls with
        | some b => (.error (Error.ofIo b.kind b.text destination), calls)
        | none => pump writer cancelAt source destination rest (k + 1) (total + (x :: xs).length) calls

/-- Copy a stream into a writer through a buffer of `buffer` bytes, at least one, until the stream
ends, then shut the writer down. `reader` gives what the reads into a buffer of a length hand out.
Gives the bytes copied or the failure that stopped the copy, and the calls made on the writer. -/
def copyStream (reader : Nat → List (Except Breakage Bytes)) (writer : List WriterCall → Option Breakage)
    (buffer : Nat) (cancelAt : Option Nat) (source destination : String) : Except Error Nat × List WriterCall :=
  copyStream.pump writer cancelAt source destination (reader (max buffer 1)) 0 0 []

/-- Bytes cut into consecutive pieces of the given sizes. -/
def cutPieces : Bytes → List Nat → List Bytes
  | _, [] => []
  | data, n :: sizes => data.take n :: cutPieces (data.drop n) sizes

/-- What the reads of an opened file into a buffer of a size hand out, in order: its pieces, then the
failure it breaks off with, if any. -/
def Source.answers (s : Source) (buffer : Nat) : List (Except Breakage Bytes) :=
  let (pieces, fault) := s.pieces buffer
  (cutPieces s.data pieces).map .ok ++ fault.toList.map .error

/-- Copy an opened file into a buffer in memory, which takes every call. A cancelled token stops the
copy before its first read. Gives the bytes copied or the failure, and the bytes that reached the
buffer. -/
def Source.copyOut (s : Source) (buffer : Nat) (cancelled : Bool) (source destination : String) :
    Except Error Nat × Bytes :=
  let (copied, calls) :=
    copyStream s.answers (fun _ => none) buffer (if cancelled then some 0 else none) source destination
  (copied, (calls.map WriterCall.bytes).flatten)

/-- Copy a memory object, read in pieces of `chunk` bytes after `faults` planned read faults,
into a buffer; the first open uses up one fault. -/
def Memory.streamCopy (data : Bytes) (chunk faults buffer : Nat) (cancelled : Bool)
    (source destination : String) : Except Error (Except Error Nat × Bytes) := do
  let path := "/src"
  let m := ((Memory.throttled chunk 0).insert path data).injectFaults path faults
  let (src, _) ← m.openRead path
  return src.copyOut buffer cancelled source destination

/-- An event of a copy inside a child pipeline. The copy and the loop that stores its progress run side
by side, joined, and the node's other parties call the store meanwhile: a run of a copy is any order of
these events. An event that cannot happen in a state (a read after the copy ended, a change of the
channel the progress loop has seen) changes nothing. -/
inductive CopyEvent where
  /-- The copy's next read returns: a piece, the end of the source, or the failure it breaks off with. -/
  | read
  /-- The progress loop sees the channel of the running total: a total it has not seen, or, once the
  copy has ended, the channel closed. -/
  | changed
  /-- The progress loop's ticker fires, and the throttle hands out the total to store, if any. -/
  | tick
  /-- The pipeline waits before a read, and a watch may act. -/
  | pause
  /-- Another party calls the store. -/
  | outside (call : Call)

/-- A copy inside a pipeline and the loop that stores its progress. -/
structure Copying where
  /-- The sizes of the pieces still to read. -/
  pieces : List Nat
  /-- The failure the source breaks off with after its pieces, if it does. -/
  fault : Option Breakage
  /-- Bytes read so far: the running total the copy last published on the channel. -/
  read : Nat := 0
  /-- Whether the progress loop has seen the total on the channel. -/
  seen : Bool := true
  /-- The latest total the progress loop saw, and the last one it handed out. -/
  throttle : Throttle := {}
  /-- The totals the progress loop stored, in order. -/
  sent : List Nat := []
  /-- Whether the progress loop stopped the copy. -/
  stopped : Bool := false
  /-- How the copy ended, once it has. -/
  copied : Option (Except Error Nat) := none
  /-- How the progress loop ended, once it has. -/
  persisted : Option (Except Error Unit) := none

/-- What a copy gives once it and its progress loop have ended: the failure of the progress loop, which
stopped the copy, or else the copy's own result. -/
def Copying.outcome (c : Copying) : Except Error Nat :=
  match c.persisted, c.copied with
  | some (.error e), _ => .error e
  | _, some r => r
  | _, none => .error .cancelled

namespace Pipe

/-- End a copy with a result: the sink gets the bytes read, finished when the copy gives a count. -/
def endCopy (src : Source) (sink : Sink) (c : Copying) (r : Except Error Nat) : PipeM Copying := do
  lift (modify fun w => { w with storage := w.storage.deliver sink (src.data.take c.read) r.toBool })
  return { c with copied := some r }

/-- One event of a copy of `src` into `sink` for the child `task`.

* A read of a running copy first looks at the token and at the stop of the progress loop; then it takes
  the next piece, which publishes the new total, or ends the copy at the end of the source.
* The progress loop offers each total it sees to the throttle, and ends once the copy has ended and it
  has seen the last total.
* At a tick, the throttle hands out the latest total unless it was the last one handed out, and the
  loop stores it; a refusal because the child is not the worker's stops the copy and ends the loop with
  that `NotOwner`. -/
def copyStep (src : Source) (sink : Sink) (label : String) (task : TaskId) (c : Copying) :
    CopyEvent → PipeM Copying
  | .read => do
    if c.copied.isSome then return c
    if (← tokenCancelled) || c.stopped then return ← endCopy src sink c (.error .cancelled)
    match c.pieces with
    | n :: rest => return { c with pieces := rest, read := c.read + n, seen := false }
    | [] =>
      match c.fault with
      | some b => endCopy src sink c (.error (Error.ofIo b.kind b.text label))
      | none => endCopy src sink c (.ok c.read)
  | .changed =>
    if c.persisted.isSome then return c
    else if !c.seen then return { c with throttle := c.throttle.offer c.read, seen := true }
    else if c.copied.isSome then return { c with persisted := some (.ok ()) }
    else return c
  | .tick => do
    if c.persisted.isSome then return c
    match c.throttle.take with
    | (none, throttle) => return { c with throttle }
    | (some b, throttle) =>
      let worker := (← get).run.worker
      let r ← attempt (lift (Service.liftStore (Store.recordProgress task worker b)))
      let c := { c with throttle, sent := c.sent ++ [b] }
      match r with
      | .error (.notOwner t) => return { c with stopped := true, persisted := some (.error (.notOwner t)) }
      | _ => return c
  | .pause => do
    if c.copied.isNone && !((← tokenCancelled) || c.stopped) then pause
    return c
  | .outside call => do
    lift (modify fun w => { w with store := ((ExceptT.run call.run).run w.store).2 })
    return c

/-- Run the events of a copy in turn. -/
def copyRun (src : Source) (sink : Sink) (label : String) (task : TaskId) (c : Copying)
    (events : List CopyEvent) : PipeM Copying :=
  events.foldlM (copyStep src sink label task) c

/-- The events that end a copy whatever ran before: reads until the source is used up, then the progress
loop sees the last total and the channel close. -/
def finishing (c : Copying) : List CopyEvent :=
  List.replicate (c.pieces.length + 1) .read ++ [.changed, .changed]

/-- Copy a source into a sink for a child, with its progress loop, running `events` and then what ends
both; gives the bytes copied. -/
def copy (src : Source) (sink : Sink) (buffer : Nat) (label : String) (task : TaskId)
    (events : List CopyEvent) : PipeM (Except Error Nat) := do
  let (pieces, fault) := src.pieces buffer
  let c ← copyRun src sink label task { pieces, fault } events
  let c ← copyRun src sink label task c (finishing c)
  return c.outcome

/-- The ticks strictly before time `t` of a ticker that fires at every whole `window` milliseconds. -/
def ticksBefore (window t : Nat) : Nat := (t + window - 1) / window - 1

/-- The order of a copy's events on a node, where each read of the source takes `delay` milliseconds:
the pipeline waits before each read, the ticker fires during the wait when a whole window ends within
it, and the progress loop sees each new total as soon as it is read. -/
def timedEvents (pieces delay window : Nat) : List CopyEvent :=
  let w := max window 1
  (List.range pieces).flatMap fun i =>
    (if delay > 0 then
      .pause :: if ticksBefore w (i * delay) < ticksBefore w ((i + 1) * delay) then [.tick] else []
    else []) ++ [.read, .changed]

end Pipe

end Conveyor
