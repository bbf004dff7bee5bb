import Conveyor.Task.Id
import Conveyor.Task.Status

/-!
# Work queues

A work queue hands task ids to the dispatcher. Published ids wait in order; `consume` takes
as many as the prefetch allows beyond the deliveries not yet acknowledged, giving each a fresh
tag (tags count up from zero and are never reused). A delivery is then acknowledged, or refused:
a refused delivery is dropped, or put back at the front marked as redelivered.

- `WorkQueue.consume` never holds more than `prefetch` deliveries unacknowledged, counting
  those from earlier calls.
- `WorkQueue.ack` and `WorkQueue.nack` answer whether the tag was outstanding.
-/

namespace Conveyor

/-- One delivered id: its tag, the id, and whether it was delivered before. -/
structure Delivery where
  tag : Nat
  id : TaskId
  redelivered : Bool
deriving DecidableEq, Repr

/-- A queue of ready task ids with its outstanding deliveries. -/
structure WorkQueue where
  /-- The queue's name. -/
  name : String
  /-- Ids waiting, first out first, each with its redelivery mark. -/
  ready : List (TaskId × Bool) := []
  /-- Deliveries not yet acknowledged, by tag. -/
  unacked : List (Nat × TaskId) := []
  /-- The next tag. -/
  nextTag : Nat := 0
deriving Repr

namespace WorkQueue

/-- An empty queue with a name. -/
def empty (name : String) : WorkQueue := { name }

/-- Put one id at the back. -/
def publish (q : WorkQueue) (id : TaskId) : WorkQueue :=
  { q with ready := q.ready ++ [(id, false)] }

/-- Put ids at the back, in order. -/
def publishAll (q : WorkQueue) (ids : List TaskId) : WorkQueue :=
  { q with ready := q.ready ++ ids.map (·, false) }

/-- Deliver ids from the front while fewer than `prefetch` deliveries are outstanding. -/
def consume (q : WorkQueue) (prefetch : Nat) : List Delivery × WorkQueue :=
  let budget := prefetch - q.unacked.length
  let taken := q.ready.take budget
  let deliveries := taken.zipIdx.map fun ((id, again), i) => ⟨q.nextTag + i, id, again⟩
  (deliveries,
   { q with
     ready := q.ready.drop budget
     unacked := q.unacked ++ deliveries.map fun d => (d.tag, d.id)
     nextTag := q.nextTag + taken.length })

/-- Acknowledge a delivery; false if the tag is not outstanding. -/
def ack (q : WorkQueue) (tag : Nat) : Bool × WorkQueue :=
  if q.unacked.any (·.1 == tag) then
    (true, { q with unacked := q.unacked.filter (·.1 != tag) })
  else (false, q)

/-- Refuse a delivery, putting its id back at the front if `requeue`; false if the tag is not
outstanding. -/
def nack (q : WorkQueue) (tag : Nat) (requeue : Bool) : Bool × WorkQueue :=
  match q.unacked.find? (·.1 == tag) with
  | none => (false, q)
  | some (_, id) =>
    let q := { q with unacked := q.unacked.filter (·.1 != tag) }
    (true, if requeue then { q with ready := (id, true) :: q.ready } else q)

/-- How many ids wait. -/
def length (q : WorkQueue) : Nat := q.ready.length

/-- How many deliveries are outstanding. -/
def inFlight (q : WorkQueue) : Nat := q.unacked.length

end WorkQueue

/-- One queue per task kind. -/
structure WorkQueues where
  parent : WorkQueue := WorkQueue.empty Kind.parent.queueName
  child : WorkQueue := WorkQueue.empty Kind.child.queueName
deriving Repr

namespace WorkQueues

/-- The queue of a kind. -/
def get (qs : WorkQueues) : Kind → WorkQueue
  | .parent => qs.parent
  | .child => qs.child

/-- Replace the queue of a kind. -/
def set (qs : WorkQueues) (k : Kind) (q : WorkQueue) : WorkQueues :=
  match k with
  | .parent => { qs with parent := q }
  | .child => { qs with child := q }

end WorkQueues

end Conveyor
