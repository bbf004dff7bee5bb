import Conveyor.Store.Lifecycle
import Conveyor.Store.Queries
import Conveyor.Store.Workers

/-!
# Calls of the task store

A `Call` is one call of an operation of the task store with its arguments; `Call.run` runs it and keeps
only how it ended. Calls are what the parties sharing a node's store make on it: the pipelines, the
dispatcher and the requests of users, each in its own order.
-/

namespace Conveyor

/-- One call of an operation of the task store, with its arguments. -/
inductive Call where
  | createTransfer (t : Top) (parents : List Parent)
  | getTop (id : TaskId)
  | listTops (tenant : String) (user : Option String) (limit : Nat)
  | getParent (id : TaskId)
  | getChild (id : TaskId)
  | parentsOf (id : TaskId)
  | childrenOf (id : TaskId)
  | contains (kind : Kind) (id : TaskId)
  | statusCounts (kind : Kind)
  | requestCancel (id : TaskId) (now : Stamp)
  | isCancelRequested (id : TaskId)
  | registerWorker (w : Worker)
  | heartbeat (w : WorkerId) (at_ : Stamp)
  | deregisterWorker (w : WorkerId)
  | listWorkers
  | evictStale (cutoff : Stamp)
  | clearOrphans (kind : Kind)
  | backlogs (kind : Kind)
  | readyIds (kind : Kind) (limit : Nat)
  | assign (kind : Kind) (id : TaskId) (w : WorkerId)
  | assignedTo (kind : Kind) (w : WorkerId)
  | beginStaging (id : TaskId) (w : WorkerId) (now : Stamp)
  | recordParentRetry (id : TaskId) (w : WorkerId)
  | commitStaging (id : TaskId) (w : WorkerId) (specs : List ChildSpec) (now : Stamp)
  | startParent (id : TaskId) (w : WorkerId) (now : Stamp)
  | finishParent (id : TaskId) (w : WorkerId) (status : Status) (error : Option String) (now : Stamp)
  | beginChildAttempt (id : TaskId) (w : WorkerId) (now : Stamp)
  | recordProgress (id : TaskId) (w : WorkerId) (bytes : Nat)
  | finishChild (id : TaskId) (w : WorkerId) (status : Status) (bytes : Nat) (error : Option String)
      (now : Stamp)

namespace Call

/-- Run a call, keeping how it ended and dropping what it gave. -/
def run : Call → StoreM Unit
  | createTransfer t ps => Functor.discard (Store.createTransfer t ps)
  | getTop id => Functor.discard (Store.top id)
  | listTops tenant user limit => Functor.discard (Store.listTops tenant user limit)
  | getParent id => Functor.discard (Store.parent id)
  | getChild id => Functor.discard (Store.child id)
  | parentsOf id => Functor.discard (Store.parentsOf id)
  | childrenOf id => Functor.discard (Store.childrenOf id)
  | contains kind id => Functor.discard (Store.contains kind id)
  | statusCounts kind => Functor.discard (Store.statusCounts kind)
  | requestCancel id now => Functor.discard (Store.requestCancel id now)
  | isCancelRequested id => Functor.discard (Store.isCancelRequested id)
  | registerWorker w => Store.registerWorker w
  | heartbeat w at_ => Store.heartbeat w at_
  | deregisterWorker w => Store.deregisterWorker w
  | listWorkers => Functor.discard Store.listWorkers
  | evictStale cutoff => Functor.discard (Store.evictStale cutoff)
  | clearOrphans kind => Functor.discard (Store.clearOrphans kind)
  | backlogs kind => Functor.discard (Store.backlogs kind)
  | readyIds kind limit => Functor.discard (Store.readyIds kind limit)
  | assign kind id w => Functor.discard (Store.assign kind id w)
  | assignedTo kind w => Functor.discard (Store.assignedTo kind w)
  | beginStaging id w now => Functor.discard (Store.beginStaging id w now)
  | recordParentRetry id w => Functor.discard (Store.recordParentRetry id w)
  | commitStaging id w specs now => Functor.discard (Store.commitStaging id w specs now)
  | startParent id w now => Functor.discard (Store.startParent id w now)
  | finishParent id w status error now => Functor.discard (Store.finishParent id w status error now)
  | beginChildAttempt id w now => Functor.discard (Store.beginChildAttempt id w now)
  | recordProgress id w bytes => Store.recordProgress id w bytes
  | finishChild id w status bytes error now => Functor.discard (Store.finishChild id w status bytes error now)

end Call

end Conveyor
