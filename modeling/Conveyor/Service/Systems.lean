import Conveyor.Service.Basic

/-!
# Managing the storage systems of a node

Registering a system, switching it on or off, making a new memory under a name, and working on a
named memory directly (a memory is made empty on its first mention).
-/

namespace Conveyor

namespace Service

/-- Register a storage system; gives its backend's label. -/
def registerSystem (name : String) (mount : Mount) : ServiceM String :=
  modifyGet fun w =>
    let (label, storage) := w.storage.register name mount
    (label, { w with storage })

/-- Switch a storage system on or off. -/
def setEnabled (name : String) (enabled : Bool) : ServiceM Unit := do
  let storage ← guard ((← get).storage.setEnabled name enabled)
  modify fun w => { w with storage }

/-- The names of the storage systems, in order. -/
def systemNames : ServiceM (List String) := return (← get).storage.systemNames

/-- Make a new memory under a name, reading at most `chunk` bytes at a time after `delay`
milliseconds. -/
def newMemory (name : String) (chunk delay : Nat) : ServiceM Unit :=
  modify fun w => { w with storage := (w.storage.renew name (Memory.throttled chunk delay)).1 }

/-- Work on a named memory. -/
def onMemory {α : Type} (name : String) (f : Memory → α × Memory) : ServiceM α :=
  modifyGet fun w =>
    let (st, slot) := w.storage.slotOf name
    let (a, m) := f (st.memoryAt slot)
    (a, { w with storage := st.setMemory slot m })

end Service

end Conveyor
