import Conveyor.Service.Stream
import Conveyor.Uri.Location

/-!
# Files through storage systems

Each operation resolves a storage system by name first, so an unknown or switched-off system
fails before anything else.

- `Service.readFile` reads a whole file into a buffer: it gives the bytes copied or the failure
  that stopped the copy, the bytes read, and the count of them.
- `Service.writeFile` writes bytes to a file and, if told to, finishes the writing, which is when
  a memory object appears; it gives the count written once finished.
-/

namespace Conveyor

/-- What reading a file gave. -/
structure ReadOutcome where
  copied : Except Error Nat
  data : Bytes
  progress : Nat

namespace Service

/-- The backend label of the system of a location. -/
def backendOf (uri : String) : ServiceM String := do
  let l ← guard (Location.parse uri)
  return (← resolve l.system).label

/-- Report a path of a system. -/
def statFile (system path : String) : ServiceM Entry := do
  let b ← resolve system
  guard ((← get).storage.stat b path)

/-- List a path of a system. -/
def listFiles (system path : String) : ServiceM (List Entry) := do
  let b ← resolve system
  guard ((← get).storage.list b path)

/-- Read a file of a system into a buffer of a size. -/
def readFile (system path : String) (buffer : Nat) : ServiceM ReadOutcome := do
  let b ← resolve system
  let src ← onStorage (·.openRead b path)
  let (copied, data) := src.copyOut buffer false path "sink"
  return ⟨copied, data, data.length⟩

/-- Write bytes to a file of a system, finishing the writing if told to. -/
def writeFile (system path : String) (data : Bytes) (finish : Bool) : ServiceM (Option Nat) := do
  let b ← resolve system
  let sink ← onStorage (·.openWrite b path)
  modify fun w => { w with storage := w.storage.deliver sink data finish }
  return if finish then some data.length else none

/-- Copy a file within a system. -/
def copyFile (system source destination : String) : ServiceM Unit := do
  let b ← resolve system
  onStorage fun st => (st.copy b source destination).map ((), ·)

/-- Move a file within a system. -/
def renameFile (system source destination : String) : ServiceM Unit := do
  let b ← resolve system
  onStorage fun st => (st.rename b source destination).map ((), ·)

/-- Delete a path of a system. -/
def deleteFile (system path : String) : ServiceM Unit := do
  let b ← resolve system
  onStorage fun st => (st.delete b path).map ((), ·)

end Service

end Conveyor
