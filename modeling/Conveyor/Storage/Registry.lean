import Conveyor.Storage.Memory
import Conveyor.Storage.Disk

/-!
# Storage systems

A node reaches its storage through named systems. Each system is served by a backend: a memory
(an object store held in memory, or the same store offered for reading only under a label of its
own), or a directory of the node's disk. A system can be switched off; a switched-off or unknown
system does not resolve (`SystemDisabled`, `SystemNotFound`).

Memories are kept by slot; a name refers to the memory most recently made under it, so a
system keeps the memory it was registered with even after the name is given a new one.

The operations of a backend are `Storage.stat`, `Storage.list`, `Storage.openRead`,
`Storage.openWrite` (which gives a `Sink`), `Storage.copy`, `Storage.rename` and
`Storage.delete`. A read-only backend answers only `stat` and `openRead`, and the others with
`Unsupported`. A disk backend works below its root directory and reports failures with the path
it was given; a write first makes the directories above its target.
-/

namespace Conveyor

/-- How a storage system is served. -/
inductive Backend where
  /-- By the memory in a slot. -/
  | memory (slot : Nat)
  /-- By the memory in a slot, for reading only, under a label. -/
  | readonly (slot : Nat) (label : String)
  /-- By a directory of the disk. -/
  | disk (root : String)
deriving DecidableEq, Repr

/-- The name a backend goes by. -/
def Backend.label : Backend → String
  | .memory _ => "memory"
  | .readonly _ label => label
  | .disk _ => "local"

/-- What a new system is served by, with memories named. -/
inductive Mount where
  | memory (name : String)
  | readonly (name : String) (label : String)
  /-- A new empty directory. -/
  | disk
deriving DecidableEq, Repr

/-- A registered storage system. -/
structure System where
  name : String
  backend : Backend
  enabled : Bool := true
deriving DecidableEq, Repr

/-- Where written bytes go. -/
inductive Sink where
  /-- An object of a memory, which appears once the writing is finished. -/
  | memory (slot : Nat) (path : String)
  /-- A file of the disk, written as the bytes come. -/
  | file (names : List String)
  /-- A buffer the writer keeps. -/
  | buffer
deriving DecidableEq, Repr

/-- The storage of a node. -/
structure Storage where
  /-- The memories, by slot. -/
  memories : List Memory := []
  /-- The slot each memory name refers to. -/
  names : List (String × Nat) := []
  systems : List System := []
  disk : Disk := {}
  /-- How many disk roots were made. -/
  roots : Nat := 0
deriving Repr, Inhabited

namespace Storage

/-- The memory in a slot. -/
def memoryAt (st : Storage) (slot : Nat) : Memory := st.memories.getD slot .empty

/-- Replace the memory in a slot. -/
def setMemory (st : Storage) (slot : Nat) (m : Memory) : Storage :=
  { st with memories := st.memories.set slot m }

/-- Change the memory in a slot. -/
def modifyMemory (st : Storage) (slot : Nat) (f : Memory → Memory) : Storage :=
  st.setMemory slot (f (st.memoryAt slot))

/-- Make a new memory under a name. -/
def renew (st : Storage) (name : String) (m : Memory) : Storage × Nat :=
  let slot := st.memories.length
  ({ st with memories := st.memories ++ [m], names := putKey name slot st.names }, slot)

/-- The slot of a named memory, made empty on first mention. -/
def slotOf (st : Storage) (name : String) : Storage × Nat :=
  match lookupKey name st.names with
  | some slot => (st, slot)
  | none => st.renew name .empty

/-- Register a system, replacing one of the same name; gives its backend's label. -/
def register (st : Storage) (name : String) (mount : Mount) : String × Storage :=
  let (st, backend) := match mount with
    | .memory m => let (st, slot) := st.slotOf m; (st, Backend.memory slot)
    | .readonly m label => let (st, slot) := st.slotOf m; (st, Backend.readonly slot label)
    | .disk =>
      let root := "local" ++ toString (st.roots + 1)
      let disk := match st.disk.makeDirs [root] with
        | .ok d => d
        | .error _ => st.disk
      ({ st with roots := st.roots + 1, disk }, Backend.disk root)
  let sys : System := ⟨name, backend, true⟩
  let systems := if st.systems.any (·.name == name) then
      st.systems.map fun s => if s.name == name then sys else s
    else st.systems ++ [sys]
  (backend.label, { st with systems })

/-- Register a system served by a backend that is already there, replacing one of the same
name. -/
def attach (st : Storage) (name : String) (backend : Backend) : Storage :=
  let sys : System := ⟨name, backend, true⟩
  if st.systems.any (·.name == name) then
    { st with systems := st.systems.map fun s => if s.name == name then sys else s }
  else { st with systems := st.systems ++ [sys] }

/-- Switch a system on or off. -/
def setEnabled (st : Storage) (name : String) (enabled : Bool) : Except Error Storage :=
  if st.systems.any (·.name == name) then
    .ok { st with systems := st.systems.map fun s => if s.name == name then { s with enabled } else s }
  else .error (.systemNotFound name)

/-- The backend of an enabled system. -/
def resolve (st : Storage) (name : String) : Except Error Backend :=
  match st.systems.find? (·.name == name) with
  | some s => if s.enabled then .ok s.backend else .error (.systemDisabled name)
  | none => .error (.systemNotFound name)

/-- The names of the systems, in order. -/
def systemNames (st : Storage) : List String :=
  (st.systems.map (·.name)).mergeSort fun a b => decide (a ≤ b)

/-- The disk path of a path below a root. -/
def diskPath (root path : String) : DiskPath :=
  DiskPath.ofString (root ++ "/" ++ Location.trimFront '/' path)

/-- What a disk item reports under a path. -/
def entryOf (path : String) : Item → Entry
  | .file data => Entry.file path data.length
  | .dir => Entry.directory path

/-- Report a path. -/
def stat (st : Storage) (b : Backend) (path : String) : Except Error Entry :=
  match b with
  | .memory slot | .readonly slot _ => (st.memoryAt slot).stat path
  | .disk root =>
    match st.disk.find (diskPath root path) with
    | .ok it => .ok (entryOf path it)
    | .error e => .error (e.toError path)

/-- List what lies one level below a path. -/
def list (st : Storage) (b : Backend) (path : String) : Except Error (List Entry) :=
  match b with
  | .memory slot => (st.memoryAt slot).list path
  | .readonly _ label => .error (.unsupported "list" label)
  | .disk root =>
    let dp := diskPath root path
    match st.disk.readDir dp with
    | .error e => .error (e.toError path)
    | .ok names =>
      let base := Location.trimBack '/' path
      .ok (names.map fun n =>
        let it := (st.disk.itemAt (dp.names ++ [n])).getD .dir
        entryOf (base ++ "/" ++ n) it)

/-- Open a file for reading. -/
def openRead (st : Storage) (b : Backend) (path : String) : Except Error (Source × Storage) :=
  match b with
  | .memory slot | .readonly slot _ =>
    match (st.memoryAt slot).openRead path with
    | .ok (src, m) => .ok (src, st.setMemory slot m)
    | .error e => .error e
  | .disk root =>
    match st.disk.find (diskPath root path) with
    | .ok (.file data) => .ok ({ data, chunk := max data.length 1 }, st)
    | .ok .dir => .ok ({ data := [], chunk := 1, breaks := some (0, Errno.isDir.breakage) }, st)
    | .error e => .error (e.toError path)

/-- Make the directories above a disk path; failures name `shown`. -/
def makeParents (st : Storage) (dp : DiskPath) (shown : String) : Except Error Storage :=
  match st.disk.makeDirs dp.parent.names with
  | .ok disk => .ok { st with disk }
  | .error e => .error (e.toError shown)

/-- Open a file for writing. -/
def openWrite (st : Storage) (b : Backend) (path : String) : Except Error (Sink × Storage) :=
  match b with
  | .memory slot =>
    match (st.memoryAt slot).openWrite path with
    | .ok () => .ok (.memory slot path, st)
    | .error e => .error e
  | .readonly _ label => .error (.unsupported "open_write" label)
  | .disk root => do
    let dp := diskPath root path
    let st ← st.makeParents dp path
    match st.disk.create dp with
    | .ok disk => .ok (.file dp.names, { st with disk })
    | .error e => .error (e.toError path)

/-- Hand written bytes to a sink; a memory object appears only when the writing is finished. -/
def deliver (st : Storage) (sink : Sink) (data : Bytes) (finished : Bool) : Storage :=
  match sink with
  | .memory slot path => if finished then st.modifyMemory slot (·.insert path data) else st
  | .file names => { st with disk := st.disk.append names data }
  | .buffer => st

/-- Copy a file. -/
def copy (st : Storage) (b : Backend) (source destination : String) : Except Error Storage :=
  match b with
  | .memory slot => ((st.memoryAt slot).copy source destination).map (st.setMemory slot)
  | .readonly _ label => .error (.unsupported "copy" label)
  | .disk root => do
    let target := diskPath root destination
    let st ← st.makeParents target destination
    match st.disk.copyFile (diskPath root source) target with
    | .ok disk => .ok { st with disk }
    | .error e => .error (e.toError source)

/-- Move a file. -/
def rename (st : Storage) (b : Backend) (source destination : String) : Except Error Storage :=
  match b with
  | .memory slot => ((st.memoryAt slot).rename source destination).map (st.setMemory slot)
  | .readonly _ label => .error (.unsupported "move" label)
  | .disk root => do
    let target := diskPath root destination
    let st ← st.makeParents target destination
    match st.disk.move (diskPath root source) target with
    | .ok disk => .ok { st with disk }
    | .error e => .error (e.toError source)

/-- Delete a path. -/
def delete (st : Storage) (b : Backend) (path : String) : Except Error Storage :=
  match b with
  | .memory slot => ((st.memoryAt slot).delete path).map (st.setMemory slot)
  | .readonly _ label => .error (.unsupported "delete" label)
  | .disk root =>
    let dp := diskPath root path
    match st.disk.find dp with
    | .ok _ => .ok { st with disk := st.disk.removeAll dp.names }
    | .error e => .error (e.toError path)

end Storage

end Conveyor
