import Conveyor.Storage.Entry

/-!
# A directory tree on disk

A `Disk` holds files and directories under paths, each a list of names; the empty path is the
root directory, which is always there, and every other path sits in a directory of the tree.
Paths are written with `/`: empty names and `.` are skipped, `..` steps out of a directory, and a
trailing `/` asks for a directory.

The operations answer as a POSIX file system does, with its error numbers (`Errno`):

- following a path, every name but the last must be a directory (`ENOTDIR` for a file,
  `ENOENT` for nothing), and a name longer than 255 bytes is `ENAMETOOLONG`;
- `Disk.makeDir` makes one directory (`EEXIST` if the path is taken), and `Disk.makeDirs` makes
  a directory with all directories above it, succeeding if it is already a directory;
- `Disk.create` opens a file for writing, emptying it (`EISDIR` on a directory);
- `Disk.copyFile` copies a regular file, `Disk.move` moves a file or directory (refusing to move a
  directory into itself, onto a file, or onto a directory that is not empty), `Disk.removeAll`
  removes a path with everything below it.
-/

namespace Conveyor

/-- What a path of a disk holds. -/
inductive Item where
  | file (data : Bytes)
  | dir
deriving DecidableEq, Repr

/-- A failure of a file-system call. -/
inductive Errno where
  /-- `ENOENT`: nothing at the path. -/
  | noEntry
  /-- `EEXIST`: the path is taken. -/
  | taken
  /-- `ENOTDIR`: a file where a directory is needed. -/
  | notDir
  /-- `EISDIR`: a directory where a file is needed. -/
  | isDir
  /-- `EINVAL`: a directory moved into itself. -/
  | invalid
  /-- `ENAMETOOLONG`: a name longer than 255 bytes. -/
  | nameTooLong
  /-- `ENOTEMPTY`: a directory that still holds entries. -/
  | notEmpty
  /-- A copy whose source is not a regular file. -/
  | notRegular
deriving DecidableEq, Repr

namespace Errno

/-- The number of the failure, for those the system numbers. -/
def code : Errno → Option Nat
  | noEntry => some 2 | taken => some 17 | notDir => some 20 | isDir => some 21
  | invalid => some 22 | nameTooLong => some 36 | notEmpty => some 39 | notRegular => none

/-- The system's description of the failure. -/
def description : Errno → String
  | noEntry => "No such file or directory"
  | taken => "File exists"
  | notDir => "Not a directory"
  | isDir => "Is a directory"
  | invalid => "Invalid argument"
  | nameTooLong => "File name too long"
  | notEmpty => "Directory not empty"
  | notRegular => "the source path is neither a regular file nor a symlink to a regular file"

/-- The kind of the failure. -/
def kind : Errno → IoKind
  | noEntry => .notFound
  | taken => .alreadyExists
  | invalid | notRegular => .invalidInput
  | _ => .other

/-- The failure as the system reports it: the description, then the number. -/
def breakage (e : Errno) : Breakage :=
  ⟨e.kind, match e.code with
    | some n => e.description ++ " (os error " ++ toString n ++ ")"
    | none => e.description⟩

/-- The failure of a call on a path, as a transfer failure. -/
def toError (e : Errno) (path : String) : Error :=
  Error.ofIo e.breakage.kind e.breakage.text path

end Errno

/-- A path of a disk: its names, and whether it must be a directory. -/
structure DiskPath where
  names : List String
  /-- Written with a trailing `/`. -/
  mustBeDir : Bool := false
deriving DecidableEq, Repr

namespace DiskPath

/-- Step through the names of a written path. -/
def stepNames (acc : List String) : List String → List String
  | [] => acc
  | n :: rest =>
    if n.isEmpty || n == "." then stepNames acc rest
    else if n == ".." then stepNames acc.dropLast rest
    else stepNames (acc ++ [n]) rest

/-- Read a written path. -/
def ofString (s : String) : DiskPath :=
  let parts := s.splitOn "/"
  let last := parts.getLast?.getD ""
  ⟨stepNames [] parts, last.isEmpty || last == "." || last == ".."⟩

/-- The directory a path sits in. -/
def parent (p : DiskPath) : DiskPath := ⟨p.names.dropLast, false⟩

end DiskPath

/-- A directory tree. -/
structure Disk where
  items : List (List String × Item) := []
deriving Repr, Inhabited

namespace Disk

/-- What a path holds; the root is a directory. -/
def itemAt (d : Disk) (names : List String) : Option Item :=
  if names.isEmpty then some .dir else (d.items.find? (·.1 == names)).map (·.2)

/-- Whether a name is too long for a directory entry. -/
def tooLong (name : String) : Bool := name.utf8ByteSize > 255

/-- Follow the names below a directory. -/
def follow (d : Disk) (mustBeDir : Bool) (done : List String) : List String → Except Errno Item
  | [] => .ok .dir
  | name :: rest =>
    if tooLong name then .error .nameTooLong
    else match d.itemAt (done ++ [name]) with
      | none => .error .noEntry
      | some (.file data) =>
        if rest.isEmpty && !mustBeDir then .ok (.file data) else .error .notDir
      | some .dir => d.follow mustBeDir (done ++ [name]) rest

/-- What a path holds, following it from the root. -/
def find (d : Disk) (p : DiskPath) : Except Errno Item := d.follow p.mustBeDir [] p.names

/-- The names in a directory, in order. -/
def namesIn (d : Disk) (dir : List String) : List String :=
  (d.items.filterMap fun kv =>
    if kv.1.dropLast == dir && kv.1.length == dir.length + 1 then kv.1.getLast? else none).mergeSort
    fun a b => decide (a ≤ b)

/-- The names in a directory at a path. -/
def readDir (d : Disk) (p : DiskPath) : Except Errno (List String) :=
  match d.find p with
  | .error e => .error e
  | .ok (.file _) => .error .notDir
  | .ok .dir => .ok (d.namesIn p.names)

/-- Check that the directory of a path exists, and that the last name is not too long. -/
def checkParent (d : Disk) (p : DiskPath) : Except Errno Unit :=
  match d.find p.parent with
  | .error e => .error e
  | .ok (.file _) => .error .notDir
  | .ok .dir =>
    match p.names.getLast? with
    | some name => if tooLong name then .error .nameTooLong else .ok ()
    | none => .ok ()

/-- Set what a path holds. -/
def put (d : Disk) (names : List String) (it : Item) : Disk :=
  if d.items.any (·.1 == names) then
    { items := d.items.map fun kv => if kv.1 == names then (names, it) else kv }
  else { items := d.items ++ [(names, it)] }

/-- Make one directory. -/
def makeDir (d : Disk) (names : List String) : Except Errno Disk := do
  d.checkParent ⟨names, false⟩
  match d.itemAt names with
  | some _ => throw .taken
  | none => return d.put names .dir

/-- Whether a path is a directory. -/
def isDirAt (d : Disk) (names : List String) : Bool := d.itemAt names == some .dir

/-- Make a directory and the directories above it; a directory already there is fine. -/
def makeDirs (d : Disk) (names : List String) : Except Errno Disk :=
  if names = [] then .ok d
  else match d.makeDir names with
    | .ok d' => .ok d'
    | .error e =>
      if e != .noEntry then (if d.isDirAt names then .ok d else .error e)
      else match d.makeDirs names.dropLast with
        | .error e' => .error e'
        | .ok d' =>
          match d'.makeDir names with
          | .ok d'' => .ok d''
          | .error e'' => if d'.isDirAt names then .ok d' else .error e''
termination_by names.length
decreasing_by
  have : 0 < names.length := List.length_pos_iff.mpr ‹_›
  simp only [List.length_dropLast]
  omega

/-- Open a file for writing: make it, or empty it. -/
def create (d : Disk) (p : DiskPath) : Except Errno Disk := do
  d.checkParent p
  match d.itemAt p.names with
  | some .dir => throw .isDir
  | some (.file _) => if p.mustBeDir then throw .notDir else return d.put p.names (.file [])
  | none => if p.mustBeDir then throw .isDir else return d.put p.names (.file [])

/-- Add bytes to the end of a file. -/
def append (d : Disk) (names : List String) (data : Bytes) : Disk :=
  match d.itemAt names with
  | some (.file old) => d.put names (.file (old ++ data))
  | _ => d

/-- Whether a path lies strictly below another. -/
def isBelow (names dir : List String) : Bool := dir.isPrefixOf names && names.length > dir.length

/-- Remove a path and everything below it. -/
def removeAll (d : Disk) (names : List String) : Disk :=
  { items := d.items.filter fun kv => !(names.isPrefixOf kv.1) }

/-- Copy a regular file onto a path, emptying or making the target. -/
def copyFile (d : Disk) (source target : DiskPath) : Except Errno Disk := do
  let data ← match ← d.find source with
    | .file data => pure data
    | .dir => throw .notRegular
  let d ← d.create target
  return d.append target.names data

/-- Move a file or directory. -/
def move (d : Disk) (source target : DiskPath) : Except Errno Disk := do
  let it ← d.find source
  d.checkParent target
  if source.names == target.names then return d
  let existing := d.itemAt target.names
  match it with
  | .dir =>
    if isBelow target.names source.names then throw .invalid
    match existing with
    | some (.file _) => throw .notDir
    | some .dir => if !(d.namesIn target.names).isEmpty then throw .notEmpty
    | none => pure ()
  | .file _ =>
    if existing == some .dir then throw .isDir
  let d := d.removeAll target.names
  let n := source.names.length
  return { items := d.items.map fun kv =>
    if source.names.isPrefixOf kv.1 then (target.names ++ kv.1.drop n, kv.2) else kv }

end Disk

end Conveyor
