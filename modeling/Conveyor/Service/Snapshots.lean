import Conveyor.Service.Basic
import Conveyor.Store.Snapshot

/-!
# Saving and restoring the store

- `Service.snapshot` takes a snapshot of the store.
- `Service.saveSnapshot` writes it as an indented JSON document to a file of the node's disk,
  making the directories above the file first; it gives the snapshot written. Failures name the
  paths as shown under the node's directory.
- `Service.restore` reads a snapshot document and replaces the store with the one it holds: the
  document must read as a snapshot (`Failed to parse snapshot`) of the current version.
- `Service.roundTrip` saves the store and restores it: the tasks stay, the workers and the
  cancel marks of single tasks go.
-/

namespace Conveyor

namespace Service

/-- A snapshot of the store. -/
def snapshot : ServiceM Snapshot := do
  let t ← tick
  return (← get).store.capture t

/-- The bytes of a text. -/
def textBytes (s : String) : Bytes := s.toUTF8.toList

/-- Write a snapshot of the store to a file of the disk; `shown` is how the node's directory is
written in failures. -/
def saveSnapshot (shown : String) (path : String) : ServiceM Snapshot := do
  let snap ← snapshot
  let dp := DiskPath.ofString path
  let w ← get
  let disk ← match w.storage.disk.makeDirs dp.parent.names with
    | .ok d => pure d
    | .error e =>
      fail (e.toError (dp.parent.names.foldl (fun acc n => acc ++ "/" ++ n) shown))
  let disk ← match disk.create dp with
    | .ok d => pure (d.append dp.names (textBytes snap.toJson.pretty))
    | .error e => fail (e.toError (shown ++ "/" ++ path))
  modify fun w => { w with storage := { w.storage with disk } }
  return snap

/-- Replace the store with a snapshot's; gives the snapshot of the new store. -/
def replaceStore (snap : Snapshot) : ServiceM Snapshot := do
  modify fun w => { w with store := Store.ofSnapshot snap w.store.serial }
  snapshot

/-- Replace the store with the one a snapshot document holds; `path` names the document. -/
def restore (path : String) (text : String) : ServiceM Snapshot := do
  let snap ← match Json.parseShaped Snapshot.shape text with
    | .error e => fail (.store ("Failed to parse snapshot '" ++ path ++ "': " ++ e.message text))
    | .ok v =>
      match Snapshot.ofJson? v with
      | some snap => pure snap
      | none => fail (.store ("Failed to parse snapshot '" ++ path ++ "': not a snapshot"))
  if snap.version != snapshotVersion then
    fail (.store ("Unsupported snapshot version " ++ toString snap.version ++ " in '" ++ path ++ "'"))
  replaceStore snap

/-- Write a text to a file of the disk. -/
def writeText (path : String) (text : String) : ServiceM Unit := do
  let dp := DiskPath.ofString path
  match (← get).storage.disk.create dp with
  | .ok d =>
    modify fun w => { w with storage := { w.storage with disk := d.append dp.names (textBytes text) } }
  | .error e => fail (e.toError path)

/-- Replace the store with the one a snapshot file of the disk holds. -/
def restoreFile (path : String) : ServiceM Snapshot := do
  match (← get).storage.disk.find (DiskPath.ofString path) with
  | .ok (.file data) =>
    restore path ((String.fromUTF8? (ByteArray.mk data.toArray)).getD "")
  | .ok .dir => fail (Errno.isDir.toError path)
  | .error e => fail (e.toError path)

/-- Save the store and restore it. -/
def roundTrip : ServiceM Snapshot := do
  replaceStore (← snapshot)

end Service

end Conveyor
