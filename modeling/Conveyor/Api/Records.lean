import Conveyor.Api.Fields
import Conveyor.Service.Dispatch
import Conveyor.Store.Snapshot

/-!
# Records as JSON

The JSON views of the records a node answers with: transfers, parents, children, workers,
storage entries, byte strings, snapshots, and the digest of the store that follows every
change of it. Children, whose identifiers the store invents, are named after their parent and
their place in its list of children.
-/

namespace Conveyor
namespace Api

/-! ## Scenarios -/

/-- The id of a name: a child's given name first, then the padding rule. -/
def idOf (names : Names) (s : String) : Decode Uuid :=
  match names.find? (·.2 == s) with
  | some (u, _) => pure u
  | none => uuidOfName s

def taskIn (names : Names) (j : Json) (k : String) : Decode TaskId := do
  pure ⟨← idOf names (← str j k)⟩

def workerIn (names : Names) (j : Json) (k : String) : Decode WorkerId := do
  pure ⟨← idOf names (← str j k)⟩

def intOpt (j : Json) (k : String) : Decode (Option Int) :=
  match field? j k with
  | some v => do pure (some (← asInt k v))
  | none => pure none

/-- Bytes given as `{"data": text}` or `{"size": n, "byte": b}`. -/
def bytesOf (j : Json) : Decode Bytes := do
  match field? j "data" with
  | some v => pure (← asStr "data" v).toUTF8.toList
  | none =>
    let b ← natD j "byte" 120
    if b > 255 then throw "field 'byte' must be a byte"
    pure (List.replicate (← nat j "size") b.toUInt8)

def bytesJson (bs : Bytes) : Json :=
  let n := bs.length
  let sum := .obj [("len", natJson n), ("byte_sum", natJson (bs.foldl (fun a b => a + b.toNat) 0))]
  if n ≤ 256 then
    match String.fromUTF8? (ByteArray.mk bs.toArray) with
    | some s => .obj [("len", natJson n), ("text", .str s)]
    | none => sum
  else sum

def optStr (names : Names) : Option String → Json
  | some s => .str (renameIn names s)
  | none => .null

def optNat : Option Nat → Json
  | some n => natJson n
  | none => .null

def taskName (names : Names) (id : TaskId) : Json := .str (nameOf names id.uuid)

def workerName (names : Names) (w : WorkerId) : Json := .str (nameOf names w.uuid)

def optWorker (names : Names) : Option WorkerId → Json
  | some w => workerName names w
  | none => .null

def topJson (names : Names) (t : Top) : Json :=
  .obj [("name", taskName names t.id), ("tenant", .str t.tenant), ("user", .str t.user),
    ("tag", match t.tag with | some g => .str g | none => .null),
    ("status", statusJson t.status), ("error", optStr names t.error),
    ("cancel_requested", .bool t.cancelRequested),
    ("parents", .arr (t.parents.map (taskName names))),
    ("created_ms", .int (Stamp.toMillis (t.created - Service.taskEpoch))),
    ("started", .bool t.started.isSome), ("ended", .bool t.ended.isSome)]

def parentJson (names : Names) (p : Parent) : Json :=
  .obj [("name", taskName names p.id), ("top", taskName names p.top), ("tenant", .str p.tenant),
    ("source", .str p.source), ("destination", .str p.destination),
    ("status", statusJson p.status), ("optional", .bool p.optional),
    ("total_bytes", optNat p.totalBytes), ("bytes_transferred", natJson p.bytes),
    ("child_count", natJson p.childCount), ("worker", optWorker names p.worker),
    ("retry_count", natJson p.retries), ("error", optStr names p.error),
    ("created_ms", .int (Stamp.toMillis (p.created - Service.taskEpoch))),
    ("started", .bool p.started.isSome), ("ended", .bool p.ended.isSome)]

def childJson (names : Names) (c : Child) : Json :=
  .obj [("name", taskName names c.id), ("parent", taskName names c.parent),
    ("top", taskName names c.top), ("tenant", .str c.tenant), ("source", .str c.source),
    ("destination", .str c.destination), ("status", statusJson c.status),
    ("size", natJson c.size), ("bytes_transferred", natJson c.bytes),
    ("optional", .bool c.optional), ("worker", optWorker names c.worker),
    ("retry_count", natJson c.retries), ("error", optStr names c.error),
    ("started", .bool c.started.isSome), ("ended", .bool c.ended.isSome)]

def workerJson (names : Names) (w : Worker) : Json :=
  .obj [("name", workerName names w.id), ("host", .str w.host),
    ("registered_ms", .int (Stamp.toMillis (w.registered - Service.started))),
    ("heartbeat_ms", .int (Stamp.toMillis (w.heartbeat - Service.started)))]

def recordJson (names : Names) : TaskRecord → Json
  | .parent p => parentJson names p
  | .child c => childJson names c

def entryJson (e : Entry) : Json :=
  .obj [("path", .str e.path), ("size", natJson e.size), ("dir", .bool e.isDir),
    ("entry_type", .str (if e.isDir then "directory" else "file"))]

def snapshotLists (names : Names) (s : Snapshot) : Json :=
  .obj [("version", natJson s.version), ("tops", .arr (s.tops.map fun t => taskName names t.id)),
    ("parents", .arr (s.parents.map fun p => taskName names p.id)),
    ("children", .arr (s.children.map fun c => taskName names c.id))]

def failureJson (names : Names) : Failure → Json
  | .error e => errorJson names e
  | .panic p => fail "panic" p.message

/-- An object with its keys in order, one member per key. -/
def sortedObj (members : List (String × Json)) : Json :=
  let distinct := members.foldl (fun acc kv =>
    if acc.any (·.1 == kv.1) then acc.map fun m => if m.1 == kv.1 then kv else m
    else acc ++ [kv]) []
  .obj (distinct.mergeSort fun a b => decide (a.1 ≤ b.1))

def sortedNames (xs : List String) : List String := xs.mergeSort fun a b => decide (a ≤ b)

/-- The digest of the store that the answers carry. -/
def digest (names : Names) (s : Store) : Json :=
  let snap := s.capture 0
  let row (st : Status) (w : Option WorkerId) (bytes retries : Nat) : Json :=
    .arr [statusJson st, optWorker names w, natJson bytes, natJson retries]
  .obj [("tops", sortedObj (snap.tops.map fun t =>
      (nameOf names t.id.uuid, .arr [statusJson t.status, .bool t.cancelRequested]))),
    ("parents", sortedObj (snap.parents.map fun p =>
      (nameOf names p.id.uuid, row p.status p.worker p.bytes p.retries))),
    ("children", sortedObj (snap.children.map fun c =>
      (nameOf names c.id.uuid, row c.status c.worker c.bytes c.retries))),
    ("workers", strList (sortedNames (s.workers.map fun w => nameOf names w.id.uuid)))]

/-- Name the children of parents after the parent and their place, unless all of them already
have names given this way. -/
def nameChildren (names : Names) (s : Store) (parents : List TaskId) : Names :=
  parents.foldl (fun names p =>
    let ids := s.childIds p
    if ids.all (fun id => names.any (·.1 == id.uuid)) then names
    else
      let parentName := nameOf names p.uuid
      let fresh := ids.zipIdx.map fun (id, i) => (id.uuid, parentName ++ "/" ++ toString i)
      fresh.reverse ++ names.filter fun (u, _) => !ids.any (·.uuid == u)) names

end Api
end Conveyor
