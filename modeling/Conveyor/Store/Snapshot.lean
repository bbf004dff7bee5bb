import Conveyor.Store.Basic
import Conveyor.Text.Json
import Conveyor.Text.Time

/-!
# Snapshots of the store

A `Snapshot` is every task record of the store, reachable from the transfers: the transfers
oldest first (ties by id), the parents each transfer names in its order, and the children of
each of those parents in creation order. Workers and the cancel marks of single tasks are not
part of it, so a store restored from a snapshot (`Store.ofSnapshot`) has neither, and assignments
held by the old workers are released as orphans on the next dispatcher cycle.

A snapshot is written as a JSON document (`Snapshot.toJson`) with the field names of the records,
identifiers in their hyphenated form, statuses in upper case and instants in RFC 3339.
`Snapshot.ofJson?` reads one back: every field must be there with the right type (a missing
optional field is absent) and a field must not repeat. The document is read by `Snapshot.shape`,
so members it does not know are only checked for their syntax and skipped, and a record may also
be written as the list of its fields in order.
-/

namespace Conveyor

/-- The version of the snapshot format. -/
def snapshotVersion : Nat := 1

/-- The task records of a store. -/
structure Snapshot where
  version : Nat
  takenAt : Stamp
  tops : List Top
  parents : List Parent
  children : List Child
deriving Repr

namespace Store

/-- The snapshot of a store, taken at an instant. -/
def capture (s : Store) (now : Stamp) : Snapshot :=
  let tops := s.tops.mergeSort fun a b =>
    a.created < b.created || (a.created == b.created && a.id.uuid.value ≤ b.id.uuid.value)
  let parents := tops.flatMap fun t => t.parents.filterMap (Table.find? s.parents)
  let children := parents.flatMap fun p => (s.childIds p.id).filterMap (Table.find? s.children)
  ⟨snapshotVersion, now, tops, parents, children⟩

/-- The children of each parent, in the order of a list of children. -/
def groupChildren (children : List Child) : List (TaskId × List TaskId) :=
  children.foldl (fun acc c =>
    if acc.any (·.1 == c.parent) then
      acc.map fun kv => if kv.1 == c.parent then (kv.1, kv.2 ++ [c.id]) else kv
    else acc ++ [(c.parent, [c.id])]) []

/-- The store holding a snapshot's records, with no workers and no cancel marks. It keeps
inventing identifiers where `serial` says. -/
def ofSnapshot (snap : Snapshot) (serial : Nat) : Store :=
  { tops := snap.tops.foldl Table.put []
    parents := snap.parents.foldl Table.put []
    children := snap.children.foldl Table.put []
    childLists := groupChildren snap.children
    serial }

end Store

namespace Snapshot

/-- An optional value, or null. -/
def optional {α : Type} (f : α → Json) : Option α → Json
  | some a => f a
  | none => .null

/-- A task identifier. -/
def taskJson (id : TaskId) : Json := .str id.render

/-- An instant. -/
def timeJson (t : Stamp) : Json := .str (Time.render t)

/-- A transfer record. -/
def topJson (t : Top) : Json :=
  .obj [("id", taskJson t.id), ("tenant", .str t.tenant), ("user", .str t.user),
    ("tag", optional .str t.tag), ("status", .str t.status.name),
    ("error", optional .str t.error), ("cancel_requested", .bool t.cancelRequested),
    ("parent_ids", .arr (t.parents.map taskJson)), ("created_at", timeJson t.created),
    ("started_at", optional timeJson t.started), ("ended_at", optional timeJson t.ended)]

/-- A parent record. -/
def parentJson (p : Parent) : Json :=
  .obj [("id", taskJson p.id), ("top_id", taskJson p.top), ("tenant", .str p.tenant),
    ("source", .str p.source), ("destination", .str p.destination),
    ("status", .str p.status.name), ("optional", .bool p.optional),
    ("total_bytes", optional (fun n => .int n) p.totalBytes),
    ("bytes_transferred", .int p.bytes), ("child_count", .int p.childCount),
    ("assigned_worker", optional (fun w => .str w.render) p.worker),
    ("retry_count", .int p.retries), ("error", optional .str p.error),
    ("created_at", timeJson p.created), ("started_at", optional timeJson p.started),
    ("ended_at", optional timeJson p.ended)]

/-- A child record. -/
def childJson (c : Child) : Json :=
  .obj [("id", taskJson c.id), ("parent_id", taskJson c.parent), ("top_id", taskJson c.top),
    ("tenant", .str c.tenant), ("source", .str c.source), ("destination", .str c.destination),
    ("status", .str c.status.name), ("size", .int c.size), ("bytes_transferred", .int c.bytes),
    ("optional", .bool c.optional),
    ("assigned_worker", optional (fun w => .str w.render) c.worker),
    ("retry_count", .int c.retries), ("error", optional .str c.error),
    ("created_at", timeJson c.created), ("started_at", optional timeJson c.started),
    ("ended_at", optional timeJson c.ended)]

/-- The document of a snapshot. -/
def toJson (s : Snapshot) : Json :=
  .obj [("version", .int s.version), ("taken_at", timeJson s.takenAt),
    ("tops", .arr (s.tops.map topJson)), ("parents", .arr (s.parents.map parentJson)),
    ("children", .arr (s.children.map childJson))]

/-! ## Reading -/

/-- The members of an object. -/
def members (v : Json) : Option (List (String × Json)) :=
  match v with
  | .obj ms => some ms
  | _ => none

/-- A field that may be missing; it must not repeat. -/
def field? (ms : List (String × Json)) (key : String) : Option (Option Json) :=
  match ms.filter (·.1 == key) with
  | [] => some none
  | [(_, v)] => some (some v)
  | _ => none

/-- A field that must be there. -/
def field (ms : List (String × Json)) (key : String) : Option Json := do
  match ← field? ms key with
  | some v => some v
  | none => none

/-- A field of an optional value: missing or null is absent. -/
def optionalField {α : Type} (ms : List (String × Json)) (key : String) (f : Json → Option α) :
    Option (Option α) := do
  match ← field? ms key with
  | none | some .null => some none
  | some v => (f v).map some

/-- A whole number below a bound. -/
def natBelow (bound : Nat) (v : Json) : Option Nat :=
  match v with
  | .int i => if 0 ≤ i && i.toNat < bound then some i.toNat else none
  | _ => none

/-- A 64-bit count. -/
def word (v : Json) : Option Nat := natBelow (Nat.pow 2 64) v

/-- A 32-bit count. -/
def word32 (v : Json) : Option Nat := natBelow (Nat.pow 2 32) v

/-- A text. -/
def text (v : Json) : Option String :=
  match v with
  | .str s => some s
  | _ => none

/-- A truth value. -/
def flag (v : Json) : Option Bool :=
  match v with
  | .bool b => some b
  | _ => none

/-- A task identifier. -/
def taskId (v : Json) : Option TaskId := do (Uuid.parse? (← text v)).map TaskId.mk

/-- A worker identifier. -/
def workerId (v : Json) : Option WorkerId := do (Uuid.parse? (← text v)).map WorkerId.mk

/-- A status: its name, or an object holding only its name with null. -/
def status (v : Json) : Option Status :=
  match v with
  | .str s => Status.ofName? s
  | .obj [(s, .null)] => Status.ofName? s
  | _ => none

/-- An instant. -/
def instant (v : Json) : Option Stamp := do Time.parse? (← text v)

/-- A list. -/
def list {α : Type} (f : Json → Option α) (v : Json) : Option (List α) :=
  match v with
  | .arr vs => vs.mapM f
  | _ => none

/-- The fields of a transfer record, in order. -/
def topFields : List String :=
  ["id", "tenant", "user", "tag", "status", "error", "cancel_requested", "parent_ids",
    "created_at", "started_at", "ended_at"]

/-- The fields of a parent record, in order. -/
def parentFields : List String :=
  ["id", "top_id", "tenant", "source", "destination", "status", "optional", "total_bytes",
    "bytes_transferred", "child_count", "assigned_worker", "retry_count", "error", "created_at",
    "started_at", "ended_at"]

/-- The fields of a child record, in order. -/
def childFields : List String :=
  ["id", "parent_id", "top_id", "tenant", "source", "destination", "status", "size",
    "bytes_transferred", "optional", "assigned_worker", "retry_count", "error", "created_at",
    "started_at", "ended_at"]

/-- A record whose fields are read whole. -/
def flatRecord (fields : List String) : Json.Shape :=
  .record (fields.map fun f => (f, .whole))

/-- The parts of a snapshot document that are read. -/
def shape : Json.Shape :=
  .record [("version", .whole), ("taken_at", .whole), ("tops", .list (flatRecord topFields)),
    ("parents", .list (flatRecord parentFields)), ("children", .list (flatRecord childFields))]

/-- Read a transfer record. -/
def top? (v : Json) : Option Top := do
  let ms ← members v
  return {
    id := ← taskId (← field ms "id")
    tenant := ← text (← field ms "tenant")
    user := ← text (← field ms "user")
    tag := ← optionalField ms "tag" text
    status := ← status (← field ms "status")
    error := ← optionalField ms "error" text
    cancelRequested := ← flag (← field ms "cancel_requested")
    parents := ← list taskId (← field ms "parent_ids")
    created := ← instant (← field ms "created_at")
    started := ← optionalField ms "started_at" instant
    ended := ← optionalField ms "ended_at" instant }

/-- Read a parent record. -/
def parent? (v : Json) : Option Parent := do
  let ms ← members v
  return {
    id := ← taskId (← field ms "id")
    top := ← taskId (← field ms "top_id")
    tenant := ← text (← field ms "tenant")
    source := ← text (← field ms "source")
    destination := ← text (← field ms "destination")
    status := ← status (← field ms "status")
    optional := ← flag (← field ms "optional")
    totalBytes := ← optionalField ms "total_bytes" word
    bytes := ← word (← field ms "bytes_transferred")
    childCount := ← word (← field ms "child_count")
    worker := ← optionalField ms "assigned_worker" workerId
    retries := ← word32 (← field ms "retry_count")
    error := ← optionalField ms "error" text
    created := ← instant (← field ms "created_at")
    started := ← optionalField ms "started_at" instant
    ended := ← optionalField ms "ended_at" instant }

/-- Read a child record. -/
def child? (v : Json) : Option Child := do
  let ms ← members v
  return {
    id := ← taskId (← field ms "id")
    parent := ← taskId (← field ms "parent_id")
    top := ← taskId (← field ms "top_id")
    tenant := ← text (← field ms "tenant")
    source := ← text (← field ms "source")
    destination := ← text (← field ms "destination")
    status := ← status (← field ms "status")
    size := ← word (← field ms "size")
    bytes := ← word (← field ms "bytes_transferred")
    optional := ← flag (← field ms "optional")
    worker := ← optionalField ms "assigned_worker" workerId
    retries := ← word32 (← field ms "retry_count")
    error := ← optionalField ms "error" text
    created := ← instant (← field ms "created_at")
    started := ← optionalField ms "started_at" instant
    ended := ← optionalField ms "ended_at" instant }

/-- Read a snapshot document. -/
def ofJson? (v : Json) : Option Snapshot := do
  let ms ← members v
  return {
    version := ← word32 (← field ms "version")
    takenAt := ← instant (← field ms "taken_at")
    tops := ← list top? (← field ms "tops")
    parents := ← list parent? (← field ms "parents")
    children := ← list child? (← field ms "children") }

end Snapshot

end Conveyor
