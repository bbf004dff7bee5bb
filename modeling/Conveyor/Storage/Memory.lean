import Conveyor.Storage.Entry
import Conveyor.Uri.Location

/-!
# Object stores held in memory

A `Memory` keeps objects under absolute paths, their paths strictly increasing (`Memory.ordered`),
as the keys of an ordered map are; a directory is any path that some object's path continues with
`/`. It can refuse paths (`PermissionDenied` on opening them), break the next reads of a path off
halfway, and throttle reads: each read hands out at most `chunk` bytes and waits `delay`
milliseconds first. It counts how often each path was opened for reading.

- `Memory.stat` reports an object, else a directory (its path without trailing slashes), else
  `NotFound`.
- `Memory.list` reports the objects and directories one level below a path, in path order; an
  object and a directory of one path are reported as the object. It scans the objects from the
  path's prefix on and stops at the first that does not start with it (`Memory.scanBelow`). A path
  with nothing below it and no object is `NotFound`.
- `Memory.openRead` checks the refusal, then the object, then counts the open and uses up one
  planned fault, which makes reading break off at half the object.
- A written object appears only once the writing is finished (`Memory.insert`).
- `Memory.copy`, `Memory.rename` and `Memory.delete` work on objects; deleting a path removes
  its object and everything below it, and is `NotFound` if that is nothing.
-/

namespace Conveyor

/-- Write a key into a key-sorted list: replace its value, or insert it in order. -/
def putSorted {α : Type} (k : String) (v : α) : List (String × α) → List (String × α)
  | [] => [(k, v)]
  | (k', v') :: rest =>
    if k = k' then (k, v) :: rest
    else if k < k' then (k, v) :: (k', v') :: rest
    else (k', v') :: putSorted k v rest

/-- A key-sorted write leaves the written entry and entries that were there. -/
theorem mem_putSorted {α : Type} {k : String} {v : α} {kv : String × α} :
    ∀ {xs : List (String × α)}, kv ∈ putSorted k v xs → kv.1 = k ∨ kv ∈ xs
  | [], h => Or.inl (by rw [List.mem_singleton.1 h])
  | (k', v') :: rest, h => by
    rw [putSorted] at h
    by_cases he : k = k'
    · rw [if_pos he] at h
      rcases List.mem_cons.1 h with rfl | h
      · exact Or.inl rfl
      · exact Or.inr (List.mem_cons_of_mem _ h)
    · rw [if_neg he] at h
      by_cases hlt : k < k'
      · rw [if_pos hlt] at h
        rcases List.mem_cons.1 h with rfl | h
        · exact Or.inl rfl
        · exact Or.inr h
      · rw [if_neg hlt] at h
        rcases List.mem_cons.1 h with rfl | h
        · exact Or.inr List.mem_cons_self
        · exact (mem_putSorted h).imp_right (List.mem_cons_of_mem _)

/-- Writing a key into a list whose keys increase strictly keeps them increasing. -/
theorem pairwise_putSorted {α : Type} (k : String) (v : α) :
    ∀ {xs : List (String × α)}, xs.Pairwise (fun a b => a.1 < b.1) →
      (putSorted k v xs).Pairwise (fun a b => a.1 < b.1)
  | [], _ => List.pairwise_singleton _ _
  | (k', v') :: rest, h => by
    rw [List.pairwise_cons] at h
    rw [putSorted]
    by_cases he : k = k'
    · -- the value is replaced in place
      rw [if_pos he]
      exact List.pairwise_cons.2 ⟨fun kv hkv => he ▸ h.1 kv hkv, h.2⟩
    · rw [if_neg he]
      by_cases hlt : k < k'
      · -- the key goes in front of `k'`
        rw [if_pos hlt]
        refine List.pairwise_cons.2 ⟨fun kv hkv => ?_, List.pairwise_cons.2 h⟩
        rcases List.mem_cons.1 hkv with rfl | hkv
        · exact hlt
        · exact String.lt_trans hlt (h.1 kv hkv)
      · -- the key goes after `k'`, which is then below it
        rw [if_neg hlt]
        have hgt : k' < k := Classical.byContradiction fun hgt => he (Std.Trichotomous.trichotomous k k' hlt hgt)
        refine List.pairwise_cons.2 ⟨fun kv hkv => ?_, pairwise_putSorted k v h.2⟩
        rcases mem_putSorted hkv with hk | hkv
        · rw [hk]; exact hgt
        · exact h.1 kv hkv

/-- Write a key into an association list: replace its value, or add it at the end. -/
def putKey {α : Type} (k : String) (v : α) (xs : List (String × α)) : List (String × α) :=
  if xs.any (·.1 == k) then xs.map fun kv => if kv.1 == k then (k, v) else kv else xs ++ [(k, v)]

/-- The value of a key in an association list. -/
def lookupKey {α : Type} (k : String) (xs : List (String × α)) : Option α :=
  (xs.find? (·.1 == k)).map (·.2)

/-- An object store in memory. -/
structure Memory where
  /-- The objects, in path order. -/
  objects : List (String × Bytes) := []
  /-- The paths of the objects increase strictly. -/
  ordered : objects.Pairwise (fun a b => a.1 < b.1) := by decide
  /-- How many more reads of a path break off. -/
  faults : List (String × Nat) := []
  /-- The refused paths. -/
  denied : List String := []
  /-- How often each path was opened for reading. -/
  opens : List (String × Nat) := []
  /-- The most bytes one read hands out. -/
  chunk : Nat := 65536
  /-- Milliseconds each read waits. -/
  delay : Nat := 0
deriving Repr, Inhabited

namespace Memory

/-- The store a new system starts with: no objects, and reads of whole default chunks. -/
def empty : Memory := {}

@[simp] theorem objects_empty : empty.objects = [] := rfl

/-- A store whose reads hand out at most `chunk` bytes (at least 1) after `delay` milliseconds. -/
def throttled (chunk delay : Nat) : Memory := { chunk := max chunk 1, delay }

/-- The object at a path. -/
def get? (m : Memory) (path : String) : Option Bytes := lookupKey path m.objects

/-- Store an object. -/
def insert (m : Memory) (path : String) (data : Bytes) : Memory :=
  { m with objects := putSorted path data m.objects, ordered := pairwise_putSorted path data m.ordered }

/-- The object paths, in order. -/
def paths (m : Memory) : List String := m.objects.map (·.1)

/-- Make the next `count` reads of a path break off. -/
def injectFaults (m : Memory) (path : String) (count : Nat) : Memory :=
  { m with faults := putKey path count m.faults }

/-- Refuse a path. -/
def deny (m : Memory) (path : String) : Memory :=
  { m with denied := if m.denied.contains path then m.denied else m.denied ++ [path] }

/-- How often a path was opened for reading. -/
def readOpens (m : Memory) (path : String) : Nat := (lookupKey path m.opens).getD 0

/-- The prefix of the paths below a directory. -/
def dirPrefix (path : String) : String := Location.trimBack '/' path ++ "/"

/-- Whether an object lies below a directory. -/
def hasBelow (m : Memory) (path : String) : Bool :=
  m.objects.any fun kv => kv.1.startsWith (dirPrefix path)

/-- Report a path. -/
def stat (m : Memory) (path : String) : Except Error Entry :=
  match m.get? path with
  | some d => .ok (Entry.file path d.length)
  | none =>
    if m.hasBelow path then .ok (Entry.directory (Location.trimBack '/' path))
    else .error (.notFound path)

/-- Add an entry to a listing: an object replaces what is there, a directory is added only if
its path is new. -/
def addEntry (acc : List Entry) (e : Entry) : List Entry :=
  if acc.any (·.path == e.path) then
    if e.isDir then acc else acc.map fun x => if x.path == e.path then e else x
  else acc ++ [e]

/-- What one object contributes to the listing of a directory. -/
def entryBelow (pre : String) (key : String) (data : Bytes) : Option Entry :=
  if key.startsWith pre then
    let rest := key.toList.drop pre.length
    match rest.span (· ≠ '/') with
    | (dir, _ :: _) => some (Entry.directory (pre ++ String.ofList dir))
    | (_, []) => some (Entry.file key data.length)
  else none

/-- Add what objects contribute to the listing of a directory, one after another, and stop at the
first that does not lie below it. -/
def scanBelow (pre : String) : List (String × Bytes) → List Entry → List Entry
  | [], acc => acc
  | (key, data) :: rest, acc =>
    match entryBelow pre key data with
    | some e => scanBelow pre rest (addEntry acc e)
    | none => acc

/-- List the objects and directories one level below a path: scan the objects in path order from the
first at or after the directory's prefix on. -/
def list (m : Memory) (path : String) : Except Error (List Entry) :=
  let pre := dirPrefix path
  let entries := scanBelow pre (m.objects.dropWhile fun kv => decide (kv.1 < pre)) []
  if entries.isEmpty && (m.get? path).isNone then .error (.notFound path)
  else .ok (entries.mergeSort fun a b => decide (a.path ≤ b.path))

/-- Open an object for reading. -/
def openRead (m : Memory) (path : String) : Except Error (Source × Memory) := do
  if m.denied.contains path then throw (.permissionDenied path)
  let data ← match m.get? path with
    | some d => pure d
    | none => throw (.notFound path)
  let m := { m with opens := putKey path (m.readOpens path + 1) m.opens }
  let remaining := (lookupKey path m.faults).getD 0
  let (breaks, m) :=
    if remaining > 0 then
      (if data.isEmpty then none
       else some (data.length / 2, (⟨.connectionReset, "injected read fault"⟩ : Breakage)),
       { m with faults := putKey path (remaining - 1) m.faults })
    else (none, m)
  return ({ data, chunk := m.chunk, delay := m.delay, breaks }, m)

/-- Check that a path may be written. -/
def openWrite (m : Memory) (path : String) : Except Error Unit :=
  if m.denied.contains path then .error (.permissionDenied path) else .ok ()

/-- Copy an object. -/
def copy (m : Memory) (source destination : String) : Except Error Memory :=
  match m.get? source with
  | some d => .ok (m.insert destination d)
  | none => .error (.notFound source)

/-- Move an object. -/
def rename (m : Memory) (source destination : String) : Except Error Memory :=
  match m.get? source with
  | some d =>
    .ok ({ m with objects := m.objects.filter (·.1 != source), ordered := m.ordered.filter _ }.insert destination d)
  | none => .error (.notFound source)

/-- Delete an object and everything below its path. -/
def delete (m : Memory) (path : String) : Except Error Memory :=
  let kept := m.objects.filter fun kv => kv.1 != path && !kv.1.startsWith (dirPrefix path)
  if kept.length == m.objects.length then .error (.notFound path)
  else .ok { m with objects := kept, ordered := m.ordered.filter _ }

end Memory

end Conveyor
