import Conveyor.Proofs.Store.Run
import Conveyor.Store.Call

/-!
# Calls and reachable stores

A store is `Reachable` when a sequence of steps leads to it from the empty store:
calls of any operation with any arguments, whatever their outcome (an error or a panic keeps the writes
made before it), the drawing of a fresh id, and a snapshot taken and restored. The one restriction is on
submissions: a transfer is created only as a request becomes one, a new Top task with new Parent tasks
of it, under ids that are pairwise distinct, held by no record and never invented by the store later
(`Store.Admits`).
-/

namespace Conveyor

namespace Store

/-- The ids of all task records: transfers, parents, then children. -/
def taskIds (s : Store) : List TaskId :=
  s.tops.map (·.id) ++ s.parents.map (·.id) ++ s.children.map (·.id)

/-- An id that no task record holds and that the store will not invent. -/
def Unused (s : Store) (id : TaskId) : Prop :=
  id ∉ s.taskIds ∧ ∀ k, s.serial ≤ k → id ≠ ⟨Uuid.spawned k⟩

/-- A transfer as a request becomes one: a new Top task and new Parent tasks of it, under pairwise
distinct ids that the store does not use. -/
structure Admits (s : Store) (t : Top) (ps : List Parent) : Prop where
  top_new : ∃ tenant user tag created, t = Top.fresh t.id tenant user tag created
  parents_new : ∀ p ∈ ps, ∃ source destination optional created,
    p = Parent.fresh p.id t source destination optional created
  ids_distinct : (t.id :: ps.map (·.id)).Nodup
  ids_unused : ∀ id ∈ t.id :: ps.map (·.id), s.Unused id

end Store

/-- What a call must meet to be made: only a submission has a condition. -/
def Call.Admitted : Call → Store → Prop
  | .createTransfer t ps, s => s.Admits t ps
  | _, _ => True

/-- The stores a run of the task store can reach from the empty store. -/
inductive Reachable : Store → Prop where
  | empty : Reachable {}
  | call {s : Store} (c : Call) : Reachable s → c.Admitted s → Reachable (Store.exec c.run s).2
  | draw {s : Store} : Reachable s → Reachable (Store.exec Store.freshId s).2
  | restore {s : Store} (now : Stamp) : Reachable s → Reachable (Store.ofSnapshot (s.capture now) s.serial)

namespace Store

variable {α : Type} (s : Store)

theorem exec_discard (m : StoreM α) : exec (Functor.discard m) s = ((exec m s).1.map fun _ => (), (exec m s).2) :=
  exec_map s _ m

end Store

/-- Calls that need no condition, made in turn from a reachable store, reach a store. -/
theorem Reachable.foldl_calls {s : Store} (h : Reachable s) {cs : List Call} (hcs : ∀ c ∈ cs, ∀ s, c.Admitted s) :
    Reachable (cs.foldl (fun s c => (Store.exec c.run s).2) s) := by
  induction cs generalizing s with
  | nil => exact h
  | cons c cs ih =>
    exact ih (.call c h (hcs c List.mem_cons_self _)) fun c' hc' => hcs c' (List.mem_cons_of_mem _ hc')

end Conveyor
