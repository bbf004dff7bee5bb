import Conveyor.Proofs.Store.Reach

/-!
# Calls that touch no task

Of the calls of the task store, only submissions, cancels and the steps a worker reports change a
task. Every other call reads, or changes the registered workers and which worker holds a task:

* `Store.Reassigned s s'`: the stores hold the same tasks, each perhaps held by another worker.
* `Call.keepsTasks`: a call that writes no task leaves its store `Reassigned`, and one of them
  that fails leaves it as it was.
-/

namespace Conveyor

namespace Store

/-- The store \x60s'\x60 holds the tasks of \x60s\x60, each perhaps held by another worker; the registered
workers may differ. -/
structure Reassigned (s s' : Store) : Prop where
  tops : s'.tops = s.tops
  parents : ∃ f : Parent → Option WorkerId, s'.parents = s.parents.map fun p => { p with worker := f p }
  children : ∃ f : Child → Option WorkerId, s'.children = s.children.map fun c => { c with worker := f c }
  childLists : s'.childLists = s.childLists
  marks : s'.marks = s.marks
  serial : s'.serial = s.serial

namespace Reassigned

variable {s s' s₁ s₂ : Store}

theorem of_workers (s : Store) (ws : List Worker) : Reassigned s { s with workers := ws } :=
  ⟨rfl, ⟨(·.worker), by simp⟩, ⟨(·.worker), by simp⟩, rfl, rfl, rfl⟩

theorem refl (s : Store) : Reassigned s s := of_workers s s.workers

theorem trans (h₁ : Reassigned s s₁) (h₂ : Reassigned s₁ s₂) : Reassigned s s₂ := by
  obtain ⟨t₁, ⟨f₁, hf₁⟩, ⟨g₁, hg₁⟩, l₁, m₁, n₁⟩ := h₁
  obtain ⟨t₂, ⟨f₂, hf₂⟩, ⟨g₂, hg₂⟩, l₂, m₂, n₂⟩ := h₂
  refine ⟨t₂.trans t₁, ⟨fun p => f₂ { p with worker := f₁ p }, ?_⟩, ⟨fun c => g₂ { c with worker := g₁ c }, ?_⟩,
    l₂.trans l₁, m₂.trans m₁, n₂.trans n₁⟩
  · rw [hf₂, hf₁, List.map_map]; rfl
  · rw [hg₂, hg₁, List.map_map]; rfl

/-- Releasing or handing out tasks keeps every record apart from its worker. -/
theorem find?_parents (h : Reassigned s s') :
    ∃ f : Parent → Option WorkerId, ∀ id, Table.find? s'.parents id =
      (Table.find? s.parents id).map fun p => { p with worker := f p } := by
  obtain ⟨f, hf⟩ := h.parents
  exact ⟨f, fun id => by rw [hf]; exact Table.find?_map (fun (p : Parent) => { p with worker := f p }) (fun _ => rfl) id⟩

theorem find?_children (h : Reassigned s s') :
    ∃ f : Child → Option WorkerId, ∀ id, Table.find? s'.children id =
      (Table.find? s.children id).map fun c => { c with worker := f c } := by
  obtain ⟨f, hf⟩ := h.children
  exact ⟨f, fun id => by rw [hf]; exact Table.find?_map (fun (c : Child) => { c with worker := f c }) (fun _ => rfl) id⟩

end Reassigned

/-! ## The operations on workers -/

section Workers

variable (s : Store)

/-- Setting a worker where a test holds, on every record of a table. -/
private theorem map_setWorker {α : Type} (xs : List α) (test : α → Bool) (set : α → α) (worker : α → Option WorkerId)
    (setWorker : α → Option WorkerId → α) (hset : ∀ x, set x = setWorker x none)
    (hid : ∀ x, setWorker x (worker x) = x) :
    xs.map (fun x => if test x then set x else x) =
      xs.map fun x => setWorker x (if test x then none else worker x) := by
  refine List.map_congr_left fun x _ => ?_
  by_cases h : test x <;> simp [h, hset, hid]

theorem reassigned_releaseWorker (w : WorkerId) : Reassigned s (exec (releaseWorker w) s).2 := by
  refine ⟨rfl, ⟨fun p => if p.worker == some w then none else p.worker, ?_⟩,
    ⟨fun c => if c.worker == some w then none else c.worker, ?_⟩, rfl, rfl, rfl⟩
  · exact map_setWorker _ _ _ Parent.worker (fun p v => { p with worker := v }) (fun _ => rfl) (fun _ => rfl)
  · exact map_setWorker _ _ _ Child.worker (fun c v => { c with worker := v }) (fun _ => rfl) (fun _ => rfl)

theorem reassigned_setWorker (kind : Kind) (id : TaskId) (w : Option WorkerId) :
    Reassigned s (exec (setWorker kind id w) s).2 := by
  cases kind with
  | parent =>
    refine ⟨rfl, ⟨fun p => if p.id == id then w else p.worker, ?_⟩, ⟨(·.worker), by simp [setWorker]⟩,
      rfl, rfl, rfl⟩
    refine List.map_congr_left fun p _ => ?_
    by_cases h : (p.id == id) = true <;> simp [h]
  | child =>
    refine ⟨rfl, ⟨(·.worker), by simp [setWorker]⟩, ⟨fun c => if c.id == id then w else c.worker, ?_⟩,
      rfl, rfl, rfl⟩
    refine List.map_congr_left fun c _ => ?_
    by_cases h : (c.id == id) = true <;> simp [h]

/-- The loop of \x60clearOrphans\x60: releasing each of some rows. -/
def releaseRows (kind : Kind) (rows : List Row) : StoreM PUnit :=
  forIn rows PUnit.unit fun (r : Row) (_ : PUnit) =>
    (do setWorker kind r.id none; pure (ForInStep.yield PUnit.unit) : StoreM (ForInStep PUnit))

theorem exec_releaseRows (kind : Kind) (rows : List Row) (s : Store) :
    ∃ s', exec (releaseRows kind rows) s = (.ok PUnit.unit, s') ∧ Reassigned s s' := by
  induction rows generalizing s with
  | nil => exact ⟨s, rfl, Reassigned.refl s⟩
  | cons r rows ih =>
    obtain ⟨s', he, hre⟩ := ih (exec (setWorker kind r.id none) s).2
    refine ⟨s', ?_, (reassigned_setWorker s kind r.id none).trans hre⟩
    simp only [releaseRows, List.forIn_cons, exec_bind, setWorker, exec_modify, exec_pure] at he ⊢
    exact he

end Workers

end Store

/-! ## Calls that write no task -/

/-- Whether a call may write a task: a submission, a cancel, or a step a worker reports. -/
def Call.writesTasks : Call → Bool
  | .createTransfer .. | .requestCancel .. | .beginStaging .. | .recordParentRetry .. | .commitStaging ..
  | .startParent .. | .finishParent .. | .beginChildAttempt .. | .recordProgress .. | .finishChild .. => true
  | _ => false

namespace Store

variable (s : Store)

theorem exec_top_state (id : TaskId) : (exec (top id) s).2 = s := by
  cases h : Table.find? s.tops id with
  | none => rw [exec_top_of_none h]
  | some t => rw [exec_top_of_find h]

theorem exec_parent_state (id : TaskId) : (exec (parent id) s).2 = s := by
  cases h : Table.find? s.parents id with
  | none => rw [exec_parent_of_none h]
  | some p => rw [exec_parent_of_find h]

theorem exec_child_state (id : TaskId) : (exec (child id) s).2 = s := by
  cases h : Table.find? s.children id with
  | none => rw [exec_child_of_none h]
  | some c => rw [exec_child_of_find h]

theorem exec_discard_state (m : StoreM α) : (exec (Functor.discard m) s).2 = (exec m s).2 := by
  rw [exec_discard]

/-- A run from \x60s\x60 keeps every task but for the worker holding it, and changes nothing when it
fails. -/
def KeepsTasks (m : StoreM α) (s : Store) : Prop :=
  Reassigned s (exec m s).2 ∧ ∀ e, (exec m s).1 = .error e → (exec m s).2 = s

namespace KeepsTasks

variable {m : StoreM α} {s : Store}

theorem of_ok (hok : ∃ a, (exec m s).1 = .ok a) (h : Reassigned s (exec m s).2) : KeepsTasks m s := by
  obtain ⟨a, ha⟩ := hok
  exact ⟨h, fun e he => by rw [ha] at he; cases he⟩

theorem of_state (h : (exec m s).2 = s) : KeepsTasks m s :=
  ⟨by rw [h]; exact Reassigned.refl s, fun _ _ => h⟩

theorem discard (h : KeepsTasks m s) : KeepsTasks (Functor.discard m) s := by
  refine ⟨by rw [exec_discard_state]; exact h.1, fun e he => ?_⟩
  rw [exec_discard] at he ⊢
  cases hm : (exec m s).1 with
  | ok a => rw [hm] at he; cases he
  | error e' => exact h.2 e' hm

end KeepsTasks

end Store

open Store in
/-- A call that writes no task keeps every task but for the worker holding it, and one that fails
changes nothing. -/
theorem Call.keepsTasks (c : Call) (hc : c.writesTasks = false) (s : Store) : KeepsTasks c.run s := by
  cases c <;> simp only [Call.writesTasks, Bool.true_eq_false] at hc <;> simp only [Call.run]
  case getTop id => exact (KeepsTasks.of_state (exec_top_state s id)).discard
  case getParent id => exact (KeepsTasks.of_state (exec_parent_state s id)).discard
  case getChild id => exact (KeepsTasks.of_state (exec_child_state s id)).discard
  case listTops => exact (KeepsTasks.of_state (by simp [Store.listTops, exec_map])).discard
  case parentsOf id =>
    refine (KeepsTasks.of_state ?_).discard
    cases h : Table.find? s.tops id <;> simp [Store.parentsOf, exec_bind, exec_map, exec_top_of_find, exec_top_of_none, h]
  case childrenOf id =>
    refine (KeepsTasks.of_state ?_).discard
    cases h : Table.find? s.parents id <;>
      simp [Store.childrenOf, exec_bind, exec_map, exec_parent_of_find, exec_parent_of_none, h]
  case contains => exact (KeepsTasks.of_state (by simp [Store.contains, exec_map])).discard
  case statusCounts => exact (KeepsTasks.of_state (by simp [Store.statusCounts, exec_map])).discard
  case isCancelRequested id =>
    refine (KeepsTasks.of_state ?_).discard
    simp only [Store.isCancelRequested, exec_bind, exec_get]
    split <;> rfl
  case registerWorker w => exact KeepsTasks.of_ok ⟨(), rfl⟩ (Reassigned.of_workers s _)
  case heartbeat w at_ =>
    refine KeepsTasks.of_ok ⟨(), rfl⟩ ?_
    simp only [Store.heartbeat, exec_modify]
    split <;> exact Reassigned.of_workers s _
  case deregisterWorker w =>
    refine KeepsTasks.of_ok ⟨(), ?_⟩ ?_
    · simp [Store.deregisterWorker, exec_bind, releaseWorker]
    · simp only [Store.deregisterWorker, exec_bind, exec_modify]
      exact (Reassigned.of_workers s _).trans (reassigned_releaseWorker _ w)
  case listWorkers => exact (KeepsTasks.of_state (by simp [Store.listWorkers, exec_map])).discard
  case evictStale cutoff =>
    refine (KeepsTasks.of_ok ⟨_, rfl⟩ ?_).discard
    simp only [Store.evictStale, exec_bind, exec_get, exec_set]
    exact Reassigned.of_workers s _
  case clearOrphans kind =>
    refine KeepsTasks.discard ?_
    simp only [KeepsTasks, Store.clearOrphans, exec_bind, exec_get]
    generalize List.filter _ (s.rows kind) = rows
    obtain ⟨s', he, hre⟩ := exec_releaseRows kind rows s
    simp only [releaseRows] at he
    simp only [he, exec_pure]
    exact ⟨hre, fun e h => by cases h⟩
  case backlogs => exact (KeepsTasks.of_state (by simp [Store.backlogs, exec_map])).discard
  case readyIds => exact (KeepsTasks.of_state (by simp [Store.readyIds, exec_map])).discard
  case assignedTo => exact (KeepsTasks.of_state (by simp [Store.assignedTo, exec_map])).discard
  case assign kind id w =>
    refine KeepsTasks.discard ?_
    simp only [KeepsTasks, Store.assign, exec_bind, exec_get]
    split
    · exact KeepsTasks.of_state rfl
    · split
      · split
        · exact KeepsTasks.of_ok ⟨true, rfl⟩ (reassigned_setWorker s kind id (some w))
        · exact KeepsTasks.of_state rfl
      · exact KeepsTasks.of_state rfl

end Conveyor
