import Conveyor.Proofs.Store.Cancel
import Conveyor.Proofs.Store.Dispatch

/-!
# What a restored store answers

A snapshot holds the task records and the lists of children, but neither the workers nor the cancel
marks of single parents and children. Restored, it gives a store with the same records, perhaps in
another order. Every task query reads records by id, follows the recorded order of a transfer's parents
and of a parent's children, counts records, or sorts them by creation time and id, so none of them sees
the order of the tables:

* `mergeSort_eq_of_perm`: sorting two reorderings of a list with distinct keys gives one list, when the
  order ranks two elements alike only if they share a key; the listings of transfers and of ready tasks
  are such sorts.
* `Store.SameAnswers s r`: `r` answers every task query as `s` does.
* `Store.SameRecords.sameAnswers`: stores with the same records answer alike, and a cancel question as
  the first store would with the second one's marks.
* `Reachable.restore_answers_alike`: a reachable store, snapshotted and restored, answers every task
  query as before and holds the same records, but has no workers and no cancel marks; so a cancel
  accepted for a parent or a child alone is no longer seen (`restore_forgets_parent_cancel`).
-/

namespace Conveyor

/-- Sorting two reorderings of a list whose keys are distinct gives one list, when the order is a total
preorder that ranks two elements alike only if they share a key: such elements are one, as a key names one
element of the list. -/
theorem mergeSort_eq_of_perm {α κ : Type} (le : α → α → Bool) (key : α → κ)
    (trans : ∀ a b c, le a b → le b c → le a c) (total : ∀ a b, (le a b || le b a) = true)
    (hkey : ∀ a b, le a b → le b a → key a = key b)
    {l₁ l₂ : List α} (hp : l₁.Perm l₂) (hnd : (l₁.map key).Nodup) :
    l₁.mergeSort le = l₂.mergeSort le := by
  have h₁ : (l₁.mergeSort le).Pairwise (fun a b => le a b = true) := List.pairwise_mergeSort trans total _
  have h₂ : (l₂.mergeSort le).Pairwise (fun a b => le a b = true) := List.pairwise_mergeSort trans total _
  refine List.Perm.eq_of_pairwise ?_ h₁ h₂
    ((List.mergeSort_perm _ _).trans (hp.trans (List.mergeSort_perm _ _).symm))
  intro a b ha hb hab hba
  exact List.inj_on_of_nodup_map hnd (List.mem_mergeSort.1 ha) (hp.mem_iff.2 (List.mem_mergeSort.1 hb))
    (hkey a b hab hba)

theorem TaskId.eq_of_value {a b : TaskId} (h : a.uuid.value = b.uuid.value) : a = b := by
  obtain ⟨⟨x⟩⟩ := a
  obtain ⟨⟨y⟩⟩ := b
  simp only at h
  rw [h]

/-! ## The orders of the listings

Transfers are listed newest first and ready tasks oldest first, ties broken by id in both: each is a total
preorder that ranks two records alike only if they share a creation time and an id. -/

section Orders

variable {x y z : Int} {i j k : Nat}

theorem newestFirst_trans (h₁ : (decide (x > y) || (x == y && decide (i ≤ j))) = true)
    (h₂ : (decide (y > z) || (y == z && decide (j ≤ k))) = true) :
    (decide (x > z) || (x == z && decide (i ≤ k))) = true := by
  simp only [Bool.or_eq_true, Bool.and_eq_true, decide_eq_true_eq, beq_iff_eq] at *
  omega

theorem newestFirst_total :
    ((decide (x > y) || (x == y && decide (i ≤ j))) || (decide (y > x) || (y == x && decide (j ≤ i)))) = true := by
  simp only [Bool.or_eq_true, Bool.and_eq_true, decide_eq_true_eq, beq_iff_eq]
  omega

theorem newestFirst_antisymm (h₁ : (decide (x > y) || (x == y && decide (i ≤ j))) = true)
    (h₂ : (decide (y > x) || (y == x && decide (j ≤ i))) = true) : i = j := by
  simp only [Bool.or_eq_true, Bool.and_eq_true, decide_eq_true_eq, beq_iff_eq] at *
  omega

theorem oldestFirst_trans (h₁ : (decide (x < y) || (x == y && decide (i ≤ j))) = true)
    (h₂ : (decide (y < z) || (y == z && decide (j ≤ k))) = true) :
    (decide (x < z) || (x == z && decide (i ≤ k))) = true := by
  simp only [Bool.or_eq_true, Bool.and_eq_true, decide_eq_true_eq, beq_iff_eq] at *
  omega

theorem oldestFirst_total :
    ((decide (x < y) || (x == y && decide (i ≤ j))) || (decide (y < x) || (y == x && decide (j ≤ i)))) = true := by
  simp only [Bool.or_eq_true, Bool.and_eq_true, decide_eq_true_eq, beq_iff_eq]
  omega

theorem oldestFirst_antisymm (h₁ : (decide (x < y) || (x == y && decide (i ≤ j))) = true)
    (h₂ : (decide (y < x) || (y == x && decide (j ≤ i))) = true) : i = j := by
  simp only [Bool.or_eq_true, Bool.and_eq_true, decide_eq_true_eq, beq_iff_eq] at *
  omega

end Orders

namespace Store

/-- The store \x60r\x60 answers every task query as \x60s\x60 does: the record under each id, a tenant's
transfers, the parents of a transfer and the children of a parent in their order, which ids each kind
holds, the counts by status and the ready tasks. -/
structure SameAnswers (s r : Store) : Prop where
  getTop : ∀ id, (exec (top id) r).1 = (exec (top id) s).1
  getParent : ∀ id, (exec (parent id) r).1 = (exec (parent id) s).1
  getChild : ∀ id, (exec (child id) r).1 = (exec (child id) s).1
  listTops : ∀ tenant user limit, (exec (listTops tenant user limit) r).1 = (exec (listTops tenant user limit) s).1
  parentsOf : ∀ id, (exec (parentsOf id) r).1 = (exec (parentsOf id) s).1
  childrenOf : ∀ id, (exec (childrenOf id) r).1 = (exec (childrenOf id) s).1
  contains : ∀ kind id, (exec (contains kind id) r).1 = (exec (contains kind id) s).1
  statusCounts : ∀ kind, (exec (statusCounts kind) r).1 = (exec (statusCounts kind) s).1
  readyIds : ∀ kind limit, (exec (readyIds kind limit) r).1 = (exec (readyIds kind limit) s).1

namespace SameRecords

variable {s r : Store} (h : SameRecords s r) (hl : Linked s)
include h hl

theorem tops_perm : r.tops.Perm s.tops :=
  (List.perm_ext_iff_of_nodup (nodup_keys (h.ids.nodup_iff.2 hl.ids_nodup)).1.of_map
    (nodup_keys hl.ids_nodup).1.of_map).2 h.tops

theorem parents_perm : r.parents.Perm s.parents :=
  (List.perm_ext_iff_of_nodup (nodup_keys (h.ids.nodup_iff.2 hl.ids_nodup)).2.1.of_map
    (nodup_keys hl.ids_nodup).2.1.of_map).2 h.parents

theorem children_perm : r.children.Perm s.children :=
  (List.perm_ext_iff_of_nodup (nodup_keys (h.ids.nodup_iff.2 hl.ids_nodup)).2.2.of_map
    (nodup_keys hl.ids_nodup).2.2.of_map).2 h.children

theorem rows_perm (kind : Kind) : (r.rows kind).Perm (s.rows kind) := by
  cases kind with
  | parent => exact (h.parents_perm hl).map _
  | child => exact (h.children_perm hl).map _

theorem top_answer (id : TaskId) : (exec (top id) r).1 = (exec (top id) s).1 := by
  cases hs : Table.find? s.tops id with
  | none => rw [exec_top_of_none hs, exec_top_of_none ((h.find?_tops hl id).trans hs)]
  | some t => rw [exec_top_of_find hs, exec_top_of_find ((h.find?_tops hl id).trans hs)]

theorem parent_answer (id : TaskId) : (exec (parent id) r).1 = (exec (parent id) s).1 := by
  cases hs : Table.find? s.parents id with
  | none => rw [exec_parent_of_none hs, exec_parent_of_none ((h.find?_parents hl id).trans hs)]
  | some p => rw [exec_parent_of_find hs, exec_parent_of_find ((h.find?_parents hl id).trans hs)]

theorem child_answer (id : TaskId) : (exec (child id) r).1 = (exec (child id) s).1 := by
  cases hs : Table.find? s.children id with
  | none => rw [exec_child_of_none hs, exec_child_of_none ((h.find?_children hl id).trans hs)]
  | some c => rw [exec_child_of_find hs, exec_child_of_find ((h.find?_children hl id).trans hs)]

/-- A transfer's parents are read by id in its own order. -/
theorem parentsOf_answer (id : TaskId) : (exec (parentsOf id) r).1 = (exec (parentsOf id) s).1 := by
  have hfind : Table.find? r.parents = Table.find? s.parents := funext (h.find?_parents hl)
  cases hs : Table.find? s.tops id with
  | none =>
    simp only [parentsOf, exec_bind_of_error _ (exec_top_of_none hs),
      exec_bind_of_error _ (exec_top_of_none ((h.find?_tops hl id).trans hs))]
  | some t =>
    simp only [parentsOf, exec_bind_of_ok _ (exec_top_of_find hs),
      exec_bind_of_ok _ (exec_top_of_find ((h.find?_tops hl id).trans hs)), exec_bind, exec_get, exec_pure, hfind]

/-- A parent's children are read by id in the listed order, which the two stores share. -/
theorem childrenOf_answer (id : TaskId) : (exec (childrenOf id) r).1 = (exec (childrenOf id) s).1 := by
  have hfind : Table.find? r.children = Table.find? s.children := funext (h.find?_children hl)
  cases hs : Table.find? s.parents id with
  | none =>
    simp only [childrenOf, exec_bind_of_error _ (exec_parent_of_none hs),
      exec_bind_of_error _ (exec_parent_of_none ((h.find?_parents hl id).trans hs))]
  | some p =>
    simp only [childrenOf, exec_bind_of_ok _ (exec_parent_of_find hs),
      exec_bind_of_ok _ (exec_parent_of_find ((h.find?_parents hl id).trans hs)), exec_bind, exec_get,
      exec_pure, hfind, h.childIds]

theorem contains_answer (kind : Kind) (id : TaskId) :
    (exec (contains kind id) r).1 = (exec (contains kind id) s).1 := by
  show Except.ok ((r.rows kind).any (·.id == id)) = Except.ok ((s.rows kind).any (·.id == id))
  rw [(h.rows_perm hl kind).any_eq]

theorem statusCounts_answer (kind : Kind) :
    (exec (statusCounts kind) r).1 = (exec (statusCounts kind) s).1 := by
  show Except.ok ((Status.all.map fun st => (st, ((r.rows kind).filter (·.status == st)).length)).filter (·.2 > 0)) =
    Except.ok ((Status.all.map fun st => (st, ((s.rows kind).filter (·.status == st)).length)).filter (·.2 > 0))
  simp only [← List.countP_eq_length_filter, (h.rows_perm hl kind).countP_eq]

/-- A tenant's transfers are sorted newest first, ties by id: a total order on transfers with distinct ids. -/
theorem listTops_answer (tenant : String) (user : Option String) (limit : Nat) :
    (exec (listTops tenant user limit) r).1 = (exec (listTops tenant user limit) s).1 := by
  have hsort := mergeSort_eq_of_perm
    (fun a b => a.created > b.created || (a.created == b.created && a.id.uuid.value ≤ b.id.uuid.value)) Top.id
    (fun _ _ _ => newestFirst_trans) (fun _ _ => newestFirst_total)
    (fun _ _ hab hba => TaskId.eq_of_value (newestFirst_antisymm hab hba))
    ((h.tops_perm hl).filter fun t => t.tenant == tenant && (user.all (· == t.user)))
    ((nodup_keys (h.ids.nodup_iff.2 hl.ids_nodup)).1.sublist (List.filter_sublist.map _))
  show Except.ok (List.take limit _) = Except.ok (List.take limit _)
  rw [hsort]

/-- Ready tasks are sorted oldest first, ties by id, and then cut per tenant. -/
theorem readyIds_answer (kind : Kind) (limit : Nat) :
    (exec (readyIds kind limit) r).1 = (exec (readyIds kind limit) s).1 := by
  have hsort := mergeSort_eq_of_perm
    (fun a b => a.created < b.created || (a.created == b.created && a.id.uuid.value ≤ b.id.uuid.value)) Row.id
    (fun _ _ _ => oldestFirst_trans) (fun _ _ => oldestFirst_total)
    (fun _ _ hab hba => TaskId.eq_of_value (oldestFirst_antisymm hab hba))
    ((h.rows_perm hl kind).filter fun r => r.worker.isNone && kind.isReady r.status)
    ((((h.rows_perm hl kind).map (·.id)).nodup_iff.2 (hl.rows_ids_nodup kind)).sublist
      (List.filter_sublist.map _))
  show Except.ok ((perTenant limit (byAge _)).map _) = Except.ok ((perTenant limit (byAge _)).map _)
  rw [byAge, byAge, hsort]

/-- Stores with the same records answer every task query alike. -/
theorem sameAnswers : SameAnswers s r :=
  ⟨h.top_answer hl, h.parent_answer hl, h.child_answer hl, h.listTops_answer hl, h.parentsOf_answer hl,
    h.childrenOf_answer hl, h.contains_answer hl, h.statusCounts_answer hl, h.readyIds_answer hl⟩

/-- A cancel question reads the records by id and the marks: the second store answers as the first would
with the second one's marks. -/
theorem isCancelRequested_answer (id : TaskId) :
    (exec (isCancelRequested id) r).1 = (exec (isCancelRequested id) { s with marks := r.marks }).1 := by
  simp only [isCancelRequested, topCancelled, exec_bind, exec_get, h.find?_tops hl, h.find?_parents hl,
    h.find?_children hl]
  split <;> rfl

end SameRecords

end Store

/-- A snapshot of a reachable store, restored, answers every task query as the store does and holds the same
records, the same lists of children and the same count of invented ids. It has no workers and no cancel marks:
a cancel question is answered as the store would without its marks, from the cancel of the transfer alone. -/
theorem Reachable.restore_answers_alike {s : Store} (h : Reachable s) (now : Stamp) :
    Store.SameAnswers s (Store.ofSnapshot (s.capture now) s.serial) ∧
      (∀ id, (Store.exec (Store.isCancelRequested id) (Store.ofSnapshot (s.capture now) s.serial)).1 =
        (Store.exec (Store.isCancelRequested id) { s with marks := [] }).1) ∧
      Store.SameRecords s (Store.ofSnapshot (s.capture now) s.serial) ∧
      (Store.ofSnapshot (s.capture now) s.serial).workers = [] ∧
      (Store.ofSnapshot (s.capture now) s.serial).marks = [] := by
  have hl := h.linked
  have hsame := hl.sameRecords_restore now
  exact ⟨hsame.sameAnswers hl, hsame.isCancelRequested_answer hl, hsame, rfl, rfl⟩

/-- A transfer of two parents, submitted as a request makes one, whose first parent was then cancelled on its
own: the cancel is a mark of that parent. -/
def twoParentsOneCancelled : Store :=
  let t₀ : Top := Top.fresh ⟨⟨1⟩⟩ "ta" "alice" none 0
  (Store.exec (Call.requestCancel ⟨⟨2⟩⟩ 3).run (Store.exec (Call.createTransfer t₀
    [Parent.fresh ⟨⟨2⟩⟩ t₀ "mem://src/a" "mem://dst/a" false 1,
      Parent.fresh ⟨⟨3⟩⟩ t₀ "mem://src/b" "mem://dst/b" false 2]).run {}).2).2

theorem reachable_twoParentsOneCancelled : Reachable twoParentsOneCancelled := by
  refine .call _ (.call _ .empty ?_) trivial
  exact Store.admits_empty ⟨_, _, _, _, rfl⟩
    (fun p hp => by
      simp only [List.mem_cons, List.not_mem_nil, or_false] at hp
      rcases hp with rfl | rfl <;> exact ⟨_, _, _, _, rfl⟩)
    (by decide) (by decide)

/-- The restored copy of that store answers every task query as the store does. -/
theorem restored_transfer_answers_alike :
    Reachable twoParentsOneCancelled ∧
      Store.SameAnswers twoParentsOneCancelled
        (Store.ofSnapshot (twoParentsOneCancelled.capture 4) twoParentsOneCancelled.serial) :=
  ⟨reachable_twoParentsOneCancelled, (Reachable.restore_answers_alike reachable_twoParentsOneCancelled 4).1⟩

/-- A cancel of a parent alone does not survive a snapshot: the store says the parent has a cancel, the
restored store says it has none. -/
theorem restore_forgets_parent_cancel :
    Reachable twoParentsOneCancelled ∧
      (Store.exec (Store.isCancelRequested ⟨⟨2⟩⟩) twoParentsOneCancelled).1 = .ok true ∧
      (Store.exec (Store.isCancelRequested ⟨⟨2⟩⟩)
        (Store.ofSnapshot (twoParentsOneCancelled.capture 4) twoParentsOneCancelled.serial)).1 = .ok false :=
  ⟨reachable_twoParentsOneCancelled, by decide +kernel, by decide +kernel⟩

end Conveyor
