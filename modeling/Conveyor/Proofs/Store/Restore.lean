import Mathlib.Data.List.Nodup
import Conveyor.Proofs.Store.Links

/-!
# Restoring a snapshot

A snapshot lists the transfers, then the parents each of them names, then the children each of those
parents lists; restoring it writes them into empty tables and groups the children by parent again.
In a linked store every record is reached that way, so the restored store holds the same records:

* `Store.SameRecords s r`: the same transfers, parents and children, the same children listed under each
  parent, and the same count of invented ids.
* `Store.Linked.sameRecords_restore`: a snapshot of a linked store restores to a store with its records.
* `Store.SameRecords.linked`: the links hold in a store with the same records, and records are found
  under the same ids (`Store.SameRecords.find?_parents` and the others).
-/

namespace Conveyor

namespace Store

/-- The children a table of lists lists under a parent. -/
def lookupChildren (lists : List (TaskId × List TaskId)) (pid : TaskId) : List TaskId :=
  ((lists.find? (·.1 = pid)).map (·.2)).getD []

theorem childIds_eq_lookup (s : Store) (pid : TaskId) : s.childIds pid = lookupChildren s.childLists pid := rfl

/-- A fold that adds each child to the list of its parent lists them in order. -/
private theorem lookup_foldl {F : List (TaskId × List TaskId) → Child → List (TaskId × List TaskId)}
    (hF : ∀ acc c pid, lookupChildren (F acc c) pid = lookupChildren acc pid ++ if c.parent = pid then [c.id] else [])
    (cs : List Child) (acc : List (TaskId × List TaskId)) (pid : TaskId) :
    lookupChildren (cs.foldl F acc) pid = lookupChildren acc pid ++ (cs.filter (·.parent = pid)).map (·.id) := by
  induction cs generalizing acc with
  | nil => simp
  | cons c cs ih =>
    rw [List.foldl_cons, ih, hF]
    by_cases hc : c.parent = pid <;> simp [hc]

/-- A restored store lists under each parent its children in the order of the snapshot. -/
theorem childIds_ofSnapshot (snap : Snapshot) (serial : Nat) (pid : TaskId) :
    (ofSnapshot snap serial).childIds pid = (snap.children.filter (·.parent = pid)).map (·.id) := by
  rw [childIds_eq_lookup]
  simp only [ofSnapshot, groupChildren]
  rw [lookup_foldl ?_ snap.children [] pid]
  · simp [lookupChildren]
  · intro acc c pid
    simp only [lookupChildren]
    split
    · rename_i h
      have hc : ((fun kv : TaskId × List TaskId => decide (kv.1 = pid)) ∘
          fun kv => if (kv.1 == c.parent) = true then (kv.1, kv.2 ++ [c.id]) else kv) =
            fun kv => decide (kv.1 = pid) := by
        funext kv
        by_cases hk : kv.1 = c.parent <;> simp [hk]
      rw [List.find?_map, hc]
      cases hf : acc.find? (fun kv => decide (kv.1 = pid)) with
      | none =>
        have hne : c.parent ≠ pid := by
          rintro rfl
          obtain ⟨kv, hkv, hk⟩ := List.any_eq_true.1 h
          have := List.find?_eq_none.1 hf kv hkv
          simp_all
        simp [hne]
      | some kv =>
        have hk : kv.1 = pid := by simpa using List.find?_some hf
        by_cases hp : c.parent = pid
        · simp [hk, hp]
        · simp [hk, hp, Ne.symm hp]
    · rename_i h
      rw [List.find?_append]
      by_cases hp : c.parent = pid
      · subst hp
        have hf : acc.find? (fun kv => decide (kv.1 = c.parent)) = none := by
          rw [List.find?_eq_none]
          intro kv hkv hk
          exact h (List.any_eq_true.2 ⟨kv, hkv, by simpa using hk⟩)
        simp [hf]
      · have hn : [(c.parent, [c.id])].find? (fun kv => decide (kv.1 = pid)) = none := by simp [hp]
        rw [hn, Option.or_none]
        simp [hp]

/-! ## The records of a snapshot -/

theorem nodup_keys {s : Store} (h : s.taskIds.Nodup) :
    (s.tops.map (·.id)).Nodup ∧ (s.parents.map (·.id)).Nodup ∧ (s.children.map (·.id)).Nodup := by
  simp only [taskIds, List.nodup_append] at h
  exact ⟨h.1.1, h.1.2.1, h.2.1⟩

theorem mem_capture_tops {s : Store} {now : Stamp} {t : Top} : t ∈ (s.capture now).tops ↔ t ∈ s.tops := by
  simp [capture, List.mem_mergeSort]

/-- Filtering the children of a list of parents by parent picks the children of the one parent with the
id, if there is one. -/
private theorem flatMap_filter_parent {ps : List Parent} (hps : (ps.map (·.id)).Nodup) {g : Parent → List Child}
    (hg : ∀ p ∈ ps, ∀ c ∈ g p, c.parent = p.id) (pid : TaskId) :
    (ps.flatMap g).filter (·.parent = pid) = ((Table.find? ps pid).map g).getD [] := by
  induction ps with
  | nil => rfl
  | cons p ps ih =>
    rw [List.map_cons, List.nodup_cons] at hps
    have hrest := ih hps.2 fun q hq => hg q (List.mem_cons_of_mem _ hq)
    rw [List.flatMap_cons, List.filter_append, hrest, Table.find?_cons]
    by_cases hp : p.id = pid
    · have hnone : Table.find? ps pid = none := Table.find?_eq_none_of_not_mem (hp ▸ hps.1)
      have hall : (g p).filter (·.parent = pid) = g p :=
        List.filter_eq_self.2 fun c hc => by simp [hg p List.mem_cons_self c hc, hp]
      simp only [Keyed.key, hp, if_true, hnone, hall]
      simp
    · have hnone : (g p).filter (·.parent = pid) = [] :=
        List.filter_eq_nil_iff.2 fun c hc => by simp [hg p List.mem_cons_self c hc, hp]
      simp only [Keyed.key, hp, if_false, hnone, List.nil_append]

section Capture

variable {s : Store} (hl : Linked s) (now : Stamp)
include hl

theorem Linked.find?_top {t : Top} (ht : t ∈ s.tops) : Table.find? s.tops t.id = some t :=
  Table.find?_of_mem (nodup_keys hl.ids_nodup).1 ht

theorem Linked.find?_parent {p : Parent} (hp : p ∈ s.parents) : Table.find? s.parents p.id = some p :=
  Table.find?_of_mem (nodup_keys hl.ids_nodup).2.1 hp

/-- A transfer's parents are all found, in its order. -/
theorem Linked.parentRecords_ids {id : TaskId} {t : Top} (ht : Table.find? s.tops id = some t) :
    (s.parentRecords t).map (·.id) = t.parents := by
  rw [parentRecords, List.map_filterMap]
  conv_rhs => rw [← List.filterMap_some (l := t.parents)]
  refine List.filterMap_congr fun pid hpid => ?_
  obtain ⟨p, hp, -⟩ := (hl.top_parents ht).2 pid hpid
  rw [hp]
  exact congrArg some (Table.find?_eq_some hp).2

/-- A parent's children are all found, in the listed order. -/
theorem Linked.childRecords_ids (pid : TaskId) : (s.childRecords pid).map (·.id) = s.childIds pid := by
  rw [childRecords, List.map_filterMap]
  conv_rhs => rw [← List.filterMap_some (l := s.childIds pid)]
  refine List.filterMap_congr fun cid hcid => ?_
  obtain ⟨c, hc, -⟩ := (hl.listed pid).2 cid hcid
  rw [hc]
  exact congrArg some (Table.find?_eq_some hc).2

theorem mem_capture_parents {p : Parent} : p ∈ (s.capture now).parents ↔ p ∈ s.parents := by
  simp only [capture, List.mem_flatMap, List.mem_mergeSort, List.mem_filterMap]
  constructor
  · rintro ⟨t, -, pid, -, hp⟩
    exact (Table.find?_eq_some hp).1
  · intro hp
    obtain ⟨t, ht, hid⟩ := hl.parent_top (hl.find?_parent hp)
    exact ⟨t, (Table.find?_eq_some ht).1, p.id, hid, hl.find?_parent hp⟩

theorem mem_capture_children {c : Child} : c ∈ (s.capture now).children ↔ c ∈ s.children := by
  simp only [capture, List.mem_flatMap, List.mem_filterMap]
  constructor
  · rintro ⟨p, -, cid, -, hc⟩
    exact (Table.find?_eq_some hc).1
  · intro hc
    have hf := Table.find?_of_mem (nodup_keys hl.ids_nodup).2.2 hc
    obtain ⟨p, hp, -, -, hid⟩ := hl.child_parent hf
    refine ⟨p, ?_, c.id, ?_, hf⟩
    · have := (mem_capture_parents hl now).2 (Table.find?_eq_some hp).1
      simpa [capture] using this
    · have hpid : p.id = c.parent := (Table.find?_eq_some hp).2
      rw [hpid]
      exact hid

theorem nodup_capture_tops : ((s.capture now).tops.map (·.id)).Nodup :=
  (((List.mergeSort_perm _ _).map _).nodup_iff).2 (nodup_keys hl.ids_nodup).1

/-- The snapshot's parents, as ids, are the transfers' lists of parents in turn. -/
theorem capture_parent_ids : (s.capture now).parents.map (·.id) = (s.capture now).tops.flatMap (·.parents) := by
  simp only [capture, List.map_flatMap]
  exact List.flatMap_congr fun t ht => hl.parentRecords_ids (hl.find?_top (List.mem_mergeSort.1 ht))

theorem nodup_capture_parents : ((s.capture now).parents.map (·.id)).Nodup := by
  rw [capture_parent_ids hl now]
  refine List.nodup_flatMap.2 ⟨fun t ht => (hl.top_parents (hl.find?_top (mem_capture_tops.1 ht))).1, ?_⟩
  refine ((nodup_capture_tops hl now).of_map _).imp_of_mem fun {a b} ha hb hab pid hpa hpb => hab ?_
  obtain ⟨p, hp, hpt⟩ := (hl.top_parents (hl.find?_top (mem_capture_tops.1 ha))).2 pid hpa
  obtain ⟨q, hq, hqt⟩ := (hl.top_parents (hl.find?_top (mem_capture_tops.1 hb))).2 pid hpb
  rw [hp] at hq
  cases hq
  have hab' : a.id = b.id := hpt.symm.trans hqt
  have hfa := hl.find?_top (mem_capture_tops.1 ha)
  rw [hab', hl.find?_top (mem_capture_tops.1 hb)] at hfa
  exact (Option.some.inj hfa).symm

/-- The snapshot's children, as ids, are the parents' lists of children in turn. -/
theorem capture_child_ids :
    (s.capture now).children.map (·.id) = (s.capture now).parents.flatMap (fun p => s.childIds p.id) := by
  simp only [capture, List.map_flatMap]
  exact List.flatMap_congr fun p _ => hl.childRecords_ids p.id

theorem nodup_capture_children : ((s.capture now).children.map (·.id)).Nodup := by
  rw [capture_child_ids hl now]
  refine List.nodup_flatMap.2 ⟨fun p _ => (hl.listed p.id).1, ?_⟩
  refine ((nodup_capture_parents hl now).of_map _).imp_of_mem fun {a b} ha hb hab cid hca hcb => hab ?_
  obtain ⟨c, hc, hcp⟩ := (hl.listed a.id).2 cid hca
  obtain ⟨d, hd, hdp⟩ := (hl.listed b.id).2 cid hcb
  rw [hc] at hd
  cases hd
  have hab' : a.id = b.id := hcp.symm.trans hdp
  have hfa := hl.find?_parent ((mem_capture_parents hl now).1 ha)
  rw [hab', hl.find?_parent ((mem_capture_parents hl now).1 hb)] at hfa
  exact (Option.some.inj hfa).symm

/-- The snapshot lists each parent's children in the store's order. -/
theorem capture_childIds (pid : TaskId) :
    ((s.capture now).children.filter (·.parent = pid)).map (·.id) = s.childIds pid := by
  have hg : ∀ p ∈ (s.capture now).parents, ∀ c ∈ s.childRecords p.id, c.parent = p.id := by
    intro p _ c hc
    obtain ⟨cid, hcid, hfc⟩ := List.mem_filterMap.1 hc
    obtain ⟨c', hc', hpar⟩ := (hl.listed p.id).2 cid hcid
    rw [hc'] at hfc
    cases hfc
    exact hpar
  have hfind : Table.find? (s.capture now).parents pid = Table.find? s.parents pid :=
    Table.find?_congr (nodup_capture_parents hl now) (nodup_keys hl.ids_nodup).2.1
      (fun p => mem_capture_parents hl now) pid
  have hc : (s.capture now).children = (s.capture now).parents.flatMap fun p => s.childRecords p.id := rfl
  rw [hc, flatMap_filter_parent (nodup_capture_parents hl now) hg, hfind]
  cases h : Table.find? s.parents pid with
  | some p =>
    have hpid : p.id = pid := (Table.find?_eq_some h).2
    simp only [Option.map_some, Option.getD_some]
    rw [hl.childRecords_ids, hpid]
  | none =>
    refine (List.eq_nil_iff_forall_not_mem.2 fun cid hcid => ?_).symm
    obtain ⟨c, hc, hpar⟩ := (hl.listed pid).2 cid hcid
    obtain ⟨p, hp, -⟩ := hl.child_parent hc
    rw [hpar, h] at hp
    cases hp

end Capture


/-! ## Stores with the same records -/

/-- The store \x60r\x60 holds the records of \x60s\x60, perhaps in another order: the same transfers, parents and
children, the same children listed under each parent, and the same count of invented ids. -/
structure SameRecords (s r : Store) : Prop where
  ids : r.taskIds.Perm s.taskIds
  tops : ∀ t, t ∈ r.tops ↔ t ∈ s.tops
  parents : ∀ p, p ∈ r.parents ↔ p ∈ s.parents
  children : ∀ c, c ∈ r.children ↔ c ∈ s.children
  childIds : ∀ pid, r.childIds pid = s.childIds pid
  serial : r.serial = s.serial

/-- A snapshot of a linked store restores to a store with its records. -/
theorem Linked.sameRecords_restore {s : Store} (hl : Linked s) (now : Stamp) :
    SameRecords s (ofSnapshot (s.capture now) s.serial) := by
  have hnil : ∀ {α : Type} [Keyed α TaskId] (xs : List α), (xs.map Keyed.key).Nodup → xs.foldl Table.put [] = xs :=
    fun xs h => by rw [Table.foldl_put_of_nodup (by simpa using h), List.nil_append]
  have ht : (ofSnapshot (s.capture now) s.serial).tops = (s.capture now).tops := hnil _ (nodup_capture_tops hl now)
  have hp : (ofSnapshot (s.capture now) s.serial).parents = (s.capture now).parents :=
    hnil _ (nodup_capture_parents hl now)
  have hc : (ofSnapshot (s.capture now) s.serial).children = (s.capture now).children :=
    hnil _ (nodup_capture_children hl now)
  obtain ⟨nt, np, nc⟩ := nodup_keys hl.ids_nodup
  have hperm : ∀ {α : Type} (f : α → TaskId) (xs ys : List α), (xs.map f).Nodup → (ys.map f).Nodup →
      (∀ a, a ∈ xs ↔ a ∈ ys) → (xs.map f).Perm (ys.map f) := fun f xs ys hx hy h =>
    (List.perm_ext_iff_of_nodup hx hy).2 fun a => by simp only [List.mem_map, h]
  refine ⟨?_, fun t => ?_, fun p => ?_, fun c => ?_, fun pid => ?_, rfl⟩
  · simp only [taskIds, ht, hp, hc]
    exact (((List.mergeSort_perm _ _).map _).append
      (hperm _ _ _ (nodup_capture_parents hl now) np fun p => mem_capture_parents hl now)).append
      (hperm _ _ _ (nodup_capture_children hl now) nc fun c => mem_capture_children hl now)
  · rw [ht]
    exact mem_capture_tops
  · rw [hp]
    exact mem_capture_parents hl now
  · rw [hc]
    exact mem_capture_children hl now
  · rw [childIds_ofSnapshot]
    exact capture_childIds hl now pid

namespace SameRecords

variable {s r : Store} (h : SameRecords s r) (hl : Linked s)
include h hl

theorem find?_tops (id : TaskId) : Table.find? r.tops id = Table.find? s.tops id :=
  Table.find?_congr (nodup_keys (h.ids.nodup_iff.2 hl.ids_nodup)).1 (nodup_keys hl.ids_nodup).1 h.tops id

theorem find?_parents (id : TaskId) : Table.find? r.parents id = Table.find? s.parents id :=
  Table.find?_congr (nodup_keys (h.ids.nodup_iff.2 hl.ids_nodup)).2.1 (nodup_keys hl.ids_nodup).2.1 h.parents id

theorem find?_children (id : TaskId) : Table.find? r.children id = Table.find? s.children id :=
  Table.find?_congr (nodup_keys (h.ids.nodup_iff.2 hl.ids_nodup)).2.2 (nodup_keys hl.ids_nodup).2.2 h.children id

/-- The links hold in a store with the same records. -/
theorem linked : Linked r where
  ids_nodup := h.ids.nodup_iff.2 hl.ids_nodup
  top_parents := fun {id t} ht => by
    rw [h.find?_tops hl] at ht
    simp only [h.find?_parents hl]
    exact hl.top_parents ht
  parent_top := fun {id p} hp => by
    rw [h.find?_parents hl] at hp
    simp only [h.find?_tops hl]
    exact hl.parent_top hp
  child_parent := fun {id c} hc => by
    rw [h.find?_children hl] at hc
    simp only [h.find?_parents hl, h.childIds]
    exact hl.child_parent hc
  listed := fun pid => by
    simp only [h.childIds, h.find?_children hl]
    exact hl.listed pid
  spawned := fun id hid => by
    obtain ⟨c, hc, rfl⟩ := List.mem_map.1 hid
    rw [h.serial]
    exact hl.spawned _ (List.mem_map_of_mem ((h.children c).1 hc))
  named := fun id hid k hk => by
    rw [h.serial] at hk
    simp only [List.mem_append, List.mem_map] at hid
    rcases hid with ⟨t, ht, rfl⟩ | ⟨p, hp, rfl⟩
    · exact hl.named _ (List.mem_append_left _ (List.mem_map_of_mem ((h.tops t).1 ht))) k hk
    · exact hl.named _ (List.mem_append_right _ (List.mem_map_of_mem ((h.parents p).1 hp))) k hk
  child_status := fun {id c} hc => by
    rw [h.find?_children hl] at hc
    exact hl.child_status hc

end SameRecords

end Store

end Conveyor
