import Conveyor.Proofs.Store.Restore

/-!
# Every reachable store is linked

The links between tasks (`Store.Linked`) hold in the empty store and after every step a run can take:

* `Store.Linked.createTransfer`: a submission as a request makes one adds a transfer and its parents
  under new ids;
* `Store.Linked.commitStaging`: a commit adds children under ids the store invents, to a parent that
  had none;
* `Store.Linked.restore`: a snapshot restored holds the same records, found under the same ids;
* `Reachable.linked`: hence every reachable store is linked.
-/

namespace Conveyor

namespace Store

variable {s : Store}

/-! ## Submission -/

section Submission

variable {t : Top} {ps : List Parent}

namespace Admits

variable (ha : s.Admits t ps)
include ha

theorem parent_ids_nodup : (ps.map (·.id)).Nodup := (List.nodup_cons.1 ha.ids_distinct).2

/-- The new transfer's id is no transfer's. -/
theorem top_not_mem : t.id ∉ s.tops.map (·.id) := fun h =>
  (ha.ids_unused t.id List.mem_cons_self).1 (by simp [taskIds, h])

/-- A new parent's id is no parent's. -/
theorem parent_not_mem {id : TaskId} (h : id ∈ ps.map (·.id)) : id ∉ s.parents.map (·.id) := fun hm =>
  (ha.ids_unused id (List.mem_cons_of_mem _ h)).1 (by simp [taskIds, hm])

/-- A new parent belongs to the new transfer. -/
theorem parent_top {p : Parent} (hp : p ∈ ps) : p.top = t.id := by
  obtain ⟨_, _, _, _, hpf⟩ := ha.parents_new p hp
  rw [hpf]
  rfl

end Admits

/-- In a linked store, an admitted submission appends its parents and its transfer to their tables. -/
theorem Linked.admits_tables (hl : Linked s) (ha : s.Admits t ps) :
    ps.foldl Table.put s.parents = s.parents ++ ps ∧
      Table.put s.tops { t with parents := ps.map (·.id) } = s.tops ++ [{ t with parents := ps.map (·.id) }] := by
  have hsnd : (s.parents.map (·.id)).Nodup :=
    (List.nodup_append.1 (List.nodup_append.1 hl.ids_nodup).1).2.1
  exact ⟨Table.foldl_put_of_nodup (List.nodup_append.2 ⟨hsnd, ha.parent_ids_nodup,
    fun a ha' b hb hab => ha.parent_not_mem hb (hab ▸ ha')⟩), Table.put_of_not_mem ha.top_not_mem⟩

/-- A submission as a request makes one keeps the links. -/
theorem Linked.createTransfer (hl : Linked s) (ha : s.Admits t ps) :
    Linked { s with
      parents := ps.foldl Table.put s.parents
      tops := Table.put s.tops { t with parents := ps.map (·.id) } } := by
  obtain ⟨hps, hts⟩ := hl.admits_tables ha
  have hnd := ha.parent_ids_nodup
  rw [hts, hps]
  refine ⟨?_, fun {id t'} ht' => ?_, fun {id p} hp => ?_, fun {id c} hc => ?_, hl.listed, hl.spawned, ?_,
    hl.child_status⟩
  · have hperm : ((s.tops ++ [{ t with parents := ps.map (fun p : Parent => p.id) }]).map (fun t : Top => t.id) ++
        (s.parents ++ ps).map (fun p : Parent => p.id) ++ s.children.map (fun c : Child => c.id)).Perm
          ((t.id :: ps.map (fun p : Parent => p.id)) ++ s.taskIds) :=
      List.perm_iff_count.2 fun x => by simp [taskIds, List.count_append, List.count_cons]; omega
    exact hperm.nodup_iff.2 (List.nodup_append.2 ⟨ha.ids_distinct, hl.ids_nodup,
      fun a ha' b hb hab => (ha.ids_unused a ha').1 (hab ▸ hb)⟩)
  · rw [Table.find?_append, Option.or_eq_some_iff] at ht'
    rcases ht' with ht' | ⟨-, ht'⟩
    · obtain ⟨hnd', hlink⟩ := hl.top_parents ht'
      refine ⟨hnd', fun pid hpid => ?_⟩
      obtain ⟨p, hp, hpt⟩ := hlink pid hpid
      exact ⟨p, Table.find?_append_of_find? hp, hpt⟩
    · obtain ⟨hmem, hid⟩ := Table.find?_eq_some ht'
      rw [List.mem_singleton] at hmem
      subst hmem
      refine ⟨hnd, fun pid hmem' => ?_⟩
      obtain ⟨p, hp, rfl⟩ := List.mem_map.1 hmem'
      refine ⟨p, ?_, (ha.parent_top hp).trans hid⟩
      rw [Table.find?_append_of_not_mem (ha.parent_not_mem (List.mem_map_of_mem hp))]
      exact Table.find?_of_mem hnd hp
  · rw [Table.find?_append, Option.or_eq_some_iff] at hp
    rcases hp with hp | ⟨-, hp⟩
    · obtain ⟨t', ht', hid⟩ := hl.parent_top hp
      exact ⟨t', Table.find?_append_of_find? ht', hid⟩
    · obtain ⟨hmem, rfl⟩ := Table.find?_eq_some hp
      refine ⟨{ t with parents := ps.map (·.id) }, ?_, List.mem_map_of_mem hmem⟩
      rw [ha.parent_top hmem, Table.find?_append_of_not_mem ha.top_not_mem]
      simp [Table.find?_cons, Keyed.key]
  · obtain ⟨p, hp, hrest⟩ := hl.child_parent hc
    exact ⟨p, Table.find?_append_of_find? hp, hrest⟩
  · intro id hid k hk
    simp only [List.map_append, List.map_cons, List.map_nil, List.mem_append, List.mem_singleton] at hid
    rcases hid with (hid | hid) | hid | hid
    · exact hl.named id (List.mem_append_left _ hid) k hk
    · exact (ha.ids_unused id (hid ▸ List.mem_cons_self)).2 k hk
    · exact hl.named id (List.mem_append_right _ hid) k hk
    · exact (ha.ids_unused id (List.mem_cons_of_mem _ hid)).2 k hk

/-- The empty store admits a new transfer whose ids are distinct and below `2 ^ 120`: the store invents
no id that small. -/
theorem admits_empty (ht : ∃ tenant user tag created, t = Top.fresh t.id tenant user tag created)
    (hps : ∀ p ∈ ps, ∃ source destination optional created, p = Parent.fresh p.id t source destination optional created)
    (hd : (t.id :: ps.map (·.id)).Nodup) (hsmall : ∀ id ∈ t.id :: ps.map (·.id), id.uuid.value < Nat.pow 2 120) :
    ({} : Store).Admits t ps := by
  refine ⟨ht, hps, hd, fun id hid => ⟨by simp [taskIds], fun k _ he => ?_⟩⟩
  have hv := congrArg (fun x : TaskId => x.uuid.value) he
  have hs := hsmall id hid
  simp only [Uuid.spawned] at hv
  omega

end Submission

/-! ## Invented ids and new children -/

theorem spawned_injective {a b : Nat} (h : (⟨Uuid.spawned a⟩ : TaskId) = ⟨Uuid.spawned b⟩) : a = b := by
  have hv := congrArg (fun x : TaskId => x.uuid.value) h
  simp only [Uuid.spawned] at hv
  omega

/-- The ids of \x60n\x60 invented ids from \x60k\x60 on are distinct. -/
theorem nodup_spawned (k n : Nat) :
    ((List.range n).map fun i => (⟨Uuid.spawned (k + i)⟩ : TaskId)).Nodup :=
  List.Pairwise.map _ (fun _ _ hne h => hne (by have := spawned_injective h; omega)) List.nodup_range

/-- In a linked store no record holds an id the store has yet to invent. -/
theorem Linked.spawned_not_mem (hl : Linked s) {k : Nat} (hk : s.serial ≤ k) :
    (⟨Uuid.spawned k⟩ : TaskId) ∉ s.taskIds := by
  intro hmem
  simp only [taskIds, List.mem_append] at hmem
  rcases hmem with hmem | hmem
  · exact hl.named _ (List.mem_append.2 hmem) k hk rfl
  · -- a child's id was invented before
    obtain ⟨k', hk', he⟩ := hl.spawned _ hmem
    have := spawned_injective he
    omega

theorem Linked.spawned_not_child (hl : Linked s) {k : Nat} (hk : s.serial ≤ k) :
    (⟨Uuid.spawned k⟩ : TaskId) ∉ s.children.map (·.id) :=
  fun h => hl.spawned_not_mem hk (List.mem_append_right _ h)

theorem childIds_setChildList (s : Store) (id : TaskId) (ids : List TaskId) (pid : TaskId) :
    ({ s with childLists := setChildList s.childLists id ids } : Store).childIds pid =
      if pid = id then ids else s.childIds pid := by
  simp only [childIds, setChildList]
  split
  · rename_i h
    have hc : ((fun kv : TaskId × List TaskId => decide (kv.1 = pid)) ∘
        fun kv => if (kv.1 == id) = true then (kv.1, ids) else kv) = fun kv => decide (kv.1 = pid) := by
      funext kv
      by_cases hk : kv.1 = id <;> simp [hk]
    rw [List.find?_map, hc]
    cases hf : s.childLists.find? (fun kv => decide (kv.1 = pid)) with
    | none =>
      have hne : pid ≠ id := by
        rintro rfl
        obtain ⟨kv, hkv, hk⟩ := List.any_eq_true.1 h
        have := List.find?_eq_none.1 hf kv hkv
        simp_all
      simp [hne]
    | some kv =>
      have hk : kv.1 = pid := by simpa using List.find?_some hf
      by_cases hp : pid = id <;> simp [hk, hp]
  · rename_i h
    rw [List.find?_append]
    by_cases hp : pid = id
    · subst hp
      have hf : s.childLists.find? (fun kv => decide (kv.1 = pid)) = none := by
        rw [List.find?_eq_none]
        intro kv hkv hk
        exact h (List.any_eq_true.2 ⟨kv, hkv, by simpa using hk⟩)
      simp [hf]
    · have hn : [(id, ids)].find? (fun kv => decide (kv.1 = pid)) = none := by simp [Ne.symm hp]
      rw [hn, Option.or_none]
      simp [hp]

/-- A store whose lists of children are those of `s` with `ids` set for `id` lists `ids` for `id`, and for every
other parent what `s` lists. -/
theorem childIds_of_childLists {s' : Store} {id : TaskId} {ids : List TaskId}
    (h : s'.childLists = setChildList s.childLists id ids) (pid : TaskId) :
    s'.childIds pid = if pid = id then ids else s.childIds pid := by
  have e := childIds_setChildList s id ids pid
  unfold childIds at e ⊢
  rw [h]
  exact e

theorem newChildren_ids (p : Parent) (specs : List ChildSpec) (now : Stamp) :
    (s.newChildren p specs now).map (·.id) = (List.range specs.length).map fun k => ⟨Uuid.spawned (s.serial + k)⟩ := by
  apply List.ext_getElem <;> simp [newChildren, Child.fresh]

/-- A new child is an accepted child of its parent, held by no worker. -/
theorem mem_newChildren {p : Parent} {specs : List ChildSpec} {now : Stamp} {c : Child}
    (h : c ∈ s.newChildren p specs now) :
    c.parent = p.id ∧ c.top = p.top ∧ c.status = .accepted ∧ c.worker = none := by
  obtain ⟨i, hi, rfl⟩ := List.mem_mapIdx.1 h
  exact ⟨rfl, rfl, rfl, rfl⟩

/-! ## Commit of staging -/

/-- Inventing ids keeps the links. -/
theorem Linked.bumpSerial (hl : Linked s) (n : Nat) : Linked { s with serial := s.serial + n } where
  ids_nodup := hl.ids_nodup
  top_parents := hl.top_parents
  parent_top := hl.parent_top
  child_parent := hl.child_parent
  listed := hl.listed
  spawned := fun id h => by
    obtain ⟨k, hk, rfl⟩ := hl.spawned id h
    exact ⟨k, by simp only; omega, rfl⟩
  named := fun id h k hk => hl.named id h k (by simp only at hk; omega)
  child_status := hl.child_status

/-- Children under the next invented ids, given to a staged parent that had none, keep the links. -/
theorem Linked.addChildren (hl : Linked s) {pid : TaskId} {q : Parent} (hq : Table.find? s.parents pid = some q)
    (hst : q.status.pastStaging = true) (hnone : ∀ c ∈ s.children, c.parent ≠ pid) {cs : List Child} {n : Nat}
    (hcs : ∀ c ∈ cs, c.parent = pid ∧ c.top = q.top ∧ c.status = .accepted)
    (hids : cs.map (·.id) = (List.range n).map fun k => ⟨Uuid.spawned (s.serial + k)⟩) :
    Linked { s with
      serial := s.serial + n
      childLists := setChildList s.childLists pid (cs.map (·.id))
      children := cs.foldl Table.put s.children } := by
  have hnd : (cs.map (·.id)).Nodup := hids ▸ nodup_spawned s.serial n
  have hfresh : ∀ id ∈ cs.map (·.id), id ∉ s.taskIds := by
    intro id hid
    rw [hids] at hid
    obtain ⟨k, -, rfl⟩ := List.mem_map.1 hid
    exact hl.spawned_not_mem (Nat.le_add_right _ k)
  have hcnd : (s.children.map (·.id)).Nodup := (List.nodup_append.1 hl.ids_nodup).2.1
  have hnew : ∀ id ∈ cs.map (·.id), id ∉ s.children.map (·.id) := fun id h hm =>
    hfresh id h (List.mem_append_right _ hm)
  rw [Table.foldl_put_of_nodup (List.nodup_append.2 ⟨hcnd, hnd, fun a ha b hb hab => hnew b hb (hab ▸ ha)⟩)]
  have hids' : ∀ p', ({ s with
      serial := s.serial + n
      childLists := setChildList s.childLists pid (cs.map (·.id))
      children := s.children ++ cs } : Store).childIds p' = if p' = pid then cs.map (·.id) else s.childIds p' :=
    childIds_setChildList s pid _
  refine ⟨?_, hl.top_parents, hl.parent_top, fun {id c} hc => ?_, fun p' => ?_, ?_, ?_, fun {id c} hc => ?_⟩
  · have he : (s.tops.map (·.id) ++ s.parents.map (·.id) ++ (s.children ++ cs).map (·.id)) =
        s.taskIds ++ cs.map (·.id) := by simp [taskIds]
    show (s.tops.map (·.id) ++ s.parents.map (·.id) ++ (s.children ++ cs).map (·.id)).Nodup
    rw [he]
    exact List.nodup_append.2 ⟨hl.ids_nodup, hnd, fun a ha b hb hab => hfresh b hb (hab ▸ ha)⟩
  · rw [Table.find?_append, Option.or_eq_some_iff] at hc
    rw [hids']
    rcases hc with hc | ⟨-, hc⟩
    · obtain ⟨p, hp, hps, htop, hid⟩ := hl.child_parent hc
      have hne : c.parent ≠ pid := hnone c (Table.find?_eq_some hc).1
      exact ⟨p, hp, hps, htop, by simpa [hne] using hid⟩
    · obtain ⟨hmem, rfl⟩ := Table.find?_eq_some hc
      obtain ⟨hpar, htop, -⟩ := hcs c hmem
      rw [hpar]
      have hm : c.id ∈ cs.map (·.id) := List.mem_map_of_mem hmem
      exact ⟨q, hq, hst, htop, by rw [if_pos rfl]; exact hm⟩
  · rw [hids']
    by_cases hp : p' = pid
    · subst hp
      refine ⟨by simpa using hnd, fun cid hcid => ?_⟩
      obtain ⟨c, hc, rfl⟩ := List.mem_map.1 (by simpa using hcid)
      refine ⟨c, ?_, (hcs c hc).1⟩
      rw [Table.find?_append_of_not_mem (hnew _ (List.mem_map_of_mem hc))]
      exact Table.find?_of_mem hnd hc
    · simp only [hp, if_false]
      obtain ⟨hnd', hcs'⟩ := hl.listed p'
      refine ⟨hnd', fun cid hcid => ?_⟩
      obtain ⟨c, hc, hpar⟩ := hcs' cid hcid
      exact ⟨c, Table.find?_append_of_find? hc, hpar⟩
  · intro id hid
    simp only [List.map_append, List.mem_append] at hid
    rcases hid with hid | hid
    · obtain ⟨k, hk, rfl⟩ := hl.spawned id hid
      exact ⟨k, by simp only; omega, rfl⟩
    · rw [hids] at hid
      obtain ⟨k, hk, rfl⟩ := List.mem_map.1 hid
      exact ⟨s.serial + k, by simp only at hk ⊢; have := List.mem_range.1 hk; omega, rfl⟩
  · exact fun id h k hk => hl.named id h k (by simp only at hk; omega)
  · rw [Table.find?_append, Option.or_eq_some_iff] at hc
    rcases hc with hc | ⟨-, hc⟩
    · exact hl.child_status hc
    · rw [(hcs c (Table.find?_eq_some hc).1).2.2]
      rfl

/-- In a linked store a child is found under its id. -/
theorem Linked.find?_child (hl : Linked s) {c : Child} (hc : c ∈ s.children) : Table.find? s.children c.id = some c :=
  Table.find?_of_mem (List.nodup_append.1 hl.ids_nodup).2.1 hc

/-- A parent still staging has no children. -/
theorem Linked.not_parent_of_staging (hl : Linked s) {id : TaskId} {p : Parent} (hp : Table.find? s.parents id = some p)
    (hs : p.status.pastStaging = false) : ∀ c ∈ s.children, c.parent ≠ id := by
  intro c hc hpar
  obtain ⟨q, hq, hqs, -⟩ := hl.child_parent (hl.find?_child hc)
  rw [hpar, hp] at hq
  cases hq
  rw [hs] at hqs
  cases hqs

/-- A commit of staging keeps the links. -/
theorem Linked.commitStaging (hl : Linked s) {id : TaskId} {p p' : Parent} {now : Stamp}
    (hp : Table.find? s.parents id = some p) (hm : p.moveTo .staged now = .ok p') (total : Nat)
    (specs : List ChildSpec) :
    Linked { s with
      serial := s.serial + specs.length
      parents := Table.put s.parents { p' with totalBytes := some total, childCount := specs.length, bytes := 0 }
      childLists := setChildList s.childLists id ((s.newChildren p specs now).map (·.id))
      children := (s.newChildren p specs now).foldl Table.put s.children } := by
  obtain ⟨hid, htop, hst⟩ := Parent.moveTo_links hm
  have hpid : p.id = id := (Table.find?_eq_some hp).2
  have hstaging : p.status = .staging := by
    have hc := (Parent.moveTo_ok hm).1
    revert hc
    cases p.status <;> simp [Kind.canMove, Kind.moves]
  have hs : p.status.pastStaging = false := by rw [hstaging]; rfl
  have hrev : Revised s { s with
      parents := Table.put s.parents { p' with totalBytes := some total, childCount := specs.length, bytes := 0 } } :=
    Revised.putParent (Table.find?_of_key_eq hp hid) htop fun h => by rw [hs] at h; cases h
  have hq : Table.find? (Table.put s.parents { p' with totalBytes := some total, childCount := specs.length, bytes := 0 })
      id = some { p' with totalBytes := some total, childCount := specs.length, bytes := 0 } := by
    have hk : Keyed.key ({ p' with totalBytes := some total, childCount := specs.length, bytes := 0 } : Parent) = id :=
      hid.trans hpid
    rw [Table.find?_put, if_pos hk]
  exact (hl.revised hrev).addChildren hq (by rw [hst]; rfl) (hl.not_parent_of_staging hp hs)
    (fun c hc => by
      obtain ⟨hpar, hct, hcs, -⟩ := mem_newChildren hc
      exact ⟨hpar.trans hpid, hct.trans htop.symm, hcs⟩)
    (newChildren_ids p specs now)

/-! ## Cancelling in a linked store -/

theorem Kind.canMove_child_cancelled {st : Status} (hn : st.isTerminal = false) (hs : st.inStaging = false) :
    Kind.child.canMove st .cancelled = true := by
  revert hn hs
  cases st <;> decide

/-- In a linked store, cancelling a child that is there never fails, and writes only children: an ended
child is left, a held one reported in flight, and any other cancelled, as a child never stages. -/
theorem Linked.exec_cancelChild (hl : Linked s) {id : TaskId} {c : Child} (hc : Table.find? s.children id = some c)
    (out : CancelOutcome) (now : Stamp) :
    ∃ out' cs, exec (cancelChild id out now) s = (.ok out', { s with children := cs }) := by
  cases ht : c.status.isTerminal
  · cases hw : c.worker with
    | some w => exact ⟨_, s.children, exec_cancelChild_of_held out now hc ht (by simp [hw])⟩
    | none =>
      exact ⟨_, _, exec_cancelChild_of_free out now hc ht hw (Kind.canMove_child_cancelled ht (hl.child_status hc))⟩
  · exact ⟨out, s.children, exec_cancelChild_of_ended out now hc ht⟩

/-- In a linked store, cancelling children that are there never fails, and writes only children. -/
theorem Linked.exec_cancelChildren (hl : Linked s) {ids : List TaskId}
    (hids : ∀ id ∈ ids, ∃ c, Table.find? s.children id = some c) (out : CancelOutcome) (now : Stamp) :
    ∃ out' cs, exec (cancelChildren ids out now) s = (.ok out', { s with children := cs }) := by
  induction ids generalizing s out with
  | nil => exact ⟨out, s.children, rfl⟩
  | cons id ids ih =>
    obtain ⟨c, hc⟩ := hids id List.mem_cons_self
    obtain ⟨out₁, cs₁, h₁⟩ := hl.exec_cancelChild hc out now
    have hrev := (revises_cancelChild id out now).revised h₁
    have hids' : ∀ id' ∈ ids, ∃ c, Table.find? ({ s with children := cs₁ } : Store).children id' = some c := by
      intro id' hid'
      obtain ⟨c', hc'⟩ := hids id' (List.mem_cons_of_mem _ hid')
      exact Table.exists_find?_of_keys hrev.child_ids hc'
    obtain ⟨out', cs, h⟩ := ih (hl.revised hrev) hids' out₁
    refine ⟨out', cs, ?_⟩
    unfold cancelChildren
    rw [exec_foldlM_cons, exec_bind_of_ok _ h₁]
    exact h

/-- In a linked store, the children a parent lists are there to cancel. -/
theorem Linked.exec_cancelChildren_of_parent (hl : Linked s) (pid : TaskId) (out : CancelOutcome) (now : Stamp) :
    ∃ out' cs, exec (cancelChildren (s.childIds pid) out now) s = (.ok out', { s with children := cs }) :=
  hl.exec_cancelChildren (fun id h => by
    obtain ⟨c, hc, -⟩ := (hl.listed pid).2 id h
    exact ⟨c, hc⟩) out now

/-! ## Every step of a run -/

/-- Every call keeps the links, whatever its outcome. -/
theorem Linked.call (hl : Linked s) (c : Call) (ha : c.Admitted s) : Linked (exec c.run s).2 := by
  cases hw : c.writesTasks
  · exact hl.revised (Revised.of_reassigned (c.keepsTasks hw s).1)
  cases c <;> simp only [Call.writesTasks, Bool.false_eq_true] at hw <;> simp only [Call.run]
  case createTransfer t ps =>
    rw [exec_discard_state]
    rcases exec_createTransfer (s := s) t ps with h | ⟨-, -, h⟩
    · rw [h]
      exact hl
    · rw [h]
      exact hl.createTransfer ha
  case commitStaging id w specs now =>
    rw [exec_discard_state]
    rcases @exec_commitStaging s id w now specs with h | ⟨p, p', hp, -, hm, ⟨_, -, h⟩ | ⟨total, -, h⟩⟩
    · rw [h]
      exact hl
    · rw [h]
      exact hl.bumpSerial specs.length
    · rw [h]
      exact hl.commitStaging hp hm total specs
  case requestCancel id now => exact hl.revised ((revises_requestCancel id now).discard s)
  case beginStaging => exact hl.revised (revises_beginStaging.discard s)
  case recordParentRetry => exact hl.revised (revises_recordParentRetry.discard s)
  case startParent => exact hl.revised (revises_startParent.discard s)
  case finishParent => exact hl.revised ((revises_finishParent _ _).discard s)
  case beginChildAttempt => exact hl.revised (revises_beginChildAttempt.discard s)
  case recordProgress => exact hl.revised (revises_recordProgress _ s)
  case finishChild => exact hl.revised ((revises_finishChild _ _ _).discard s)

/-- The empty store is linked. -/
theorem linked_empty : Linked {} where
  ids_nodup := List.nodup_nil
  top_parents := fun h => by cases h
  parent_top := fun h => by cases h
  child_parent := fun h => by cases h
  listed := fun _ => ⟨List.nodup_nil, fun _ h => by cases h⟩
  spawned := fun _ h => by cases h
  named := fun _ h => by cases h
  child_status := fun h => by cases h

end Store

/-- Every reachable store is linked. -/
theorem Reachable.linked {s : Store} (h : Reachable s) : s.Linked := by
  induction h with
  | empty => exact Store.linked_empty
  | call c _ ha ih => exact ih.call c ha
  | draw _ ih => exact ih.bumpSerial 1
  | restore now _ ih => exact (ih.sameRecords_restore now).linked ih

end Conveyor
