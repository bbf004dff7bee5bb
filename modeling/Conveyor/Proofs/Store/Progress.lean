import Conveyor.Proofs.Store.Integrity
import Conveyor.Proofs.Word

/-!
# Every unfinished task can move on

A task that has not ended waits for something to move it: the worker that holds it, the dispatcher that
hands it out, or, for a parent in progress, its children. The invariant comes in two parts:

* `Store.Placed`: no task is paused, and a worker holds a task only in a status the dispatcher hands out.
  A free task that has not ended is then ready, but for a parent in progress, which no worker holds.
* `Store.Carried s P`: every parent in progress but perhaps `P` is carried by its children: one of them has
  not ended, or their byte counts add up past the top of a 64-bit word. A child that ends leaves its parent
  uncarried until the parent's roll-up, which ends the parent, or stops on that overflow with the child's
  end written (`Store.Flowing.rollUp`).

The main results:

* `Store.Flowing.call`: every call keeps every task placed and every parent in progress carried, whatever
  its outcome.
* `Reachable.unfinished_task_moves_on`: in every reachable store, a parent or child that has not ended is
  held by a worker, or free and ready, or a parent in progress with a child that has not ended, or a parent
  in progress whose children have all ended with more bytes than a 64-bit word holds.
-/

namespace Conveyor

/-- A task of kind `k`, in status `st` and held by `w`, stands where it can move on: it is not paused, and a
worker holds it only in a status the dispatcher hands out. -/
def Kind.Placed (k : Kind) (st : Status) (w : Option WorkerId) : Prop :=
  st ≠ .paused ∧ (w.isSome = true → k.isReady st = true)

namespace Kind

variable {k : Kind} {st : Status} {w : Option WorkerId}

theorem placed_of_eq_none (hw : w = none) (h : st ≠ .paused) : k.Placed st w :=
  ⟨h, fun h' => by rw [hw] at h'; cases h'⟩

theorem placed_of_isReady (h : k.isReady st = true) : k.Placed st w :=
  ⟨(by rintro rfl; cases k <;> cases h), fun _ => h⟩

theorem Placed.release (h : k.Placed st w) : k.Placed st none := placed_of_eq_none rfl h.1

/-- A task a worker holds has not ended. -/
theorem Placed.not_isTerminal {w : WorkerId} (h : k.Placed st (some w)) : st.isTerminal = false := by
  have hr := h.2 rfl
  revert hr
  cases k <;> cases st <;> decide

/-- No worker holds a parent in progress. -/
theorem Placed.eq_none_of_inProgress (h : Kind.parent.Placed .inProgress w) : w = none := by
  cases w with
  | none => rfl
  | some w => cases h.2 rfl

end Kind

/-- A roll-up waits while a child has not ended. -/
theorem exists_of_rollUp_eq_none {optional cancel : Bool} {children : List Status}
    (h : rollUp optional cancel children = none) : ∃ st ∈ children, st.isTerminal = false := by
  by_cases hall : children.all Status.isTerminal = true
  · simp only [rollUp, hall, if_true] at h
    split at h <;> (try split at h) <;> cases h
  · simpa using hall

namespace Store

variable {s s' : Store} {P : Option TaskId}

/-- Every task of the store stands where it can move on. -/
structure Placed (s : Store) : Prop where
  parents : ∀ p ∈ s.parents, Kind.parent.Placed p.status p.worker
  children : ∀ c ∈ s.children, Kind.child.Placed c.status c.worker

/-- The children of parent `pid` carry it: one of them has not ended, or their byte counts add up past the
top of a 64-bit word, where its roll-up stops. -/
def Carries (s : Store) (pid : TaskId) : Prop :=
  (∃ c ∈ s.childRecords pid, c.status.isTerminal = false) ∨
    ∃ e, Word.sum Word.max64 ((s.childRecords pid).map (·.bytes)) = .error e

/-- Every parent in progress but perhaps `P` is carried by its children. -/
def Carried (s : Store) (P : Option TaskId) : Prop :=
  ∀ p ∈ s.parents, p.status = .inProgress → P ≠ some p.id → s.Carries p.id

/-- Every task stands where it can move on, and every parent in progress but perhaps `P` is carried. -/
structure Flowing (s : Store) (P : Option TaskId) : Prop where
  placed : s.Placed
  carried : s.Carried P

/-! ## Writing a record -/

theorem Placed.putParent (h : s.Placed) {p : Parent} (hp : Kind.parent.Placed p.status p.worker) :
    ({ s with parents := Table.put s.parents p } : Store).Placed := by
  refine ⟨fun q hq => ?_, h.children⟩
  rcases Table.mem_put.1 hq with rfl | ⟨hq, -⟩
  · exact hp
  · exact h.parents q hq

theorem Placed.putChild (h : s.Placed) {c : Child} (hc : Kind.child.Placed c.status c.worker) :
    ({ s with children := Table.put s.children c } : Store).Placed := by
  refine ⟨h.parents, fun d hd => ?_⟩
  rcases Table.mem_put.1 hd with rfl | ⟨hd, -⟩
  · exact hc
  · exact h.children d hd

/-- Carrying reads only the children a parent lists. -/
theorem Carries.of_childRecords {pid : TaskId} (h : s.Carries pid) (he : s'.childRecords pid = s.childRecords pid) :
    s'.Carries pid := by
  unfold Carries
  rw [he]
  exact h

theorem Carried.weaken (h : s.Carried none) (P : Option TaskId) : s.Carried P :=
  fun p hp hs _ => h p hp hs (by simp)

/-- A store carried but for `pid` is carried throughout, once `pid` is carried or not in progress. -/
theorem Carried.close {pid : TaskId} (h : s.Carried (some pid))
    (hp : ∀ q ∈ s.parents, q.id = pid → q.status = .inProgress → s.Carries pid) : s.Carried none := by
  intro q hq hs _
  by_cases hid : q.id = pid
  · rw [hid]
    exact hp q hq hid hs
  · exact h q hq hs fun he => hid (Option.some.inj he).symm

/-- A parent written in progress must be carried, or be `P`. -/
theorem Carried.putParent (h : s.Carried P) {p : Parent}
    (hp : p.status = .inProgress → P ≠ some p.id → s.Carries p.id) :
    ({ s with parents := Table.put s.parents p } : Store).Carried P := by
  intro q hq hs hP
  rcases Table.mem_put.1 hq with rfl | ⟨hq, -⟩
  · exact hp hs hP
  · exact h q hq hs hP

/-- A parent written over its record in the same status keeps the store carried. -/
theorem Carried.putParent_of_find (h : s.Carried P) {p p' : Parent} (hf : Table.find? s.parents p'.id = some p)
    (hs : p'.status = p.status) : ({ s with parents := Table.put s.parents p' } : Store).Carried P := by
  obtain ⟨hmem, hid⟩ := Table.find?_eq_some hf
  refine h.putParent fun hs' hP => ?_
  rw [← hid] at hP ⊢
  exact h p hmem (hs ▸ hs') hP

/-- Every task stays where it was, with the same children listed for every parent. -/
theorem Flowing.of_tasks (h : s.Flowing P) (hp : s'.parents = s.parents) (hc : s'.children = s.children)
    (hl : s'.childLists = s.childLists) : s'.Flowing P := by
  have hrec : ∀ pid, s'.childRecords pid = s.childRecords pid := fun pid => by
    simp only [childRecords, childIds, hc, hl]
  exact ⟨⟨fun p hmem => h.placed.parents p (hp ▸ hmem), fun c hmem => h.placed.children c (hc ▸ hmem)⟩,
    fun p hmem hs hP => (h.carried p (hp ▸ hmem) hs hP).of_childRecords (hrec p.id)⟩

section Children

variable (hl : s.Linked)
include hl

/-- A child written over its record changes the children of its own parent only. -/
theorem Linked.childRecords_putChild {c c' : Child} (hc : Table.find? s.children c'.id = some c) {pid : TaskId}
    (hpid : pid ≠ c.parent) : ({ s with children := Table.put s.children c' } : Store).childRecords pid =
      s.childRecords pid := by
  unfold childRecords
  refine List.filterMap_congr fun cid hcid => Table.find?_put_of_ne _ _ fun he => hpid ?_
  obtain ⟨d, hd, hdp⟩ := (hl.listed pid).2 cid hcid
  rw [← he] at hd
  have hdc : d = c := Option.some.inj (hd.symm.trans hc)
  rw [← hdp, hdc]

/-- A child written over its record is among the children of its parent. -/
theorem Linked.mem_childRecords_putChild {c c' : Child} (hc : Table.find? s.children c'.id = some c) :
    c' ∈ ({ s with children := Table.put s.children c' } : Store).childRecords c.parent := by
  obtain ⟨-, -, -, -, hmem⟩ := hl.child_parent hc
  exact List.mem_filterMap.2 ⟨c'.id, hmem, Table.find?_put_self _ _⟩

/-- A child written over its record keeps the store carried but for its parent, and carried throughout if
the child has not ended. -/
theorem Carried.putChild (h : s.Carried P) {c c' : Child} (hc : Table.find? s.children c'.id = some c)
    (hP : P = some c.parent ∨ c'.status.isTerminal = false) :
    ({ s with children := Table.put s.children c' } : Store).Carried P := by
  intro q hq hs hqP
  by_cases hpar : q.id = c.parent
  · rcases hP with rfl | hn
    · exact absurd (by rw [hpar]) hqP
    · rw [hpar]
      exact Or.inl ⟨c', hl.mem_childRecords_putChild hc, hn⟩
  · exact (h q hq hs hqP).of_childRecords (hl.childRecords_putChild hc hpar)

/-- The children a parent lists are children of it. -/
theorem Linked.parent_of_listed (pid : TaskId) :
    ∀ cid ∈ s.childIds pid, ∀ c, Table.find? s.children cid = some c → c.parent = pid := by
  intro cid hcid c hc
  obtain ⟨d, hd, hdp⟩ := (hl.listed pid).2 cid hcid
  rw [hc] at hd
  cases hd
  exact hdp

/-- In a linked store, a parent is the one record with its id. -/
theorem Linked.eq_of_find?_parent {pid : TaskId} {p q : Parent} (hp : Table.find? s.parents pid = some p)
    (hq : q ∈ s.parents) (hid : q.id = pid) : q = p := by
  have hf := hl.find?_parent hq
  rw [hid, hp] at hf
  exact (Option.some.inj hf).symm

/-- In a linked store, a child is the one record with its id. -/
theorem Linked.eq_of_find?_child {cid : TaskId} {c d : Child} (hc : Table.find? s.children cid = some c)
    (hd : d ∈ s.children) (hid : d.id = cid) : d = c := by
  have hf := hl.find?_child hd
  rw [hid, hc] at hf
  exact (Option.some.inj hf).symm

end Children

/-! ## The steps inside operations -/

/-- A refresh writes transfers only. -/
theorem refreshTop_frame (T : TaskId) (now : Stamp) :
    ∃ ts, (exec (refreshTop T now) s).2 = { s with tops := ts } := by
  cases hT : Table.find? s.tops T with
  | none => exact ⟨s.tops, by rw [exec_refreshTop_of_none hT]⟩
  | some t =>
    rw [exec_refreshTop_of_find hT]
    split
    · exact ⟨s.tops, rfl⟩
    · exact ⟨_, rfl⟩

theorem Flowing.refresh (h : s.Flowing P) (T : TaskId) (now : Stamp) : (exec (refreshTop T now) s).2.Flowing P := by
  obtain ⟨ts, hts⟩ := refreshTop_frame (s := s) T now
  rw [hts]
  exact h.of_tasks rfl rfl rfl

/-- A program, then a refresh and reads, ends flowing where the program ends flowing. -/
theorem Flowing.then_refresh {α β : Type} {m : StoreM α} {k : α → StoreM β} (hk : ∀ a s, (exec (k a) s).2 = s)
    (h : (exec m s).2.Flowing P) (T : TaskId) (now : Stamp) :
    (exec (m >>= fun a => refreshTop T now >>= fun _ => k a) s).2.Flowing P := by
  rw [exec_bind]
  rcases hm : exec m s with ⟨r, s₁⟩
  rw [hm] at h
  cases r with
  | ok a =>
    rw [exec_bind_of_reads fun _ => hk a]
    exact h.refresh T now
  | error e => exact h

theorem Flowing.mark (h : s.Flowing P) (id : TaskId) : (exec (Store.mark id) s).2.Flowing P :=
  h.of_tasks rfl rfl rfl

/-- Moving a child's byte count keeps the store flowing but for `P`, if the child has not ended or `P` is its
parent. -/
theorem Flowing.setChildBytes (hl : s.Linked) (h : s.Flowing P) (id : TaskId)
    (hc : ∀ c, Table.find? s.children id = some c → P = some c.parent ∨ c.status.isTerminal = false)
    (bytes : Nat) : (exec (setChildBytes id bytes) s).2.Flowing P := by
  cases hf : Table.find? s.children id with
  | none =>
    rw [exec_setChildBytes_of_none hf]
    exact h
  | some c =>
    have hc' : Table.find? s.children { c with bytes }.id = some c := Table.find?_self hf
    have h₁ : ({ s with children := Table.put s.children { c with bytes } } : Store).Flowing P :=
      ⟨h.placed.putChild (h.placed.children c (Table.find?_eq_some hf).1), h.carried.putChild hl hc' (hc c hf)⟩
    cases hp : Table.find? s.parents c.parent with
    | none =>
      rw [exec_setChildBytes_of_orphan hf hp]
      exact h₁
    | some p =>
      rw [exec_setChildBytes_of_find hf hp]
      have hp' : Table.find? s.parents
          { p with bytes := Word.saturatingAdd Word.max64 (Word.saturatingSub p.bytes c.bytes) bytes }.id = some p :=
        Table.find?_self hp
      exact ⟨h₁.placed.putParent (h.placed.parents p (Table.find?_eq_some hp).1),
        h₁.carried.putParent_of_find hp' rfl⟩

/-- A parent that a roll-up finds waiting is carried by a child that has not ended. -/
theorem Carries.of_waiting {p : Parent} (h : s.rollUpOutcome p = none) : s.Carries p.id := by
  obtain ⟨st, hst, hn⟩ := exists_of_rollUp_eq_none h
  obtain ⟨c, hc, rfl⟩ := List.mem_map.1 hst
  exact Or.inl ⟨c, hc, hn⟩

/-- A roll-up of `pid`, in a store flowing but for `pid`, leaves it flowing throughout: it finds `pid` not in
progress, or waiting on a child, or stopped by the overflow, or it ends it. -/
theorem Flowing.rollUp (hl : s.Linked) {pid : TaskId} (h : s.Flowing (some pid)) (now : Stamp) :
    (exec (rollUpParent pid now) s).2.Flowing none := by
  cases hp : Table.find? s.parents pid with
  | none =>
    rw [exec_rollUpParent_of_none now hp]
    refine ⟨h.placed, h.carried.close fun q hq hid _ => ?_⟩
    have hf := hl.find?_parent hq
    rw [hid, hp] at hf
    cases hf
  | some p =>
    have hid : p.id = pid := (Table.find?_eq_some hp).2
    by_cases hs : p.status = .inProgress
    · cases ho : s.rollUpOutcome p with
      | none =>
        rw [exec_rollUpParent_of_waiting now hp hs ho]
        exact ⟨h.placed, h.carried.close fun _ _ _ _ => hid ▸ Carries.of_waiting ho⟩
      | some outcome =>
        cases hb : Word.sum Word.max64 ((s.childRecords pid).map (·.bytes)) with
        | error e =>
          rw [exec_rollUpParent_of_overflow now hp hs ho hb]
          exact ⟨h.placed, h.carried.close fun _ _ _ _ => Or.inr ⟨e, hb⟩⟩
        | ok bytes =>
          rw [exec_rollUpParent_of_rollUp now hp hs ho hb]
          have hterm : outcome.isTerminal = true := rollUp_isTerminal ho
          have hpaused : outcome ≠ .paused := by rintro rfl; cases hterm
          have hrun : outcome ≠ .inProgress := by rintro rfl; cases hterm
          refine Flowing.refresh ⟨h.placed.putParent (Kind.placed_of_eq_none rfl hpaused),
            (h.carried.putParent fun hs' => absurd hs' hrun).close fun q hq hq' hs' => ?_⟩ p.top now
          rcases Table.mem_put.1 hq with rfl | ⟨-, hne⟩
          · exact absurd hs' hrun
          · exact absurd (hq'.trans hid.symm) hne
    · rw [exec_rollUpParent_of_idle now hp hs]
      exact ⟨h.placed, h.carried.close fun q hq hq' hs' => absurd (hl.eq_of_find?_parent hp hq hq' ▸ hs') hs⟩

/-- Cancelling a child of `pid` keeps the store flowing but for `pid`. -/
theorem Flowing.cancelChild (hl : s.Linked) {pid : TaskId} (h : s.Flowing (some pid)) {id : TaskId}
    (hid : ∀ c, Table.find? s.children id = some c → c.parent = pid) (out : CancelOutcome) (now : Stamp) :
    (exec (cancelChild id out now) s).2.Flowing (some pid) := by
  cases hc : Table.find? s.children id with
  | none =>
    rw [exec_cancelChild_of_none out now hc]
    exact h
  | some c =>
    cases ht : c.status.isTerminal
    · cases hw : c.worker with
      | some w =>
        rw [exec_cancelChild_of_held out now hc ht (by simp [hw])]
        exact h
      | none =>
        cases hm : Kind.child.canMove c.status .cancelled
        · rw [exec_cancelChild_of_stuck out now hc ht hw hm]
          exact h
        · -- a free child is cancelled: ended, it may leave its parent uncarried
          rw [exec_cancelChild_of_free out now hc ht hw hm]
          have hc' : Table.find? s.children (c.cancelledAt now).id = some c := Table.find?_self hc
          exact ⟨h.placed.putChild (Kind.placed_of_eq_none hw (show Status.cancelled ≠ .paused by decide)),
            h.carried.putChild hl hc' (.inl (by rw [hid c hc]))⟩
    · rw [exec_cancelChild_of_ended out now hc ht]
      exact h

/-- Cancelling children of `pid` keeps the store flowing but for `pid`. -/
theorem Flowing.cancelChildren (hl : s.Linked) {pid : TaskId} (h : s.Flowing (some pid)) {ids : List TaskId}
    (hids : ∀ id ∈ ids, ∀ c, Table.find? s.children id = some c → c.parent = pid) (out : CancelOutcome)
    (now : Stamp) : (exec (cancelChildren ids out now) s).2.Flowing (some pid) := by
  induction ids generalizing s out with
  | nil => exact h
  | cons id ids ih =>
    unfold cancelChildren
    rw [exec_foldlM_cons, exec_bind]
    have h₁ := h.cancelChild hl (hids id List.mem_cons_self) out now
    have hr := revises_cancelChild id out now s
    rcases hc : exec (Store.cancelChild id out now) s with ⟨r, s₁⟩
    rw [hc] at h₁ hr
    cases r with
    | error e => exact h₁
    | ok out₁ =>
      refine ih (hl.revised hr) h₁ (fun id' hid' c' hc' => ?_) out₁
      obtain ⟨c, hc, hpar, -⟩ := hr.children hc'
      exact hpar.trans (hids id' (List.mem_cons_of_mem _ hid') c hc)

/-- Cancelling children writes no parent. -/
theorem cancelChildren_parents (ids : List TaskId) (out : CancelOutcome) (now : Stamp) :
    (exec (cancelChildren ids out now) s).2.parents = s.parents := by
  obtain ⟨cs, hcs⟩ := cancelChildren_frame (s := s) out now ids
  rw [hcs]

/-- Cancelling a parent keeps the store flowing, wherever it stops: its children go first, and then the
parent is reported in flight, rolled up, or cancelled. -/
theorem Flowing.cancelParent (hl : s.Linked) (h : s.Flowing none) (pid : TaskId) (out : CancelOutcome)
    (now : Stamp) : (exec (cancelParent pid out now) s).2.Flowing none := by
  cases hp : Table.find? s.parents pid with
  | none =>
    rw [exec_cancelParent_of_none out now hp]
    exact h
  | some p =>
    cases hn : p.status.isTerminal
    · obtain ⟨out₁, cs, hc⟩ := hl.exec_cancelChildren_of_parent pid out now
      have h₁ : ({ s with children := cs } : Store).Flowing (some pid) := by
        have hk := (h.carried.weaken (some pid))
        have hf := Flowing.cancelChildren hl ⟨h.placed, hk⟩ (hl.parent_of_listed pid) out now
        rw [hc] at hf
        exact hf
      have hl₁ : ({ s with children := cs } : Store).Linked := by
        have hr := revises_cancelChildren (s.childIds pid) out now s
        rw [hc] at hr
        exact hl.revised hr
      have hpm : p ∈ s.parents := (Table.find?_eq_some hp).1
      cases hw : p.worker with
      | some w =>
        rw [exec_cancelParent_of_held out now hp hn hc (by simp [hw])]
        refine ⟨h₁.placed, h₁.carried.close fun q hq hq' hs => ?_⟩
        have hqp := hl.eq_of_find?_parent hp hq hq'
        subst hqp
        have hpl := h.placed.parents q hpm
        rw [hs, hw] at hpl
        cases hpl.eq_none_of_inProgress
      | none =>
        by_cases ha : p.status = .inProgress
        · rw [exec_cancelParent_of_active out now hp hn hc hw ha]
          exact h₁.rollUp hl₁ now
        · rw [exec_cancelParent_of_free out now hp hn hc hw ha]
          refine ⟨h₁.placed.putParent (Kind.placed_of_eq_none hw (show Status.cancelled ≠ .paused by decide)),
            (h₁.carried.putParent fun hs => by cases hs).close fun q hq hq' hs => ?_⟩
          rcases Table.mem_put.1 hq with rfl | ⟨-, hne⟩
          · cases hs
          · exact absurd (hq'.trans (Table.find?_eq_some hp).2.symm) hne
    · rw [exec_cancelParent_of_ended out now hp hn]
      exact h

/-- Cancelling parents in turn keeps the store flowing, wherever it stops. -/
theorem Flowing.cancelParents (hl : s.Linked) (h : s.Flowing none) (pids : List TaskId) (out : CancelOutcome)
    (now : Stamp) : (exec (pids.foldlM (fun out pid => Store.cancelParent pid out now) out) s).2.Flowing none := by
  induction pids generalizing s out with
  | nil => exact h
  | cons pid pids ih =>
    rw [exec_foldlM_cons, exec_bind]
    have h₁ := h.cancelParent hl pid out now
    have hr := revises_cancelParent pid out now s
    rcases hc : exec (Store.cancelParent pid out now) s with ⟨r, s₁⟩
    rw [hc] at h₁ hr
    cases r with
    | error e => exact h₁
    | ok out₁ => exact ih (hl.revised hr) h₁ out₁

/-- Moving a byte count never fails. -/
theorem exec_setChildBytes_ok (id : TaskId) (bytes : Nat) :
    exec (setChildBytes id bytes) s = (.ok (), (exec (setChildBytes id bytes) s).2) := by
  cases hc : Table.find? s.children id with
  | none => rw [exec_setChildBytes_of_none hc]
  | some c =>
    cases hp : Table.find? s.parents c.parent with
    | none => rw [exec_setChildBytes_of_orphan hc hp]
    | some p => rw [exec_setChildBytes_of_find hc hp]

/-! ## Children a commit adds -/

/-- After a commit, the children of the parent are the new ones, in order. -/
theorem childRecords_of_commit {id : TaskId} {p : Parent} {specs : List ChildSpec} {now : Stamp}
    (hlists : s'.childLists = setChildList s.childLists id ((s.newChildren p specs now).map (·.id)))
    (hch : s'.children = (s.newChildren p specs now).foldl Table.put s.children) :
    s'.childRecords id = s.newChildren p specs now := by
  have hnd : ((s.newChildren p specs now).map (·.id)).Nodup := by
    rw [newChildren_ids]
    exact nodup_spawned _ _
  unfold childRecords
  rw [childIds_of_childLists hlists, if_pos rfl, hch]
  exact Table.filterMap_find?_foldl_put hnd s.children

/-- Children under ids the store invents now, listed for parent `id`, leave the children of every other
parent as they were. -/
theorem Linked.childRecords_of_new (hl : s.Linked) {id pid : TaskId} {cs : List Child} {n : Nat}
    (hids : cs.map (·.id) = (List.range n).map fun k => ⟨Uuid.spawned (s.serial + k)⟩)
    (hlists : s'.childLists = setChildList s.childLists id (cs.map (·.id)))
    (hcs : s'.children = cs.foldl Table.put s.children) (hne : pid ≠ id) :
    s'.childRecords pid = s.childRecords pid := by
  unfold childRecords
  rw [childIds_of_childLists hlists, if_neg hne, hcs]
  refine List.filterMap_congr fun cid hcid => Table.find?_foldl_put_of_not_mem fun hmem => ?_
  obtain ⟨c, hc, -⟩ := (hl.listed pid).2 cid hcid
  obtain ⟨hcm, hcid'⟩ := Table.find?_eq_some hc
  rw [show (cs.map Keyed.key) = cs.map (·.id) from rfl, hids] at hmem
  obtain ⟨i, -, rfl⟩ := List.mem_map.1 hmem
  exact hl.spawned_not_child (Nat.le_add_right _ i) (hcid' ▸ List.mem_map_of_mem hcm)

/-! ## Every operation -/

section Operations

variable {id : TaskId} {w : WorkerId} {now : Stamp}

/-- A submission adds accepted parents that no worker holds. -/
theorem Flowing.createTransfer (hl : s.Linked) (h : s.Flowing none) {t : Top} {ps : List Parent}
    (ha : s.Admits t ps) :
    ({ s with
        parents := ps.foldl Table.put s.parents
        tops := Table.put s.tops { t with parents := ps.map (·.id) } } : Store).Flowing none := by
  obtain ⟨hps, -⟩ := hl.admits_tables ha
  have hnew : ∀ p ∈ ps, p.status = .accepted ∧ p.worker = none := fun p hp => by
    obtain ⟨_, _, _, _, hpf⟩ := ha.parents_new p hp
    rw [hpf]
    exact ⟨rfl, rfl⟩
  refine ⟨⟨fun p hp => ?_, h.placed.children⟩, fun p hp hs hP => ?_⟩
  · rcases List.mem_append.1 (hps ▸ hp) with hp | hp
    · exact h.placed.parents p hp
    · exact Kind.placed_of_eq_none (hnew p hp).2 (by rw [(hnew p hp).1]; decide)
  · rcases List.mem_append.1 (hps ▸ hp) with hp | hp
    · exact h.carried p hp hs hP
    · rw [(hnew p hp).1] at hs
      cases hs

theorem Flowing.beginStaging (h : s.Flowing none) : (exec (beginStaging id w now) s).2.Flowing none := by
  rcases @exec_beginStaging s id w now with he | ⟨p, p', -, hw, hst, he⟩
  · rw [he]
    exact h
  · -- the parent stages, still held: a status the dispatcher hands out, not in progress
    have hr : Kind.parent.isReady p'.status = true := by
      obtain ⟨_, _, _, hs, -, rfl⟩ := Parent.eq_of_stagingStep hst
      rcases hs with rfl | rfl <;> rfl
    rw [he, exec_bind_of_reads fun _ _ => rfl]
    refine Flowing.refresh ⟨h.placed.putParent (Kind.placed_of_isReady hr),
      h.carried.putParent fun hs _ => ?_⟩ p'.top now
    rw [hs] at hr
    cases hr

theorem Flowing.recordParentRetry (h : s.Flowing none) : (exec (recordParentRetry id w) s).2.Flowing none := by
  rcases @exec_recordParentRetry s id w with he | ⟨p, n, hp, -, -, he⟩
  · rw [he]
    exact h
  · have hp' : Table.find? s.parents { p with retries := n }.id = some p := Table.find?_self hp
    rw [he]
    exact ⟨h.placed.putParent (h.placed.parents p (Table.find?_eq_some hp).1), h.carried.putParent_of_find hp' rfl⟩

theorem Flowing.commitStaging (hl : s.Linked) (h : s.Flowing none) (specs : List ChildSpec) :
    (exec (commitStaging id w specs now) s).2.Flowing none := by
  rcases @exec_commitStaging s id w now specs with he | ⟨p, p', hp, -, hm, ⟨_, -, he⟩ | ⟨total, -, he⟩⟩
  · rw [he]
    exact h
  · rw [he]
    exact h.of_tasks rfl rfl rfl
  · -- the parent is staged, still held, and its new children are accepted and free
    obtain ⟨hid, -, hst⟩ := Parent.moveTo_links hm
    have hpid : p.id = id := (Table.find?_eq_some hp).2
    rw [he]
    refine ⟨⟨fun q hq => ?_, fun c hc => ?_⟩, fun q hq hs hP => ?_⟩
    · rcases Table.mem_put.1 hq with rfl | ⟨hq, -⟩
      · exact Kind.placed_of_isReady (show Kind.parent.isReady p'.status = true by rw [hst]; rfl)
      · exact h.placed.parents q hq
    · rcases Table.mem_foldl_put hc with hc | hc
      · exact h.placed.children c hc
      · obtain ⟨-, -, hcs, hcw⟩ := mem_newChildren hc
        exact Kind.placed_of_eq_none hcw (by rw [hcs]; decide)
    · rcases Table.mem_put.1 hq with rfl | ⟨hq, hne⟩
      · rw [show p'.status = _ from hst] at hs
        cases hs
      · -- another parent keeps its children
        have hne' : q.id ≠ id := fun he => hne (he.trans (hid.trans hpid).symm)
        exact (h.carried q hq hs (by simp)).of_childRecords
          (hl.childRecords_of_new (newChildren_ids p specs now) rfl rfl hne')

theorem Flowing.startParent (hl : s.Linked) (h : s.Flowing none) :
    (exec (startParent id w now) s).2.Flowing none := by
  rcases @exec_startParent s id w now with he | ⟨p, p', hp, -, hm, he⟩
  · rw [he]
    exact h
  · -- the parent starts, released: its children carry it, and it rolls up at once if they all ended
    obtain ⟨hid, -, hst⟩ := Parent.moveTo_links hm
    have hpid : p.id = id := (Table.find?_eq_some hp).2
    have hl₁ : ({ s with parents := Table.put s.parents { p' with worker := none } } : Store).Linked :=
      hl.revised (Revised.putReleased hp hm rfl p'.error)
    have h₁ : ({ s with parents := Table.put s.parents { p' with worker := none } } : Store).Flowing (some id) :=
      ⟨h.placed.putParent (Kind.placed_of_eq_none rfl (by simp [hst])),
        (h.carried.weaken _).putParent fun _ hP => (hP (congrArg some (hpid.symm.trans hid.symm))).elim⟩
    rw [he]
    exact Flowing.then_refresh (fun _ s => exec_parent_state s id) (h₁.rollUp hl₁ now) p.top now

theorem Flowing.finishParent (hl : s.Linked) (h : s.Flowing none) (status : Status) (error : Option String) :
    (exec (finishParent id w status error now) s).2.Flowing none := by
  rcases @exec_finishParent s id w now status error with he | ⟨p, p', hp, -, ht, hm, he⟩
  · rw [he]
    exact h
  · -- the parent ends, released; it needs no child to carry it while its children are cancelled
    obtain ⟨hid, -, hst⟩ := Parent.moveTo_links hm
    have hpid : p.id = id := (Table.find?_eq_some hp).2
    have hs₁ : ({ p' with worker := none, error } : Parent).status = status := hst
    have hrun : status ≠ .inProgress := by rintro rfl; cases ht
    have hl₁ : ({ s with parents := Table.put s.parents { p' with worker := none, error } } : Store).Linked :=
      hl.revised (Revised.putReleased hp hm (Status.pastStaging_of_isTerminal ht) error)
    have h₁ : ({ s with parents := Table.put s.parents { p' with worker := none, error } } : Store).Flowing
        (some id) :=
      ⟨h.placed.putParent (Kind.placed_of_eq_none rfl (by rw [hs₁]; rintro rfl; cases ht)),
        (h.carried.putParent fun hs _ => absurd (hs₁.symm.trans hs) hrun).weaken _⟩
    have h₂ := h₁.cancelChildren hl₁ (hl₁.parent_of_listed id) ⟨p.top, p.tenant, true, [], []⟩ now
    rw [he]
    refine Flowing.then_refresh (fun _ s => exec_parent_state s id) ?_ p.top now
    refine ⟨h₂.placed, h₂.carried.close fun q hq hq' hs => ?_⟩
    rw [cancelChildren_parents] at hq
    rcases Table.mem_put.1 hq with rfl | ⟨-, hne⟩
    · exact absurd (hs₁.symm.trans hs) hrun
    · exact absurd (hq'.trans (hid.trans hpid).symm) hne

theorem Flowing.beginChildAttempt (hl : s.Linked) (h : s.Flowing none) :
    (exec (beginChildAttempt id w now) s).2.Flowing none := by
  rcases @exec_beginChildAttempt s id w now with he | ⟨c, c', hc, hw, hst, hrest⟩
  · rw [he]
    exact h
  · -- the child is in progress, held: ready, and not ended
    obtain ⟨hs, hid, hpar, htop⟩ : c'.status = .inProgress ∧ c'.id = c.id ∧ c'.parent = c.parent ∧
        c'.top = c.top := by
      obtain ⟨_, _, rfl⟩ := Child.eq_of_attemptStep hst
      exact ⟨rfl, rfl, rfl, rfl⟩
    have hn : c'.status.isTerminal = false := by rw [hs]; rfl
    have hr : Kind.child.isReady c'.status = true := by rw [hs]; rfl
    rcases hrest with ⟨_, -, he⟩ | ⟨n, -, he⟩
    · have hc' : Table.find? s.children c'.id = some c := Table.find?_of_key_eq hc hid
      rw [he]
      exact ⟨h.placed.putChild (Kind.placed_of_isReady hr), h.carried.putChild hl hc' (.inr hn)⟩
    · -- the attempt is counted and the byte count goes back to zero
      have hc' : Table.find? s.children { c' with retries := n }.id = some c :=
        Table.find?_of_key_eq hc hid
      have hl₁ : ({ s with children := Table.put s.children { c' with retries := n } } : Store).Linked :=
        hl.revised (Revised.putChild hc' hpar htop fun _ => by rw [hs]; rfl)
      have h₁ : ({ s with children := Table.put s.children { c' with retries := n } } : Store).Flowing none :=
        ⟨h.placed.putChild (Kind.placed_of_isReady hr), h.carried.putChild hl hc' (.inr hn)⟩
      have hkey : Keyed.key ({ c' with retries := n } : Child) = id := hid.trans (Table.find?_eq_some hc).2
      rw [he, exec_bind_of_ok _ (exec_setChildBytes_ok id 0), exec_child_state]
      refine h₁.setChildBytes hl₁ id (fun d hd => .inr ?_) 0
      rw [Table.find?_put, if_pos hkey] at hd
      cases hd
      exact hn

theorem Flowing.recordProgress (hl : s.Linked) (h : s.Flowing none) (bytes : Nat) :
    (exec (recordProgress id w bytes) s).2.Flowing none := by
  rcases @exec_recordProgress s id w bytes with he | ⟨c, hc, hw, he⟩
  · rw [he]
    exact h
  · -- a child a worker holds has not ended
    rw [he]
    refine h.setChildBytes hl id (fun d hd => .inr ?_) bytes
    rw [hc] at hd
    cases hd
    have hpl := h.placed.children c (Table.find?_eq_some hc).1
    rw [hw] at hpl
    exact hpl.not_isTerminal

theorem Flowing.finishChild (hl : s.Linked) (h : s.Flowing none) (status : Status) (bytes : Nat)
    (error : Option String) : (exec (finishChild id w status bytes error now) s).2.Flowing none := by
  rcases @exec_finishChild s id w now status bytes error with he | ⟨c, c', hc, -, ht, hm, he⟩
  · rw [he]
    exact h
  · -- the child ends, released: its parent may be left uncarried until it rolls up
    obtain ⟨hid, hpar, htop, hst⟩ := Child.moveTo_links hm
    have hc' : Table.find? s.children { c' with worker := none, error }.id = some c :=
      Table.find?_of_key_eq hc hid
    have hl₁ : ({ s with children := Table.put s.children { c' with worker := none, error } } : Store).Linked :=
      hl.revised (Revised.putChild hc' hpar htop fun _ => by rw [hst]; exact Status.inStaging_of_isTerminal ht)
    have h₁ : ({ s with children := Table.put s.children { c' with worker := none, error } } : Store).Flowing
        (some c.parent) :=
      ⟨h.placed.putChild (Kind.placed_of_eq_none rfl (by simp only [hst]; rintro rfl; cases ht)),
        (h.carried.weaken _).putChild hl hc' (.inl rfl)⟩
    have hkey : Keyed.key ({ c' with worker := none, error } : Child) = id := hid.trans (Table.find?_eq_some hc).2
    have h₂ := h₁.setChildBytes hl₁ id (fun d hd => .inl ?_) bytes
    · rw [he, exec_bind_of_ok _ (exec_setChildBytes_ok id bytes), exec_bind_of_reads fun _ s => exec_child_state s id]
      exact h₂.rollUp (hl₁.revised (revises_setChildBytes id bytes _)) now
    · rw [Table.find?_put, if_pos hkey] at hd
      cases hd
      rw [hpar]

theorem Flowing.requestCancel (hl : s.Linked) (h : s.Flowing none) (id : TaskId) (now : Stamp) :
    (exec (requestCancel id now) s).2.Flowing none := by
  rcases @exec_requestCancel s id now with he | ⟨t, ht, -, he⟩ | ⟨p, t, -, -, -, -, -, he⟩ |
      ⟨c, t, -, -, hc, -, -, -, he⟩
  · rw [he]
    exact h
  · -- the transfer takes the flag, then its parents are cancelled in turn
    have ht' : Table.find? s.tops { t with cancelRequested := true }.id = some t := Table.find?_self ht
    have hl₀ : ({ s with tops := Table.put s.tops { t with cancelRequested := true } } : Store).Linked :=
      hl.revised (Revised.putTop ht' rfl)
    rw [he]
    exact Flowing.then_refresh (k := Pure.pure) (fun _ _ => rfl)
      (Flowing.cancelParents hl₀ (h.of_tasks rfl rfl rfl) t.parents _ now) id now
  · -- the parent is marked, then cancelled with its children
    have hm : exec (Store.mark id) s = (.ok (), (exec (Store.mark id) s).2) := rfl
    rw [he, exec_bind_of_ok _ hm]
    exact Flowing.then_refresh (k := Pure.pure) (fun _ _ => rfl)
      ((h.mark id).cancelParent (hl.revised (Revises.mark id s)) id _ now) p.top now
  · -- the child is marked and cancelled, then its parent rolls up
    have hm : exec (Store.mark id) s = (.ok (), (exec (Store.mark id) s).2) := rfl
    have hl₁ := hl.revised (Revises.mark id s)
    have hc₁ : Table.find? (exec (Store.mark id) s).2.children id = some c := hc
    obtain ⟨out, cs, hcc⟩ := hl₁.exec_cancelChild hc₁ ⟨c.top, t.tenant, true, [], []⟩ now
    have hr := (revises_cancelChild id _ now).revised hcc
    have h₃ := Flowing.cancelChild hl₁ ⟨(h.mark id).placed, (h.mark id).carried.weaken _⟩
      (fun d hd => by rw [hc₁] at hd; cases hd; rfl) ⟨c.top, t.tenant, true, [], []⟩ now
    rw [hcc] at h₃
    obtain ⟨c'', hc'', hpar, -⟩ := hr.exists_child hc₁
    rw [he, exec_bind_of_ok _ hm, exec_bind_of_ok _ hcc, exec_bind_of_ok _ (exec_child_of_find hc''), hpar]
    exact Flowing.then_refresh (k := fun _ => pure out) (fun _ _ => rfl) (h₃.rollUp (hl₁.revised hr) now) c.top now

end Operations
/-! ## Handing tasks out and taking them back -/

theorem Placed.mapParents (h : s.Placed) {f : Parent → Parent}
    (hf : ∀ p ∈ s.parents, Kind.parent.Placed (f p).status (f p).worker) :
    ({ s with parents := s.parents.map f } : Store).Placed := by
  refine ⟨fun q hq => ?_, h.children⟩
  obtain ⟨p, hp, rfl⟩ := List.mem_map.1 hq
  exact hf p hp

theorem Placed.mapChildren (h : s.Placed) {f : Child → Child}
    (hf : ∀ c ∈ s.children, Kind.child.Placed (f c).status (f c).worker) :
    ({ s with children := s.children.map f } : Store).Placed := by
  refine ⟨h.parents, fun d hd => ?_⟩
  obtain ⟨c, hc, rfl⟩ := List.mem_map.1 hd
  exact hf c hc

/-- Releasing tasks keeps every task placed. -/
theorem Placed.release (h : s.Placed) (fp : Parent → Bool) (fc : Child → Bool) :
    ({ s with
        parents := s.parents.map fun p => if fp p then { p with worker := none } else p
        children := s.children.map fun c => if fc c then { c with worker := none } else c } : Store).Placed := by
  refine ⟨fun q hq => ?_, fun d hd => ?_⟩
  · obtain ⟨p, hp, rfl⟩ := List.mem_map.1 hq
    split
    · exact (h.parents p hp).release
    · exact h.parents p hp
  · obtain ⟨c, hc, rfl⟩ := List.mem_map.1 hd
    split
    · exact (h.children c hc).release
    · exact h.children c hc

theorem Placed.setWorker_none (h : s.Placed) (kind : Kind) (id : TaskId) :
    (exec (setWorker kind id none) s).2.Placed := by
  cases kind with
  | parent =>
    refine h.mapParents fun p hp => ?_
    split
    · exact (h.parents p hp).release
    · exact h.parents p hp
  | child =>
    refine h.mapChildren fun c hc => ?_
    split
    · exact (h.children c hc).release
    · exact h.children c hc

theorem Placed.releaseRows (h : s.Placed) (kind : Kind) (rows : List Row) :
    (exec (releaseRows kind rows) s).2.Placed := by
  induction rows generalizing s with
  | nil => exact h
  | cons r rows ih =>
    simp only [releaseRows, List.forIn_cons, exec_bind, setWorker, exec_modify, exec_pure]
    exact ih (h.setWorker_none kind r.id)

/-- The dispatcher hands out a task only while it is free and ready, so the task stays placed. -/
theorem Placed.assign (hl : s.Linked) (h : s.Placed) (kind : Kind) (id : TaskId) (w : WorkerId) :
    (exec (assign kind id w) s).2.Placed := by
  simp only [Store.assign, exec_bind, exec_get]
  split
  · exact h
  · split
    · rename_i r hr
      split
      · -- the row found is the task's own, free and ready
        rename_i hready
        obtain ⟨hrm, hrid⟩ : r ∈ s.rows kind ∧ r.id = id :=
          ⟨List.mem_of_find?_eq_some hr, by simpa using List.find?_some hr⟩
        have hr' : kind.isReady r.status = true := (Bool.and_eq_true_iff.1 hready).2
        cases kind with
        | parent =>
          obtain ⟨p₀, hp₀, rfl⟩ := List.mem_map.1 hrm
          refine h.mapParents fun p hp => ?_
          split
          · rename_i hpid
            have hpp : p = p₀ := hl.eq_of_find?_parent (hl.find?_parent hp₀) hp ((beq_iff_eq.1 hpid).trans hrid.symm)
            subst hpp
            exact Kind.placed_of_isReady hr'
          · exact h.parents p hp
        | child =>
          obtain ⟨c₀, hc₀, rfl⟩ := List.mem_map.1 hrm
          refine h.mapChildren fun c hc => ?_
          split
          · rename_i hcid
            have hcc : c = c₀ := hl.eq_of_find?_child (hl.find?_child hc₀) hc ((beq_iff_eq.1 hcid).trans hrid.symm)
            subst hcc
            exact Kind.placed_of_isReady hr'
          · exact h.children c hc
      · exact h
    · exact h

/-- A call that writes no task only reads, changes the workers, releases tasks, or hands out a task that is
free and ready: every task stays placed. -/
theorem Placed.call (hl : s.Linked) (h : s.Placed) (c : Call) (hc : c.writesTasks = false) :
    (exec c.run s).2.Placed := by
  have hsame : ∀ {s'}, s' = s → s'.Placed := fun he => he ▸ h
  cases c <;> simp only [Call.writesTasks, Bool.true_eq_false] at hc <;> simp only [Call.run]
  case getTop id => exact hsame (by rw [exec_discard_state, exec_top_state])
  case getParent id => exact hsame (by rw [exec_discard_state, exec_parent_state])
  case getChild id => exact hsame (by rw [exec_discard_state, exec_child_state])
  case listTops => exact hsame (by rw [exec_discard_state]; simp [Store.listTops, exec_map])
  case parentsOf id =>
    refine hsame ?_
    rw [exec_discard_state]
    cases hf : Table.find? s.tops id <;>
      simp [Store.parentsOf, exec_bind, exec_map, exec_top_of_find, exec_top_of_none, hf]
  case childrenOf id =>
    refine hsame ?_
    rw [exec_discard_state]
    cases hf : Table.find? s.parents id <;>
      simp [Store.childrenOf, exec_bind, exec_map, exec_parent_of_find, exec_parent_of_none, hf]
  case contains => exact hsame (by rw [exec_discard_state]; simp [Store.contains, exec_map])
  case statusCounts => exact hsame (by rw [exec_discard_state]; simp [Store.statusCounts, exec_map])
  case isCancelRequested id =>
    refine hsame ?_
    rw [exec_discard_state]
    simp only [Store.isCancelRequested, exec_bind, exec_get]
    split <;> rfl
  case listWorkers => exact hsame (by rw [exec_discard_state]; simp [Store.listWorkers, exec_map])
  case backlogs => exact hsame (by rw [exec_discard_state]; simp [Store.backlogs, exec_map])
  case readyIds => exact hsame (by rw [exec_discard_state]; simp [Store.readyIds, exec_map])
  case assignedTo => exact hsame (by rw [exec_discard_state]; simp [Store.assignedTo, exec_map])
  case registerWorker => exact ⟨h.parents, h.children⟩
  case heartbeat =>
    simp only [Store.heartbeat, exec_modify]
    split <;> exact ⟨h.parents, h.children⟩
  case evictStale =>
    rw [exec_discard_state]
    simp only [Store.evictStale, exec_bind, exec_get, exec_set]
    exact ⟨h.parents, h.children⟩
  case deregisterWorker w =>
    simp only [Store.deregisterWorker, exec_bind, exec_modify, releaseWorker, exec_get, exec_set, exec_pure]
    exact Placed.release (s := { s with workers := Table.erase s.workers w }) ⟨h.parents, h.children⟩ _ _
  case clearOrphans kind =>
    rw [exec_discard_state]
    simp only [Store.clearOrphans, exec_bind, exec_get]
    generalize List.filter _ (s.rows kind) = rows
    have hr := h.releaseRows kind rows
    obtain ⟨s', he, -⟩ := exec_releaseRows kind rows s
    simp only [Store.releaseRows] at he hr
    simp only [he, exec_pure]
    rw [he] at hr
    exact hr
  case assign kind id w =>
    rw [exec_discard_state]
    exact h.assign hl kind id w

/-- Handing tasks out or taking them back moves no status, byte count or list of children. -/
theorem Carried.of_reassigned (h : s.Carried P) (hr : Reassigned s s') : s'.Carried P := by
  obtain ⟨f, hf⟩ := hr.parents
  obtain ⟨g, hg⟩ := hr.find?_children
  have hrec : ∀ pid, s'.childRecords pid = (s.childRecords pid).map fun c => { c with worker := g c } := by
    intro pid
    simp only [childRecords, childIds, hr.childLists, hg, ← List.map_filterMap]
  intro q hq hs hP
  rw [hf] at hq
  obtain ⟨p, hp, rfl⟩ := List.mem_map.1 hq
  unfold Carries
  rw [hrec, List.map_map]
  rcases h p hp hs hP with ⟨c, hc, hn⟩ | ⟨e, he⟩
  · exact Or.inl ⟨_, List.mem_map_of_mem hc, hn⟩
  · exact Or.inr ⟨e, he⟩

theorem Flowing.of_sameRecords (h : s.Flowing P) (hs : SameRecords s s') (hl : s.Linked) : s'.Flowing P := by
  have hrec : ∀ pid, s'.childRecords pid = s.childRecords pid := fun pid => by
    simp only [childRecords, hs.childIds, hs.find?_children hl]
  exact ⟨⟨fun p hp => h.placed.parents p ((hs.parents p).1 hp), fun c hc => h.placed.children c ((hs.children c).1 hc)⟩,
    fun p hp hst hP => (h.carried p ((hs.parents p).1 hp) hst hP).of_childRecords (hrec p.id)⟩

/-! ## Every step of a run -/

/-- Every call keeps every task placed and every parent in progress carried, whatever its outcome. -/
theorem Flowing.call (hl : s.Linked) (h : s.Flowing none) (c : Call) (ha : c.Admitted s) :
    (exec c.run s).2.Flowing none := by
  cases hw : c.writesTasks
  · exact ⟨h.placed.call hl c hw, h.carried.of_reassigned (c.keepsTasks hw s).1⟩
  cases c <;> simp only [Call.writesTasks, Bool.false_eq_true] at hw <;> simp only [Call.run]
  case createTransfer t ps =>
    rw [exec_discard_state]
    rcases exec_createTransfer (s := s) t ps with he | ⟨-, -, he⟩
    · rw [he]
      exact h
    · rw [he]
      exact h.createTransfer hl ha
  case requestCancel id now => rw [exec_discard_state]; exact h.requestCancel hl id now
  case beginStaging => rw [exec_discard_state]; exact h.beginStaging
  case recordParentRetry => rw [exec_discard_state]; exact h.recordParentRetry
  case commitStaging => rw [exec_discard_state]; exact h.commitStaging hl _
  case startParent => rw [exec_discard_state]; exact h.startParent hl
  case finishParent => rw [exec_discard_state]; exact h.finishParent hl _ _
  case beginChildAttempt => rw [exec_discard_state]; exact h.beginChildAttempt hl
  case recordProgress => exact h.recordProgress hl _
  case finishChild => rw [exec_discard_state]; exact h.finishChild hl _ _ _

end Store

/-- Every reachable store keeps every task placed and every parent in progress carried. -/
theorem Reachable.flowing {s : Store} (h : Reachable s) : s.Flowing none := by
  induction h with
  | empty => exact ⟨⟨fun _ h => (by cases h), fun _ h => (by cases h)⟩, fun _ h => (by cases h)⟩
  | call c hr ha ih => exact ih.call hr.linked c ha
  | draw _ ih =>
    rw [Store.exec_freshId]
    exact ih.of_tasks rfl rfl rfl
  | restore now hr ih => exact ih.of_sameRecords (hr.linked.sameRecords_restore now) hr.linked

/-- In every reachable store, a parent or child that has not ended can move on: a worker holds it, or it is
free in a status the dispatcher hands out, or it is a parent in progress with a child that has not ended, or
a parent in progress whose children have all ended with more bytes than a 64-bit word holds, where its
roll-up stops. -/
theorem Reachable.unfinished_task_moves_on {s : Store} (h : Reachable s) :
    (∀ p ∈ s.parents, p.status.isTerminal = false →
      p.worker.isSome ∨ (p.worker = none ∧ Kind.parent.isReady p.status = true) ∨
      (p.status = .inProgress ∧ ∃ c ∈ s.childRecords p.id, c.status.isTerminal = false) ∨
      (p.status = .inProgress ∧ (∀ c ∈ s.childRecords p.id, c.status.isTerminal = true) ∧
        Word.max64 < ((s.childRecords p.id).map (·.bytes)).foldl (· + ·) 0)) ∧
    ∀ c ∈ s.children, c.status.isTerminal = false →
      c.worker.isSome ∨ (c.worker = none ∧ Kind.child.isReady c.status = true) := by
  have hf := h.flowing
  have hl := h.linked
  refine ⟨fun p hp hn => ?_, fun c hc hn => ?_⟩
  · cases hw : p.worker with
    | some w => exact Or.inl rfl
    | none =>
      by_cases hs : p.status = .inProgress
      · -- a parent in progress is carried by its children
        by_cases hc : ∃ c ∈ s.childRecords p.id, c.status.isTerminal = false
        · exact Or.inr (Or.inr (Or.inl ⟨hs, hc⟩))
        · rcases hf.carried p hp hs (by simp) with hc' | ⟨e, he⟩
          · exact absurd hc' hc
          · refine Or.inr (Or.inr (Or.inr ⟨hs, fun c hc' => ?_, Word.lt_foldl_of_sum_error he⟩))
            cases ht : c.status.isTerminal
            · exact absurd ⟨c, hc', ht⟩ hc
            · rfl
      · -- any other status of a parent that has not ended, and is not paused, is handed out
        have hpl := (hf.placed.parents p hp).1
        refine Or.inr (Or.inl ⟨rfl, ?_⟩)
        revert hn hs hpl
        cases p.status <;> decide
  · cases hw : c.worker with
    | some w => exact Or.inl rfl
    | none =>
      have hpl := (hf.placed.children c hc).1
      have hst := hl.child_status (hl.find?_child hc)
      refine Or.inr ⟨rfl, ?_⟩
      revert hn hpl hst
      cases c.status <;> decide

set_option maxRecDepth 1000 in
/-- A parent whose two children end with `2 ^ 64 - 1` and `1` bytes stays in progress, held by no worker, with
no child left to end: its roll-up stops on the overflow after the last child's end is written. -/
theorem overflowing_parent_stays_in_progress :
    let t₀ : Top := Top.fresh ⟨⟨1⟩⟩ "ta" "alice" none 0
    let p₀ : Parent := Parent.fresh ⟨⟨2⟩⟩ t₀ "mem://src/in" "mem://dst/out" false 1
    let w : WorkerId := ⟨⟨3⟩⟩
    let c₀ : TaskId := ⟨Uuid.spawned 0⟩
    let c₁ : TaskId := ⟨Uuid.spawned 1⟩
    let s := [Call.registerWorker ⟨w, "h1", 0, 0⟩, .assign .parent p₀.id w, .beginStaging p₀.id w 2,
      .commitStaging p₀.id w [⟨"/src/a", "/dst/a", 1⟩, ⟨"/src/b", "/dst/b", 1⟩] 3, .startParent p₀.id w 4,
      .assign .child c₀ w, .beginChildAttempt c₀ w 5, .finishChild c₀ w .completed Word.max64 none 6,
      .assign .child c₁ w, .beginChildAttempt c₁ w 7, .finishChild c₁ w .completed 1 none 8].foldl
        (fun s c => (Store.exec c.run s).2) (Store.exec (Call.createTransfer t₀ [p₀]).run {}).2
    Reachable s ∧ ∃ p ∈ s.parents, p.status = .inProgress ∧ p.worker = none ∧
      (∀ c ∈ s.childRecords p.id, c.status.isTerminal = true) ∧
      Word.max64 < ((s.childRecords p.id).map (·.bytes)).foldl (· + ·) 0 := by
  intro t₀ p₀ w c₀ c₁ s
  have hadm : ({} : Store).Admits t₀ [p₀] :=
    Store.admits_empty ⟨_, _, _, _, rfl⟩ (fun p hp => by rw [List.mem_singleton.1 hp]; exact ⟨_, _, _, _, rfl⟩)
      (by decide) (by decide)
  have hr : Reachable s := Reachable.foldl_calls (.call (.createTransfer t₀ [p₀]) .empty hadm) fun c hc _ => by
    simp only [List.mem_cons, List.not_mem_nil, or_false] at hc
    rcases hc with rfl | rfl | rfl | rfl | rfl | rfl | rfl | rfl | rfl | rfl | rfl <;> trivial
  obtain ⟨p, hp, hs, hw, hall⟩ : ∃ p ∈ s.parents, p.status = .inProgress ∧ p.worker = none ∧
      ∀ c ∈ s.childRecords p.id, c.status.isTerminal = true := by
    decide
  refine ⟨hr, p, hp, hs, hw, hall, ?_⟩
  rcases (Reachable.unfinished_task_moves_on hr).1 p hp (by rw [hs]; rfl) with hh | ⟨-, hready⟩ | ⟨-, c, hc, hn⟩ |
      ⟨-, -, hover⟩
  · rw [hw] at hh
    cases hh
  · rw [hs] at hready
    cases hready
  · rw [hall c hc] at hn
    cases hn
  · exact hover

/-- In every reachable store a worker holds only tasks that have not ended, and never a parent in progress:
such a parent is carried by its children, not by a worker. -/
theorem Reachable.held_tasks_unfinished {s : Store} (h : Reachable s) :
    (∀ p ∈ s.parents, p.worker.isSome = true → p.status.isTerminal = false) ∧
    (∀ c ∈ s.children, c.worker.isSome = true → c.status.isTerminal = false) ∧
    ∀ p ∈ s.parents, p.status = .inProgress → p.worker = none := by
  have hpl := h.flowing.placed
  refine ⟨fun p hp hw => ?_, fun c hc hw => ?_, fun p hp hs => ?_⟩
  · obtain ⟨w, hw⟩ := Option.isSome_iff_exists.1 hw
    exact Kind.Placed.not_isTerminal (hw ▸ hpl.parents p hp)
  · obtain ⟨w, hw⟩ := Option.isSome_iff_exists.1 hw
    exact Kind.Placed.not_isTerminal (hw ▸ hpl.children c hc)
  · exact Kind.Placed.eq_none_of_inProgress (hs ▸ hpl.parents p hp)

/-- A parent handed to a worker and staging is held by it; it has not ended and is not in progress. -/
theorem staging_parent_held_unfinished :
    let t₀ : Top := Top.fresh ⟨⟨1⟩⟩ "ta" "alice" none 0
    let w : WorkerId := ⟨⟨3⟩⟩
    let s := [Call.registerWorker ⟨w, "h1", 0, 0⟩, .assign .parent ⟨⟨2⟩⟩ w, .beginStaging ⟨⟨2⟩⟩ w 2].foldl
      (fun s c => (Store.exec c.run s).2)
      (Store.exec (Call.createTransfer t₀ [Parent.fresh ⟨⟨2⟩⟩ t₀ "mem://src/a" "mem://dst/a" false 1]).run {}).2
    Reachable s ∧ ∃ p ∈ s.parents, p.worker = some w ∧ p.status.isTerminal = false ∧ p.status ≠ .inProgress := by
  intro t₀ w s
  have hadm : ({} : Store).Admits t₀ [Parent.fresh ⟨⟨2⟩⟩ t₀ "mem://src/a" "mem://dst/a" false 1] :=
    Store.admits_empty ⟨_, _, _, _, rfl⟩ (fun p hp => by rw [List.mem_singleton.1 hp]; exact ⟨_, _, _, _, rfl⟩)
      (by decide) (by decide)
  have hr : Reachable s := Reachable.foldl_calls (.call (.createTransfer _ _) .empty hadm) fun c hc _ => by
    simp only [List.mem_cons, List.not_mem_nil, or_false] at hc
    rcases hc with rfl | rfl | rfl <;> trivial
  obtain ⟨p, hp, hw⟩ : ∃ p ∈ s.parents, p.worker = some w := by decide
  obtain ⟨hheld, -, hfree⟩ := Reachable.held_tasks_unfinished hr
  refine ⟨hr, p, hp, hw, hheld p hp (by rw [hw]; rfl), fun hs => ?_⟩
  rw [hfree p hp hs] at hw
  cases hw

end Conveyor
