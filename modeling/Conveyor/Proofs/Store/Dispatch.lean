import Conveyor.Proofs.Store.Integrity
import Mathlib.Data.List.Perm.Subperm

/-!
# Handing tasks out

What the dispatcher's calls do to the rows of a kind of task:

* `handOut owner rows`: the rows with each id that `owner` names handed to that worker; an
  assignment hands out one id (`rows_setWorker_some`), and two hand-outs are one
  (`handOut_handOut`);
* `held_clearOrphans`: after the orphan sweep, every row of the kind that is held is held by a
  registered worker;
* `exec_readyIds`: the ready ids are ids of unassigned, ready rows, each once when the rows' ids are
  distinct;
* `exec_assign_of_free`: assigning such a task to a registered worker succeeds and hands it out.
-/

namespace Conveyor

/-- The rows with each id that `owner` names handed to that worker, and the others as they were. -/
def handOut (owner : TaskId → Option WorkerId) (rows : List Row) : List Row :=
  rows.map fun r => match owner r.id with
    | some v => { r with worker := some v }
    | none => r

section HandOut

variable (owner : TaskId → Option WorkerId) (rows : List Row)

@[simp] theorem ids_handOut : (handOut owner rows).map (·.id) = rows.map (·.id) := by
  simp only [handOut, List.map_map]
  refine List.map_congr_left fun r _ => ?_
  cases h : owner r.id <;> simp [h]

@[simp] theorem handOut_none : handOut (fun _ => none) rows = rows := by
  simp [handOut]

/-- Handing out twice is handing out once, the second hand winning. -/
theorem handOut_handOut (owner' : TaskId → Option WorkerId) :
    handOut owner' (handOut owner rows) = handOut (fun id => (owner' id).or (owner id)) rows := by
  simp only [handOut, List.map_map]
  refine List.map_congr_left fun r _ => ?_
  cases h : owner r.id <;> cases h' : owner' r.id <;> simp [h, h']

variable {owner rows}

/-- A row after a hand-out was handed to its owner, or is a row from before that had none. -/
theorem mem_handOut {r : Row} (h : r ∈ handOut owner rows) :
    (∃ v, owner r.id = some v ∧ r.worker = some v) ∨ (owner r.id = none ∧ r ∈ rows) := by
  obtain ⟨r₀, hr₀, rfl⟩ := List.mem_map.1 h
  cases ho : owner r₀.id with
  | some v => exact .inl ⟨v, by simp [ho], by simp⟩
  | none => exact .inr ⟨by simp [ho], by simpa [ho]⟩

theorem mem_handOut_of_none {r : Row} (h : r ∈ rows) (ho : owner r.id = none) : r ∈ handOut owner rows :=
  List.mem_map.2 ⟨r, h, by simp [ho]⟩

end HandOut

namespace Store

/-- The task of the kind under the id is unassigned and in a status the dispatcher hands out. -/
def Free (s : Store) (kind : Kind) (id : TaskId) : Prop :=
  ∃ r ∈ s.rows kind, r.id = id ∧ r.worker = none ∧ kind.isReady r.status = true

variable (s : Store)

/-! ## Setting and releasing workers -/

theorem workers_setWorker (kind : Kind) (id : TaskId) (w : Option WorkerId) :
    (exec (setWorker kind id w) s).2.workers = s.workers := by
  cases kind <;> rfl

theorem rows_setWorker (kind : Kind) (id : TaskId) (w : Option WorkerId) :
    (exec (setWorker kind id w) s).2.rows kind =
      (s.rows kind).map fun r => if r.id = id then { r with worker := w } else r := by
  cases kind <;>
  · simp only [setWorker, exec_modify, rows, List.map_map]
    refine List.map_congr_left fun x _ => ?_
    by_cases h : x.id = id <;> simp [h]

/-- An assignment hands one id out. -/
theorem rows_setWorker_some (kind : Kind) (id : TaskId) (v : WorkerId) :
    (exec (setWorker kind id (some v)) s).2.rows kind =
      handOut (fun x => if x = id then some v else none) (s.rows kind) := by
  rw [rows_setWorker, handOut]
  refine List.map_congr_left fun r _ => ?_
  by_cases h : r.id = id <;> simp [h]

theorem exec_releaseRows_cons (kind : Kind) (r : Row) (rs : List Row) :
    exec (releaseRows kind (r :: rs)) s = exec (releaseRows kind rs) (exec (setWorker kind r.id none) s).2 := by
  simp only [releaseRows, List.forIn_cons, exec_bind, setWorker, exec_modify, exec_pure]

theorem workers_releaseRows (kind : Kind) (rs : List Row) :
    (exec (releaseRows kind rs) s).2.workers = s.workers := by
  induction rs generalizing s with
  | nil => rfl
  | cons r rs ih => rw [exec_releaseRows_cons, ih, workers_setWorker]

/-- Releasing rows releases every row that shares an id with one of them. -/
theorem rows_releaseRows (kind : Kind) (rs : List Row) :
    (exec (releaseRows kind rs) s).2.rows kind =
      (s.rows kind).map fun r => if rs.any (·.id == r.id) then { r with worker := none } else r := by
  induction rs generalizing s with
  | nil => simp [releaseRows]
  | cons r₀ rs ih =>
    rw [exec_releaseRows_cons, ih, rows_setWorker, List.map_map]
    refine List.map_congr_left fun r _ => ?_
    by_cases h₀ : r.id = r₀.id
    · -- the row of the id released first stays released
      have h₀' : (r₀.id == r.id) = true := by simp [h₀]
      simp only [Function.comp_apply, if_pos h₀, List.any_cons, h₀', Bool.true_or, if_true]
      split <;> rfl
    · have h₀' : (r₀.id == r.id) = false := by simpa using Ne.symm h₀
      simp only [Function.comp_apply, if_neg h₀, List.any_cons, h₀', Bool.false_or]

theorem exec_evictStale (cutoff : Stamp) :
    exec (evictStale cutoff) s = (.ok ((s.workers.filter fun w => !w.isLive cutoff).map (·.id)),
      { s with workers := s.workers.filter (·.isLive cutoff) }) := rfl

theorem workers_evictStale (cutoff : Stamp) :
    (exec (evictStale cutoff) s).2.workers = s.workers.filter (·.isLive cutoff) := rfl

/-- The rows of a kind held by workers that are not registered. -/
def orphans (kind : Kind) : List Row :=
  (s.rows kind).filter fun r => match r.worker with
    | some w => !Table.has s.workers w
    | none => false

theorem exec_clearOrphans (kind : Kind) :
    exec (clearOrphans kind) s = (.ok (s.orphans kind).length, (exec (releaseRows kind (s.orphans kind)) s).2) := by
  obtain ⟨s', he, -⟩ := exec_releaseRows kind (s.orphans kind) s
  unfold clearOrphans
  rw [exec_bind, exec_get]
  show exec (releaseRows kind (s.orphans kind) >>= fun _ => pure (s.orphans kind).length) s = _
  rw [exec_bind, he]
  rfl

theorem workers_clearOrphans (kind : Kind) : (exec (clearOrphans kind) s).2.workers = s.workers := by
  rw [exec_clearOrphans, workers_releaseRows]

/-- After the orphan sweep, a task of the kind that is held is held by a registered worker. -/
theorem held_clearOrphans (kind : Kind) :
    ∀ r ∈ (exec (clearOrphans kind) s).2.rows kind, ∀ v, r.worker = some v →
      Table.has (exec (clearOrphans kind) s).2.workers v = true := by
  rw [workers_clearOrphans, exec_clearOrphans, rows_releaseRows]
  intro r hr v hv
  obtain ⟨r₀, hr₀, rfl⟩ := List.mem_map.1 hr
  by_cases hany : (s.orphans kind).any (·.id == r₀.id) = true
  · simp [hany] at hv
  · -- a row left as it was is no orphan: its worker is registered
    simp only [hany, Bool.false_eq_true, if_false] at hv
    have hno : r₀ ∉ s.orphans kind := fun hm => hany (List.any_eq_true.2 ⟨r₀, hm, by simp⟩)
    simpa [orphans, hr₀, hv] using hno

/-! ## Reading the backlogs and the ready tasks -/

theorem exec_backlogs (kind : Kind) :
    exec (backlogs kind) s = (.ok (s.workers.map fun w =>
      (w.id, ((s.rows kind).filter fun r => r.worker == some w.id && !r.status.isTerminal).length)), s) := rfl

theorem has_of_mem_backlogs {kind : Kind} {b : WorkerId × Nat} {bs : List (WorkerId × Nat)}
    (h : exec (backlogs kind) s = (.ok bs, s)) (hb : b ∈ bs) : Table.has s.workers b.1 = true := by
  rw [exec_backlogs] at h
  cases h
  obtain ⟨x, hx, rfl⟩ := List.mem_map.1 hb
  exact Table.has_iff.2 ⟨x, hx, rfl⟩

/-- A fold that keeps or drops each row keeps a sublist of them. -/
theorem foldl_fst_sublist {σ : Type} (f : List Row × σ → Row → List Row × σ)
    (hf : ∀ acc r, (f acc r).1 = acc.1 ++ [r] ∨ (f acc r).1 = acc.1) (rows : List Row) (σ₀ : σ) :
    List.Sublist (rows.foldl f ([], σ₀)).1 rows := by
  suffices h : ∀ (rows : List Row) (acc : List Row × σ), ∃ l, List.Sublist l rows ∧ (rows.foldl f acc).1 = acc.1 ++ l by
    obtain ⟨l, hl, he⟩ := h rows ([], σ₀)
    rw [he]
    exact hl
  intro rows
  induction rows with
  | nil => exact fun acc => ⟨[], List.Sublist.slnil, by simp⟩
  | cons r rows ih =>
    intro acc
    obtain ⟨l, hl, he⟩ := ih (f acc r)
    rcases hf acc r with hk | hd
    · exact ⟨r :: l, hl.cons_cons r, by rw [List.foldl_cons, he, hk]; simp⟩
    · exact ⟨l, hl.cons r, by rw [List.foldl_cons, he, hd]⟩

theorem perTenant_sublist (limit : Nat) (rows : List Row) : List.Sublist (perTenant limit rows) rows := by
  unfold perTenant
  apply foldl_fst_sublist
  intro acc r
  dsimp only
  split
  · exact .inl rfl
  · exact .inr rfl

/-- The ready ids are ids of unassigned, ready rows of the kind, each once when the rows' ids are
distinct; reading them changes nothing. -/
theorem exec_readyIds (kind : Kind) (limit : Nat) :
    ∃ ready, exec (readyIds kind limit) s = (.ok ready, s) ∧
      (∀ id ∈ ready.map (·.2), s.Free kind id) ∧
      (((s.rows kind).map (·.id)).Nodup → (ready.map (·.2)).Nodup) := by
  let free := (s.rows kind).filter fun r => r.worker.isNone && kind.isReady r.status
  have hperm : List.Perm (byAge free) free := List.mergeSort_perm _ _
  have hsub : List.Subperm (perTenant limit (byAge free)) free :=
    (perTenant_sublist limit _).subperm.trans hperm.subperm
  have hids : (((perTenant limit (byAge free)).map fun r => (r.tenant, r.id)).map (·.2)) =
      (perTenant limit (byAge free)).map (·.id) := by
    simp [List.map_map, Function.comp_def]
  refine ⟨(perTenant limit (byAge free)).map fun r => (r.tenant, r.id), rfl, ?_, ?_⟩
  · intro id hid
    rw [hids] at hid
    obtain ⟨r, hr, rfl⟩ := List.mem_map.1 hid
    obtain ⟨hrs, hfree⟩ := List.mem_filter.1 (hsub.subset hr)
    simp only [Bool.and_eq_true, Option.isNone_iff_eq_none] at hfree
    exact ⟨r, hrs, rfl, hfree⟩
  · intro hnd
    rw [hids]
    exact ((perTenant_sublist limit _).map (·.id)).nodup
      ((hperm.map (·.id)).nodup_iff.2 ((List.filter_sublist.map _).nodup hnd))

/-- When the free rows already stand oldest first, the ready ids are the first rows of each tenant in that
order: the sort by age keeps them as they are. -/
theorem exec_readyIds_of_aged (kind : Kind) (limit : Nat)
    (h : ((s.rows kind).filter fun r => r.worker.isNone && kind.isReady r.status).Pairwise fun a b =>
      (a.created < b.created || (a.created == b.created && a.id.uuid.value ≤ b.id.uuid.value)) = true) :
    exec (readyIds kind limit) s = (.ok ((perTenant limit ((s.rows kind).filter fun r =>
      r.worker.isNone && kind.isReady r.status)).map fun r => (r.tenant, r.id)), s) := by
  show (Except.ok ((perTenant limit (byAge _)).map fun r => (r.tenant, r.id)), s) = _
  rw [byAge, List.mergeSort_of_pairwise h]

/-! ## Assigning -/

variable {s}

/-- Assigning an unassigned, ready task to a registered worker succeeds and hands the task out. -/
theorem exec_assign_of_free {kind : Kind} {id : TaskId} {v : WorkerId} (hv : Table.has s.workers v = true)
    (hnd : ((s.rows kind).map (·.id)).Nodup)
    (hfree : s.Free kind id) :
    exec (assign kind id v) s = (.ok true, (exec (setWorker kind id (some v)) s).2) := by
  obtain ⟨r, hr, rfl, hnone, hready⟩ := hfree
  have hfind : (s.rows kind).find? (·.id == r.id) = some r := by
    have hsome : ((s.rows kind).find? (·.id == r.id)).isSome := List.find?_isSome.2 ⟨r, hr, by simp⟩
    obtain ⟨r', hr'⟩ := Option.isSome_iff_exists.1 hsome
    have hid : r'.id = r.id := by simpa using List.find?_some hr'
    rw [hr', List.inj_on_of_nodup_map hnd (List.mem_of_find?_eq_some hr') hr hid]
  simp only [assign, exec_bind, exec_get, hv, Bool.not_true, Bool.false_eq_true, if_false, hfind, hnone,
    Option.isNone_none, hready, Bool.and_self, if_true, exec_pure]
  rfl

/-! ## Handing out a batch -/

/-- `s'` is `s` with the tasks of `ids`, of the kind, handed out to some of `workers`: nothing but which
worker holds a task changes, the registered workers stay, and the rows of the kind are those of `s`
with exactly the ids of `ids` handed out. -/
structure HandsOut (s : Store) (kind : Kind) (ids : List TaskId) (workers : List WorkerId) (s' : Store) : Prop where
  reassigned : Reassigned s s'
  workers_eq : s'.workers = s.workers
  rows : ∃ owner : TaskId → Option WorkerId, (∀ id, (owner id).isSome ↔ id ∈ ids) ∧
    (∀ id v, owner id = some v → v ∈ workers) ∧ s'.rows kind = handOut owner (s.rows kind)

namespace HandsOut

variable {s s₁ s₂ : Store} {kind : Kind} {ids ids₂ : List TaskId} {workers : List WorkerId}

theorem nil (s : Store) (kind : Kind) (workers : List WorkerId) : s.HandsOut kind [] workers s :=
  ⟨.refl s, rfl, fun _ => none, by simp, by simp, by simp⟩

/-- An assignment hands out one task. -/
theorem setWorker (s : Store) (kind : Kind) (id : TaskId) (v : WorkerId) :
    s.HandsOut kind [id] [v] (exec (setWorker kind id (some v)) s).2 := by
  refine ⟨reassigned_setWorker s kind id (some v), workers_setWorker s kind id (some v),
    fun x => if x = id then some v else none, fun x => ?_, fun x u hu => ?_, rows_setWorker_some s kind id v⟩
  · by_cases h : x = id <;> simp [h]
  · by_cases h : x = id <;> simp_all

/-- Two hand-outs in turn are one, of the ids of both. -/
theorem append (h₁ : s.HandsOut kind ids workers s₁) (h₂ : s₁.HandsOut kind ids₂ workers s₂) :
    s.HandsOut kind (ids ++ ids₂) workers s₂ := by
  obtain ⟨re₁, we₁, o₁, hs₁, hw₁, hr₁⟩ := h₁
  obtain ⟨re₂, we₂, o₂, hs₂, hw₂, hr₂⟩ := h₂
  refine ⟨re₁.trans re₂, we₂.trans we₁, fun id => (o₂ id).or (o₁ id), fun id => ?_, fun id v hv => ?_, ?_⟩
  · rw [List.mem_append, ← hs₁, ← hs₂, Option.isSome_or, Bool.or_eq_true]
    exact or_comm
  · cases h : o₂ id with
    | some u => simp only [h, Option.some_or, Option.some.injEq] at hv; exact hw₂ id v (hv ▸ h)
    | none => simp only [h, Option.none_or] at hv; exact hw₁ id v hv
  · rw [hr₂, hr₁, handOut_handOut]

theorem mono {workers' : List WorkerId} (h : s.HandsOut kind ids workers s₁) (hw : ∀ v ∈ workers, v ∈ workers') :
    s.HandsOut kind ids workers' s₁ := by
  obtain ⟨re, we, o, hs, hwk, hr⟩ := h
  exact ⟨re, we, o, hs, fun id v hv => hw v (hwk id v hv), hr⟩

theorem rows_ids (h : s.HandsOut kind ids workers s₁) : (s₁.rows kind).map (·.id) = (s.rows kind).map (·.id) := by
  obtain ⟨-, -, o, -, -, hr⟩ := h
  rw [hr, ids_handOut]

/-- A free task that is not handed out stays free. -/
theorem free {id : TaskId} (h : s.HandsOut kind ids workers s₁) (hid : id ∉ ids) (hf : s.Free kind id) :
    s₁.Free kind id := by
  obtain ⟨-, -, o, hs, -, hr⟩ := h
  obtain ⟨r, hr₀, rfl, hn, hready⟩ := hf
  have ho : o r.id = none := Option.not_isSome_iff_eq_none.1 fun hsome => hid ((hs r.id).1 hsome)
  exact ⟨r, hr ▸ mem_handOut_of_none hr₀ ho, rfl, hn, hready⟩

/-- Handing tasks out to registered workers, after a sweep that left no task held by an unregistered
worker, leaves none either. -/
theorem held (h : s.HandsOut kind ids workers s₁) (hw : ∀ v ∈ workers, Table.has s.workers v = true)
    (hheld : ∀ r ∈ s.rows kind, ∀ v, r.worker = some v → Table.has s.workers v = true) :
    ∀ r ∈ s₁.rows kind, ∀ v, r.worker = some v → Table.has s₁.workers v = true := by
  obtain ⟨-, we, o, -, hwk, hr⟩ := h
  intro r hr₁ v hv
  rw [we]
  rw [hr] at hr₁
  rcases mem_handOut hr₁ with ⟨u, ho, hu⟩ | ⟨-, hr₀⟩
  · rw [hv, Option.some.injEq] at hu
    exact hu ▸ hw u (hwk r.id u ho)
  · exact hheld r hr₀ v hv

end HandsOut

end Store

/-- A reachable store holds each task of a kind under its own id. -/
theorem Store.Linked.rows_ids_nodup {s : Store} (hl : s.Linked) (kind : Kind) :
    ((s.rows kind).map (·.id)).Nodup := by
  have h := hl.ids_nodup
  simp only [Store.taskIds, List.nodup_append] at h
  cases kind with
  | parent =>
    simpa [Store.rows, List.map_map, Function.comp_def] using h.1.2.1
  | child =>
    simpa [Store.rows, List.map_map, Function.comp_def] using h.2.1

end Conveyor
