import Conveyor.Proofs.Service.Cycle

/-!
# What a cycle adds to a worker's backlog

A worker's backlog of a kind is the count of unfinished tasks of the kind it holds (`Store.backlogOf`, what
`Store.backlogs` reports for every registered worker). A cycle cuts its batch into consecutive runs of
`⌈|batch| / |needy|⌉` tasks and hands them to the needy workers, least loaded first.

* `HandsOut.backlogOf_one`: handing free tasks to one worker adds them to its backlog and to no other's.
* `exec_assignAll_tally`: assigning a plan adds to each worker's backlog the tasks of the runs the plan gives
  it (`tally`).
* `tally_distribute_le`: `distribute` gives a worker at most `⌈|batch| / |workers|⌉` tasks for each time the
  workers name it.
* `backlogOf_clearOrphans`: the sweep that opens a cycle leaves the backlog of every registered worker.
* `Service.runCycle_backlog_le`: after a cycle a worker holds at most its backlog from before plus
  `⌈|batch| / |needy|⌉` for each time the needy workers name it. A worker at or past the threshold gains
  nothing; a needy one is handed a whole run whatever its own deficit, and may end past the threshold.
* `Service.topped_up_worker_passes_threshold`: with a threshold of three and backlogs of none and two, the
  batch of four splits two and two (`tally_zip_eq`), and the second worker ends at four.
-/

namespace Conveyor

/-- The tasks a plan hands to worker `u`: those of the runs it gives `u`. -/
def tally (u : WorkerId) : List (WorkerId × List TaskId) → Nat
  | [] => 0
  | (v, ids) :: plan => (if u = v then ids.length else 0) + tally u plan

/-! ## The runs of a batch -/

section Runs

variable {α : Type}

/-- A run of `chunks n` holds at most `n` elements. -/
theorem length_le_of_mem_chunks_go {n : Nat} : ∀ (fuel : Nat) (xs : List α) {c : List α},
    c ∈ chunks.go n fuel xs → c.length ≤ n
  | 0, _, _, h => by simp [chunks.go] at h
  | _ + 1, [], _, h => by simp [chunks.go] at h
  | fuel + 1, x :: xs, c, h => by
    simp only [chunks.go, List.mem_cons] at h
    rcases h with rfl | h
    · exact List.length_take_le _ _
    · exact length_le_of_mem_chunks_go fuel _ h

/-- Workers zipped with runs of at most `n` tasks get at most `n` for each time they are named. -/
theorem tally_zip_le {n : Nat} (u : WorkerId) : ∀ (ws : List WorkerId) (cs : List (List TaskId)),
    (∀ c ∈ cs, c.length ≤ n) → tally u (ws.zip cs) ≤ ws.count u * n
  | [], _, _ => Nat.zero_le _
  | _ :: _, [], _ => Nat.zero_le _
  | v :: ws, c :: cs, h => by
    have ih := tally_zip_le u ws cs fun c' hc' => h c' (List.mem_cons_of_mem _ hc')
    have hc := h c List.mem_cons_self
    rw [List.zip_cons_cons, tally, List.count_cons]
    by_cases huv : u = v
    · subst huv
      simp only [if_true, beq_self_eq_true, Nat.add_mul, Nat.one_mul]
      omega
    · have hvu : (v == u) = false := beq_false_of_ne (Ne.symm huv)
      simp only [huv, if_false, hvu, Bool.false_eq_true, Nat.zero_add, Nat.add_zero]
      exact ih

/-- Workers zipped with runs of exactly `n` tasks, a run for each of them, get `n` for each time they are
named. -/
theorem tally_zip_eq {n : Nat} (u : WorkerId) : ∀ (ws : List WorkerId) (cs : List (List TaskId)),
    ws.length ≤ cs.length → (∀ c ∈ cs, c.length = n) → tally u (ws.zip cs) = ws.count u * n
  | [], _, _, _ => by simp [tally]
  | _ :: _, [], h, _ => absurd h (by simp)
  | v :: ws, c :: cs, hl, h => by
    have ih := tally_zip_eq u ws cs (by simpa using hl) fun c' hc' => h c' (List.mem_cons_of_mem _ hc')
    rw [List.zip_cons_cons, tally, ih, h c List.mem_cons_self, List.count_cons]
    by_cases huv : u = v
    · subst huv
      simp only [if_true, beq_self_eq_true, Nat.add_mul, Nat.one_mul]
      omega
    · have hvu : (v == u) = false := beq_false_of_ne (Ne.symm huv)
      simp [huv, hvu]

/-- `distribute` gives a worker at most `⌈|batch| / |workers|⌉` tasks for each time the workers name it. -/
theorem tally_distribute_le (batch : List TaskId) (workers : List WorkerId) (u : WorkerId) :
    tally u (distribute batch workers) ≤
      workers.count u * ((batch.length + workers.length - 1) / workers.length) := by
  unfold distribute
  split
  · exact Nat.zero_le _
  · exact tally_zip_le u workers _ fun c hc => length_le_of_mem_chunks_go _ _ hc

end Runs

/-! ## Backlogs -/

theorem handOut_cons (owner : TaskId → Option WorkerId) (r : Row) (rows : List Row) :
    handOut owner (r :: rows) =
      (match owner r.id with
        | some v => { r with worker := some v }
        | none => r) :: handOut owner rows := rfl

/-- Handing rows that no worker holds and that have not ended to worker `v` adds them to the rows `v` holds
unfinished, and to those of no other worker. -/
theorem length_filter_handOut {rows : List Row} {ids : List TaskId} {v u : WorkerId}
    (hfree : ∀ r ∈ rows, r.id ∈ ids → r.worker = none ∧ r.status.isTerminal = false) :
    ((handOut (fun id => if id ∈ ids then some v else none) rows).filter
        fun r => r.worker == some u && !r.status.isTerminal).length =
      (rows.filter fun r => r.worker == some u && !r.status.isTerminal).length +
        if u = v then (rows.filter (·.id ∈ ids)).length else 0 := by
  induction rows with
  | nil => simp [handOut]
  | cons r rows ih =>
    have ih := ih fun r' hr' => hfree r' (List.mem_cons_of_mem _ hr')
    simp only [← List.countP_eq_length_filter] at ih ⊢
    rw [handOut_cons, List.countP_cons, List.countP_cons, List.countP_cons, ih]
    by_cases hr : r.id ∈ ids
    · obtain ⟨hw, ht⟩ := hfree r List.mem_cons_self hr
      by_cases huv : u = v
      · subst huv
        simp [hr, hw, ht]
        omega
      · simp [hr, hw, ht, huv, Ne.symm huv]
    · simp only [hr, if_false]
      exact Nat.add_right_comm _ _ _

namespace Store

variable {s : Store} {kind : Kind}

/-- The unfinished tasks of a kind that worker `u` holds: the count `backlogs` reports for it. -/
def backlogOf (s : Store) (kind : Kind) (u : WorkerId) : Nat :=
  ((s.rows kind).filter fun r => r.worker == some u && !r.status.isTerminal).length

/-- Distinct ids, each the id of one of the rows, are as many as the rows that carry one of them. -/
theorem length_filter_mem_ids {ids : List TaskId} (hnd : ids.Nodup) (hrows : ((s.rows kind).map (·.id)).Nodup)
    (hfree : ∀ id ∈ ids, s.Free kind id) : ((s.rows kind).filter (·.id ∈ ids)).length = ids.length := by
  have hperm : (((s.rows kind).filter (·.id ∈ ids)).map (·.id)).Perm ids := by
    refine (List.perm_ext_iff_of_nodup ((List.filter_sublist.map _).nodup hrows) hnd).2 fun id => ?_
    simp only [List.mem_map, List.mem_filter, decide_eq_true_eq]
    constructor
    · rintro ⟨r, ⟨-, hid⟩, rfl⟩
      exact hid
    · intro hid
      obtain ⟨r, hr, rfl, -⟩ := hfree id hid
      exact ⟨r, ⟨hr, hid⟩, rfl⟩
  rw [← hperm.length_eq, List.length_map]

/-- Handing free tasks to one worker adds them to its backlog, and to no other's. -/
theorem HandsOut.backlogOf_one {s' : Store} {ids : List TaskId} {v : WorkerId} (h : s.HandsOut kind ids [v] s')
    (hnd : ids.Nodup) (hrows : ((s.rows kind).map (·.id)).Nodup) (hfree : ∀ id ∈ ids, s.Free kind id)
    (u : WorkerId) : s'.backlogOf kind u = s.backlogOf kind u + if u = v then ids.length else 0 := by
  obtain ⟨-, -, o, hs, hw, hr⟩ := h
  have ho : o = fun id => if id ∈ ids then some v else none := by
    funext id
    cases hoid : o id with
    | none => rw [if_neg fun hid => by simpa [hoid] using (hs id).2 hid]
    | some x => rw [if_pos ((hs id).1 (by simp [hoid])), List.eq_of_mem_singleton (hw id x hoid)]
  have hrow : ∀ r ∈ s.rows kind, r.id ∈ ids → r.worker = none ∧ r.status.isTerminal = false := by
    intro r hr hid
    obtain ⟨r', hr', hid', hn, hready⟩ := hfree r.id hid
    obtain rfl := List.inj_on_of_nodup_map hrows hr' hr hid'
    exact ⟨hn, (Kind.placed_of_isReady (w := some v) hready).not_isTerminal⟩
  unfold backlogOf
  rw [hr, ho, length_filter_handOut hrow, length_filter_mem_ids hnd hrows hfree]

/-- The orphan sweep leaves the backlog of a registered worker: the tasks it releases are held by workers that
are not registered. -/
theorem backlogOf_clearOrphans (hrows : ((s.rows kind).map (·.id)).Nodup) {u : WorkerId}
    (hu : Table.has s.workers u = true) : (exec (clearOrphans kind) s).2.backlogOf kind u = s.backlogOf kind u := by
  unfold backlogOf
  rw [exec_clearOrphans, rows_releaseRows, List.filter_map, List.length_map]
  congr 1
  refine List.filter_congr fun r hr => ?_
  simp only [Function.comp_apply]
  split
  · -- a released row shares its id with an orphan, so it is that orphan
    rename_i hany
    obtain ⟨o, ho, hid⟩ := List.any_eq_true.1 hany
    obtain ⟨ho, hheld⟩ := List.mem_filter.1 ho
    obtain rfl := List.inj_on_of_nodup_map hrows ho hr (by simpa using hid)
    cases hw : o.worker with
    | none => simp [hw] at hheld
    | some x =>
      have hx : x ≠ u := by
        rintro rfl
        simp [hw, hu] at hheld
      simp [hx]
  · rfl

end Store

namespace Service

variable {kind : Kind} {w w₁ : Service}

/-- Handing out a plan of runs, where each run hands its tasks to its worker, adds to each worker's backlog the
tasks of the runs the plan gives it, and keeps the registered workers. -/
theorem exec_foldlM_tally {f : Nat → WorkerId × List TaskId → ServiceM Nat} (hf : RunsHandOut kind f) :
    ∀ (plan : List (WorkerId × List TaskId)) (n : Nat) (w : Service),
      (∀ p ∈ plan, Table.has w.store.workers p.1 = true) → ((plan.map (·.2)).flatten).Nodup →
      ((w.store.rows kind).map (·.id)).Nodup → (∀ id ∈ (plan.map (·.2)).flatten, w.store.Free kind id) →
      ∃ w', exec (plan.foldlM f n) w = (.ok (n + ((plan.map (·.2)).flatten).length), w') ∧
        w'.store.workers = w.store.workers ∧
        ∀ u, w'.store.backlogOf kind u = w.store.backlogOf kind u + tally u plan
  | [], n, w, _, _, _, _ => ⟨w, rfl, rfl, fun _ => rfl⟩
  | p :: plan, n, w, hw, hnd, hrows, hfree => by
    obtain ⟨w₁, hexec, h₁, hnd₁, hfree₁, hw₁, hnd₂, hrows₁, hfree₂⟩ := hf.cons hw hnd hrows hfree
    obtain ⟨w', hexec', hwk, htally⟩ := exec_foldlM_tally hf plan (n + p.2.length) w₁ hw₁ hnd₂ hrows₁ hfree₂
    refine ⟨w', ?_, hwk.trans h₁.workers_eq, fun u => ?_⟩
    · rw [hexec, hexec']
      simp only [List.map_cons, List.flatten_cons, List.length_append, Nat.add_assoc]
    · -- the first run adds to its worker's backlog, the rest of the plan to each worker's its tally
      obtain ⟨v, ids⟩ := p
      rw [htally u, h₁.backlogOf_one hnd₁ hrows hfree₁ u, tally, Nat.add_assoc]

/-- Assigning a plan whose runs go to registered workers and hold free tasks, each once, adds to each worker's
backlog the tasks of the runs the plan gives it. -/
theorem exec_assignAll_tally (plan : List (WorkerId × List TaskId))
    (hw : ∀ p ∈ plan, Table.has w.store.workers p.1 = true) (hnd : ((plan.map (·.2)).flatten).Nodup)
    (hrows : ((w.store.rows kind).map (·.id)).Nodup) (hfree : ∀ id ∈ (plan.map (·.2)).flatten, w.store.Free kind id) :
    ∃ w', exec (assignAll kind plan) w = (.ok ((plan.map (·.2)).flatten).length, w') ∧
      w'.store.workers = w.store.workers ∧ ∀ u, w'.store.backlogOf kind u = w.store.backlogOf kind u + tally u plan := by
  rw [← Nat.zero_add ((plan.map (·.2)).flatten).length]
  exact exec_foldlM_tally runsHandOut_assignAll plan 0 w hw hnd hrows hfree

/-- A hand-out that ended well added to each worker's backlog the tasks of the runs of the fair batch it gave
that worker. -/
theorem exec_handOutBatch_tally {maxReady limit : Nat} {workers : List WorkerId} {f : Nat → CycleReport}
    {report : CycleReport}
    (h : exec (do
      let ready ← atNow fun _ => Store.readyIds kind maxReady
      let assigned ← assignAll kind (distribute (fairInterleave ready limit) workers)
      pure (f assigned)) w = (.ok report, w₁))
    (hl : w.store.Linked) (hw : workers ≠ []) (hreg : ∀ v ∈ workers, Table.has w.store.workers v = true) :
    ∃ ready, Store.exec (Store.readyIds kind maxReady) w.store = (.ok ready, w.store) ∧
      w₁.store.workers = w.store.workers ∧
      ∀ u, w₁.store.backlogOf kind u =
        w.store.backlogOf kind u + tally u (distribute (fairInterleave ready limit) workers) := by
  obtain ⟨ready, hready, hfree, hready_nd⟩ := Store.exec_readyIds w.store kind maxReady
  have hrows := hl.rows_ids_nodup kind
  let w₂ : Service := { w with now := w.now + 1 }
  have hflat := distribute_flatten (fairInterleave ready limit) hw
  obtain ⟨w₃, h₃, hwk, htally⟩ := exec_assignAll_tally (w := w₂) (distribute (fairInterleave ready limit) workers)
    (fun p hp => hreg p.1 (mem_distribute hp))
    (by rw [hflat]; exact fairInterleave_nodup (hready_nd hrows) limit) hrows
    (fun id hid => by rw [hflat] at hid; exact hfree id (mem_of_mem_fairInterleave hid))
  have h₂ : exec (atNow fun _ => Store.readyIds kind maxReady) w = (.ok ready, w₂) := by
    rw [exec_atNow, hready]
  simp only [exec_bind, h₂, h₃, exec_pure] at h
  obtain ⟨-, rfl⟩ := Prod.mk.inj h
  exact ⟨ready, hready, hwk, htally⟩

/-- One cycle from a reachable store, with no other call between its steps, that ends well: it keeps the workers
the sweep left, and adds to each worker's backlog in the swept store the tasks of the runs it gives that worker,
the fair batch of the ready tasks handed to the needy workers in some order. -/
theorem runCycle_tally {w w' : Service} {report : CycleReport} (hr : Reachable w.store)
    (hrun : exec (runCycle kind) w = (.ok report, w')) :
    let cut := w.now - Stamp.ofMillis (Int.ofNat w.dispatch.heartbeatTimeout)
    let s := (Store.exec (Store.clearOrphans kind) (Store.exec (Store.evictStale cut) w.store).2).2
    ∃ backlogs ready, Store.exec (Store.backlogs kind) s = (.ok backlogs, s) ∧
      Store.exec (Store.readyIds kind w.dispatch.maxReadyRows) s = (.ok ready, s) ∧
      let needy := backlogs.filter (·.2 < w.dispatch.backlogThreshold)
      let limit := min w.dispatch.maxBatch ((needy.map fun b => w.dispatch.backlogThreshold - b.2).foldl (· + ·) 0)
      ∃ order : List WorkerId, order.Perm (needy.map (·.1)) ∧ w'.store.workers = s.workers ∧
        ∀ u, w'.store.backlogOf kind u = s.backlogOf kind u + tally u (distribute (fairInterleave ready limit) order) := by
  intro cut s
  have hreach : Reachable s := reachable_swept hr cut kind
  obtain ⟨bs, hbs⟩ : ∃ bs, Store.exec (Store.backlogs kind) s = (.ok bs, s) := ⟨_, Store.exec_backlogs s kind⟩
  obtain ⟨ready, hready, -, -⟩ := Store.exec_readyIds s kind w.dispatch.maxReadyRows
  unfold runCycle at hrun
  obtain ⟨c, w₁, hc, -⟩ := exec_bind_eq_ok _ hrun
  rw [exec_sweep hc] at hrun
  obtain ⟨rfl, rfl⟩ := exec_cutoff_ok hc
  obtain ⟨r₄, w₄, hi, -⟩ := exec_bind_eq_ok _ hrun
  obtain ⟨-, hs₄, hd₄⟩ := intake_ok hi
  change w₄.store = s at hs₄
  rw [exec_reads hi (hs₄ ▸ hbs)] at hrun
  dsimp only at hrun hd₄
  rw [hd₄] at hrun
  generalize hsorted : (bs.filter (·.2 < w.dispatch.backlogThreshold)).mergeSort
    (fun a b => a.2 < b.2 || (a.2 == b.2 && a.1.uuid.value ≤ b.1.uuid.value)) = sorted at hrun
  set needy := bs.filter (·.2 < w.dispatch.backlogThreshold) with hneedy
  have hperm : List.Perm sorted needy := hsorted ▸ List.mergeSort_perm _ _
  refine ⟨bs, ready, hbs, hready, sorted.map (·.1), hperm.map _, ?_⟩
  split at hrun
  · -- no needy worker: nothing is handed out
    rename_i hempty
    cases hrun
    rw [List.isEmpty_iff.1 hempty]
    exact ⟨congrArg Store.workers hs₄, fun u => by simp [hs₄, distribute, tally]⟩
  · rename_i hne
    split at hrun
    · -- the deficit is the needy workers' total, in any order
      rename_i n hsum
      have hdef : n = (needy.map fun b => w.dispatch.backlogThreshold - b.2).foldl (· + ·) 0 :=
        (Word.eq_foldl_of_sum_ok hsum).trans (foldl_add_perm (hperm.map _))
      subst hdef
      rw [pure_bind] at hrun
      obtain ⟨ready', hready', hwk, htally⟩ := exec_handOutBatch_tally hrun (hs₄ ▸ hreach.linked)
        (by simpa using hne) fun v hv => by
          obtain ⟨b, hb, rfl⟩ := List.mem_map.1 ((hperm.map _).subset hv)
          exact hs₄ ▸ Store.has_of_mem_backlogs s hbs (List.mem_filter.1 hb).1
      rw [hs₄, hready] at hready'
      obtain ⟨⟨⟩, -⟩ := Prod.mk.inj hready'
      rw [hs₄] at hwk htally
      exact ⟨hwk, htally⟩
    · obtain ⟨n', w₇, h₇, hrun⟩ := exec_bind_eq_ok _ hrun
      cases h₇

/-- **What a cycle adds to a backlog.** One cycle from a reachable store, with no other call between its steps,
that ends well: every worker registered after it holds at most its backlog from before the cycle plus
`⌈|batch| / |needy|⌉` unfinished tasks of the kind for each time the needy workers name it. A worker at or past
the threshold gains nothing; but the run a needy worker is handed ignores its own deficit, so it may end past
the threshold. -/
theorem runCycle_backlog_le {w w' : Service} {report : CycleReport} (hr : Reachable w.store)
    (hrun : exec (runCycle kind) w = (.ok report, w')) :
    let cut := w.now - Stamp.ofMillis (Int.ofNat w.dispatch.heartbeatTimeout)
    let s := (Store.exec (Store.clearOrphans kind) (Store.exec (Store.evictStale cut) w.store).2).2
    ∃ backlogs ready, Store.exec (Store.backlogs kind) s = (.ok backlogs, s) ∧
      Store.exec (Store.readyIds kind w.dispatch.maxReadyRows) s = (.ok ready, s) ∧
      let needy := backlogs.filter (·.2 < w.dispatch.backlogThreshold)
      let limit := min w.dispatch.maxBatch ((needy.map fun b => w.dispatch.backlogThreshold - b.2).foldl (· + ·) 0)
      let batch := fairInterleave ready limit
      ∀ u, Table.has w'.store.workers u = true →
        w'.store.backlogOf kind u ≤
          w.store.backlogOf kind u + (needy.map (·.1)).count u * ((batch.length + needy.length - 1) / needy.length) := by
  intro cut s
  obtain ⟨bs, ready, hbs, hready, order, hperm, hwk, htally⟩ := runCycle_tally hr hrun
  refine ⟨bs, ready, hbs, hready, fun u hu => ?_⟩
  let s₁ := (Store.exec (Store.evictStale cut) w.store).2
  have hl₁ : s₁.Linked := by
    have h₁ := Reachable.call (Call.evictStale cut) hr trivial
    simpa only [Call.run, Store.exec_discard_state] using h₁.linked
  have hu₁ : Table.has s₁.workers u = true := by
    rw [hwk, Store.workers_clearOrphans] at hu
    exact hu
  have hsweep : s.backlogOf kind u = w.store.backlogOf kind u :=
    Store.backlogOf_clearOrphans (hl₁.rows_ids_nodup kind) hu₁
  have hbound := tally_distribute_le (fairInterleave ready
    (min w.dispatch.maxBatch (((bs.filter (·.2 < w.dispatch.backlogThreshold)).map
      fun b => w.dispatch.backlogThreshold - b.2).foldl (· + ·) 0))) order u
  rw [hperm.count_eq, hperm.length_eq, List.length_map] at hbound
  rw [htally u, hsweep]
  exact Nat.add_le_add_left hbound _

/-- One transfer of six ready parents, two of them held by the second of two live workers: a reachable store. -/
theorem reachable_twoHeldOfSix :
    let t₀ : Top := Top.fresh ⟨⟨1⟩⟩ "ta" "alice" none 0
    let ps : List Parent := [2, 3, 4, 5, 6, 7].map fun n => Parent.fresh ⟨⟨n⟩⟩ t₀ "mem://src/a" "mem://dst/a" false 0
    Reachable ([Call.registerWorker ⟨⟨⟨8⟩⟩, "h1", 0, 2000000000⟩, .registerWorker ⟨⟨⟨9⟩⟩, "h2", 0, 2000000000⟩,
      .assign .parent ⟨⟨2⟩⟩ ⟨⟨9⟩⟩, .assign .parent ⟨⟨3⟩⟩ ⟨⟨9⟩⟩].foldl (fun s c => (Store.exec c.run s).2)
        (Store.exec (Call.createTransfer t₀ ps).run {}).2) := by
  intro t₀ ps
  have hadm : ({} : Store).Admits t₀ ps :=
    Store.admits_empty ⟨_, _, _, _, rfl⟩
      (fun p hp => by
        obtain ⟨n, -, rfl⟩ := List.mem_map.1 hp
        exact ⟨_, _, _, _, rfl⟩)
      (by decide) (by decide)
  have h₀ : Reachable (Store.exec (Call.createTransfer t₀ ps).run {}).2 := .call (.createTransfer t₀ ps) .empty hadm
  exact Reachable.foldl_calls h₀ fun c hc _ => by
    simp only [List.mem_cons, List.not_mem_nil, or_false] at hc
    rcases hc with rfl | rfl | rfl | rfl <;> trivial

/-- A cycle on a node where one of two live workers already holds two of six ready parents, with a threshold of
three: the cycle ends well, and what each worker holds after it is bounded as `runCycle_backlog_le` says. -/
theorem needy_workers_cycle_bounded :
    let t₀ : Top := Top.fresh ⟨⟨1⟩⟩ "ta" "alice" none 0
    let ps : List Parent := [2, 3, 4, 5, 6, 7].map fun n => Parent.fresh ⟨⟨n⟩⟩ t₀ "mem://src/a" "mem://dst/a" false 0
    let v₁ : WorkerId := ⟨⟨8⟩⟩
    let v₂ : WorkerId := ⟨⟨9⟩⟩
    let w : Service :=
      { store := [Call.registerWorker ⟨v₁, "h1", 0, 2000000000⟩, .registerWorker ⟨v₂, "h2", 0, 2000000000⟩,
          .assign .parent ⟨⟨2⟩⟩ v₂, .assign .parent ⟨⟨3⟩⟩ v₂].foldl (fun s c => (Store.exec c.run s).2)
            (Store.exec (Call.createTransfer t₀ ps).run {}).2
        worker := ⟨⟨3, 100, 1000, 2.0⟩, 4096, 100, 8, 100⟩
        dispatch := ⟨1000, 3, 10, 10, 10⟩
        now := 2000000000 }
    Reachable w.store ∧ ∃ report w', exec (runCycle .parent) w = (.ok report, w') ∧
      let cut := w.now - Stamp.ofMillis (Int.ofNat w.dispatch.heartbeatTimeout)
      let s := (Store.exec (Store.clearOrphans .parent) (Store.exec (Store.evictStale cut) w.store).2).2
      ∃ backlogs ready, Store.exec (Store.backlogs .parent) s = (.ok backlogs, s) ∧
        Store.exec (Store.readyIds .parent w.dispatch.maxReadyRows) s = (.ok ready, s) ∧
        let needy := backlogs.filter (·.2 < w.dispatch.backlogThreshold)
        let limit := min w.dispatch.maxBatch ((needy.map fun b => w.dispatch.backlogThreshold - b.2).foldl (· + ·) 0)
        let batch := fairInterleave ready limit
        ∀ u, Table.has w'.store.workers u = true →
          w'.store.backlogOf .parent u ≤
            w.store.backlogOf .parent u + (needy.map (·.1)).count u * ((batch.length + needy.length - 1) / needy.length) := by
  intro t₀ ps v₁ v₂ w
  have hr : Reachable w.store := by
    simp only [w]
    exact reachable_twoHeldOfSix
  obtain ⟨report, w', hrun⟩ := runCycle_ends_well .parent hr (by decide) (by decide) (by decide +kernel)
  exact ⟨hr, report, w', hrun, runCycle_backlog_le hr hrun⟩

/-- A needy worker is topped up past the threshold: with a threshold of three, the first of two live workers
holding nothing and the second two of six ready parents, the cycle's batch of four is cut into two runs of two,
and the second worker ends holding four, more than both its two before the cycle and the threshold. -/
theorem topped_up_worker_passes_threshold :
    let t₀ : Top := Top.fresh ⟨⟨1⟩⟩ "ta" "alice" none 0
    let ps : List Parent := [2, 3, 4, 5, 6, 7].map fun n => Parent.fresh ⟨⟨n⟩⟩ t₀ "mem://src/a" "mem://dst/a" false 0
    let v₁ : WorkerId := ⟨⟨8⟩⟩
    let v₂ : WorkerId := ⟨⟨9⟩⟩
    let w : Service :=
      { store := [Call.registerWorker ⟨v₁, "h1", 0, 2000000000⟩, .registerWorker ⟨v₂, "h2", 0, 2000000000⟩,
          .assign .parent ⟨⟨2⟩⟩ v₂, .assign .parent ⟨⟨3⟩⟩ v₂].foldl (fun s c => (Store.exec c.run s).2)
            (Store.exec (Call.createTransfer t₀ ps).run {}).2
        worker := ⟨⟨3, 100, 1000, 2.0⟩, 4096, 100, 8, 100⟩
        dispatch := ⟨1000, 3, 10, 10, 10⟩
        now := 2000000000 }
    Reachable w.store ∧ w.store.backlogOf .parent v₂ = 2 ∧
      ∃ report w', exec (runCycle .parent) w = (.ok report, w') ∧ Table.has w'.store.workers v₂ = true ∧
        w'.store.backlogOf .parent v₂ = 4 := by
  intro t₀ ps v₁ v₂ w
  have hr : Reachable w.store := by
    simp only [w]
    exact reachable_twoHeldOfSix
  refine ⟨hr, by decide +kernel, ?_⟩
  obtain ⟨report, w', hrun⟩ := runCycle_ends_well .parent hr (by decide) (by decide) (by decide +kernel)
  obtain ⟨bs, ready, hbs, hready, order, hperm, hwk, htally⟩ := runCycle_tally hr hrun
  have hbs' : (Store.exec (Store.backlogs .parent) (Store.exec (Store.clearOrphans .parent) (Store.exec
      (Store.evictStale (w.now - Stamp.ofMillis (Int.ofNat w.dispatch.heartbeatTimeout))) w.store).2).2).1 =
        .ok [(v₁, 0), (v₂, 2)] := by
    decide +kernel
  rw [hbs] at hbs'
  obtain ⟨⟩ := hbs'
  have hready' : (Store.exec (Store.readyIds .parent w.dispatch.maxReadyRows) (Store.exec
      (Store.clearOrphans .parent) (Store.exec (Store.evictStale
        (w.now - Stamp.ofMillis (Int.ofNat w.dispatch.heartbeatTimeout))) w.store).2).2).1 =
          .ok [("ta", ⟨⟨4⟩⟩), ("ta", ⟨⟨5⟩⟩), ("ta", ⟨⟨6⟩⟩), ("ta", ⟨⟨7⟩⟩)] := by
    rw [Store.exec_readyIds_of_aged _ _ _ (by decide +kernel)]
    decide +kernel
  rw [hready] at hready'
  obtain ⟨⟩ := hready'
  refine ⟨report, w', hrun, by rw [hwk]; decide +kernel, ?_⟩
  have hlen : order.length = 2 := by rw [hperm.length_eq]; rfl
  have hdist : distribute (fairInterleave [("ta", (⟨⟨4⟩⟩ : TaskId)), ("ta", ⟨⟨5⟩⟩), ("ta", ⟨⟨6⟩⟩), ("ta", ⟨⟨7⟩⟩)] 4)
      order = order.zip [[⟨⟨4⟩⟩, ⟨⟨5⟩⟩], [⟨⟨6⟩⟩, ⟨⟨7⟩⟩]] := by
    have hne : order.isEmpty = false := by cases order <;> simp_all
    simp only [distribute, hne, hlen]
    rfl
  have hcount : order.count v₂ = 1 := by rw [hperm.count_eq]; decide
  have hswept : (Store.exec (Store.clearOrphans .parent) (Store.exec (Store.evictStale
      (w.now - Stamp.ofMillis (Int.ofNat w.dispatch.heartbeatTimeout))) w.store).2).2.backlogOf .parent v₂ = 2 := by
    decide +kernel
  have hlimit : min w.dispatch.maxBatch (List.foldl (· + ·) 0 ((([(v₁, 0), (v₂, 2)] : List (WorkerId × Nat)).filter
      (·.2 < w.dispatch.backlogThreshold)).map fun b => w.dispatch.backlogThreshold - b.2)) = 4 := rfl
  rw [htally v₂, hswept, hlimit, hdist, tally_zip_eq (n := 2) v₂ order _ (by simp [hlen]) (by decide), hcount]

end Service

end Conveyor
