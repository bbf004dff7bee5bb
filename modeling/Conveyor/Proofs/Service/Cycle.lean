import Conveyor.Service.Dispatch
import Conveyor.Proofs.Schedule.Batches
import Conveyor.Proofs.Store.Bytes
import Conveyor.Proofs.Store.Dispatch

/-!
# One dispatcher cycle

A cycle run on its own, with no other call between its steps, from a node whose store is reachable.
-/

namespace Conveyor

namespace Service

/-- Run a node operation from a node: its outcome, and the node it leaves. -/
def exec {α : Type} (m : ServiceM α) (w : Service) : Except Failure α × Service := m.run.run w

section Exec

variable {α β : Type} (w : Service)

@[simp] theorem exec_pure (a : α) : exec (pure a : ServiceM α) w = (.ok a, w) := rfl

/-- The second operation runs from the node the first leaves, unless the first failed. -/
theorem exec_bind (m : ServiceM α) (f : α → ServiceM β) :
    exec (m >>= f) w = match exec m w with
      | (.ok a, w') => exec (f a) w'
      | (.error e, w') => (.error e, w') := by
  show (ExceptT.bind m f).run.run w = _
  simp only [exec, ExceptT.bind, ExceptT.run, ExceptT.mk, StateT.run, bind, StateT.bind, ExceptT.bindCont]
  rcases m w with ⟨r, w'⟩
  cases r <;> rfl

/-- An operation that ends well ran its first part well. -/
theorem exec_bind_eq_ok {m : ServiceM α} {f : α → ServiceM β} {b : β} {w' : Service}
    (h : exec (m >>= f) w = (.ok b, w')) : ∃ a w₁, exec m w = (.ok a, w₁) ∧ exec (f a) w₁ = (.ok b, w') := by
  rw [exec_bind] at h
  rcases hm : exec m w with ⟨r, w₁⟩
  rw [hm] at h
  cases r with
  | ok a => exact ⟨a, w₁, rfl, h⟩
  | error e => cases h

@[simp] theorem exec_get : exec (get : ServiceM Service) w = (.ok w, w) := rfl

@[simp] theorem exec_set (w' : Service) : exec (set w' : ServiceM PUnit) w = (.ok ⟨⟩, w') := rfl

@[simp] theorem exec_throw (e : Failure) : exec (throw e : ServiceM α) w = (.error e, w) := rfl

theorem exec_tick : exec tick w = (.ok w.now, { w with now := w.now + 1 }) := rfl

theorem exec_liftStore (m : StoreM α) :
    exec (liftStore m) w = ((Store.exec m w.store).1, { w with store := (Store.exec m w.store).2 }) := rfl

/-- A store operation that only reads leaves the node as it was. -/
theorem exec_liftStore_of_read {m : StoreM α} {a : α} (h : Store.exec m w.store = (.ok a, w.store)) :
    exec (liftStore m) w = (.ok a, w) := by
  rw [exec_liftStore, h]

theorem exec_atNow (f : Stamp → StoreM α) :
    exec (atNow f) w = ((Store.exec (f w.now) w.store).1,
      { w with now := w.now + 1, store := (Store.exec (f w.now) w.store).2 }) := rfl

end Exec

/-! ## The steps of a cycle -/

variable {w w₁ : Service}

/-- A cutoff that is computed is the node's time less the heartbeat timeout, and it moves the clock on. -/
theorem exec_cutoff_ok {c : Stamp} (h : exec cutoff w = (.ok c, w₁)) :
    c = w.now - Stamp.ofMillis (Int.ofNat w.dispatch.heartbeatTimeout) ∧ w₁ = { w with now := w.now + 1 } := by
  simp only [cutoff, exec_bind, exec_get] at h
  split at h
  · cases h
  · simp only [exec_bind, exec_tick] at h
    split at h
    · cases h
    · cases h
      exact ⟨rfl, rfl⟩

/-- A timeout the calendar converts, and a cutoff at or after its earliest instant, give the cutoff. -/
theorem exec_cutoff_of_le (ht : w.dispatch.heartbeatTimeout ≤ w.calendar.longestSpan)
    (hc : w.calendar.earliest ≤ w.now - Stamp.ofMillis (Int.ofNat w.dispatch.heartbeatTimeout)) :
    exec cutoff w = (.ok (w.now - Stamp.ofMillis (Int.ofNat w.dispatch.heartbeatTimeout)), { w with now := w.now + 1 }) := by
  have ht' : ¬ w.dispatch.heartbeatTimeout > w.calendar.longestSpan := Nat.not_lt.2 ht
  have hc' : ¬ w.now - Stamp.ofMillis (Int.ofNat w.dispatch.heartbeatTimeout) < w.calendar.earliest := Int.not_lt.2 hc
  simp only [cutoff, exec_bind, exec_get, ht', if_false, exec_tick]
  simp only [Int.ofNat_eq_natCast] at hc'
  simp only [hc', if_false, exec_pure]
  rfl

/-- Taking deliveries off a queue changes only the queues, and counts no assignment. -/
theorem exec_intake (kind : Kind) (report : CycleReport) (w : Service) :
    ∃ r qs, exec (intake kind report) w = (.ok r, { w with queues := qs }) ∧ r.assigned = report.assigned := by
  unfold intake
  rw [exec_bind, exec_get]
  dsimp only
  rcases (w.queues.get kind).consume w.dispatch.prefetch with ⟨ds, q⟩
  simp only [exec_bind, exec_set]
  generalize w.queues.set kind q = qs₀
  induction ds generalizing report qs₀ with
  | nil => exact ⟨report, qs₀, rfl, rfl⟩
  | cons d ds ih =>
    have hread : ∀ s : Store, Store.exec (Store.contains kind d.id) s = (.ok ((s.rows kind).any (·.id == d.id)), s) :=
      fun _ => rfl
    by_cases hk : (w.store.rows kind).any (fun x => x.id == d.id) = true
    · simp only [List.foldlM_cons, exec_bind, exec_liftStore, hread, exec_get, hk, if_true, exec_set, exec_pure]
      exact ih _ _
    · simp only [List.foldlM_cons, exec_bind, exec_liftStore, hread, exec_get, hk, Bool.false_eq_true, if_false,
        exec_set, exec_pure]
      exact ih _ _

/-- An intake that ended well counted no assignment, and left the store and the settings. -/
theorem intake_ok {kind : Kind} {report r : CycleReport} (h : exec (intake kind report) w = (.ok r, w₁)) :
    r.assigned = report.assigned ∧ w₁.store = w.store ∧ w₁.dispatch = w.dispatch := by
  obtain ⟨r', qs, h', ha⟩ := exec_intake kind report w
  rw [h'] at h
  obtain ⟨hr, rfl⟩ := Prod.mk.inj h
  cases hr
  exact ⟨ha, rfl, rfl⟩

/-! ## Handing a batch out -/

section Assign

variable {kind : Kind}

/-- Assigning a free task to a registered worker hands it out, and moves the clock on. -/
theorem exec_assignOne {id : TaskId} {v : WorkerId} (hv : Table.has w.store.workers v = true)
    (hnd : ((w.store.rows kind).map (·.id)).Nodup) (hfree : w.store.Free kind id) :
    exec (atNow fun _ => Store.assign kind id v) w =
      (.ok true, { w with now := w.now + 1, store := (Store.exec (Store.setWorker kind id (some v)) w.store).2 }) := by
  rw [exec_atNow, Store.exec_assign_of_free hv hnd hfree]

/-- Assigning free tasks, each once, to a registered worker hands them all out to it. -/
theorem exec_assignIds (v : WorkerId) : ∀ (ids : List TaskId) (n : Nat) (w : Service),
    Table.has w.store.workers v = true → ids.Nodup → ((w.store.rows kind).map (·.id)).Nodup →
    (∀ id ∈ ids, w.store.Free kind id) →
    ∃ w', exec (ids.foldlM (fun n id => do
        if ← atNow fun _ => Store.assign kind id v then return n + 1 else return n) n) w =
        (.ok (n + ids.length), w') ∧ w.store.HandsOut kind ids [v] w'.store
  | [], n, w, _, _, _, _ => ⟨w, rfl, .nil w.store kind [v]⟩
  | id :: ids, n, w, hv, hnd, hrows, hfree => by
    obtain ⟨hid, hnd⟩ := List.nodup_cons.1 hnd
    have h₁ := Store.HandsOut.setWorker w.store kind id v
    obtain ⟨w', hexec, hout⟩ := exec_assignIds v ids (n + 1)
      { w with now := w.now + 1, store := (Store.exec (Store.setWorker kind id (some v)) w.store).2 }
      (h₁.workers_eq ▸ hv) hnd (h₁.rows_ids ▸ hrows)
      fun id' hid' => h₁.free (by simpa using ne_of_mem_of_not_mem hid' hid)
        (hfree id' (List.mem_cons_of_mem _ hid'))
    refine ⟨w', ?_, h₁.append hout⟩
    have hcount : n + 1 + ids.length = n + (id :: ids).length := by simp only [List.length_cons]; omega
    simp only [List.foldlM_cons, exec_bind, exec_assignOne hv hrows (hfree id List.mem_cons_self), if_true,
      exec_pure]
    rw [hexec, hcount]

/-- What a plan's step `f` does with one run: from a node where the run's worker is registered and its tasks are
distinct and free, it hands them all to that worker and counts them. -/
def RunsHandOut (kind : Kind) (f : Nat → WorkerId × List TaskId → ServiceM Nat) : Prop :=
  ∀ n (p : WorkerId × List TaskId) (w : Service), Table.has w.store.workers p.1 = true → p.2.Nodup →
    ((w.store.rows kind).map (·.id)).Nodup → (∀ id ∈ p.2, w.store.Free kind id) →
    ∃ w', exec (f n p) w = (.ok (n + p.2.length), w') ∧ w.store.HandsOut kind p.2 [p.1] w'.store

/-- The step of `assignAll` hands each run to its worker. -/
theorem runsHandOut_assignAll : RunsHandOut kind fun n (p : WorkerId × List TaskId) =>
    p.2.foldlM (fun n id => do
      if ← atNow fun _ => Store.assign kind id p.1 then return n + 1 else return n) n := by
  intro n p w hv hnd hrows hfree
  exact exec_assignIds p.1 p.2 n w hv hnd hrows hfree

/-- The first run of a plan hands its tasks to its worker. The rest of the plan then runs from a node where the
later runs' workers are still registered, and their tasks still distinct and free. -/
theorem RunsHandOut.cons {f : Nat → WorkerId × List TaskId → ServiceM Nat} (hf : RunsHandOut kind f)
    {p : WorkerId × List TaskId} {plan : List (WorkerId × List TaskId)} {n : Nat}
    (hw : ∀ q ∈ p :: plan, Table.has w.store.workers q.1 = true) (hnd : (((p :: plan).map (·.2)).flatten).Nodup)
    (hrows : ((w.store.rows kind).map (·.id)).Nodup)
    (hfree : ∀ id ∈ ((p :: plan).map (·.2)).flatten, w.store.Free kind id) :
    ∃ w₁, exec ((p :: plan).foldlM f n) w = exec (plan.foldlM f (n + p.2.length)) w₁ ∧
      w.store.HandsOut kind p.2 [p.1] w₁.store ∧ p.2.Nodup ∧ (∀ id ∈ p.2, w.store.Free kind id) ∧
      (∀ q ∈ plan, Table.has w₁.store.workers q.1 = true) ∧ ((plan.map (·.2)).flatten).Nodup ∧
      ((w₁.store.rows kind).map (·.id)).Nodup ∧ ∀ id ∈ (plan.map (·.2)).flatten, w₁.store.Free kind id := by
  simp only [List.map_cons, List.flatten_cons, List.nodup_append] at hnd hfree
  obtain ⟨hnd₁, hnd₂, hdisj⟩ := hnd
  have hfree₁ : ∀ id ∈ p.2, w.store.Free kind id := fun id hid => hfree id (List.mem_append_left _ hid)
  obtain ⟨w₁, hexec₁, h₁⟩ := hf n p w (hw p List.mem_cons_self) hnd₁ hrows hfree₁
  refine ⟨w₁, by rw [List.foldlM_cons, exec_bind, hexec₁], h₁, hnd₁, hfree₁,
    fun q hq => h₁.workers_eq ▸ hw q (List.mem_cons_of_mem _ hq), hnd₂, h₁.rows_ids ▸ hrows, fun id hid => ?_⟩
  exact h₁.free (fun h => hdisj id h id hid rfl) (hfree id (List.mem_append_right _ hid))

/-- Handing out a plan of runs, where each run hands its tasks to its worker, hands out them all. -/
theorem exec_foldlM_handOut {f : Nat → WorkerId × List TaskId → ServiceM Nat} (hf : RunsHandOut kind f) :
    ∀ (plan : List (WorkerId × List TaskId)) (n : Nat) (w : Service),
      (∀ p ∈ plan, Table.has w.store.workers p.1 = true) → ((plan.map (·.2)).flatten).Nodup →
      ((w.store.rows kind).map (·.id)).Nodup → (∀ id ∈ (plan.map (·.2)).flatten, w.store.Free kind id) →
      ∃ w', exec (plan.foldlM f n) w = (.ok (n + ((plan.map (·.2)).flatten).length), w') ∧
        w.store.HandsOut kind (plan.map (·.2)).flatten (plan.map (·.1)) w'.store
  | [], n, w, _, _, _, _ => ⟨w, rfl, .nil w.store kind []⟩
  | p :: plan, n, w, hw, hnd, hrows, hfree => by
    obtain ⟨w₁, hexec, h₁, -, -, hw₁, hnd₁, hrows₁, hfree₁⟩ := hf.cons hw hnd hrows hfree
    obtain ⟨w', hexec', hout⟩ := exec_foldlM_handOut hf plan (n + p.2.length) w₁ hw₁ hnd₁ hrows₁ hfree₁
    refine ⟨w', ?_, ?_⟩
    · rw [hexec, hexec']
      simp only [List.map_cons, List.flatten_cons, List.length_append, Nat.add_assoc]
    · simp only [List.map_cons, List.flatten_cons]
      refine (h₁.mono fun v hv => ?_).append (hout.mono fun v hv => List.mem_cons_of_mem _ hv)
      rw [List.mem_singleton.1 hv]
      exact List.mem_cons_self

/-- Assigning a plan whose runs go to registered workers and hold free tasks, each once, assigns every
task of it. -/
theorem exec_assignAll (plan : List (WorkerId × List TaskId)) (hw : ∀ p ∈ plan, Table.has w.store.workers p.1 = true)
    (hnd : ((plan.map (·.2)).flatten).Nodup) (hrows : ((w.store.rows kind).map (·.id)).Nodup)
    (hfree : ∀ id ∈ (plan.map (·.2)).flatten, w.store.Free kind id) :
    ∃ w', exec (assignAll kind plan) w = (.ok ((plan.map (·.2)).flatten).length, w') ∧
      w.store.HandsOut kind (plan.map (·.2)).flatten (plan.map (·.1)) w'.store := by
  rw [← Nat.zero_add ((plan.map (·.2)).flatten).length]
  exact exec_foldlM_handOut runsHandOut_assignAll plan 0 w hw hnd hrows hfree

end Assign

section Phases

variable {β : Type} {kind : Kind} {b : β}

/-- The sweep that opens a cycle: after the cutoff, what follows runs from the node with the swept store. -/
theorem exec_sweep {k : Stamp → List WorkerId → Nat → ServiceM β} {c : Stamp} (hc : exec cutoff w = (.ok c, w₁)) :
    exec (do
      let c ← cutoff
      let evicted ← liftStore (Store.evictStale c)
      let reclaimed ← atNow fun _ => Store.clearOrphans kind
      k c evicted reclaimed) w =
    exec (k c ((w.store.workers.filter fun x => !x.isLive c).map (·.id))
        (((Store.exec (Store.evictStale c) w.store).2.orphans kind).length))
      { w₁ with
        now := w₁.now + 1
        store := (Store.exec (Store.clearOrphans kind) (Store.exec (Store.evictStale c) w.store).2).2 } := by
  obtain ⟨-, rfl⟩ := exec_cutoff_ok hc
  rw [exec_bind, hc]
  simp only [exec_bind, exec_liftStore, Store.exec_evictStale, exec_atNow, Store.exec_clearOrphans]

/-- The reads after the sweep: once the intake is done, the backlogs are read from the store. -/
theorem exec_reads {report r : CycleReport} {w₄ : Service} {bs : List (WorkerId × Nat)}
    {k : CycleReport → List (WorkerId × Nat) → Service → ServiceM β}
    (hi : exec (intake kind report) w = (.ok r, w₄))
    (hb : Store.exec (Store.backlogs kind) w₄.store = (.ok bs, w₄.store)) :
    exec (do
      let r ← intake kind report
      let backlogs ← atNow fun _ => Store.backlogs kind
      let g ← get
      k r backlogs g) w =
    exec (k r bs { w₄ with now := w₄.now + 1 }) { w₄ with now := w₄.now + 1 } := by
  rw [exec_bind, hi]
  simp only [exec_bind, exec_atNow, hb, exec_get]

/-- The hand-out that closes a cycle: to registered workers, from a linked store, the fair batch of the
ready tasks is handed out in full. -/
theorem exec_handOutBatch {workers : List WorkerId} (maxReady limit : Nat) (f : Nat → CycleReport)
    (hl : w.store.Linked) (hw : workers ≠ []) (hreg : ∀ v ∈ workers, Table.has w.store.workers v = true) :
    ∃ ready w', Store.exec (Store.readyIds kind maxReady) w.store = (.ok ready, w.store) ∧
      exec (do
        let ready ← atNow fun _ => Store.readyIds kind maxReady
        let assigned ← assignAll kind (distribute (fairInterleave ready limit) workers)
        pure (f assigned)) w = (.ok (f (fairInterleave ready limit).length), w') ∧
      w.store.HandsOut kind (fairInterleave ready limit) workers w'.store := by
  obtain ⟨ready, hready, hfree, hready_nd⟩ := Store.exec_readyIds w.store kind maxReady
  have hrows := hl.rows_ids_nodup kind
  let w₂ : Service := { w with now := w.now + 1 }
  have hflat := distribute_flatten (fairInterleave ready limit) hw
  obtain ⟨w₃, h₃, hout⟩ := exec_assignAll (w := w₂) (distribute (fairInterleave ready limit) workers)
    (fun p hp => hreg p.1 (mem_distribute hp))
    (by rw [hflat]; exact fairInterleave_nodup (hready_nd hrows) limit) hrows
    (fun id hid => by rw [hflat] at hid; exact hfree id (mem_of_mem_fairInterleave hid))
  rw [hflat] at h₃ hout
  refine ⟨ready, w₃, hready, ?_, hout.mono fun v hv => ?_⟩
  · have h₂ : exec (atNow fun _ => Store.readyIds kind maxReady) w = (.ok ready, w₂) := by
      rw [exec_atNow, hready]
    simp only [exec_bind, h₂, h₃, exec_pure]
  · obtain ⟨p, hp, rfl⟩ := List.mem_map.1 hv
    exact mem_distribute hp

/-- A hand-out that ended well handed out the fair batch of the ready tasks. -/
theorem exec_handOutBatch_ok {maxReady limit : Nat} {workers : List WorkerId} {f : Nat → CycleReport}
    {report : CycleReport}
    (h : exec (do
      let ready ← atNow fun _ => Store.readyIds kind maxReady
      let assigned ← assignAll kind (distribute (fairInterleave ready limit) workers)
      pure (f assigned)) w = (.ok report, w₁))
    (hl : w.store.Linked) (hw : workers ≠ []) (hreg : ∀ v ∈ workers, Table.has w.store.workers v = true) :
    ∃ ready, Store.exec (Store.readyIds kind maxReady) w.store = (.ok ready, w.store) ∧
      report = f (fairInterleave ready limit).length ∧
      w.store.HandsOut kind (fairInterleave ready limit) workers w₁.store := by
  obtain ⟨ready, w', hready, h', hout⟩ := exec_handOutBatch maxReady limit f hl hw hreg
  rw [h'] at h
  obtain ⟨hr, rfl⟩ := Prod.mk.inj h
  cases hr
  exact ⟨ready, hready, rfl, hout⟩

theorem exec_handOutBatch_isOk {maxReady limit : Nat} {workers : List WorkerId} (f : Nat → CycleReport)
    (hl : w.store.Linked) (hw : workers ≠ []) (hreg : ∀ v ∈ workers, Table.has w.store.workers v = true) :
    ∃ report w', exec (do
      let ready ← atNow fun _ => Store.readyIds kind maxReady
      let assigned ← assignAll kind (distribute (fairInterleave ready limit) workers)
      pure (f assigned)) w = (.ok report, w') := by
  obtain ⟨ready, w', -, h, -⟩ := exec_handOutBatch maxReady limit f hl hw hreg
  exact ⟨_, _, h⟩

end Phases

end Service

/-! ## What the workers lack -/

namespace Store

/-- What the registered workers lack of \x60t\x60 unfinished tasks of a kind held, in all; a worker that holds
\x60t\x60 or more lacks nothing. -/
def deficit (kind : Kind) (t : Nat) (s : Store) : Nat :=
  (s.workers.map fun v =>
    t - ((s.rows kind).filter fun r => r.worker == some v.id && !r.status.isTerminal).length).foldl (· + ·) 0

/-- Dropping the backlogs at or past the threshold drops only deficits of nothing. -/
theorem foldl_deficit_filter (t : Nat) : ∀ bs : List (WorkerId × Nat),
    ((bs.filter (·.2 < t)).map fun b => t - b.2).foldl (· + ·) 0 = (bs.map fun b => t - b.2).foldl (· + ·) 0
  | [] => rfl
  | b :: bs => by
    have ih := foldl_deficit_filter t bs
    by_cases hb : b.2 < t
    · rw [List.filter_cons_of_pos (by simpa using hb), List.map_cons, List.map_cons, List.foldl_cons,
        List.foldl_cons, Nat.zero_add, foldl_add_shift _ (t - b.2), foldl_add_shift _ (t - b.2), ih]
    · rw [List.filter_cons_of_neg (by simpa using hb), ih, List.map_cons, List.foldl_cons, Nat.zero_add,
        foldl_add_shift _ (t - b.2)]
      omega

/-- The needy workers of a cycle, in any order, lack in all what the store's registered workers lack. -/
theorem needy_deficit_eq {kind : Kind} {s : Store} {t : Nat} {bs sorted : List (WorkerId × Nat)}
    (hbs : exec (backlogs kind) s = (.ok bs, s)) (hperm : List.Perm sorted (bs.filter (·.2 < t))) :
    (sorted.map fun x => t - x.2).foldl (· + ·) 0 = s.deficit kind t := by
  obtain ⟨hb, -⟩ := Prod.mk.inj ((exec_backlogs s kind).symm.trans hbs)
  cases hb
  rw [foldl_add_perm (hperm.map _), foldl_deficit_filter, List.map_map]
  rfl

/-- Each registered worker lacks at most the threshold. -/
theorem deficit_le (kind : Kind) (t : Nat) (s : Store) : s.deficit kind t ≤ t * s.workers.length := by
  unfold deficit
  rw [← List.length_map (f := fun v : Worker =>
    t - ((s.rows kind).filter fun r => r.worker == some v.id && !r.status.isTerminal).length)]
  exact foldl_add_le_mul fun x hx => by
    obtain ⟨v, -, rfl⟩ := List.mem_map.1 hx
    exact Nat.sub_le _ _

/-- The sweep of a cycle only drops workers: the swept store lacks at most the threshold times the workers
registered before it. -/
theorem deficit_swept_le (kind : Kind) (cut : Stamp) (t : Nat) (s₀ : Store) :
    (exec (clearOrphans kind) (exec (evictStale cut) s₀).2).2.deficit kind t ≤ t * s₀.workers.length :=
  calc _ ≤ t * (exec (clearOrphans kind) (exec (evictStale cut) s₀).2).2.workers.length := deficit_le kind t _
    _ ≤ t * s₀.workers.length := by
      rw [workers_clearOrphans, workers_evictStale]
      exact Nat.mul_le_mul_left _ (List.length_filter_le _ _)

end Store

namespace Service

/-- The needy workers of a cycle lack at most the threshold each, and are the registered workers of the swept
store: their total deficit is at most the threshold times the workers the store had registered. -/
theorem deficit_le_workers {kind : Kind} {cut : Stamp} {s₀ : Store} {t : Nat} {bs sorted : List (WorkerId × Nat)}
    (hbs : Store.exec (Store.backlogs kind)
        (Store.exec (Store.clearOrphans kind) (Store.exec (Store.evictStale cut) s₀).2).2 =
      (.ok bs, (Store.exec (Store.clearOrphans kind) (Store.exec (Store.evictStale cut) s₀).2).2))
    (hperm : List.Perm sorted (bs.filter (·.2 < t))) :
    (sorted.map fun x => t - x.2).foldl (· + ·) 0 ≤ t * s₀.workers.length := by
  rw [Store.needy_deficit_eq hbs hperm]
  exact Store.deficit_swept_le kind cut t s₀

/-! ## One cycle -/

/-- The sweep that opens a cycle, the eviction of silent workers and then the orphan sweep, keeps a store
reachable. -/
theorem reachable_swept {s : Store} (hr : Reachable s) (cut : Stamp) (kind : Kind) :
    Reachable (Store.exec (Store.clearOrphans kind) (Store.exec (Store.evictStale cut) s).2).2 := by
  have h₁ := Reachable.call (Call.evictStale cut) hr trivial
  have h₂ := Reachable.call (Call.clearOrphans kind) h₁ trivial
  simpa only [Call.run, Store.exec_discard_state] using h₂

/-- From a reachable store, a cycle whose heartbeat timeout the calendar converts, whose cutoff is not before
the calendar's earliest instant, and whose workers' total deficit fits in a 64-bit word, ends well: the needy
workers' deficit fits too, since each lacks at most the threshold and is registered. -/
theorem runCycle_ends_well (kind : Kind) {w : Service} (hr : Reachable w.store)
    (ht : w.dispatch.heartbeatTimeout ≤ w.calendar.longestSpan)
    (hc : w.calendar.earliest ≤ w.now - Stamp.ofMillis (Int.ofNat w.dispatch.heartbeatTimeout))
    (hdef : w.dispatch.backlogThreshold * w.store.workers.length ≤ Word.max64) :
    ∃ report w', exec (runCycle kind) w = (.ok report, w') := by
  let cut := w.now - Stamp.ofMillis (Int.ofNat w.dispatch.heartbeatTimeout)
  let s := (Store.exec (Store.clearOrphans kind) (Store.exec (Store.evictStale cut) w.store).2).2
  have hreach : Reachable s := reachable_swept hr cut kind
  obtain ⟨bs, hbs⟩ : ∃ bs, Store.exec (Store.backlogs kind) s = (.ok bs, s) := ⟨_, Store.exec_backlogs s kind⟩
  unfold runCycle
  rw [exec_sweep (exec_cutoff_of_le ht hc),
    exec_reads (exec_intake kind _ { w with now := w.now + 1 + 1, store := s }).choose_spec.choose_spec.1 hbs]
  dsimp only
  generalize hsorted : (bs.filter (·.2 < w.dispatch.backlogThreshold)).mergeSort
    (fun a b => a.2 < b.2 || (a.2 == b.2 && a.1.uuid.value ≤ b.1.uuid.value)) = sorted
  have hperm : List.Perm sorted (bs.filter (·.2 < w.dispatch.backlogThreshold)) := hsorted ▸ List.mergeSort_perm _ _
  split
  · exact ⟨_, _, rfl⟩
  · rename_i hne
    have hfit : (sorted.map fun x => w.dispatch.backlogThreshold - x.2).foldl (· + ·) 0 ≤ Word.max64 :=
      Nat.le_trans (deficit_le_workers hbs hperm) hdef
    rw [Word.sum_of_le hfit]
    simp only [pure_bind]
    refine exec_handOutBatch_isOk _ ?_ ?_ ?_
    · exact hreach.linked
    · simpa using hne
    · intro v hv
      obtain ⟨b, hb, rfl⟩ := List.mem_map.1 hv
      exact Store.has_of_mem_backlogs s hbs (List.mem_filter.1 (hperm.subset hb)).1

/-- One cycle from a reachable store, with no other call between its steps, that ends well: every
registered worker left was heard from since the cutoff, no task of the kind is held by an unregistered
worker, and the tasks handed out are exactly the fair batch of the ready tasks read after the orphan
sweep, of at most the batch size and the needy workers' total deficit, each then free, each to a needy
worker; the report counts them. -/
theorem runCycle_sweeps_and_hands_out {w w' : Service} {kind : Kind} {report : CycleReport}
    (hr : Reachable w.store) (hrun : exec (runCycle kind) w = (.ok report, w')) :
    let cut := w.now - Stamp.ofMillis (Int.ofNat w.dispatch.heartbeatTimeout)
    let s := (Store.exec (Store.clearOrphans kind) (Store.exec (Store.evictStale cut) w.store).2).2
    (∀ x ∈ w'.store.workers, x.isLive cut = true) ∧
    (∀ r ∈ w'.store.rows kind, ∀ v, r.worker = some v → Table.has w'.store.workers v = true) ∧
    ∃ backlogs ready, Store.exec (Store.backlogs kind) s = (.ok backlogs, s) ∧
      Store.exec (Store.readyIds kind w.dispatch.maxReadyRows) s = (.ok ready, s) ∧
      let needy := backlogs.filter (·.2 < w.dispatch.backlogThreshold)
      let limit := min w.dispatch.maxBatch ((needy.map fun b => w.dispatch.backlogThreshold - b.2).foldl (· + ·) 0)
      let batch := fairInterleave ready limit
      report.assigned = batch.length ∧ batch.length ≤ limit ∧ batch.Nodup ∧ (∀ id ∈ batch, s.Free kind id) ∧
        s.HandsOut kind batch (needy.map (·.1)) w'.store := by
  intro cut s
  have hreach : Reachable s := by
    have h₁ := Reachable.call (Call.evictStale cut) hr trivial
    have h₂ := Reachable.call (Call.clearOrphans kind) h₁ trivial
    simpa only [Call.run, Store.exec_discard_state] using h₂
  have hrows := hreach.linked.rows_ids_nodup kind
  have hlive : ∀ x ∈ s.workers, x.isLive cut = true := by
    intro x hx
    rw [Store.workers_clearOrphans, Store.workers_evictStale] at hx
    exact (List.mem_filter.1 hx).2
  have hheld := Store.held_clearOrphans (Store.exec (Store.evictStale cut) w.store).2 kind
  obtain ⟨bs, hbs⟩ : ∃ bs, Store.exec (Store.backlogs kind) s = (.ok bs, s) := ⟨_, Store.exec_backlogs s kind⟩
  unfold runCycle at hrun
  obtain ⟨c, w₁, hc, -⟩ := exec_bind_eq_ok _ hrun
  rw [exec_sweep hc] at hrun
  obtain ⟨rfl, rfl⟩ := exec_cutoff_ok hc
  obtain ⟨r₄, w₄, hi, -⟩ := exec_bind_eq_ok _ hrun
  obtain ⟨hassigned, hs₄, hd₄⟩ := intake_ok hi
  change w₄.store = s at hs₄
  rw [exec_reads hi (hs₄ ▸ hbs)] at hrun
  dsimp only at hrun hd₄
  rw [hd₄] at hrun
  generalize hsorted : (bs.filter (·.2 < w.dispatch.backlogThreshold)).mergeSort
    (fun a b => a.2 < b.2 || (a.2 == b.2 && a.1.uuid.value ≤ b.1.uuid.value)) = sorted at hrun
  set needy := bs.filter (·.2 < w.dispatch.backlogThreshold) with hneedy
  have hperm : List.Perm sorted needy := hsorted ▸ List.mergeSort_perm _ _
  have hneedy_reg : ∀ v ∈ needy.map (·.1), Table.has s.workers v = true := by
    intro v hv
    obtain ⟨b, hb, rfl⟩ := List.mem_map.1 hv
    exact Store.has_of_mem_backlogs s hbs (List.mem_filter.1 hb).1
  set limit := min w.dispatch.maxBatch ((needy.map fun b => w.dispatch.backlogThreshold - b.2).foldl (· + ·) 0)
    with hlimit
  obtain ⟨ready, hready, hcount, hout⟩ : ∃ ready,
      Store.exec (Store.readyIds kind w.dispatch.maxReadyRows) s = (.ok ready, s) ∧
      report.assigned = (fairInterleave ready limit).length ∧
      s.HandsOut kind (fairInterleave ready limit) (needy.map (·.1)) w'.store := by
    split at hrun
    · -- no needy worker: the limit is zero, and nothing is handed out
      rename_i hempty
      cases hrun
      obtain ⟨ready, hready, -, -⟩ := Store.exec_readyIds s kind w.dispatch.maxReadyRows
      have hnil : needy = [] := List.nil_perm.1 (List.isEmpty_iff.1 hempty ▸ hperm)
      have hlim : limit = 0 := by simp [hlimit, hnil]
      have hb : fairInterleave ready limit = [] := by
        rw [hlim]
        exact List.eq_nil_of_length_eq_zero (Nat.le_zero.1 (length_fairInterleave_le ready 0))
      refine ⟨ready, hready, ?_⟩
      rw [hb]
      refine ⟨hassigned, ?_⟩
      rw [show ({ w₄ with now := w₄.now + 1 } : Service).store = s from hs₄]
      exact .nil s kind _
    · rename_i hne
      split at hrun
      · -- the deficit is the needy workers' total, in any order
        rename_i n hsum
        have hdef : n = (needy.map fun b => w.dispatch.backlogThreshold - b.2).foldl (· + ·) 0 :=
          (Word.eq_foldl_of_sum_ok hsum).trans (foldl_add_perm (hperm.map _))
        subst hdef
        rw [pure_bind] at hrun
        obtain ⟨ready, hready, rfl, hout⟩ := exec_handOutBatch_ok hrun (hs₄ ▸ hreach.linked)
          (by simpa using hne) fun v hv => hs₄ ▸ hneedy_reg v ((hperm.map _).subset hv)
        rw [hs₄] at hready hout
        exact ⟨ready, hready, rfl, hout.mono fun v hv => (hperm.map _).subset hv⟩
      · obtain ⟨n', w₇, h₇, hrun⟩ := exec_bind_eq_ok _ hrun
        cases h₇
  obtain ⟨ready₀, hready₀, hfree, hready_nd⟩ := Store.exec_readyIds s kind w.dispatch.maxReadyRows
  rw [hready] at hready₀
  cases hready₀
  refine ⟨fun x hx => hlive x (hout.workers_eq ▸ hx), hout.held hneedy_reg hheld, bs, ready, hbs, hready, hcount,
    length_fairInterleave_le ready limit, fairInterleave_nodup (hready_nd hrows) limit,
    fun id h => hfree id (mem_of_mem_fairInterleave h), hout⟩

/-- A cycle on a node where worker `z` holds the first parent but has not been heard from since the cutoff,
while worker `v` is live: the cycle ends well, keeps only live workers, leaves no task with a worker it
evicted, and hands out a fair batch of the ready parents. -/
theorem cycle_reassigns_silent_workers_task :
    let t₀ : Top := Top.fresh ⟨⟨1⟩⟩ "ta" "alice" none 0
    let p₀ : Parent := Parent.fresh ⟨⟨2⟩⟩ t₀ "mem://src/a" "mem://dst/a" false 1
    let p₁ : Parent := Parent.fresh ⟨⟨3⟩⟩ t₀ "mem://src/b" "mem://dst/b" false 2
    let z : WorkerId := ⟨⟨4⟩⟩
    let v : WorkerId := ⟨⟨5⟩⟩
    let w : Service :=
      { store := [Call.registerWorker ⟨z, "h1", 0, 0⟩, .registerWorker ⟨v, "h2", 0, 2000000000⟩,
          .assign .parent p₀.id z].foldl (fun s c => (Store.exec c.run s).2)
            (Store.exec (Call.createTransfer t₀ [p₀, p₁]).run {}).2
        worker := ⟨⟨3, 100, 1000, 2.0⟩, 4096, 100, 8, 100⟩
        dispatch := ⟨1000, 2, 10, 10, 10⟩
        now := 2000000000 }
    Reachable w.store ∧ ∃ report w', exec (runCycle .parent) w = (.ok report, w') ∧
      let cut := w.now - Stamp.ofMillis (Int.ofNat w.dispatch.heartbeatTimeout)
      let s := (Store.exec (Store.clearOrphans .parent) (Store.exec (Store.evictStale cut) w.store).2).2
      (∀ x ∈ w'.store.workers, x.isLive cut = true) ∧
      (∀ r ∈ w'.store.rows .parent, ∀ v, r.worker = some v → Table.has w'.store.workers v = true) ∧
      ∃ backlogs ready, Store.exec (Store.backlogs .parent) s = (.ok backlogs, s) ∧
        Store.exec (Store.readyIds .parent w.dispatch.maxReadyRows) s = (.ok ready, s) ∧
        let needy := backlogs.filter (·.2 < w.dispatch.backlogThreshold)
        let limit := min w.dispatch.maxBatch ((needy.map fun b => w.dispatch.backlogThreshold - b.2).foldl (· + ·) 0)
        let batch := fairInterleave ready limit
        report.assigned = batch.length ∧ batch.length ≤ limit ∧ batch.Nodup ∧ (∀ id ∈ batch, s.Free .parent id) ∧
          s.HandsOut .parent batch (needy.map (·.1)) w'.store := by
  intro t₀ p₀ p₁ z v w
  have hadm : ({} : Store).Admits t₀ [p₀, p₁] :=
    Store.admits_empty ⟨_, _, _, _, rfl⟩
      (fun p hp => by rcases List.mem_pair.1 hp with rfl | rfl <;> exact ⟨_, _, _, _, rfl⟩) (by decide) (by decide)
  have hr : Reachable w.store := Reachable.foldl_calls (.call (.createTransfer _ _) .empty hadm) fun c hc _ => by
    simp only [List.mem_cons, List.not_mem_nil, or_false] at hc
    rcases hc with rfl | rfl | rfl <;> trivial
  obtain ⟨report, w', hrun⟩ := runCycle_ends_well .parent hr (by decide) (by decide) (by decide +kernel)
  exact ⟨hr, report, w', hrun, runCycle_sweeps_and_hands_out hr hrun⟩

end Service

end Conveyor
