import Conveyor.Proofs.Service.Scope
import Conveyor.Service.Launch

/-!
# A worker runs at most `max 1 n` pipelines, and one per task

Over every interleaving of a worker's serve loop, the pipelines it launched and any changes of the
store (`Launcher.run` of any list of events), two things hold (`Launcher.run_within_permits_one_per_task`):

- the pipelines alive, from their spawn to the release of their permit, never outnumber the
  semaphore's `max 1 n` permits: the free permits, the pipelines and the permit the loop holds
  while it launches a task always add up to it;
- no two pipelines still at work run the same task: the registry holds the task of every pipeline
  at work, the loop launches a task only after finding it unregistered, and until the loop
  registers it only pipelines unregister tasks, so no pipeline takes it up in between.

A pipeline that has unregistered its task may still hold its permit when the loop launches the
task again: the two overlap then only in that the first has yet to release its permit.

`Launcher.Sound` is the invariant. The loop keeps it at each of its steps (`Launcher.Sound.serveStep`,
with one lemma for each step that moves a permit or the registry), the pipelines at theirs
(`Launcher.Sound.unregister`, `Launcher.Sound.release`, `Launcher.Sound.abort`), and so does every
run (`Launcher.Sound.run`).
-/

namespace Conveyor

namespace Registry

/-- Leaving out the entries of another task does not change whether a task is registered. -/
theorem any_task_filter_other (entries : List (Scope × Token)) {x t : TaskId} (h : t ≠ x) :
    (entries.filter (·.1.task != x)).any (·.1.task == t) = entries.any (·.1.task == t) := by
  rw [List.any_filter]
  congr 1
  funext a
  by_cases ha : a.1.task = t
  · simp [ha, h]
  · simp [ha]

theorem isRunning_register (r : Registry) (s : Scope) (k : Token) (t : TaskId) :
    (r.register s k).isRunning t = (decide (t = s.task) || r.isRunning t) := by
  by_cases h : t = s.task
  · subst h; simp [register, isRunning]
  · simp [register, isRunning, any_task_filter_other _ h, h, beq_false_of_ne (Ne.symm h)]

theorem isRunning_unregister (r : Registry) (x t : TaskId) :
    (r.unregister x).isRunning t = (!decide (t = x) && r.isRunning t) := by
  by_cases h : t = x
  · subst h; simp [unregister, isRunning]
  · simp [unregister, isRunning, any_task_filter_other _ h, h]

end Registry

/-! ## The tasks at work -/

namespace Pipeline

/-- The tasks of the pipelines still at work, in launch order. -/
def tasksAtWork (ps : List Pipeline) : List TaskId := (ps.filter (·.working)).map (·.task)

theorem tasksAtWork_append_launched (ps : List Pipeline) (k : Kind) (t : TaskId) (tok : Token) :
    tasksAtWork (ps ++ [⟨k, t, tok, true⟩]) = tasksAtWork ps ++ [t] := by
  simp [tasksAtWork]

theorem eq_take_cons_drop {ps : List Pipeline} {i : Nat} {p : Pipeline} (h : ps[i]? = some p) :
    ps = ps.take i ++ p :: ps.drop (i + 1) := by
  obtain ⟨hi, rfl⟩ := List.getElem?_eq_some_iff.1 h
  rw [← List.drop_eq_getElem_cons hi, List.take_append_drop]

/-- Stopping a working pipeline takes its task out of the tasks at work. -/
theorem tasksAtWork_set_stopped {ps : List Pipeline} {i : Nat} {p : Pipeline} (h : ps[i]? = some p)
    (hp : p.working = true) :
    (tasksAtWork ps).Perm (p.task :: tasksAtWork (ps.set i { p with working := false })) := by
  have hi : i < ps.length := (List.getElem?_eq_some_iff.1 h).1
  have hset : ps.set i { p with working := false } =
      ps.take i ++ { p with working := false } :: ps.drop (i + 1) := by
    rw [List.set_eq_take_append_cons_drop, if_pos hi]
  rw [hset]
  conv => lhs; rw [eq_take_cons_drop h]
  simp only [tasksAtWork, List.filter_append, List.filter_cons, hp, if_true, if_false, Bool.false_eq_true,
    List.map_append, List.map_cons]
  exact List.perm_middle

theorem tasksAtWork_eraseIdx_of_stopped {ps : List Pipeline} {i : Nat} {p : Pipeline} (h : ps[i]? = some p)
    (hp : p.working = false) : tasksAtWork (ps.eraseIdx i) = tasksAtWork ps := by
  conv => rhs; rw [eq_take_cons_drop h]
  rw [List.eraseIdx_eq_take_drop_succ]
  simp [tasksAtWork, List.filter_append, hp]

theorem tasksAtWork_eraseIdx_sublist (ps : List Pipeline) (i : Nat) :
    (tasksAtWork (ps.eraseIdx i)).Sublist (tasksAtWork ps) :=
  ((List.eraseIdx_sublist ps i).filter _).map _

end Pipeline

namespace Launcher

open Pipeline

/-! ## The invariant -/

/-- Whether the loop holds a permit it has yet to hand to a pipeline. -/
def Loop.holdsPermit : Loop → Bool
  | .scoping .. | .registering .. | .spawning .. => true
  | _ => false

/-- What the loop knows of the task it is launching: unregistered until it registers it, and
then run by no pipeline until it spawns one. -/
def Pending (l : Launcher) : Prop :=
  match l.loop with
  | .acquiring t _ | .scoping t _ => l.registry.isRunning t = false
  | .registering sc _ => l.registry.isRunning sc.task = false
  | .spawning t _ _ => l.registry.isRunning t = true ∧ t ∉ tasksAtWork l.pipelines
  | _ => True

/-- The invariant of a launcher with `cap` permits. -/
structure Sound (cap : Nat) (l : Launcher) : Prop where
  /-- Every permit is free, held by a pipeline, or held by the loop. -/
  permits_eq : l.permits + l.pipelines.length + (if l.loop.holdsPermit then 1 else 0) = cap
  /-- No two pipelines at work share a task. -/
  nodup : (tasksAtWork l.pipelines).Nodup
  /-- The task of every pipeline at work is registered. -/
  registered : ∀ t ∈ tasksAtWork l.pipelines, l.registry.isRunning t = true
  pending : l.Pending

variable {cap : Nat} {l : Launcher}

theorem sound_start (worker : WorkerId) (n : Nat) : Sound (max 1 n) (start worker n) where
  permits_eq := by simp [start, Loop.holdsPermit]
  nodup := by simp [start, tasksAtWork]
  registered := by simp [start, tasksAtWork]
  pending := by simp [start, Pending]

/-- A move of the loop alone, between two places that hold the same permits. -/
theorem Sound.moveLoop (h : Sound cap l) (loop : Loop) (hh : loop.holdsPermit = l.loop.holdsPermit)
    (hp : Pending { l with loop }) : Sound cap { l with loop } where
  permits_eq := by rw [← h.permits_eq, hh]
  nodup := h.nodup
  registered := h.registered
  pending := hp

/-! ## The loop's launch of a task -/

/-- The loop takes a free permit. -/
theorem Sound.acquire {t : TaskId} {pass : Pass} (h : Sound cap l) (hl : l.loop = .acquiring t pass)
    (hfree : l.permits ≠ 0) : Sound cap { l with permits := l.permits - 1, loop := .scoping t pass } where
  permits_eq := by
    have := h.permits_eq
    simp only [hl, Loop.holdsPermit, Bool.false_eq_true, ↓reduceIte] at this ⊢
    omega
  nodup := h.nodup
  registered := h.registered
  pending := by
    have hp := h.pending
    simp only [Pending, hl] at hp ⊢
    exact hp

/-- A task whose scope the store does not give is skipped, and its permit dropped. -/
theorem Sound.skip {t : TaskId} {pass : Pass} (h : Sound cap l) (hl : l.loop = .scoping t pass) :
    Sound cap { l with permits := l.permits + 1, loop := .checking pass } where
  permits_eq := by
    have := h.permits_eq
    simp only [hl, Loop.holdsPermit, Bool.false_eq_true, ↓reduceIte] at this ⊢
    omega
  nodup := h.nodup
  registered := h.registered
  pending := trivial

/-- The loop registers the task under its scope and a token. -/
theorem Sound.register {sc : Scope} {pass : Pass} (h : Sound cap l) (hl : l.loop = .registering sc pass)
    (token : Token) (tokens : Tokens) :
    Sound cap { l with registry := l.registry.register sc token, tokens,
                       loop := .spawning sc.task token pass } where
  permits_eq := by
    have := h.permits_eq
    simp only [hl, Loop.holdsPermit, ↓reduceIte] at this ⊢
    exact this
  nodup := h.nodup
  registered t ht := by simp [Registry.isRunning_register, h.registered t ht]
  pending := by
    have hp := h.pending
    simp only [Pending, hl] at hp ⊢
    refine ⟨by simp [Registry.isRunning_register], fun hw => ?_⟩
    have := h.registered _ hw
    rw [hp] at this
    exact Bool.false_ne_true this

/-- The loop spawns the pipeline of the task it registered. -/
theorem Sound.spawn {t : TaskId} {token : Token} {pass : Pass} (h : Sound cap l)
    (hl : l.loop = .spawning t token pass) :
    Sound cap { l with pipelines := l.pipelines ++ [⟨pass.kind, t, token, true⟩], loop := .checking pass } where
  permits_eq := by
    have := h.permits_eq
    simp only [hl, Loop.holdsPermit, Bool.false_eq_true, ↓reduceIte, List.length_append, List.length_singleton] at this ⊢
    omega
  nodup := by
    have hp := h.pending
    simp only [Pending, hl] at hp
    rw [tasksAtWork_append_launched]
    exact List.nodup_append.2 ⟨h.nodup, List.nodup_singleton t, fun a ha b hb => by
      rw [List.mem_singleton.1 hb]
      exact fun e => hp.2 (e ▸ ha)⟩
  registered t' ht' := by
    have hp := h.pending
    simp only [Pending, hl] at hp
    rw [tasksAtWork_append_launched, List.mem_append, List.mem_singleton] at ht'
    rcases ht' with ht' | rfl
    · exact h.registered t' ht'
    · exact hp.1
  pending := trivial


/-- A step of the loop keeps the invariant, whatever the store it reads. -/
theorem Sound.serveStep (h : Sound cap l) (w : Service) : Sound cap (l.serveStep w) := by
  cases hl : l.loop with
  | waiting =>
    simp only [Launcher.serveStep, hl]
    split
    · exact h.moveLoop _ (by simp [hl, Loop.holdsPermit]) trivial
    · exact h.moveLoop _ (by simp [hl, Loop.holdsPermit]) trivial
  | reading kinds =>
    cases kinds with
    | nil =>
      simp only [Launcher.serveStep, hl]
      exact h.moveLoop _ (by simp [hl, Loop.holdsPermit]) trivial
    | cons kind kinds =>
      simp only [Launcher.serveStep, hl]
      split
      · exact h.moveLoop _ (by simp [hl, Loop.holdsPermit]) trivial
      · exact h.moveLoop _ (by simp [hl, Loop.holdsPermit]) trivial
  | checking pass =>
    obtain ⟨kind, _ | ⟨task, tasks⟩, kinds⟩ := pass
    · simp only [Launcher.serveStep, hl]
      exact h.moveLoop _ (by simp [hl, Loop.holdsPermit]) trivial
    · simp only [Launcher.serveStep, hl]
      split
      · exact h.moveLoop _ (by simp [hl, Loop.holdsPermit]) trivial
      · -- the task found unregistered is the one the loop goes on to launch
        rename_i hfree
        exact h.moveLoop _ (by simp [hl, Loop.holdsPermit]) (by simpa [Pending] using hfree)
  | acquiring task pass =>
    simp only [Launcher.serveStep, hl]
    split
    · exact h.moveLoop _ (by simp [hl, Loop.holdsPermit]) trivial
    · split
      · exact h
      · exact h.acquire hl ‹_›
  | scoping task pass =>
    simp only [Launcher.serveStep, hl]
    split
    · rename_i sc hsc
      have hp := h.pending
      simp only [Pending, hl] at hp
      refine h.moveLoop _ (by simp [hl, Loop.holdsPermit]) ?_
      simp only [Pending]
      rw [Pipe.runScope_task hsc]
      exact hp
    · exact h.skip hl
  | registering sc pass =>
    simp only [Launcher.serveStep, hl]
    exact h.register hl _ _
  | spawning task token pass =>
    simp only [Launcher.serveStep, hl]
    exact h.spawn hl
  | stopped =>
    simp only [Launcher.serveStep, hl]
    exact h


/-! ## The pipelines' steps -/

/-- A pipeline whose work has ended unregisters its task. -/
theorem Sound.unregister (h : Sound cap l) (i : Nat) : Sound cap (l.unregister i) := by
  unfold Launcher.unregister
  split
  · rename_i p hp
    split
    · rename_i hw
      have hperm := tasksAtWork_set_stopped hp hw
      obtain ⟨hout, hnd⟩ := List.nodup_cons.1 (hperm.nodup_iff.1 h.nodup)
      have hin : p.task ∈ tasksAtWork l.pipelines := hperm.mem_iff.2 List.mem_cons_self
      have hmem : ∀ t ∈ tasksAtWork (l.pipelines.set i { p with working := false }),
          t ∈ tasksAtWork l.pipelines ∧ t ≠ p.task :=
        fun t ht => ⟨hperm.mem_iff.2 (List.mem_cons_of_mem _ ht), fun e => hout (e ▸ ht)⟩
      refine ⟨by simpa using h.permits_eq, hnd, fun t ht => ?_, ?_⟩
      · obtain ⟨ht, hne⟩ := hmem t ht
        simp [Registry.isRunning_unregister, hne, h.registered t ht]
      · have hp := h.pending
        cases hl : l.loop with
        | acquiring t pass | scoping t pass =>
          simp only [Pending, hl] at hp ⊢
          simp [Registry.isRunning_unregister, hp]
        | registering sc pass =>
          simp only [Pending, hl] at hp ⊢
          simp [Registry.isRunning_unregister, hp]
        | spawning t token pass =>
          simp only [Pending, hl] at hp ⊢
          have hne : t ≠ p.task := fun e => hp.2 (e ▸ hin)
          exact ⟨by simp [Registry.isRunning_unregister, hne, hp.1], fun ht => hp.2 (hmem t ht).1⟩
        | waiting | reading _ | checking _ | stopped => simp only [Pending]
    · exact h
  · exact h

/-- A pipeline that has unregistered its task releases its permit. -/
theorem Sound.release (h : Sound cap l) (i : Nat) : Sound cap (l.release i) := by
  unfold Launcher.release
  split
  · rename_i p hp
    split
    · exact h
    · rename_i hw
      have heq := tasksAtWork_eraseIdx_of_stopped hp (by simpa using hw)
      have hi : i < l.pipelines.length := (List.getElem?_eq_some_iff.1 hp).1
      refine ⟨?_, ?_, ?_, ?_⟩
      · have := h.permits_eq
        simp only [List.length_eraseIdx_of_lt hi]
        omega
      · rw [heq]; exact h.nodup
      · rw [heq]; exact h.registered
      · have hp := h.pending
        simp only [Pending, heq] at hp ⊢
        exact hp
  · exact h

/-- Once the loop has returned, an aborted pipeline drops its permit. -/
theorem Sound.abort (h : Sound cap l) (i : Nat) : Sound cap (l.abort i) := by
  unfold Launcher.abort
  split
  · rename_i hc
    obtain ⟨hl, hi⟩ := hc
    have hsub := tasksAtWork_eraseIdx_sublist l.pipelines i
    refine ⟨?_, hsub.nodup h.nodup, fun t ht => h.registered t (hsub.subset ht), ?_⟩
    · have := h.permits_eq
      simp only [hl, Loop.holdsPermit, List.length_eraseIdx_of_lt hi, Bool.false_eq_true, ↓reduceIte] at this ⊢
      omega
    · simp only [Pending, hl]
  · exact h

/-- Every event keeps the invariant. -/
theorem Sound.step (h : Sound cap l) : ∀ e : Event, Sound cap (l.step e)
  | .serve w => h.serveStep w
  | .shutdown => ⟨h.permits_eq, h.nodup, h.registered, h.pending⟩
  | .unregister i => h.unregister i
  | .release i => h.release i
  | .abort i => h.abort i

/-- Every run keeps the invariant. -/
theorem Sound.run (h : Sound cap l) (events : List Event) : Sound cap (l.run events) := by
  induction events generalizing l with
  | nil => exact h
  | cons e events ih => exact ih (h.step e)

/-- **At most `max 1 n` pipelines, one per task.** Over every interleaving of a worker's serve
loop, the pipelines it launched and any changes of the store, the pipelines alive never outnumber
the `max 1 n` permits, and no two pipelines still at work run the same task. -/
theorem run_within_permits_one_per_task (worker : WorkerId) (n : Nat) (events : List Event) :
    let l := (start worker n).run events
    l.pipelines.length ≤ max 1 n ∧ ((l.pipelines.filter (·.working)).map (·.task)).Nodup := by
  intro l
  have h : Sound (max 1 n) l := (sound_start worker n).run events
  exact ⟨by have := h.permits_eq; omega, h.nodup⟩

end Launcher
end Conveyor
