import Conveyor.Service.Transfer
import Conveyor.Proofs.Service.Cycle
import Conveyor.Proofs.Store.Attempts
import Mathlib.Logic.Relation

/-!
# How often a child is attempted

A child pipeline starts an attempt only while the count it holds is below the bound of its node's retry
policy. The count it holds is the store's as long as no other pipeline starts an attempt of the child
meanwhile, so pipelines of a child that run one after another never lift its count past the bound.

* `Service.attempts`: a node's worker settings and the count of every child. Every step of a pipeline but
  the start of an attempt keeps them, whatever a watch does meanwhile (`Pipe.keeps_copyOnce`,
  `Pipe.keeps_sleep`, ...), and so does a dispatcher cycle (`Service.keeps_runCycle`).
* `Pipe.attemptChild_within`: from a pipeline holding the store's count, the attempts leave every count
  within the bound; so does a whole child pipeline (`Service.pipeline_within`).
* `Service.retries_capped_of_serial`: along every run of a node whose child pipelines run one after
  another, with any calls of the store and dispatcher cycles before, between and after them, no count passes
  the bound.

Pipelines of one child that overlap can pass it: each decides on the count it read, and the child may go
from one worker to another and back between a pipeline's check and its start.
-/

namespace Conveyor

namespace Service

/-- The settings of a node's workers, and the count of each child. -/
def attempts (w : Service) : WorkerSettings × (TaskId → Option Nat) := (w.worker, w.store.retriesOf)

/-- The settings of a node's workers, and what the view `g` reads of its store. -/
def settingsAnd {β : Type} (g : Store → β) (w : Service) : WorkerSettings × β := (w.worker, g w.store)

section Keeping

variable {α : Type}

theorem keeps_liftStore_of {β : Type} {g : Store → β} {m : StoreM α} (hm : Keeps g m) :
    Keeps (settingsAnd g) (liftStore m) :=
  fun w => congrArg (w.worker, ·) (hm w.store)

theorem keeps_atNow_of {β : Type} {g : Store → β} {f : Stamp → StoreM α} (hf : ∀ t, Keeps g (f t)) :
    Keeps (settingsAnd g) (atNow f) :=
  Keeps.bind (fun _ => rfl) fun t => keeps_liftStore_of (hf t)

theorem keeps_liftStore {m : StoreM α} (hm : Keeps Store.retriesOf m) : Keeps attempts (liftStore m) :=
  keeps_liftStore_of hm

theorem keeps_tick : Keeps attempts tick := fun _ => rfl

theorem keeps_atNow {f : Stamp → StoreM α} (hf : ∀ t, Keeps Store.retriesOf (f t)) : Keeps attempts (atNow f) :=
  keeps_atNow_of hf

theorem keeps_note (f : Statistics → Statistics) : Keeps attempts (note f) := fun _ => rfl

theorem keeps_guard (r : Except Error α) : Keeps attempts (guard r) := by
  cases r <;> exact fun _ => rfl

theorem keeps_onStorage (f : Storage → Except Error (α × Storage)) : Keeps attempts (onStorage f) := by
  intro w
  show attempts (exec (onStorage f) w).2 = attempts w
  simp only [onStorage, exec_bind, exec_get]
  split <;> rfl

theorem keeps_resolve (system : String) : Keeps attempts (resolve system) :=
  Keeps.get.bind fun _ => keeps_guard _

end Keeping

/-- The node runs workers with the settings `W`, and no child of its store was attempted more often than
their retry policy allows. -/
def Within (W : WorkerSettings) (w : Service) : Prop :=
  w.worker = W ∧ w.store.Capped W.retry.maxRetries

theorem Within.of_attempts {W : WorkerSettings} {w w' : Service} (h : w.Within W) (he : w'.attempts = w.attempts) :
    w'.Within W := by
  obtain ⟨hw, hc⟩ := h
  have hw' : w'.worker = w.worker := congrArg Prod.fst he
  have hr : w'.store.retriesOf = w.store.retriesOf := congrArg Prod.snd he
  exact ⟨hw'.trans hw, hc.of_retriesOf hr⟩

end Service

namespace Pipe

/-- Run a pipeline step from a pipeline: its outcome, and the pipeline it leaves. -/
def exec {α : Type} (m : PipeM α) (p : Pipe) : Except Failure α × Pipe := m.run.run p

section Exec

variable {α β : Type} (p : Pipe)

@[simp] theorem exec_pure (a : α) : exec (pure a : PipeM α) p = (.ok a, p) := rfl

/-- The second step runs from the pipeline the first leaves, unless the first failed. -/
theorem exec_bind (m : PipeM α) (f : α → PipeM β) :
    exec (m >>= f) p = match exec m p with
      | (.ok a, p') => exec (f a) p'
      | (.error e, p') => (.error e, p') := by
  show (ExceptT.bind m f).run.run p = _
  simp only [exec, ExceptT.bind, ExceptT.run, ExceptT.mk, StateT.run, bind, StateT.bind, ExceptT.bindCont]
  rcases m p with ⟨r, p'⟩
  cases r <;> rfl

@[simp] theorem exec_get : exec (get : PipeM Pipe) p = (.ok p, p) := rfl

@[simp] theorem exec_set (p' : Pipe) : exec (set p' : PipeM PUnit) p = (.ok ⟨⟩, p') := rfl

@[simp] theorem exec_throw (e : Failure) : exec (throw e : PipeM α) p = (.error e, p) := rfl

theorem exec_map (f : α → β) (m : PipeM α) : exec (f <$> m) p = ((exec m p).1.map f, (exec m p).2) := by
  rw [← bind_pure_comp, exec_bind]
  rcases exec m p with ⟨_ | a, p'⟩ <;> rfl

theorem exec_lift (m : ServiceM α) :
    exec (lift m) p = ((Service.exec m p.service).1, { p with service := (Service.exec m p.service).2 }) := rfl

end Exec

/-- The settings of the node's workers, and the count of each child. -/
def attempts (p : Pipe) : WorkerSettings × (TaskId → Option Nat) := p.service.attempts

/-- The settings of the node's workers, and what the view `g` reads of its store. -/
def settingsAnd {β : Type} (g : Store → β) (p : Pipe) : WorkerSettings × β := p.service.settingsAnd g

section Keeping

variable {α : Type}

theorem keeps_lift_of {β : Type} {g : Store → β} {m : ServiceM α} (hm : Keeps (Service.settingsAnd g) m) :
    Keeps (settingsAnd g) (lift m) :=
  fun p => hm p.service

theorem keeps_modifyRun_of {β : Type} {g : Store → β} (f : Run → Run) : Keeps (settingsAnd g) (modifyRun f) :=
  fun _ => rfl

theorem keeps_lift {m : ServiceM α} (hm : Keeps Service.attempts m) : Keeps attempts (lift m) :=
  keeps_lift_of hm

/-- An attempt writes what its program writes, whatever the view. -/
theorem keeps_attempt {β : Type} {f : Pipe → β} {m : PipeM α} (hm : Keeps f m) : Keeps f (attempt m) := by
  refine Keeps.tryCatch ?_ fun f => ?_
  · rw [← bind_pure_comp]
    exact hm.bind fun _ => Keeps.pure _
  · cases f with
    | error e => exact Keeps.pure _
    | panic x => exact Keeps.throw _

theorem keeps_tokenCancelled {β : Type} {f : Pipe → β} : Keeps f tokenCancelled := Keeps.get.bind fun _ => Keeps.pure _

section Steady

variable {β : Type} {g : Store → β} (hg : Store.Steady g)
include hg

/-- A reaction of a watch keeps the node's settings and every view of its store that the moves of tasks do not
change: it cancels a token, deregisters a worker, or requests a cancel. -/
theorem keeps_react_of (r : Run) (x : Reaction) : Keeps (settingsAnd g) (react r x) := by
  have hcancel : ∀ target, Keeps (Service.settingsAnd g) (Service.atNow (Store.requestCancel target)) :=
    fun target => Service.keeps_atNow_of fun t => hg.keeps_requestCancel target t
  cases x with
  | cancelToken => exact (keeps_modifyRun_of _).bind fun _ => Keeps.pure _
  | deregister =>
    have hd : Keeps g (Store.deregisterWorker r.worker) :=
      fun s => hg.reassigned s _ (Call.keepsTasks (.deregisterWorker r.worker) rfl s).1
    exact (keeps_lift_of (Service.keeps_liftStore_of hd)).bind fun _ => Keeps.pure _
  | requestCancel target =>
    intro p
    exact hcancel target p.service
  | cancelTransfer target =>
    intro p
    have h := hcancel target p.service
    show settingsAnd g (exec (react r (.cancelTransfer target)) p).2 = _
    simp only [react, exec_bind, exec_get]
    rcases hres : (ExceptT.run (Service.atNow (Store.requestCancel target))).run p.service with ⟨answer, w⟩
    rw [hres] at h
    rw [exec_bind, exec_set]
    refine Eq.trans ?_ h
    cases answer with
    | error e => rfl
    | ok o =>
      dsimp only
      split
      · refine ((keeps_lift_of fun _ => rfl).bind fun _ => Keeps.get.bind fun q => ?_) _
        split
        · exact (keeps_modifyRun_of _).bind fun _ => Keeps.pure _
        · exact Keeps.pure _
      · rfl
  | unknown name => exact Keeps.pure _

theorem keeps_pause_of : Keeps (settingsAnd g) pause := by
  refine Keeps.get.bind fun p => ?_
  split
  · split
    · exact (keeps_modifyRun_of _).bind fun _ => (keeps_react_of hg _ _).bind fun _ => keeps_modifyRun_of _
    · exact Keeps.pure _
  · exact Keeps.pure _

theorem keeps_sleep_of : Keeps (settingsAnd g) sleep := by
  have hwait : Keeps (settingsAnd g) (do pause; if ← tokenCancelled then throw (.error .cancelled) else pure ()) :=
    (keeps_pause_of hg).bind fun _ => keeps_tokenCancelled.bind fun _ => (Keeps.throw _).ite (Keeps.pure _)
  exact keeps_tokenCancelled.bind fun _ => ((Keeps.throw _).bind fun _ => hwait).ite hwait

end Steady

theorem keeps_react (r : Run) (x : Reaction) : Keeps attempts (react r x) :=
  keeps_react_of Store.retriesOf_blind.steady r x

theorem keeps_pause : Keeps attempts pause := keeps_pause_of Store.retriesOf_blind.steady

theorem keeps_sleep : Keeps attempts sleep := keeps_sleep_of Store.retriesOf_blind.steady

theorem keeps_cancelRequested (id : TaskId) : Keeps attempts (cancelRequested id) :=
  keeps_tokenCancelled.bind fun _ =>
    (Keeps.pure _).ite (keeps_lift (Service.keeps_liftStore (Store.keeps_isCancelRequested id)))

theorem keeps_endCopy (src : Source) (sink : Sink) (c : Copying) (r : Except Error Nat) :
    Keeps attempts (endCopy src sink c r) :=
  (keeps_lift fun _ => rfl).bind fun _ => Keeps.pure _

/-- Every event of a copy but a call of another party keeps every count: the copy writes the storage, and
its progress loop writes only byte counts. -/
theorem keeps_copyStep (src : Source) (sink : Sink) (label : String) (task : TaskId) (c : Copying) :
    ∀ e : CopyEvent, (∀ call, e ≠ .outside call) → Keeps attempts (copyStep src sink label task c e)
  | .read, _ => by
    refine (Keeps.pure _).ite (keeps_tokenCancelled.bind fun _ => ((keeps_endCopy _ _ _ _).bind fun _ =>
      Keeps.pure _).ite ?_)
    split
    · exact Keeps.pure _
    · split <;> exact keeps_endCopy _ _ _ _
  | .changed, _ => by
    simp only [copyStep]
    split_ifs <;> exact Keeps.pure _
  | .tick, _ => by
    refine (Keeps.pure _).ite ?_
    split
    · exact Keeps.pure _
    · refine Keeps.get.bind fun _ => (keeps_attempt (keeps_lift (Service.keeps_liftStore
        (Store.retriesOf_blind.steady.keeps_recordProgress _)))).bind fun r => ?_
      split <;> exact Keeps.pure _
  | .pause, _ => keeps_tokenCancelled.bind fun _ => Keeps.ite (keeps_pause.bind fun _ => Keeps.pure _) (Keeps.pure _)
  | .outside call, h => absurd rfl (h call)

theorem keeps_copyRun (src : Source) (sink : Sink) (label : String) (task : TaskId) :
    ∀ (events : List CopyEvent) (c : Copying), (∀ e ∈ events, ∀ call, e ≠ .outside call) →
      Keeps attempts (copyRun src sink label task c events)
  | [], _, _ => Keeps.pure _
  | e :: es, c, h => by
    unfold copyRun
    rw [List.foldlM_cons]
    exact (keeps_copyStep src sink label task c e (h e List.mem_cons_self)).bind fun c' =>
      keeps_copyRun src sink label task es c' fun e' he' => h e' (List.mem_cons_of_mem e he')

/-- What ends a copy is reads and what the progress loop sees. -/
theorem finishing_inside (c : Copying) : ∀ e ∈ finishing c, ∀ call, e ≠ .outside call := by
  rintro e he call rfl
  simp [finishing] at he

/-- On a node, a copy's events are its own and its progress loop's. -/
theorem timedEvents_inside (pieces delay window : Nat) :
    ∀ e ∈ timedEvents pieces delay window, ∀ call, e ≠ .outside call := by
  rintro e he call rfl
  simp only [timedEvents, List.mem_flatMap, List.mem_range] at he
  obtain ⟨i, -, he⟩ := he
  split at he
  · split at he <;> simp at he
  · simp at he

/-- A copy whose events are its own and its progress loop's keeps every count. -/
theorem keeps_copy (src : Source) (sink : Sink) (buffer : Nat) (label : String) (task : TaskId)
    {events : List CopyEvent} (h : ∀ e ∈ events, ∀ call, e ≠ .outside call) :
    Keeps attempts (copy src sink buffer label task events) := by
  unfold copy
  split
  exact (keeps_copyRun _ _ _ _ _ _ h).bind fun c => (keeps_copyRun _ _ _ _ _ _ (finishing_inside c)).bind
    fun _ => Keeps.pure _

theorem keeps_copyOnce (c : Child) : Keeps attempts (copyOnce c) := by
  unfold copyOnce
  refine (keeps_lift (Service.keeps_guard _)).bind fun _ => (keeps_lift (Service.keeps_guard _)).bind fun _ =>
    (keeps_lift (Service.keeps_resolve _)).bind fun _ => (keeps_lift (Service.keeps_resolve _)).bind fun _ =>
    (keeps_lift (Service.keeps_onStorage _)).bind fun _ => (keeps_lift (Service.keeps_onStorage _)).bind fun _ =>
    Keeps.get.bind fun _ => (keeps_copy _ _ _ _ _ (timedEvents_inside _ _ _)).bind fun r => ?_
  cases r with
  | ok n => exact Keeps.pure _
  | error e => exact Keeps.throw _

theorem keeps_finishChild (id : TaskId) (status : Status) (bytes : Nat) (error : Option String) :
    Keeps attempts (finishChild id status bytes error) :=
  Keeps.get.bind fun _ =>
    keeps_lift (Service.keeps_atNow fun _ => Store.retriesOf_blind.steady.keeps_finishChild status bytes error)

/-- Counting an end in the statistics, then ending the child, keeps every count: every way an attempt
ends is one of these. -/
theorem keeps_noteFinish (f : Statistics → Statistics) (id : TaskId) (status : Status) (bytes : Nat)
    (error : Option String) : Keeps attempts (do lift (Service.note f); finishChild id status bytes error) :=
  (keeps_lift (Service.keeps_note f)).bind fun _ => keeps_finishChild id status bytes error

theorem keeps_cancelChild (id : TaskId) : Keeps attempts (cancelChild id) :=
  keeps_noteFinish _ id _ _ _

end Keeping

/-- The pipeline's node is within the settings `W`. -/
def Within (W : WorkerSettings) (p : Pipe) : Prop := p.service.Within W

theorem Within.of_attempts {W : WorkerSettings} {p p' : Pipe} (h : p.Within W) (he : p'.attempts = p.attempts) :
    p'.Within W :=
  Service.Within.of_attempts h he

/-- The pipeline's node is within the settings `W`, and holds `made` as the count of the child `id`. -/
def Ready (W : WorkerSettings) (id : TaskId) (made : Nat) (p : Pipe) : Prop :=
  p.Within W ∧ p.service.store.retriesOf id = some made

theorem Ready.of_attempts {W : WorkerSettings} {id : TaskId} {made : Nat} {p p' : Pipe} (h : p.Ready W id made)
    (he : p'.attempts = p.attempts) : p'.Ready W id made :=
  ⟨h.1.of_attempts he, by rw [← h.2]; exact congrFun (congrArg Prod.snd he) id⟩

/-- From a pipeline where `P` holds, `m` leaves one where `Q` holds, however it ends. -/
def Leads {α : Type} (P Q : Pipe → Prop) (m : PipeM α) : Prop := ∀ p, P p → Q (exec m p).2

namespace Leads

variable {α β : Type} {W : WorkerSettings} {id : TaskId} {made : Nat}

theorem of_keeps {m : PipeM α} (hm : Keeps attempts m) : Leads (Ready W id made) (Within W) m :=
  fun p hp => hp.1.of_attempts (hm p)

/-- A step that keeps the counts leaves the pipeline ready for the next. -/
theorem bind_keeps {m : PipeM α} {k : α → PipeM β} (hm : Keeps attempts m)
    (hk : ∀ a, Leads (Ready W id made) (Within W) (k a)) : Leads (Ready W id made) (Within W) (m >>= k) := by
  intro p hp
  have he : (exec m p).2.attempts = p.attempts := hm p
  rw [exec_bind]
  rcases hr : exec m p with ⟨_ | a, p₁⟩
  all_goals rw [hr] at he
  · exact hp.1.of_attempts he
  · exact hk a p₁ (hp.of_attempts he)

theorem ite {P Q : Pipe → Prop} {c : Prop} [Decidable c] {m m' : PipeM α} (hm : Leads P Q m) (hm' : Leads P Q m') :
    Leads P Q (if c then m else m') := by
  split
  · exact hm
  · exact hm'

theorem bind_get {P Q : Pipe → Prop} {k : Pipe → PipeM α} (hk : ∀ p₀, P p₀ → Leads P Q (k p₀)) :
    Leads P Q (get >>= k) :=
  fun p hp => hk p hp p hp

/-- An attempt started below the bound, from the count the store holds, leaves the pipeline ready with the
count it gives. -/
theorem bind_begin {v : WorkerId} {k : Child → PipeM α} (hlt : made < W.retry.maxRetries)
    (hk : ∀ c, Leads (Ready W id c.retries) (Within W) (k c)) :
    Leads (Ready W id made) (Within W) (lift (Service.atNow (Store.beginChildAttempt id v)) >>= k) := by
  intro p hp
  obtain ⟨⟨hw, hcap⟩, hmade⟩ := hp
  have hcap' := hcap.beginChildAttempt hmade hlt v p.service.now
  rw [exec_bind, exec_lift, Service.exec_atNow]
  rcases hr : Store.exec (Store.beginChildAttempt id v p.service.now) p.service.store with ⟨_ | c, s'⟩
  all_goals rw [hr] at hcap'
  · exact ⟨hw, hw ▸ hcap'⟩
  · obtain ⟨_, -, -, hc, -⟩ := Store.exec_beginChildAttempt_ok hr
    exact hk c _ ⟨⟨hw, hw ▸ hcap'⟩, hc⟩

end Leads

theorem attemptChild_within (id : TaskId) (W : WorkerSettings) :
    ∀ fuel made, Leads (Ready W id made) (Within W) (attemptChild id fuel made)
  | 0, made => Leads.of_keeps (keeps_noteFinish _ _ _ _ _)
  | fuel + 1, made => by
    simp only [attemptChild]
    refine Leads.bind_keeps (keeps_cancelRequested id) fun b => ?_
    refine Leads.ite (Leads.of_keeps (keeps_cancelChild id)) (Leads.bind_get fun p₀ hp₀ => ?_)
    rw [hp₀.1.1]
    by_cases hc : W.retry.canRetry made = true
    · rw [if_neg (by simp [hc])]
      refine Leads.bind_get fun _ _ => Leads.bind_begin (by simpa [RetryPolicy.canRetry] using hc) fun c => ?_
      refine Leads.bind_keeps (keeps_lift (Service.keeps_note _)) fun _ =>
        Leads.bind_keeps (keeps_attempt (keeps_copyOnce c)) fun r => ?_
      split
      · exact Leads.of_keeps (keeps_noteFinish _ _ _ _ _)
      · exact Leads.of_keeps (keeps_cancelChild id)
      · -- a retry waits, then starts over from the count the attempt gave
        refine Leads.ite (Leads.bind_keeps (keeps_attempt keeps_sleep) fun r => ?_)
          (Leads.ite (Leads.of_keeps (Keeps.throw _))
            (Leads.of_keeps (keeps_noteFinish _ _ _ _ _)))
        split
        · exact Leads.of_keeps (keeps_cancelChild id)
        · exact attemptChild_within id W fuel c.retries
    · rw [if_pos (by simp [hc])]
      exact Leads.of_keeps (keeps_noteFinish _ _ _ _ _)

/-- A whole child pipeline leaves its node within the settings it found it within. -/
theorem runChild_within (id : TaskId) (W : WorkerSettings) : Leads (Within W) (Within W) (runChild id) := by
  intro p hp
  unfold runChild
  rw [exec_bind, exec_lift, Service.exec_liftStore]
  cases hc : Table.find? p.service.store.children id with
  | none =>
    rw [Store.exec_child_of_none hc]
    exact hp
  | some c =>
    rw [Store.exec_child_of_find hc]
    dsimp only
    rw [exec_bind, exec_get]
    exact attemptChild_within id W _ c.retries _ ⟨hp, by simp [Store.retriesOf, hc]⟩

end Pipe

namespace Service

/-- A store operation that a call writing no task runs keeps every count. -/
theorem keeps_of_call {α : Type} {m : StoreM α} (c : Call) (hc : c.writesTasks = false) (hm : c.run = Functor.discard m) :
    Keeps Store.retriesOf m := fun s => by
  have h := (c.keepsTasks hc s).1.retriesOf_eq
  rw [hm, Store.exec_discard_state] at h
  exact h

theorem keeps_cutoff : Keeps attempts cutoff := by
  refine Keeps.get.bind fun _ => ?_
  dsimp only
  refine Keeps.ite ((Keeps.throw _).bind fun _ => ?_) ?_
  all_goals exact keeps_tick.bind fun _ => Keeps.ite ((Keeps.throw _).bind fun _ => Keeps.pure _) (Keeps.pure _)

/-- Taking deliveries off a queue writes only the queues. -/
theorem keeps_intake (kind : Kind) (report : CycleReport) : Keeps attempts (intake kind report) := fun w => by
  obtain ⟨r, qs, h, -⟩ := exec_intake kind report w
  show attempts (exec (intake kind report) w).2 = attempts w
  rw [h]
  rfl

/-- Handing tasks out only says who holds them. -/
theorem keeps_assignAll (kind : Kind) (plan : List (WorkerId × List TaskId)) : Keeps attempts (assignAll kind plan) :=
  Keeps.foldlM (fun _ ⟨v, _⟩ => Keeps.foldlM (fun _ id =>
    (keeps_atNow fun _ => keeps_of_call (.assign kind id v) rfl rfl).bind fun _ => (Keeps.pure _).ite (Keeps.pure _))
      _ _) _ _

/-- A dispatcher cycle evicts workers, releases and hands out tasks, and touches no count. -/
theorem keeps_runCycle (kind : Kind) : Keeps attempts (runCycle kind) := by
  unfold runCycle
  refine keeps_cutoff.bind fun c => (keeps_liftStore (keeps_of_call (.evictStale c) rfl rfl)).bind fun _ =>
    (keeps_atNow fun _ => keeps_of_call (.clearOrphans kind) rfl rfl).bind fun _ => (keeps_intake _ _).bind fun _ =>
    (keeps_atNow fun _ => keeps_of_call (.backlogs kind) rfl rfl).bind fun _ => Keeps.get.bind fun _ => ?_
  dsimp only
  refine (Keeps.pure _).ite ?_
  split <;> refine Keeps.bind ?_ fun _ => (keeps_atNow fun _ => keeps_of_call (.readyIds kind _) rfl rfl).bind
    fun _ => (keeps_assignAll kind _).bind fun _ => Keeps.pure _
  exacts [Keeps.pure _, Keeps.throw _]

theorem pipeline_within {r : Run} (hr : r.kind = .child) {W : WorkerSettings} {w : Service} (hw : w.Within W) :
    (exec (pipeline r) w).2.Within W := by
  have h := Pipe.runChild_within r.task W ⟨w, r⟩ hw
  unfold pipeline
  simp only [exec, hr, ExceptT.mk, StateT.run, ExceptT.run]
  rw [show (TaskRecord.child <$> Pipe.runChild r.task) ⟨w, r⟩ =
    Pipe.exec (TaskRecord.child <$> Pipe.runChild r.task) ⟨w, r⟩ from rfl, Pipe.exec_map]
  rcases hx : Pipe.exec (Pipe.runChild r.task) ⟨w, r⟩ with ⟨f | _, p⟩
  all_goals rw [hx] at h
  · cases f <;> exact h
  · exact h

/-! ## Pipelines one after another -/

/-- One step of a node on which the pipelines of a child run one after another: a call of the store that
starts no attempt (a submission, a cancel, a step a worker reports, a heartbeat, a deregistration), a
dispatcher cycle, or a whole child pipeline of some worker, beside whatever watch. -/
inductive SerialStep : Service → Service → Prop where
  | call (c : Call) (hc : c.startsAttempt = false) (w : Service) :
      SerialStep w { w with store := (Store.exec c.run w.store).2 }
  | cycle (kind : Kind) (w : Service) : SerialStep w (exec (runCycle kind) w).2
  | pipeline (r : Run) (hr : r.kind = .child) (w : Service) : SerialStep w (exec (pipeline r) w).2

theorem SerialStep.within {w w' : Service} (h : SerialStep w w') {W : WorkerSettings} (hw : w.Within W) :
    w'.Within W := by
  cases h with
  | call c hc => exact ⟨hw.1, c.capped hc hw.2⟩
  | cycle kind => exact hw.of_attempts (keeps_runCycle kind w)
  | pipeline r hr => exact pipeline_within hr hw

/-- Calls that start no attempt, made in turn, are steps of a serial run. -/
theorem SerialStep.foldl_calls (w : Service) : ∀ cs : List Call, (∀ c ∈ cs, c.startsAttempt = false) →
    Relation.ReflTransGen SerialStep w { w with store := cs.foldl (fun s c => (Store.exec c.run s).2) w.store }
  | [], _ => .refl
  | c :: cs, h => (Relation.ReflTransGen.single (.call c (h c List.mem_cons_self) w)).trans
      (foldl_calls _ cs fun c' hc' => h c' (List.mem_cons_of_mem c hc'))

/-- On a node whose child pipelines run one after another, with any calls of the store and dispatcher
cycles before, between and after them, no child is ever attempted more often than the retry policy of the
node's workers allows, if none was at the start. -/
theorem retries_capped_of_serial {w w' : Service} (h : Relation.ReflTransGen SerialStep w w')
    (hcap : w.store.Capped w.worker.retry.maxRetries) : w'.store.Capped w.worker.retry.maxRetries := by
  suffices hw : w'.Within w.worker from hw.2
  induction h with
  | refl => exact ⟨rfl, hcap⟩
  | tail _ step ih => exact step.within ih

/-- A node whose workers may make one attempt: a worker registers, a transfer of one parent is staged into
one child, a dispatcher cycle hands the child out, and the worker's pipeline runs it. -/
theorem staged_child_run_capped :
    let t₀ : Top := Top.fresh ⟨⟨1⟩⟩ "ta" "alice" none 0
    let p₀ : Parent := Parent.fresh ⟨⟨2⟩⟩ t₀ "mem://src/a" "mem://dst/a" false 1
    let v : WorkerId := ⟨⟨4⟩⟩
    let w₀ : Service := fresh ⟨⟨1, 100, 1000, 2.0⟩, 4096, 100, 8, 100⟩ ⟨1000, 2, 10, 10, 10⟩
    let calls : List Call := [.registerWorker ⟨v, "h1", 0, 0⟩, .createTransfer t₀ [p₀], .assign .parent p₀.id v,
      .beginStaging p₀.id v 1, .commitStaging p₀.id v [⟨"/src/a", "/dst/a", 1⟩] 2, .startParent p₀.id v 3]
    let w₁ : Service := { w₀ with store := calls.foldl (fun s c => (Store.exec c.run s).2) w₀.store }
    let w₂ : Service := (exec (runCycle .child) w₁).2
    let w₃ : Service := (exec (pipeline ⟨v, .child, ⟨Uuid.spawned 0⟩, false, none⟩) w₂).2
    Relation.ReflTransGen SerialStep w₀ w₃ ∧ w₀.store.Capped w₀.worker.retry.maxRetries ∧
      w₃.store.Capped w₀.worker.retry.maxRetries := by
  intro t₀ p₀ v w₀ calls w₁ w₂ w₃
  have hcalls : ∀ c ∈ calls, c.startsAttempt = false := fun c hc => by
    simp only [calls, List.mem_cons, List.not_mem_nil, or_false] at hc
    rcases hc with rfl | rfl | rfl | rfl | rfl | rfl <;> rfl
  have hrun : Relation.ReflTransGen SerialStep w₀ w₃ :=
    ((SerialStep.foldl_calls w₀ calls hcalls).tail (.cycle .child w₁)).tail
      (.pipeline ⟨v, .child, ⟨Uuid.spawned 0⟩, false, none⟩ rfl w₂)
  have hcap : w₀.store.Capped w₀.worker.retry.maxRetries := fun _ _ h => by cases h
  exact ⟨hrun, hcap, retries_capped_of_serial hrun hcap⟩

end Service

end Conveyor
