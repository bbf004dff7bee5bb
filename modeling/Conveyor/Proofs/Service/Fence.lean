import Conveyor.Proofs.Service.Endings

/-!
# What fences a copy

A copy inside a child pipeline runs joined with the loop that stores its progress, beside the calls the node's
other parties make on the store; a run of it is any order of their events (`Pipe.copyRun`). The copy looks at
the store only through the loop's writes, made at a tick when the throttle hands out a total it did not hand
out last. That write is the copy's fence:

* a write refused because the child is not the worker's stops the copy and ends the loop with `NotOwner`
  (`Pipe.exec_tick_refused`);
* a fenced copy stays fenced whatever comes after: a read ends it unfinished or finds it ended, and the loop
  does nothing more (`Pipe.Fenced.copyStep`);
* the copy writes the storage only when it ends, once, delivering what it read to its sink
  (`Pipe.Delivered.copyStep`).

So in every run in which, while the copy and its loop both still run and the child is not the worker's, a tick
finds a total to store, the copy fails with `NotOwner` and leaves its destination unfinished
(`Pipe.refused_write_fences_copy`). A reclaim that no write follows is not seen: on a node, a copy that ends
before its first tick completes its destination for a child its worker no longer holds
(`Pipe.reclaimed_child_copy_completes`).
-/

namespace Conveyor

namespace Pipe

variable {α : Type}

/-! ## The storage a copy leaves -/

/-- The storage of the pipeline's node. -/
def storage (p : Pipe) : Storage := p.service.storage

section Storage

theorem keeps_storage_lift {m : ServiceM α} (hm : Keeps Service.storage m) : Keeps storage (lift m) :=
  fun p => hm p.service

theorem keeps_storage_liftStore (m : StoreM α) : Keeps Service.storage (Service.liftStore m) := fun _ => rfl

theorem keeps_storage_atNow (f : Stamp → StoreM α) : Keeps Service.storage (Service.atNow f) := fun _ => rfl

theorem keeps_storage_modifyRun (f : Run → Run) : Keeps storage (modifyRun f) := fun _ => rfl

theorem keeps_storage_react (r : Run) (x : Reaction) : Keeps storage (react r x) := by
  cases x with
  | cancelToken => exact (keeps_storage_modifyRun _).bind fun _ => Keeps.pure _
  | deregister => exact (keeps_storage_lift (keeps_storage_liftStore _)).bind fun _ => Keeps.pure _
  | requestCancel target => exact fun _ => rfl
  | cancelTransfer target =>
    intro p
    show storage (exec (react r (.cancelTransfer target)) p).2 = storage p
    simp only [react, exec_bind, exec_get]
    rcases hres : (ExceptT.run (Service.atNow (Store.requestCancel target))).run p.service with ⟨answer, w⟩
    have hw : w.storage = p.service.storage := by
      have h := keeps_storage_atNow (Store.requestCancel target) p.service
      rwa [show (ExceptT.run (Service.atNow (Store.requestCancel target))).run p.service = (answer, w) from hres] at h
    rw [exec_bind, exec_set]
    refine Eq.trans ?_ hw
    cases answer with
    | error e => rfl
    | ok o =>
      dsimp only
      split
      · refine ((keeps_storage_lift fun _ => rfl).bind fun _ => Keeps.get.bind fun q => ?_) _
        split
        · exact (keeps_storage_modifyRun _).bind fun _ => Keeps.pure _
        · exact Keeps.pure _
      · rfl
  | unknown name => exact Keeps.pure _

theorem keeps_storage_pause : Keeps storage pause := by
  refine Keeps.get.bind fun p => ?_
  split
  · split
    · exact (keeps_storage_modifyRun _).bind fun _ => (keeps_storage_react _ _).bind fun _ =>
        keeps_storage_modifyRun _
    · exact Keeps.pure _
  · exact Keeps.pure _

end Storage

/-! ## The events of a copy -/

/-- An attempt gives the error its program stopped with as its result, keeping what it wrote. -/
theorem exec_attempt (m : PipeM α) (p : Pipe) :
    exec (attempt m) p = match exec m p with
      | (.ok a, p') => (.ok (.ok a), p')
      | (.error (.error e), p') => (.ok (.error e), p')
      | (.error (.panic x), p') => (.error (.panic x), p') := by
  show (ExceptT.tryCatch (Except.ok <$> m) _).run.run p = _
  simp only [ExceptT.tryCatch, ExceptT.run, ExceptT.mk, StateT.run, Bind.bind, StateT.bind]
  have hmap : (Except.ok <$> m : PipeM (Except Error α)) p = ((exec m p).1.map Except.ok, (exec m p).2) :=
    exec_map p _ m
  rw [hmap]
  rcases exec m p with ⟨_ | a, p'⟩
  · rename_i f
    cases f <;> rfl
  · rfl

section Events

variable {src : Source} {sink : Sink} {label : String} {task : TaskId} {c : Copying} {p : Pipe}

theorem exec_endCopy (r : Except Error Nat) :
    exec (endCopy src sink c r) p = (.ok { c with copied := some r },
      ⟨{ p.service with storage := p.service.storage.deliver sink (src.data.take c.read) r.toBool }, p.run⟩) :=
  rfl

theorem exec_read_ended (h : c.copied.isSome) : exec (copyStep src sink label task c .read) p = (.ok c, p) := by
  simp [copyStep, h]

/-- A read of a running copy whose token is cancelled, or which its progress loop stopped, ends it. -/
theorem exec_read_stopped (h : c.copied = none) (hs : (p.run.cancelled || c.stopped) = true) :
    exec (copyStep src sink label task c .read) p = exec (endCopy src sink c (.error .cancelled)) p := by
  rw [Bool.or_eq_true] at hs
  simp only [copyStep, h, Option.isSome_none, Bool.false_eq_true, if_false, exec_bind, tokenCancelled, exec_get,
    exec_pure, Bool.or_eq_true, if_pos hs]

theorem exec_read_piece (h : c.copied = none) (hs : (p.run.cancelled || c.stopped) = false) {n : Nat}
    {rest : List Nat} (hp : c.pieces = n :: rest) :
    exec (copyStep src sink label task c .read) p = (.ok { c with pieces := rest, read := c.read + n, seen := false }, p) := by
  have hs' : ¬(p.run.cancelled = true ∨ c.stopped = true) := by simpa using hs
  simp only [copyStep, h, Option.isSome_none, Bool.false_eq_true, if_false, exec_bind, tokenCancelled, exec_get,
    exec_pure, Bool.or_eq_true, if_neg hs', hp]

/-- A read at the end of the source ends the copy: with the failure the source breaks off with, or with the
bytes read. -/
theorem exec_read_end (h : c.copied = none) (hs : (p.run.cancelled || c.stopped) = false) (hp : c.pieces = []) :
    exec (copyStep src sink label task c .read) p = exec (endCopy src sink c (match c.fault with
      | some b => .error (Error.ofIo b.kind b.text label)
      | none => .ok c.read)) p := by
  have hs' : ¬(p.run.cancelled = true ∨ c.stopped = true) := by simpa using hs
  simp only [copyStep, h, Option.isSome_none, Bool.false_eq_true, if_false, exec_bind, tokenCancelled, exec_get,
    exec_pure, Bool.or_eq_true, if_neg hs', hp]
  cases c.fault <;> rfl

theorem exec_changed : exec (copyStep src sink label task c .changed) p =
    (.ok (if c.persisted.isSome then c
      else if !c.seen then { c with throttle := c.throttle.offer c.read, seen := true }
      else if c.copied.isSome then { c with persisted := some (.ok ()) }
      else c), p) := by
  simp only [copyStep]
  split_ifs <;> rfl

theorem exec_tick_ended (h : c.persisted.isSome) : exec (copyStep src sink label task c .tick) p = (.ok c, p) := by
  simp [copyStep, h]

theorem exec_tick_idle (h : c.persisted = none) {t : Throttle} (ht : c.throttle.take = (none, t)) :
    exec (copyStep src sink label task c .tick) p = (.ok { c with throttle := t }, p) := by
  simp [copyStep, h, ht]

/-- A tick that hands out a total for a child the worker holds stores it. -/
theorem exec_tick_held (h : c.persisted = none) {b : Nat} {t : Throttle} (ht : c.throttle.take = (some b, t))
    {d : Child} (hd : Table.find? p.service.store.children task = some d) (hw : d.worker = some p.run.worker) :
    exec (copyStep src sink label task c .tick) p = (.ok { c with throttle := t, sent := c.sent ++ [b] },
      ⟨{ p.service with store := (Store.exec (Store.setChildBytes task b) p.service.store).2 }, p.run⟩) := by
  simp only [copyStep, h, Option.isSome_none, Bool.false_eq_true, if_false, ht, exec_bind, exec_get]
  rw [exec_attempt, exec_lift, Service.exec_liftStore, Store.exec_recordProgress_held hd hw,
    Store.exec_setChildBytes_ok]
  rfl

/-- A tick that hands out a total for a child another worker holds, or none, stops the copy and ends the
progress loop with `NotOwner`, and writes nothing. -/
theorem exec_tick_refused (h : c.persisted = none) {b : Nat} {t : Throttle} (ht : c.throttle.take = (some b, t))
    {d : Child} (hd : Table.find? p.service.store.children task = some d) (hw : d.worker ≠ some p.run.worker) :
    exec (copyStep src sink label task c .tick) p =
      (.ok { c with
        throttle := t, sent := c.sent ++ [b], stopped := true, persisted := some (.error (.notOwner task)) }, p) := by
  simp only [copyStep, h, Option.isSome_none, Bool.false_eq_true, if_false, ht, exec_bind, exec_get]
  rw [exec_attempt, exec_lift, Service.exec_liftStore, Store.exec_recordProgress_unheld hd hw]
  rfl

theorem exec_tick_missing (h : c.persisted = none) {b : Nat} {t : Throttle} (ht : c.throttle.take = (some b, t))
    (hd : Table.find? p.service.store.children task = none) :
    exec (copyStep src sink label task c .tick) p = (.ok { c with throttle := t, sent := c.sent ++ [b] }, p) := by
  simp only [copyStep, h, Option.isSome_none, Bool.false_eq_true, if_false, ht, exec_bind, exec_get]
  rw [exec_attempt, exec_lift, Service.exec_liftStore, Store.exec_recordProgress_of_none hd]
  rfl

/-- A wait leaves the copy as it is; the watch may act in it. -/
theorem exec_pause_copy : exec (copyStep src sink label task c .pause) p =
    match exec (if (c.copied.isNone && !(p.run.cancelled || c.stopped)) = true then pause else pure ()) p with
    | (.ok _, p') => (.ok c, p')
    | (.error e, p') => (.error e, p') := by
  simp only [copyStep, exec_bind, tokenCancelled, exec_get, exec_pure]
  split
  · rw [exec_bind]
    rcases exec pause p with ⟨_ | _, _⟩ <;> rfl
  · rfl

theorem exec_pause_quiet {p : Pipe} (hq : p.run.watch = none) : exec pause p = (.ok (), p) := by
  simp [pause, exec_bind, hq]

theorem exec_pause_copy_quiet (hq : p.run.watch = none) :
    exec (copyStep src sink label task c .pause) p = (.ok c, p) := by
  have he : exec (if (c.copied.isNone && !(p.run.cancelled || c.stopped)) = true then pause else pure ()) p =
      (.ok (), p) := by
    split
    · exact exec_pause_quiet hq
    · rfl
  rw [exec_pause_copy, he]

theorem exec_outside (call : Call) : exec (copyStep src sink label task c (.outside call)) p =
    (.ok c, ⟨{ p.service with store := (Store.exec call.run p.service.store).2 }, p.run⟩) := rfl

end Events

/-! ## What one event does -/

section Moves

variable {src : Source} {sink : Sink} {label : String} {task : TaskId}

/-- What one event of a copy does to the copy and its pipeline, one case for each way it can go: the event
changes nothing; a read stops the copy, takes a piece, or ends the copy at the end of the source; the progress
loop offers the total it sees, or ends; a tick hands out nothing, or a total that the store takes, refuses, or
finds no child for; the pipeline waits; another party calls the store. Every step of a copy is one of these
(`CopyMove.of_exec`). -/
inductive CopyMove (src : Source) (sink : Sink) (label : String) (task : TaskId) (c : Copying) (p : Pipe) :
    CopyEvent → Copying → Pipe → Prop where
  | still (e : CopyEvent) : CopyMove src sink label task c p e c p
  | stop : c.copied = none → (p.run.cancelled || c.stopped) = true →
      CopyMove src sink label task c p .read { c with copied := some (.error .cancelled) }
        ⟨{ p.service with storage := p.service.storage.deliver sink (src.data.take c.read) false }, p.run⟩
  | piece {n : Nat} {rest : List Nat} : c.copied = none → (p.run.cancelled || c.stopped) = false →
      c.pieces = n :: rest →
      CopyMove src sink label task c p .read { c with pieces := rest, read := c.read + n, seen := false } p
  | finish {r : Except Error Nat} : c.copied = none → (p.run.cancelled || c.stopped) = false → c.pieces = [] →
      r = (match c.fault with
        | some b => .error (Error.ofIo b.kind b.text label)
        | none => .ok c.read) →
      CopyMove src sink label task c p .read { c with copied := some r }
        ⟨{ p.service with storage := p.service.storage.deliver sink (src.data.take c.read) r.toBool }, p.run⟩
  | offer : c.persisted = none → c.seen = false →
      CopyMove src sink label task c p .changed { c with throttle := c.throttle.offer c.read, seen := true } p
  | close : c.persisted = none → c.seen = true → c.copied.isSome →
      CopyMove src sink label task c p .changed { c with persisted := some (.ok ()) } p
  | idle {t : Throttle} : c.persisted = none → c.throttle.take = (none, t) →
      CopyMove src sink label task c p .tick { c with throttle := t } p
  | store {b : Nat} {t : Throttle} {d : Child} : c.persisted = none → c.throttle.take = (some b, t) →
      Table.find? p.service.store.children task = some d → d.worker = some p.run.worker →
      CopyMove src sink label task c p .tick { c with throttle := t, sent := c.sent ++ [b] }
        ⟨{ p.service with store := (Store.exec (Store.setChildBytes task b) p.service.store).2 }, p.run⟩
  | refuse {b : Nat} {t : Throttle} {d : Child} : c.persisted = none → c.throttle.take = (some b, t) →
      Table.find? p.service.store.children task = some d → d.worker ≠ some p.run.worker →
      CopyMove src sink label task c p .tick { c with
        throttle := t, sent := c.sent ++ [b], stopped := true, persisted := some (.error (.notOwner task)) } p
  | miss {b : Nat} {t : Throttle} : c.persisted = none → c.throttle.take = (some b, t) →
      Table.find? p.service.store.children task = none →
      CopyMove src sink label task c p .tick { c with throttle := t, sent := c.sent ++ [b] } p
  | wait {p' : Pipe} :
      exec (if (c.copied.isNone && !(p.run.cancelled || c.stopped)) = true then pause else pure ()) p = (.ok (), p') →
      CopyMove src sink label task c p .pause c p'
  | call (call : Call) : CopyMove src sink label task c p (.outside call) c
      ⟨{ p.service with store := (Store.exec call.run p.service.store).2 }, p.run⟩

/-- Every event but a wait takes place, and moves the copy in one of the ways `CopyMove` lists. -/
theorem CopyMove.exists (c : Copying) (p : Pipe) {e : CopyEvent} (he : e ≠ .pause) :
    ∃ c' p', exec (copyStep src sink label task c e) p = (.ok c', p') ∧ CopyMove src sink label task c p e c' p' := by
  cases e with
  | read =>
    cases hc : c.copied with
    | some r => exact ⟨_, _, exec_read_ended (by simp [hc]), .still _⟩
    | none =>
      cases hs : (p.run.cancelled || c.stopped) with
      | true => exact ⟨_, _, (exec_read_stopped hc hs).trans (exec_endCopy _), .stop hc hs⟩
      | false =>
        cases hp : c.pieces with
        | cons n rest => exact ⟨_, _, exec_read_piece hc hs hp, .piece hc hs hp⟩
        | nil => exact ⟨_, _, (exec_read_end hc hs hp).trans (exec_endCopy _), .finish hc hs hp rfl⟩
  | changed =>
    refine ⟨_, _, exec_changed, ?_⟩
    split_ifs with h₁ h₂ h₃
    · exact .still _
    · exact .offer (by simpa using h₁) (by simpa using h₂)
    · exact .close (by simpa using h₁) (by simpa using h₂) h₃
    · exact .still _
  | tick =>
    cases hl : c.persisted with
    | some _ => exact ⟨_, _, exec_tick_ended (by simp [hl]), .still _⟩
    | none =>
      rcases ht : c.throttle.take with ⟨_ | b, t⟩
      · exact ⟨_, _, exec_tick_idle hl ht, .idle hl ht⟩
      · cases hd : Table.find? p.service.store.children task with
        | none => exact ⟨_, _, exec_tick_missing hl ht hd, .miss hl ht hd⟩
        | some d =>
          by_cases hw : d.worker = some p.run.worker
          · exact ⟨_, _, exec_tick_held hl ht hd hw, .store hl ht hd hw⟩
          · exact ⟨_, _, exec_tick_refused hl ht hd hw, .refuse hl ht hd hw⟩
  | pause => exact absurd rfl he
  | outside call => exact ⟨_, _, exec_outside call, .call call⟩

theorem CopyMove.of_exec {c c' : Copying} {p p' : Pipe} {e : CopyEvent}
    (h : exec (copyStep src sink label task c e) p = (.ok c', p')) : CopyMove src sink label task c p e c' p' := by
  by_cases he : e = .pause
  · subst he
    rw [exec_pause_copy] at h
    rcases hw : exec (if (c.copied.isNone && !(p.run.cancelled || c.stopped)) = true then pause else pure ()) p
      with ⟨_ | ⟨⟩, p₁⟩ <;> rw [hw] at h
    · cases h
    · cases h
      exact .wait hw
  · obtain ⟨c₁, p₁, h₁, hm⟩ := CopyMove.exists c p he
    rw [h₁] at h
    cases h
    exact hm

/-- Only a wait changes the pipeline's run. -/
theorem CopyMove.run_eq {c c' : Copying} {p p' : Pipe} {e : CopyEvent}
    (hm : CopyMove src sink label task c p e c' p') (he : e ≠ .pause) : p'.run = p.run := by
  cases hm <;> first | rfl | exact absurd rfl he

/-- With nothing watching the pipeline, every event of a copy takes place and leaves the pipeline's run as it
was. -/
theorem copyStep_quiet (c : Copying) (e : CopyEvent) {p : Pipe} (hq : p.run.watch = none) :
    ∃ c' p', exec (copyStep src sink label task c e) p = (.ok c', p') ∧ p'.run = p.run := by
  by_cases he : e = .pause
  · subst he
    exact ⟨c, p, exec_pause_copy_quiet hq, rfl⟩
  · obtain ⟨c', p', h, hm⟩ := CopyMove.exists c p he
    exact ⟨c', p', h, hm.run_eq he⟩

/-- A copy that ended stays ended with the same result, and so does its progress loop. -/
theorem CopyMove.ended {c c' : Copying} {p p' : Pipe} {e : CopyEvent} (hm : CopyMove src sink label task c p e c' p') :
    (c.copied.isSome → c'.copied = c.copied) ∧ (c.persisted.isSome → c'.persisted = c.persisted) := by
  cases hm <;> simp_all

/-- A wait writes no storage. -/
theorem wait_storage {c : Copying} {p p' : Pipe}
    (h : exec (if (c.copied.isNone && !(p.run.cancelled || c.stopped)) = true then pause else pure ()) p = (.ok (), p')) :
    p'.service.storage = p.service.storage := by
  have hk : Keeps storage (if (c.copied.isNone && !(p.run.cancelled || c.stopped)) = true then pause else pure ()) :=
    keeps_storage_pause.ite (Keeps.pure _)
  have := hk p
  rwa [show (if (c.copied.isNone && !(p.run.cancelled || c.stopped)) = true then pause else pure ()).run.run p =
    (.ok (), p') from h] at this

end Moves

/-! ## Runs of a copy -/

section Runs

variable {src : Source} {sink : Sink} {label : String} {task : TaskId}

@[simp] theorem exec_copyRun_nil (c : Copying) (p : Pipe) : exec (copyRun src sink label task c []) p = (.ok c, p) :=
  rfl

theorem copyRun_cons (c : Copying) (e : CopyEvent) (es : List CopyEvent) :
    copyRun src sink label task c (e :: es) =
      copyStep src sink label task c e >>= fun c' => copyRun src sink label task c' es :=
  List.foldlM_cons ..

theorem copyRun_append (c : Copying) (es es' : List CopyEvent) :
    copyRun src sink label task c (es ++ es') =
      copyRun src sink label task c es >>= fun c' => copyRun src sink label task c' es' :=
  List.foldlM_append ..

/-- A copy runs its events from the pieces and fault of its source, then what ends it and its progress loop,
and gives the outcome. -/
theorem copy_eq (src : Source) (sink : Sink) (buffer : Nat) (label : String) (task : TaskId)
    (events : List CopyEvent) :
    copy src sink buffer label task events = (do
      let c ← copyRun src sink label task { pieces := (src.pieces buffer).1, fault := (src.pieces buffer).2 } events
      let c ← copyRun src sink label task c (finishing c)
      return c.outcome) :=
  rfl

/-- **Run lemma.** What every move of a run's events keeps, from the copy and pipeline it starts from, holds at
the end of the run. -/
theorem copyRun_inv (I : Copying → Pipe → Prop) :
    ∀ {events : List CopyEvent} {c c' : Copying} {p p' : Pipe},
      (∀ e ∈ events, ∀ c p c' p', I c p → CopyMove src sink label task c p e c' p' → I c' p') →
      I c p → exec (copyRun src sink label task c events) p = (.ok c', p') → I c' p'
  | [], _, _, _, _, _, hI, h => by
    rw [exec_copyRun_nil] at h
    cases h
    exact hI
  | e :: es, c, c', p, p', hstep, hI, h => by
    rw [copyRun_cons, exec_bind] at h
    rcases he : exec (copyStep src sink label task c e) p with ⟨_ | c₁, p₁⟩ <;> rw [he] at h
    · cases h
    · exact copyRun_inv I (fun e' he' => hstep e' (List.mem_cons_of_mem e he'))
        (hstep e List.mem_cons_self c p c₁ p₁ hI (CopyMove.of_exec he)) h

/-- With nothing watching the pipeline, every run of a copy takes place and leaves the pipeline's run as it
was. -/
theorem copyRun_quiet : ∀ (events : List CopyEvent) (c : Copying) {p : Pipe}, p.run.watch = none →
    ∃ c' p', exec (copyRun src sink label task c events) p = (.ok c', p') ∧ p'.run = p.run
  | [], c, p, _ => ⟨c, p, rfl, rfl⟩
  | e :: es, c, p, hq => by
    obtain ⟨c₁, p₁, h₁, hr₁⟩ := @copyStep_quiet src sink label task c e p hq
    obtain ⟨c₂, p₂, h₂, hr₂⟩ := @copyRun_quiet es c₁ p₁ (hr₁ ▸ hq)
    exact ⟨c₂, p₂, by rw [copyRun_cons, exec_bind, h₁]; exact h₂, hr₂.trans hr₁⟩

/-- A copy that ended stays ended along every run. -/
theorem copyRun_copied {c c' : Copying} {p p' : Pipe} {events : List CopyEvent} (hc : c.copied.isSome)
    (h : exec (copyRun src sink label task c events) p = (.ok c', p')) : c'.copied.isSome :=
  copyRun_inv (fun c _ => c.copied.isSome = true) (fun _ _ _ _ _ _ hI hm => (hm.ended.1 hI).symm ▸ hI) hc h

/-- Reads, one more than the pieces left, end a copy. -/
theorem reads_end : ∀ (n : Nat) (c : Copying) (p : Pipe) {c' : Copying} {p' : Pipe}, c.pieces.length < n →
    exec (copyRun src sink label task c (List.replicate n .read)) p = (.ok c', p') → c'.copied.isSome
  | 0, _, _, _, _, hn, _ => absurd hn (Nat.not_lt_zero _)
  | n + 1, c, p, c', p', hn, h => by
    rw [List.replicate_succ, copyRun_cons, exec_bind] at h
    cases hc : c.copied with
    | some r =>
      rw [exec_read_ended (by simp [hc])] at h
      exact copyRun_copied (by simp [hc]) h
    | none =>
      cases hs : (p.run.cancelled || c.stopped) with
      | true =>
        rw [exec_read_stopped hc hs, exec_endCopy] at h
        exact copyRun_copied rfl h
      | false =>
        cases hp : c.pieces with
        | cons m rest =>
          rw [exec_read_piece hc hs hp] at h
          exact reads_end n _ _ (by simp only [hp, List.length_cons] at hn; exact Nat.lt_of_succ_lt_succ hn) h
        | nil =>
          rw [exec_read_end hc hs hp, exec_endCopy] at h
          exact copyRun_copied rfl h

/-- Once the copy has ended, its progress loop ends after seeing the channel at most twice. -/
theorem changed_twice_ends (c : Copying) (p : Pipe) (hc : c.copied.isSome) :
    ∃ c', exec (copyRun src sink label task c [.changed, .changed]) p = (.ok c', p) ∧ c'.copied = c.copied ∧
      c'.persisted.isSome := by
  simp only [copyRun_cons, exec_bind, exec_changed, exec_copyRun_nil]
  cases hl : c.persisted with
  | some _ => exact ⟨c, by simp [hl], rfl, by simp [hl]⟩
  | none => cases c.seen <;> simp [hc]

/-- The events that end a copy end it and its progress loop, whatever ran before. -/
theorem finishing_ends {c c' : Copying} {p p' : Pipe}
    (h : exec (copyRun src sink label task c (finishing c)) p = (.ok c', p')) : c'.copied.isSome ∧ c'.persisted.isSome := by
  rw [finishing, copyRun_append, exec_bind] at h
  rcases hr : exec (copyRun src sink label task c (List.replicate (c.pieces.length + 1) .read)) p with ⟨_ | c₁, p₁⟩ <;>
    rw [hr] at h
  · cases h
  · have hc₁ := reads_end _ c p (Nat.lt_succ_self _) hr
    obtain ⟨c₂, h₂, hcopied, hloop⟩ := @changed_twice_ends src sink label task c₁ p₁ hc₁
    dsimp only at h
    rw [h₂] at h
    cases h
    exact ⟨hcopied ▸ hc₁, hloop⟩

end Runs

/-- With nothing watching the pipeline, a run leaves the pipeline's run as it was. -/
theorem copyRun_run_eq {src : Source} {sink : Sink} {label : String} {task : TaskId} {events : List CopyEvent}
    {c c' : Copying} {p p' : Pipe} (hq : p.run.watch = none)
    (h : exec (copyRun src sink label task c events) p = (.ok c', p')) : p'.run = p.run := by
  obtain ⟨c₁, p₁, h₁, hr⟩ := @copyRun_quiet src sink label task events c p hq
  rw [h] at h₁
  cases h₁
  exact hr

/-! ## The storage a copy writes and the fence -/

section Fence

variable {src : Source} {sink : Sink} {label : String} {task : TaskId} {s₀ : Storage}

/-- The storage is `s₀` while the copy runs, and `s₀` with the sink delivered what the copy read once it
ended, finished when the copy gave a count. -/
def Delivers (src : Source) (sink : Sink) (s₀ : Storage) (c : Copying) (p : Pipe) : Prop :=
  p.service.storage = match c.copied with
    | none => s₀
    | some r => s₀.deliver sink (src.data.take c.read) r.toBool

/-- Only the end of a copy writes the storage, once. -/
theorem Delivers.move {c c' : Copying} {p p' : Pipe} {e : CopyEvent} (hd : Delivers src sink s₀ c p)
    (hm : CopyMove src sink label task c p e c' p') : Delivers src sink s₀ c' p' := by
  unfold Delivers at hd ⊢
  cases hm with
  | stop hn | finish hn =>
    simp only [hn] at hd
    subst hd
    rfl
  | wait hw => exact (wait_storage hw).trans hd
  | piece hn => simpa [hn] using hd
  | _ => exact hd

/-- A copy that gave a count gave the bytes it read. -/
def CountsRead (c : Copying) : Prop := ∀ n, c.copied = some (.ok n) → n = c.read

theorem CountsRead.move {c c' : Copying} {p p' : Pipe} {e : CopyEvent} (hc : CountsRead c)
    (hm : CopyMove src sink label task c p e c' p') : CountsRead c' := by
  intro n hn
  cases hm with
  | stop => cases hn
  | piece h => rw [h] at hn; cases hn
  | finish _ _ _ hr =>
    simp only [Option.some.injEq] at hn
    subst hn
    split at hr
    · cases hr
    · cases hr
      rfl
  | _ => exact hc n hn

/-- A copy that gives a result ran its events, then what ends it and its progress loop: the result is the
outcome of the copy it ended with, and what every move of the run keeps holds of that copy. -/
theorem exec_copy_ok {buffer : Nat} {events : List CopyEvent} {p p' : Pipe} {r : Except Error Nat}
    (I : Copying → Pipe → Prop)
    (hstep : ∀ e, (e ∈ events ∨ e = .read ∨ e = .changed) → ∀ c p c' p', I c p →
      CopyMove src sink label task c p e c' p' → I c' p')
    (h₀ : I { pieces := (src.pieces buffer).1, fault := (src.pieces buffer).2 } p)
    (h : exec (copy src sink buffer label task events) p = (.ok r, p')) :
    ∃ c, r = c.outcome ∧ c.copied.isSome ∧ c.persisted.isSome ∧ I c p' := by
  rw [copy_eq, exec_bind] at h
  rcases h₁ : exec (copyRun src sink label task { pieces := (src.pieces buffer).1, fault := (src.pieces buffer).2 }
    events) p with ⟨_ | c₁, p₁⟩ <;> rw [h₁] at h
  · cases h
  · dsimp only at h
    rw [exec_bind] at h
    rcases h₂ : exec (copyRun src sink label task c₁ (finishing c₁)) p₁ with ⟨_ | c₂, p₂⟩ <;> rw [h₂] at h
    · cases h
    · cases h
      have hfin : ∀ e ∈ finishing c₁, e = .read ∨ e = .changed := fun e he => by
        simp only [finishing, List.mem_append, List.mem_replicate, List.mem_cons, List.not_mem_nil, or_false] at he
        rcases he with ⟨-, rfl⟩ | rfl | rfl <;> simp
      refine ⟨c₂, rfl, (finishing_ends h₂).1, (finishing_ends h₂).2, ?_⟩
      exact copyRun_inv I (fun e he => hstep e (Or.inr (hfin e he)))
        (copyRun_inv I (fun e he => hstep e (Or.inl he)) h₀ h₁) h₂

/-- The outcome of a copy is a count only when the copy gave it and its loop did not fail. -/
theorem Copying.copied_of_outcome {c : Copying} {n : Nat} (h : c.outcome = .ok n) : c.copied = some (.ok n) := by
  unfold Copying.outcome at h
  split at h
  · cases h
  · rename_i hc _
    rw [hc, h]
  · cases h

/-- A copy that gives a count completed its destination with the bytes it read, that count of them, in every
run. -/
theorem copy_delivers {buffer n : Nat} {events : List CopyEvent} {p p' : Pipe}
    (h : exec (copy src sink buffer label task events) p = (.ok (.ok n), p')) :
    p'.service.storage = p.service.storage.deliver sink (src.data.take n) true := by
  obtain ⟨c, hr, -, -, hd, hc⟩ := exec_copy_ok (fun c q => Delivers src sink p.service.storage c q ∧ CountsRead c)
    (fun _ _ _ _ _ _ ⟨hd, hc⟩ hm => ⟨hd.move hm, hc.move hm⟩) ⟨rfl, fun _ h => by cases h⟩ h
  have hcop := Copying.copied_of_outcome hr.symm
  rw [hd, hcop, hc n hcop]
  rfl

/-- The progress loop fenced the copy for the child `task`: it stopped the copy and ended with `NotOwner`, and
the copy either still runs or was ended by the stop. -/
def Fenced (task : TaskId) (c : Copying) : Prop :=
  c.stopped = true ∧ c.persisted = some (.error (.notOwner task)) ∧
    (c.copied = none ∨ c.copied = some (.error .cancelled))

/-- **Step lemma.** Every event keeps a fenced copy fenced: a read ends it with the stop, and the loop, ended,
does nothing more. -/
theorem Fenced.move {c c' : Copying} {p p' : Pipe} {e : CopyEvent} (hf : Fenced task c)
    (hm : CopyMove src sink label task c p e c' p') : Fenced task c' := by
  obtain ⟨hs, hl, hc⟩ := hf
  cases hm with
  | stop => exact ⟨hs, hl, Or.inr rfl⟩
  | piece _ hr | finish _ hr => simp [hs] at hr
  | offer hn | close hn | idle hn | store hn | refuse hn | miss hn => rw [hl] at hn; cases hn
  | _ => exact ⟨hs, hl, hc⟩

/-- A tick that hands out a total while the copy and its loop run and the child is not the worker's fences
the copy, and writes nothing. -/
theorem tick_fences {c : Copying} {p : Pipe} {d : Child} (hrun : c.copied = none) (hloop : c.persisted = none)
    (hdue : (c.throttle.take).1.isSome) (hd : Table.find? p.service.store.children task = some d)
    (hw : d.worker ≠ some p.run.worker) :
    ∃ c', exec (copyStep src sink label task c .tick) p = (.ok c', p) ∧ c'.copied = none ∧ Fenced task c' := by
  rcases ht : c.throttle.take with ⟨_ | b, t⟩
  · rw [ht] at hdue
    cases hdue
  · exact ⟨_, exec_tick_refused hloop ht hd hw, hrun, rfl, rfl, Or.inl hrun⟩

end Fence

/-- **The fence.** In every run of a copy with nothing watching its pipeline, once the copy and its progress loop
both still run, the child is not the worker's, and a tick finds a total to store, the copy fails with `NotOwner`
whatever comes after, and its destination is left unfinished: it is delivered what was read, as an unfinished
object. -/
theorem refused_write_fences_copy (src : Source) (sink : Sink) (buffer : Nat) (label : String) (task : TaskId)
    (before after : List CopyEvent) (p : Pipe) {c₁ : Copying} {p₁ : Pipe} {d : Child} (hq : p.run.watch = none)
    (h₁ : exec (copyRun src sink label task { pieces := (src.pieces buffer).1, fault := (src.pieces buffer).2 } before)
      p = (.ok c₁, p₁))
    (hrun : c₁.copied = none) (hloop : c₁.persisted = none) (hdue : (c₁.throttle.take).1.isSome)
    (hd : Table.find? p₁.service.store.children task = some d) (hw : d.worker ≠ some p₁.run.worker) :
    ∃ r p', exec (copy src sink buffer label task (before ++ .tick :: after)) p = (.ok r, p') ∧
      r = .error (.notOwner task) ∧ ∃ n, p'.service.storage = p.service.storage.deliver sink (src.data.take n) false := by
  have hq₁ : p₁.run.watch = none := (copyRun_run_eq hq h₁).symm ▸ hq
  obtain ⟨c₂, h₂, -, hf₂⟩ := @tick_fences src sink label task c₁ p₁ d hrun hloop hdue hd hw
  obtain ⟨c₃, p₃, h₃, hr₃⟩ := @copyRun_quiet src sink label task after c₂ p₁ hq₁
  obtain ⟨c₄, p₄, h₄, -⟩ := @copyRun_quiet src sink label task (finishing c₃) c₃ p₃ (hr₃ ▸ hq₁)
  have hrun₃ : exec (copyRun src sink label task { pieces := (src.pieces buffer).1, fault := (src.pieces buffer).2 }
      (before ++ .tick :: after)) p = (.ok c₃, p₃) := by
    rw [copyRun_append, exec_bind, h₁]
    simp only [copyRun_cons, exec_bind, h₂]
    exact h₃
  have hD₄ : Delivers src sink p.service.storage c₄ p₄ :=
    copyRun_inv _ (fun _ _ _ _ _ _ hD hm => hD.move hm)
      (copyRun_inv _ (fun _ _ _ _ _ _ hD hm => hD.move hm) (by exact rfl) hrun₃) h₄
  obtain ⟨-, hl₄, hc₄⟩ : Fenced task c₄ :=
    copyRun_inv (fun c _ => Fenced task c) (fun _ _ _ _ _ _ hf hm => hf.move hm)
      (copyRun_inv (fun c _ => Fenced task c) (fun _ _ _ _ _ _ hf hm => hf.move hm) hf₂ h₃) h₄
  have hend : c₄.copied = some (.error .cancelled) :=
    hc₄.resolve_left fun hn => by simpa [hn] using (finishing_ends h₄).1
  refine ⟨c₄.outcome, p₄, ?_, by simp [Copying.outcome, hl₄], c₄.read, ?_⟩
  · rw [copy_eq, exec_bind, hrun₃]
    dsimp only
    rw [exec_bind, h₄]
    rfl
  · rw [hD₄, hend]
    rfl

/-- A child its worker holds, copied from 100 bytes in reads of 40: after the first read the progress loop sees the
total, the worker is deregistered, and the next tick's write is refused, so the copy fails with `NotOwner`. -/
theorem deregistered_copy_fenced_at_tick :
    let t₀ : Top := Top.fresh ⟨⟨1⟩⟩ "ta" "alice" none 0
    let p₀ : Parent := Parent.fresh ⟨⟨2⟩⟩ t₀ "mem://src/s/one" "mem://dst/d/one" false 1
    let w : WorkerId := ⟨⟨3⟩⟩
    let s₀ := (Store.exec ([Call.createTransfer t₀ [p₀], .registerWorker ⟨w, "h1", 0, 0⟩, .assign .parent p₀.id w,
      .beginStaging p₀.id w 2, .commitStaging p₀.id w [⟨"mem://src/s/one", "mem://dst/d/one", 100⟩] 3,
      .startParent p₀.id w 4].forM Call.run) {}).2
    let cid := (s₀.childIds p₀.id).headD p₀.id
    let s := (Store.exec ([Call.assign .child cid w, .beginChildAttempt cid w 5].forM Call.run) s₀).2
    let src : Source := ⟨List.replicate 100 7, 40, 20, none⟩
    let sink : Sink := .memory 0 "/d/one"
    let p : Pipe := ⟨{ Service.fresh ⟨default, 1024, 10, 10, 20⟩ ⟨1, 1, 1, 1, 1⟩ with store := s },
      ⟨w, .child, cid, false, none⟩⟩
    let before : List CopyEvent := [.read, .changed, .outside (.deregisterWorker w)]
    ∃ c₁ p₁ d, exec (copyRun src sink "mem://src/s/one" cid
        { pieces := (src.pieces 1024).1, fault := (src.pieces 1024).2 } before) p = (.ok c₁, p₁) ∧
      c₁.copied = none ∧ c₁.persisted = none ∧ (c₁.throttle.take).1.isSome = true ∧
      Table.find? p₁.service.store.children cid = some d ∧ d.worker ≠ some p₁.run.worker ∧
      ∃ r p', exec (copy src sink 1024 "mem://src/s/one" cid (before ++ [.tick])) p = (.ok r, p') ∧
        r = .error (.notOwner cid) ∧ ∃ n, p'.service.storage = p.service.storage.deliver sink (src.data.take n) false := by
  intro t₀ p₀ w s₀ cid s src sink p before
  obtain ⟨c₁, p₁, h₁, hr⟩ := @copyRun_quiet src sink "mem://src/s/one" cid before
    { pieces := (src.pieces 1024).1, fault := (src.pieces 1024).2 } p rfl
  have hc : (exec (copyRun src sink "mem://src/s/one" cid { pieces := (src.pieces 1024).1, fault := (src.pieces 1024).2 }
      before) p).1.toOption.map (fun c => c.copied.isNone && c.persisted.isNone && (c.throttle.take).1.isSome) =
      some true := by
    decide +kernel
  have hp₁ : p₁ = (exec (copyRun src sink "mem://src/s/one" cid
      { pieces := (src.pieces 1024).1, fault := (src.pieces 1024).2 } before) p).2 := by
    rw [h₁]
  rw [h₁] at hc
  simp only [Except.toOption, Option.map_some, Option.some.injEq, Bool.and_eq_true, Option.isNone_iff_eq_none] at hc
  obtain ⟨⟨hrun, hloop⟩, hdue⟩ := hc
  obtain ⟨d, hd⟩ : ∃ d, Table.find? p₁.service.store.children cid = some d := by
    rw [hp₁]
    exact Option.isSome_iff_exists.1 (by decide +kernel)
  have hw : d.worker ≠ some p₁.run.worker := by
    have hnone : (Table.find? p₁.service.store.children cid).map (·.worker) = some none := by
      rw [hp₁]
      decide +kernel
    rw [hd, Option.map_some, Option.some.injEq] at hnone
    rw [hnone]
    exact (Option.some_ne_none _).symm
  exact ⟨c₁, p₁, d, h₁, hrun, hloop, hdue, hd, hw,
    refused_write_fences_copy src sink 1024 _ cid before [] p rfl h₁ hrun hloop hdue hd hw⟩

/-- The failing run: a child whose worker was deregistered once its attempt began. Its copy, on the node's
schedule, is one read of 100 bytes that ends before the first tick; no write follows the reclaim, nothing stops
the copy, and it completes its destination. -/
theorem reclaimed_child_copy_completes :
    let t₀ : Top := Top.fresh ⟨⟨1⟩⟩ "ta" "alice" none 0
    let p₀ : Parent := Parent.fresh ⟨⟨2⟩⟩ t₀ "mem://src/s/one" "mem://dst/d/one" false 1
    let w : WorkerId := ⟨⟨3⟩⟩
    let s₀ := (Store.exec ([Call.createTransfer t₀ [p₀], .registerWorker ⟨w, "h1", 0, 0⟩, .assign .parent p₀.id w,
      .beginStaging p₀.id w 2, .commitStaging p₀.id w [⟨"mem://src/s/one", "mem://dst/d/one", 100⟩] 3,
      .startParent p₀.id w 4].forM Call.run) {}).2
    let cid := (s₀.childIds p₀.id).headD p₀.id
    let s := (Store.exec ([Call.assign .child cid w, .beginChildAttempt cid w 5, .deregisterWorker w].forM Call.run)
      s₀).2
    let src : Source := ⟨List.replicate 100 7, 65536, 20, none⟩
    let sink : Sink := .memory 0 "/d/one"
    let p : Pipe := ⟨{ Service.fresh ⟨default, 1024, 10, 10, 1000⟩ ⟨1, 1, 1, 1, 1⟩ with store := s },
      ⟨w, .child, cid, false, none⟩⟩
    let events := timedEvents (src.pieces 1024).1.length src.delay 1000
    (Table.find? s.children cid).map (·.worker) = some none ∧
      (exec (copy src sink 1024 "mem://src/s/one" cid events) p).1 = .ok (.ok 100) ∧
      (exec (copy src sink 1024 "mem://src/s/one" cid events) p).2.service.storage =
        p.service.storage.deliver sink (src.data.take 100) true := by
  intro t₀ p₀ w s₀ cid s src sink p events
  have hr : (exec (copy src sink 1024 "mem://src/s/one" cid events) p).1 = .ok (.ok 100) := by
    decide +kernel
  exact ⟨by decide +kernel, hr, copy_delivers (Prod.ext hr rfl)⟩

end Pipe

end Conveyor
