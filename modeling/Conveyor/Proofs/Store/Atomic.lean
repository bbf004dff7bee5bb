import Conveyor.Proofs.Store.Integrity

/-!
# A call that fails with an error writes nothing

Each operation makes its checks before its first write. What it runs after that write (a refresh, a
roll-up, a cancel of parents and children, a read of a record it has just written) cannot fail with an
error in a linked store: every record looked up is there, and every status move made is allowed. So a call
that returns an error has written nothing. A panic may still come after a write: a roll-up or a commit of
staging whose byte sum passes the top of a 64-bit word.

* `Store.NoError`: a program that gives a result or panics, but does not fail with an error.
* `Store.Atomic`: a program that writes nothing, or does not fail with an error.
* `Store.Linked.noError_cancelParents`: in a linked store, cancelling parents that are there never errs.
* `Store.Linked.atomic_call`: in a linked store every call is atomic in that sense.
* `Reachable.exec_eq_of_error`: in a reachable store, a call that fails with an error leaves the store as
  it was.
-/

namespace Conveyor

namespace Store

variable {α β : Type} {s : Store}

/-- A program that, run on `s`, gives a result or panics, but does not fail with an error. -/
def NoError (m : StoreM α) (s : Store) : Prop := ∀ e, (exec m s).1 ≠ .error (.error e)

/-- A program that, run on `s`, writes nothing or does not fail with an error. -/
def Atomic (m : StoreM α) (s : Store) : Prop := (exec m s).2 = s ∨ NoError m s

namespace NoError

theorem of_ok {m : StoreM α} {a : α} {s' : Store} (h : exec m s = (.ok a, s')) : NoError m s := fun e he => by
  rw [h] at he
  cases he

theorem of_eq {m : StoreM α} {m' : StoreM α} {s' : Store} (h : exec m s = exec m' s') (hn : NoError m' s') :
    NoError m s := fun e he => hn e (h ▸ he)

theorem pure (a : α) : NoError (Pure.pure a : StoreM α) s := of_ok rfl

/-- A program that does not err, followed by one that does not err from where it stopped. -/
theorem bind {m : StoreM α} {f : α → StoreM β} (hm : NoError m s)
    (hf : ∀ a s', exec m s = (.ok a, s') → NoError (f a) s') : NoError (m >>= f) s := by
  intro e he
  rw [exec_bind] at he
  rcases hx : exec m s with ⟨r, s'⟩
  rw [hx] at he
  cases r with
  | ok a => exact hf a s' hx e he
  | error e' => exact hm e (by rw [hx]; simpa using he)

end NoError

namespace Atomic

theorem state_of_error {m : StoreM α} (h : Atomic m s) {e : Error} (he : (exec m s).1 = .error (.error e)) :
    (exec m s).2 = s :=
  h.resolve_right fun hn => hn e he

theorem discard {m : StoreM α} (h : Atomic m s) : Atomic (Functor.discard m) s := by
  rw [Atomic, exec_discard_state]
  refine h.imp id fun hn e he => ?_
  rw [exec_discard] at he
  cases hm : (exec m s).1 with
  | ok a => rw [hm] at he; cases he
  | error e' =>
    rw [hm] at he
    cases he
    exact hn e hm

end Atomic

/-! ## Helpers that find what they look up -/

theorem noError_refreshTop {T : TaskId} {t : Top} (h : Table.find? s.tops T = some t) (now : Stamp) :
    NoError (refreshTop T now) s :=
  NoError.of_ok (exec_refreshTop_of_find h now)

theorem noError_setChildBytes (id : TaskId) (bytes : Nat) : NoError (setChildBytes id bytes) s := by
  cases hc : Table.find? s.children id with
  | none => exact NoError.of_ok (exec_setChildBytes_of_none hc bytes)
  | some c =>
    cases hp : Table.find? s.parents c.parent with
    | none => exact NoError.of_ok (exec_setChildBytes_of_orphan hc hp bytes)
    | some p => exact NoError.of_ok (exec_setChildBytes_of_find hc hp bytes)

/-- A roll-up in a linked store finds its parent's transfer: it waits, ends the parent, or panics on an
overflow. -/
theorem Linked.noError_rollUpParent (hl : s.Linked) {pid : TaskId} {p : Parent}
    (hp : Table.find? s.parents pid = some p) (now : Stamp) : NoError (rollUpParent pid now) s := by
  by_cases hs : p.status = .inProgress
  · cases ho : s.rollUpOutcome p with
    | none => exact NoError.of_ok (exec_rollUpParent_of_waiting now hp hs ho)
    | some outcome =>
      cases hb : Word.sum Word.max64 ((s.childRecords pid).map (·.bytes)) with
      | error e =>
        intro e' he
        rw [exec_rollUpParent_of_overflow now hp hs ho hb] at he
        cases he
      | ok bytes =>
        obtain ⟨t, ht, -⟩ := hl.parent_top hp
        refine NoError.of_eq (exec_rollUpParent_of_rollUp now hp hs ho hb) (noError_refreshTop (t := t) ?_ now)
        exact ht
  · exact NoError.of_ok (exec_rollUpParent_of_idle now hp hs)

/-- A cancel of a parent in a linked store cancels its children without fail, and then either cancels the
parent, reports it in flight, or rolls it up. -/
theorem Linked.noError_cancelParent (hl : s.Linked) {pid : TaskId} {p : Parent}
    (hp : Table.find? s.parents pid = some p) (out : CancelOutcome) (now : Stamp) :
    NoError (cancelParent pid out now) s := by
  cases hn : p.status.isTerminal
  · obtain ⟨out₁, cs, hc⟩ := hl.exec_cancelChildren_of_parent pid out now
    cases hw : p.worker with
    | some w => exact NoError.of_ok (exec_cancelParent_of_held out now hp hn hc (by simp [hw]))
    | none =>
      by_cases ha : p.status = .inProgress
      · -- the roll-up after the children finds the parent where it was
        have hl₁ := hl.of_exec (revises_cancelChildren _ out now) hc
        have hn₁ := hl₁.noError_rollUpParent (s := { s with children := cs }) hp now
        intro e he
        rw [exec_cancelParent_of_active out now hp hn hc hw ha] at he
        cases hr : (exec (rollUpParent pid now) { s with children := cs }).1 with
        | ok a => rw [hr] at he; cases he
        | error e' =>
          rw [hr] at he
          cases he
          exact hn₁ e hr
      · exact NoError.of_ok (exec_cancelParent_of_free out now hp hn hc hw ha)
  · exact NoError.of_ok (exec_cancelParent_of_ended out now hp hn)

/-- Cancelling parents that are there, one by one, never errs in a linked store. -/
theorem Linked.noError_cancelParents (hl : s.Linked) {pids : List TaskId}
    (hpids : ∀ pid ∈ pids, ∃ p, Table.find? s.parents pid = some p) (out : CancelOutcome) (now : Stamp) :
    NoError (pids.foldlM (fun out pid => cancelParent pid out now) out) s := by
  induction pids generalizing s out with
  | nil => exact NoError.pure out
  | cons pid pids ih =>
    obtain ⟨p, hp⟩ := hpids pid List.mem_cons_self
    rw [NoError, List.foldlM_cons]
    refine NoError.bind (hl.noError_cancelParent hp out now) fun out' s' h => ?_
    have hrev := (revises_cancelParent pid out now).revised h
    refine ih (hl.revised hrev) (fun pid' hpid' => ?_) out'
    obtain ⟨q, hq⟩ := hpids pid' (List.mem_cons_of_mem _ hpid')
    exact Table.exists_find?_of_keys hrev.parent_ids hq

/-! ## Every operation -/

section Operations

variable {id : TaskId} {w : WorkerId} {now : Stamp}

/-- A refresh, then a value, after a program that revised a store where the transfer was. -/
theorem noError_refresh_pure {s' : Store} (hrev : Revised s s') {T : TaskId} {t : Top}
    (ht : Table.find? s.tops T = some t) (b : β) : NoError (refreshTop T now >>= fun _ => Pure.pure b) s' := by
  obtain ⟨t', ht'⟩ := Table.exists_find?_of_keys hrev.top_ids ht
  exact NoError.bind (noError_refreshTop ht' now) fun _ _ _ => NoError.pure b

/-- A refresh, then a read of a parent, after a program that revised a store where both were. -/
theorem noError_refresh_parent {s' : Store} (hrev : Revised s s') {T : TaskId} {t : Top} {p : Parent}
    (ht : Table.find? s.tops T = some t) (hp : Table.find? s.parents id = some p) :
    NoError (refreshTop T now >>= fun _ => parent id) s' := by
  obtain ⟨t', ht'⟩ := Table.exists_find?_of_keys hrev.top_ids ht
  refine NoError.bind (noError_refreshTop ht' now) fun _ s₂ h₂ => ?_
  have hr₂ := hrev.trans ((revises_refreshTop _ now).revised h₂)
  obtain ⟨p₂, hp₂⟩ := Table.exists_find?_of_keys hr₂.parent_ids hp
  exact NoError.of_ok (exec_parent_of_find hp₂)

theorem Linked.atomic_requestCancel (hl : s.Linked) : Atomic (requestCancel id now) s := by
  rcases @exec_requestCancel s id now with he | ⟨t, ht, -, he⟩ | ⟨p, t, -, hp, -, -, -, he⟩ |
      ⟨c, t, -, -, hc, -, -, -, he⟩
  · exact Or.inl he
  · -- the flag is written first; then every parent is there to cancel, and the transfer to refresh
    refine Or.inr (NoError.of_eq he ?_)
    have ht' : Table.find? s.tops { t with cancelRequested := true }.id = some t := Table.find?_self ht
    have hput := Revised.putTop ht' rfl
    have hT : Table.find? s.tops id = some t := ht
    refine NoError.bind ((hl.revised hput).noError_cancelParents (fun pid hpid => ?_) _ now) fun out s₁ h => ?_
    · obtain ⟨p, hp, -⟩ := (hl.top_parents ht).2 pid hpid
      exact ⟨p, hp⟩
    · have hrev := hput.trans ((Revises.foldlM (fun out pid => revises_cancelParent pid out now) _ _).revised h)
      exact noError_refresh_pure hrev hT out
  · -- a parent is marked, then cancelled, then its transfer refreshed
    refine Or.inr (NoError.of_eq he ?_)
    obtain ⟨t', ht', -⟩ := hl.parent_top hp
    refine NoError.bind (NoError.of_ok (exec_mark s id)) fun _ s₁ h₁ => ?_
    have hr₁ := (Revises.mark id).revised h₁
    obtain ⟨p₁, hp₁⟩ := Table.exists_find?_of_keys hr₁.parent_ids hp
    refine NoError.bind ((hl.revised hr₁).noError_cancelParent hp₁ _ now) fun out s₂ h₂ => ?_
    exact noError_refresh_pure (hr₁.trans ((revises_cancelParent id _ now).revised h₂)) ht' out
  · -- a child is marked and cancelled; its parent then rolls up and its transfer is refreshed
    refine Or.inr (NoError.of_eq he ?_)
    obtain ⟨q, hq, -, hct, -⟩ := hl.child_parent hc
    obtain ⟨t', ht', -⟩ := hl.parent_top hq
    refine NoError.bind (NoError.of_ok (exec_mark s id)) fun _ s₁ h₁ => ?_
    have hr₁ := (Revises.mark id).revised h₁
    obtain ⟨c₁, hc₁⟩ := Table.exists_find?_of_keys hr₁.child_ids hc
    obtain ⟨out, cs, h₂⟩ := (hl.revised hr₁).exec_cancelChild hc₁ ⟨c.top, t.tenant, true, [], []⟩ now
    refine NoError.of_eq (exec_bind_of_ok _ h₂ _) ?_
    have hr₂ := hr₁.trans ((revises_cancelChild id _ now).revised h₂)
    obtain ⟨c₂, hc₂, hpar, -⟩ := hr₂.exists_child hc
    refine NoError.of_eq (exec_bind_of_ok _ (exec_child_of_find hc₂) _) ?_
    obtain ⟨q₂, hq₂⟩ := Table.exists_find?_of_keys hr₂.parent_ids hq
    have hq₂' : Table.find? ({ s₁ with children := cs } : Store).parents c₂.parent = some q₂ := by
      rw [hpar]
      exact hq₂
    have htc : Table.find? s.tops c.top = some t' := by rw [hct]; exact ht'
    refine NoError.bind ((hl.revised hr₂).noError_rollUpParent hq₂' now) fun _ s₃ h₃ => ?_
    exact noError_refresh_pure (hr₂.trans ((revises_rollUpParent _ now).revised h₃)) htc out

theorem Linked.atomic_beginStaging (hl : s.Linked) : Atomic (beginStaging id w now) s := by
  rcases @exec_beginStaging s id w now with he | ⟨p, p', hp, -, hst, he⟩
  · exact Or.inl he
  · -- the parent is written, and its transfer is there to refresh
    refine Or.inr (NoError.of_eq he ?_)
    have htop : p'.top = p.top := by
      obtain ⟨_, _, _, -, -, rfl⟩ := Parent.eq_of_stagingStep hst
      rfl
    obtain ⟨t, ht, -⟩ := hl.parent_top hp
    rw [htop]
    refine noError_refresh_pure (Revised.refl _) (t := t) ?_ p'
    exact ht

theorem atomic_commitStaging (specs : List ChildSpec) : Atomic (commitStaging id w specs now) s := by
  rcases @exec_commitStaging s id w now specs with he | ⟨p, p', -, -, -, ⟨e, -, he⟩ | ⟨total, -, he⟩⟩
  · exact Or.inl he
  · -- a sum past the top of a word panics after the ids are drawn
    refine Or.inr fun e' he' => ?_
    rw [he] at he'
    cases he'
  · exact Or.inr (NoError.of_ok he)

theorem Linked.atomic_startParent (hl : s.Linked) : Atomic (startParent id w now) s := by
  rcases @exec_startParent s id w now with he | ⟨p, p', hp, -, hm, he⟩
  · exact Or.inl he
  · -- the parent is written; it rolls up, its transfer is refreshed, and it is read back
    refine Or.inr (NoError.of_eq he ?_)
    have hput : Revised s { s with parents := Table.put s.parents { p' with worker := none } } :=
      Revised.putReleased hp hm rfl p'.error
    obtain ⟨t, ht, -⟩ := hl.parent_top hp
    obtain ⟨p₁, hp₁⟩ := Table.exists_find?_of_keys hput.parent_ids hp
    refine NoError.bind ((hl.revised hput).noError_rollUpParent hp₁ now) fun _ s₂ h₂ => ?_
    exact noError_refresh_parent (hput.trans ((revises_rollUpParent id now).revised h₂)) ht hp

theorem Linked.atomic_finishParent (hl : s.Linked) (status : Status) (error : Option String) :
    Atomic (finishParent id w status error now) s := by
  rcases @exec_finishParent s id w now status error with he | ⟨p, p', hp, -, ht, hm, he⟩
  · exact Or.inl he
  · -- the parent ends; its children are cancelled without fail, its transfer refreshed, and it is read back
    refine Or.inr (NoError.of_eq he ?_)
    have hput : Revised s { s with parents := Table.put s.parents { p' with worker := none, error } } :=
      Revised.putReleased hp hm (Status.pastStaging_of_isTerminal ht) error
    obtain ⟨t, ht', -⟩ := hl.parent_top hp
    obtain ⟨out, cs, hc⟩ := (hl.revised hput).exec_cancelChildren_of_parent id ⟨p.top, p.tenant, true, [], []⟩ now
    refine NoError.bind (NoError.of_ok hc) fun _ s₂ h₂ => ?_
    exact noError_refresh_parent (hput.trans ((revises_cancelChildren _ _ now).revised h₂)) ht' hp

theorem atomic_beginChildAttempt : Atomic (beginChildAttempt id w now) s := by
  rcases @exec_beginChildAttempt s id w now with he | ⟨c, c', hc, -, hst, ⟨e, -, he⟩ | ⟨n, -, he⟩⟩
  · exact Or.inl he
  · -- a count past the top of a 32-bit word panics after the status write
    refine Or.inr fun e' he' => ?_
    rw [he] at he'
    cases he'
  · -- the bytes go back to zero without fail, and the child is read back
    refine Or.inr (NoError.of_eq he ?_)
    refine NoError.bind (noError_setChildBytes id 0) fun _ s₂ h₂ => ?_
    have hid : c'.id = c.id := by
      obtain ⟨_, _, rfl⟩ := Child.eq_of_attemptStep hst
      rfl
    have hc₂ : ∃ c₂, Table.find? s₂.children id = some c₂ := by
      have hc₁ : Table.find? ({ s with children := Table.put s.children { c' with retries := n } } : Store).children
          id = some { c' with retries := n } := by
        have hk : Keyed.key { c' with retries := n } = id := hid.trans (Table.find?_eq_some hc).2
        rw [Table.find?_put, if_pos hk]
      exact Table.exists_find?_of_keys ((revises_setChildBytes id 0).revised h₂).child_ids hc₁
    obtain ⟨c₂, hc₂⟩ := hc₂
    exact NoError.of_ok (exec_child_of_find hc₂)

theorem atomic_recordProgress (bytes : Nat) : Atomic (recordProgress id w bytes) s := by
  rcases @exec_recordProgress s id w bytes with he | ⟨c, -, -, he⟩
  · exact Or.inl he
  · exact Or.inr (NoError.of_eq he (noError_setChildBytes id bytes))

theorem Linked.atomic_finishChild (hl : s.Linked) (status : Status) (bytes : Nat) (error : Option String) :
    Atomic (finishChild id w status bytes error now) s := by
  rcases @exec_finishChild s id w now status bytes error with he | ⟨c, c', hc, -, ht, hm, he⟩
  · exact Or.inl he
  · -- the child ends; its bytes move without fail, its parent is there to roll up, and it is read back
    refine Or.inr (NoError.of_eq he ?_)
    obtain ⟨hid, hpar, htop, hst⟩ := Child.moveTo_links hm
    have hput : Revised s { s with children := Table.put s.children { c' with worker := none, error } } :=
      Revised.putChild (Table.find?_of_key_eq hc hid) hpar htop fun _ => by
        rw [hst]; exact Status.inStaging_of_isTerminal ht
    obtain ⟨q, hq, -⟩ := hl.child_parent hc
    refine NoError.bind (noError_setChildBytes id bytes) fun _ s₂ h₂ => ?_
    have hr₂ := hput.trans ((revises_setChildBytes id bytes).revised h₂)
    obtain ⟨q₂, hq₂⟩ := Table.exists_find?_of_keys hr₂.parent_ids hq
    refine NoError.bind ((hl.revised hr₂).noError_rollUpParent hq₂ now) fun _ s₃ h₃ => ?_
    have hr₃ := hr₂.trans ((revises_rollUpParent _ now).revised h₃)
    obtain ⟨c₃, hc₃⟩ := Table.exists_find?_of_keys hr₃.child_ids hc
    exact NoError.of_ok (exec_child_of_find hc₃)

theorem atomic_createTransfer (t : Top) (ps : List Parent) : Atomic (createTransfer t ps) s := by
  rcases exec_createTransfer (s := s) t ps with he | ⟨-, -, he⟩
  · exact Or.inl he
  · exact Or.inr (NoError.of_ok he)

theorem atomic_recordParentRetry : Atomic (recordParentRetry id w) s := by
  rcases @exec_recordParentRetry s id w with he | ⟨p, n, -, -, -, he⟩
  · exact Or.inl he
  · exact Or.inr (NoError.of_ok he)

end Operations

/-- In a linked store every call writes nothing, or does not fail with an error. -/
theorem Linked.atomic_call (hl : s.Linked) (c : Call) : Atomic c.run s := by
  cases hw : c.writesTasks
  · -- a call that writes no task changes nothing when it fails
    by_cases he : ∃ e, (exec c.run s).1 = .error (.error e)
    · obtain ⟨e, he⟩ := he
      exact Or.inl ((c.keepsTasks hw s).2 _ he)
    · exact Or.inr fun e he' => he ⟨e, he'⟩
  cases c <;> simp only [Call.writesTasks, Bool.false_eq_true] at hw <;> simp only [Call.run]
  case createTransfer t ps => exact (atomic_createTransfer t ps).discard
  case requestCancel => exact hl.atomic_requestCancel.discard
  case beginStaging => exact hl.atomic_beginStaging.discard
  case recordParentRetry => exact atomic_recordParentRetry.discard
  case commitStaging => exact (atomic_commitStaging _).discard
  case startParent => exact hl.atomic_startParent.discard
  case finishParent => exact (hl.atomic_finishParent _ _).discard
  case beginChildAttempt => exact atomic_beginChildAttempt.discard
  case recordProgress => exact atomic_recordProgress _
  case finishChild => exact (hl.atomic_finishChild _ _ _).discard

end Store

/-- In every reachable store, a call that fails with an error leaves the store as it was: whatever it writes,
it writes after its last check that can fail. -/
theorem Reachable.exec_eq_of_error {s : Store} (h : Reachable s) (c : Call) {e : Error}
    (he : (Store.exec c.run s).1 = .error (.error e)) : (Store.exec c.run s).2 = s :=
  (h.linked.atomic_call c).state_of_error he

/-- Starting a parent that no worker holds fails with an error, and leaves the store it was tried on. -/
theorem startParent_unheld_keeps_store :
    let t₀ : Top := Top.fresh ⟨⟨1⟩⟩ "ta" "alice" none 0
    let s := (Store.exec (Call.createTransfer t₀ [Parent.fresh ⟨⟨2⟩⟩ t₀ "mem://src/a" "mem://dst/a" false 0]).run
      {}).2
    let c := Call.startParent ⟨⟨2⟩⟩ ⟨⟨3⟩⟩ 5
    Reachable s ∧ (Store.exec c.run s).1 = .error (.error (.notOwner ⟨⟨2⟩⟩)) ∧ (Store.exec c.run s).2 = s := by
  intro t₀ s c
  have hadm : ({} : Store).Admits t₀ [Parent.fresh ⟨⟨2⟩⟩ t₀ "mem://src/a" "mem://dst/a" false 0] :=
    Store.admits_empty ⟨_, _, _, _, rfl⟩ (fun p hp => by rw [List.mem_singleton.1 hp]; exact ⟨_, _, _, _, rfl⟩)
      (by decide) (by decide)
  have hr : Reachable s := .call _ .empty hadm
  have he : (Store.exec c.run s).1 = .error (.error (.notOwner ⟨⟨2⟩⟩)) := by decide
  exact ⟨hr, he, Reachable.exec_eq_of_error hr c he⟩

end Conveyor
