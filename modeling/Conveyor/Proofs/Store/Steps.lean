import Conveyor.Proofs.Store.Reach

/-!
# The steps inside store operations

The equations of the helpers the store's operations are built from, so that no later proof unfolds
them: a status move (`Parent.moveTo_of_canMove`), a refresh of a transfer (`exec_refreshTop_of_find`),
a move of a child's byte count (`exec_setChildBytes_of_find`), a parent's roll-up
(`exec_rollUpParent_of_rollUp` and the cases where nothing is written), and the cancel of a child or a
parent. Each case is stated with the record the step writes: `Top.advance`, `Parent.rolledUp`,
`Child.cancelledAt`, `Parent.cancelledAt`.
-/

namespace Conveyor

/-- What the status of a transfer reads off one of its parents. -/
def Parent.view (p : Parent) : ParentView := ⟨p.status, p.optional⟩

/-- A transfer moved to the status `next`, as a refresh writes it: the start set when it first leaves
`ACCEPTED`, the end when it ends, and the error of its first failed required parent. -/
def Top.advance (t : Top) (next : Status) (parents : List Parent) (now : Stamp) : Top :=
  { t with
    status := next
    started := if next != .accepted && t.started.isNone then some now else t.started
    ended := if next.isTerminal then some now else t.ended
    error := if (Store.topError next parents).isSome then Store.topError next parents else t.error }

/-- A parent as its roll-up writes it: ended with the outcome, holding the sum of its children's bytes,
released. -/
def Parent.rolledUp (p : Parent) (outcome : Status) (children : List Child) (bytes : Nat) (now : Stamp) :
    Parent :=
  { p with status := outcome, ended := some now, bytes, error := Store.parentError outcome children, worker := none }

/-- A parent cancelled by request. -/
def Parent.cancelledAt (p : Parent) (now : Stamp) : Parent :=
  { p with status := .cancelled, ended := some now, error := some "cancelled by request" }

/-- A child cancelled by request. -/
def Child.cancelledAt (c : Child) (now : Stamp) : Child :=
  { c with status := .cancelled, ended := some now, error := some "cancelled by request" }

theorem Parent.moveTo_of_canMove {p : Parent} {st : Status} (h : Kind.parent.canMove p.status st = true)
    (now : Stamp) :
    p.moveTo st now = .ok { p with
      status := st
      started := if p.started.isNone && !st.isTerminal then some now else p.started
      ended := if st.isTerminal then some now else p.ended } := by
  simp only [Parent.moveTo, moveStatus, h, if_true]
  rfl

theorem Parent.moveTo_of_not {p : Parent} {st : Status} (h : Kind.parent.canMove p.status st = false)
    (now : Stamp) : p.moveTo st now = .error (.invalidTransition p.status st) := by
  simp only [Parent.moveTo, moveStatus, h]
  rfl

theorem Child.moveTo_of_canMove {c : Child} {st : Status} (h : Kind.child.canMove c.status st = true)
    (now : Stamp) :
    c.moveTo st now = .ok { c with
      status := st
      started := if c.started.isNone && !st.isTerminal then some now else c.started
      ended := if st.isTerminal then some now else c.ended } := by
  simp only [Child.moveTo, moveStatus, h, if_true]
  rfl

theorem Child.moveTo_of_not {c : Child} {st : Status} (h : Kind.child.canMove c.status st = false)
    (now : Stamp) : c.moveTo st now = .error (.invalidTransition c.status st) := by
  simp only [Child.moveTo, moveStatus, h]
  rfl

/-- A roll-up ends a parent as completed, failed or cancelled. -/
theorem rollUp_cases {optional cancel : Bool} {children : List Status} {st : Status}
    (h : rollUp optional cancel children = some st) : st = .completed ∨ st = .failed ∨ st = .cancelled := by
  simp only [rollUp] at h
  split at h
  · split at h
    · cases h; simp
    · split at h <;> (cases h; simp)
  · cases h

theorem rollUp_isTerminal {optional cancel : Bool} {children : List Status} {st : Status}
    (h : rollUp optional cancel children = some st) : st.isTerminal = true := by
  rcases rollUp_cases h with rfl | rfl | rfl <;> rfl

namespace Store

/-- The records of a transfer's parents, in its order. -/
def parentRecords (s : Store) (t : Top) : List Parent := t.parents.filterMap (Table.find? s.parents)

/-- The records of a parent's children, in the recorded order. -/
def childRecords (s : Store) (pid : TaskId) : List Child := (s.childIds pid).filterMap (Table.find? s.children)

/-- The status a refresh gives a transfer. -/
def derived (s : Store) (t : Top) : Status :=
  deriveTop t.status t.cancelRequested ((s.parentRecords t).map Parent.view)

/-- The status a parent rolls up to, if all its children ended. -/
def rollUpOutcome (s : Store) (p : Parent) : Option Status :=
  rollUp p.optional (s.topCancelled p.top || (s.childRecords p.id).any (·.status == .cancelled))
    ((s.childRecords p.id).map (·.status))

variable {s : Store}

/-! ## Refreshing a transfer -/

theorem exec_refreshTop_of_find {id : TaskId} {t : Top} (h : Table.find? s.tops id = some t) (now : Stamp) :
    exec (refreshTop id now) s =
      (.ok (), if s.derived t = t.status then s else
        { s with tops := Table.put s.tops (t.advance (s.derived t) (s.parentRecords t) now) }) := by
  have hv : (fun p : Parent => ({ status := p.status, optional := p.optional } : ParentView)) = Parent.view := rfl
  have hd : deriveTop t.status t.cancelRequested ((t.parents.filterMap (Table.find? s.parents)).map Parent.view) =
      s.derived t := rfl
  simp only [refreshTop, exec_bind_of_ok s (exec_top_of_find h), exec_bind, exec_get, hv, hd, beq_iff_eq]
  by_cases hn : s.derived t = t.status
  · simp [hn]
  · simp only [hn, if_false]
    rfl

theorem exec_refreshTop_of_none {id : TaskId} (h : Table.find? s.tops id = none) (now : Stamp) :
    exec (refreshTop id now) s = (.error (.error (.taskNotFound id)), s) := by
  simp only [refreshTop, exec_bind_of_error s (exec_top_of_none h)]

/-! ## Moving a child's byte count -/

theorem exec_setChildBytes_of_none {id : TaskId} (h : Table.find? s.children id = none) (bytes : Nat) :
    exec (setChildBytes id bytes) s = (.ok (), s) := by
  simp [setChildBytes, exec_bind, h]

/-- The child takes the count, and its parent's total moves by the difference. -/
theorem exec_setChildBytes_of_find {id : TaskId} {c : Child} {p : Parent} (h : Table.find? s.children id = some c)
    (hp : Table.find? s.parents c.parent = some p) (bytes : Nat) :
    exec (setChildBytes id bytes) s = (.ok (), { s with
      children := Table.put s.children { c with bytes }
      parents := Table.put s.parents
        { p with bytes := Word.saturatingAdd Word.max64 (Word.saturatingSub p.bytes c.bytes) bytes } }) := by
  simp [setChildBytes, exec_bind, h, hp]

theorem exec_setChildBytes_of_orphan {id : TaskId} {c : Child} (h : Table.find? s.children id = some c)
    (hp : Table.find? s.parents c.parent = none) (bytes : Nat) :
    exec (setChildBytes id bytes) s = (.ok (), { s with children := Table.put s.children { c with bytes } }) := by
  simp [setChildBytes, exec_bind, h, hp]

/-! ## Rolling a parent up -/

section RollUp

variable {pid : TaskId} {p : Parent} (now : Stamp)

theorem exec_rollUpParent_of_none (h : Table.find? s.parents pid = none) :
    exec (rollUpParent pid now) s = (.error (.error (.taskNotFound pid)), s) := by
  simp only [rollUpParent, exec_bind_of_error s (exec_parent_of_none h)]

/-- Only an `IN_PROGRESS` parent rolls up. -/
theorem exec_rollUpParent_of_idle (h : Table.find? s.parents pid = some p) (hs : p.status ≠ .inProgress) :
    exec (rollUpParent pid now) s = (.ok (), s) := by
  simp [rollUpParent, exec_bind_of_ok s (exec_parent_of_find h), hs]

private theorem rollUp_eq (h : Table.find? s.parents pid = some p) :
    rollUp p.optional (s.topCancelled p.top || ((s.childIds pid).filterMap (Table.find? s.children)).any
      (·.status == .cancelled)) (((s.childIds pid).filterMap (Table.find? s.children)).map (·.status)) =
      s.rollUpOutcome p := by
  have hid : p.id = pid := (Table.find?_eq_some h).2
  subst hid
  rfl

private theorem exec_rollUpParent_of_active (h : Table.find? s.parents pid = some p) (hs : p.status = .inProgress) :
    exec (rollUpParent pid now) s = exec (match s.rollUpOutcome p with
      | none => pure ()
      | some outcome => do
        let bytes ← guardPanic (Word.sum Word.max64 ((s.childRecords pid).map (·.bytes)))
        let p ← parent pid
        let p ← guardError (p.moveTo outcome now)
        putParent { p with bytes, error := parentError outcome (s.childRecords pid), worker := none }
        refreshTop p.top now) s := by
  simp only [rollUpParent, exec_bind_of_ok s (exec_parent_of_find h), hs, bne_self_eq_false, Bool.false_eq_true,
    if_false, exec_bind, exec_get]
  rw [rollUp_eq h]
  rfl

/-- A parent with a child still running stays as it is. -/
theorem exec_rollUpParent_of_waiting (h : Table.find? s.parents pid = some p) (hs : p.status = .inProgress)
    (ho : s.rollUpOutcome p = none) : exec (rollUpParent pid now) s = (.ok (), s) := by
  rw [exec_rollUpParent_of_active now h hs, ho]
  rfl

/-- The sum of the children's bytes past the top of a 64-bit word stops the roll-up before any write. -/
theorem exec_rollUpParent_of_overflow {outcome : Status} {e : Panic} (h : Table.find? s.parents pid = some p)
    (hs : p.status = .inProgress) (ho : s.rollUpOutcome p = some outcome)
    (hb : Word.sum Word.max64 ((s.childRecords pid).map (·.bytes)) = .error e) :
    exec (rollUpParent pid now) s = (.error (.panic e), s) := by
  rw [exec_rollUpParent_of_active now h hs, ho]
  simp only [exec_bind, hb, exec_guardPanic_error]

/-- A parent whose children all ended takes their outcome and the sum of their bytes, and its transfer is
refreshed. -/
theorem exec_rollUpParent_of_rollUp {outcome : Status} {bytes : Nat} (h : Table.find? s.parents pid = some p)
    (hs : p.status = .inProgress) (ho : s.rollUpOutcome p = some outcome)
    (hb : Word.sum Word.max64 ((s.childRecords pid).map (·.bytes)) = .ok bytes) :
    exec (rollUpParent pid now) s =
      exec (refreshTop p.top now)
        { s with parents := Table.put s.parents (p.rolledUp outcome (s.childRecords pid) bytes now) } := by
  have hterm := rollUp_isTerminal ho
  have hm : Kind.parent.canMove p.status outcome = true := by
    rw [hs]
    rcases rollUp_cases ho with rfl | rfl | rfl <;> rfl
  rw [exec_rollUpParent_of_active now h hs, ho]
  simp only [exec_bind, hb, exec_guardPanic_ok, exec_parent_of_find h, Parent.moveTo_of_canMove hm,
    exec_guardError_ok, exec_putParent, hterm, Bool.not_true, Bool.and_false, Bool.false_eq_true, if_false, if_true]
  rfl

/-- A roll-up writes nothing, or finds its parent in progress with an outcome for it and the sum of its
children's counts, writes the parent ended with them and then refreshes the transfer. -/
theorem exec_rollUpParent_cases :
    (exec (rollUpParent pid now) s).2 = s ∨
      ∃ p outcome bytes, Table.find? s.parents pid = some p ∧ p.status = .inProgress ∧
        s.rollUpOutcome p = some outcome ∧ Word.sum Word.max64 ((s.childRecords pid).map (·.bytes)) = .ok bytes ∧
        exec (rollUpParent pid now) s =
          exec (refreshTop p.top now)
            { s with parents := Table.put s.parents (p.rolledUp outcome (s.childRecords pid) bytes now) } := by
  cases h : Table.find? s.parents pid with
  | none => left; rw [exec_rollUpParent_of_none now h]
  | some p =>
    by_cases hs : p.status = .inProgress
    · cases ho : s.rollUpOutcome p with
      | none => left; rw [exec_rollUpParent_of_waiting now h hs ho]
      | some outcome =>
        cases hb : Word.sum Word.max64 ((s.childRecords pid).map (·.bytes)) with
        | error e => left; rw [exec_rollUpParent_of_overflow now h hs ho hb]
        | ok bytes => exact .inr ⟨p, outcome, bytes, rfl, hs, ho, rfl, exec_rollUpParent_of_rollUp now h hs ho hb⟩
    · left; rw [exec_rollUpParent_of_idle now h hs]

end RollUp

/-! ## Cancelling -/

section Cancel

variable {id : TaskId} (out : CancelOutcome) (now : Stamp)

theorem exec_cancelChild_of_none (h : Table.find? s.children id = none) :
    exec (cancelChild id out now) s = (.error (.error (.taskNotFound id)), s) := by
  simp only [cancelChild, exec_bind_of_error s (exec_child_of_none h)]

variable {c : Child}

/-- An ended child is left as it is. -/
theorem exec_cancelChild_of_ended (h : Table.find? s.children id = some c) (ht : c.status.isTerminal = true) :
    exec (cancelChild id out now) s = (.ok out, s) := by
  simp [cancelChild, exec_bind_of_ok s (exec_child_of_find h), ht]

/-- A child a worker holds is reported in flight. -/
theorem exec_cancelChild_of_held (h : Table.find? s.children id = some c) (ht : c.status.isTerminal = false)
    (hw : c.worker.isSome = true) :
    exec (cancelChild id out now) s = (.ok { out with inFlight := out.inFlight ++ [id] }, s) := by
  simp [cancelChild, exec_bind_of_ok s (exec_child_of_find h), ht, hw]

/-- A running child no worker holds is cancelled. -/
theorem exec_cancelChild_of_free (h : Table.find? s.children id = some c) (ht : c.status.isTerminal = false)
    (hw : c.worker = none) (hm : Kind.child.canMove c.status .cancelled = true) :
    exec (cancelChild id out now) s =
      (.ok { out with cancelled := out.cancelled ++ [id] },
        { s with children := Table.put s.children (c.cancelledAt now) }) := by
  have hc : Status.cancelled.isTerminal = true := rfl
  have hw' : c.worker.isSome = false := by simp [hw]
  simp only [cancelChild, exec_bind_of_ok s (exec_child_of_find h), ht, hw',
    Bool.false_eq_true, if_false, exec_bind, Child.moveTo_of_canMove hm, exec_guardError_ok, exec_putChild,
    hc, Bool.not_true, Bool.and_false, if_true]
  rfl

theorem exec_cancelChild_of_stuck (h : Table.find? s.children id = some c) (ht : c.status.isTerminal = false)
    (hw : c.worker = none) (hm : Kind.child.canMove c.status .cancelled = false) :
    exec (cancelChild id out now) s = (.error (.error (.invalidTransition c.status .cancelled)), s) := by
  simp only [cancelChild, exec_bind_of_ok s (exec_child_of_find h), ht, hw, Option.isSome_none,
    Bool.false_eq_true, if_false, exec_bind, Child.moveTo_of_not hm, exec_guardError_error]

/-- Cancelling a child writes no other table. -/
theorem cancelChild_frame : ∃ cs, (exec (cancelChild id out now) s).2 = { s with children := cs } := by
  cases h : Table.find? s.children id with
  | none => exact ⟨s.children, by rw [exec_cancelChild_of_none out now h]⟩
  | some c =>
    cases ht : c.status.isTerminal
    · cases hw : c.worker with
      | some w => exact ⟨s.children, by rw [exec_cancelChild_of_held out now h ht (by simp [hw])]⟩
      | none =>
        cases hm : Kind.child.canMove c.status .cancelled
        · exact ⟨s.children, by rw [exec_cancelChild_of_stuck out now h ht hw hm]⟩
        · exact ⟨_, by rw [exec_cancelChild_of_free out now h ht hw hm]⟩
    · exact ⟨s.children, by rw [exec_cancelChild_of_ended out now h ht]⟩

/-- Cancelling children writes no other table. -/
theorem cancelChildren_frame (ids : List TaskId) :
    ∃ cs, (exec (cancelChildren ids out now) s).2 = { s with children := cs } := by
  induction ids generalizing out s with
  | nil => exact ⟨s.children, rfl⟩
  | cons id ids ih =>
    unfold cancelChildren
    rw [exec_foldlM_cons, exec_bind]
    obtain ⟨cs, hcs⟩ := @cancelChild_frame s id out now
    rcases hc : exec (cancelChild id out now) s with ⟨r, s1⟩
    rw [hc] at hcs
    simp only at hcs
    subst hcs
    cases r with
    | error e => exact ⟨cs, rfl⟩
    | ok out1 =>
      obtain ⟨cs', hcs'⟩ := ih out1 (s := { s with children := cs })
      exact ⟨cs', hcs'⟩

variable {p : Parent}

theorem exec_cancelParent_of_none (h : Table.find? s.parents id = none) :
    exec (cancelParent id out now) s = (.error (.error (.taskNotFound id)), s) := by
  simp only [cancelParent, exec_bind_of_error s (exec_parent_of_none h)]

/-- An ended parent is left as it is, with its children. -/
theorem exec_cancelParent_of_ended (h : Table.find? s.parents id = some p) (ht : p.status.isTerminal = true) :
    exec (cancelParent id out now) s = (.ok out, s) := by
  simp [cancelParent, exec_bind_of_ok s (exec_parent_of_find h), ht]

/-- A running parent first cancels its children; if that fails, so does the parent's cancel. -/
theorem exec_cancelParent_of_error {e : Failure} {s' : Store} (h : Table.find? s.parents id = some p)
    (ht : p.status.isTerminal = false) (hc : exec (cancelChildren (s.childIds id) out now) s = (.error e, s')) :
    exec (cancelParent id out now) s = (.error e, s') := by
  simp [cancelParent, exec_bind_of_ok s (exec_parent_of_find h), ht, exec_bind, hc]

variable {out' : CancelOutcome} {s' : Store}

/-- A parent a worker holds is reported in flight after its children. -/
theorem exec_cancelParent_of_held (h : Table.find? s.parents id = some p) (ht : p.status.isTerminal = false)
    (hc : exec (cancelChildren (s.childIds id) out now) s = (.ok out', s')) (hw : p.worker.isSome = true) :
    exec (cancelParent id out now) s = (.ok { out' with inFlight := out'.inFlight ++ [id] }, s') := by
  simp only [cancelParent, exec_bind_of_ok s (exec_parent_of_find h), ht, Bool.false_eq_true, if_false,
    exec_bind, exec_get, hc, hw, if_true, exec_pure]

/-- An `IN_PROGRESS` parent is not cancelled itself: it rolls up if its children have all ended. -/
theorem exec_cancelParent_of_active (h : Table.find? s.parents id = some p) (ht : p.status.isTerminal = false)
    (hc : exec (cancelChildren (s.childIds id) out now) s = (.ok out', s')) (hw : p.worker = none)
    (ha : p.status = .inProgress) :
    exec (cancelParent id out now) s = ((exec (rollUpParent id now) s').1.map fun _ => out',
      (exec (rollUpParent id now) s').2) := by
  have ha' : (p.status == .inProgress) = true := by simp [ha]
  simp only [cancelParent, exec_bind_of_ok s (exec_parent_of_find h), ht, Bool.false_eq_true, if_false,
    exec_bind, exec_get, hc, hw, Option.isSome_none, ha', if_true]
  rcases exec (rollUpParent id now) s' with ⟨r, s''⟩
  cases r <;> rfl

/-- Any other parent no worker holds is cancelled after its children. -/
theorem exec_cancelParent_of_free (h : Table.find? s.parents id = some p) (ht : p.status.isTerminal = false)
    (hc : exec (cancelChildren (s.childIds id) out now) s = (.ok out', s')) (hw : p.worker = none)
    (ha : p.status ≠ .inProgress) :
    exec (cancelParent id out now) s =
      (.ok { out' with cancelled := out'.cancelled ++ [id] },
        { s' with parents := Table.put s'.parents (p.cancelledAt now) }) := by
  obtain ⟨cs, hcs⟩ := cancelChildren_frame (s := s) out now (s.childIds id)
  rw [hc] at hcs
  have h' : Table.find? s'.parents id = some p := by simp only at hcs; rw [hcs]; exact h
  have hm : Kind.parent.canMove p.status .cancelled = true := by
    revert ht ha
    cases p.status <;> simp [Status.isTerminal, Kind.canMove, Kind.moves]
  have hct : Status.cancelled.isTerminal = true := rfl
  have hw' : p.worker.isSome = false := by simp [hw]
  have ha' : (p.status == .inProgress) = false := by simp [ha]
  simp only [cancelParent, exec_bind_of_ok s (exec_parent_of_find h), ht, Bool.false_eq_true, if_false,
    exec_bind, exec_get, hc, hw', ha',
    exec_parent_of_find h', Parent.moveTo_of_canMove hm, exec_guardError_ok, exec_putParent, hct, Bool.not_true,
    Bool.and_false]
  rfl

/-- A cancel of a parent writes nothing, or cancels the parent's children and then leaves the parent as it was,
rolls it up, or cancels it. The cancel of the children leaves the parent's record as the cancel found it. -/
theorem exec_cancelParent_cases :
    (exec (cancelParent id out now) s).2 = s ∨
      ∃ p, Table.find? s.parents id = some p ∧ p.status.isTerminal = false ∧
        Table.find? (exec (cancelChildren (s.childIds id) out now) s).2.parents id = some p ∧
        ((exec (cancelParent id out now) s).2 = (exec (cancelChildren (s.childIds id) out now) s).2 ∨
          (exec (cancelParent id out now) s).2 =
            (exec (rollUpParent id now) (exec (cancelChildren (s.childIds id) out now) s).2).2 ∨
          (exec (cancelParent id out now) s).2 = { (exec (cancelChildren (s.childIds id) out now) s).2 with
            parents := Table.put (exec (cancelChildren (s.childIds id) out now) s).2.parents (p.cancelledAt now) }) := by
  cases h : Table.find? s.parents id with
  | none => exact .inl (by rw [exec_cancelParent_of_none out now h])
  | some p =>
    cases ht : p.status.isTerminal
    case true => exact .inl (by rw [exec_cancelParent_of_ended out now h ht])
    case false =>
      obtain ⟨cs, hcs⟩ := cancelChildren_frame (s := s) out now (s.childIds id)
      rcases he : exec (cancelChildren (s.childIds id) out now) s with ⟨r, s'⟩
      rw [he] at hcs
      have hp' : Table.find? s'.parents id = some p := by simp only at hcs; rw [hcs]; exact h
      refine .inr ⟨p, rfl, ht, hp', ?_⟩
      cases r with
      | error e => exact .inl (by rw [exec_cancelParent_of_error out now h ht he])
      | ok out' =>
        cases hw : p.worker with
        | some w => exact .inl (by rw [exec_cancelParent_of_held out now h ht he (by simp [hw])])
        | none =>
          by_cases ha : p.status = .inProgress
          · exact .inr (.inl (by rw [exec_cancelParent_of_active out now h ht he hw ha]))
          · exact .inr (.inr (by rw [exec_cancelParent_of_free out now h ht he hw ha]))

end Cancel

end Store

end Conveyor
