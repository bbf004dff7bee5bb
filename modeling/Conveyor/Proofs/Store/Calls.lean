import Conveyor.Proofs.Store.Steps

/-!
# What each store operation does

One inversion lemma per operation of the task store: either the call leaves the store as it found it,
or its guards passed and the call is the rest of its program run from the store its first writes
leave. A status move is kept as the equation `p.moveTo st now = .ok p'` (`Parent.moveTo_ok` says what
such a `p'` is).
-/

namespace Conveyor

theorem Parent.moveTo_ok {p p' : Parent} {st : Status} {now : Stamp} (h : p.moveTo st now = .ok p') :
    Kind.parent.canMove p.status st = true ∧ p' = { p with
      status := st
      started := if p.started.isNone && !st.isTerminal then some now else p.started
      ended := if st.isTerminal then some now else p.ended } := by
  cases hm : Kind.parent.canMove p.status st
  · rw [Parent.moveTo_of_not hm] at h; cases h
  · rw [Parent.moveTo_of_canMove hm] at h; cases h; exact ⟨rfl, rfl⟩

theorem Child.moveTo_ok {c c' : Child} {st : Status} {now : Stamp} (h : c.moveTo st now = .ok c') :
    Kind.child.canMove c.status st = true ∧ c' = { c with
      status := st
      started := if c.started.isNone && !st.isTerminal then some now else c.started
      ended := if st.isTerminal then some now else c.ended } := by
  cases hm : Kind.child.canMove c.status st
  · rw [Child.moveTo_of_not hm] at h; cases h
  · rw [Child.moveTo_of_canMove hm] at h; cases h; exact ⟨rfl, rfl⟩

/-- A status move keeps what links the parent and sets the status. -/
theorem Parent.moveTo_links {p p' : Parent} {st : Status} {now : Stamp} (h : p.moveTo st now = .ok p') :
    p'.id = p.id ∧ p'.top = p.top ∧ p'.status = st := by
  rw [(Parent.moveTo_ok h).2]
  exact ⟨rfl, rfl, rfl⟩

/-- A status move keeps what links the child and sets the status. -/
theorem Child.moveTo_links {c c' : Child} {st : Status} {now : Stamp} (h : c.moveTo st now = .ok c') :
    c'.id = c.id ∧ c'.parent = c.parent ∧ c'.top = c.top ∧ c'.status = st := by
  rw [(Child.moveTo_ok h).2]
  exact ⟨rfl, rfl, rfl, rfl⟩

/-- The status step that opens staging: an accepted parent moves to `STAGING`, and one already staging or
staged is left as it is. Either way the parent keeps all but its status and stamps. -/
theorem Parent.eq_of_stagingStep {p p' : Parent} {now : Stamp}
    (h : p.status = .accepted ∧ p.moveTo .staging now = .ok p' ∨
      (p.status = .staging ∨ p.status = .staged) ∧ p' = p) :
    ∃ st started ended, (st = .staging ∨ st = .staged) ∧ (p.status = .accepted ∨ p.status = st) ∧
      p' = { p with status := st, started, ended } := by
  rcases h with ⟨hacc, hm⟩ | ⟨hs, h⟩
  · obtain ⟨-, rfl⟩ := Parent.moveTo_ok hm
    exact ⟨_, _, _, .inl rfl, .inl hacc, rfl⟩
  · exact ⟨p.status, p.started, p.ended, hs, .inr rfl, h⟩

/-- The status step that opens an attempt: an accepted child moves to `IN_PROGRESS`, and one already there
is left as it is. Either way the child keeps all but its status and stamps. -/
theorem Child.eq_of_attemptStep {c c' : Child} {now : Stamp}
    (h : c.status = .accepted ∧ c.moveTo .inProgress now = .ok c' ∨ c.status = .inProgress ∧ c' = c) :
    ∃ started ended, c' = { c with status := .inProgress, started, ended } := by
  rcases h with ⟨-, hm⟩ | ⟨hs, h⟩
  · obtain ⟨-, rfl⟩ := Child.moveTo_ok hm
    exact ⟨_, _, rfl⟩
  · refine ⟨c.started, c.ended, ?_⟩
    rw [h, ← hs]

namespace Store

variable {s : Store}

/-! ## Submission -/

theorem exec_forIn_putParent (ps : List Parent) (s : Store) :
    exec (forIn ps PUnit.unit fun p _ => do putParent p; pure (ForInStep.yield PUnit.unit)) s =
      (.ok ⟨⟩, { s with parents := ps.foldl Table.put s.parents }) := by
  induction ps generalizing s with
  | nil => rfl
  | cons p ps ih =>
    rw [List.forIn_cons, exec_bind, exec_bind]
    exact ih _

/-- A transfer with at least one parent, all its own, under a new id, is recorded with its parents; any
other fails before a write. -/
theorem exec_createTransfer (t : Top) (ps : List Parent) :
    (exec (createTransfer t ps) s).2 = s ∨
      (ps ≠ [] ∧ Table.has s.tops t.id = false ∧ exec (createTransfer t ps) s =
        (.ok { t with parents := ps.map (·.id) }, { s with
          parents := ps.foldl Table.put s.parents
          tops := Table.put s.tops { t with parents := ps.map (·.id) } })) := by
  by_cases he : ps.isEmpty = true
  · left
    simp [createTransfer, exec_bind, he]
  cases hs : ps.find? (·.top != t.id) with
  | some stray =>
    left
    simp [createTransfer, exec_bind, he, hs]
  | none =>
    by_cases hh : Table.has s.tops t.id = true
    · left
      simp [createTransfer, exec_bind, he, hs, hh]
    · right
      refine ⟨by simpa using he, by simpa using hh, ?_⟩
      simp only [createTransfer, exec_bind, he, hs, hh, Bool.false_eq_true, if_false, exec_pure, exec_get,
        exec_forIn_putParent, exec_putTop]

/-! ## A parent's lifecycle -/

variable {id : TaskId} {w : WorkerId} {now : Stamp}

/-- Staging starts (from `ACCEPTED`) or resumes (from `STAGING` or `STAGED`) for a parent the worker
holds, and its transfer is refreshed; any other call fails before a write. -/
theorem exec_beginStaging :
    (exec (beginStaging id w now) s).2 = s ∨
      ∃ p p', Table.find? s.parents id = some p ∧ p.worker = some w ∧
        (p.status = .accepted ∧ p.moveTo .staging now = .ok p' ∨
          (p.status = .staging ∨ p.status = .staged) ∧ p' = p) ∧
        exec (beginStaging id w now) s =
          exec (refreshTop p'.top now >>= fun _ => pure p') { s with parents := Table.put s.parents p' } := by
  cases h : Table.find? s.parents id with
  | none => left; simp [beginStaging, exec_bind, exec_ownedParent_of_none h]
  | some p =>
    by_cases hw : p.worker = some w
    · cases hst : p.status with
      | accepted =>
        have hm : Kind.parent.canMove p.status .staging = true := by rw [hst]; rfl
        obtain ⟨p', hp'⟩ : ∃ p', p.moveTo .staging now = .ok p' := ⟨_, Parent.moveTo_of_canMove hm now⟩
        right
        refine ⟨p, p', rfl, hw, .inl ⟨hst, hp'⟩, ?_⟩
        simp [beginStaging, exec_bind, exec_ownedParent_of_find h, hw, hst, hp']
      | staging =>
        right
        refine ⟨p, p, rfl, hw, .inr ⟨.inl hst, rfl⟩, ?_⟩
        simp [beginStaging, exec_bind, exec_ownedParent_of_find h, hw, hst]
      | staged =>
        right
        refine ⟨p, p, rfl, hw, .inr ⟨.inr hst, rfl⟩, ?_⟩
        simp [beginStaging, exec_bind, exec_ownedParent_of_find h, hw, hst]
      | _ => left; simp [beginStaging, exec_bind, exec_ownedParent_of_find h, hw, hst]
    · left
      simp [beginStaging, exec_bind, exec_ownedParent_of_find h, hw]

/-- A listing retry is counted for a parent the worker holds; past the top of a 32-bit count the call
panics before a write. Any other retry fails and writes nothing. -/
theorem exec_recordParentRetry_cases :
    (∃ e, exec (recordParentRetry id w) s = (.error e, s)) ∨
      ∃ p n, Table.find? s.parents id = some p ∧ p.worker = some w ∧ Word.add Word.max32 p.retries 1 = .ok n ∧
        exec (recordParentRetry id w) s = (.ok n, { s with parents := Table.put s.parents { p with retries := n } }) := by
  cases h : Table.find? s.parents id with
  | none => left; simp [recordParentRetry, exec_bind, exec_ownedParent_of_none h]
  | some p =>
    by_cases hw : p.worker = some w
    · cases hn : Word.add Word.max32 p.retries 1 with
      | error e => left; simp [recordParentRetry, exec_bind, exec_ownedParent_of_find h, hw, hn]
      | ok n =>
        right
        exact ⟨p, n, rfl, hw, hn, by simp [recordParentRetry, exec_bind, exec_map, exec_ownedParent_of_find h, hw, hn]; rfl⟩
    · left
      simp [recordParentRetry, exec_bind, exec_ownedParent_of_find h, hw]

theorem exec_recordParentRetry :
    (exec (recordParentRetry id w) s).2 = s ∨
      ∃ p n, Table.find? s.parents id = some p ∧ p.worker = some w ∧ Word.add Word.max32 p.retries 1 = .ok n ∧
        exec (recordParentRetry id w) s = (.ok n, { s with parents := Table.put s.parents { p with retries := n } }) :=
  exec_recordParentRetry_cases.imp_left fun ⟨_, he⟩ => by rw [he]

/-- The children a commit creates for `p`, the `k`-th under the `k`-th id the store invents next. -/
def newChildren (s : Store) (p : Parent) (specs : List ChildSpec) (now : Stamp) : List Child :=
  specs.zipIdx.mapIdx fun k (spec, i) => Child.fresh ⟨Uuid.spawned (s.serial + k)⟩ p spec (now + i)

private theorem exec_mapM_fresh (p : Parent) (now : Stamp) (l : List (ChildSpec × Nat)) (s : Store) :
    exec (l.mapM fun (spec, i) => do
        let cid ← freshId
        pure (Child.fresh cid p spec (now + i))) s =
      (.ok (l.mapIdx fun k (spec, i) => Child.fresh ⟨Uuid.spawned (s.serial + k)⟩ p spec (now + i)),
        { s with serial := s.serial + l.length }) := by
  induction l generalizing s with
  | nil => rfl
  | cons a l ih =>
    rw [List.mapM_cons, exec_bind, exec_bind, exec_freshId]
    simp only [exec_pure]
    rw [exec_bind, ih]
    have e1 : ∀ k, s.serial + 1 + k = s.serial + (k + 1) := fun k => by omega
    simp only [exec_pure, List.mapIdx_cons, Nat.add_zero, List.length_cons, e1]

theorem exec_forIn_putChild (cs : List Child) (s : Store) :
    exec (forIn cs PUnit.unit fun c _ => do putChild c; pure (ForInStep.yield PUnit.unit)) s =
      (.ok ⟨⟩, { s with children := cs.foldl Table.put s.children }) := by
  induction cs generalizing s with
  | nil => rfl
  | cons c cs ih =>
    rw [List.forIn_cons, exec_bind, exec_bind]
    exact ih _

/-- A parent the worker holds moves from `STAGING` to `STAGED` with its new children, their total size
and their count; the ids are drawn before the total is summed, so a sum past the top of a 64-bit word
panics with only the ids drawn. Any other commit fails and writes nothing. -/
theorem exec_commitStaging_cases (specs : List ChildSpec) :
    (∃ e, exec (commitStaging id w specs now) s = (.error e, s)) ∨
      ∃ p p', Table.find? s.parents id = some p ∧ p.worker = some w ∧ p.moveTo .staged now = .ok p' ∧
        ((∃ e, Word.sum Word.max64 ((s.newChildren p specs now).map (·.size)) = .error e ∧
            exec (commitStaging id w specs now) s = (.error (.panic e), { s with serial := s.serial + specs.length })) ∨
          ∃ total, Word.sum Word.max64 ((s.newChildren p specs now).map (·.size)) = .ok total ∧
            exec (commitStaging id w specs now) s = (.ok (s.newChildren p specs now), { s with
              serial := s.serial + specs.length
              parents := Table.put s.parents
                { p' with totalBytes := some total, childCount := specs.length, bytes := 0 }
              childLists := setChildList s.childLists id ((s.newChildren p specs now).map (·.id))
              children := (s.newChildren p specs now).foldl Table.put s.children })) := by
  cases h : Table.find? s.parents id with
  | none => left; simp [commitStaging, exec_bind, exec_ownedParent_of_none h]
  | some p =>
    by_cases hw : p.worker = some w
    · cases hm : p.moveTo .staged now with
      | error e => left; simp [commitStaging, exec_bind, exec_ownedParent_of_find h, hw, hm]
      | ok p' =>
        right
        refine ⟨p, p', rfl, hw, hm, ?_⟩
        have hlen : (s.newChildren p specs now).length = specs.length := by simp [newChildren]
        cases ht : Word.sum Word.max64 ((s.newChildren p specs now).map (·.size)) with
        | error e =>
          left
          refine ⟨e, rfl, ?_⟩
          simp only [commitStaging, exec_bind, exec_ownedParent_of_find h, hw, if_true, hm, exec_guardError_ok]
          rw [exec_mapM_fresh, ← newChildren.eq_1]
          simp only [ht, exec_guardPanic_error, List.length_zipIdx]
        | ok total =>
          right
          refine ⟨total, rfl, ?_⟩
          simp only [commitStaging, exec_bind, exec_ownedParent_of_find h, hw, if_true, hm, exec_guardError_ok]
          rw [exec_mapM_fresh, ← newChildren.eq_1]
          simp only [ht, exec_guardPanic_ok, exec_putParent, exec_modify, exec_forIn_putChild, exec_pure,
            List.length_zipIdx, hlen]
    · left
      simp [commitStaging, exec_bind, exec_ownedParent_of_find h, hw]

theorem exec_commitStaging (specs : List ChildSpec) :
    (exec (commitStaging id w specs now) s).2 = s ∨
      ∃ p p', Table.find? s.parents id = some p ∧ p.worker = some w ∧ p.moveTo .staged now = .ok p' ∧
        ((∃ e, Word.sum Word.max64 ((s.newChildren p specs now).map (·.size)) = .error e ∧
            exec (commitStaging id w specs now) s = (.error (.panic e), { s with serial := s.serial + specs.length })) ∨
          ∃ total, Word.sum Word.max64 ((s.newChildren p specs now).map (·.size)) = .ok total ∧
            exec (commitStaging id w specs now) s = (.ok (s.newChildren p specs now), { s with
              serial := s.serial + specs.length
              parents := Table.put s.parents
                { p' with totalBytes := some total, childCount := specs.length, bytes := 0 }
              childLists := setChildList s.childLists id ((s.newChildren p specs now).map (·.id))
              children := (s.newChildren p specs now).foldl Table.put s.children })) :=
  (exec_commitStaging_cases specs).imp_left fun ⟨_, he⟩ => by rw [he]

/-- A commit that gives children took the path that writes them. -/
theorem exec_commitStaging_ok {cs : List Child} (h : (exec (commitStaging id w specs now) s).1 = .ok cs) :
    ∃ p p' total, Table.find? s.parents id = some p ∧ p.moveTo .staged now = .ok p' ∧
      Word.sum Word.max64 ((s.newChildren p specs now).map (·.size)) = .ok total ∧
      exec (commitStaging id w specs now) s = (.ok (s.newChildren p specs now), { s with
        serial := s.serial + specs.length
        parents := Table.put s.parents { p' with totalBytes := some total, childCount := specs.length, bytes := 0 }
        childLists := setChildList s.childLists id ((s.newChildren p specs now).map (·.id))
        children := (s.newChildren p specs now).foldl Table.put s.children }) := by
  rcases @exec_commitStaging_cases s id w now specs with ⟨e, he⟩ | ⟨p, p', hp, -, hm, ⟨e, -, he⟩ | ⟨total, ht, he⟩⟩
  · rw [he] at h
    cases h
  · rw [he] at h
    cases h
  · exact ⟨p, p', total, hp, hm, ht, he⟩

/-- A commit for a `STAGING` parent the worker holds, whose children's sizes sum within a 64-bit word,
writes the parent `STAGED` with the new children, their total and their count. -/
theorem exec_commitStaging_of_staging {p : Parent} {specs : List ChildSpec} {total : Nat}
    (hp : Table.find? s.parents id = some p) (hw : p.worker = some w) (hst : p.status = .staging)
    (ht : Word.sum Word.max64 (specs.map (·.size)) = .ok total) :
    ∃ p', p.moveTo .staged now = .ok p' ∧
      exec (commitStaging id w specs now) s = (.ok (s.newChildren p specs now), { s with
        serial := s.serial + specs.length
        parents := Table.put s.parents { p' with totalBytes := some total, childCount := specs.length, bytes := 0 }
        childLists := setChildList s.childLists id ((s.newChildren p specs now).map (·.id))
        children := (s.newChildren p specs now).foldl Table.put s.children }) := by
  have hm : Kind.parent.canMove p.status .staged = true := by rw [hst]; rfl
  obtain ⟨p', hp'⟩ : ∃ p', p.moveTo .staged now = .ok p' := ⟨_, Parent.moveTo_of_canMove hm now⟩
  have hlen : (s.newChildren p specs now).length = specs.length := by simp [newChildren]
  have hsizes : (s.newChildren p specs now).map (·.size) = specs.map (·.size) := by
    apply List.ext_getElem <;> simp [newChildren, Child.fresh]
  refine ⟨p', hp', ?_⟩
  simp only [commitStaging, exec_bind, exec_ownedParent_of_find hp, hw, if_true, hp', exec_guardError_ok]
  rw [exec_mapM_fresh, ← newChildren.eq_1]
  simp only [hsizes, ht, exec_guardPanic_ok, exec_putParent, exec_modify, exec_forIn_putChild, exec_pure,
    List.length_zipIdx, hlen]

/-- A parent the worker holds moves to `IN_PROGRESS` and is released; it rolls up at once if its children
have all ended, and its transfer is refreshed. Any other start fails and writes nothing. -/
theorem exec_startParent_cases :
    (∃ e, exec (startParent id w now) s = (.error e, s)) ∨
      ∃ p p', Table.find? s.parents id = some p ∧ p.worker = some w ∧ p.moveTo .inProgress now = .ok p' ∧
        exec (startParent id w now) s =
          exec (rollUpParent id now >>= fun _ => refreshTop p.top now >>= fun _ => parent id)
            { s with parents := Table.put s.parents { p' with worker := none } } := by
  cases h : Table.find? s.parents id with
  | none => left; simp [startParent, exec_bind, exec_ownedParent_of_none h]
  | some p =>
    by_cases hw : p.worker = some w
    · cases hm : p.moveTo .inProgress now with
      | error e => left; simp [startParent, exec_bind, exec_ownedParent_of_find h, hw, hm]
      | ok p' =>
        right
        have htop : p'.top = p.top := by rw [(Parent.moveTo_ok hm).2]
        refine ⟨p, p', rfl, hw, hm, ?_⟩
        simp [startParent, exec_bind, exec_ownedParent_of_find h, hw, hm, htop]
    · left
      simp [startParent, exec_bind, exec_ownedParent_of_find h, hw]

theorem exec_startParent :
    (exec (startParent id w now) s).2 = s ∨
      ∃ p p', Table.find? s.parents id = some p ∧ p.worker = some w ∧ p.moveTo .inProgress now = .ok p' ∧
        exec (startParent id w now) s =
          exec (rollUpParent id now >>= fun _ => refreshTop p.top now >>= fun _ => parent id)
            { s with parents := Table.put s.parents { p' with worker := none } } :=
  exec_startParent_cases.imp_left fun ⟨_, he⟩ => by rw [he]

/-- A parent the worker holds ends with a terminal status and is released; its running children no
worker holds are cancelled, and its transfer is refreshed. Any other end fails and writes nothing. -/
theorem exec_finishParent_cases (status : Status) (error : Option String) :
    (∃ e, exec (finishParent id w status error now) s = (.error e, s)) ∨
      ∃ p p', Table.find? s.parents id = some p ∧ p.worker = some w ∧ status.isTerminal = true ∧
        p.moveTo status now = .ok p' ∧
        exec (finishParent id w status error now) s =
          exec (cancelChildren (s.childIds id) ⟨p.top, p.tenant, true, [], []⟩ now >>= fun _ =>
              refreshTop p.top now >>= fun _ => parent id)
            { s with parents := Table.put s.parents { p' with worker := none, error } } := by
  by_cases ht : status.isTerminal = true
  · cases h : Table.find? s.parents id with
    | none => left; simp [finishParent, exec_bind, ht, exec_ownedParent_of_none h]
    | some p =>
      by_cases hw : p.worker = some w
      · cases hm : p.moveTo status now with
        | error e => left; simp [finishParent, exec_bind, ht, exec_ownedParent_of_find h, hw, hm]
        | ok p' =>
          right
          obtain ⟨-, rfl⟩ := Parent.moveTo_ok hm
          refine ⟨p, _, rfl, hw, ht, hm, ?_⟩
          simp [finishParent, exec_bind, ht, exec_ownedParent_of_find h, hw, hm, childIds]
      · left
        simp [finishParent, exec_bind, ht, exec_ownedParent_of_find h, hw]
  · left
    simp [finishParent, exec_bind, ht]

/-! ## A child's lifecycle -/

theorem exec_finishParent (status : Status) (error : Option String) :
    (exec (finishParent id w status error now) s).2 = s ∨
      ∃ p p', Table.find? s.parents id = some p ∧ p.worker = some w ∧ status.isTerminal = true ∧
        p.moveTo status now = .ok p' ∧
        exec (finishParent id w status error now) s =
          exec (cancelChildren (s.childIds id) ⟨p.top, p.tenant, true, [], []⟩ now >>= fun _ =>
              refreshTop p.top now >>= fun _ => parent id)
            { s with parents := Table.put s.parents { p' with worker := none, error } } :=
  (exec_finishParent_cases status error).imp_left fun ⟨_, he⟩ => by rw [he]

/-- An attempt starts (from `ACCEPTED`) or resumes (from `IN_PROGRESS`) for a child the worker holds: it
is counted and the child's bytes go back to zero; past the top of a 32-bit count the call panics after
the status write. Any other start fails and writes nothing. -/
theorem exec_beginChildAttempt_cases :
    (∃ e, exec (beginChildAttempt id w now) s = (.error e, s)) ∨
      ∃ c c', Table.find? s.children id = some c ∧ c.worker = some w ∧
        (c.status = .accepted ∧ c.moveTo .inProgress now = .ok c' ∨ c.status = .inProgress ∧ c' = c) ∧
        ((∃ e, Word.add Word.max32 c.retries 1 = .error e ∧
            exec (beginChildAttempt id w now) s = (.error (.panic e), { s with children := Table.put s.children c' })) ∨
          ∃ n, Word.add Word.max32 c.retries 1 = .ok n ∧
            exec (beginChildAttempt id w now) s =
              exec (setChildBytes id 0 >>= fun _ => child id)
                { s with children := Table.put s.children { c' with retries := n } }) := by
  cases h : Table.find? s.children id with
  | none => left; simp [beginChildAttempt, exec_bind, exec_ownedChild_of_none h]
  | some c =>
    by_cases hw : c.worker = some w
    · have hkey : ∀ {c' : Child}, c.moveTo .inProgress now = .ok c' → c'.retries = c.retries ∧ c'.id = c.id := by
        intro c' hc'
        rw [(Child.moveTo_ok hc').2]
        exact ⟨rfl, rfl⟩
      cases hst : c.status with
      | accepted =>
        have hm : Kind.child.canMove c.status .inProgress = true := by rw [hst]; rfl
        obtain ⟨c', hc'⟩ : ∃ c', c.moveTo .inProgress now = .ok c' := ⟨_, Child.moveTo_of_canMove hm now⟩
        right
        refine ⟨c, c', rfl, hw, .inl ⟨hst, hc'⟩, ?_⟩
        obtain ⟨hr, hid⟩ := hkey hc'
        cases hn : Word.add Word.max32 c.retries 1 with
        | error e =>
          left
          refine ⟨e, rfl, ?_⟩
          simp [beginChildAttempt, exec_bind, exec_ownedChild_of_find h, hw, hst, hc', hr, hn]
        | ok n =>
          right
          refine ⟨n, rfl, ?_⟩
          have hpp : ∀ xs : List Child, Table.put (Table.put xs c') { c' with retries := n } =
              Table.put xs { c' with retries := n } := fun xs => Table.put_put xs rfl
          simp [beginChildAttempt, exec_bind, exec_ownedChild_of_find h, hw, hst, hc', hr, hn, hpp]
      | inProgress =>
        right
        refine ⟨c, c, rfl, hw, .inr ⟨hst, rfl⟩, ?_⟩
        cases hn : Word.add Word.max32 c.retries 1 with
        | error e =>
          left
          refine ⟨e, rfl, ?_⟩
          simp [beginChildAttempt, exec_bind, exec_ownedChild_of_find h, hw, hst, hn]
        | ok n =>
          right
          refine ⟨n, rfl, ?_⟩
          have hpp : ∀ (xs : List Child) (x y : Child), x.id = y.id → Table.put (Table.put xs x) y = Table.put xs y :=
            fun xs _ _ h => Table.put_put xs h
          simp [beginChildAttempt, exec_bind, exec_ownedChild_of_find h, hw, hst, hn, hpp]
      | _ => left; simp [beginChildAttempt, exec_bind, exec_ownedChild_of_find h, hw, hst]
    · left
      simp [beginChildAttempt, exec_bind, exec_ownedChild_of_find h, hw]

theorem exec_beginChildAttempt :
    (exec (beginChildAttempt id w now) s).2 = s ∨
      ∃ c c', Table.find? s.children id = some c ∧ c.worker = some w ∧
        (c.status = .accepted ∧ c.moveTo .inProgress now = .ok c' ∨ c.status = .inProgress ∧ c' = c) ∧
        ((∃ e, Word.add Word.max32 c.retries 1 = .error e ∧
            exec (beginChildAttempt id w now) s = (.error (.panic e), { s with children := Table.put s.children c' })) ∨
          ∃ n, Word.add Word.max32 c.retries 1 = .ok n ∧
            exec (beginChildAttempt id w now) s =
              exec (setChildBytes id 0 >>= fun _ => child id)
                { s with children := Table.put s.children { c' with retries := n } }) :=
  exec_beginChildAttempt_cases.imp_left fun ⟨_, he⟩ => by rw [he]

/-- A progress write for a child the worker holds sets the child's count. -/
theorem exec_recordProgress_held {c : Child} (hc : Table.find? s.children id = some c) (hw : c.worker = some w)
    (bytes : Nat) : exec (recordProgress id w bytes) s = exec (setChildBytes id bytes) s := by
  simp [recordProgress, exec_bind, exec_ownedChild_of_find hc, hw]

/-- A progress write for a child another worker holds, or none, is refused with `NotOwner` and writes
nothing. -/
theorem exec_recordProgress_unheld {c : Child} (hc : Table.find? s.children id = some c) (hw : c.worker ≠ some w)
    (bytes : Nat) : exec (recordProgress id w bytes) s = (.error (.error (.notOwner id)), s) := by
  simp [recordProgress, exec_bind, exec_ownedChild_of_find hc, hw]

theorem exec_recordProgress_of_none (hc : Table.find? s.children id = none) (bytes : Nat) :
    exec (recordProgress id w bytes) s = (.error (.error (.taskNotFound id)), s) := by
  simp [recordProgress, exec_bind, exec_ownedChild_of_none hc]

/-- Progress is recorded only for a child the worker holds. -/
theorem exec_recordProgress (bytes : Nat) :
    (exec (recordProgress id w bytes) s).2 = s ∨
      ∃ c, Table.find? s.children id = some c ∧ c.worker = some w ∧
        exec (recordProgress id w bytes) s = exec (setChildBytes id bytes) s := by
  cases h : Table.find? s.children id with
  | none => exact Or.inl (by rw [exec_recordProgress_of_none h])
  | some c =>
    by_cases hw : c.worker = some w
    · exact Or.inr ⟨c, rfl, hw, exec_recordProgress_held h hw bytes⟩
    · exact Or.inl (by rw [exec_recordProgress_unheld h hw])

/-- A child the worker holds ends with a terminal status and its final byte count and is released, and
its parent rolls up if it was the last to end. Any other end fails and writes nothing. -/
theorem exec_finishChild_cases (status : Status) (bytes : Nat) (error : Option String) :
    (∃ e, exec (finishChild id w status bytes error now) s = (.error e, s)) ∨
      ∃ c c', Table.find? s.children id = some c ∧ c.worker = some w ∧ status.isTerminal = true ∧
        c.moveTo status now = .ok c' ∧
        exec (finishChild id w status bytes error now) s =
          exec (setChildBytes id bytes >>= fun _ => rollUpParent c.parent now >>= fun _ => child id)
            { s with children := Table.put s.children { c' with worker := none, error } } := by
  by_cases ht : status.isTerminal = true
  · cases h : Table.find? s.children id with
    | none => left; simp [finishChild, exec_bind, ht, exec_ownedChild_of_none h]
    | some c =>
      by_cases hw : c.worker = some w
      · cases hm : c.moveTo status now with
        | error e => left; simp [finishChild, exec_bind, ht, exec_ownedChild_of_find h, hw, hm]
        | ok c' =>
          right
          have hp : c'.parent = c.parent := by rw [(Child.moveTo_ok hm).2]
          refine ⟨c, c', rfl, hw, ht, hm, ?_⟩
          simp [finishChild, exec_bind, ht, exec_ownedChild_of_find h, hw, hm, hp]
      · left
        simp [finishChild, exec_bind, ht, exec_ownedChild_of_find h, hw]
  · left
    simp [finishChild, exec_bind, ht]

theorem exec_finishChild (status : Status) (bytes : Nat) (error : Option String) :
    (exec (finishChild id w status bytes error now) s).2 = s ∨
      ∃ c c', Table.find? s.children id = some c ∧ c.worker = some w ∧ status.isTerminal = true ∧
        c.moveTo status now = .ok c' ∧
        exec (finishChild id w status bytes error now) s =
          exec (setChildBytes id bytes >>= fun _ => rollUpParent c.parent now >>= fun _ => child id)
            { s with children := Table.put s.children { c' with worker := none, error } } :=
  (exec_finishChild_cases status bytes error).imp_left fun ⟨_, he⟩ => by rw [he]

/-! ## Cancel requests -/

section RequestCancel

variable {t : Top}

/-- The transfer a cancel of task \x60id\x60 lands on, and whether the task itself has ended. -/
def locate (s : Store) (id : TaskId) : Option (TaskId × Bool) :=
  match Table.find? s.tops id, Table.find? s.parents id, Table.find? s.children id with
  | some t, _, _ => some (t.id, t.status.isTerminal)
  | none, some p, _ => some (p.top, p.status.isTerminal)
  | none, none, some c => some (c.top, c.status.isTerminal)
  | none, none, none => none

/-- A cancel of a task that ended, or of a task of a transfer that ended, is refused and writes
nothing. -/
theorem exec_requestCancel_of_ended {topId : TaskId} {terminal : Bool} (hl : s.locate id = some (topId, terminal))
    (ht : Table.find? s.tops topId = some t) (he : (terminal || t.status.isTerminal) = true) :
    exec (requestCancel id now) s = (.ok ⟨topId, t.tenant, false, [], []⟩, s) := by
  simp only [locate] at hl
  rw [Bool.or_eq_true] at he
  simp only [requestCancel, exec_bind, exec_get]
  split at hl <;> simp only [Option.some.injEq, Prod.mk.injEq, reduceCtorEq] at hl <;>
    obtain ⟨rfl, rfl⟩ := hl <;> simp [*, exec_bind, exec_top_of_find ht]

theorem exec_requestCancel_of_unknown (hl : s.locate id = none) :
    exec (requestCancel id now) s = (.error (.error (.taskNotFound id)), s) := by
  simp only [locate] at hl
  simp only [requestCancel, exec_bind, exec_get]
  split at hl <;> simp_all [exec_bind]

/-- A task whose transfer is missing cannot be cancelled. -/
theorem exec_requestCancel_of_lost {topId : TaskId} {terminal : Bool} (hl : s.locate id = some (topId, terminal))
    (ht : Table.find? s.tops topId = none) :
    exec (requestCancel id now) s = (.error (.error (.taskNotFound topId)), s) := by
  simp only [locate] at hl
  simp only [requestCancel, exec_bind, exec_get]
  split at hl <;> simp only [Option.some.injEq, Prod.mk.injEq, reduceCtorEq] at hl <;>
    obtain ⟨rfl, rfl⟩ := hl <;> simp [*, exec_bind, exec_top_of_none ht]

/-- A cancel of a running transfer marks it, cancels its parents in order, and refreshes it. -/
theorem exec_requestCancel_of_top (h : Table.find? s.tops id = some t) (hn : t.status.isTerminal = false) :
    exec (requestCancel id now) s =
      exec (t.parents.foldlM (fun out pid => cancelParent pid out now) ⟨id, t.tenant, true, [], []⟩ >>= fun out =>
          refreshTop id now >>= fun _ => pure out)
        { s with tops := Table.put s.tops { t with cancelRequested := true } } := by
  have hid : t.id = id := (Table.find?_eq_some h).2
  subst hid
  have h' : Table.find? ({ s with tops := Table.put s.tops { t with cancelRequested := true } } : Store).tops t.id =
      some { t with cancelRequested := true } := Table.find?_put_self _ _
  simp [requestCancel, exec_bind, h, exec_top_of_find h, hn, exec_top_of_find h']

/-- A cancel of a running parent of a running transfer marks the parent, cancels it with its children,
and refreshes the transfer. -/
theorem exec_requestCancel_of_parent {p : Parent} (h0 : Table.find? s.tops id = none)
    (h : Table.find? s.parents id = some p) (ht : Table.find? s.tops p.top = some t)
    (hn : p.status.isTerminal = false) (htn : t.status.isTerminal = false) :
    exec (requestCancel id now) s =
      exec (mark id >>= fun _ => cancelParent id ⟨p.top, t.tenant, true, [], []⟩ now >>= fun out =>
          refreshTop p.top now >>= fun _ => pure out) s := by
  have hne : id ≠ p.top := by
    rintro rfl
    rw [h0] at ht
    cases ht
  have hh : Table.has s.parents id = true := by rw [← Table.find?_isSome, h]; rfl
  simp [requestCancel, exec_bind, h0, h, exec_top_of_find ht, hn, htn, hne, hh]

/-- A cancel of a running child of a running transfer marks the child, cancels it, rolls up its parent
and refreshes the transfer. -/
theorem exec_requestCancel_of_child {c : Child} (h0 : Table.find? s.tops id = none)
    (h1 : Table.find? s.parents id = none) (h : Table.find? s.children id = some c)
    (ht : Table.find? s.tops c.top = some t) (hn : c.status.isTerminal = false) (htn : t.status.isTerminal = false) :
    exec (requestCancel id now) s =
      exec (mark id >>= fun _ => cancelChild id ⟨c.top, t.tenant, true, [], []⟩ now >>= fun out =>
          child id >>= fun c' => rollUpParent c'.parent now >>= fun _ => refreshTop c.top now >>= fun _ => pure out)
        s := by
  have hne : id ≠ c.top := by
    rintro rfl
    rw [h0] at ht
    cases ht
  have hh : Table.has s.parents id = false := by rw [← Table.find?_isSome, h1]; rfl
  simp [requestCancel, exec_bind, h0, h1, h, exec_top_of_find ht, hn, htn, hne, hh]

/-- A cancel either writes nothing, or lands on a running task of a running transfer and is one of
three programs: for the transfer, for a parent, or for a child. -/
theorem exec_requestCancel :
    (exec (requestCancel id now) s).2 = s ∨
    (∃ t, Table.find? s.tops id = some t ∧ t.status.isTerminal = false ∧
      exec (requestCancel id now) s =
        exec (t.parents.foldlM (fun out pid => cancelParent pid out now) ⟨id, t.tenant, true, [], []⟩ >>= fun out =>
            refreshTop id now >>= fun _ => pure out)
          { s with tops := Table.put s.tops { t with cancelRequested := true } }) ∨
    (∃ p t, Table.find? s.tops id = none ∧ Table.find? s.parents id = some p ∧ Table.find? s.tops p.top = some t ∧
      p.status.isTerminal = false ∧ t.status.isTerminal = false ∧
      exec (requestCancel id now) s =
        exec (mark id >>= fun _ => cancelParent id ⟨p.top, t.tenant, true, [], []⟩ now >>= fun out =>
          refreshTop p.top now >>= fun _ => pure out) s) ∨
    (∃ c t, Table.find? s.tops id = none ∧ Table.find? s.parents id = none ∧ Table.find? s.children id = some c ∧
      Table.find? s.tops c.top = some t ∧ c.status.isTerminal = false ∧ t.status.isTerminal = false ∧
      exec (requestCancel id now) s =
        exec (mark id >>= fun _ => cancelChild id ⟨c.top, t.tenant, true, [], []⟩ now >>= fun out =>
          child id >>= fun c' => rollUpParent c'.parent now >>= fun _ => refreshTop c.top now >>= fun _ => pure out)
          s) := by
  have hstop : ∀ (topId : TaskId) (terminal : Bool), s.locate id = some (topId, terminal) →
      (∀ t, Table.find? s.tops topId = some t → (terminal || t.status.isTerminal) = true) →
      (exec (requestCancel id now) s).2 = s := by
    intro topId terminal hl he
    cases ht : Table.find? s.tops topId with
    | none => rw [exec_requestCancel_of_lost hl ht]
    | some t => rw [exec_requestCancel_of_ended hl ht (he t ht)]
  cases h0 : Table.find? s.tops id with
  | some t =>
    cases hn : t.status.isTerminal
    · exact .inr (.inl ⟨t, rfl, hn, exec_requestCancel_of_top h0 hn⟩)
    · exact .inl (hstop t.id true (by simp [locate, h0, hn]) fun t' ht' => by simp)
  | none =>
  cases h1 : Table.find? s.parents id with
  | some p =>
    cases ht : Table.find? s.tops p.top with
    | none => exact .inl (hstop p.top p.status.isTerminal (by simp [locate, h0, h1]) fun t' ht' => by simp_all)
    | some t =>
      by_cases hn : p.status.isTerminal = false ∧ t.status.isTerminal = false
      · exact .inr (.inr (.inl ⟨p, t, rfl, rfl, ht, hn.1, hn.2, exec_requestCancel_of_parent h0 h1 ht hn.1 hn.2⟩))
      · exact .inl (hstop p.top p.status.isTerminal (by simp [locate, h0, h1]) fun t' ht' => by
          rw [ht] at ht'; cases ht'; revert hn; cases p.status.isTerminal <;> cases t.status.isTerminal <;> simp)
  | none =>
  cases h2 : Table.find? s.children id with
  | some c =>
    cases ht : Table.find? s.tops c.top with
    | none => exact .inl (hstop c.top c.status.isTerminal (by simp [locate, h0, h1, h2]) fun t' ht' => by simp_all)
    | some t =>
      by_cases hn : c.status.isTerminal = false ∧ t.status.isTerminal = false
      · exact .inr (.inr (.inr ⟨c, t, rfl, rfl, rfl, ht, hn.1, hn.2, exec_requestCancel_of_child h0 h1 h2 ht hn.1 hn.2⟩))
      · exact .inl (hstop c.top c.status.isTerminal (by simp [locate, h0, h1, h2]) fun t' ht' => by
          rw [ht] at ht'; cases ht'; revert hn; cases c.status.isTerminal <;> cases t.status.isTerminal <;> simp)
  | none => exact .inl (by rw [exec_requestCancel_of_unknown (by simp [locate, h0, h1, h2])])

end RequestCancel

end Store

end Conveyor
