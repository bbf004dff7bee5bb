import Conveyor.Proofs.Service.Attempts

/-!
# How a pipeline ends

A worker runs a parent or a child pipeline on a task it holds. The pipeline catches every failure of the
work itself (`Pipe.attempt`) and records it in the store, and lets through only the failures its
classification calls bookkeeping (`Error.isBookkeeping`: the kinds `State` and `Store`):

* `FailsOnly P m`: the program \x60m\x60 stops with an error only when the error meets \x60P\x60. It goes through
  \x60>>=\x60, handlers, branches and loops, and every operation of the store a pipeline calls stops only with a
  bookkeeping error (`Store.failsOnly_finishParent` and the rest).
* `Pipe.Gives Q m`: when \x60m\x60 gives a result, the result and the pipeline it leaves meet \x60Q\x60. A pipeline gives
  a result only through its last store call, the end or the start of its task, which releases the task.
* `Pipe.pipelines_end`: a parent pipeline gives its parent, released and past staging as the store holds
  it, or stops with a bookkeeping error (or a panic); a child pipeline gives its child, released and
  ended, or stops likewise.

A source or destination that does not parse as a location fails with `InvalidRequest`, whose kind is
`State`: that failure of the work is let through unrecorded, and the task stays with its worker
(`unparsable_source_stops_pipeline`).
-/

namespace Conveyor

/-! ## Programs that fail only with some errors -/

/-- A bound program that stops stopped in its first part, or gave a result there and stopped in its second. -/
theorem stops_of_bind {σ α β : Type} {m : ExceptT Failure (StateM σ) α} {k : α → ExceptT Failure (StateM σ) β}
    {x : σ} {f : Failure} (h : ((m >>= k).run.run x).1 = .error f) :
    (m.run.run x).1 = .error f ∨ ∃ a x', m.run.run x = (.ok a, x') ∧ ((k a).run.run x').1 = .error f := by
  change ((ExceptT.bind m k).run.run x).1 = _ at h
  simp only [ExceptT.bind, ExceptT.run, ExceptT.mk, StateT.run, Bind.bind, StateT.bind, ExceptT.bindCont] at h ⊢
  rcases hr : m x with ⟨r, x'⟩
  rw [hr] at h
  cases r with
  | ok a => exact Or.inr ⟨a, x', rfl, h⟩
  | error g =>
    change Except.error g = _ at h
    cases h
    exact Or.inl rfl

/-- The program \x60m\x60 stops with an error only when the error meets \x60P\x60; it may panic anyhow. -/
def FailsOnly {σ α : Type} (P : Error → Prop) (m : ExceptT Failure (StateM σ) α) : Prop :=
  ∀ x e, (m.run.run x).1 = .error (.error e) → P e

namespace FailsOnly

variable {σ α β : Type} {P : Error → Prop}

theorem pure (a : α) : FailsOnly P (Pure.pure a : ExceptT Failure (StateM σ) α) := fun _ _ h => by cases h

theorem bind {m : ExceptT Failure (StateM σ) α} {k : α → ExceptT Failure (StateM σ) β} (hm : FailsOnly P m)
    (hk : ∀ a, FailsOnly P (k a)) : FailsOnly P (m >>= k) := by
  intro x e h
  rcases stops_of_bind h with h | ⟨a, x', -, h⟩
  · exact hm x e h
  · exact hk a x' e h

/-- A handler's failures are the only ones a caught program lets through. -/
theorem tryCatch {m : ExceptT Failure (StateM σ) α} {h : Failure → ExceptT Failure (StateM σ) α}
    (hh : ∀ f, FailsOnly P (h f)) : FailsOnly P (tryCatch m h) := by
  intro x e he
  change ((ExceptT.tryCatch m h).run.run x).1 = _ at he
  simp only [ExceptT.tryCatch, ExceptT.run, ExceptT.mk, StateT.run, Bind.bind, StateT.bind] at he
  rcases hr : m x with ⟨r, x'⟩
  rw [hr] at he
  cases r with
  | ok a => cases he
  | error f => exact hh f x' e he

theorem ite {c : Prop} [Decidable c] {m m' : ExceptT Failure (StateM σ) α} (hm : FailsOnly P m)
    (hm' : FailsOnly P m') : FailsOnly P (if c then m else m') := by
  split
  · exact hm
  · exact hm'

theorem get : FailsOnly P (MonadState.get : ExceptT Failure (StateM σ) σ) := fun _ _ h => by cases h

theorem set (x : σ) : FailsOnly P (MonadStateOf.set x : ExceptT Failure (StateM σ) PUnit) := fun _ _ h => by cases h

theorem modify (g : σ → σ) : FailsOnly P (modify g : ExceptT Failure (StateM σ) PUnit) := fun _ _ h => by cases h

theorem throw {e : Error} (he : P e) : FailsOnly P (MonadExcept.throw (.error e) : ExceptT Failure (StateM σ) α) :=
  fun _ _ h => by cases h; exact he

theorem throw_panic (p : Panic) : FailsOnly P (MonadExcept.throw (.panic p) : ExceptT Failure (StateM σ) α) :=
  fun _ _ h => by cases h

theorem mono {Q : Error → Prop} {m : ExceptT Failure (StateM σ) α} (hm : FailsOnly P m) (hPQ : ∀ e, P e → Q e) :
    FailsOnly Q m :=
  fun x e h => hPQ e (hm x e h)

theorem foldlM {g : β → α → ExceptT Failure (StateM σ) β} (hg : ∀ b a, FailsOnly P (g b a)) (xs : List α) (b : β) :
    FailsOnly P (xs.foldlM g b) :=
  foldlM_of_bind (P := FailsOnly P) FailsOnly.pure FailsOnly.bind hg xs b

theorem mapM {g : α → ExceptT Failure (StateM σ) β} (hg : ∀ a, FailsOnly P (g a)) (xs : List α) :
    FailsOnly P (xs.mapM g) := by
  induction xs with
  | nil => exact pure []
  | cons a xs ih =>
    rw [List.mapM_cons]
    exact (hg a).bind fun b => ih.bind fun bs => pure (b :: bs)

theorem forIn {g : α → PUnit → ExceptT Failure (StateM σ) (ForInStep PUnit)} (hg : ∀ a u, FailsOnly P (g a u))
    (xs : List α) : FailsOnly P (forIn xs PUnit.unit g) := by
  induction xs with
  | nil => exact pure _
  | cons a xs ih =>
    rw [List.forIn_cons]
    refine (hg a _).bind fun r => ?_
    cases r with
    | done u => exact pure u
    | yield u => exact ih

end FailsOnly

/-- The classification a pipeline stops on: the kinds `State` and `Store`. -/
abbrev Bookkeeping (e : Error) : Prop := e.isBookkeeping = true

/-! ## What the store fails with -/

namespace Store

theorem Parent.moveTo_bookkeeping {p : Parent} {st : Status} {now : Stamp} {e : Error}
    (h : p.moveTo st now = .error e) : Bookkeeping e := by
  cases hm : Kind.parent.canMove p.status st
  · rw [Parent.moveTo_of_not hm] at h
    cases h
    rfl
  · rw [Parent.moveTo_of_canMove hm] at h
    cases h

theorem Child.moveTo_bookkeeping {c : Child} {st : Status} {now : Stamp} {e : Error}
    (h : c.moveTo st now = .error e) : Bookkeeping e := by
  cases hm : Kind.child.canMove c.status st
  · rw [Child.moveTo_of_not hm] at h
    cases h
    rfl
  · rw [Child.moveTo_of_canMove hm] at h
    cases h

variable {α : Type} {id : TaskId} {w : WorkerId} {now : Stamp}

theorem failsOnly_fail {e : Error} (he : Bookkeeping e) : FailsOnly Bookkeeping (fail e : StoreM α) :=
  FailsOnly.throw he

theorem failsOnly_guardError {r : Except Error α} (h : ∀ e, r = .error e → Bookkeeping e) :
    FailsOnly Bookkeeping (guardError r) := by
  unfold guardError
  split
  · exact FailsOnly.pure _
  · exact FailsOnly.throw (h _ rfl)

theorem failsOnly_guardPanic (r : Except Panic α) : FailsOnly Bookkeeping (guardPanic r) := by
  unfold guardPanic
  split
  · exact FailsOnly.pure _
  · exact FailsOnly.throw_panic _

theorem failsOnly_parentMove (p : Parent) (st : Status) (now : Stamp) :
    FailsOnly Bookkeeping (guardError (p.moveTo st now)) :=
  failsOnly_guardError fun _ => Parent.moveTo_bookkeeping

theorem failsOnly_childMove (c : Child) (st : Status) (now : Stamp) :
    FailsOnly Bookkeeping (guardError (c.moveTo st now)) :=
  failsOnly_guardError fun _ => Child.moveTo_bookkeeping

theorem failsOnly_top (id : TaskId) : FailsOnly Bookkeeping (top id) := by
  unfold top
  refine FailsOnly.get.bind fun s => ?_
  split
  · exact FailsOnly.pure _
  · exact failsOnly_fail rfl

theorem failsOnly_parent (id : TaskId) : FailsOnly Bookkeeping (parent id) := by
  unfold parent
  refine FailsOnly.get.bind fun s => ?_
  split
  · exact FailsOnly.pure _
  · exact failsOnly_fail rfl

theorem failsOnly_child (id : TaskId) : FailsOnly Bookkeeping (child id) := by
  unfold child
  refine FailsOnly.get.bind fun s => ?_
  split
  · exact FailsOnly.pure _
  · exact failsOnly_fail rfl

theorem failsOnly_ownedParent : FailsOnly Bookkeeping (ownedParent id w) :=
  (failsOnly_parent id).bind fun _ => (FailsOnly.pure _).ite (failsOnly_fail rfl)

theorem failsOnly_ownedChild : FailsOnly Bookkeeping (ownedChild id w) :=
  (failsOnly_child id).bind fun _ => (FailsOnly.pure _).ite (failsOnly_fail rfl)

theorem failsOnly_refreshTop (id : TaskId) (now : Stamp) : FailsOnly Bookkeeping (refreshTop id now) := by
  unfold refreshTop
  refine (failsOnly_top id).bind fun t => FailsOnly.get.bind fun s => ?_
  exact (FailsOnly.pure _).ite (FailsOnly.modify _)

theorem failsOnly_setChildBytes (id : TaskId) (bytes : Nat) : FailsOnly Bookkeeping (setChildBytes id bytes) := by
  unfold setChildBytes
  refine FailsOnly.get.bind fun s => ?_
  split
  · exact FailsOnly.pure _
  · refine (FailsOnly.modify _).bind fun _ => FailsOnly.get.bind fun s' => ?_
    split
    · exact FailsOnly.pure _
    · exact FailsOnly.modify _

theorem failsOnly_rollUpParent (id : TaskId) (now : Stamp) : FailsOnly Bookkeeping (rollUpParent id now) := by
  unfold rollUpParent
  refine (failsOnly_parent id).bind fun p => (FailsOnly.pure _).ite (FailsOnly.get.bind fun s => ?_)
  dsimp only
  split
  · exact FailsOnly.pure _
  · exact (failsOnly_guardPanic _).bind fun _ => (failsOnly_parent id).bind fun p' =>
      (failsOnly_parentMove p' _ now).bind fun _ => (FailsOnly.modify _).bind fun _ => failsOnly_refreshTop _ now

theorem failsOnly_cancelChild (id : TaskId) (out : CancelOutcome) (now : Stamp) :
    FailsOnly Bookkeeping (cancelChild id out now) :=
  (failsOnly_child id).bind fun c => (FailsOnly.pure _).ite ((FailsOnly.pure _).ite
    ((failsOnly_childMove c _ now).bind fun _ => (FailsOnly.modify _).bind fun _ => FailsOnly.pure _))

theorem failsOnly_cancelChildren (ids : List TaskId) (out : CancelOutcome) (now : Stamp) :
    FailsOnly Bookkeeping (cancelChildren ids out now) :=
  FailsOnly.foldlM (fun out id => failsOnly_cancelChild id out now) ids out

theorem failsOnly_isCancelRequested (id : TaskId) : FailsOnly Bookkeeping (isCancelRequested id) := by
  unfold isCancelRequested
  refine FailsOnly.get.bind fun s => ?_
  split
  · exact FailsOnly.pure _
  · exact FailsOnly.pure _
  · exact FailsOnly.pure _
  · exact failsOnly_fail rfl

theorem failsOnly_childrenOf (id : TaskId) : FailsOnly Bookkeeping (childrenOf id) :=
  (failsOnly_parent id).bind fun _ => FailsOnly.get.bind fun _ => FailsOnly.pure _

theorem failsOnly_beginStaging : FailsOnly Bookkeeping (beginStaging id w now) := by
  unfold beginStaging
  have hjp : ∀ p : Parent, FailsOnly Bookkeeping (do putParent p; refreshTop p.top now; pure p) := fun p =>
    (FailsOnly.modify _).bind fun _ => (failsOnly_refreshTop _ now).bind fun _ => FailsOnly.pure _
  refine failsOnly_ownedParent.bind fun p => ?_
  dsimp only
  split
  · exact (failsOnly_parentMove p _ now).bind hjp
  · exact (FailsOnly.pure _).bind hjp
  · exact (FailsOnly.pure _).bind hjp
  · exact (failsOnly_fail rfl).bind hjp

theorem failsOnly_commitStaging (specs : List ChildSpec) : FailsOnly Bookkeeping (commitStaging id w specs now) := by
  unfold commitStaging
  refine failsOnly_ownedParent.bind fun p => (failsOnly_parentMove p _ now).bind fun _ =>
    (FailsOnly.mapM (fun _ => FailsOnly.bind (FailsOnly.get.bind fun _ => (FailsOnly.set _).bind fun _ =>
      FailsOnly.pure _) fun _ => FailsOnly.pure _) _).bind fun created =>
    (failsOnly_guardPanic _).bind fun _ => (failsOnly_parentMove p _ now).bind fun _ =>
    (FailsOnly.modify _).bind fun _ => (FailsOnly.modify _).bind fun _ => FailsOnly.bind ?_ fun _ => FailsOnly.pure _
  exact FailsOnly.forIn (fun _ _ => (FailsOnly.modify _).bind fun _ => FailsOnly.pure _) _

theorem failsOnly_startParent : FailsOnly Bookkeeping (startParent id w now) :=
  failsOnly_ownedParent.bind fun p => (failsOnly_parentMove p _ now).bind fun _ =>
    (FailsOnly.modify _).bind fun _ => (failsOnly_rollUpParent id now).bind fun _ =>
    (failsOnly_refreshTop _ now).bind fun _ => failsOnly_parent id

theorem failsOnly_finishParent (status : Status) (error : Option String) :
    FailsOnly Bookkeeping (finishParent id w status error now) := by
  unfold finishParent
  dsimp only
  refine FailsOnly.ite ((failsOnly_fail rfl).bind fun _ => ?_) ?_
  all_goals exact failsOnly_ownedParent.bind fun p =>
    (failsOnly_parentMove p _ now).bind fun _ => (FailsOnly.modify _).bind fun _ =>
    FailsOnly.get.bind fun _ => (failsOnly_cancelChildren _ _ now).bind fun _ =>
    (failsOnly_refreshTop _ now).bind fun _ => failsOnly_parent id

theorem failsOnly_beginChildAttempt : FailsOnly Bookkeeping (beginChildAttempt id w now) := by
  unfold beginChildAttempt
  have hjp : ∀ c : Child, FailsOnly Bookkeeping (do
      putChild c
      let n ← guardPanic (Word.add Word.max32 c.retries 1)
      putChild { c with retries := n }
      setChildBytes id 0
      child id) := fun c =>
    (FailsOnly.modify _).bind fun _ => (failsOnly_guardPanic _).bind fun _ => (FailsOnly.modify _).bind fun _ =>
      (failsOnly_setChildBytes id 0).bind fun _ => failsOnly_child id
  refine failsOnly_ownedChild.bind fun c => ?_
  dsimp only
  split
  · exact (failsOnly_childMove c _ now).bind hjp
  · exact (FailsOnly.pure _).bind hjp
  · exact (failsOnly_fail rfl).bind hjp

theorem failsOnly_finishChild (status : Status) (bytes : Nat) (error : Option String) :
    FailsOnly Bookkeeping (finishChild id w status bytes error now) := by
  unfold finishChild
  dsimp only
  refine FailsOnly.ite ((failsOnly_fail rfl).bind fun _ => ?_) ?_
  all_goals exact failsOnly_ownedChild.bind fun c =>
    (failsOnly_childMove c _ now).bind fun _ => (FailsOnly.modify _).bind fun _ =>
    (failsOnly_setChildBytes id bytes).bind fun _ => (failsOnly_rollUpParent _ now).bind fun _ => failsOnly_child id

/-! ## What the store gives back when a task ends -/

variable {s s' : Store} {status : Status}

/-- No worker holds the parent \x60id\x60 and it is past staging, if the store has it. -/
def ParentReleased (s : Store) (id : TaskId) : Prop :=
  ∀ p, Table.find? s.parents id = some p → p.worker = none ∧ p.status.pastStaging = true

/-- No worker holds the child \x60id\x60 and it has ended, if the store has it. -/
def ChildReleased (s : Store) (id : TaskId) : Prop :=
  ∀ c, Table.find? s.children id = some c → c.worker = none ∧ c.status.isTerminal = true

theorem parentReleased_put {p : Parent} (hid : p.id = id) (hp : p.worker = none ∧ p.status.pastStaging = true) :
    ParentReleased { s with parents := Table.put s.parents p } id :=
  Table.forall_find?_put (fun _ => hp) fun hne => absurd hid hne

theorem ParentReleased.put (h : s.ParentReleased id) {p : Parent}
    (hp : p.id = id → p.worker = none ∧ p.status.pastStaging = true) :
    ParentReleased { s with parents := Table.put s.parents p } id :=
  Table.forall_find?_put hp fun _ => h

theorem childReleased_put {c : Child} (hid : c.id = id) (hc : c.worker = none ∧ c.status.isTerminal = true) :
    ChildReleased { s with children := Table.put s.children c } id :=
  Table.forall_find?_put (fun _ => hc) fun hne => absurd hid hne

theorem ChildReleased.put (h : s.ChildReleased id) {c : Child}
    (hc : c.id = id → c.worker = none ∧ c.status.isTerminal = true) :
    ChildReleased { s with children := Table.put s.children c } id :=
  Table.forall_find?_put hc fun _ => h

theorem ParentReleased.refreshTop (h : s.ParentReleased id) (T : TaskId) (now : Stamp) :
    (exec (refreshTop T now) s).2.ParentReleased id := by
  obtain ⟨ts, hts⟩ := refreshTop_frame (s := s) T now
  rw [hts]
  exact h

theorem ChildReleased.refreshTop (h : s.ChildReleased id) (T : TaskId) (now : Stamp) :
    (exec (refreshTop T now) s).2.ChildReleased id := by
  obtain ⟨ts, hts⟩ := refreshTop_frame (s := s) T now
  rw [hts]
  exact h

theorem ParentReleased.cancelChildren (h : s.ParentReleased id) (ids : List TaskId) (out : CancelOutcome)
    (now : Stamp) : (exec (cancelChildren ids out now) s).2.ParentReleased id := by
  obtain ⟨cs, hcs⟩ := cancelChildren_frame (s := s) out now ids
  rw [hcs]
  exact h

/-- A roll-up writes its parent released and ended. -/
theorem ParentReleased.rollUpParent (h : s.ParentReleased id) (pid : TaskId) (now : Stamp) :
    (exec (rollUpParent pid now) s).2.ParentReleased id := by
  rcases @exec_rollUpParent_cases s pid now with he | ⟨p, outcome, bytes, -, -, ho, -, he⟩
  · rw [he]
    exact h
  · rw [he]
    have ht : outcome.isTerminal = true := rollUp_isTerminal ho
    exact (h.put fun _ => ⟨rfl, Status.pastStaging_of_isTerminal ht⟩).refreshTop _ now

/-- A roll-up writes no child. -/
theorem ChildReleased.rollUpParent (h : s.ChildReleased id) (pid : TaskId) (now : Stamp) :
    (exec (rollUpParent pid now) s).2.ChildReleased id := by
  rcases @exec_rollUpParent_cases s pid now with he | ⟨p, outcome, bytes, -, -, -, -, he⟩
  · rw [he]
    exact h
  · rw [he]
    refine ChildReleased.refreshTop ?_ _ now
    exact h

/-- Moving a byte count leaves every child's holder and status. -/
theorem ChildReleased.setChildBytes (h : s.ChildReleased id) (cid : TaskId) (bytes : Nat) :
    (exec (setChildBytes cid bytes) s).2.ChildReleased id := by
  cases hc : Table.find? s.children cid with
  | none =>
    rw [exec_setChildBytes_of_none hc]
    exact h
  | some c =>
    have hk : c.id = cid := (Table.find?_eq_some hc).2
    have hw : c.id = id → c.worker = none ∧ c.status.isTerminal = true := fun hid =>
      h c (by rw [← hid, hk]; exact hc)
    cases hp : Table.find? s.parents c.parent with
    | none =>
      rw [exec_setChildBytes_of_orphan hc hp]
      exact h.put hw
    | some p =>
      rw [exec_setChildBytes_of_find hc hp]
      exact ChildReleased.put (s := { s with parents := _ }) h hw

theorem ParentReleased.parent_ok (h : s.ParentReleased id) {q : Parent} (he : exec (parent id) s = (.ok q, s')) :
    Table.find? s'.parents id = some q ∧ q.worker = none ∧ q.status.pastStaging = true := by
  cases hp : Table.find? s.parents id with
  | none =>
    rw [exec_parent_of_none hp] at he
    cases he
  | some p =>
    rw [exec_parent_of_find hp] at he
    cases he
    exact ⟨hp, h _ hp⟩

theorem ChildReleased.child_ok (h : s.ChildReleased id) {c : Child} (he : exec (child id) s = (.ok c, s')) :
    Table.find? s'.children id = some c ∧ c.worker = none ∧ c.status.isTerminal = true := by
  cases hc : Table.find? s.children id with
  | none =>
    rw [exec_child_of_none hc] at he
    cases he
  | some d =>
    rw [exec_child_of_find hc] at he
    cases he
    exact ⟨hc, h _ hc⟩

/-- Writes that keep the parent released, a refresh, then a read of the parent: what is read is the
released parent. -/
theorem ParentReleased.gives {m : StoreM α} (hm : ∀ s, s.ParentReleased id → (exec m s).2.ParentReleased id)
    (h : s.ParentReleased id) {T : TaskId} {q : Parent}
    (he : exec (m >>= fun _ => Store.refreshTop T now >>= fun _ => parent id) s = (.ok q, s')) :
    Table.find? s'.parents id = some q ∧ q.worker = none ∧ q.status.pastStaging = true := by
  obtain ⟨_, s₁, h₁, he⟩ := exec_bind_eq_ok he
  obtain ⟨_, s₂, h₂, he⟩ := exec_bind_eq_ok he
  have r₁ : s₁.ParentReleased id := by
    have := hm s h
    rwa [h₁] at this
  have r₂ : s₂.ParentReleased id := by
    have := r₁.refreshTop T now
    rwa [h₂] at this
  exact r₂.parent_ok he

/-- A parent that ends gives its record, released and past staging. -/
theorem exec_finishParent_gives {error : Option String} {q : Parent}
    (h : exec (finishParent id w status error now) s = (.ok q, s')) :
    Table.find? s'.parents id = some q ∧ q.worker = none ∧ q.status.pastStaging = true := by
  rcases @exec_finishParent_cases s id w now status error with
    ⟨e, he⟩ | ⟨p, p', hp, -, ht, hm, he⟩
  · rw [he] at h
    cases h
  · rw [he] at h
    obtain ⟨-, rfl⟩ := Parent.moveTo_ok hm
    refine ParentReleased.gives (fun s hs => hs.cancelChildren _ _ now) ?_ h
    exact parentReleased_put (Table.find?_eq_some hp).2 ⟨rfl, Status.pastStaging_of_isTerminal ht⟩

/-- A parent that starts gives its record, released and past staging, rolled up or not. -/
theorem exec_startParent_gives {q : Parent} (h : exec (startParent id w now) s = (.ok q, s')) :
    Table.find? s'.parents id = some q ∧ q.worker = none ∧ q.status.pastStaging = true := by
  rcases @exec_startParent_cases s id w now with ⟨e, he⟩ | ⟨p, p', hp, -, hm, he⟩
  · rw [he] at h
    cases h
  · rw [he] at h
    obtain ⟨-, rfl⟩ := Parent.moveTo_ok hm
    refine ParentReleased.gives (fun s hs => hs.rollUpParent id now) ?_ h
    exact parentReleased_put (Table.find?_eq_some hp).2 ⟨rfl, rfl⟩

/-- A child that ends gives its record, released and ended. -/
theorem exec_finishChild_gives {bytes : Nat} {error : Option String} {c : Child}
    (h : exec (finishChild id w status bytes error now) s = (.ok c, s')) :
    Table.find? s'.children id = some c ∧ c.worker = none ∧ c.status.isTerminal = true := by
  rcases @exec_finishChild_cases s id w now status bytes error with
    ⟨e, he⟩ | ⟨d, d', hd, -, ht, hm, he⟩
  · rw [he] at h
    cases h
  · rw [he] at h
    obtain ⟨-, hd'⟩ := Child.moveTo_ok hm
    obtain ⟨_, s₁, h₁, h⟩ := exec_bind_eq_ok h
    obtain ⟨_, s₂, h₂, h⟩ := exec_bind_eq_ok h
    have r₀ : ChildReleased { s with children := Table.put s.children { d' with worker := none, error } } id :=
      childReleased_put (by rw [hd']; exact (Table.find?_eq_some hd).2) ⟨rfl, by rw [hd']; exact ht⟩
    have r₁ : s₁.ChildReleased id := by
      have := r₀.setChildBytes id bytes
      rwa [h₁] at this
    have r₂ : s₂.ChildReleased id := by
      have := r₁.rollUpParent d.parent now
      rwa [h₂] at this
    exact r₂.child_ok h

end Store

/-! ## The pipelines -/

namespace Service

variable {α : Type} {P : Error → Prop}

theorem failsOnly_liftStore {m : StoreM α} (hm : FailsOnly P m) : FailsOnly P (liftStore m) :=
  fun w e h => hm w.store e h

theorem failsOnly_atNow {f : Stamp → StoreM α} (hf : ∀ t, FailsOnly P (f t)) : FailsOnly P (atNow f) :=
  fun w e h => hf w.now w.store e h

theorem failsOnly_commitChildren (id : TaskId) (w : WorkerId) (specs : List ChildSpec) :
    FailsOnly Bookkeeping (commitChildren id w specs) :=
  (failsOnly_atNow fun _ => Store.failsOnly_commitStaging specs).bind fun _ =>
    (FailsOnly.modify _).bind fun _ => FailsOnly.pure _

end Service

namespace Pipe

variable {α β : Type} {P : Error → Prop}

theorem failsOnly_lift {m : ServiceM α} (hm : FailsOnly P m) : FailsOnly P (lift m) :=
  fun p e h => hm p.service e h

/-- An attempt gives the error it caught as its result: it stops only on a panic. -/
theorem failsOnly_attempt (m : PipeM α) : FailsOnly P (attempt m) := by
  refine FailsOnly.tryCatch fun f => ?_
  cases f with
  | error e => exact FailsOnly.pure _
  | panic x => exact FailsOnly.throw_panic x

theorem failsOnly_cancelRequested (id : TaskId) : FailsOnly Bookkeeping (cancelRequested id) :=
  (FailsOnly.get.bind fun _ => FailsOnly.pure _).bind fun _ =>
    (FailsOnly.pure _).ite (failsOnly_lift (Service.failsOnly_liftStore (Store.failsOnly_isCancelRequested id)))

theorem failsOnly_finishParent (id : TaskId) (status : Status) (error : String) :
    FailsOnly Bookkeeping (finishParent id status error) :=
  FailsOnly.get.bind fun _ => failsOnly_lift (Service.failsOnly_atNow fun _ => Store.failsOnly_finishParent status _)

theorem failsOnly_commit (id : TaskId) (specs : List ChildSpec) : FailsOnly Bookkeeping (commit id specs) :=
  FailsOnly.get.bind fun _ => failsOnly_lift (Service.failsOnly_commitChildren id _ specs)

theorem failsOnly_publishAndStart (id : TaskId) : FailsOnly Bookkeeping (publishAndStart id) :=
  (failsOnly_lift (Service.failsOnly_liftStore (Store.failsOnly_childrenOf id))).bind fun _ =>
    (failsOnly_lift (FailsOnly.modify _)).bind fun _ => FailsOnly.get.bind fun _ =>
    failsOnly_lift (Service.failsOnly_atNow fun _ => Store.failsOnly_startParent)

/-- A parent pipeline stops with an error only when the error is bookkeeping: its staging runs inside an
attempt, whose failures become the parent's end unless they are bookkeeping. -/
theorem failsOnly_runParent (id : TaskId) : FailsOnly Bookkeeping (runParent id) := by
  unfold runParent
  refine (failsOnly_lift (Service.failsOnly_liftStore (Store.failsOnly_parent id))).bind fun _ =>
    (failsOnly_cancelRequested _).bind fun _ => (failsOnly_finishParent _ _ _).ite
      (FailsOnly.get.bind fun _ => (failsOnly_lift (Service.failsOnly_atNow fun _ => Store.failsOnly_beginStaging)).bind
        fun _ => (failsOnly_publishAndStart id).ite ((failsOnly_attempt _).bind fun r => ?_))
  split
  · exact (failsOnly_commit _ _).bind fun _ => (failsOnly_lift (FailsOnly.modify _)).bind fun _ =>
      failsOnly_publishAndStart id
  · exact failsOnly_finishParent _ _ _
  · exact ((failsOnly_commit _ _).bind fun _ => failsOnly_publishAndStart id).ite (failsOnly_finishParent _ _ _)
  · split
    · exact FailsOnly.throw ‹_›
    · exact failsOnly_finishParent _ _ _

theorem failsOnly_finishChild (id : TaskId) (status : Status) (bytes : Nat) (error : Option String) :
    FailsOnly Bookkeeping (finishChild id status bytes error) :=
  FailsOnly.get.bind fun _ =>
    failsOnly_lift (Service.failsOnly_atNow fun _ => Store.failsOnly_finishChild status bytes error)

theorem failsOnly_noteFinish (f : Statistics → Statistics) (id : TaskId) (status : Status) (bytes : Nat)
    (error : Option String) : FailsOnly Bookkeeping (do lift (Service.note f); finishChild id status bytes error) :=
  (failsOnly_lift (FailsOnly.modify _)).bind fun _ => failsOnly_finishChild id status bytes error

/-- Every attempt of a child runs inside \x60attempt\x60; what it lets through is bookkeeping. -/
theorem failsOnly_attemptChild (id : TaskId) : ∀ fuel made, FailsOnly Bookkeeping (attemptChild id fuel made)
  | 0, _ => failsOnly_noteFinish _ _ _ _ _
  | fuel + 1, made => by
    simp only [attemptChild]
    refine (failsOnly_cancelRequested id).bind fun _ => (failsOnly_noteFinish _ _ _ _ _).ite
      (FailsOnly.get.bind fun _ => (failsOnly_noteFinish _ _ _ _ _).ite (FailsOnly.get.bind fun _ =>
        (failsOnly_lift (Service.failsOnly_atNow fun _ => Store.failsOnly_beginChildAttempt)).bind fun _ =>
        (failsOnly_lift (FailsOnly.modify _)).bind fun _ => (failsOnly_attempt _).bind fun r => ?_))
    split
    · exact (failsOnly_lift (FailsOnly.modify _)).bind fun _ => failsOnly_finishChild _ _ _ _
    · exact failsOnly_noteFinish _ _ _ _ _
    · refine ((failsOnly_attempt _).bind fun r => ?_).ite ?_
      · split
        · exact failsOnly_noteFinish _ _ _ _ _
        · exact failsOnly_attemptChild id fuel _
      · split
        · exact FailsOnly.throw ‹_›
        · exact failsOnly_noteFinish _ _ _ _ _

theorem failsOnly_runChild (id : TaskId) : FailsOnly Bookkeeping (runChild id) :=
  (failsOnly_lift (Service.failsOnly_liftStore (Store.failsOnly_child id))).bind fun _ =>
    FailsOnly.get.bind fun _ => failsOnly_attemptChild id _ _

/-! ### What a pipeline gives -/

/-- When \x60m\x60 gives a result, the result and the pipeline it leaves meet \x60Q\x60. -/
def Gives (Q : α → Pipe → Prop) (m : PipeM α) : Prop := ∀ p a p', exec m p = (.ok a, p') → Q a p'

namespace Gives

variable {Q : β → Pipe → Prop}

/-- What a bind gives is what its continuation gives. -/
theorem bind {m : PipeM α} {k : α → PipeM β} (hk : ∀ a, Gives Q (k a)) : Gives Q (m >>= k) := by
  intro p b p' h
  rw [exec_bind] at h
  rcases hm : exec m p with ⟨_ | a, p₁⟩
  · rw [hm] at h
    cases h
  · rw [hm] at h
    exact hk a p₁ b p' h

theorem pure {b : β} (h : ∀ p, Q b p) : Gives Q (Pure.pure b : PipeM β) := fun p _ _ he => by
  cases he
  exact h p

theorem ite {c : Prop} [Decidable c] {m m' : PipeM β} (hm : Gives Q m) (hm' : Gives Q m') :
    Gives Q (if c then m else m') := by
  split
  · exact hm
  · exact hm'

theorem throw (f : Failure) : Gives Q (throw f : PipeM β) := fun _ _ _ h => by cases h

/-- A store call at the current time gives what the call gives from any store. -/
theorem lift_atNow {f : Stamp → StoreM β} {R : β → Store → Prop}
    (hf : ∀ t s a s', Store.exec (f t) s = (.ok a, s') → R a s') :
    Gives (fun a p => R a p.service.store) (lift (Service.atNow f)) := by
  intro p a p' h
  rw [exec_lift, Service.exec_atNow] at h
  obtain ⟨h₁, rfl⟩ := Prod.mk.inj h
  exact hf _ _ _ _ (Prod.ext h₁ rfl)

end Gives

/-- How a parent pipeline leaves its parent: the store holds \x60q\x60 for it, released and past staging. -/
def ParentLeft (id : TaskId) (q : Parent) (p : Pipe) : Prop :=
  Table.find? p.service.store.parents id = some q ∧ q.worker = none ∧ q.status.pastStaging = true

/-- How a child pipeline leaves its child: the store holds \x60c\x60 for it, released and ended. -/
def ChildLeft (id : TaskId) (c : Child) (p : Pipe) : Prop :=
  Table.find? p.service.store.children id = some c ∧ c.worker = none ∧ c.status.isTerminal = true

theorem gives_finishParent (id : TaskId) (status : Status) (error : String) :
    Gives (ParentLeft id) (finishParent id status error) :=
  Gives.bind fun _ => Gives.lift_atNow fun _ _ _ _ => Store.exec_finishParent_gives

theorem gives_publishAndStart (id : TaskId) : Gives (ParentLeft id) (publishAndStart id) :=
  Gives.bind fun _ => Gives.bind fun _ => Gives.bind fun _ => Gives.lift_atNow fun _ _ _ _ => Store.exec_startParent_gives

/-- A parent pipeline gives a result only through the end or the start of its parent. -/
theorem gives_runParent (id : TaskId) : Gives (ParentLeft id) (runParent id) := by
  unfold runParent
  refine Gives.bind fun _ => Gives.bind fun _ => (gives_finishParent _ _ _).ite
    (Gives.bind fun _ => Gives.bind fun _ => (gives_publishAndStart id).ite (Gives.bind fun r => ?_))
  split
  · exact Gives.bind fun _ => Gives.bind fun _ => gives_publishAndStart id
  · exact gives_finishParent _ _ _
  · exact (Gives.bind fun _ => gives_publishAndStart id).ite (gives_finishParent _ _ _)
  · exact (Gives.throw _).ite (gives_finishParent _ _ _)

theorem gives_finishChild (id : TaskId) (status : Status) (bytes : Nat) (error : Option String) :
    Gives (ChildLeft id) (finishChild id status bytes error) :=
  Gives.bind fun _ => Gives.lift_atNow fun _ _ _ _ => Store.exec_finishChild_gives

theorem gives_noteFinish (f : Statistics → Statistics) (id : TaskId) (status : Status) (bytes : Nat)
    (error : Option String) : Gives (ChildLeft id) (do lift (Service.note f); finishChild id status bytes error) :=
  Gives.bind fun _ => gives_finishChild id status bytes error

/-- Every way an attempt of a child gives a result ends the child. -/
theorem gives_attemptChild (id : TaskId) : ∀ fuel made, Gives (ChildLeft id) (attemptChild id fuel made)
  | 0, _ => gives_noteFinish _ _ _ _ _
  | fuel + 1, made => by
    simp only [attemptChild]
    refine Gives.bind fun _ => (gives_noteFinish _ _ _ _ _).ite (Gives.bind fun _ =>
      (gives_noteFinish _ _ _ _ _).ite (Gives.bind fun _ => Gives.bind fun _ => Gives.bind fun _ =>
        Gives.bind fun r => ?_))
    split
    · exact Gives.bind fun _ => gives_finishChild _ _ _ _
    · exact gives_noteFinish _ _ _ _ _
    · refine (Gives.bind fun r => ?_).ite ((Gives.throw _).ite (gives_noteFinish _ _ _ _ _))
      split
      · exact gives_noteFinish _ _ _ _ _
      · exact gives_attemptChild id fuel _

theorem gives_runChild (id : TaskId) : Gives (ChildLeft id) (runChild id) :=
  Gives.bind fun _ => Gives.bind fun _ => gives_attemptChild id _ _

/-- How the pipelines end. A parent pipeline that gives a result gives its parent as the store holds it,
released and past staging; one that stops with an error stops with a bookkeeping error. A child pipeline
gives its child released and ended, or stops likewise. Every other failure of the work is caught and
recorded as the task's end; a panic may still stop either. -/
theorem pipelines_end (id : TaskId) (p : Pipe) :
    (∀ q p', exec (runParent id) p = (.ok q, p') →
      Table.find? p'.service.store.parents id = some q ∧ q.worker = none ∧ q.status.pastStaging = true) ∧
    (∀ e, (exec (runParent id) p).1 = .error (.error e) → e.isBookkeeping = true) ∧
    (∀ c p', exec (runChild id) p = (.ok c, p') →
      Table.find? p'.service.store.children id = some c ∧ c.worker = none ∧ c.status.isTerminal = true) ∧
    (∀ e, (exec (runChild id) p).1 = .error (.error e) → e.isBookkeeping = true) :=
  ⟨gives_runParent id p, failsOnly_runParent id p, gives_runChild id p, failsOnly_runChild id p⟩

/-- A source that does not parse fails with \x60InvalidRequest\x60, whose kind \x60State\x60 counts as bookkeeping: the
parent pipeline stops with it unrecorded, and the parent stays \x60STAGING\x60, held by its worker. -/
theorem unparsable_source_stops_pipeline :
    let t₀ : Top := Top.fresh ⟨⟨1⟩⟩ "ta" "alice" none 0
    let p₀ : Parent := Parent.fresh ⟨⟨2⟩⟩ t₀ "not a uri" "mem://dst/out" false 1
    let w : WorkerId := ⟨⟨3⟩⟩
    let s := (Store.exec ([Call.createTransfer t₀ [p₀], .registerWorker ⟨w, "h1", 0, 0⟩,
      .assign .parent p₀.id w].forM Call.run) {}).2
    let p : Pipe := ⟨{ Service.fresh ⟨default, 1024, 10, 10, 100⟩ ⟨1, 1, 1, 1, 1⟩ with store := s },
      ⟨w, .parent, p₀.id, false, none⟩⟩
    let e := Error.invalidRequest "Invalid URI \x27not a uri\x27: relative URL without a base"
    (exec (runParent p₀.id) p).1 = .error (.error e) ∧ e.isBookkeeping = true ∧
      (Table.find? (exec (runParent p₀.id) p).2.service.store.parents p₀.id).map (fun q => (q.status, q.worker)) =
        some (.staging, some w) := by
  intro t₀ p₀ w s p e
  have he : (exec (runParent p₀.id) p).1 = .error (.error e) := by decide +kernel
  exact ⟨he, (pipelines_end p₀.id p).2.1 e he, by decide +kernel⟩

end Pipe

end Conveyor
