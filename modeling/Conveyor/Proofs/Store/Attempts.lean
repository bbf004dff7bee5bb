import Conveyor.Proofs.Store.Links

/-!
# Counting the attempts of a child

The store counts the attempts of a child in its retry count (`Store.retriesOf`), and only the start of an
attempt moves it:

* `Keeps f m`: the program `m` keeps what `f` reads of its state, however it ends. It goes through `>>=`,
  loops and handlers, and serves the programs of the store, of a node and of a pipeline alike.
* `Steady`: a view of the store that the moves of tasks do not change. Every operation of the store that
  moves tasks keeps it (`Steady.keeps_requestCancel`, `Steady.keeps_finishChild` and the rest). The counts of
  children are such a view that a listing retry keeps too (`Blind`), so every operation but a commit and the
  start of an attempt keeps every count. A commit adds children that were never attempted
  (`Capped.commitStaging`), so no call but the start of an attempt lifts a count past a bound
  (`Call.capped`).
* `exec_beginChildAttempt_ok`: an attempt that begins counts one more for its child, gives the child as it
  is now stored, and keeps every other count.
-/

namespace Conveyor

/-! ## Programs that keep part of their state -/

/-- The program `m` keeps what `f` reads of its state, however it ends. -/
def Keeps {σ β α : Type} (f : σ → β) (m : ExceptT Failure (StateM σ) α) : Prop :=
  ∀ x, f (m.run.run x).2 = f x

namespace Keeps

variable {σ β α γ : Type} {f : σ → β}

theorem pure (a : α) : Keeps f (Pure.pure a : ExceptT Failure (StateM σ) α) := fun _ => rfl

theorem bind {m : ExceptT Failure (StateM σ) α} {k : α → ExceptT Failure (StateM σ) γ} (hm : Keeps f m)
    (hk : ∀ a, Keeps f (k a)) : Keeps f (m >>= k) := by
  intro x
  have h := hm x
  show f ((ExceptT.bind m k).run.run x).2 = f x
  simp only [ExceptT.bind, ExceptT.run, ExceptT.mk, StateT.run, Bind.bind, StateT.bind, ExceptT.bindCont] at h ⊢
  rcases hr : m x with ⟨r, x'⟩
  rw [hr] at h
  cases r with
  | ok a => exact (hk a x').trans h
  | error e => exact h

/-- A handler that keeps the state, run after a program that keeps it, keeps it. -/
theorem tryCatch {m : ExceptT Failure (StateM σ) α} {h : Failure → ExceptT Failure (StateM σ) α} (hm : Keeps f m)
    (hh : ∀ e, Keeps f (h e)) : Keeps f (tryCatch m h) := by
  intro x
  have h₁ := hm x
  show f ((ExceptT.tryCatch m h).run.run x).2 = f x
  simp only [ExceptT.tryCatch, ExceptT.run, ExceptT.mk, StateT.run, Bind.bind, StateT.bind] at h₁ ⊢
  rcases hr : m x with ⟨r, x'⟩
  rw [hr] at h₁
  cases r with
  | ok a => exact h₁
  | error e => exact (hh e x').trans h₁

theorem ite {c : Prop} [Decidable c] {m m' : ExceptT Failure (StateM σ) α} (hm : Keeps f m) (hm' : Keeps f m') :
    Keeps f (if c then m else m') := by
  split
  · exact hm
  · exact hm'

theorem get : Keeps f (MonadState.get : ExceptT Failure (StateM σ) σ) := fun _ => rfl

theorem modify {g : σ → σ} (hg : ∀ x, f (g x) = f x) : Keeps f (modify g : ExceptT Failure (StateM σ) PUnit) :=
  fun x => hg x

theorem throw (e : Failure) : Keeps f (throw e : ExceptT Failure (StateM σ) α) := fun _ => rfl

theorem foldlM {g : γ → α → ExceptT Failure (StateM σ) γ} (hg : ∀ b a, Keeps f (g b a)) (xs : List α) (b : γ) :
    Keeps f (xs.foldlM g b) :=
  foldlM_of_bind (P := Keeps f) Keeps.pure Keeps.bind hg xs b

theorem eq_of_run {m : ExceptT Failure (StateM σ) α} (hm : Keeps f m) {x x' : σ} {r : Except Failure α}
    (he : m.run.run x = (r, x')) : f x' = f x := by
  have h := hm x
  rw [he] at h
  exact h

theorem of_state {m : ExceptT Failure (StateM σ) α} (h : ∀ x, (m.run.run x).2 = x) : Keeps f m :=
  fun x => congrArg f (h x)

end Keeps

/-! ## Views that the progress of tasks does not move -/

/-- What a parent keeps from its creation on, but for the commit of its staging: its transfer, tenant and
option, and the total and count of its children. -/
structure Parent.Fixed where
  top : TaskId
  tenant : String
  optional : Bool
  totalBytes : Option Nat
  childCount : Nat
deriving DecidableEq, Repr

def Parent.fixed (p : Parent) : Parent.Fixed := ⟨p.top, p.tenant, p.optional, p.totalBytes, p.childCount⟩

/-- What a child keeps from its creation on: its parent, transfer, tenant and option, and its declared size. -/
structure Child.Fixed where
  parent : TaskId
  top : TaskId
  tenant : String
  optional : Bool
  size : Nat
deriving DecidableEq, Repr

def Child.fixed (c : Child) : Child.Fixed := ⟨c.parent, c.top, c.tenant, c.optional, c.size⟩

namespace Store

section Reads

variable {β α : Type} {f : Store → β}

theorem keeps_parent (id : TaskId) : Keeps f (parent id) := Keeps.of_state fun s => exec_parent_state s id

theorem keeps_child (id : TaskId) : Keeps f (child id) := Keeps.of_state fun s => exec_child_state s id

theorem keeps_isCancelRequested (id : TaskId) : Keeps f (isCancelRequested id) := by
  refine Keeps.of_state fun s => ?_
  simp only [isCancelRequested]
  show (exec _ s).2 = s
  simp only [exec_bind, exec_get]
  split <;> rfl

theorem keeps_discard {m : StoreM α} (h : Keeps f m) : Keeps f (Functor.discard m) := fun s => by
  show f (exec _ s).2 = f s
  rw [exec_discard_state]
  exact h s

end Reads

/-- A view of the store that the moves of tasks do not change. It ignores the transfers, the cancel marks and
which worker holds a task, and a record written over the one with its id that keeps what is fixed of it and its
count of attempts or of listing retries. -/
structure Steady {β : Type} (f : Store → β) : Prop where
  putTop : ∀ s t, f { s with tops := Table.put s.tops t } = f s
  putParent : ∀ s (p p' : Parent), Table.find? s.parents p'.id = some p → p'.fixed = p.fixed →
    p'.retries = p.retries → f { s with parents := Table.put s.parents p' } = f s
  putChild : ∀ s (c c' : Child), Table.find? s.children c'.id = some c → c'.fixed = c.fixed →
    c'.retries = c.retries → f { s with children := Table.put s.children c' } = f s
  marks : ∀ s ms, f { s with marks := ms } = f s
  reassigned : ∀ s s', Reassigned s s' → f s' = f s

namespace Steady

variable {β α : Type} {f : Store → β} (hf : Steady f) {id : TaskId} {w : WorkerId} {now : Stamp}
include hf

theorem keeps_mark (id : TaskId) : Keeps f (mark id) := fun s => hf.marks s _

theorem keeps_refreshTop (id : TaskId) (now : Stamp) : Keeps f (refreshTop id now) := by
  intro s
  show f (exec _ s).2 = f s
  cases h : Table.find? s.tops id with
  | none => rw [exec_refreshTop_of_none h]
  | some t =>
    rw [exec_refreshTop_of_find h]
    split
    · rfl
    · exact hf.putTop s _

/-- Moving a child's count writes the child and its parent with their fixed parts. -/
theorem keeps_setChildBytes (id : TaskId) (bytes : Nat) : Keeps f (setChildBytes id bytes) := by
  intro s
  show f (exec _ s).2 = f s
  cases h : Table.find? s.children id with
  | none => rw [exec_setChildBytes_of_none h]
  | some c =>
    have hc : Table.find? s.children { c with bytes }.id = some c := Table.find?_self h
    cases hp : Table.find? s.parents c.parent with
    | none => rw [exec_setChildBytes_of_orphan h hp]; exact hf.putChild s c { c with bytes } hc rfl rfl
    | some p =>
      rw [exec_setChildBytes_of_find h hp]
      exact (hf.putParent { s with children := Table.put s.children { c with bytes } } p
        { p with bytes := Word.saturatingAdd Word.max64 (Word.saturatingSub p.bytes c.bytes) bytes }
        (Table.find?_self hp) rfl rfl).trans (hf.putChild s c _ hc rfl rfl)

theorem keeps_rollUpParent (pid : TaskId) (now : Stamp) : Keeps f (rollUpParent pid now) := by
  intro s
  show f (exec _ s).2 = f s
  rcases @exec_rollUpParent_cases s pid now with he | ⟨p, outcome, bytes, h, -, -, -, he⟩
  · rw [he]
  · rw [he]
    exact (hf.keeps_refreshTop p.top now _).trans
      (hf.putParent s p (p.rolledUp outcome (s.childRecords pid) bytes now) (Table.find?_self h) rfl rfl)

theorem keeps_cancelChild (id : TaskId) (out : CancelOutcome) (now : Stamp) : Keeps f (cancelChild id out now) := by
  intro s
  show f (exec _ s).2 = f s
  cases h : Table.find? s.children id with
  | none => rw [exec_cancelChild_of_none out now h]
  | some c =>
    cases ht : c.status.isTerminal
    · cases hw : c.worker with
      | some w => rw [exec_cancelChild_of_held out now h ht (by simp [hw])]
      | none =>
        cases hm : Kind.child.canMove c.status .cancelled
        · rw [exec_cancelChild_of_stuck out now h ht hw hm]
        · rw [exec_cancelChild_of_free out now h ht hw hm]
          exact hf.putChild s c (c.cancelledAt now) (Table.find?_self h) rfl rfl
    · rw [exec_cancelChild_of_ended out now h ht]

theorem keeps_cancelChildren (ids : List TaskId) (out : CancelOutcome) (now : Stamp) :
    Keeps f (cancelChildren ids out now) :=
  Keeps.foldlM (fun out id => hf.keeps_cancelChild id out now) ids out

theorem keeps_cancelParent (id : TaskId) (out : CancelOutcome) (now : Stamp) : Keeps f (cancelParent id out now) := by
  intro s
  show f (exec _ s).2 = f s
  have hc : f (exec (cancelChildren (s.childIds id) out now) s).2 = f s :=
    hf.keeps_cancelChildren (s.childIds id) out now s
  rcases @exec_cancelParent_cases s id out now with he | ⟨p, -, -, hp, he | he | he⟩
  · rw [he]
  · rw [he]; exact hc
  · rw [he]; exact (hf.keeps_rollUpParent id now _).trans hc
  · -- the parent is written over the record the children's cancel left
    rw [he]
    exact (hf.putParent _ p (p.cancelledAt now) (Table.find?_self hp) rfl rfl).trans hc

theorem keeps_requestCancel (id : TaskId) (now : Stamp) : Keeps f (requestCancel id now) := by
  have hrest : ∀ (topId : TaskId) (out : CancelOutcome), Keeps f (refreshTop topId now >>= fun _ => Pure.pure out) :=
    fun topId out => (hf.keeps_refreshTop topId now).bind fun _ => Keeps.pure out
  intro s
  show f (exec _ s).2 = f s
  rcases @exec_requestCancel s id now with h | ⟨t, -, -, h⟩ | ⟨p, t, -, -, -, -, -, h⟩ |
      ⟨c, t, -, -, -, -, -, -, h⟩
  · rw [h]
  · rw [h]
    exact (((Keeps.foldlM (fun out pid => hf.keeps_cancelParent pid out now) _ _).bind (hrest id)) _).trans
      (hf.putTop s _)
  · rw [h]
    exact ((hf.keeps_mark id).bind fun _ => (hf.keeps_cancelParent id _ now).bind (hrest p.top)) s
  · rw [h]
    exact ((hf.keeps_mark id).bind fun _ => (hf.keeps_cancelChild id _ now).bind fun out =>
      (keeps_child id).bind fun c' => (hf.keeps_rollUpParent c'.parent now).bind fun _ => hrest c.top out) s

theorem keeps_beginStaging : Keeps f (beginStaging id w now) := by
  intro s
  show f (exec _ s).2 = f s
  rcases @exec_beginStaging s id w now with h | ⟨p, p', hp, -, hst, h⟩
  · rw [h]
  · -- staging moves the status only
    obtain ⟨hid, hfix, hr⟩ : p'.id = p.id ∧ p'.fixed = p.fixed ∧ p'.retries = p.retries := by
      obtain ⟨_, _, _, -, -, rfl⟩ := Parent.eq_of_stagingStep hst
      exact ⟨rfl, rfl, rfl⟩
    rw [h]
    exact (((hf.keeps_refreshTop p'.top now).bind fun _ => Keeps.pure p') _).trans
      (hf.putParent s p p' (Table.find?_of_key_eq hp hid) hfix hr)

theorem keeps_startParent : Keeps f (startParent id w now) := by
  intro s
  show f (exec _ s).2 = f s
  rcases @exec_startParent s id w now with h | ⟨p, p', hp, -, hm, h⟩
  · rw [h]
  · obtain ⟨-, rfl⟩ := Parent.moveTo_ok hm
    rw [h]
    exact (((hf.keeps_rollUpParent id now).bind fun _ => (hf.keeps_refreshTop p.top now).bind fun _ =>
      keeps_parent id) _).trans (hf.putParent s p _ (Table.find?_self hp) rfl rfl)

theorem keeps_finishParent (status : Status) (error : Option String) :
    Keeps f (finishParent id w status error now) := by
  intro s
  show f (exec _ s).2 = f s
  rcases @exec_finishParent s id w now status error with h | ⟨p, p', hp, -, -, hm, h⟩
  · rw [h]
  · obtain ⟨-, rfl⟩ := Parent.moveTo_ok hm
    rw [h]
    exact (((hf.keeps_cancelChildren _ _ now).bind fun _ => (hf.keeps_refreshTop p.top now).bind fun _ =>
      keeps_parent id) _).trans (hf.putParent s p _ (Table.find?_self hp) rfl rfl)

theorem keeps_recordProgress (bytes : Nat) : Keeps f (recordProgress id w bytes) := by
  intro s
  show f (exec _ s).2 = f s
  rcases @exec_recordProgress s id w bytes with h | ⟨c, -, -, h⟩
  · rw [h]
  · rw [h]
    exact hf.keeps_setChildBytes id bytes s

theorem keeps_finishChild (status : Status) (bytes : Nat) (error : Option String) :
    Keeps f (finishChild id w status bytes error now) := by
  intro s
  show f (exec _ s).2 = f s
  rcases @exec_finishChild s id w now status bytes error with h | ⟨c, c', hc, -, -, hm, h⟩
  · rw [h]
  · obtain ⟨-, rfl⟩ := Child.moveTo_ok hm
    rw [h]
    exact (((hf.keeps_setChildBytes id bytes).bind fun _ => (hf.keeps_rollUpParent c.parent now).bind fun _ =>
      keeps_child id) _).trans (hf.putChild s c _ (Table.find?_self hc) rfl rfl)

end Steady

/-- A view of the store that the progress of tasks does not move: a view that the moves of tasks do not change,
and that a record written over the one with its id does not change either while it keeps what is fixed of it and,
for a child, its count of attempts. -/
structure Blind {β : Type} (f : Store → β) : Prop where
  putTop : ∀ s t, f { s with tops := Table.put s.tops t } = f s
  putParent : ∀ s (p p' : Parent), Table.find? s.parents p'.id = some p → p'.fixed = p.fixed →
    f { s with parents := Table.put s.parents p' } = f s
  putChild : ∀ s (c c' : Child), Table.find? s.children c'.id = some c → c'.fixed = c.fixed →
    c'.retries = c.retries → f { s with children := Table.put s.children c' } = f s
  marks : ∀ s ms, f { s with marks := ms } = f s
  reassigned : ∀ s s', Reassigned s s' → f s' = f s

namespace Blind

variable {β α : Type} {f : Store → β} (hf : Blind f) {id : TaskId} {w : WorkerId} {now : Stamp}
include hf

theorem steady : Steady f :=
  ⟨hf.putTop, fun s p p' h hfix _ => hf.putParent s p p' h hfix, hf.putChild, hf.marks, hf.reassigned⟩

theorem keeps_recordParentRetry : Keeps f (recordParentRetry id w) := by
  intro s
  show f (exec _ s).2 = f s
  rcases @exec_recordParentRetry s id w with h | ⟨p, n, hp, -, -, h⟩
  · rw [h]
  · rw [h]
    exact hf.putParent s p { p with retries := n } (Table.find?_self hp) rfl

end Blind

end Store

/-- A checked sum that gives a result gives the plain sum. -/
theorem Word.eq_of_add_ok {top a b m : Nat} (h : Word.add top a b = .ok m) : m = a + b := by
  unfold Word.add at h
  split at h <;> cases h
  rfl

namespace Store

/-- The retry count of a child, as the store reports it. -/
def retriesOf (s : Store) (id : TaskId) : Option Nat := (Table.find? s.children id).map (·.retries)

/-- No child the store reports was attempted more than `n` times. -/
def Capped (n : Nat) (s : Store) : Prop := ∀ id k, s.retriesOf id = some k → k ≤ n

variable {s s' : Store} {n : Nat}

theorem Capped.of_retriesOf (h : s.Capped n) (he : s'.retriesOf = s.retriesOf) : s'.Capped n :=
  fun id k hk => h id k (he ▸ hk)

/-- Writing a child with the count of the record it replaces keeps every count. -/
theorem retriesOf_putChild {c c' : Child} (h : Table.find? s.children c'.id = some c) (hr : c'.retries = c.retries) :
    retriesOf { s with children := Table.put s.children c' } = s.retriesOf := by
  funext id
  simp only [retriesOf]
  rw [Table.find?_put]
  by_cases hk : c'.id = id
  · subst hk
    simp [Keyed.key, h, hr]
  · simp [Keyed.key, hk]

/-- Handing tasks to other workers keeps every count. -/
theorem Reassigned.retriesOf_eq (h : Reassigned s s') : s'.retriesOf = s.retriesOf := by
  obtain ⟨g, hg⟩ := h.find?_children
  funext id
  simp only [retriesOf, hg, Option.map_map]
  rfl

/-- The counts of attempts are blind to the progress of tasks. -/
theorem retriesOf_blind : Blind retriesOf where
  putTop _ _ := rfl
  putParent _ _ _ _ _ := rfl
  putChild _ _ _ h _ hr := retriesOf_putChild h hr
  marks _ _ := rfl
  reassigned _ _ h := h.retriesOf_eq

/-- A submission adds parents with no children. -/
theorem keeps_createTransfer (t : Top) (ps : List Parent) : Keeps retriesOf (createTransfer t ps) := by
  intro s
  show retriesOf (exec _ s).2 = retriesOf s
  rcases exec_createTransfer (s := s) t ps with h | ⟨-, -, h⟩
  · rw [h]
  · rw [h]
    rfl

/-! ## Adding children -/

/-- A record found after writing records in turn is one of them, or was found before. -/
theorem find?_foldl_put {xs ys : List Child} {id : TaskId} {c : Child}
    (h : Table.find? (ys.foldl Table.put xs) id = some c) : c ∈ ys ∨ Table.find? xs id = some c := by
  induction ys generalizing xs with
  | nil => exact .inr h
  | cons y ys ih =>
    rcases ih h with hc | hc
    · exact .inl (List.mem_cons_of_mem y hc)
    · rw [Table.find?_put] at hc
      split at hc
      · cases hc
        exact .inl List.mem_cons_self
      · exact .inr hc

/-- A commit adds children that were never attempted, so it lifts no count past a bound. -/
theorem Capped.commitStaging (h : s.Capped n) (id : TaskId) (w : WorkerId) (specs : List ChildSpec) (now : Stamp) :
    (exec (commitStaging id w specs now) s).2.Capped n := by
  rcases @exec_commitStaging s id w now specs with he | ⟨p, _, -, -, -, (⟨_, -, he⟩ | ⟨_, -, he⟩)⟩
  · rw [he]
    exact h
  · rw [he]
    exact h
  · rw [he]
    intro cid k hk
    obtain ⟨c, hc, rfl⟩ := Option.map_eq_some_iff.1 hk
    rcases find?_foldl_put hc with hnew | hold
    · -- a new child starts with no attempt
      obtain ⟨i, hi, rfl⟩ := List.mem_mapIdx.1 hnew
      exact Nat.zero_le n
    · exact h cid c.retries (by simp only [retriesOf, hold, Option.map_some])

/-! ## Starting an attempt -/

theorem exec_bind_eq_ok {α β : Type} {m : StoreM α} {f : α → StoreM β} {b : β}
    (h : exec (m >>= f) s = (.ok b, s')) : ∃ a s₁, exec m s = (.ok a, s₁) ∧ exec (f a) s₁ = (.ok b, s') := by
  rw [exec_bind] at h
  rcases hm : exec m s with ⟨r, s₁⟩
  rw [hm] at h
  cases r with
  | ok a => exact ⟨a, s₁, rfl, h⟩
  | error e => cases h

/-- An attempt that begins counts one more for its child: the child it gives is the one now stored, one
attempt past the count before, and no other count moves. -/
theorem exec_beginChildAttempt_ok {id : TaskId} {w : WorkerId} {now : Stamp} {c' : Child}
    (h : exec (beginChildAttempt id w now) s = (.ok c', s')) :
    ∃ k, s.retriesOf id = some k ∧ c'.retries = k + 1 ∧ s'.retriesOf id = some c'.retries ∧
      ∀ id', id' ≠ id → s'.retriesOf id' = s.retriesOf id' := by
  rcases @exec_beginChildAttempt_cases s id w now with ⟨e, he⟩ | ⟨c, c₁, hc, -, hst, ⟨e, -, he⟩ | ⟨m, hn, he⟩⟩
  · rw [he] at h
    cases h
  · rw [he] at h
    cases h
  have hkey : c₁.id = id := by
    obtain ⟨_, _, rfl⟩ := Child.eq_of_attemptStep hst
    exact (Table.find?_eq_some hc).2
  rw [he] at h
  obtain ⟨_, s₃, h₃, h₄⟩ := exec_bind_eq_ok h
  have hcounts : ∀ id', s₃.retriesOf id' = if id = id' then some m else s.retriesOf id' := by
    intro id'
    rw [(retriesOf_blind.steady.keeps_setChildBytes id 0).eq_of_run h₃]
    by_cases hid' : id = id' <;> simp [retriesOf, Table.find?_put, Keyed.key, hkey, hid']
  obtain ⟨hc', rfl⟩ : Table.find? s₃.children id = some c' ∧ s' = s₃ := by
    cases hc' : Table.find? s₃.children id with
    | none => rw [exec_child_of_none hc'] at h₄; cases h₄
    | some c₀ => rw [exec_child_of_find hc'] at h₄; cases h₄; exact ⟨rfl, rfl⟩
  have hc'' : retriesOf s' id = some c'.retries := by simp [retriesOf, hc']
  refine ⟨c.retries, by simp [retriesOf, hc], ?_, hc'', fun id' hne => ?_⟩
  · rw [hcounts, if_pos rfl, Option.some.injEq] at hc''
    rw [← hc'', Word.eq_of_add_ok hn]
  · rw [hcounts, if_neg (Ne.symm hne)]

/-- An attempt started below the bound leaves every count within it. -/
theorem Capped.beginChildAttempt (h : s.Capped n) {id : TaskId} {k : Nat} (hk : s.retriesOf id = some k)
    (hlt : k < n) (w : WorkerId) (now : Stamp) : (exec (beginChildAttempt id w now) s).2.Capped n := by
  rcases @exec_beginChildAttempt s id w now with he | ⟨c, c', hc, -, hst, ⟨e, -, he⟩ | ⟨m, hm, he⟩⟩
  · rw [he]
    exact h
  all_goals
    obtain ⟨hr, hid⟩ : c'.retries = c.retries ∧ c'.id = c.id := by
      obtain ⟨_, _, rfl⟩ := Child.eq_of_attemptStep hst
      exact ⟨rfl, rfl⟩
    have hkey : c'.id = id := hid.trans (Table.find?_eq_some hc).2
    rw [he]
  · exact h.of_retriesOf (retriesOf_putChild (c := c) (Table.find?_of_key_eq hc hid) hr)
  · have hkc : c.retries = k := by
      simp only [retriesOf, hc, Option.map_some, Option.some.injEq] at hk
      exact hk
    have hm' : m = c.retries + 1 := Word.eq_of_add_ok hm
    refine Capped.of_retriesOf ?_
      (((retriesOf_blind.steady.keeps_setChildBytes id 0).bind fun _ => keeps_child id) _)
    intro id' k' hk'
    simp only [retriesOf] at hk'
    rw [Table.find?_put] at hk'
    split at hk'
    · -- the child just started: one attempt more than before, within the bound
      cases hk'
      show m ≤ n
      omega
    · exact h id' k' hk'

/-- The start of an attempt writes its child with what the child keeps from its creation, and a new count
of attempts: a view blind to the progress of tasks that a write of a child with its fixed part keeps, whatever
the count, is kept by it. -/
theorem Blind.keeps_beginChildAttempt_of_fixed {β : Type} {f : Store → β} (hf : Blind f)
    (hput : ∀ s (c c' : Child), Table.find? s.children c'.id = some c → c'.fixed = c.fixed →
      f { s with children := Table.put s.children c' } = f s) {id : TaskId} {w : WorkerId} {now : Stamp} :
    Keeps f (beginChildAttempt id w now) := by
  intro s
  show f (exec _ s).2 = f s
  rcases @exec_beginChildAttempt s id w now with h | ⟨c, c', hc, -, hst, ⟨e, -, h⟩ | ⟨n, -, h⟩⟩
  · rw [h]
  all_goals
    obtain ⟨hid, hfix⟩ : c'.id = c.id ∧ c'.fixed = c.fixed := by
      obtain ⟨_, _, rfl⟩ := Child.eq_of_attemptStep hst
      exact ⟨rfl, rfl⟩
    have hc' : Table.find? s.children c'.id = some c := Table.find?_of_key_eq hc hid
    rw [h]
  · exact hput s c c' hc' hfix
  · have hc'' : Table.find? s.children { c' with retries := n }.id = some c := hc'
    exact (((hf.steady.keeps_setChildBytes id 0).bind fun _ => keeps_child id) _).trans (hput s c _ hc'' hfix)

end Store

/-! ## Calls -/

/-- Whether a call starts an attempt of a child. -/
def Call.startsAttempt : Call → Bool
  | .beginChildAttempt .. => true
  | _ => false

/-- Whether a call adds task records: a submission, or the commit of a parent's children. -/
def Call.addsTasks : Call → Bool
  | .createTransfer .. | .commitStaging .. => true
  | _ => false

/-- Every call but a submission, a commit and the start of an attempt keeps a view blind to the progress
of tasks. -/
theorem Store.Blind.keeps_call {β : Type} {f : Store → β} (hf : Store.Blind f) (c : Call) (ha : c.addsTasks = false)
    (hs : c.startsAttempt = false) : Keeps f c.run := by
  cases hw : c.writesTasks
  · exact fun s => hf.reassigned s _ (c.keepsTasks hw s).1
  · cases c <;> simp only [Call.writesTasks, Call.addsTasks, Call.startsAttempt, Bool.false_eq_true,
      reduceCtorEq] at hw ha hs <;> simp only [Call.run]
    case requestCancel id now => exact Store.keeps_discard (hf.steady.keeps_requestCancel id now)
    case beginStaging => exact Store.keeps_discard hf.steady.keeps_beginStaging
    case recordParentRetry => exact Store.keeps_discard hf.keeps_recordParentRetry
    case startParent => exact Store.keeps_discard hf.steady.keeps_startParent
    case finishParent status error _ => exact Store.keeps_discard (hf.steady.keeps_finishParent status error)
    case recordProgress bytes => exact hf.steady.keeps_recordProgress bytes
    case finishChild status bytes error _ =>
      exact Store.keeps_discard (hf.steady.keeps_finishChild status bytes error)

open Store in
/-- No call but the start of an attempt lifts a count past a bound. -/
theorem Call.capped (c : Call) (hc : c.startsAttempt = false) {n : Nat} {s : Store} (h : s.Capped n) :
    (exec c.run s).2.Capped n := by
  cases ha : c.addsTasks
  · exact h.of_retriesOf (retriesOf_blind.keeps_call c ha hc s)
  · cases c <;> simp only [Call.addsTasks, Bool.false_eq_true] at ha <;>
      simp only [Call.run, exec_discard_state]
    case createTransfer t ps => exact h.of_retriesOf (keeps_createTransfer t ps s)
    case commitStaging id w specs now => exact h.commitStaging id w specs now

end Conveyor
