import Conveyor.Proofs.Store.Progress

/-!
# What a cancel request does

A cancel of a task that has not ended, in a transfer that has not ended, is accepted. It reaches the task
and what lies under it, but for the children of a parent that had already ended: of what it reaches, a task
that has not ended and that no worker holds is cancelled, a held one is reported in flight, and a parent in
progress rolls up once its children have all ended. Everything under the task then reads as
cancel-requested, and no task is written but those under it and those above it. A cancel of a task that
ended, or of a task of a transfer that ended, is refused and writes nothing.

* `Child.afterCancel` and `Parent.AfterCancel` say what a cancel leaves of a task it reaches, and
  `Store.listedBy` lists, in the order a cancel meets them, the tasks it names cancelled or in flight.
* `Store.Swept` is what a cancel of parents, one after another, has done so far; `Store.Swept.step`
  carries it over one more parent and `Store.Swept.fold` over a list of them.
* `Store.CancelDone` is what an accepted cancel leaves. It is read off `Swept` for a transfer and for a
  parent, and off the single child's cancel for a child.

The main result, `Reachable.requestCancel_spec`, holds in every reachable store. Its one way of stopping
short is the overflow of a roll-up's byte sum, which it leaves open.
-/

namespace Conveyor

/-- A cancel cancels a child that it reaches when the child has not ended and no worker holds it. -/
def Child.cancellable (c : Child) : Bool := !c.status.isTerminal && c.worker.isNone

/-- A cancel reports in flight a child that it reaches when the child has not ended and a worker holds it. -/
def Child.inFlight (c : Child) : Bool := !c.status.isTerminal && c.worker.isSome

/-- A child as a cancel that reaches it leaves it. -/
def Child.afterCancel (c : Child) (now : Stamp) : Child := if c.cancellable then c.cancelledAt now else c

/-- A cancel cancels a parent that it reaches when the parent has not ended, no worker holds it and it is not
in progress: a parent in progress rolls up instead. -/
def Parent.cancellable (p : Parent) : Bool := !p.status.isTerminal && p.worker.isNone && p.status != .inProgress

/-- A cancel reports in flight a parent that it reaches when the parent has not ended and a worker holds it. -/
def Parent.inFlight (p : Parent) : Bool := !p.status.isTerminal && p.worker.isSome

/-- The record `r` that a cancel leaves of a parent `p` it reaches, once it left the parent's children as
`cs`: an ended or held parent as it was, a parent in progress rolled up exactly when all of `cs` ended, any
other parent cancelled. -/
def Parent.AfterCancel (p : Parent) (cs : List Child) (now : Stamp) (r : Option Parent) : Prop :=
  if p.status.isTerminal || p.worker.isSome then r = some p
  else if p.status = .inProgress then
    ((∀ c ∈ cs, c.status.isTerminal = true) ∧ ∃ o b, o.isTerminal = true ∧
      Word.sum Word.max64 (cs.map (·.bytes)) = .ok b ∧ r = some (p.rolledUp o cs b now)) ∨
    ((∃ c ∈ cs, c.status.isTerminal = false) ∧ r = some p)
  else r = some (p.cancelledAt now)

namespace Child

variable (c : Child) (now : Stamp)

@[simp] theorem afterCancel_id : (c.afterCancel now).id = c.id := by
  unfold afterCancel; split <;> rfl

@[simp] theorem afterCancel_parent : (c.afterCancel now).parent = c.parent := by
  unfold afterCancel; split <;> rfl

@[simp] theorem afterCancel_top : (c.afterCancel now).top = c.top := by
  unfold afterCancel; split <;> rfl

theorem afterCancel_of_cancellable {c : Child} (h : c.cancellable = true) (now : Stamp) :
    c.afterCancel now = c.cancelledAt now := by
  simp [afterCancel, h]

theorem afterCancel_of_not {c : Child} (h : c.cancellable = false) (now : Stamp) : c.afterCancel now = c := by
  simp [afterCancel, h]

end Child

/-- A roll-up gives an outcome exactly when every child has ended. -/
theorem rollUp_isSome {optional cancel : Bool} {children : List Status} :
    (rollUp optional cancel children).isSome = children.all Status.isTerminal := by
  unfold rollUp
  by_cases h : children.all Status.isTerminal
  · simp only [h, if_true]
    split
    · rfl
    · split <;> rfl
  · simp [h]

namespace Store

variable {s s' s'' : Store}

/-- Whether a cancel of the parents `ps` reaches child `c`: its parent is one of them and had not ended. -/
def sweeps (s : Store) (ps : List TaskId) (c : Child) : Bool :=
  ps.contains c.parent && (Table.find? s.parents c.parent).any (!·.status.isTerminal)

/-- The tasks that a cancel of parent `q` names under a rule, in the order it meets them: none if the parent
had ended, else its children the rule picks, then the parent if the rule picks it. The rules are
`cancellable` for the tasks it cancels and `inFlight` for those it reports in flight. -/
def listedAt (s : Store) (q : TaskId) (child : Child → Bool) (parent : Parent → Bool) : List TaskId :=
  match Table.find? s.parents q with
  | some p => if p.status.isTerminal then [] else
      (s.childIds q).filter (fun d => (Table.find? s.children d).any child) ++ if parent p then [q] else []
  | none => []

/-- The tasks that a cancel of the parents `ps`, one after another, names under a rule. -/
def listedBy (s : Store) (ps : List TaskId) (child : Child → Bool) (parent : Parent → Bool) : List TaskId :=
  ps.flatMap fun q => s.listedAt q child parent

/-! ## Transfers a run leaves alone -/

/-- From `s` to `s'` no transfer but `T` was written, and no transfer's cancel flag moved. -/
structure TopsBut (T : TaskId) (s s' : Store) : Prop where
  others : ∀ d, d ≠ T → Table.find? s'.tops d = Table.find? s.tops d
  flags : ∀ d, s'.topCancelled d = s.topCancelled d

namespace TopsBut

variable {T : TaskId}

theorem of_tops (h : s'.tops = s.tops) : s.TopsBut T s' :=
  ⟨fun d _ => by rw [h], fun d => by simp only [topCancelled, h]⟩

theorem trans (h₁ : s.TopsBut T s') (h₂ : s'.TopsBut T s'') : s.TopsBut T s'' :=
  ⟨fun d hd => (h₂.others d hd).trans (h₁.others d hd), fun d => (h₂.flags d).trans (h₁.flags d)⟩

/-- A refresh writes its own transfer only, and keeps its cancel flag. -/
theorem refresh (T : TaskId) (now : Stamp) : s.TopsBut T (exec (refreshTop T now) s).2 := by
  cases hT : Table.find? s.tops T with
  | none =>
    rw [exec_refreshTop_of_none hT]
    exact of_tops rfl
  | some t =>
    rw [exec_refreshTop_of_find hT]
    split
    · exact of_tops rfl
    · have hid : t.id = T := (Table.find?_eq_some hT).2
      refine ⟨fun d hd => Table.find?_put_of_ne _ _ (by rw [← hid] at hd; exact Ne.symm hd), fun d => ?_⟩
      simp only [topCancelled, Table.find?_put]
      split
      · rename_i h
        have hd : d = T := h.symm.trans hid
        subst hd
        rw [hT]
        rfl
      · rfl

end TopsBut

/-! ## One id, one kind of task -/

section Kinds

variable (hl : s.Linked) {d : TaskId}
include hl

private theorem Linked.keys_disjoint :
    (∀ a ∈ s.tops.map (·.id), a ∉ s.parents.map (·.id)) ∧ (∀ a ∈ s.tops.map (·.id), a ∉ s.children.map (·.id)) ∧
      ∀ a ∈ s.parents.map (·.id), a ∉ s.children.map (·.id) := by
  have h := hl.ids_nodup
  simp only [taskIds, List.nodup_append, List.mem_append] at h
  refine ⟨fun a ha hb => h.1.2.2 a ha a hb rfl, fun a ha hb => h.2.2 a (.inl ha) a hb rfl,
    fun a ha hb => h.2.2 a (.inr ha) a hb rfl⟩

theorem Linked.parents_none_of_top {t : Top} (h : Table.find? s.tops d = some t) :
    Table.find? s.parents d = none := by
  have ht := Table.find?_eq_some h
  exact Table.find?_eq_none_of_not_mem
    ((Linked.keys_disjoint hl).1 d (ht.2 ▸ List.mem_map_of_mem ht.1))

theorem Linked.children_none_of_top {t : Top} (h : Table.find? s.tops d = some t) :
    Table.find? s.children d = none := by
  have ht := Table.find?_eq_some h
  exact Table.find?_eq_none_of_not_mem
    ((Linked.keys_disjoint hl).2.1 d (ht.2 ▸ List.mem_map_of_mem ht.1))

theorem Linked.children_none_of_parent {p : Parent} (h : Table.find? s.parents d = some p) :
    Table.find? s.children d = none := by
  have hp := Table.find?_eq_some h
  exact Table.find?_eq_none_of_not_mem
    ((Linked.keys_disjoint hl).2.2 d (hp.2 ▸ List.mem_map_of_mem hp.1))

theorem Linked.tops_none_of_parent {p : Parent} (h : Table.find? s.parents d = some p) :
    Table.find? s.tops d = none := by
  cases ht : Table.find? s.tops d with
  | none => rfl
  | some t => rw [hl.parents_none_of_top ht] at h; cases h

theorem Linked.tops_none_of_child {c : Child} (h : Table.find? s.children d = some c) :
    Table.find? s.tops d = none := by
  cases ht : Table.find? s.tops d with
  | none => rfl
  | some t => rw [hl.children_none_of_top ht] at h; cases h

theorem Linked.parents_none_of_child {c : Child} (h : Table.find? s.children d = some c) :
    Table.find? s.parents d = none := by
  cases hp : Table.find? s.parents d with
  | none => rfl
  | some p => rw [hl.children_none_of_parent hp] at h; cases h

end Kinds

/-! ## Reading a cancel mark -/

section Requested

variable {d : TaskId}

theorem exec_isCancelRequested_of_top {t : Top} (h : Table.find? s.tops d = some t) :
    exec (isCancelRequested d) s = (.ok t.cancelRequested, s) := by
  simp [isCancelRequested, exec_bind, h]

theorem exec_isCancelRequested_of_parent {p : Parent} (h0 : Table.find? s.tops d = none)
    (h : Table.find? s.parents d = some p) :
    exec (isCancelRequested d) s = (.ok (s.marks.contains d || s.marks.contains p.id || s.topCancelled p.top), s) := by
  simp [isCancelRequested, exec_bind, h0, h]

theorem exec_isCancelRequested_of_child {c : Child} (h0 : Table.find? s.tops d = none)
    (h1 : Table.find? s.parents d = none) (h : Table.find? s.children d = some c) :
    exec (isCancelRequested d) s =
      (.ok (s.marks.contains d || s.marks.contains c.parent || s.topCancelled c.top), s) := by
  simp [isCancelRequested, exec_bind, h0, h1, h]

end Requested

/-! ## Cancelling children -/

section Children

variable (hl : s.Linked) (out : CancelOutcome) (now : Stamp)
include hl

/-- A cancel of a child in a linked store leaves it as `afterCancel` says, and names it once if it cancels
it or finds it held. -/
theorem Linked.exec_cancelChild_eq {id : TaskId} {c : Child} (hc : Table.find? s.children id = some c) :
    ∃ cs, exec (cancelChild id out now) s =
        (.ok { out with
          cancelled := out.cancelled ++ if c.cancellable then [id] else []
          inFlight := out.inFlight ++ if c.inFlight then [id] else [] }, { s with children := cs }) ∧
      ∀ d, Table.find? cs d = if d = id then some (c.afterCancel now) else Table.find? s.children d := by
  have hsame : c.cancellable = false →
      ∀ d, Table.find? s.children d = if d = id then some (c.afterCancel now) else Table.find? s.children d := by
    intro hn d
    split
    · rename_i h
      rw [h, hc, Child.afterCancel_of_not hn]
    · rfl
  cases ht : c.status.isTerminal
  · cases hw : c.worker with
    | some w =>
      have hn : c.cancellable = false := by simp [Child.cancellable, hw]
      refine ⟨s.children, ?_, hsame hn⟩
      rw [exec_cancelChild_of_held out now hc ht (by simp [hw])]
      simp [Child.cancellable, Child.inFlight, ht, hw]
    | none =>
      have hy : c.cancellable = true := by simp [Child.cancellable, ht, hw]
      refine ⟨Table.put s.children (c.cancelledAt now), ?_, fun d => ?_⟩
      · rw [exec_cancelChild_of_free out now hc ht hw (Kind.canMove_child_cancelled ht (hl.child_status hc))]
        simp [Child.cancellable, Child.inFlight, ht, hw]
      · have hid : Keyed.key (c.cancelledAt now) = id := (Table.find?_eq_some hc).2
        rw [Table.find?_put, hid, Child.afterCancel_of_cancellable hy]
        by_cases h : d = id
        · simp [h]
        · simp [h, Ne.symm h]
  · have hn : c.cancellable = false := by simp [Child.cancellable, ht]
    refine ⟨s.children, ?_, hsame hn⟩
    rw [exec_cancelChild_of_ended out now hc ht]
    simp [Child.cancellable, Child.inFlight, ht]

/-- A cancel of children that are there, in a linked store, leaves each as `afterCancel` says and names, in
their order, those it cancels and those it finds held. -/
theorem Linked.exec_cancelChildren_eq {ids : List TaskId}
    (hids : ∀ id ∈ ids, ∃ c, Table.find? s.children id = some c) (hnd : ids.Nodup) :
    ∃ cs, exec (cancelChildren ids out now) s =
        (.ok { out with
          cancelled := out.cancelled ++ ids.filter fun d => (Table.find? s.children d).any Child.cancellable
          inFlight := out.inFlight ++ ids.filter fun d => (Table.find? s.children d).any Child.inFlight },
        { s with children := cs }) ∧
      ∀ d, Table.find? cs d = (Table.find? s.children d).map fun c => if d ∈ ids then c.afterCancel now else c := by
  induction ids generalizing s out with
  | nil =>
    refine ⟨s.children, by simp [cancelChildren], fun d => ?_⟩
    cases Table.find? s.children d <;> simp
  | cons id ids ih =>
    obtain ⟨c, hc⟩ := hids id List.mem_cons_self
    obtain ⟨hid, hnd'⟩ := List.nodup_cons.1 hnd
    obtain ⟨cs₁, h₁, hcs₁⟩ := hl.exec_cancelChild_eq out now hc
    have hsame : ∀ d ∈ ids, Table.find? cs₁ d = Table.find? s.children d := fun d hd => by
      have hne : d ≠ id := by rintro rfl; exact hid hd
      rw [hcs₁, if_neg hne]
    obtain ⟨cs, h, hcs⟩ := ih (hl.of_exec (revises_cancelChild id out now) h₁) _
      (fun d hd => hsame d hd ▸ hids d (List.mem_cons_of_mem _ hd)) hnd'
    refine ⟨cs, ?_, fun d => ?_⟩
    · have hf : ∀ P : Child → Bool, ids.filter (fun d => (Table.find? cs₁ d).any P) =
          ids.filter (fun d => (Table.find? s.children d).any P) := fun P =>
        List.filter_congr fun d hd => by rw [hsame d hd]
      unfold cancelChildren
      rw [exec_foldlM_cons, exec_bind_of_ok _ h₁]
      refine h.trans ?_
      simp only [hf, List.filter_cons, hc, Option.any_some]
      cases c.cancellable <;> cases c.inFlight <;> simp
    · rw [hcs, hcs₁]
      by_cases hd : d = id
      · subst hd
        simp [hc, hid]
      · simp [hd]

end Children

/-! ## Cancelling parents one after another -/

section Sweep

theorem sweeps_append (ps : List TaskId) (q : TaskId) (c : Child) :
    s.sweeps (ps ++ [q]) c =
      (s.sweeps ps c || (c.parent == q && (Table.find? s.parents c.parent).any (!·.status.isTerminal))) := by
  simp only [sweeps, List.contains_append, List.contains_cons, List.contains_nil, Bool.or_false]
  cases ps.contains c.parent <;> cases c.parent == q <;> simp

theorem sweeps_of_not_mem {ps : List TaskId} {c : Child} (h : c.parent ∉ ps) : s.sweeps ps c = false := by
  simp [sweeps, h]

variable {q : TaskId} {p : Parent}

theorem listedBy_append_of_ended (hp : Table.find? s.parents q = some p) (hn : p.status.isTerminal = true)
    (ps : List TaskId) (child : Child → Bool) (parent : Parent → Bool) :
    s.listedBy (ps ++ [q]) child parent = s.listedBy ps child parent := by
  simp [listedBy, listedAt, List.flatMap_append, hp, hn]

theorem listedBy_append (hp : Table.find? s.parents q = some p) (hn : p.status.isTerminal = false)
    (ps : List TaskId) (child : Child → Bool) (parent : Parent → Bool) :
    s.listedBy (ps ++ [q]) child parent = s.listedBy ps child parent ++
      ((s.childIds q).filter (fun d => (Table.find? s.children d).any child) ++ if parent p then [q] else []) := by
  simp [listedBy, listedAt, List.flatMap_append, hp, hn]

/-- A roll-up of a parent that is there, in a linked store, ends well or stops on the overflow, and writes that
parent and its transfer only. -/
theorem Linked.rollUpParent_frame (hl : s.Linked) {q : TaskId} {p : Parent} (hp : Table.find? s.parents q = some p)
    (now : Stamp) :
    ((exec (rollUpParent q now) s).1 = .ok () ∨ ∃ e, (exec (rollUpParent q now) s).1 = .error (.panic e)) ∧
      (exec (rollUpParent q now) s).2.children = s.children ∧ (exec (rollUpParent q now) s).2.marks = s.marks ∧
      (∀ d, d ≠ q → Table.find? (exec (rollUpParent q now) s).2.parents d = Table.find? s.parents d) ∧
      s.TopsBut p.top (exec (rollUpParent q now) s).2 := by
  have hid : p.id = q := (Table.find?_eq_some hp).2
  by_cases ha : p.status = .inProgress
  · cases ho : s.rollUpOutcome p with
    | none =>
      rw [exec_rollUpParent_of_waiting now hp ha ho]
      exact ⟨.inl rfl, rfl, rfl, fun _ _ => rfl, TopsBut.of_tops rfl⟩
    | some o =>
      cases hb : Word.sum Word.max64 ((s.childRecords q).map (·.bytes)) with
      | error e =>
        rw [exec_rollUpParent_of_overflow now hp ha ho hb]
        exact ⟨.inr ⟨e, rfl⟩, rfl, rfl, fun _ _ => rfl, TopsBut.of_tops rfl⟩
      | ok b =>
        rw [exec_rollUpParent_of_rollUp now hp ha ho hb]
        obtain ⟨t, ht, -⟩ := hl.parent_top hp
        let S₂ : Store := { s with parents := Table.put s.parents (p.rolledUp o (s.childRecords q) b now) }
        obtain ⟨ts, hts⟩ := refreshTop_frame (s := S₂) p.top now
        refine ⟨.inl (by rw [exec_refreshTop_of_find (s := S₂) ht]), by rw [hts], by rw [hts], fun d hd => ?_,
          (TopsBut.of_tops (s := s) (show S₂.tops = s.tops from rfl)).trans (TopsBut.refresh p.top now)⟩
        rw [hts]
        exact Table.find?_put_of_ne _ _ fun h => hd (h.symm.trans hid)
  · rw [exec_rollUpParent_of_idle now hp ha]
    exact ⟨.inl rfl, rfl, rfl, fun _ _ => rfl, TopsBut.of_tops rfl⟩

/-- A roll-up of a parent in progress that ends well leaves it as a cancel that reaches it says: as it was while
a child has not ended, else ended with its children's outcome and the sum of their bytes. -/
theorem rollUpParent_afterCancel (hp : Table.find? s.parents q = some p) (hn : p.status.isTerminal = false)
    (hw : p.worker = none) (ha : p.status = .inProgress) (now : Stamp)
    (hok : (exec (rollUpParent q now) s).1 = .ok ()) :
    p.AfterCancel (s.childRecords q) now (Table.find? (exec (rollUpParent q now) s).2.parents q) := by
  have hid : p.id = q := (Table.find?_eq_some hp).2
  rw [Parent.AfterCancel, if_neg (by simp [hn, hw]), if_pos ha]
  cases ho : s.rollUpOutcome p with
  | none =>
    rw [exec_rollUpParent_of_waiting now hp ha ho]
    obtain ⟨st, hst, hst'⟩ := exists_of_rollUp_eq_none ho
    rw [hid] at hst
    obtain ⟨c, hc, rfl⟩ := List.mem_map.1 hst
    exact .inr ⟨⟨c, hc, hst'⟩, hp⟩
  | some o =>
    cases hb : Word.sum Word.max64 ((s.childRecords q).map (·.bytes)) with
    | error e =>
      rw [exec_rollUpParent_of_overflow now hp ha ho hb] at hok
      cases hok
    | ok b =>
      have hall : ((s.childRecords q).map (·.status)).all Status.isTerminal = true := by
        rw [← rollUp_isSome, ← hid]
        exact congrArg Option.isSome ho
      rw [exec_rollUpParent_of_rollUp now hp ha ho hb]
      obtain ⟨ts, hts⟩ := refreshTop_frame
        (s := { s with parents := Table.put s.parents (p.rolledUp o (s.childRecords q) b now) }) p.top now
      rw [hts]
      exact .inl ⟨fun c hc => List.all_eq_true.1 hall c.status (List.mem_map_of_mem hc), o, b, rollUp_isTerminal ho,
        rfl, Table.find?_put_eq hid⟩

/-- The store `S` and outcome `out` that a cancel of the parents `ps` of transfer `T`, one after another,
leaves from the store `s` and the outcome `out₀`. -/
structure Swept (s : Store) (T : TaskId) (ps : List TaskId) (now : Stamp) (out₀ : CancelOutcome) (S : Store)
    (out : CancelOutcome) : Prop where
  /-- The children it reaches are as it leaves them, and the others as they were. -/
  children : ∀ d, Table.find? S.children d =
    (Table.find? s.children d).map fun c => if s.sweeps ps c then c.afterCancel now else c
  /-- Each of the parents is as it leaves it, once it left its children. -/
  parents_in : ∀ q ∈ ps, ∀ p, Table.find? s.parents q = some p →
    p.AfterCancel ((s.childRecords q).map (·.afterCancel now)) now (Table.find? S.parents q)
  /-- Every other parent is as it was. -/
  parents_out : ∀ d, d ∉ ps → Table.find? S.parents d = Table.find? s.parents d
  tops : s.TopsBut T S
  marks : S.marks = s.marks
  childLists : S.childLists = s.childLists
  /-- The outcome names, in order, the tasks it cancelled and those it found held. -/
  outcome : out = { out₀ with
    cancelled := out₀.cancelled ++ s.listedBy ps Child.cancellable Parent.cancellable
    inFlight := out₀.inFlight ++ s.listedBy ps Child.inFlight Parent.inFlight }

variable {T : TaskId} {now : Stamp} {out₀ out : CancelOutcome} {ps : List TaskId} {S : Store}

namespace Swept

theorem init (s : Store) (T : TaskId) (now : Stamp) (out₀ : CancelOutcome) : s.Swept T [] now out₀ s out₀ where
  children d := by cases Table.find? s.children d <;> simp [sweeps]
  parents_in q hq := by cases hq
  parents_out _ _ := rfl
  tops := TopsBut.of_tops rfl
  marks := rfl
  childLists := rfl
  outcome := by simp [listedBy]

/-- A sweep carried over one more parent `q`, from what the cancel of `q` did. -/
theorem extend (h : s.Swept T ps now out₀ S out) (hq : q ∉ ps) {S' : Store} {out' : CancelOutcome}
    (hch : ∀ d, Table.find? S'.children d =
      (Table.find? s.children d).map fun c => if s.sweeps (ps ++ [q]) c then c.afterCancel now else c)
    (hpq : ∀ p, Table.find? s.parents q = some p →
      p.AfterCancel ((s.childRecords q).map (·.afterCancel now)) now (Table.find? S'.parents q))
    (hpar : ∀ d, d ≠ q → Table.find? S'.parents d = Table.find? S.parents d)
    (htops : S.TopsBut T S') (hm : S'.marks = S.marks) (hcl : S'.childLists = S.childLists)
    (hout : out' = { out₀ with
      cancelled := out₀.cancelled ++ s.listedBy (ps ++ [q]) Child.cancellable Parent.cancellable
      inFlight := out₀.inFlight ++ s.listedBy (ps ++ [q]) Child.inFlight Parent.inFlight }) :
    s.Swept T (ps ++ [q]) now out₀ S' out' where
  children := hch
  parents_in q' hq' p hp := by
    rcases List.mem_append.1 hq' with hin | hin
    · have hne : q' ≠ q := by rintro rfl; exact hq hin
      rw [hpar q' hne]
      exact h.parents_in q' hin p hp
    · rw [List.mem_singleton.1 hin] at hp ⊢
      exact hpq p hp
  parents_out d hd := by
    have hd' : d ∉ ps ∧ d ≠ q := by simpa using hd
    rw [hpar d hd'.2, h.parents_out d hd'.1]
  tops := h.tops.trans htops
  marks := hm.trans h.marks
  childLists := hcl.trans h.childLists
  outcome := hout

/-- The sweep so far leaves the list of children of every parent alone. -/
theorem childIds_eq (h : s.Swept T ps now out₀ S out) (q : TaskId) : S.childIds q = s.childIds q := by
  simp only [childIds, h.childLists]

/-- The children of a parent the sweep has not reached are as they were. -/
theorem find?_children_of_unswept (h : s.Swept T ps now out₀ S out) (hl : s.Linked) (hq : q ∉ ps) :
    ∀ d ∈ s.childIds q, Table.find? S.children d = Table.find? s.children d := by
  intro d hd
  rw [h.children d]
  cases hc : Table.find? s.children d with
  | none => rfl
  | some c =>
    have hpar : c.parent = q := hl.parent_of_listed q d hd c hc
    simp [sweeps_of_not_mem (hpar ▸ hq : c.parent ∉ ps)]

/-- Once a cancel of the children of a parent `q` the sweep has not reached wrote them as `cs`, the records of
`q`'s children are those a cancel leaves. -/
theorem childRecords_after (h : s.Swept T ps now out₀ S out) (hl : s.Linked) (hq : q ∉ ps) {cs : List Child}
    (hcs : ∀ d, Table.find? cs d =
      (Table.find? S.children d).map fun c => if d ∈ S.childIds q then c.afterCancel now else c) :
    ({ S with children := cs } : Store).childRecords q = (s.childRecords q).map (·.afterCancel now) := by
  show (S.childIds q).filterMap (Table.find? cs) =
    ((s.childIds q).filterMap (Table.find? s.children)).map (·.afterCancel now)
  rw [h.childIds_eq, List.map_filterMap]
  refine List.filterMap_congr fun d hd => ?_
  rw [hcs d, h.find?_children_of_unswept hl hq d hd, h.childIds_eq]
  simp [hd]

/-- Sweeping one more parent that had already ended changes nothing. -/
theorem step_of_ended (h : s.Swept T ps now out₀ S out) (hq : q ∉ ps) (hp : Table.find? s.parents q = some p)
    (hn : p.status.isTerminal = true) : s.Swept T (ps ++ [q]) now out₀ S out := by
  have hpS : Table.find? S.parents q = some p := (h.parents_out q hq).trans hp
  refine h.extend hq (fun d => ?_) (fun p' hp' => ?_) (fun _ _ => rfl) (TopsBut.of_tops rfl) rfl rfl ?_
  · rw [h.children d]
    cases hc : Table.find? s.children d with
    | none => rfl
    | some c =>
      by_cases hpar : c.parent = q
      · simp [sweeps_append, sweeps_of_not_mem (hpar ▸ hq : c.parent ∉ ps), hpar, hp, hn]
      · simp [sweeps_append, hpar]
  · rw [hp] at hp'
    cases hp'
    simp [Parent.AfterCancel, hn, hpS]
  · rw [h.outcome, listedBy_append_of_ended hp hn, listedBy_append_of_ended hp hn]

/-- A sweep carried over one more parent `q` that had not ended, from the children `cs` that the cancel of
`q`'s children left (as `Linked.exec_cancelChildren_eq` gives them) and from what became of `q` itself. The
outcome names `q` after its children when `q`'s own rule picks it. -/
theorem extend_running (h : s.Swept T ps now out₀ S out) (hl : s.Linked) (hq : q ∉ ps)
    (hp : Table.find? s.parents q = some p) (hn : p.status.isTerminal = false) {cs : List Child}
    (hcs : ∀ d, Table.find? cs d =
      (Table.find? S.children d).map fun c => if d ∈ S.childIds q then c.afterCancel now else c)
    {S' : Store} {out' : CancelOutcome} (hch : S'.children = cs)
    (hpq : p.AfterCancel ((s.childRecords q).map (·.afterCancel now)) now (Table.find? S'.parents q))
    (hpar : ∀ d, d ≠ q → Table.find? S'.parents d = Table.find? S.parents d)
    (htops : S.TopsBut T S') (hm : S'.marks = S.marks) (hcl : S'.childLists = S.childLists)
    (hout : out' = { out with
      cancelled := out.cancelled ++ (S.childIds q).filter (fun d => (Table.find? S.children d).any Child.cancellable) ++
        if p.cancellable then [q] else []
      inFlight := out.inFlight ++ (S.childIds q).filter (fun d => (Table.find? S.children d).any Child.inFlight) ++
        if p.inFlight then [q] else [] }) :
    s.Swept T (ps ++ [q]) now out₀ S' out' := by
  refine h.extend hq (fun d => ?_) (fun p' hp' => ?_) hpar htops hm hcl ?_
  · -- the children of `q` as its cancel leaves them, the others as the sweep so far left them
    rw [hch, hcs d, h.children d, h.childIds_eq]
    cases hc : Table.find? s.children d with
    | none => rfl
    | some c =>
      by_cases hpar : c.parent = q
      · obtain ⟨-, -, -, -, hd⟩ := hl.child_parent hc
        rw [hpar] at hd
        simp [sweeps_append, sweeps_of_not_mem (hpar ▸ hq : c.parent ∉ ps), hpar, hp, hn, hd]
      · have hd : d ∉ s.childIds q := fun hd => hpar (hl.parent_of_listed q d hd c hc)
        simp [sweeps_append, hpar, hd]
  · rw [hp] at hp'
    cases hp'
    exact hpq
  · -- `q`'s children are named by the rules the sweep names them by, read in the store it started from
    have hfilter : ∀ P : Child → Bool, (S.childIds q).filter (fun d => (Table.find? S.children d).any P) =
        (s.childIds q).filter (fun d => (Table.find? s.children d).any P) := fun P => by
      rw [h.childIds_eq]
      exact List.filter_congr fun d hd => by rw [h.find?_children_of_unswept hl hq d hd]
    rw [hout, h.outcome, listedBy_append hp hn, listedBy_append hp hn, hfilter, hfilter]
    simp [List.append_assoc]

/-- Cancelling one more parent `q` of `T` carries the sweep over it, unless its roll-up overflows. -/
theorem step (hl : s.Linked) (h : s.Swept T ps now out₀ S out) (hlS : S.Linked) (hq : q ∉ ps)
    (hp : Table.find? s.parents q = some p) (hT : p.top = T) :
    (∃ e, (exec (cancelParent q out now) S).1 = .error (.panic e)) ∨
      ∃ out', (exec (cancelParent q out now) S).1 = .ok out' ∧
        s.Swept T (ps ++ [q]) now out₀ (exec (cancelParent q out now) S).2 out' := by
  subst hT
  have hpS : Table.find? S.parents q = some p := (h.parents_out q hq).trans hp
  have hid : p.id = q := (Table.find?_eq_some hp).2
  cases hn : p.status.isTerminal
  case true =>
    rw [exec_cancelParent_of_ended out now hpS hn]
    exact .inr ⟨out, rfl, h.step_of_ended hq hp hn⟩
  case false =>
    obtain ⟨cs, hc, hcs⟩ := hlS.exec_cancelChildren_eq out now
      (fun d hd => by obtain ⟨c, hc, -⟩ := (hlS.listed q).2 d hd; exact ⟨c, hc⟩) (hlS.listed q).1
    have hp₁ : Table.find? ({ S with children := cs } : Store).parents q = some p := hpS
    cases hw : p.worker with
    | some w =>
      rw [exec_cancelParent_of_held out now hpS hn hc (by simp [hw])]
      refine .inr ⟨_, rfl, h.extend_running hl hq hp hn hcs rfl ?_ (fun _ _ => rfl) (TopsBut.of_tops rfl) rfl rfl
        ?_⟩
      · simp [Parent.AfterCancel, hw, hpS]
      · simp [Parent.cancellable, Parent.inFlight, hn, hw]
    | none =>
      by_cases ha : p.status = .inProgress
      · -- a parent in progress is not cancelled itself: it rolls up once its children have all ended
        rw [exec_cancelParent_of_active out now hpS hn hc hw ha]
        have hl₁ : ({ S with children := cs } : Store).Linked := hlS.of_exec (revises_cancelChildren _ out now) hc
        obtain ⟨hr, hch, hm, hpar, htops⟩ := hl₁.rollUpParent_frame hp₁ now
        rcases hr with hok | ⟨e, he⟩
        · rw [hok]
          refine .inr ⟨_, rfl, h.extend_running hl hq hp hn hcs hch ?_ hpar
            ((TopsBut.of_tops (show ({ S with children := cs } : Store).tops = S.tops from rfl)).trans htops) hm
            (revises_rollUpParent q now _).childLists ?_⟩
          · rw [← h.childRecords_after hl hq hcs]
            exact rollUpParent_afterCancel hp₁ hn hw ha now hok
          · simp [Parent.cancellable, Parent.inFlight, hw, ha]
        · rw [he]
          exact .inl ⟨e, rfl⟩
      · -- any other parent no worker holds is cancelled
        rw [exec_cancelParent_of_free out now hpS hn hc hw ha]
        refine .inr ⟨_, rfl, h.extend_running hl hq hp hn hcs rfl ?_
          (fun d hd => Table.find?_put_of_ne _ _ fun h => hd (h.symm.trans hid)) (TopsBut.of_tops rfl) rfl rfl ?_⟩
        · rw [Parent.AfterCancel, if_neg (by simp [hn, hw]), if_neg ha]
          exact Table.find?_put_eq hid
        · simp [Parent.cancellable, Parent.inFlight, hn, hw, ha]

/-- Cancelling parents of `T` one after another carries the sweep over all of them, unless a roll-up
overflows. -/
theorem fold (hl : s.Linked) {rest : List TaskId} (h : s.Swept T ps now out₀ S out) (hlS : S.Linked)
    (hnd : (ps ++ rest).Nodup) (hrest : ∀ q ∈ rest, ∃ p, Table.find? s.parents q = some p ∧ p.top = T) :
    (∃ e, (exec (rest.foldlM (fun out q => cancelParent q out now) out) S).1 = .error (.panic e)) ∨
      ∃ out', (exec (rest.foldlM (fun out q => cancelParent q out now) out) S).1 = .ok out' ∧
        s.Swept T (ps ++ rest) now out₀ (exec (rest.foldlM (fun out q => cancelParent q out now) out) S).2 out' := by
  induction rest generalizing ps S out with
  | nil => exact .inr ⟨out, rfl, by simpa using h⟩
  | cons q rest ih =>
    obtain ⟨p, hp, hT⟩ := hrest q List.mem_cons_self
    have hq : q ∉ ps := fun hq => (List.nodup_middle.1 hnd |> List.nodup_cons.1).1 (List.mem_append_left _ hq)
    rw [exec_foldlM_cons, exec_bind]
    rcases hstep : exec (cancelParent q out now) S with ⟨r, S₁⟩
    rcases step hl h hlS hq hp hT with ⟨e, he⟩ | ⟨out₁, hok, h₁⟩
    · rw [hstep] at he
      simp only at he
      subst he
      exact .inl ⟨e, rfl⟩
    · rw [hstep] at hok h₁
      simp only at hok h₁
      subst hok
      have hnd' : (ps ++ [q] ++ rest).Nodup := by simpa using hnd
      simpa using ih h₁ (hlS.of_exec (revises_cancelParent q out now) hstep) hnd'
        fun q' hq' => hrest q' (List.mem_cons_of_mem _ hq')

end Swept

end Sweep

/-! ## How often a cancel names a task -/

section Count

variable (hl : s.Linked) (child : Child → Bool) (parent : Parent → Bool) {d : TaskId}
include hl

/-- A child is named by the cancel of its own parent, if that parent had not ended and the rule picks it. -/
theorem Linked.count_listedAt_child {c : Child} (hc : Table.find? s.children d = some c) (q : TaskId) :
    (s.listedAt q child parent).count d =
      if c.parent = q ∧ (Table.find? s.parents q).any (!·.status.isTerminal) ∧ child c then 1 else 0 := by
  unfold listedAt
  cases hp : Table.find? s.parents q with
  | none => simp
  | some p =>
    cases hn : p.status.isTerminal
    · -- the child list names `d` once if it is a child of `q`, and `q` is no child
      have hdq : d ≠ q := by rintro rfl; rw [hl.children_none_of_parent hp] at hc; cases hc
      have hmem : d ∈ s.childIds q ↔ c.parent = q := by
        refine ⟨fun hd => hl.parent_of_listed q d hd c hc, fun hpar => ?_⟩
        obtain ⟨-, -, -, -, hd⟩ := hl.child_parent hc
        rwa [hpar] at hd
      have hz : (if parent p then [q] else []).count d = 0 := by split <;> simp [Ne.symm hdq]
      simp only [hn, Bool.false_eq_true, if_false, List.count_append, ((hl.listed q).1.filter _).count, hz]
      simp [hmem, hc, hn]
    · simp [hn]

/-- A parent is named by its own cancel, if it had not ended and the rule picks it. -/
theorem Linked.count_listedAt_parent {p : Parent} (hp : Table.find? s.parents d = some p) (q : TaskId) :
    (s.listedAt q child parent).count d = if q = d ∧ p.status.isTerminal = false ∧ parent p then 1 else 0 := by
  have hnot : ∀ q' (P : TaskId → Bool), ((s.childIds q').filter P).count d = 0 := fun q' P =>
    List.count_eq_zero_of_not_mem fun hd => by
      obtain ⟨c, hc, -⟩ := (hl.listed q').2 d (List.mem_of_mem_filter hd)
      rw [hl.children_none_of_parent hp] at hc
      cases hc
  unfold listedAt
  by_cases hq : q = d
  · subst hq
    rw [hp]
    cases hn : p.status.isTerminal <;> cases hpp : parent p <;> simp [hn, hpp, hnot]
  · cases hq' : Table.find? s.parents q with
    | none => simp [hq]
    | some p' =>
      cases hn : p'.status.isTerminal <;> cases hpp : parent p' <;> simp [hn, hpp, hnot, hq]

theorem Linked.count_listedBy_child {c : Child} (hc : Table.find? s.children d = some c) {ps : List TaskId}
    (hnd : ps.Nodup) : (s.listedBy ps child parent).count d = if s.sweeps ps c && child c then 1 else 0 := by
  induction ps with
  | nil => simp [listedBy, sweeps]
  | cons q ps ih =>
    obtain ⟨hq, hnd'⟩ := List.nodup_cons.1 hnd
    simp only [listedBy, List.flatMap_cons, List.count_append] at ih ⊢
    rw [ih hnd', hl.count_listedAt_child child parent hc q]
    by_cases hpq : c.parent = q
    · subst hpq
      simp [sweeps, hq]
    · simp [sweeps, hpq]

theorem Linked.count_listedBy_parent {p : Parent} (hp : Table.find? s.parents d = some p) {ps : List TaskId}
    (hnd : ps.Nodup) :
    (s.listedBy ps child parent).count d = if d ∈ ps ∧ p.status.isTerminal = false ∧ parent p then 1 else 0 := by
  induction ps with
  | nil => simp [listedBy]
  | cons q ps ih =>
    obtain ⟨hq, hnd'⟩ := List.nodup_cons.1 hnd
    simp only [listedBy, List.flatMap_cons, List.count_append] at ih ⊢
    rw [ih hnd', hl.count_listedAt_parent child parent hp q]
    by_cases hqd : q = d
    · subst hqd
      simp [hq]
    · simp [hqd, Ne.symm hqd]

end Count

/-! ## What an accepted cancel leaves -/

/-- Task `d` lies under task `x`: it is `x`, a parent or child of the transfer `x`, or a child of the parent `x`. -/
def Below (s : Store) (x d : TaskId) : Prop :=
  d = x ∨ (∃ p, Table.find? s.parents d = some p ∧ p.top = x) ∨
    ∃ c, Table.find? s.children d = some c ∧ (c.top = x ∨ c.parent = x)

/-- Task `d` is the transfer or the parent of task `x`. -/
def Above (s : Store) (x d : TaskId) : Prop :=
  (∃ p, Table.find? s.parents x = some p ∧ d = p.top) ∨
    ∃ c, Table.find? s.children x = some c ∧ (d = c.parent ∨ d = c.top)

/-- A cancel of `x` reaches task `d` under `x`, unless `d` is a child, other than `x`, of a parent that had
already ended. -/
def Reaches (s : Store) (x d : TaskId) : Prop :=
  s.Below x d ∧ (d = x ∨ ∀ c, Table.find? s.children d = some c → ∀ p, Table.find? s.parents c.parent = some p →
    p.status.isTerminal = false)

/-- What a cancel leaves of the tasks `R` it reaches, from the store `s` to the store `s'` with outcome `out`:
a task that had not ended and that no worker held is cancelled and named once as cancelled, but for a parent
in progress, which rolls up exactly when all its children ended; a held task is left as it was and named once
in flight. -/
structure Handled (s : Store) (R : TaskId → Prop) (now : Stamp) (out : CancelOutcome) (s' : Store) : Prop where
  child_cancelled : ∀ d c, R d → Table.find? s.children d = some c → c.status.isTerminal = false →
    c.worker = none → Table.find? s'.children d = some (c.cancelledAt now) ∧ out.cancelled.count d = 1
  parent_cancelled : ∀ d p, R d → Table.find? s.parents d = some p → p.status.isTerminal = false →
    p.worker = none → p.status ≠ .inProgress →
    Table.find? s'.parents d = some (p.cancelledAt now) ∧ out.cancelled.count d = 1
  parent_rolled : ∀ d p, R d → Table.find? s.parents d = some p → p.status = .inProgress →
    ((∀ c ∈ s'.childRecords d, c.status.isTerminal = true) → ∃ o b, o.isTerminal = true ∧
      Word.sum Word.max64 ((s'.childRecords d).map (·.bytes)) = .ok b ∧
      Table.find? s'.parents d = some (p.rolledUp o (s'.childRecords d) b now)) ∧
    ((∃ c ∈ s'.childRecords d, c.status.isTerminal = false) → Table.find? s'.parents d = some p)
  child_inFlight : ∀ d c, R d → Table.find? s.children d = some c → c.status.isTerminal = false →
    c.worker.isSome = true → Table.find? s'.children d = some c ∧ out.inFlight.count d = 1
  parent_inFlight : ∀ d p, R d → Table.find? s.parents d = some p → p.status.isTerminal = false →
    p.worker.isSome = true → Table.find? s'.parents d = some p ∧ out.inFlight.count d = 1

/-- What an accepted cancel of `x` leaves, from the store `s` to the store `s'` with outcome `out`: the tasks it
reaches as `Handled` says, everything under `x` cancel-requested, and every task but those under `x` and those
above it as it was. -/
structure CancelDone (s : Store) (x : TaskId) (now : Stamp) (out : CancelOutcome) (s' : Store) : Prop
    extends s.Handled (s.Reaches x) now out s' where
  requested : ∀ d, s.Below x d → (exec (isCancelRequested d) s').1 = .ok true
  frame : ∀ d, ¬ s.Below x d → ¬ s.Above x d → Table.find? s'.tops d = Table.find? s.tops d ∧
    Table.find? s'.parents d = Table.find? s.parents d ∧ Table.find? s'.children d = Table.find? s.children d

/-- Handling read from another store with the same parents and children, for fewer tasks. -/
theorem Handled.of_base {b : Store} {R R' : TaskId → Prop} {now : Stamp} {out : CancelOutcome}
    (h : b.Handled R now out s') (hp : b.parents = s.parents) (hc : b.children = s.children)
    (hR : ∀ d, R' d → R d) : s.Handled R' now out s' where
  child_cancelled d c hd := hc ▸ h.child_cancelled d c (hR d hd)
  parent_cancelled d p hd := hp ▸ h.parent_cancelled d p (hR d hd)
  parent_rolled d p hd := hp ▸ h.parent_rolled d p (hR d hd)
  child_inFlight d c hd := hc ▸ h.child_inFlight d c (hR d hd)
  parent_inFlight d p hd := hp ▸ h.parent_inFlight d p (hR d hd)

/-! ## Reading a sweep off -/

section Done

variable {b S : Store} {T : TaskId} {ps : List TaskId} {now : Stamp} {out₀ out : CancelOutcome}

/-- The children of a parent the sweep reached are as it leaves them. -/
theorem Swept.childRecords_eq (hl : b.Linked) (h : b.Swept T ps now out₀ S out) {q : TaskId} (hq : q ∈ ps)
    {p : Parent} (hp : Table.find? b.parents q = some p) (hn : p.status.isTerminal = false) :
    S.childRecords q = (b.childRecords q).map (·.afterCancel now) := by
  show (S.childIds q).filterMap (Table.find? S.children) =
    ((b.childIds q).filterMap (Table.find? b.children)).map (·.afterCancel now)
  rw [show S.childIds q = b.childIds q by simp only [childIds, h.childLists], List.map_filterMap]
  refine List.filterMap_congr fun d hd => ?_
  rw [h.children d]
  cases hc : Table.find? b.children d with
  | none => rfl
  | some c =>
    have hpar := hl.parent_of_listed q d hd c hc
    simp [sweeps, hpar, hq, hp, hn]

/-- A sweep handles every child it reaches and every parent of its list, in any store that differs from where
it ended in transfers and marks only. -/
theorem Swept.handled (hl : b.Linked) (hip : ∀ d p, Table.find? b.parents d = some p → p.status = .inProgress →
      p.worker = none) (h : b.Swept T ps now out₀ S out) (hnd : ps.Nodup) (hc₀ : out₀.cancelled = [])
    (hf₀ : out₀.inFlight = []) {s' : Store} (hps : s'.parents = S.parents) (hcs : s'.children = S.children)
    (hcl : s'.childLists = S.childLists) :
    b.Handled (fun d => (∀ c, Table.find? b.children d = some c → b.sweeps ps c = true) ∧
      ∀ p, Table.find? b.parents d = some p → d ∈ ps) now out s' where
  child_cancelled d c hd hc hn hw := by
    have hcan : c.cancellable = true := by simp [Child.cancellable, hn, hw]
    refine ⟨?_, ?_⟩
    · rw [hcs, h.children d, hc]
      simp [hd.1 c hc, Child.afterCancel_of_cancellable hcan]
    · rw [h.outcome]
      simp [hc₀, hl.count_listedBy_child _ _ hc hnd, hd.1 c hc, hcan]
  parent_cancelled d p hd hp hn hw ha := by
    have hf := h.parents_in d (hd.2 p hp) p hp
    rw [Parent.AfterCancel, if_neg (by simp [hn, hw]), if_neg ha] at hf
    refine ⟨hps ▸ hf, ?_⟩
    rw [h.outcome]
    simp [hc₀, hl.count_listedBy_parent _ _ hp hnd, hd.2 p hp, hn, Parent.cancellable, hw, ha]
  parent_rolled d p hd hp ha := by
    have hw := hip d p hp ha
    have hn : p.status.isTerminal = false := by rw [ha]; rfl
    have hrec : s'.childRecords d = (b.childRecords d).map (·.afterCancel now) := by
      rw [← h.childRecords_eq hl (hd.2 p hp) hp hn]
      simp only [childRecords, childIds, hcs, hcl]
    have hf := h.parents_in d (hd.2 p hp) p hp
    rw [Parent.AfterCancel, if_neg (by simp [hn, hw]), if_pos ha] at hf
    rw [hrec, hps]
    rcases hf with ⟨hall, o, b, ho, hb, hr⟩ | ⟨⟨c, hc, hct⟩, hr⟩
    · refine ⟨fun _ => ⟨o, b, ho, hb, hr⟩, fun hex => ?_⟩
      obtain ⟨c, hc, hct⟩ := hex
      simp [hall c hc] at hct
    · exact ⟨fun hall => by simp [hall c hc] at hct, fun _ => hr⟩
  child_inFlight d c hd hc hn hw := by
    have hcan : c.cancellable = false := by simp [Child.cancellable, hw]
    refine ⟨?_, ?_⟩
    · rw [hcs, h.children d, hc]
      simp [Child.afterCancel_of_not hcan]
    · rw [h.outcome]
      simp [hf₀, hl.count_listedBy_child _ _ hc hnd, hd.1 c hc, Child.inFlight, hn, hw]
  parent_inFlight d p hd hp hn hw := by
    have hf := h.parents_in d (hd.2 p hp) p hp
    rw [Parent.AfterCancel, if_pos (by simp [hw])] at hf
    refine ⟨hps ▸ hf, ?_⟩
    rw [h.outcome]
    simp [hf₀, hl.count_listedBy_parent _ _ hp hnd, hd.2 p hp, hn, Parent.inFlight, hw]

/-- A sweep over the parents `ps` of `T`, run from a store `b` that has the tasks of `s`, and followed by a
refresh of `T`, leaves what an accepted cancel of `x` leaves, when the sweep fits `x`: it reaches every task
that `x` reaches, every task under `x` then reads as cancel-requested, and a task neither under nor above
`x` is not `T`, has the transfer record it has in `s`, is no parent the sweep cancels and is no child it
reaches. -/
theorem Swept.cancelDone {s : Store} {x : TaskId} (hl : b.Linked)
    (hip : ∀ d p, Table.find? b.parents d = some p → p.status = .inProgress → p.worker = none)
    (h : b.Swept T ps now out₀ S out) (hnd : ps.Nodup) (hc₀ : out₀.cancelled = []) (hf₀ : out₀.inFlight = [])
    (hbp : b.parents = s.parents) (hbc : b.children = s.children)
    (hreach : ∀ d, s.Reaches x d →
      (∀ c, Table.find? s.children d = some c → b.sweeps ps c = true) ∧ ∀ p, Table.find? s.parents d = some p → d ∈ ps)
    (hreq : ∀ d, s.Below x d → (exec (isCancelRequested d) (exec (refreshTop T now) S).2).1 = .ok true)
    (hout : ∀ d, ¬ s.Below x d → ¬ s.Above x d → d ≠ T ∧ Table.find? b.tops d = Table.find? s.tops d ∧ d ∉ ps ∧
      ∀ c, Table.find? s.children d = some c → b.sweeps ps c = false) :
    s.CancelDone x now out (exec (refreshTop T now) S).2 := by
  obtain ⟨ts, hts⟩ := refreshTop_frame (s := S) T now
  have htops : S.TopsBut T (exec (refreshTop T now) S).2 := TopsBut.refresh T now
  refine ⟨(h.handled hl hip hnd hc₀ hf₀ (by rw [hts]) (by rw [hts]) (by rw [hts])).of_base hbp hbc
    fun d hd => hbp ▸ hbc ▸ hreach d hd, hreq, fun d hb ha => ?_⟩
  obtain ⟨hdT, htop, hps, hch⟩ := hout d hb ha
  refine ⟨?_, ?_, ?_⟩
  · rw [htops.others d hdT, h.tops.others d hdT, htop]
  · rw [hts, ← hbp]
    exact h.parents_out d hps
  · rw [hts]
    show Table.find? S.children d = _
    rw [h.children d, hbc]
    cases hc : Table.find? s.children d with
    | none => rfl
    | some c => simp [hch c hc]

end Done

/-! ## Reading a cancel mark after a cancel -/

section Marks

variable {d : TaskId}

theorem Revised.isCancelRequested_top (hrev : Revised s s') {t : Top} (ht : Table.find? s.tops d = some t) :
    (exec (isCancelRequested d) s').1 = .ok (s'.topCancelled d) := by
  obtain ⟨t', ht'⟩ := Table.exists_find?_of_keys hrev.top_ids ht
  rw [exec_isCancelRequested_of_top ht']
  simp [topCancelled, ht']

theorem Revised.isCancelRequested_parent (hl : s.Linked) (hrev : Revised s s') {p : Parent}
    (hp : Table.find? s.parents d = some p) :
    (exec (isCancelRequested d) s').1 = .ok (s'.marks.contains d || s'.topCancelled p.top) := by
  obtain ⟨p', hp', htop, -⟩ := hrev.exists_parent hp
  have hid : p'.id = d := (Table.find?_eq_some hp').2
  rw [exec_isCancelRequested_of_parent ((hl.revised hrev).tops_none_of_parent hp') hp', hid, htop]
  simp

theorem Revised.isCancelRequested_child (hl : s.Linked) (hrev : Revised s s') {c : Child}
    (hc : Table.find? s.children d = some c) :
    (exec (isCancelRequested d) s').1 = .ok (s'.marks.contains d || s'.marks.contains c.parent || s'.topCancelled c.top) := by
  obtain ⟨c', hc', hpar, htop, -⟩ := hrev.exists_child hc
  have hl' := hl.revised hrev
  rw [exec_isCancelRequested_of_child (hl'.tops_none_of_child hc') (hl'.parents_none_of_child hc') hc', hpar, htop]

end Marks

/-! ## What lies under a task -/

section Under

variable (hl : s.Linked) {x d : TaskId}
include hl

/-- Under a transfer lie the transfer, its parents, and the children of its parents. -/
theorem Linked.below_top {t : Top} (ht : Table.find? s.tops x = some t) (h : s.Below x d) :
    d = x ∨ (∃ p, Table.find? s.parents d = some p ∧ p.top = x ∧ d ∈ t.parents) ∨
      ∃ c, Table.find? s.children d = some c ∧ c.top = x ∧ c.parent ∈ t.parents := by
  rcases h with rfl | ⟨p, hp, htop⟩ | ⟨c, hc, htop | hpar⟩
  · exact .inl rfl
  · obtain ⟨t', ht', hd⟩ := hl.parent_top hp
    rw [htop, ht] at ht'
    cases ht'
    exact .inr (.inl ⟨p, hp, htop, hd⟩)
  · obtain ⟨p, hp, -, hct, -⟩ := hl.child_parent hc
    obtain ⟨t', ht', hd⟩ := hl.parent_top hp
    rw [← hct, htop, ht] at ht'
    cases ht'
    exact .inr (.inr ⟨c, hc, htop, hd⟩)
  · obtain ⟨p, hp, -⟩ := hl.child_parent hc
    rw [hpar, hl.parents_none_of_top ht] at hp
    cases hp

/-- Under a parent lie the parent and its children. -/
theorem Linked.below_parent {p : Parent} (hp : Table.find? s.parents x = some p) (h : s.Below x d) :
    d = x ∨ ∃ c, Table.find? s.children d = some c ∧ c.parent = x := by
  have hx := hl.tops_none_of_parent hp
  rcases h with rfl | ⟨q, hq, htop⟩ | ⟨c, hc, htop | hpar⟩
  · exact .inl rfl
  · obtain ⟨t, ht, -⟩ := hl.parent_top hq
    rw [htop, hx] at ht
    cases ht
  · obtain ⟨q, hq, -, hct, -⟩ := hl.child_parent hc
    obtain ⟨t, ht, -⟩ := hl.parent_top hq
    rw [← hct, htop, hx] at ht
    cases ht
  · exact .inr ⟨c, hc, hpar⟩

/-- Under a child lies the child alone. -/
theorem Linked.below_child {c : Child} (hc : Table.find? s.children x = some c) (h : s.Below x d) : d = x := by
  have hx := hl.tops_none_of_child hc
  rcases h with rfl | ⟨q, hq, htop⟩ | ⟨c', hc', htop | hpar⟩
  · rfl
  · obtain ⟨t, ht, -⟩ := hl.parent_top hq
    rw [htop, hx] at ht
    cases ht
  · obtain ⟨q, hq, -, hct, -⟩ := hl.child_parent hc'
    obtain ⟨t, ht, -⟩ := hl.parent_top hq
    rw [← hct, htop, hx] at ht
    cases ht
  · obtain ⟨q, hq, -⟩ := hl.child_parent hc'
    rw [hpar, hl.parents_none_of_child hc] at hq
    cases hq

end Under

/-! ## The programs of a cancel -/

/-- Cancelling the parents `ps` of `T` one after another and then refreshing `T` ends as the sweep says,
unless a roll-up overflows. -/
theorem Swept.run {b : Store} {T : TaskId} {ps : List TaskId} (hl : b.Linked) (hnd : ps.Nodup)
    (hps : ∀ q ∈ ps, ∃ p, Table.find? b.parents q = some p ∧ p.top = T) {t : Top}
    (ht : Table.find? b.tops T = some t) (out₀ : CancelOutcome) (now : Stamp) :
    (∃ e, (exec (ps.foldlM (fun out q => cancelParent q out now) out₀ >>= fun out =>
      refreshTop T now >>= fun _ => pure out) b).1 = .error (.panic e)) ∨
    ∃ out S, b.Swept T ps now out₀ S out ∧
      exec (ps.foldlM (fun out q => cancelParent q out now) out₀ >>= fun out =>
        refreshTop T now >>= fun _ => pure out) b = (.ok out, (exec (refreshTop T now) S).2) := by
  rw [exec_bind]
  rcases hf : exec (ps.foldlM (fun out q => cancelParent q out now) out₀) b with ⟨r, S⟩
  have hrev : Revised b S := (Revises.foldlM (fun out q => revises_cancelParent q out now) ps out₀).revised hf
  have hfold := Swept.fold hl (Swept.init b T now out₀) hl (by simpa using hnd) hps
  rw [hf] at hfold
  rcases hfold with ⟨e, he⟩ | ⟨out, hok, hsw⟩
  · simp only at he
    subst he
    exact .inl ⟨e, rfl⟩
  · simp only [List.nil_append] at hok hsw
    subst hok
    obtain ⟨t', ht'⟩ := Table.exists_find?_of_keys hrev.top_ids ht
    have hr : exec (refreshTop T now) S = (.ok (), (exec (refreshTop T now) S).2) :=
      Prod.ext (by rw [exec_refreshTop_of_find ht']) rfl
    exact .inr ⟨out, S, hsw, exec_bind_of_ok S hr fun _ => pure out⟩

/-! ## The three cancels -/

/-- A mark on `x` is read back. -/
theorem contains_mark (ms : List TaskId) (x : TaskId) :
    (if ms.contains x then ms else ms ++ [x]).contains x = true := by
  split <;> simp_all

section Cases

variable (hl : s.Linked) (now : Stamp) {x : TaskId}
include hl

/-- A cancel of a running transfer ends as `CancelDone` says, unless a roll-up overflows. -/
theorem Linked.requestCancel_top
    (hip : ∀ d p, Table.find? s.parents d = some p → p.status = .inProgress → p.worker = none) {t : Top}
    (ht : Table.find? s.tops x = some t) (hn : t.status.isTerminal = false) :
    (∃ e, (exec (requestCancel x now) s).1 = .error (.panic e)) ∨
      ∃ out, (exec (requestCancel x now) s).1 = .ok out ∧ out.accepted = true ∧
        s.CancelDone x now out (exec (requestCancel x now) s).2 := by
  have hid : t.id = x := (Table.find?_eq_some ht).2
  have hl₀ : ({ s with tops := Table.put s.tops { t with cancelRequested := true } } : Store).Linked :=
    hl.revised (Revised.putTop (t := t)
      (Table.find?_self ht : Table.find? s.tops ({ t with cancelRequested := true } : Top).id = some t) rfl)
  have ht₀ : Table.find? (Table.put s.tops { t with cancelRequested := true }) x =
      some { t with cancelRequested := true } := Table.find?_put_eq hid
  obtain ⟨hnd, hps⟩ := hl.top_parents ht
  rcases Swept.run hl₀ hnd hps ht₀ ⟨x, t.tenant, true, [], []⟩ now with he | ⟨out, S, hsw, heq⟩
  · rw [exec_requestCancel_of_top ht hn]
    exact .inl he
  have hexec := (exec_requestCancel_of_top ht hn).trans heq
  have hrev : Revised s (exec (refreshTop x now) S).2 := (revises_requestCancel x now).revised hexec
  have htops : S.TopsBut x (exec (refreshTop x now) S).2 := TopsBut.refresh x now
  have hflag : (exec (refreshTop x now) S).2.topCancelled x = true := by
    rw [htops.flags, hsw.tops.flags]
    simp [topCancelled, ht₀]
  rw [hexec]
  refine .inr ⟨out, rfl, by rw [hsw.outcome], hsw.cancelDone hl₀ hip hnd rfl rfl rfl rfl (fun d hd => ?_)
    (fun d hb => ?_) (fun d hb ha => ?_)⟩
  · -- the sweep reaches every parent of `x`, and every child of one that had not ended
    obtain ⟨hb, hr⟩ := hd
    show (∀ c, Table.find? s.children d = some c → s.sweeps t.parents c = true) ∧
      ∀ p, Table.find? s.parents d = some p → d ∈ t.parents
    rcases hl.below_top ht hb with rfl | ⟨p, hp, -, hd⟩ | ⟨c, hc, -, hcp⟩
    · refine ⟨fun c hc => ?_, fun p hp => ?_⟩
      · rw [hl.children_none_of_top ht] at hc
        cases hc
      · rw [hl.parents_none_of_top ht] at hp
        cases hp
    · refine ⟨fun c hc => ?_, fun _ _ => hd⟩
      rw [hl.children_none_of_parent hp] at hc
      cases hc
    · refine ⟨fun c' hc' => ?_, fun p hp => ?_⟩
      · rw [hc] at hc'
        cases hc'
        obtain ⟨p, hp, -⟩ := hl.child_parent hc
        have hdx : d ≠ x := by
          rintro rfl
          rw [hl.children_none_of_top ht] at hc
          cases hc
        simp [sweeps, hcp, hp, hr.resolve_left hdx c hc p hp]
      · rw [hl.parents_none_of_child hc] at hp
        cases hp
  · rcases hl.below_top ht hb with rfl | ⟨p, hp, htop, -⟩ | ⟨c, hc, htop, -⟩
    · rw [hrev.isCancelRequested_top ht, hflag]
    · rw [hrev.isCancelRequested_parent hl hp, htop, hflag, Bool.or_true]
    · rw [hrev.isCancelRequested_child hl hc, htop, hflag, Bool.or_true]
  · have hdx : d ≠ x := fun h => hb (.inl h)
    refine ⟨hdx, Table.find?_put_of_ne _ _ fun h => hdx (h.symm.trans hid), fun hd => ?_, fun c hc => ?_⟩
    · obtain ⟨p, hp, htop⟩ := hps d hd
      exact hb (.inr (.inl ⟨p, hp, htop⟩))
    · -- a child the sweep reaches belongs to `x`, so lies under it
      show s.sweeps t.parents c = false
      cases hs : s.sweeps t.parents c
      · rfl
      · have hcp : c.parent ∈ t.parents := by simp only [sweeps, Bool.and_eq_true] at hs; simpa using hs.1
        obtain ⟨p, hp, htop⟩ := hps c.parent hcp
        obtain ⟨p', hp', -, hct, -⟩ := hl.child_parent hc
        rw [hp] at hp'
        cases hp'
        exact absurd (.inr (.inr ⟨c, hc, .inl (hct.trans htop)⟩)) hb

/-- A cancel of a running parent of a running transfer ends as `CancelDone` says, unless its roll-up overflows. -/
theorem Linked.requestCancel_parent
    (hip : ∀ d p, Table.find? s.parents d = some p → p.status = .inProgress → p.worker = none) {p : Parent}
    {t : Top} (h0 : Table.find? s.tops x = none) (hp : Table.find? s.parents x = some p)
    (ht : Table.find? s.tops p.top = some t) (hn : p.status.isTerminal = false) (htn : t.status.isTerminal = false) :
    (∃ e, (exec (requestCancel x now) s).1 = .error (.panic e)) ∨
      ∃ out, (exec (requestCancel x now) s).1 = .ok out ∧ out.accepted = true ∧
        s.CancelDone x now out (exec (requestCancel x now) s).2 := by
  let s₁ : Store := { s with marks := if s.marks.contains x then s.marks else s.marks ++ [x] }
  have hl₁ : s₁.Linked := hl.revised (Revised.of_marks s _)
  have hone : [x].foldlM (fun out q => cancelParent q out now) ⟨p.top, t.tenant, true, [], []⟩ =
      cancelParent x ⟨p.top, t.tenant, true, [], []⟩ now := by
    simp
  have hexec₀ : exec (requestCancel x now) s =
      exec ([x].foldlM (fun out q => cancelParent q out now) ⟨p.top, t.tenant, true, [], []⟩ >>= fun out =>
        refreshTop p.top now >>= fun _ => pure out) s₁ := by
    rw [exec_requestCancel_of_parent h0 hp ht hn htn, exec_bind_of_ok s (exec_mark s x), hone]
  rcases Swept.run hl₁ (List.nodup_singleton x) (fun q hq => ⟨p, by rw [List.mem_singleton.1 hq]; exact hp, rfl⟩)
    ht ⟨p.top, t.tenant, true, [], []⟩ now with he | ⟨out, S, hsw, heq⟩
  · rw [hexec₀]
    exact .inl he
  have hexec := hexec₀.trans heq
  have hrev : Revised s (exec (refreshTop p.top now) S).2 := (revises_requestCancel x now).revised hexec
  obtain ⟨ts, hts⟩ := refreshTop_frame (s := S) p.top now
  have hmark : (exec (refreshTop p.top now) S).2.marks.contains x = true := by
    rw [hts]
    show S.marks.contains x = true
    rw [hsw.marks]
    exact contains_mark s.marks x
  rw [hexec]
  refine .inr ⟨out, rfl, by rw [hsw.outcome], hsw.cancelDone hl₁ hip (List.nodup_singleton x) rfl rfl rfl rfl
    (fun d hd => ?_) (fun d hb => ?_) (fun d hb ha => ?_)⟩
  · -- the sweep reaches the parent and its children
    show (∀ c, Table.find? s.children d = some c → s.sweeps [x] c = true) ∧
      ∀ q, Table.find? s.parents d = some q → d ∈ [x]
    rcases hl.below_parent hp hd.1 with rfl | ⟨c, hc, hpar⟩
    · refine ⟨fun c hc => ?_, fun _ _ => List.mem_singleton_self _⟩
      rw [hl.children_none_of_parent hp] at hc
      cases hc
    · refine ⟨fun c' hc' => ?_, fun q hq => ?_⟩
      · rw [hc] at hc'
        cases hc'
        simp [sweeps, hpar, hp, hn]
      · rw [hl.parents_none_of_child hc] at hq
        cases hq
  · rcases hl.below_parent hp hb with rfl | ⟨c, hc, hpar⟩
    · rw [hrev.isCancelRequested_parent hl hp, hmark, Bool.true_or]
    · rw [hrev.isCancelRequested_child hl hc, hpar, hmark, Bool.or_true, Bool.true_or]
  · have hdx : d ≠ x := fun h => hb (.inl h)
    refine ⟨fun h => ha (.inl ⟨p, hp, h⟩), rfl, by simpa using hdx, fun c hc => ?_⟩
    have hpar : c.parent ≠ x := fun h => hb (.inr (.inr ⟨c, hc, .inr h⟩))
    simp [sweeps, hpar]

/-- A cancel of a child reaches that child alone: it leaves the child as `Child.afterCancel` says, and the outcome
names it as cancelled or in flight, as the child was. -/
theorem Linked.handled_child {c : Child} {s' : Store} {out : CancelOutcome} (hc : Table.find? s.children x = some c)
    (hcx : Table.find? s'.children x = some (c.afterCancel now))
    (hcan : out.cancelled = if c.cancellable then [x] else []) (hfl : out.inFlight = if c.inFlight then [x] else []) :
    s.Handled (s.Reaches x) now out s' := by
  have hnp : ∀ d p, s.Reaches x d → Table.find? s.parents d = some p → False := fun d p hd hp => by
    obtain rfl := hl.below_child hc hd.1
    rw [hl.parents_none_of_child hc] at hp
    cases hp
  refine ⟨fun d c' hd hc' hn hw => ?_, fun d p hd hp => (hnp d p hd hp).elim, fun d p hd hp => (hnp d p hd hp).elim,
    fun d c' hd hc' hn hw => ?_, fun d p hd hp => (hnp d p hd hp).elim⟩
  · obtain rfl := hl.below_child hc hd.1
    rw [hc] at hc'
    cases hc'
    have hcan' : c.cancellable = true := by simp [Child.cancellable, hn, hw]
    rw [hcx, Child.afterCancel_of_cancellable hcan', hcan, if_pos hcan']
    simp
  · obtain rfl := hl.below_child hc hd.1
    rw [hc] at hc'
    cases hc'
    have hcan' : c.cancellable = false := by simp [Child.cancellable, hw]
    have hfl' : c.inFlight = true := by simp [Child.inFlight, hn, hw]
    rw [hcx, Child.afterCancel_of_not hcan', hfl, if_pos hfl']
    simp

/-- A cancel of a running child of a running transfer ends as `CancelDone` says, unless its parent's roll-up
overflows. -/
theorem Linked.requestCancel_child {c : Child} {t : Top} (h0 : Table.find? s.tops x = none)
    (h1 : Table.find? s.parents x = none) (hc : Table.find? s.children x = some c)
    (ht : Table.find? s.tops c.top = some t) (hn : c.status.isTerminal = false) (htn : t.status.isTerminal = false) :
    (∃ e, (exec (requestCancel x now) s).1 = .error (.panic e)) ∨
      ∃ out, (exec (requestCancel x now) s).1 = .ok out ∧ out.accepted = true ∧
        s.CancelDone x now out (exec (requestCancel x now) s).2 := by
  let s₁ : Store := { s with marks := if s.marks.contains x then s.marks else s.marks ++ [x] }
  have hl₁ : s₁.Linked := hl.revised (Revised.of_marks s _)
  obtain ⟨cs, h₁, hcs⟩ := hl₁.exec_cancelChild_eq ⟨c.top, t.tenant, true, [], []⟩ now
    (hc : Table.find? s₁.children x = some c)
  let S₁ : Store := { s₁ with children := cs }
  have hl₂ : S₁.Linked := hl₁.of_exec (revises_cancelChild x _ now) h₁
  have hc₁ : Table.find? S₁.children x = some (c.afterCancel now) := by
    show Table.find? cs x = _
    rw [hcs, if_pos rfl]
  obtain ⟨p, hp, -, hct, -⟩ := hl.child_parent hc
  obtain ⟨hr, hch, hmk, hpar, htopsR⟩ := hl₂.rollUpParent_frame (hp : Table.find? S₁.parents c.parent = some p) now
  rw [exec_requestCancel_of_child h0 h1 hc ht hn htn, exec_bind_of_ok s (exec_mark s x), exec_bind_of_ok _ h₁,
    exec_bind_of_ok _ (exec_child_of_find hc₁), Child.afterCancel_parent]
  rcases hr with hok | ⟨e, he⟩
  case inr =>
    rw [exec_bind_of_error _ (Prod.ext he rfl)]
    exact .inl ⟨e, rfl⟩
  let S₂ := (exec (rollUpParent c.parent now) S₁).2
  have hrev₂ : Revised s S₂ :=
    ((Revised.of_marks s _).trans ((revises_cancelChild x _ now).revised h₁)).trans
      (revises_rollUpParent c.parent now S₁)
  obtain ⟨t', ht'⟩ := Table.exists_find?_of_keys hrev₂.top_ids ht
  have hr : exec (refreshTop c.top now) S₂ = (.ok (), (exec (refreshTop c.top now) S₂).2) :=
    Prod.ext (by rw [exec_refreshTop_of_find ht']) rfl
  rw [exec_bind_of_ok _ (Prod.ext hok rfl), exec_bind_of_ok _ hr, exec_pure]
  dsimp only
  have hrev : Revised s (exec (refreshTop c.top now) S₂).2 := hrev₂.trans (revises_refreshTop c.top now S₂)
  obtain ⟨ts, hts⟩ := refreshTop_frame (s := S₂) c.top now
  have htops : S₂.TopsBut c.top (exec (refreshTop c.top now) S₂).2 := TopsBut.refresh c.top now
  have hcx : Table.find? (exec (refreshTop c.top now) S₂).2.children x = some (c.afterCancel now) := by
    rw [hts]
    show Table.find? S₂.children x = _
    rw [hch]
    exact hc₁
  refine .inr ⟨_, rfl, rfl, hl.handled_child now hc hcx rfl rfl, fun d hb => ?_, fun d hb ha => ?_⟩
  · obtain rfl := hl.below_child hc hb
    have hmark : (exec (refreshTop c.top now) S₂).2.marks.contains d = true := by
      rw [hts]
      show S₂.marks.contains d = true
      rw [hmk]
      exact contains_mark s.marks d
    rw [hrev.isCancelRequested_child hl hc, hmark, Bool.true_or, Bool.true_or]
  · have hdx : d ≠ x := fun h => hb (.inl h)
    have hdp : d ≠ c.parent := fun h => ha (.inr ⟨c, hc, .inl h⟩)
    have hdT : d ≠ c.top := fun h => ha (.inr ⟨c, hc, .inr h⟩)
    refine ⟨?_, ?_, ?_⟩
    · rw [htops.others d hdT, htopsR.others d (hct ▸ hdT)]
    · rw [hts]
      exact hpar d hdp
    · rw [hts]
      show Table.find? S₂.children d = _
      rw [hch]
      show Table.find? cs d = _
      rw [hcs, if_neg hdx]

end Cases

end Store

/-- **What a cancel request does.** In a reachable store, a cancel of a recorded task `x` of transfer `T` is
refused and writes nothing when `x` or `T` has ended. Otherwise it is accepted and ends as `CancelDone` says:
the tasks it reaches cancelled, rolled up or reported in flight, named once each, everything under `x`
cancel-requested, and no task written but those under `x` and above it. Its one way of stopping short is the
overflow of a roll-up's byte sum. -/
theorem Reachable.requestCancel_spec {s : Store} (h : Reachable s) {x T : TaskId} {ended : Bool}
    (hx : s.locate x = some (T, ended)) (now : Stamp) :
    ∃ t, Table.find? s.tops T = some t ∧
      ((ended || t.status.isTerminal) = true →
        Store.exec (Store.requestCancel x now) s = (.ok ⟨T, t.tenant, false, [], []⟩, s)) ∧
      ((ended || t.status.isTerminal) = false →
        (∃ e, (Store.exec (Store.requestCancel x now) s).1 = .error (.panic e)) ∨
        ∃ out, (Store.exec (Store.requestCancel x now) s).1 = .ok out ∧ out.accepted = true ∧
          s.CancelDone x now out (Store.exec (Store.requestCancel x now) s).2) := by
  have hl := h.linked
  have hpl := h.flowing.placed
  have hip : ∀ d p, Table.find? s.parents d = some p → p.status = .inProgress → p.worker = none :=
    fun d p hp ha => Kind.Placed.eq_none_of_inProgress (ha ▸ hpl.parents p (Table.find?_eq_some hp).1)
  have hloc := hx
  cases h0 : Table.find? s.tops x with
  | some t =>
    simp only [Store.locate, h0, Option.some.injEq, Prod.mk.injEq] at hx
    obtain ⟨rfl, rfl⟩ := hx
    have ht : Table.find? s.tops t.id = some t := Table.find?_self h0
    refine ⟨t, ht, fun he => Store.exec_requestCancel_of_ended hloc ht he, fun he => ?_⟩
    exact hl.requestCancel_top now hip h0 (by simpa using he)
  | none =>
    cases h1 : Table.find? s.parents x with
    | some p =>
      simp only [Store.locate, h0, h1, Option.some.injEq, Prod.mk.injEq] at hx
      obtain ⟨rfl, rfl⟩ := hx
      obtain ⟨t, ht, -⟩ := hl.parent_top h1
      refine ⟨t, ht, fun he => Store.exec_requestCancel_of_ended hloc ht he, fun he => ?_⟩
      obtain ⟨hn, htn⟩ : p.status.isTerminal = false ∧ t.status.isTerminal = false := by simpa using he
      exact hl.requestCancel_parent now hip h0 h1 ht hn htn
    | none =>
      cases h2 : Table.find? s.children x with
      | some c =>
        simp only [Store.locate, h0, h1, h2, Option.some.injEq, Prod.mk.injEq] at hx
        obtain ⟨rfl, rfl⟩ := hx
        obtain ⟨p, hp, -, hct, -⟩ := hl.child_parent h2
        obtain ⟨t, ht, -⟩ := hl.parent_top hp
        rw [← hct] at ht
        refine ⟨t, ht, fun he => Store.exec_requestCancel_of_ended hloc ht he, fun he => ?_⟩
        obtain ⟨hn, htn⟩ : c.status.isTerminal = false ∧ t.status.isTerminal = false := by simpa using he
        exact hl.requestCancel_child now h0 h1 h2 ht hn htn
      | none => simp [Store.locate, h0, h1, h2] at hx

/-- A cancel of a transfer whose one parent no worker holds is accepted; it cancels the parent and leaves
the store as `CancelDone` says. -/
theorem transfer_cancel_done :
    let t₀ : Top := Top.fresh ⟨⟨1⟩⟩ "ta" "alice" none 0
    let s := (Store.exec (Call.createTransfer t₀ [Parent.fresh ⟨⟨2⟩⟩ t₀ "mem://src/a" "mem://dst/a" false 0]).run
      {}).2
    Reachable s ∧ s.locate t₀.id = some (t₀.id, false) ∧
      ∃ out, (Store.exec (Store.requestCancel t₀.id 5) s).1 = .ok out ∧ out.cancelled = [⟨⟨2⟩⟩] ∧
        s.CancelDone t₀.id 5 out (Store.exec (Store.requestCancel t₀.id 5) s).2 := by
  intro t₀ s
  have hadm : ({} : Store).Admits t₀ [Parent.fresh ⟨⟨2⟩⟩ t₀ "mem://src/a" "mem://dst/a" false 0] :=
    Store.admits_empty ⟨_, _, _, _, rfl⟩ (fun p hp => by rw [List.mem_singleton.1 hp]; exact ⟨_, _, _, _, rfl⟩)
      (by decide) (by decide)
  have hr : Reachable s := .call _ .empty hadm
  have hloc : s.locate t₀.id = some (t₀.id, false) := by decide
  obtain ⟨t, ht, -, hrun⟩ := Reachable.requestCancel_spec hr hloc 5
  have hrec : Table.find? s.tops t₀.id = some { t₀ with parents := [⟨⟨2⟩⟩] } := by decide
  rw [hrec, Option.some.injEq] at ht
  subst ht
  have hres : (Store.exec (Store.requestCancel t₀.id 5) s).1 = .ok ⟨t₀.id, "ta", true, [⟨⟨2⟩⟩], []⟩ := by decide
  rcases hrun rfl with ⟨e, he⟩ | ⟨out, hout, -, hdone⟩
  · rw [hres] at he
    cases he
  · rw [hres, Except.ok.injEq] at hout
    subst hout
    exact ⟨hr, hloc, _, hres, rfl, hdone⟩

set_option maxRecDepth 1000 in
/-- A cancel does not reach everything under a task that has not ended. A parent of a transfer that failed
has not ended, and its cancel is refused; a transfer's cancel leaves a child that no worker holds as it was
when the child's parent had already failed. -/
theorem cancel_skips_tasks_of_ended :
    let t₀ : Top := Top.fresh ⟨⟨1⟩⟩ "ta" "alice" none 0
    let w : WorkerId := ⟨⟨3⟩⟩
    let w' : WorkerId := ⟨⟨4⟩⟩
    let c₀ : TaskId := ⟨Uuid.spawned 0⟩
    let s₁ := [Call.registerWorker ⟨w, "h1", 0, 0⟩, .assign .parent ⟨⟨2⟩⟩ w, .beginStaging ⟨⟨2⟩⟩ w 2,
      .finishParent ⟨⟨2⟩⟩ w .failed (some "source missing") 3].foldl (fun s c => (Store.exec c.run s).2)
        (Store.exec (Call.createTransfer t₀ [Parent.fresh ⟨⟨2⟩⟩ t₀ "mem://src/a" "mem://dst/a" false 1,
          Parent.fresh ⟨⟨5⟩⟩ t₀ "mem://src/b" "mem://dst/b" false 2]).run {}).2
    let s₂ := [Call.registerWorker ⟨w, "h1", 0, 0⟩, .registerWorker ⟨w', "h2", 0, 0⟩, .assign .parent ⟨⟨2⟩⟩ w,
      .beginStaging ⟨⟨2⟩⟩ w 2, .commitStaging ⟨⟨2⟩⟩ w [⟨"/src/a", "/dst/a", 1⟩] 3, .assign .child c₀ w',
      .finishParent ⟨⟨2⟩⟩ w .failed (some "stopped") 4, .deregisterWorker w'].foldl
        (fun s c => (Store.exec c.run s).2)
        (Store.exec (Call.createTransfer t₀ [Parent.fresh ⟨⟨2⟩⟩ t₀ "mem://src/a" "mem://dst/a" true 1,
          Parent.fresh ⟨⟨5⟩⟩ t₀ "mem://src/b" "mem://dst/b" false 2]).run {}).2
    (Reachable s₁ ∧ s₁.locate ⟨⟨5⟩⟩ = some (t₀.id, false) ∧
      Store.exec (Store.requestCancel ⟨⟨5⟩⟩ 6) s₁ = (.ok ⟨t₀.id, "ta", false, [], []⟩, s₁)) ∧
    (Reachable s₂ ∧ (Table.find? s₂.children c₀).any (fun c => c.top == t₀.id && c.cancellable) = true ∧
      (Store.exec (Store.requestCancel t₀.id 6) s₂).1 = .ok ⟨t₀.id, "ta", true, [⟨⟨5⟩⟩], []⟩ ∧
      Table.find? (Store.exec (Store.requestCancel t₀.id 6) s₂).2.children c₀ = Table.find? s₂.children c₀) := by
  intro t₀ w w' c₀ s₁ s₂
  have hadm : ∀ o : Bool, ({} : Store).Admits t₀ [Parent.fresh ⟨⟨2⟩⟩ t₀ "mem://src/a" "mem://dst/a" o 1,
      Parent.fresh ⟨⟨5⟩⟩ t₀ "mem://src/b" "mem://dst/b" false 2] := fun o =>
    Store.admits_empty ⟨_, _, _, _, rfl⟩
      (fun p hp => by rcases List.mem_pair.1 hp with rfl | rfl <;> exact ⟨_, _, _, _, rfl⟩)
      (by cases o <;> decide) (by cases o <;> decide)
  have hr₁ : Reachable s₁ := Reachable.foldl_calls (.call (.createTransfer _ _) .empty (hadm false)) fun c hc _ => by
    simp only [List.mem_cons, List.not_mem_nil, or_false] at hc
    rcases hc with rfl | rfl | rfl | rfl <;> trivial
  have hr₂ : Reachable s₂ := Reachable.foldl_calls (.call (.createTransfer _ _) .empty (hadm true)) fun c hc _ => by
    simp only [List.mem_cons, List.not_mem_nil, or_false] at hc
    rcases hc with rfl | rfl | rfl | rfl | rfl | rfl | rfl | rfl <;> trivial
  have hloc : s₁.locate ⟨⟨5⟩⟩ = some (t₀.id, false) := by decide
  have hrefused : Store.exec (Store.requestCancel ⟨⟨5⟩⟩ 6) s₁ = (.ok ⟨t₀.id, "ta", false, [], []⟩, s₁) := by
    cases ht : Table.find? s₁.tops t₀.id with
    | none => exact absurd ht (by decide)
    | some t =>
      have hfailed : (Table.find? s₁.tops t₀.id).map (fun t => (t.status, t.tenant)) = some (.failed, "ta") := by
        decide
      rw [ht, Option.map_some, Option.some.injEq, Prod.mk.injEq] at hfailed
      rw [Store.exec_requestCancel_of_ended hloc ht (by rw [hfailed.1]; rfl), hfailed.2]
  have hleft : (Table.find? s₂.children c₀).any (fun c => c.top == t₀.id && c.cancellable) = true ∧
      (Store.exec (Store.requestCancel t₀.id 6) s₂).1 = .ok ⟨t₀.id, "ta", true, [⟨⟨5⟩⟩], []⟩ ∧
      Table.find? (Store.exec (Store.requestCancel t₀.id 6) s₂).2.children c₀ = Table.find? s₂.children c₀ := by
    decide +kernel
  exact ⟨⟨hr₁, hloc, hrefused⟩, hr₂, hleft⟩

end Conveyor
