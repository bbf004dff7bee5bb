import Conveyor.Proofs.Store.Cancel
import Conveyor.Proofs.Store.Restore
import Conveyor.Proofs.Store.TopStatus

/-!
# A cancel asked for twice

A cancel request may be delivered more than once. In every reachable store a cancel made again right after
the first writes nothing and cancels nothing: it finds nothing left to do, or it stops on the same overflow
of a roll-up's byte sum as the first one did.

* A parent that a cancel reached is left `Store.Idle`: ended, or with every child ended or held and itself
  held, or waiting in progress for a child that has not ended. The one parent a cancel stopped on, when a
  roll-up overflowed, is left `Store.Jammed` on that overflow.
* `Store.Quiet` says so of a list of parents in turn: `Linked.cancelParents_settle` proves it of the parents
  a cancel went through, and `Quiet.exec_cancelParents` runs the second cancel over them, which writes
  nothing.
* What a cancel writes (`Store.WritesUnder`) never touches a parent it reached before, nor that parent's
  children (`WritesUnder.sameUnder`), so each stays as idle as the cancel left it.

The main result is `Reachable.requestCancel_again_changes_nothing`.
-/

namespace Conveyor

/-- A child as a cancel leaves it is not left for another cancel. -/
theorem Child.cancellable_afterCancel (c : Child) (now : Stamp) : (c.afterCancel now).cancellable = false := by
  unfold Child.afterCancel
  split
  · rfl
  · rename_i h
    simpa using h

/-- A child that a cancel leaves alone has ended, or is held by a worker. -/
theorem Child.ended_or_held {c : Child} (h : c.cancellable = false) :
    c.status.isTerminal = true ∨ c.status.isTerminal = false ∧ c.worker.isSome = true := by
  cases ht : c.status.isTerminal <;> cases hw : c.worker <;> simp_all [Child.cancellable]

namespace Store

variable {s s' s'' : Store} {q : TaskId}

/-! ## Parents a cancel leaves nothing to do -/

/-- Every child listed under parent `q` is there, and none is left for a cancel: each has ended or is held
by a worker. -/
def Settled (s : Store) (q : TaskId) : Prop :=
  ∀ d ∈ s.childIds q, ∃ c, Table.find? s.children d = some c ∧ c.cancellable = false

/-- A cancel that reaches parent `q` finds nothing to do: the parent has ended, or its children are settled
and it is held by a worker or waits in progress for a child that has not ended. -/
def Idle (s : Store) (q : TaskId) : Prop :=
  ∃ p, Table.find? s.parents q = some p ∧ (p.status.isTerminal = true ∨ s.Settled q ∧
    (p.worker.isSome = true ∨ p.status = .inProgress ∧ ∃ c ∈ s.childRecords q, c.status.isTerminal = false))

/-- A cancel that reaches parent `q` stops on the overflow `e` of its roll-up before it writes anything: the
parent is in progress and no worker holds it, its children are settled and have all ended, and their byte
counts add up past the top of a 64-bit word. -/
def Jammed (s : Store) (q : TaskId) (e : Panic) : Prop :=
  ∃ p, Table.find? s.parents q = some p ∧ p.status = .inProgress ∧ p.worker = none ∧ s.Settled q ∧
    (∀ c ∈ s.childRecords q, c.status.isTerminal = true) ∧
    Word.sum Word.max64 ((s.childRecords q).map (·.bytes)) = .error e

/-- A cancel of the parents `ps`, one after another, finds nothing to do in `s`, until it stops on the
overflow `e` of a roll-up when `r = some e`. -/
def Quiet (s : Store) : List TaskId → Option Panic → Prop
  | [], r => r = none
  | q :: ps, r => s.Idle q ∧ s.Quiet ps r ∨ ∃ e, r = some e ∧ s.Jammed q e

/-- Parent `q` and the children listed under it read alike in `s` and `s'`. -/
structure SameUnder (q : TaskId) (s s' : Store) : Prop where
  parent : Table.find? s'.parents q = Table.find? s.parents q
  childIds : s'.childIds q = s.childIds q
  children : ∀ d ∈ s.childIds q, Table.find? s'.children d = Table.find? s.children d

namespace SameUnder

/-- A write of transfers alone leaves every parent and child as it was. -/
theorem of_tops (ts : List Top) : SameUnder q s { s with tops := ts } := ⟨rfl, rfl, fun _ _ => rfl⟩

theorem childRecords_eq (h : SameUnder q s s') : s'.childRecords q = s.childRecords q := by
  unfold childRecords
  rw [h.childIds]
  exact List.filterMap_congr h.children

theorem settled (h : SameUnder q s s') (hs : s.Settled q) : s'.Settled q := by
  intro d hd
  rw [h.childIds] at hd
  rw [h.children d hd]
  exact hs d hd

theorem idle (h : SameUnder q s s') (hi : s.Idle q) : s'.Idle q := by
  obtain ⟨p, hp, hcase⟩ := hi
  refine ⟨p, h.parent.trans hp, hcase.imp_right fun ⟨hs, hw⟩ => ⟨h.settled hs, ?_⟩⟩
  rwa [h.childRecords_eq]

theorem jammed {e : Panic} (h : SameUnder q s s') (hj : s.Jammed q e) : s'.Jammed q e := by
  obtain ⟨p, hp, ha, hw, hs, hall, hb⟩ := hj
  exact ⟨p, h.parent.trans hp, ha, hw, h.settled hs, h.childRecords_eq ▸ hall, h.childRecords_eq ▸ hb⟩

end SameUnder

/-- Quiet parents stay quiet in a store where each of them reads alike. -/
theorem Quiet.of_sameUnder {ps : List TaskId} {r : Option Panic} (h : s.Quiet ps r)
    (hs : ∀ q ∈ ps, SameUnder q s s') : s'.Quiet ps r := by
  induction ps with
  | nil => exact h
  | cons q ps ih =>
    have hq := hs q List.mem_cons_self
    rcases h with ⟨hi, hrest⟩ | ⟨e, rfl, hj⟩
    · exact .inl ⟨hq.idle hi, ih hrest fun q' hq' => hs q' (List.mem_cons_of_mem _ hq')⟩
    · exact .inr ⟨e, rfl, hq.jammed hj⟩

/-! ## A second cancel over parents with nothing to do -/

/-- A parent rolls up exactly when all its children ended. -/
theorem rollUpOutcome_isSome {p : Parent} :
    (s.rollUpOutcome p).isSome = true ↔ ∀ c ∈ s.childRecords p.id, c.status.isTerminal = true := by
  rw [rollUpOutcome, rollUp_isSome, List.all_map]
  simp

section Again

variable (out : CancelOutcome) (now : Stamp)

theorem cancelChildren_cons (d : TaskId) (ids : List TaskId) :
    cancelChildren (d :: ids) out now = (cancelChild d out now >>= fun out => cancelChildren ids out now) := rfl

/-- A cancel of children that have ended or are held writes nothing; it names the held ones in flight. -/
theorem exec_cancelChildren_of_settled {ids : List TaskId}
    (h : ∀ d ∈ ids, ∃ c, Table.find? s.children d = some c ∧ c.cancellable = false) :
    ∃ fl, exec (cancelChildren ids out now) s = (.ok { out with inFlight := out.inFlight ++ fl }, s) := by
  induction ids generalizing out with
  | nil => exact ⟨[], by simp [cancelChildren]⟩
  | cons d ids ih =>
    obtain ⟨c, hc, hcan⟩ := h d List.mem_cons_self
    have hrest := fun d' hd' => h d' (List.mem_cons_of_mem _ hd')
    rw [cancelChildren_cons]
    rcases Child.ended_or_held hcan with ht | ⟨ht, hw⟩
    · obtain ⟨fl, hfl⟩ := ih out hrest
      rw [exec_bind_of_ok s (exec_cancelChild_of_ended out now hc ht)]
      exact ⟨fl, hfl⟩
    · obtain ⟨fl, hfl⟩ := ih { out with inFlight := out.inFlight ++ [d] } hrest
      rw [exec_bind_of_ok s (exec_cancelChild_of_held out now hc ht hw)]
      exact ⟨[d] ++ fl, by rw [hfl]; simp⟩

/-- A cancel that reaches an idle parent writes nothing, and names nothing cancelled. -/
theorem Idle.exec_cancelParent (h : s.Idle q) :
    ∃ fl, exec (cancelParent q out now) s = (.ok { out with inFlight := out.inFlight ++ fl }, s) := by
  obtain ⟨p, hp, hcase⟩ := h
  have hid : p.id = q := (Table.find?_eq_some hp).2
  cases ht : p.status.isTerminal
  case true => exact ⟨[], by rw [exec_cancelParent_of_ended out now hp ht]; simp⟩
  obtain ⟨hs, hwait⟩ := hcase.resolve_left (by simp [ht])
  obtain ⟨fl, hc⟩ := exec_cancelChildren_of_settled out now hs
  cases hw : p.worker with
  | some w =>
    refine ⟨fl ++ [q], ?_⟩
    rw [exec_cancelParent_of_held out now hp ht hc (by simp [hw])]
    simp
  | none =>
    obtain ⟨ha, c, hc', hn⟩ := hwait.resolve_left (by simp [hw])
    have ho : s.rollUpOutcome p = none := by
      apply Option.not_isSome_iff_eq_none.1
      rw [rollUpOutcome, rollUp_isSome, hid, List.all_map]
      simpa using ⟨c, hc', by simp [hn]⟩
    refine ⟨fl, ?_⟩
    rw [exec_cancelParent_of_active out now hp ht hc hw ha, exec_rollUpParent_of_waiting now hp ha ho]
    rfl

/-- A cancel that reaches a jammed parent stops on the overflow before it writes anything. -/
theorem Jammed.exec_cancelParent {e : Panic} (h : s.Jammed q e) :
    exec (cancelParent q out now) s = (.error (.panic e), s) := by
  obtain ⟨p, hp, ha, hw, hs, hall, hb⟩ := h
  have hid : p.id = q := (Table.find?_eq_some hp).2
  have ht : p.status.isTerminal = false := by rw [ha]; rfl
  obtain ⟨fl, hc⟩ := exec_cancelChildren_of_settled out now hs
  obtain ⟨o, ho⟩ : ∃ o, s.rollUpOutcome p = some o := by
    apply Option.isSome_iff_exists.1
    rw [rollUpOutcome, rollUp_isSome, hid, List.all_map]
    simpa using hall
  rw [exec_cancelParent_of_active out now hp ht hc hw ha, exec_rollUpParent_of_overflow now hp ha ho hb]
  rfl

/-- A cancel of quiet parents, one after another, writes nothing, and names nothing cancelled; it stops on the
overflow that the parents' quiet names, if any. -/
theorem Quiet.exec_cancelParents {ps : List TaskId} {r : Option Panic} (h : s.Quiet ps r) :
    ∃ o : CancelOutcome, o.cancelled = out.cancelled ∧
      exec (ps.foldlM (fun out q => cancelParent q out now) out) s =
        (r.elim (.ok o) fun e => .error (.panic e), s) := by
  induction ps generalizing out with
  | nil =>
    cases h
    exact ⟨out, rfl, rfl⟩
  | cons q ps ih =>
    rw [exec_foldlM_cons]
    rcases h with ⟨hi, hrest⟩ | ⟨e, rfl, hj⟩
    · obtain ⟨fl, hq⟩ := hi.exec_cancelParent out now
      obtain ⟨o, ho, hfold⟩ := ih { out with inFlight := out.inFlight ++ fl } hrest
      exact ⟨o, ho, by rw [exec_bind_of_ok s hq, hfold]⟩
    · exact ⟨out, rfl, by rw [exec_bind_of_error s (hj.exec_cancelParent out now)]; rfl⟩

/-- A refresh of a transfer whose status its parents give it writes nothing. -/
theorem TopsDerived.exec_refreshTop (h : s.TopsDerived) {T : TaskId} {t : Top} (ht : Table.find? s.tops T = some t) :
    exec (refreshTop T now) s = (.ok (), s) := by
  have heq : s.derived t = t.status := by
    cases hn : t.status.isTerminal
    · rw [derived_of_not_isTerminal hn]
      exact (h ht).symm
    · unfold derived deriveTop
      rw [if_pos hn]
  rw [exec_refreshTop_of_find ht, if_pos heq]

/-- Cancelling quiet parents of a transfer and then refreshing it writes nothing and names nothing cancelled;
it stops on the overflow that the parents' quiet names, if any. -/
theorem Quiet.exec_sweep {ps : List TaskId} {r : Option Panic} (h : s.Quiet ps r) (hd : r = none → s.TopsDerived)
    {T : TaskId} {t : Top} (ht : Table.find? s.tops T = some t) :
    ∃ o : CancelOutcome, o.cancelled = out.cancelled ∧
      exec (ps.foldlM (fun out q => cancelParent q out now) out >>= fun out => refreshTop T now >>= fun _ => pure out) s =
        (r.elim (.ok o) fun e => .error (.panic e), s) := by
  obtain ⟨o, ho, hfold⟩ := h.exec_cancelParents out now
  refine ⟨o, ho, ?_⟩
  cases r with
  | none =>
    rw [exec_bind_of_ok s hfold, exec_bind_of_ok s ((hd rfl).exec_refreshTop now ht)]
    rfl
  | some e => exact exec_bind_of_error s hfold _

end Again

/-! ## What a first cancel leaves -/

/-- From `s` to `s'` nothing was written but the parents `ps`, the children listed under them and transfers,
whose cancel flags stay: every other parent and child, the lists of children and the cancel marks are as they
were. -/
structure WritesUnder (ps : List TaskId) (s s' : Store) : Prop where
  parents : ∀ d, d ∉ ps → Table.find? s'.parents d = Table.find? s.parents d
  children : ∀ d, (∀ q ∈ ps, d ∉ s.childIds q) → Table.find? s'.children d = Table.find? s.children d
  childLists : s'.childLists = s.childLists
  marks : s'.marks = s.marks
  flags : ∀ d, s'.topCancelled d = s.topCancelled d

namespace WritesUnder

variable {ps qs : List TaskId}

theorem refl (ps : List TaskId) (s : Store) : s.WritesUnder ps s :=
  ⟨fun _ _ => rfl, fun _ _ => rfl, rfl, rfl, fun _ => rfl⟩

theorem mono (h : s.WritesUnder ps s') (hpq : ∀ d ∈ ps, d ∈ qs) : s.WritesUnder qs s' where
  parents d hd := h.parents d fun h' => hd (hpq d h')
  children d hd := h.children d fun q hq => hd q (hpq q hq)
  childLists := h.childLists
  marks := h.marks
  flags := h.flags

theorem append (h₁ : s.WritesUnder ps s') (h₂ : s'.WritesUnder qs s'') : s.WritesUnder (ps ++ qs) s'' where
  parents d hd := by
    rw [List.mem_append, not_or] at hd
    rw [h₂.parents d hd.2, h₁.parents d hd.1]
  children d hd := by
    have hids : ∀ q, s'.childIds q = s.childIds q := fun q => by simp only [childIds, h₁.childLists]
    rw [h₂.children d fun q hq => hids q ▸ hd q (List.mem_append_right _ hq),
      h₁.children d fun q hq => hd q (List.mem_append_left _ hq)]
  childLists := h₂.childLists.trans h₁.childLists
  marks := h₂.marks.trans h₁.marks
  flags d := (h₂.flags d).trans (h₁.flags d)

/-- A write of parent `q` is a write under it. -/
theorem putParent (s : Store) {x : Parent} (hx : x.id = q) :
    s.WritesUnder [q] { s with parents := Table.put s.parents x } :=
  ⟨fun d hd => Table.find?_put_of_ne _ _ fun h => hd (by rw [← h, ← hx]; exact List.mem_singleton_self _),
    fun _ _ => rfl, rfl, rfl, fun _ => rfl⟩

/-- A refresh of a transfer writes only it, and keeps its cancel flag. -/
theorem refresh (ps : List TaskId) (s : Store) (T : TaskId) (now : Stamp) :
    s.WritesUnder ps (exec (refreshTop T now) s).2 := by
  obtain ⟨ts, hts⟩ := refreshTop_frame (s := s) T now
  have hf := (TopsBut.refresh (s := s) T now).flags
  rw [hts] at hf ⊢
  exact ⟨fun _ _ => rfl, fun _ _ => rfl, rfl, rfl, hf⟩

/-- A parent outside of `ps`, and the children listed under it, read alike after writes under `ps` in a linked
store, as a child is listed under one parent only. -/
theorem sameUnder (hl : s.Linked) (h : s.WritesUnder ps s') (hq : q ∉ ps) : SameUnder q s s' where
  parent := h.parents q hq
  childIds := by simp only [childIds, h.childLists]
  children d hd := h.children d fun r hr hdr => by
    obtain ⟨c, hc, hcq⟩ := (hl.listed q).2 d hd
    have hcr := hl.parent_of_listed r d hdr c hc
    exact hq (by rw [← hcq, hcr]; exact hr)

end WritesUnder

section First

variable (hl : s.Linked) {out : CancelOutcome} {now : Stamp} {res : Except Failure CancelOutcome}
include hl

/-- A roll-up of a free parent in progress whose children have settled writes only the parent and its transfer,
and leaves the parent idle, or jammed on the overflow it stopped on. -/
theorem Linked.rollUpParent_settles {p : Parent} (hp : Table.find? s.parents q = some p)
    (ha : p.status = .inProgress) (hw : p.worker = none) (hs : s.Settled q) :
    s.WritesUnder [q] (exec (rollUpParent q now) s).2 ∧
      ((exec (rollUpParent q now) s).1 = .ok () ∧ (exec (rollUpParent q now) s).2.Idle q ∨
        ∃ e, (exec (rollUpParent q now) s).1 = .error (.panic e) ∧ (exec (rollUpParent q now) s).2.Jammed q e) := by
  have hid : p.id = q := (Table.find?_eq_some hp).2
  cases ho : s.rollUpOutcome p with
  | none =>
    rw [exec_rollUpParent_of_waiting now hp ha ho]
    obtain ⟨st, hst, hn⟩ := exists_of_rollUp_eq_none ho
    rw [hid] at hst
    obtain ⟨c, hc, rfl⟩ := List.mem_map.1 hst
    exact ⟨.refl _ _, .inl ⟨rfl, p, hp, .inr ⟨hs, .inr ⟨ha, c, hc, hn⟩⟩⟩⟩
  | some o =>
    have hall : ∀ c ∈ s.childRecords q, c.status.isTerminal = true :=
      hid ▸ rollUpOutcome_isSome.1 (by rw [ho]; rfl)
    cases hb : Word.sum Word.max64 ((s.childRecords q).map (·.bytes)) with
    | error e =>
      rw [exec_rollUpParent_of_overflow now hp ha ho hb]
      exact ⟨.refl _ _, .inr ⟨e, rfl, p, hp, ha, hw, hs, hall, hb⟩⟩
    | ok b =>
      rw [exec_rollUpParent_of_rollUp now hp ha ho hb]
      obtain ⟨t, hT, -⟩ := hl.parent_top hp
      set S₂ : Store := { s with parents := Table.put s.parents (p.rolledUp o (s.childRecords q) b now) }
      have hr : (exec (refreshTop p.top now) S₂).1 = .ok () := by rw [exec_refreshTop_of_find (s := S₂) hT]
      have hid' : (p.rolledUp o (s.childRecords q) b now).id = q := hid
      obtain ⟨ts, hts⟩ := refreshTop_frame (s := S₂) p.top now
      refine ⟨((WritesUnder.putParent s hid').append (.refresh [] S₂ p.top now)).mono (by simp),
        .inl ⟨hr, p.rolledUp o (s.childRecords q) b now, ?_, .inl (rollUp_isTerminal ho)⟩⟩
      rw [hts]
      exact Table.find?_put_eq hid'

/-- A cancel of a parent that is there writes only the parent, its children and transfers, and leaves the parent
idle, or jammed on the overflow it stopped on. -/
theorem Linked.cancelParent_settles {p : Parent} (hp : Table.find? s.parents q = some p)
    (h : exec (cancelParent q out now) s = (res, s')) :
    s.WritesUnder [q] s' ∧ ((∃ o, res = .ok o) ∧ s'.Idle q ∨ ∃ e, res = .error (.panic e) ∧ s'.Jammed q e) := by
  have hid : p.id = q := (Table.find?_eq_some hp).2
  cases ht : p.status.isTerminal
  case true =>
    rw [exec_cancelParent_of_ended out now hp ht] at h
    obtain ⟨rfl, rfl⟩ := Prod.mk.inj h
    exact ⟨.refl _ _, .inl ⟨⟨out, rfl⟩, p, hp, .inl ht⟩⟩
  obtain ⟨cs, hcc, hcs⟩ := hl.exec_cancelChildren_eq out now
    (fun d hd => by obtain ⟨c, hc, -⟩ := (hl.listed q).2 d hd; exact ⟨c, hc⟩) (hl.listed q).1
  set S₁ : Store := { s with children := cs } with hS₁
  have hw₁ : s.WritesUnder [q] S₁ := by
    refine ⟨fun _ _ => rfl, fun d hd => ?_, rfl, rfl, fun _ => rfl⟩
    show Table.find? cs d = _
    rw [hcs d]
    simp [hd q (List.mem_singleton_self q)]
  have hs₁ : S₁.Settled q := fun d hd => by
    have hd : d ∈ s.childIds q := hd
    obtain ⟨c, hc, -⟩ := (hl.listed q).2 d hd
    refine ⟨c.afterCancel now, ?_, Child.cancellable_afterCancel c now⟩
    show Table.find? cs d = _
    rw [hcs d, hc]
    simp [hd]
  have hp₁ : Table.find? S₁.parents q = some p := hp
  cases hw : p.worker with
  | some w =>
    rw [exec_cancelParent_of_held out now hp ht hcc (by simp [hw])] at h
    obtain ⟨rfl, rfl⟩ := Prod.mk.inj h
    exact ⟨hw₁, .inl ⟨⟨_, rfl⟩, p, hp₁, .inr ⟨hs₁, .inl (by simp [hw])⟩⟩⟩
  | none =>
  by_cases ha : p.status = .inProgress
  case neg =>
    rw [exec_cancelParent_of_free out now hp ht hcc hw ha] at h
    obtain ⟨rfl, rfl⟩ := Prod.mk.inj h
    have hid' : (p.cancelledAt now).id = q := hid
    refine ⟨(hw₁.append (.putParent S₁ hid')).mono (by simp), .inl ⟨⟨_, rfl⟩, p.cancelledAt now, ?_, .inl rfl⟩⟩
    exact Table.find?_put_eq hid'
  rw [exec_cancelParent_of_active out now hp ht hcc hw ha] at h
  obtain ⟨rfl, rfl⟩ := Prod.mk.inj h
  have hl₁ : S₁.Linked := hl.of_exec (revises_cancelChildren _ out now) hcc
  obtain ⟨hw₂, hr⟩ := hl₁.rollUpParent_settles hp₁ ha hw hs₁
  refine ⟨(hw₁.append hw₂).mono (by simp), ?_⟩
  rcases hr with ⟨hok, hi⟩ | ⟨e, he, hj⟩
  · exact .inl ⟨⟨_, by rw [hok]; rfl⟩, hi⟩
  · exact .inr ⟨e, by rw [he]; rfl, hj⟩

/-- A cancel of parents that are there, one after another, writes only them, their children and transfers, and
leaves them quiet: each idle, but for the one it stopped on if a roll-up overflowed. By induction on the parents:
the fold stops on the parent that jammed, and the parents after it write nothing that it reads. -/
theorem Linked.cancelParents_settle {ps : List TaskId} (hnd : ps.Nodup)
    (hps : ∀ q ∈ ps, ∃ p, Table.find? s.parents q = some p)
    (h : exec (ps.foldlM (fun out q => cancelParent q out now) out) s = (res, s')) :
    s.WritesUnder ps s' ∧
      ((∃ o, res = .ok o) ∧ s'.Quiet ps none ∨ ∃ e, res = .error (.panic e) ∧ s'.Quiet ps (some e)) := by
  induction ps generalizing s out res s' with
  | nil =>
    obtain ⟨rfl, rfl⟩ := Prod.mk.inj h
    exact ⟨.refl _ _, .inl ⟨⟨out, rfl⟩, rfl⟩⟩
  | cons q ps ih =>
    obtain ⟨p, hp⟩ := hps q List.mem_cons_self
    obtain ⟨hq, hnd⟩ := List.nodup_cons.1 hnd
    rw [exec_foldlM_cons] at h
    rcases h₁ : exec (cancelParent q out now) s with ⟨r₁, S₁⟩
    obtain ⟨hw₁, hcase⟩ := hl.cancelParent_settles hp h₁
    cases r₁ with
    | error e₁ =>
      rw [exec_bind_of_error s h₁] at h
      obtain ⟨rfl, rfl⟩ := Prod.mk.inj h
      obtain ⟨e, he, hj⟩ := hcase.resolve_left fun ⟨⟨o, ho⟩, _⟩ => by cases ho
      exact ⟨hw₁.mono (by simp), .inr ⟨e, he, .inr ⟨e, rfl, hj⟩⟩⟩
    | ok o₁ =>
      rw [exec_bind_of_ok s h₁] at h
      obtain ⟨-, hi⟩ := hcase.resolve_right fun ⟨e, he, _⟩ => by cases he
      have hl₁ : S₁.Linked := hl.of_exec (revises_cancelParent q out now) h₁
      obtain ⟨hw₂, hrest⟩ := ih hl₁ hnd (fun q' hq' => by
        rw [hw₁.parents q' (by simpa using ne_of_mem_of_not_mem hq' hq)]
        exact hps q' (List.mem_cons_of_mem _ hq')) h
      have hi' : s'.Idle q := (hw₂.sameUnder hl₁ hq).idle hi
      refine ⟨hw₁.append hw₂, ?_⟩
      rcases hrest with ⟨hok, hqt⟩ | ⟨e, he, hqt⟩
      · exact .inl ⟨hok, .inl ⟨hi', hqt⟩⟩
      · exact .inr ⟨e, he, .inl ⟨hi', hqt⟩⟩

/-- Cancelling parents of a transfer that is there and then refreshing it writes only them, their children and
transfers, and leaves them quiet. -/
theorem Linked.sweep_settles {ps : List TaskId} (hnd : ps.Nodup) (hps : ∀ q ∈ ps, ∃ p, Table.find? s.parents q = some p)
    {T : TaskId} {t : Top} (hT : Table.find? s.tops T = some t)
    (h : exec (ps.foldlM (fun out q => cancelParent q out now) out >>= fun out =>
      refreshTop T now >>= fun _ => pure out) s = (res, s')) :
    s.WritesUnder ps s' ∧
      ((∃ o, res = .ok o) ∧ s'.Quiet ps none ∨ ∃ e, res = .error (.panic e) ∧ s'.Quiet ps (some e)) := by
  rcases hf : exec (ps.foldlM (fun out q => cancelParent q out now) out) s with ⟨r₁, S₁⟩
  obtain ⟨hw₁, hcase⟩ := hl.cancelParents_settle hnd hps hf
  cases r₁ with
  | error e₁ =>
    rw [exec_bind_of_error s hf] at h
    obtain ⟨rfl, rfl⟩ := Prod.mk.inj h
    exact ⟨hw₁, hcase⟩
  | ok o₁ =>
    have hrev : Revised s S₁ := (Revises.foldlM (fun out q => revises_cancelParent q out now) ps out).revised hf
    obtain ⟨t₁, ht₁⟩ := Table.exists_find?_of_keys hrev.top_ids hT
    have hr : exec (refreshTop T now) S₁ = (.ok (), (exec (refreshTop T now) S₁).2) :=
      Prod.ext (by rw [exec_refreshTop_of_find ht₁]) rfl
    rw [exec_bind_of_ok s hf, exec_bind_of_ok S₁ hr, exec_pure] at h
    obtain ⟨rfl, rfl⟩ := Prod.mk.inj h
    obtain ⟨ts, hts⟩ := refreshTop_frame (s := S₁) T now
    have hsame : ∀ q ∈ ps, SameUnder q S₁ (exec (refreshTop T now) S₁).2 := fun q _ => hts ▸ .of_tops ts
    refine ⟨(hw₁.append (.refresh [] S₁ T now)).mono (by simp), ?_⟩
    obtain ⟨hok, hqt⟩ := hcase.resolve_right fun ⟨e, he, _⟩ => by cases he
    exact .inl ⟨⟨o₁, rfl⟩, hqt.of_sameUnder hsame⟩

end First

/-! ## The second cancel -/

/-- What a second cancel of a task, run in the store \x60s₁\x60 that a first one left with result \x60first\x60, must
do: write nothing, and name nothing cancelled unless it fails as the first one failed. -/
def RepeatsQuietly (first : Except Failure CancelOutcome) (s₁ : Store) (second : Except Failure CancelOutcome × Store) :
    Prop :=
  second.2 = s₁ ∧ ((∃ out, second.1 = .ok out ∧ out.cancelled = []) ∨ ∃ e, first = .error e ∧ second.1 = .error e)

section Twice

variable {x : TaskId} {now₁ : Stamp} {r₁ : Except Failure CancelOutcome} {s₁ : Store}

/-- A mark already made is not made again. -/
theorem exec_mark_of_contains (h : s.marks.contains x = true) : exec (mark x) s = (.ok (), s) := by
  rw [exec_mark, if_pos h]

theorem exec_mark_twice (x : TaskId) : exec (mark x) (exec (mark x) s).2 = (.ok (), (exec (mark x) s).2) :=
  exec_mark_of_contains (contains_mark s.marks x)

/-- A cancel of a parent is the sweep over the list of it alone. -/
theorem cancelParents_singleton (q : TaskId) (out : CancelOutcome) (now : Stamp) :
    [q].foldlM (fun out q => cancelParent q out now) out = cancelParent q out now := by
  simp

/-- A second cancel that is refused, as its task or its transfer has ended, writes nothing and cancels nothing. -/
theorem repeatsQuietly_of_ended {T : TaskId} {ended : Bool} {t : Top} (hx : s₁.locate x = some (T, ended))
    (ht : Table.find? s₁.tops T = some t) (he : (ended || t.status.isTerminal) = true) (now₂ : Stamp) :
    RepeatsQuietly r₁ s₁ (exec (requestCancel x now₂) s₁) := by
  rw [exec_requestCancel_of_ended hx ht he]
  exact ⟨rfl, .inl ⟨_, rfl, rfl⟩⟩

/-- A second sweep over parents that a first one left quiet writes nothing and cancels nothing, and stops on the
overflow that the first one stopped on. -/
theorem repeatsQuietly_sweep (hd : s₁.TopsDerived) {ps : List TaskId} {T : TaskId} {t : Top}
    (hT : Table.find? s₁.tops T = some t)
    (h : (∃ o, r₁ = .ok o) ∧ s₁.Quiet ps none ∨ ∃ e, r₁ = .error (.panic e) ∧ s₁.Quiet ps (some e))
    {out : CancelOutcome} (hout : out.cancelled = []) (now₂ : Stamp) :
    RepeatsQuietly r₁ s₁ (exec (ps.foldlM (fun out q => cancelParent q out now₂) out >>= fun out =>
      refreshTop T now₂ >>= fun _ => pure out) s₁) := by
  rcases h with ⟨-, hq⟩ | ⟨e, rfl, hq⟩
  · obtain ⟨o, ho, he⟩ := hq.exec_sweep out now₂ (fun _ => hd) hT
    rw [he]
    exact ⟨rfl, .inl ⟨o, rfl, ho.trans hout⟩⟩
  · obtain ⟨o, -, he⟩ := hq.exec_sweep out now₂ (fun h => by cases h) hT
    rw [he]
    exact ⟨rfl, .inr ⟨_, rfl, rfl⟩⟩

/-- A child that a cancel can cancel has ended once it is cancelled. -/
theorem Child.afterCancel_isTerminal {c : Child} (h : c.cancellable = true) (now : Stamp) :
    (c.afterCancel now).status.isTerminal = true := by
  rw [Child.afterCancel_of_cancellable h]
  rfl

variable (hl : s.Linked)
include hl

/-- A roll-up of a parent that is there, then a refresh, writes no child. -/
theorem Linked.children_rollUp_refresh {q T : TaskId} {p : Parent} (hp : Table.find? s.parents q = some p)
    (now : Stamp) (out : CancelOutcome) :
    (exec (rollUpParent q now >>= fun _ => refreshTop T now >>= fun _ => pure out) s).2.children = s.children := by
  obtain ⟨hr, hch, -⟩ := hl.rollUpParent_frame hp now
  rcases hr with hok | ⟨e, he⟩
  · rw [exec_bind_of_ok s (Prod.ext hok rfl), exec_bind_of_reads (fun _ _ => rfl)]
    obtain ⟨ts, hts⟩ := refreshTop_frame (s := (exec (rollUpParent q now) s).2) T now
    rw [hts]
    exact hch
  · rw [exec_bind_of_error s (Prod.ext he rfl)]
    exact hch

/-- A cancel of a running child of a running transfer leaves the child as a cancel leaves it, whatever its
parent's roll-up does next. -/
theorem Linked.requestCancel_child_record {c : Child} {t : Top} (h0 : Table.find? s.tops x = none)
    (h1 : Table.find? s.parents x = none) (hc : Table.find? s.children x = some c)
    (ht : Table.find? s.tops c.top = some t) (hn : c.status.isTerminal = false) (htn : t.status.isTerminal = false)
    (now : Stamp) :
    Table.find? (exec (requestCancel x now) s).2.children x = some (c.afterCancel now) := by
  let S₀ : Store := { s with marks := if s.marks.contains x then s.marks else s.marks ++ [x] }
  have hl₀ : S₀.Linked := hl.revised (Revised.of_marks s _)
  obtain ⟨cs, h₁, hcs⟩ := hl₀.exec_cancelChild_eq ⟨c.top, t.tenant, true, [], []⟩ now
    (hc : Table.find? S₀.children x = some c)
  let S₁ : Store := { S₀ with children := cs }
  have hl₁ : S₁.Linked := hl₀.of_exec (revises_cancelChild x _ now) h₁
  have hc₁ : Table.find? S₁.children x = some (c.afterCancel now) := by
    show Table.find? cs x = _
    rw [hcs, if_pos rfl]
  obtain ⟨p, hp, -⟩ := hl.child_parent hc
  rw [exec_requestCancel_of_child h0 h1 hc ht hn htn, exec_bind_of_ok s (exec_mark s x), exec_bind_of_ok _ h₁,
    exec_bind_of_ok _ (exec_child_of_find hc₁), Child.afterCancel_parent,
    hl₁.children_rollUp_refresh (hp : Table.find? S₁.parents c.parent = some p)]
  exact hc₁

/-- A cancel of a running child that a worker holds marks it and reports it in flight, and writes nothing else:
the worker's pipeline stops it. -/
theorem Linked.exec_requestCancel_held (hd : s.TopsDerived) {c : Child} {t : Top} (h0 : Table.find? s.tops x = none)
    (h1 : Table.find? s.parents x = none) (hc : Table.find? s.children x = some c)
    (ht : Table.find? s.tops c.top = some t) (hn : c.status.isTerminal = false) (hw : c.worker.isSome = true)
    (htn : t.status.isTerminal = false) (now : Stamp) :
    exec (requestCancel x now) s = (.ok ⟨c.top, t.tenant, true, [], [x]⟩, (exec (mark x) s).2) := by
  let S₀ : Store := { s with marks := if s.marks.contains x then s.marks else s.marks ++ [x] }
  have hc₀ : Table.find? S₀.children x = some c := hc
  obtain ⟨p, hp, -, -, hlisted⟩ := hl.child_parent hc
  have hp₀ : Table.find? S₀.parents c.parent = some p := hp
  have hroll : exec (rollUpParent c.parent now) S₀ = (.ok (), S₀) := by
    by_cases ha : p.status = .inProgress
    case neg => exact exec_rollUpParent_of_idle now hp₀ ha
    refine exec_rollUpParent_of_waiting now hp₀ ha ?_
    have hmem : c ∈ S₀.childRecords p.id := by
      have hid : p.id = c.parent := (Table.find?_eq_some hp).2
      rw [hid]
      exact List.mem_filterMap.2 ⟨x, hlisted, hc⟩
    cases ho : S₀.rollUpOutcome p with
    | none => rfl
    | some o => exact absurd (rollUpOutcome_isSome.1 (by rw [ho]; rfl) c hmem) (by simp [hn])
  rw [exec_requestCancel_of_child h0 h1 hc ht hn htn, exec_bind_of_ok s (exec_mark s x),
    exec_bind_of_ok _ (exec_cancelChild_of_held _ now hc₀ hn hw), exec_bind_of_ok _ (exec_child_of_find hc₀),
    exec_bind_of_ok _ hroll, exec_bind_of_ok _ (TopsDerived.exec_refreshTop (s := S₀) now (fun _ _ h => hd h) ht), exec_pure]
  rfl

/-- A second cancel of a running transfer finds it flagged, with its parents as quiet as the first left them. -/
theorem Linked.requestCancel_top_again {t : Top} (ht : Table.find? s.tops x = some t) (hn : t.status.isTerminal = false)
    (h₁ : exec (requestCancel x now₁) s = (r₁, s₁)) (hl₁ : s₁.Linked) (hd₁ : s₁.TopsDerived) (now₂ : Stamp) :
    RepeatsQuietly r₁ s₁ (exec (requestCancel x now₂) s₁) := by
  have hid : t.id = x := (Table.find?_eq_some ht).2
  have hrev : Revised s s₁ := (revises_requestCancel x now₁).revised h₁
  have hl₀ : ({ s with tops := Table.put s.tops { t with cancelRequested := true } } : Store).Linked :=
    hl.revised (Revised.putTop (t := t)
      (Table.find?_self ht : Table.find? s.tops ({ t with cancelRequested := true } : Top).id = some t) rfl)
  have ht₀ : Table.find? (Table.put s.tops { t with cancelRequested := true }) x =
      some { t with cancelRequested := true } := Table.find?_put_eq hid
  obtain ⟨hnd, hps⟩ := hl.top_parents ht
  rw [exec_requestCancel_of_top ht hn] at h₁
  obtain ⟨hw, hsettled⟩ := hl₀.sweep_settles hnd (fun q hq => (hps q hq).imp fun _ h => h.1) ht₀ h₁
  obtain ⟨t₁, ht₁, hpar⟩ := hrev.exists_top ht
  have hflag : t₁.cancelRequested = true := by
    have hf := hw.flags x
    simp only [topCancelled, ht₁, ht₀, Option.any_some] at hf
    exact hf
  have hid₁ : t₁.id = x := (Table.find?_eq_some ht₁).2
  cases hn₁ : t₁.status.isTerminal
  case true =>
    exact repeatsQuietly_of_ended (show s₁.locate x = some (x, true) by simp [locate, ht₁, hn₁, hid₁]) ht₁
      (by simp) now₂
  have hput : Table.put s₁.tops { t₁ with cancelRequested := true } = s₁.tops := by
    have hself : { t₁ with cancelRequested := true } = t₁ := by
      cases t₁
      cases hflag
      rfl
    rw [hself]
    exact Table.put_of_find? (nodup_keys hl₁.ids_nodup).1 (Table.find?_self ht₁)
  rw [exec_requestCancel_of_top ht₁ hn₁, hput, hpar]
  exact repeatsQuietly_sweep hd₁ ht₁ hsettled rfl now₂

/-- A second cancel of a running parent finds it marked, as quiet as the first left it. -/
theorem Linked.requestCancel_parent_again {p : Parent} {t : Top} (h0 : Table.find? s.tops x = none)
    (hp : Table.find? s.parents x = some p) (ht : Table.find? s.tops p.top = some t)
    (hn : p.status.isTerminal = false) (htn : t.status.isTerminal = false)
    (h₁ : exec (requestCancel x now₁) s = (r₁, s₁)) (hd₁ : s₁.TopsDerived) (now₂ : Stamp) :
    RepeatsQuietly r₁ s₁ (exec (requestCancel x now₂) s₁) := by
  have hrev : Revised s s₁ := (revises_requestCancel x now₁).revised h₁
  have hl₀ : ({ s with marks := if s.marks.contains x then s.marks else s.marks ++ [x] } : Store).Linked :=
    hl.revised (Revised.of_marks s _)
  rw [exec_requestCancel_of_parent h0 hp ht hn htn, exec_bind_of_ok s (exec_mark s x),
    ← cancelParents_singleton] at h₁
  obtain ⟨hw, hsettled⟩ := hl₀.sweep_settles (List.nodup_singleton x)
    (fun q hq => ⟨p, List.mem_singleton.1 hq ▸ hp⟩) ht h₁
  obtain ⟨p₁, hp₁, htop, -⟩ := hrev.exists_parent hp
  obtain ⟨t₁, ht₁⟩ := Table.exists_find?_of_keys hrev.top_ids ht
  rw [← htop] at ht₁
  have h0₁ : Table.find? s₁.tops x = none := Table.find?_eq_none_of_keys hrev.top_ids h0
  have hmark : s₁.marks.contains x = true := by
    rw [hw.marks]
    exact contains_mark s.marks x
  cases he : p₁.status.isTerminal || t₁.status.isTerminal
  case true =>
    exact repeatsQuietly_of_ended (show s₁.locate x = some (p₁.top, p₁.status.isTerminal) by
      simp [locate, h0₁, hp₁]) ht₁ he now₂
  obtain ⟨hn₁, htn₁⟩ : p₁.status.isTerminal = false ∧ t₁.status.isTerminal = false := by simpa using he
  rw [exec_requestCancel_of_parent h0₁ hp₁ ht₁ hn₁ htn₁, exec_bind_of_ok s₁ (exec_mark_of_contains hmark),
    ← cancelParents_singleton]
  exact repeatsQuietly_sweep hd₁ ht₁ hsettled rfl now₂

/-- A second cancel of a running child finds it ended, when no worker held it, or else held as before, and
marks it and reports it in flight again. -/
theorem Linked.requestCancel_child_again (hd : s.TopsDerived) {c : Child} {t : Top}
    (h0 : Table.find? s.tops x = none) (h1 : Table.find? s.parents x = none) (hc : Table.find? s.children x = some c)
    (ht : Table.find? s.tops c.top = some t) (hn : c.status.isTerminal = false) (htn : t.status.isTerminal = false)
    (h₁ : exec (requestCancel x now₁) s = (r₁, s₁)) (now₂ : Stamp) :
    RepeatsQuietly r₁ s₁ (exec (requestCancel x now₂) s₁) := by
  cases hcan : c.cancellable
  case false =>
    have hw : c.worker.isSome = true := ((Child.ended_or_held hcan).resolve_left (by simp [hn])).2
    rw [hl.exec_requestCancel_held hd h0 h1 hc ht hn hw htn] at h₁
    obtain ⟨rfl, rfl⟩ := Prod.mk.inj h₁
    have hl₀ : (exec (mark x) s).2.Linked := hl.revised (Revised.of_marks s _)
    rw [hl₀.exec_requestCancel_held (fun _ _ h => hd h) h0 h1 hc ht hn hw htn, exec_mark_twice]
    exact ⟨rfl, .inl ⟨_, rfl, rfl⟩⟩
  have hrev : Revised s s₁ := (revises_requestCancel x now₁).revised h₁
  have hc₁ : Table.find? s₁.children x = some (c.afterCancel now₁) := by
    have hrec := hl.requestCancel_child_record h0 h1 hc ht hn htn now₁
    rwa [h₁] at hrec
  obtain ⟨t₁, ht₁⟩ := Table.exists_find?_of_keys hrev.top_ids ht
  have hx : s₁.locate x = some (c.top, true) := by
    simp [locate, Table.find?_eq_none_of_keys hrev.top_ids h0, Table.find?_eq_none_of_keys hrev.parent_ids h1, hc₁,
      Child.afterCancel_isTerminal hcan now₁]
  exact repeatsQuietly_of_ended hx ht₁ (by simp) now₂

/-- A cancel made again in the store that a first one left writes nothing, when both stores are linked and
their transfers hold their derived statuses. -/
theorem Linked.requestCancel_twice (hd : s.TopsDerived) (h₁ : exec (requestCancel x now₁) s = (r₁, s₁))
    (hl₁ : s₁.Linked) (hd₁ : s₁.TopsDerived) (now₂ : Stamp) :
    RepeatsQuietly r₁ s₁ (exec (requestCancel x now₂) s₁) := by
  cases hx : s.locate x with
  | none =>
    rw [exec_requestCancel_of_unknown hx] at h₁
    obtain ⟨rfl, rfl⟩ := Prod.mk.inj h₁
    rw [exec_requestCancel_of_unknown hx]
    exact ⟨rfl, .inr ⟨_, rfl, rfl⟩⟩
  | some loc =>
  obtain ⟨T, ended⟩ := loc
  cases ht : Table.find? s.tops T with
  | none =>
    rw [exec_requestCancel_of_lost hx ht] at h₁
    obtain ⟨rfl, rfl⟩ := Prod.mk.inj h₁
    rw [exec_requestCancel_of_lost hx ht]
    exact ⟨rfl, .inr ⟨_, rfl, rfl⟩⟩
  | some t =>
  cases he : ended || t.status.isTerminal
  case true =>
    rw [exec_requestCancel_of_ended hx ht he] at h₁
    obtain ⟨rfl, rfl⟩ := Prod.mk.inj h₁
    exact repeatsQuietly_of_ended hx ht he now₂
  obtain ⟨hn, htn⟩ : ended = false ∧ t.status.isTerminal = false := by simpa using he
  cases h0 : Table.find? s.tops x with
  | some t' =>
    simp only [locate, h0, Option.some.injEq, Prod.mk.injEq] at hx
    obtain ⟨-, rfl⟩ := hx
    exact hl.requestCancel_top_again h0 hn h₁ hl₁ hd₁ now₂
  | none =>
  cases h1 : Table.find? s.parents x with
  | some p =>
    simp only [locate, h0, h1, Option.some.injEq, Prod.mk.injEq] at hx
    obtain ⟨rfl, rfl⟩ := hx
    exact hl.requestCancel_parent_again h0 h1 ht hn htn h₁ hd₁ now₂
  | none =>
  cases h2 : Table.find? s.children x with
  | some c =>
    simp only [locate, h0, h1, h2, Option.some.injEq, Prod.mk.injEq] at hx
    obtain ⟨rfl, rfl⟩ := hx
    exact hl.requestCancel_child_again hd h0 h1 h2 ht hn htn h₁ now₂
  | none => simp [locate, h0, h1, h2] at hx

end Twice

end Store

/-- **A cancel asked for twice.** In a reachable store, a cancel of any task made again right after the first
writes nothing, and its outcome names nothing cancelled, unless it fails as the first one failed: on a task the
store does not hold, or on the overflow of a roll-up's byte sum. -/
theorem Reachable.requestCancel_again_changes_nothing {s : Store} (h : Reachable s) (x : TaskId) (now₁ now₂ : Stamp) :
    let first := Store.exec (Store.requestCancel x now₁) s
    let second := Store.exec (Store.requestCancel x now₂) first.2
    second.2 = first.2 ∧
      ((∃ out, second.1 = .ok out ∧ out.cancelled = []) ∨ ∃ e, first.1 = .error e ∧ second.1 = .error e) := by
  intro first second
  have h₁ : Reachable first.2 := by
    have hc := Reachable.call (Call.requestCancel x now₁) h trivial
    rwa [Call.run, Store.exec_discard_state] at hc
  exact h.linked.requestCancel_twice h.topsDerived rfl h₁.linked h₁.topsDerived now₂

/-- A transfer whose one parent a worker holds, cancelled twice: the second cancel reports the parent in flight
again and writes nothing. -/
theorem held_parent_cancel_twice :
    let t₀ : Top := Top.fresh ⟨⟨1⟩⟩ "ta" "alice" none 0
    let w : WorkerId := ⟨⟨3⟩⟩
    let s := [Call.registerWorker ⟨w, "h1", 0, 0⟩, .assign .parent ⟨⟨2⟩⟩ w].foldl (fun s c => (Store.exec c.run s).2)
      (Store.exec (Call.createTransfer t₀ [Parent.fresh ⟨⟨2⟩⟩ t₀ "mem://src/a" "mem://dst/a" false 0]).run {}).2
    let first := Store.exec (Store.requestCancel t₀.id 5) s
    let second := Store.exec (Store.requestCancel t₀.id 6) first.2
    Reachable s ∧ second.2 = first.2 ∧
      ((∃ out, second.1 = .ok out ∧ out.cancelled = []) ∨ ∃ e, first.1 = .error e ∧ second.1 = .error e) := by
  intro t₀ w s first second
  have hadm : ({} : Store).Admits t₀ [Parent.fresh ⟨⟨2⟩⟩ t₀ "mem://src/a" "mem://dst/a" false 0] :=
    Store.admits_empty ⟨_, _, _, _, rfl⟩ (fun p hp => by rw [List.mem_singleton.1 hp]; exact ⟨_, _, _, _, rfl⟩)
      (by decide) (by decide)
  have hr : Reachable s := Reachable.foldl_calls (.call (.createTransfer _ _) .empty hadm) fun c hc _ => by
    simp only [List.mem_cons, List.not_mem_nil, or_false] at hc
    rcases hc with rfl | rfl <;> trivial
  exact ⟨hr, Reachable.requestCancel_again_changes_nothing hr t₀.id 5 6⟩

end Conveyor
