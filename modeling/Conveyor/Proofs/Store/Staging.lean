import Conveyor.Proofs.Store.Attempts
import Conveyor.Proofs.Store.Bytes
import Conveyor.Proofs.Store.TopStatus

/-!
# What the commit of a parent's staging fixes

A parent gets its total size once, when the commit of its staging succeeds, and the commit fixes with it
the count and the list of the parent's children. Nothing changes them afterwards:

* `Store.stagingOf`: what a parent with a total has fixed (a `Staging`): its fixed part (`Parent.fixed`),
  the ids listed for it, and the fixed part of each listed child (`Child.fixed`).
* `Store.stagingOf_blind`: the progress of tasks never moves it, nor does a submission
  (`stagingOf_createTransfer`) or the start of an attempt (`keeps_beginChildAttempt`).
* `Store.StagingsSound.commitStaging_ok`: a commit that succeeds writes the staging of its parent, which
  had none since the parent was staging, and the staging is sound (`Staging.Sound`): the total is the sum
  of the children's declared sizes, the count is theirs, and each child is recorded under the parent with
  its transfer, tenant and option. A commit that fails writes no staging.
* `Runs`: the moves of a run of the store (calls, drawn ids, restored snapshots), made in turn from a
  store; the stores runs reach from the empty one are the reachable ones (`reachable_iff_runs`).
* `Runs.staging_committed`: in a store a run reaches, a parent has a total exactly when the run committed
  its staging; the total and the count are those of the children listed for it, and no later run changes
  any of this.
-/

namespace Conveyor

namespace Store

variable {s : Store}

/-- A new child keeps its parent's id, transfer, tenant and option. -/
theorem linked_of_mem_newChildren {p : Parent} {specs : List ChildSpec} {now : Stamp} {c : Child}
    (h : c ∈ s.newChildren p specs now) :
    c.parent = p.id ∧ c.top = p.top ∧ c.tenant = p.tenant ∧ c.optional = p.optional := by
  obtain ⟨i, hi, rfl⟩ := List.mem_mapIdx.1 h
  exact ⟨rfl, rfl, rfl, rfl⟩

end Store

/-! ## Stagings -/

/-- What the commit of a parent's staging fixes: the parent's fixed part, the ids of its children, and the
fixed part of each child found under them. -/
structure Staging where
  parent : Parent.Fixed
  childIds : List TaskId
  children : List Child.Fixed
deriving DecidableEq, Repr

/-- A staging of parent \x60id\x60 whose total is the sum of its children's declared sizes and whose count is
theirs, every listed child found and recorded under \x60id\x60 with the parent's transfer, tenant and option. -/
structure Staging.Sound (st : Staging) (id : TaskId) : Prop where
  total : st.parent.totalBytes = some ((st.children.map (·.size)).foldl (· + ·) 0)
  count : st.parent.childCount = st.childIds.length
  recorded : st.children.length = st.childIds.length
  linked : ∀ c ∈ st.children, c.parent = id ∧ c.top = st.parent.top ∧ c.tenant = st.parent.tenant ∧
    c.optional = st.parent.optional

namespace Store

/-- What the commit of parent \x60id\x60 fixed, once the parent has a total. -/
def stagingOf (s : Store) (id : TaskId) : Option Staging :=
  ((Table.find? s.parents id).map Parent.fixed).bind fun f =>
    if f.totalBytes.isSome then some ⟨f, s.childIds id, (s.childRecords id).map Child.fixed⟩ else none

/-- Every staging of the store is sound, and its parent is past staging. -/
def StagingsSound (s : Store) : Prop :=
  ∀ id st, s.stagingOf id = some st →
    st.Sound id ∧ ∃ p, Table.find? s.parents id = some p ∧ p.status.pastStaging = true

variable {s s' : Store} {id : TaskId} {w : WorkerId} {now : Stamp}

theorem stagingOf_eq_some {st : Staging} :
    s.stagingOf id = some st ↔ ∃ p, Table.find? s.parents id = some p ∧ p.totalBytes.isSome = true ∧
      st = ⟨p.fixed, s.childIds id, (s.childRecords id).map Child.fixed⟩ := by
  unfold stagingOf
  cases h : Table.find? s.parents id with
  | none => simp
  | some p =>
    simp only [Option.map_some, Option.bind_some]
    constructor
    · intro he
      split at he
      · cases he
        exact ⟨p, rfl, ‹_›, rfl⟩
      · cases he
    · rintro ⟨p₀, hp₀, ht, rfl⟩
      cases hp₀
      exact if_pos ht

theorem stagingOf_congr
    (hp : (Table.find? s'.parents id).map Parent.fixed = (Table.find? s.parents id).map Parent.fixed)
    (hc : s'.childIds id = s.childIds id)
    (hr : (s'.childRecords id).map Child.fixed = (s.childRecords id).map Child.fixed) :
    s'.stagingOf id = s.stagingOf id := by
  unfold stagingOf
  rw [hp, hc, hr]

theorem stagingsSound_empty : StagingsSound {} := fun id st h => by
  simp [stagingOf, Table.find?_nil] at h

/-- A store that keeps every staging and lets no parent with a total fall back from past staging keeps
every staging sound. -/
theorem StagingsSound.of_kept (h : s.StagingsSound) (hk : s'.stagingOf = s.stagingOf)
    (hp : ∀ id p p', Table.find? s.parents id = some p → Table.find? s'.parents id = some p' →
      p.status.pastStaging = true → p'.status.pastStaging = true) :
    s'.StagingsSound := by
  intro id st hst
  obtain ⟨hsound, p, hp₀, hpast⟩ := h id st (hk ▸ hst)
  obtain ⟨p', hp', -, -⟩ := stagingOf_eq_some.1 hst
  exact ⟨hsound, p', hp', hp id p p' hp₀ hp' hpast⟩

/-- A parent not yet past staging has no staging, where every staging is sound. -/
theorem StagingsSound.stagingOf_eq_none (h : s.StagingsSound) {p : Parent} (hp : Table.find? s.parents id = some p)
    (hs : p.status.pastStaging = false) : s.stagingOf id = none := by
  cases hst : s.stagingOf id with
  | none => rfl
  | some st =>
    obtain ⟨-, p₀, hp₀, hpast⟩ := h id st hst
    rw [hp] at hp₀
    cases hp₀
    rw [hs] at hpast
    cases hpast

/-! ## Writes that keep every staging -/

/-- A child written with what it keeps from its creation leaves every staging. -/
theorem stagingOf_putChild {c c' : Child} (h : Table.find? s.children c'.id = some c) (hf : c'.fixed = c.fixed) :
    stagingOf { s with children := Table.put s.children c' } = s.stagingOf := by
  funext id
  refine stagingOf_congr rfl rfl ?_
  simp only [childRecords, List.map_filterMap]
  exact List.filterMap_congr fun cid _ => Table.map_find?_put h hf cid

/-- A parent written with what it keeps from its creation leaves every staging. -/
theorem stagingOf_putParent {p p' : Parent} (h : Table.find? s.parents p'.id = some p) (hf : p'.fixed = p.fixed) :
    stagingOf { s with parents := Table.put s.parents p' } = s.stagingOf :=
  funext fun id => stagingOf_congr (Table.map_find?_put h hf id) rfl rfl

theorem Reassigned.stagingOf_eq (h : Reassigned s s') : s'.stagingOf = s.stagingOf := by
  obtain ⟨g, hg⟩ := h.find?_parents
  obtain ⟨g', hg'⟩ := h.find?_children
  have hc : ∀ pid, s'.childIds pid = s.childIds pid := fun pid => by simp only [childIds, h.childLists]
  funext id
  refine stagingOf_congr ?_ (hc id) ?_
  · rw [hg, Option.map_map]
    rfl
  · simp only [childRecords, hc, List.map_filterMap, hg', Option.map_map]
    rfl

/-- What commits fixed is blind to the progress of tasks. -/
theorem stagingOf_blind : Blind stagingOf where
  putTop _ _ := rfl
  putParent _ _ _ h hf := stagingOf_putParent h hf
  putChild _ _ _ h hf _ := stagingOf_putChild h hf
  marks _ _ := rfl
  reassigned _ _ h := h.stagingOf_eq

/-- The start of an attempt writes its child with what the child keeps from its creation. -/
theorem keeps_beginChildAttempt : Keeps stagingOf (beginChildAttempt id w now) :=
  stagingOf_blind.keeps_beginChildAttempt_of_fixed fun _ _ _ h hf => stagingOf_putChild h hf

/-- A submission adds parents with no total, under new ids. -/
theorem stagingOf_createTransfer (hl : s.Linked) {t : Top} {ps : List Parent} (ha : s.Admits t ps) :
    stagingOf (exec (createTransfer t ps) s).2 = s.stagingOf := by
  have hnew : ∀ q ∈ ps, q.totalBytes = none := fun q hq => by
    obtain ⟨_, _, _, _, hq'⟩ := ha.parents_new q hq
    rw [hq']
    rfl
  rcases exec_createTransfer (s := s) t ps with h | ⟨-, -, h⟩
  · rw [h]
  · rw [h, (hl.admits_tables ha).1]
    funext id
    simp only [stagingOf, Table.find?_append]
    cases hp : Table.find? s.parents id with
    | some p => rfl
    | none =>
      cases hq : Table.find? ps id with
      | none => rfl
      | some q => simp [Parent.fixed, hnew q (Table.find?_eq_some hq).1]

theorem StagingsSound.createTransfer (hl : s.Linked) (h : s.StagingsSound) {t : Top} {ps : List Parent}
    (ha : s.Admits t ps) : (exec (Store.createTransfer t ps) s).2.StagingsSound := by
  refine h.of_kept (stagingOf_createTransfer hl ha) fun id p p' hp hp' hpast => ?_
  rcases exec_createTransfer (s := s) t ps with he | ⟨-, -, he⟩
  · rw [he, hp] at hp'
    cases hp'
    exact hpast
  · rw [he] at hp'
    simp only [(hl.admits_tables ha).1, Table.find?_append, hp, Option.some_or, Option.some.injEq] at hp'
    rw [← hp']
    exact hpast

/-- Every call but a submission and a commit keeps every staging. -/
theorem stagingOf_call (c : Call) (ha : c.addsTasks = false) (s : Store) :
    (exec c.run s).2.stagingOf = s.stagingOf := by
  cases hs : c.startsAttempt
  · exact stagingOf_blind.keeps_call c ha hs s
  · cases c <;> simp only [Call.startsAttempt, Bool.false_eq_true] at hs
    exact keeps_discard keeps_beginChildAttempt s

/-- Every call but a submission and a commit writes records over records of the same links. -/
theorem Call.revises (c : Call) (ha : c.addsTasks = false) : Revises c.run := by
  cases hw : c.writesTasks
  · exact fun s => Revised.of_reassigned (c.keepsTasks hw s).1
  · cases c <;> simp only [Call.writesTasks, Call.addsTasks, Bool.false_eq_true, Bool.true_eq_false] at hw ha <;>
      simp only [Call.run]
    case requestCancel id now => exact (revises_requestCancel id now).discard
    case beginStaging => exact revises_beginStaging.discard
    case recordParentRetry => exact revises_recordParentRetry.discard
    case startParent => exact revises_startParent.discard
    case finishParent => exact (revises_finishParent _ _).discard
    case beginChildAttempt => exact revises_beginChildAttempt.discard
    case recordProgress => exact revises_recordProgress _
    case finishChild => exact (revises_finishChild _ _ _).discard

theorem StagingsSound.call (h : s.StagingsSound) (c : Call) (ha : c.addsTasks = false) :
    (exec c.run s).2.StagingsSound :=
  h.of_kept (stagingOf_call c ha s) fun id p p' hp hp' hpast => by
    obtain ⟨p₀, hp₀, -, hmono⟩ := (Call.revises c ha s).parents hp'
    rw [hp] at hp₀
    cases hp₀
    exact hmono hpast

theorem SameRecords.stagingOf_eq {r : Store} (h : SameRecords s r) (hl : s.Linked) : r.stagingOf = s.stagingOf := by
  have hfind : Table.find? r.children = Table.find? s.children := funext (h.find?_children hl)
  funext id
  refine stagingOf_congr (by rw [h.find?_parents hl]) (h.childIds id) ?_
  simp only [childRecords, h.childIds, hfind]

theorem StagingsSound.of_sameRecords {r : Store} (h : s.StagingsSound) (hr : SameRecords s r) (hl : s.Linked) :
    r.StagingsSound :=
  h.of_kept (hr.stagingOf_eq hl) fun id p p' hp hp' hpast => by
    rw [hr.find?_parents hl, hp] at hp'
    cases hp'
    exact hpast

/-! ## The commit -/

/-- A commit that fails writes at most the count of invented ids. -/
theorem exec_commitStaging_of_fails {specs : List ChildSpec}
    (h : ∀ cs, (exec (commitStaging id w specs now) s).1 ≠ .ok cs) :
    ∃ n, (exec (commitStaging id w specs now) s).2 = { s with serial := n } := by
  rcases @exec_commitStaging_cases s id w now specs with ⟨e, he⟩ | ⟨p, p', -, -, -, ⟨e, -, he⟩ | ⟨total, -, he⟩⟩
  · exact ⟨s.serial, by rw [he]⟩
  · exact ⟨_, by rw [he]⟩
  · exact absurd (by rw [he]) (h _)

/-- The staging a commit writes is sound: its total is the checked sum of the new children's sizes, and each
new child carries the parent's links. -/
theorem sound_commitStaging {p p' : Parent} {specs : List ChildSpec} {total : Nat} (hpid : p.id = id)
    (hm : p.moveTo .staged now = .ok p')
    (ht : Word.sum Word.max64 ((s.newChildren p specs now).map (·.size)) = .ok total) :
    Staging.Sound ⟨{ p' with totalBytes := some total, childCount := specs.length, bytes := 0 }.fixed,
      (s.newChildren p specs now).map (·.id), (s.newChildren p specs now).map Child.fixed⟩ id := by
  have hlen : (s.newChildren p specs now).length = specs.length := by simp [newChildren]
  obtain ⟨-, rfl⟩ := Parent.moveTo_ok hm
  refine ⟨?_, by simp [Parent.fixed, hlen], by simp, fun c hc => ?_⟩
  · show some total = some ((((s.newChildren p specs now).map Child.fixed).map (·.size)).foldl (· + ·) 0)
    rw [List.map_map, Word.eq_foldl_of_sum_ok ht]
    rfl
  · obtain ⟨c₀, hc₀, rfl⟩ := List.mem_map.1 hc
    obtain ⟨h₁, h₂, h₃, h₄⟩ := linked_of_mem_newChildren hc₀
    exact ⟨h₁.trans hpid, h₂, h₃, h₄⟩

/-- A commit that succeeds writes the staging of its parent, sound, where there was none, and keeps every
other staging. -/
theorem StagingsSound.commitStaging_ok (hl : s.Linked) (h : s.StagingsSound) {specs : List ChildSpec}
    {cs : List Child} (hok : (exec (commitStaging id w specs now) s).1 = .ok cs) :
    (exec (commitStaging id w specs now) s).2.StagingsSound ∧ s.stagingOf id = none ∧
      ((exec (commitStaging id w specs now) s).2.stagingOf id).isSome ∧
      ∀ id', id' ≠ id → (exec (commitStaging id w specs now) s).2.stagingOf id' = s.stagingOf id' := by
  obtain ⟨p, p', total, hp, hm, ht, he⟩ := exec_commitStaging_ok hok
  have hpid : p.id = id := (Table.find?_eq_some hp).2
  have hstaging : p.status = .staging := Kind.eq_staging_of_canMove_staged (Parent.moveTo_ok hm).1
  obtain ⟨hid', -, hst'⟩ := Parent.moveTo_links hm
  have hnone : s.stagingOf id = none := h.stagingOf_eq_none hp (by rw [hstaging]; rfl)
  obtain ⟨q, hq⟩ : ∃ q : Parent, q = { p' with totalBytes := some total, childCount := specs.length, bytes := 0 } :=
    ⟨_, rfl⟩
  have hqid : Keyed.key q = id := by rw [hq]; exact hid'.trans hpid
  obtain ⟨hpar, hlists, hchildren⟩ : (exec (commitStaging id w specs now) s).2.parents = Table.put s.parents q ∧
      (exec (commitStaging id w specs now) s).2.childLists =
        setChildList s.childLists id ((s.newChildren p specs now).map (·.id)) ∧
      (exec (commitStaging id w specs now) s).2.children = (s.newChildren p specs now).foldl Table.put s.children := by
    rw [he, hq]
    exact ⟨rfl, rfl, rfl⟩
  generalize (exec (commitStaging id w specs now) s).2 = s' at hpar hlists hchildren ⊢
  have hlist := childIds_of_childLists hlists
  have hrecs : s'.childRecords id = s.newChildren p specs now := childRecords_of_commit hlists hchildren
  have hfindq : Table.find? s'.parents id = some q := by rw [hpar, ← hqid, Table.find?_put_self]
  have hnew : s'.stagingOf id = some ⟨q.fixed, (s.newChildren p specs now).map (·.id),
      (s.newChildren p specs now).map Child.fixed⟩ := by
    refine stagingOf_eq_some.2 ⟨q, hfindq, by rw [hq]; rfl, ?_⟩
    rw [hlist, if_pos rfl, hrecs]
  have hsound : Staging.Sound ⟨q.fixed, (s.newChildren p specs now).map (·.id),
      (s.newChildren p specs now).map Child.fixed⟩ id := by
    rw [hq]
    exact sound_commitStaging hpid hm ht
  have hkeep : ∀ id', id' ≠ id →
      s'.stagingOf id' = s.stagingOf id' ∧ Table.find? s'.parents id' = Table.find? s.parents id' := by
    intro id' hne
    have hfind : Table.find? s'.parents id' = Table.find? s.parents id' := by
      rw [hpar]
      exact Table.find?_put_of_ne _ _ (by rw [hqid]; exact Ne.symm hne)
    refine ⟨stagingOf_congr (by rw [hfind]) (by rw [hlist, if_neg hne]) ?_, hfind⟩
    rw [hl.childRecords_of_new (newChildren_ids p specs now) hlists hchildren hne]
  refine ⟨fun id' st hst => ?_, hnone, by rw [hnew]; rfl, fun id' hne => (hkeep id' hne).1⟩
  by_cases hid : id' = id
  · subst hid
    rw [hnew, Option.some.injEq] at hst
    subst hst
    refine ⟨hsound, q, hfindq, ?_⟩
    rw [hq]
    show p'.status.pastStaging = true
    rw [hst']
    rfl
  · obtain ⟨hsk, hfind⟩ := hkeep id' hid
    obtain ⟨hsound', p₀, hp₀, hpast⟩ := h id' st (hsk ▸ hst)
    exact ⟨hsound', p₀, hfind.trans hp₀, hpast⟩

end Store

/-! ## Runs -/

/-- One step a run of the task store takes: a call, the drawing of a fresh id, or a snapshot taken and
restored. -/
inductive Move where
  | call (c : Call)
  | draw
  | restore (now : Stamp)

namespace Move

/-- The store after the move. -/
def apply : Move → Store → Store
  | call c, s => (Store.exec c.run s).2
  | draw, s => (Store.exec Store.freshId s).2
  | restore now, s => Store.ofSnapshot (s.capture now) s.serial

/-- What a move must meet to be made: only a submission has a condition. -/
def Admitted : Move → Store → Prop
  | call c, s => c.Admitted s
  | _, _ => True

/-- The move is a commit of the staging of parent \x60id\x60 that succeeds. -/
def Commits (id : TaskId) : Move → Store → Prop
  | call (.commitStaging id' w specs now), s =>
    id' = id ∧ ∃ cs, (Store.exec (Store.commitStaging id' w specs now) s).1 = .ok cs
  | _, _ => False

/-- Some move of the run from \x60s\x60 is a commit of the staging of parent \x60id\x60 that succeeds. -/
def CommitsAlong (id : TaskId) : Store → List Move → Prop
  | _, [] => False
  | s, m :: ms => m.Commits id s ∨ CommitsAlong id (m.apply s) ms

end Move

/-- The moves \x60ms\x60, made in turn from \x60s\x60 each where it is admitted, end in \x60s'\x60. -/
inductive Runs : Store → List Move → Store → Prop where
  | nil (s : Store) : Runs s [] s
  | cons {s s' : Store} {m : Move} {ms : List Move} : m.Admitted s → Runs (m.apply s) ms s' → Runs s (m :: ms) s'

theorem Reachable.move {s : Store} (h : Reachable s) {m : Move} (hm : m.Admitted s) : Reachable (m.apply s) := by
  cases m with
  | call c => exact .call c h hm
  | draw => exact .draw h
  | restore now => exact .restore now h

namespace Runs

variable {s s' : Store} {ms : List Move}

theorem snoc (h : Runs s ms s') {m : Move} (hm : m.Admitted s') : Runs s (ms ++ [m]) (m.apply s') := by
  induction h with
  | nil s => exact .cons hm (.nil _)
  | cons ha _ ih => exact .cons ha (ih hm)

theorem reachable (h : Runs s ms s') (hs : Reachable s) : Reachable s' := by
  induction h with
  | nil => exact hs
  | cons ha _ ih => exact ih (hs.move ha)

/-- Moves that need no condition, made in turn, are a run. -/
theorem foldl (hms : ∀ m ∈ ms, ∀ s, m.Admitted s) (s : Store) : Runs s ms (ms.foldl (fun s m => m.apply s) s) := by
  induction ms generalizing s with
  | nil => exact .nil s
  | cons m ms ih =>
    exact .cons (hms m List.mem_cons_self s) (ih (fun m' hm' => hms m' (List.mem_cons_of_mem _ hm')) _)

end Runs

/-- The stores that runs from the empty store reach are the reachable ones. -/
theorem reachable_iff_runs {s : Store} : Reachable s ↔ ∃ ms, Runs {} ms s := by
  constructor
  · intro h
    induction h with
    | empty => exact ⟨[], .nil _⟩
    | call c _ ha ih =>
      obtain ⟨ms, hms⟩ := ih
      exact ⟨ms ++ [.call c], hms.snoc (m := .call c) ha⟩
    | draw _ ih =>
      obtain ⟨ms, hms⟩ := ih
      exact ⟨ms ++ [.draw], hms.snoc (m := .draw) trivial⟩
    | restore now _ ih =>
      obtain ⟨ms, hms⟩ := ih
      exact ⟨ms ++ [.restore now], hms.snoc (m := .restore now) trivial⟩
  · rintro ⟨ms, h⟩
    exact h.reachable .empty

namespace Store

variable {s : Store}

theorem Linked.move (hl : s.Linked) {m : Move} (hm : m.Admitted s) : (m.apply s).Linked := by
  cases m with
  | call c => exact hl.call c hm
  | draw => exact hl.bumpSerial 1
  | restore now => exact (hl.sameRecords_restore now).linked hl

/-- One move keeps every staging sound; and it keeps the staging of \x60id\x60, or it is the commit of \x60id\x60,
which finds none and leaves one. -/
theorem StagingsSound.move (hl : s.Linked) (h : s.StagingsSound) {m : Move} (hm : m.Admitted s) :
    (m.apply s).StagingsSound ∧ ∀ id, (m.apply s).stagingOf id = s.stagingOf id ∧ ¬ m.Commits id s ∨
      m.Commits id s ∧ s.stagingOf id = none ∧ ((m.apply s).stagingOf id).isSome := by
  cases m with
  | draw => exact ⟨h, fun id => .inl ⟨rfl, not_false⟩⟩
  | restore now =>
    have hr := hl.sameRecords_restore now
    exact ⟨h.of_sameRecords hr hl, fun id => .inl ⟨congrFun (hr.stagingOf_eq hl) id, not_false⟩⟩
  | call c =>
    cases c
    case createTransfer t ps =>
      have hk : (Move.apply (.call (.createTransfer t ps)) s).stagingOf = s.stagingOf := by
        simp only [Move.apply, Call.run, exec_discard_state]
        exact stagingOf_createTransfer hl hm
      refine ⟨?_, fun id => .inl ⟨congrFun hk id, not_false⟩⟩
      simp only [Move.apply, Call.run, exec_discard_state]
      exact h.createTransfer hl hm
    case commitStaging id' w specs now =>
      simp only [Move.apply, Call.run, exec_discard_state, Move.Commits]
      by_cases hok : ∃ cs, (exec (commitStaging id' w specs now) s).1 = .ok cs
      · obtain ⟨cs, hcs⟩ := hok
        obtain ⟨hs', hnone, hsome, hkeep⟩ := h.commitStaging_ok hl hcs
        refine ⟨hs', fun id => ?_⟩
        by_cases hid : id' = id
        · subst hid
          exact .inr ⟨⟨rfl, cs, hcs⟩, hnone, hsome⟩
        · exact .inl ⟨hkeep id (Ne.symm hid), fun hc => hid hc.1⟩
      · obtain ⟨n, hn⟩ := exec_commitStaging_of_fails fun cs hcs => hok ⟨cs, hcs⟩
        rw [hn]
        exact ⟨h, fun id => .inl ⟨rfl, fun hc => hok hc.2⟩⟩
    all_goals exact ⟨h.call _ rfl, fun id => .inl ⟨congrFun (stagingOf_call _ rfl s) id, not_false⟩⟩

end Store

/-- Along a run from a linked store whose stagings are sound, the store stays linked with sound stagings;
a staging there at the start stays as it is, and one is there at the end exactly when it was there at the
start or a commit of the run wrote it. -/
theorem Runs.stagings {s s' : Store} {ms : List Move} (h : Runs s ms s') (hl : s.Linked) (hs : s.StagingsSound) :
    s'.Linked ∧ s'.StagingsSound ∧ ∀ id,
      ((s'.stagingOf id).isSome ↔ (s.stagingOf id).isSome ∨ Move.CommitsAlong id s ms) ∧
      ((s.stagingOf id).isSome → s'.stagingOf id = s.stagingOf id) := by
  induction h with
  | nil s => exact ⟨hl, hs, fun id => ⟨by simp [Move.CommitsAlong], fun _ => rfl⟩⟩
  | @cons s s' m ms hm _ ih =>
    obtain ⟨hs₁, hstep⟩ := hs.move hl hm
    obtain ⟨hl', hs', hrun⟩ := ih (hl.move hm) hs₁
    refine ⟨hl', hs', fun id => ?_⟩
    obtain ⟨hiff, hkeep⟩ := hrun id
    rcases hstep id with ⟨heq, hnc⟩ | ⟨hc, hnone, hsome⟩
    · -- the move keeps the staging of \x60id\x60 and does not commit it
      rw [heq] at hiff hkeep
      exact ⟨by simp only [Move.CommitsAlong, hnc, false_or, hiff], hkeep⟩
    · -- the move commits \x60id\x60: a staging from then on, none before
      refine ⟨?_, fun hs₀ => by rw [hnone] at hs₀; cases hs₀⟩
      simp only [Move.CommitsAlong, hc, true_or, or_true, iff_true]
      rw [hkeep hsome]
      exact hsome

/-- In a store a run from the empty store reaches, a parent has a total exactly when the run committed its
staging. The total is then the sum of the declared sizes of the children listed for the parent, its count
is their number, each of them is recorded under the parent with its transfer, tenant and option, and no
later run changes the parent's fixed part, its list of children or what each of them keeps. -/
theorem Runs.staging_committed {ms : List Move} {s : Store} (h : Runs {} ms s) {id : TaskId} {p : Parent}
    (hp : Table.find? s.parents id = some p) :
    (p.totalBytes.isSome ↔ Move.CommitsAlong id {} ms) ∧
    (∀ t, p.totalBytes = some t →
      t = ((s.childRecords id).map (·.size)).foldl (· + ·) 0 ∧ p.childCount = (s.childIds id).length ∧
      (s.childRecords id).length = (s.childIds id).length ∧
      ∀ c ∈ s.childRecords id, c.parent = id ∧ c.top = p.top ∧ c.tenant = p.tenant ∧ c.optional = p.optional) ∧
    (p.totalBytes.isSome → ∀ ms' s', Runs s ms' s' →
      ∃ p', Table.find? s'.parents id = some p' ∧ p'.fixed = p.fixed ∧ s'.childIds id = s.childIds id ∧
        (s'.childRecords id).map Child.fixed = (s.childRecords id).map Child.fixed) := by
  obtain ⟨hl, hs, hrun⟩ := h.stagings Store.linked_empty Store.stagingsSound_empty
  have hst : p.totalBytes.isSome = true →
      s.stagingOf id = some ⟨p.fixed, s.childIds id, (s.childRecords id).map Child.fixed⟩ :=
    fun ht => Store.stagingOf_eq_some.2 ⟨p, hp, ht, rfl⟩
  have hsome : (s.stagingOf id).isSome = p.totalBytes.isSome := by
    cases ht : p.totalBytes.isSome
    · cases he : s.stagingOf id with
      | none => rfl
      | some st =>
        obtain ⟨p', hp', ht', -⟩ := Store.stagingOf_eq_some.1 he
        rw [hp, Option.some.injEq] at hp'
        rw [← hp', ht] at ht'
        cases ht'
    · rw [hst ht]
      rfl
  refine ⟨?_, fun t ht => ?_, fun ht ms' s' h' => ?_⟩
  · rw [← hsome, (hrun id).1]
    simp [Store.stagingOf, Table.find?_nil]
  · obtain ⟨⟨htotal, hcount, hrec, hlinked⟩, -⟩ := hs id _ (hst (by rw [ht]; rfl))
    refine ⟨?_, hcount, by simpa using hrec, fun c hc => hlinked c.fixed (List.mem_map_of_mem hc)⟩
    have htotal' : p.totalBytes = some ((((s.childRecords id).map Child.fixed).map (·.size)).foldl (· + ·) 0) :=
      htotal
    rw [ht, List.map_map, Option.some.injEq] at htotal'
    exact htotal'
  · obtain ⟨-, -, hrun'⟩ := h'.stagings hl hs
    have hkeep := (hrun' id).2 (by rw [hst ht]; rfl)
    rw [hst ht] at hkeep
    obtain ⟨p', hp', -, he⟩ := Store.stagingOf_eq_some.1 hkeep
    simp only [Staging.mk.injEq] at he
    exact ⟨p', hp', he.1.symm, he.2.1.symm, he.2.2.symm⟩

set_option maxRecDepth 1000 in
/-- A commit of two children of 10 and 4 bytes gives their parent a total of 14, and the run commits it. -/
theorem committed_parent_total :
    let t₀ : Top := Top.fresh ⟨⟨1⟩⟩ "ta" "alice" none 0
    let p₀ : Parent := Parent.fresh ⟨⟨2⟩⟩ t₀ "mem://src/in" "mem://dst/out" false 1
    let w : WorkerId := ⟨⟨3⟩⟩
    let m₀ := Move.call (.createTransfer t₀ [p₀])
    let ms := [Move.call (.registerWorker ⟨w, "h1", 0, 0⟩), .call (.assign .parent p₀.id w),
      .call (.beginStaging p₀.id w 2),
      .call (.commitStaging p₀.id w [⟨"/src/a", "/dst/a", 10⟩, ⟨"/src/b", "/dst/b", 4⟩] 3)]
    let s := ms.foldl (fun s m => m.apply s) (m₀.apply {})
    Runs {} (m₀ :: ms) s ∧ ∃ p, Table.find? s.parents p₀.id = some p ∧ p.totalBytes = some 14 ∧
      Move.CommitsAlong p₀.id {} (m₀ :: ms) := by
  intro t₀ p₀ w m₀ ms s
  have hadm : ({} : Store).Admits t₀ [p₀] :=
    Store.admits_empty ⟨_, _, _, _, rfl⟩ (fun p hp => by rw [List.mem_singleton.1 hp]; exact ⟨_, _, _, _, rfl⟩)
      (by decide) (by decide)
  have h : Runs {} (m₀ :: ms) s := .cons hadm (Runs.foldl (fun m hm _ => by
    simp only [ms, List.mem_cons, List.not_mem_nil, or_false] at hm
    rcases hm with rfl | rfl | rfl | rfl <;> trivial) _)
  have hp : (Table.find? s.parents p₀.id).isSome = true := by decide +kernel
  obtain ⟨p, hp⟩ := Option.isSome_iff_exists.1 hp
  have ht : p.totalBytes = some 14 := by
    have : (Table.find? s.parents p₀.id).map (·.totalBytes) = some (some 14) := by decide +kernel
    rw [hp] at this
    exact Option.some.inj this
  exact ⟨h, p, hp, ht, ((h.staging_committed hp).1).1 (by rw [ht]; rfl)⟩

end Conveyor
