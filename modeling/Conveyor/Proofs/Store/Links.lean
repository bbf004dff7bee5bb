import Conveyor.Proofs.Store.Reassign
import Conveyor.Proofs.Store.Calls

/-!
# How tasks are linked

A Top task names its parents in order, a parent names its transfer, a child names its parent and its
transfer, and the store keeps the children of each staged parent in creation order. `Store.Linked`
says that these links agree both ways, that no id is held twice, and that the ids the store invents
are those of children and never those of a transfer or a parent.

Most operations leave the links alone: they move statuses, counts and workers, and write each record
back under its own id. `Store.Revised s s'` says so of two stores.

* `Store.Linked.revised`: a revision keeps the links.
* `Store.Revises`: a program that revises every store it runs on, whatever its outcome; the helpers
  (`revises_refreshTop`, `revises_rollUpParent`, `revises_cancelParent`, …) and every operation but a
  submission and a commit of staging (`revises_requestCancel`, `revises_finishChild`, …) are such.
-/

namespace Conveyor

/-- Whether a parent in this status has been staged: only a staged parent has children. -/
def Status.pastStaging : Status → Bool
  | .accepted | .staging => false
  | _ => true

/-- The two statuses of staging, which only a parent takes. -/
def Status.inStaging : Status → Bool
  | .staging | .staged => true
  | _ => false

namespace Store

/-- The links between the tasks of a store agree. -/
structure Linked (s : Store) : Prop where
  /-- No two task records share an id. -/
  ids_nodup : s.taskIds.Nodup
  /-- A transfer names each of its parents once, and each is a parent of it. -/
  top_parents : ∀ {id t}, Table.find? s.tops id = some t →
    t.parents.Nodup ∧ ∀ pid ∈ t.parents, ∃ p, Table.find? s.parents pid = some p ∧ p.top = id
  /-- A parent's transfer names it. -/
  parent_top : ∀ {id p}, Table.find? s.parents id = some p →
    ∃ t, Table.find? s.tops p.top = some t ∧ id ∈ t.parents
  /-- A child's parent is staged, lists it, and belongs to the child's transfer. -/
  child_parent : ∀ {id c}, Table.find? s.children id = some c →
    ∃ p, Table.find? s.parents c.parent = some p ∧ p.status.pastStaging = true ∧ c.top = p.top ∧
      id ∈ s.childIds c.parent
  /-- A list of children names each child once, and each is a child of the parent. -/
  listed : ∀ pid, (s.childIds pid).Nodup ∧
    ∀ cid ∈ s.childIds pid, ∃ c, Table.find? s.children cid = some c ∧ c.parent = pid
  /-- Children hold ids the store invented before. -/
  spawned : ∀ id ∈ s.children.map (·.id), ∃ k < s.serial, id = ⟨Uuid.spawned k⟩
  /-- The store will never invent the id of a transfer or a parent. -/
  named : ∀ id ∈ s.tops.map (·.id) ++ s.parents.map (·.id), ∀ k, s.serial ≤ k → id ≠ ⟨Uuid.spawned k⟩
  /-- Only parents stage: a child is never staging or staged. -/
  child_status : ∀ {id c}, Table.find? s.children id = some c → c.status.inStaging = false

/-- The store \x60s'\x60 holds records under the ids of \x60s\x60, linked the same way: each transfer names
the same parents, each parent the same transfer, each child the same parent and transfer; a staged
parent stays staged and a child does not stage; the lists of children and the count of invented ids are kept. -/
structure Revised (s s' : Store) : Prop where
  top_ids : s'.tops.map (·.id) = s.tops.map (·.id)
  parent_ids : s'.parents.map (·.id) = s.parents.map (·.id)
  child_ids : s'.children.map (·.id) = s.children.map (·.id)
  tops : ∀ {id t'}, Table.find? s'.tops id = some t' → ∃ t, Table.find? s.tops id = some t ∧ t'.parents = t.parents
  parents : ∀ {id p'}, Table.find? s'.parents id = some p' → ∃ p, Table.find? s.parents id = some p ∧
    p'.top = p.top ∧ (p.status.pastStaging = true → p'.status.pastStaging = true)
  children : ∀ {id c'}, Table.find? s'.children id = some c' → ∃ c, Table.find? s.children id = some c ∧
    c'.parent = c.parent ∧ c'.top = c.top ∧ (c.status.inStaging = false → c'.status.inStaging = false)
  childLists : s'.childLists = s.childLists
  serial : s'.serial = s.serial

namespace Revised

variable {s s' s'' : Store}

/-- A store whose tasks are those of \x60s\x60, whatever its workers and marks. -/
theorem of_tasks {s' : Store} (ht : s'.tops = s.tops) (hp : s'.parents = s.parents) (hc : s'.children = s.children)
    (hl : s'.childLists = s.childLists) (hn : s'.serial = s.serial) : Revised s s' := by
  refine ⟨by rw [ht], by rw [hp], by rw [hc], fun h => ⟨_, ht ▸ h, rfl⟩, fun h => ⟨_, hp ▸ h, rfl, fun x => x⟩,
    fun h => ⟨_, hc ▸ h, rfl, rfl, fun x => x⟩, hl, hn⟩

theorem refl (s : Store) : Revised s s := of_tasks rfl rfl rfl rfl rfl

theorem trans (h₁ : Revised s s') (h₂ : Revised s' s'') : Revised s s'' := by
  refine ⟨h₂.top_ids.trans h₁.top_ids, h₂.parent_ids.trans h₁.parent_ids, h₂.child_ids.trans h₁.child_ids,
    fun h => ?_, fun h => ?_, fun h => ?_, h₂.childLists.trans h₁.childLists, h₂.serial.trans h₁.serial⟩
  · obtain ⟨t', h', e'⟩ := h₂.tops h
    obtain ⟨t, h, e⟩ := h₁.tops h'
    exact ⟨t, h, e'.trans e⟩
  · obtain ⟨p', h', e', st'⟩ := h₂.parents h
    obtain ⟨p, h, e, st⟩ := h₁.parents h'
    exact ⟨p, h, e'.trans e, st' ∘ st⟩
  · obtain ⟨c', h', e', f', g'⟩ := h₂.children h
    obtain ⟨c, h, e, f, g⟩ := h₁.children h'
    exact ⟨c, h, e'.trans e, f'.trans f, g' ∘ g⟩

theorem putTop {t t' : Top} (h : Table.find? s.tops t'.id = some t) (hp : t'.parents = t.parents) :
    Revised s { s with tops := Table.put s.tops t' } := by
  refine ⟨Table.keys_put_of_has (Table.has_of_find? h), rfl, rfl, fun {id x} h' => ?_,
    fun h => ⟨_, h, rfl, fun x => x⟩, fun h => ⟨_, h, rfl, rfl, fun x => x⟩, rfl, rfl⟩
  rw [Table.find?_put] at h'
  by_cases hk : t'.id = id
  · subst hk
    simp only [Keyed.key, if_true, Option.some.injEq] at h'
    exact ⟨t, h, h' ▸ hp⟩
  · exact ⟨_, by simpa [Keyed.key, hk] using h', rfl⟩

theorem putParent {p p' : Parent} (h : Table.find? s.parents p'.id = some p) (ht : p'.top = p.top)
    (hs : p.status.pastStaging = true → p'.status.pastStaging = true) :
    Revised s { s with parents := Table.put s.parents p' } := by
  refine ⟨rfl, Table.keys_put_of_has (Table.has_of_find? h), rfl, fun h => ⟨_, h, rfl⟩,
    fun {id x} h' => ?_, fun h => ⟨_, h, rfl, rfl, fun x => x⟩, rfl, rfl⟩
  rw [Table.find?_put] at h'
  by_cases hk : p'.id = id
  · subst hk
    simp only [Keyed.key, if_true, Option.some.injEq] at h'
    exact ⟨p, h, h' ▸ ht, h' ▸ hs⟩
  · exact ⟨_, by simpa [Keyed.key, hk] using h', rfl, fun x => x⟩

/-- A parent moved to a status past staging and written back released, with any error, revises the store. -/
theorem putReleased {id : TaskId} {p p' : Parent} {st : Status} {now : Stamp} (hp : Table.find? s.parents id = some p)
    (hm : p.moveTo st now = .ok p') (hst : st.pastStaging = true) (error : Option String) :
    Revised s { s with parents := Table.put s.parents { p' with worker := none, error } } := by
  obtain ⟨hid, htop, hs⟩ := Parent.moveTo_links hm
  exact putParent (Table.find?_of_key_eq hp hid) htop fun _ => by rw [hs]; exact hst

theorem putChild {c c' : Child} (h : Table.find? s.children c'.id = some c) (hp : c'.parent = c.parent)
    (ht : c'.top = c.top) (hs : c.status.inStaging = false → c'.status.inStaging = false) :
    Revised s { s with children := Table.put s.children c' } := by
  refine ⟨rfl, rfl, Table.keys_put_of_has (Table.has_of_find? h), fun h => ⟨_, h, rfl⟩,
    fun h => ⟨_, h, rfl, fun x => x⟩, fun {id x} h' => ?_, rfl, rfl⟩
  rw [Table.find?_put] at h'
  by_cases hk : c'.id = id
  · subst hk
    simp only [Keyed.key, if_true, Option.some.injEq] at h'
    exact ⟨c, h, h' ▸ hp, h' ▸ ht, h' ▸ hs⟩
  · exact ⟨_, by simpa [Keyed.key, hk] using h', rfl, rfl, fun x => x⟩

theorem of_marks (s : Store) (ms : List TaskId) : Revised s { s with marks := ms } := of_tasks rfl rfl rfl rfl rfl

theorem of_reassigned (h : Reassigned s s') : Revised s s' := by
  obtain ⟨f, hf⟩ := h.parents
  obtain ⟨g, hg⟩ := h.children
  obtain ⟨f', hf'⟩ := h.find?_parents
  obtain ⟨g', hg'⟩ := h.find?_children
  refine ⟨by rw [h.tops], by rw [hf, List.map_map]; rfl, by rw [hg, List.map_map]; rfl,
    fun h' => ⟨_, h.tops ▸ h', rfl⟩, fun {id x} h' => ?_, fun {id x} h' => ?_, h.childLists, h.serial⟩
  · rw [hf'] at h'
    obtain ⟨p, hp, rfl⟩ := Option.map_eq_some_iff.1 h'
    exact ⟨p, hp, rfl, fun x => x⟩
  · rw [hg'] at h'
    obtain ⟨c, hc, rfl⟩ := Option.map_eq_some_iff.1 h'
    exact ⟨c, hc, rfl, rfl, fun x => x⟩

theorem childIds_eq (h : Revised s s') (pid : TaskId) : s'.childIds pid = s.childIds pid := by
  simp only [childIds, h.childLists]

/-- A transfer is still there after a revision, with the same parents. -/
theorem exists_top (h : Revised s s') {id : TaskId} {t : Top} (ht : Table.find? s.tops id = some t) :
    ∃ t', Table.find? s'.tops id = some t' ∧ t'.parents = t.parents :=
  Table.exists_find?_of_back h.top_ids h.tops ht

/-- A parent is still there after a revision, under the same transfer, and no further back in its life. -/
theorem exists_parent (h : Revised s s') {id : TaskId} {p : Parent} (hp : Table.find? s.parents id = some p) :
    ∃ p', Table.find? s'.parents id = some p' ∧ p'.top = p.top ∧
      (p.status.pastStaging = true → p'.status.pastStaging = true) :=
  Table.exists_find?_of_back h.parent_ids h.parents hp

/-- A child is still there after a revision, under the same parent and transfer, and no further back in its
life. -/
theorem exists_child (h : Revised s s') {id : TaskId} {c : Child} (hc : Table.find? s.children id = some c) :
    ∃ c', Table.find? s'.children id = some c' ∧ c'.parent = c.parent ∧ c'.top = c.top ∧
      (c.status.inStaging = false → c'.status.inStaging = false) :=
  Table.exists_find?_of_back h.child_ids h.children hc

end Revised

variable {s s' : Store}

/-- A revision keeps the links. -/
theorem Linked.revised (hl : Linked s) (h : Revised s s') : Linked s' where
  ids_nodup := by
    have he : s'.taskIds = s.taskIds := by simp only [taskIds, h.top_ids, h.parent_ids, h.child_ids]
    rw [he]
    exact hl.ids_nodup
  top_parents := fun {id t'} ht' => by
    obtain ⟨t, ht, hps⟩ := h.tops ht'
    obtain ⟨hnd, hlink⟩ := hl.top_parents ht
    refine ⟨hps ▸ hnd, fun pid hpid => ?_⟩
    obtain ⟨p, hp, hpt⟩ := hlink pid (hps ▸ hpid)
    obtain ⟨p', hp', hqt, -⟩ := h.exists_parent hp
    exact ⟨p', hp', hqt.trans hpt⟩
  parent_top := fun {id p'} hp' => by
    obtain ⟨p, hp, hpt, -⟩ := h.parents hp'
    obtain ⟨t, ht, hid⟩ := hl.parent_top hp
    obtain ⟨t', ht', hup⟩ := h.exists_top ht
    exact ⟨t', hpt ▸ ht', hup ▸ hid⟩
  child_parent := fun {id c'} hc' => by
    obtain ⟨c, hc, hcp, hct, -⟩ := h.children hc'
    obtain ⟨p, hp, hs, htop, hid⟩ := hl.child_parent hc
    obtain ⟨p', hp', hqt, hqs⟩ := h.exists_parent hp
    refine ⟨p', hcp ▸ hp', hqs hs, hct.trans (htop.trans hqt.symm), ?_⟩
    rw [h.childIds_eq, hcp]
    exact hid
  listed := fun pid => by
    obtain ⟨hnd, hcs⟩ := hl.listed pid
    rw [h.childIds_eq]
    refine ⟨hnd, fun cid hcid => ?_⟩
    obtain ⟨c, hc, hcp⟩ := hcs cid hcid
    obtain ⟨c', hc', hdp, -, -⟩ := h.exists_child hc
    exact ⟨c', hc', hdp.trans hcp⟩
  spawned := by
    rw [h.child_ids, h.serial]
    exact hl.spawned
  named := by
    rw [h.top_ids, h.parent_ids, h.serial]
    exact hl.named
  child_status := fun {id c'} hc' => by
    obtain ⟨c, hc, -, -, hs⟩ := h.children hc'
    exact hs (hl.child_status hc)

theorem Status.pastStaging_of_isTerminal {st : Status} (h : st.isTerminal = true) : st.pastStaging = true := by
  cases st <;> first | rfl | cases h

theorem Status.inStaging_of_isTerminal {st : Status} (h : st.isTerminal = true) : st.inStaging = false := by
  cases st <;> first | rfl | cases h

/-! ## Programs that revise every store -/

/-- A program that revises every store it runs on, whatever its outcome. -/
def Revises {α : Type} (m : StoreM α) : Prop := ∀ s, Revised s (exec m s).2

namespace Revises

variable {α β : Type}

theorem bind {m : StoreM α} {f : α → StoreM β} (hm : Revises m) (hf : ∀ a, Revises (f a)) :
    Revises (m >>= f) := by
  intro s
  have h := hm s
  rw [exec_bind]
  rcases hr : exec m s with ⟨r, s'⟩
  rw [hr] at h
  cases r with
  | ok a => exact h.trans (hf a s')
  | error e => exact h

theorem of_state {m : StoreM α} (h : ∀ s, (exec m s).2 = s) : Revises m := fun s => by
  rw [h s]
  exact Revised.refl s

theorem pure (a : α) : Revises (Pure.pure a : StoreM α) := of_state fun _ => rfl

theorem top (id : TaskId) : Revises (Store.top id) := of_state fun s => exec_top_state s id

theorem parent (id : TaskId) : Revises (Store.parent id) := of_state fun s => exec_parent_state s id

theorem child (id : TaskId) : Revises (Store.child id) := of_state fun s => exec_child_state s id

theorem mark (id : TaskId) : Revises (Store.mark id) := fun s => Revised.of_marks s _

theorem discard {m : StoreM α} (h : Revises m) : Revises (Functor.discard m) := fun s => by
  rw [exec_discard_state]
  exact h s

theorem foldlM {f : β → α → StoreM β} (hf : ∀ b a, Revises (f b a)) (xs : List α) (b : β) :
    Revises (xs.foldlM f b) :=
  foldlM_of_bind (P := Revises) Revises.pure Revises.bind hf xs b

/-- A revising program revises the store it ran on into the one it left. -/
theorem revised {m : StoreM α} (hr : Revises m) {s s' : Store} {r : Except Failure α} (h : exec m s = (r, s')) :
    Revised s s' := by
  have h' := hr s
  rwa [h] at h'

end Revises

/-- A revising program leaves a linked store linked. -/
theorem Linked.of_exec {α : Type} {m : StoreM α} {s s' : Store} {r : Except Failure α} (hl : Linked s)
    (hr : Revises m) (h : exec m s = (r, s')) : Linked s' :=
  hl.revised (hr.revised h)

theorem revises_refreshTop (id : TaskId) (now : Stamp) : Revises (refreshTop id now) := by
  intro s
  cases h : Table.find? s.tops id with
  | none => rw [exec_refreshTop_of_none h]; exact Revised.refl s
  | some t =>
    have h' : Table.find? s.tops (Keyed.key t) = some t := Table.find?_self h
    rw [exec_refreshTop_of_find h]
    split
    · exact Revised.refl s
    · exact Revised.putTop h' rfl

theorem revises_setChildBytes (id : TaskId) (bytes : Nat) : Revises (setChildBytes id bytes) := by
  intro s
  cases h : Table.find? s.children id with
  | none => rw [exec_setChildBytes_of_none h]; exact Revised.refl s
  | some c =>
    have hc : Table.find? s.children { c with bytes }.id = some c := Table.find?_self h
    cases hp : Table.find? s.parents c.parent with
    | none => rw [exec_setChildBytes_of_orphan h hp]; exact Revised.putChild hc rfl rfl fun x => x
    | some p =>
      rw [exec_setChildBytes_of_find h hp]
      have hp' : Table.find? s.parents (Keyed.key p) = some p := Table.find?_self hp
      exact (Revised.putChild hc rfl rfl fun x => x).trans (Revised.putParent hp' rfl (fun x => x))

theorem revises_rollUpParent (pid : TaskId) (now : Stamp) : Revises (rollUpParent pid now) := by
  intro s
  rcases @exec_rollUpParent_cases s pid now with he | ⟨p, outcome, bytes, h, -, ho, -, he⟩
  · rw [he]
    exact Revised.refl s
  · rw [he]
    have h' : Table.find? s.parents (Keyed.key p) = some p := Table.find?_self h
    have hst : outcome.pastStaging = true := Status.pastStaging_of_isTerminal (rollUp_isTerminal ho)
    have hput : Revised s { s with parents := Table.put s.parents (p.rolledUp outcome (s.childRecords pid) bytes now) } :=
      Revised.putParent h' rfl fun _ => hst
    exact hput.trans (revises_refreshTop p.top now _)

theorem revises_cancelChild (id : TaskId) (out : CancelOutcome) (now : Stamp) : Revises (cancelChild id out now) := by
  intro s
  cases h : Table.find? s.children id with
  | none => rw [exec_cancelChild_of_none out now h]; exact Revised.refl s
  | some c =>
    have h' : Table.find? s.children (Keyed.key c) = some c := Table.find?_self h
    cases ht : c.status.isTerminal
    · cases hw : c.worker with
      | some w => rw [exec_cancelChild_of_held out now h ht (by simp [hw])]; exact Revised.refl s
      | none =>
        cases hm : Kind.child.canMove c.status .cancelled
        · rw [exec_cancelChild_of_stuck out now h ht hw hm]; exact Revised.refl s
        · rw [exec_cancelChild_of_free out now h ht hw hm]; exact Revised.putChild h' rfl rfl fun _ => rfl
    · rw [exec_cancelChild_of_ended out now h ht]; exact Revised.refl s

theorem revises_cancelChildren (ids : List TaskId) (out : CancelOutcome) (now : Stamp) :
    Revises (cancelChildren ids out now) :=
  Revises.foldlM (fun out id => revises_cancelChild id out now) ids out

theorem revises_cancelParent (id : TaskId) (out : CancelOutcome) (now : Stamp) :
    Revises (cancelParent id out now) := by
  intro s
  have hc := revises_cancelChildren (s.childIds id) out now s
  rcases @exec_cancelParent_cases s id out now with he | ⟨p, -, -, hp, he | he | he⟩
  · rw [he]; exact Revised.refl s
  · rw [he]; exact hc
  · rw [he]; exact hc.trans (revises_rollUpParent id now _)
  · rw [he]; exact hc.trans (Revised.putParent (p := p) (Table.find?_self hp) rfl fun _ => rfl)

/-! ## Operations that revise every store -/

theorem revises_requestCancel (id : TaskId) (now : Stamp) : Revises (requestCancel id now) := by
  intro s
  have hrest : ∀ (topId : TaskId) (out : CancelOutcome), Revises (refreshTop topId now >>= fun _ => pure out) :=
    fun topId out => (revises_refreshTop topId now).bind fun _ => Revises.pure out
  rcases @exec_requestCancel s id now with h | ⟨t, ht, -, h⟩ | ⟨p, t, -, -, -, -, -, h⟩ |
      ⟨c, t, -, -, -, -, -, -, h⟩
  · rw [h]
    exact Revised.refl s
  · have ht' : Table.find? s.tops (Keyed.key t) = some t := Table.find?_self ht
    have hput : Revised s { s with tops := Table.put s.tops { t with cancelRequested := true } } :=
      Revised.putTop ht' rfl
    rw [h]
    exact hput.trans ((Revises.foldlM (fun out pid => revises_cancelParent pid out now) _ _).bind
      (hrest id) _)
  · rw [h]
    exact ((Revises.mark id).bind fun _ => (revises_cancelParent id _ now).bind (hrest p.top)) s
  · rw [h]
    exact ((Revises.mark id).bind fun _ => (revises_cancelChild id _ now).bind fun out =>
      (Revises.child id).bind fun c' => (revises_rollUpParent c'.parent now).bind fun _ => hrest c.top out) s

variable {id : TaskId} {w : WorkerId} {now : Stamp}

theorem revises_beginStaging : Revises (beginStaging id w now) := by
  intro s
  rcases @exec_beginStaging s id w now with h | ⟨p, p', hp, -, hst, h⟩
  · rw [h]
    exact Revised.refl s
  · obtain ⟨hid, htop, hstage⟩ : p'.id = p.id ∧ p'.top = p.top ∧
        (p.status.pastStaging = true → p'.status.pastStaging = true) := by
      obtain ⟨_, _, _, -, hacc | heq, rfl⟩ := Parent.eq_of_stagingStep hst
      · exact ⟨rfl, rfl, fun hs => by rw [hacc] at hs; cases hs⟩
      · exact ⟨rfl, rfl, fun hs => heq ▸ hs⟩
    have hp' : Table.find? s.parents p'.id = some p := Table.find?_of_key_eq hp hid
    rw [h]
    exact (Revised.putParent hp' htop hstage).trans
      (((revises_refreshTop p'.top now).bind fun _ => Revises.pure p') _)

theorem revises_recordParentRetry : Revises (recordParentRetry id w) := by
  intro s
  rcases @exec_recordParentRetry s id w with h | ⟨p, n, hp, -, -, h⟩
  · rw [h]
    exact Revised.refl s
  · have hp' : Table.find? s.parents (Keyed.key p) = some p := Table.find?_self hp
    rw [h]
    exact Revised.putParent hp' rfl fun hs => hs

theorem revises_startParent : Revises (startParent id w now) := by
  intro s
  rcases @exec_startParent s id w now with h | ⟨p, p', hp, -, hm, h⟩
  · rw [h]
    exact Revised.refl s
  · have hput : Revised s { s with parents := Table.put s.parents { p' with worker := none } } :=
      Revised.putReleased hp hm rfl p'.error
    rw [h]
    exact hput.trans (((revises_rollUpParent id now).bind fun _ =>
      (revises_refreshTop p.top now).bind fun _ => Revises.parent id) _)

theorem revises_finishParent (status : Status) (error : Option String) :
    Revises (finishParent id w status error now) := by
  intro s
  rcases @exec_finishParent s id w now status error with h | ⟨p, p', hp, -, ht, hm, h⟩
  · rw [h]
    exact Revised.refl s
  · have hput : Revised s { s with parents := Table.put s.parents { p' with worker := none, error } } :=
      Revised.putReleased hp hm (Status.pastStaging_of_isTerminal ht) error
    rw [h]
    exact hput.trans (((revises_cancelChildren _ _ now).bind fun _ =>
        (revises_refreshTop p.top now).bind fun _ => Revises.parent id) _)

theorem revises_beginChildAttempt : Revises (beginChildAttempt id w now) := by
  intro s
  rcases @exec_beginChildAttempt s id w now with h | ⟨c, c', hc, -, hst, h⟩
  · rw [h]
    exact Revised.refl s
  · obtain ⟨hid, hpar, htop, hstage⟩ : c'.id = c.id ∧ c'.parent = c.parent ∧ c'.top = c.top ∧
        (c.status.inStaging = false → c'.status.inStaging = false) := by
      obtain ⟨_, _, rfl⟩ := Child.eq_of_attemptStep hst
      exact ⟨rfl, rfl, rfl, fun _ => rfl⟩
    have hc' : Table.find? s.children c'.id = some c := Table.find?_of_key_eq hc hid
    rcases h with ⟨_, -, h⟩ | ⟨n, -, h⟩
    · rw [h]
      exact Revised.putChild hc' hpar htop hstage
    · have hput : Revised s { s with children := Table.put s.children { c' with retries := n } } :=
        Revised.putChild hc' hpar htop hstage
      rw [h]
      exact hput.trans (((revises_setChildBytes id 0).bind fun _ => Revises.child id) _)

theorem revises_recordProgress (bytes : Nat) : Revises (recordProgress id w bytes) := by
  intro s
  rcases @exec_recordProgress s id w bytes with h | ⟨c, -, -, h⟩
  · rw [h]
    exact Revised.refl s
  · rw [h]
    exact revises_setChildBytes id bytes s

theorem revises_finishChild (status : Status) (bytes : Nat) (error : Option String) :
    Revises (finishChild id w status bytes error now) := by
  intro s
  rcases @exec_finishChild s id w now status bytes error with h | ⟨c, c', hc, -, ht, hm, h⟩
  · rw [h]
    exact Revised.refl s
  · obtain ⟨hid, hpar, htop, hst⟩ := Child.moveTo_links hm
    have hput : Revised s { s with children := Table.put s.children { c' with worker := none, error } } :=
      Revised.putChild (Table.find?_of_key_eq hc hid) hpar htop fun _ => by
        rw [hst]; exact Status.inStaging_of_isTerminal ht
    rw [h]
    exact hput.trans (((revises_setChildBytes id bytes).bind fun _ =>
      (revises_rollUpParent c.parent now).bind fun _ => Revises.child id) _)

end Store

end Conveyor
