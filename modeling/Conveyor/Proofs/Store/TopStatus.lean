import Conveyor.Proofs.Store.Derive

/-!
# Every transfer holds the status its parents give it

A transfer's status is written only by a refresh, which reads it off the transfer's parents
(`deriveTop`). Between a write to a parent and the refresh of its transfer the two may disagree, so the
invariant is carried through each operation in two weaker forms:

* `Store.Stale s T`: every transfer but `T` is derived, and `T` too once it has ended. A parent of `T`
  that had not ended may move; a refresh of `T` makes every transfer derived again (`Stale.refresh`).
* `Store.StaleActive s T`: besides, `T` is derived while one of its parents is active. A cancel of `T`
  keeps it parent by parent (`StaleActive.cancelAll`), so a roll-up that stops on an overflow in the
  middle of a cancel stops where `T` is still derived.

The main results:

* `Store.TopsDerived.call`: every call keeps every transfer derived, whatever its outcome.
* `Reachable.top_status_eq_deriveTop`: in every reachable store each transfer names parents that are all
  there, and its status is the one they give it, read as from `ACCEPTED`.
-/

namespace Conveyor

namespace Store

variable {s s' : Store} {T : TaskId}

/-- A transfer holds the status its parents give it, read as from `ACCEPTED`. -/
def Derived (s : Store) (t : Top) : Prop :=
  t.status = deriveTop .accepted t.cancelRequested ((s.parentRecords t).map Parent.view)

/-- Every transfer of the store holds the status its parents give it. -/
def TopsDerived (s : Store) : Prop :=
  ∀ ⦃id t⦄, Table.find? s.tops id = some t → s.Derived t

/-- Every transfer but `T` holds its derived status, and so does `T` once it has ended: the store after a
parent of `T` moved and before `T` is refreshed. -/
def Stale (s : Store) (T : TaskId) : Prop :=
  ∀ ⦃id t⦄, Table.find? s.tops id = some t → (id ≠ T ∨ t.status.isTerminal = true) → s.Derived t

/-- A stale store in which `T` also holds its derived status while one of its parents is active: the store
while a cancel of `T` walks its parents. -/
def StaleActive (s : Store) (T : TaskId) : Prop :=
  s.Stale T ∧ ∀ ⦃t⦄, Table.find? s.tops T = some t → (∃ p ∈ s.parentRecords t, p.status.isActive = true) →
    s.Derived t

/-- The classes of a transfer's parents, as its status reads them. -/
def phases (s : Store) (t : Top) : List ParentView := ((s.parentRecords t).map Parent.view).map ParentView.phase

theorem derived_iff_phases {t : Top} :
    s.Derived t ↔ t.status = deriveTop .accepted t.cancelRequested (s.phases t) := by
  rw [Derived, phases, deriveTop_phase]

/-! ## Moving between the three forms -/

theorem TopsDerived.stale (h : s.TopsDerived) (T : TaskId) : s.Stale T := fun _ _ ht _ => h ht

theorem TopsDerived.staleActive (h : s.TopsDerived) (T : TaskId) : s.StaleActive T :=
  ⟨h.stale T, fun _ ht _ => h ht⟩

/-- A stale store in which `T` is derived after all. -/
theorem Stale.topsDerived (h : s.Stale T) (hT : ∀ ⦃t⦄, Table.find? s.tops T = some t → s.Derived t) :
    s.TopsDerived := by
  intro id t ht
  by_cases hid : id = T
  · subst hid
    exact hT ht
  · exact h ht (Or.inl hid)

theorem mem_parentRecords {q : Parent} {t : Top} (h : q ∈ s.parentRecords t) :
    q.id ∈ t.parents ∧ Table.find? s.parents q.id = some q := by
  obtain ⟨pid, hpid, hq⟩ := List.mem_filterMap.1 h
  obtain ⟨-, rfl⟩ := Table.find?_eq_some hq
  exact ⟨hpid, hq⟩

/-- While a parent of `T` is active, a store where `T` is stale but derived while it has an active parent is
derived throughout. -/
theorem StaleActive.topsDerived (hl : s.Linked) (h : s.StaleActive T) {pid : TaskId} {p : Parent}
    (hp : Table.find? s.parents pid = some p) (hT : p.top = T) (ha : p.status.isActive = true) :
    s.TopsDerived := by
  refine Stale.topsDerived h.1 fun t ht => h.2 ht ⟨p, ?_, ha⟩
  obtain ⟨t', ht', hmem⟩ := hl.parent_top hp
  rw [hT, ht] at ht'
  cases ht'
  exact List.mem_filterMap.2 ⟨pid, hmem, hp⟩

/-- Derived statuses read only the transfers and the classes of their parents. -/
theorem TopsDerived.of_phases (h : s.TopsDerived) (ht : ∀ id, Table.find? s'.tops id = Table.find? s.tops id)
    (hp : ∀ t, s'.phases t = s.phases t) : s'.TopsDerived := by
  intro id t h'
  rw [ht] at h'
  rw [derived_iff_phases, hp, ← derived_iff_phases]
  exact h h'

/-- Handing tasks to workers or taking them back moves no status. -/
theorem TopsDerived.of_reassigned (h : s.TopsDerived) (hr : Reassigned s s') : s'.TopsDerived := by
  obtain ⟨f, hf⟩ := hr.find?_parents
  refine h.of_phases (fun id => by rw [hr.tops]) fun t => ?_
  simp only [phases, parentRecords, hf, ← List.map_filterMap, List.map_map]
  rfl

/-- A store with the same records holds the same statuses. -/
theorem TopsDerived.of_sameRecords (h : s.TopsDerived) (hs : SameRecords s s') (hl : s.Linked) :
    s'.TopsDerived :=
  h.of_phases (hs.find?_tops hl) fun t => by simp only [phases, parentRecords, hs.find?_parents hl]

/-! ## Writing a parent -/

section PutParent

variable {p p' : Parent}

/-- Writing a parent over its record replaces it among the parents of every transfer. -/
theorem parentRecords_put (hp : Table.find? s.parents p'.id = some p) (t : Top) :
    ({ s with parents := Table.put s.parents p' } : Store).parentRecords t =
      (s.parentRecords t).map fun q => if q.id = p'.id then p' else q := by
  unfold parentRecords
  rw [List.map_filterMap]
  refine List.filterMap_congr fun k _ => ?_
  rw [Table.find?_put]
  by_cases hk : Keyed.key p' = k
  · subst hk
    have hid : p.id = p'.id := (Table.find?_eq_some hp).2
    rw [if_pos rfl]
    show some p' = (Table.find? s.parents p'.id).map fun q => if q.id = p'.id then p' else q
    rw [hp, Option.map_some, if_pos hid]
  · rw [if_neg hk]
    cases hq : Table.find? s.parents k with
    | none => rfl
    | some q =>
      have hid : q.id = k := (Table.find?_eq_some hq).2
      have hne : q.id ≠ p'.id := fun h => hk (by rw [← hid, h]; rfl)
      rw [Option.map_some, if_neg hne]

/-- A parent of another transfer leaves a transfer's parents as they were. -/
theorem parentRecords_put_of_not_mem {t : Top} (h : p'.id ∉ t.parents) :
    ({ s with parents := Table.put s.parents p' } : Store).parentRecords t = s.parentRecords t := by
  unfold parentRecords
  refine List.filterMap_congr fun k hk => ?_
  exact Table.find?_put_of_ne _ _ fun he => h (by rw [← he] at hk; exact hk)

/-- The written record is the old one, wherever it stands among a transfer's parents. -/
theorem eq_of_mem_parentRecords (hp : Table.find? s.parents p'.id = some p) {q : Parent} {t : Top}
    (hq : q ∈ s.parentRecords t) (hid : q.id = p'.id) : q = p := by
  have h := (mem_parentRecords hq).2
  rw [hid, hp] at h
  exact (Option.some.inj h).symm

/-- A parent that stays in its class keeps every transfer derived. -/
theorem TopsDerived.putParent (h : s.TopsDerived) (hp : Table.find? s.parents p'.id = some p)
    (hv : p'.view.phase = p.view.phase) : ({ s with parents := Table.put s.parents p' } : Store).TopsDerived := by
  refine h.of_phases (fun _ => rfl) fun t => ?_
  simp only [phases, parentRecords_put hp, List.map_map]
  refine List.map_congr_left fun q hq => ?_
  by_cases hid : q.id = p'.id
  · have hqp := eq_of_mem_parentRecords hp hq hid
    subst hqp
    simp only [Function.comp_apply, if_pos hid, hv]
  · simp only [Function.comp_apply, if_neg hid]

/-- A parent of `T` that had not ended may move anywhere, keeping whether it is optional: `T` goes stale. -/
theorem Stale.putParent (hl : s.Linked) (h : s.Stale T) (hp : Table.find? s.parents p'.id = some p)
    (hT : p.top = T) (ho : p'.optional = p.optional) (hn : p.status.isTerminal = false) :
    ({ s with parents := Table.put s.parents p' } : Store).Stale T := by
  intro id t ht hcase
  have hd : s.Derived t := h ht hcase
  unfold Derived at hd ⊢
  rcases hcase with hne | hterm
  · -- the written parent belongs to another transfer
    have hnot : p'.id ∉ t.parents := by
      intro hmem
      obtain ⟨q, hq, hqt⟩ := (hl.top_parents ht).2 _ hmem
      rw [hp] at hq
      cases hq
      exact hne (hqt.symm.trans hT)
    rw [parentRecords_put_of_not_mem hnot]
    exact hd
  · -- an ended transfer stays as it is while a parent that had not ended moves
    rw [parentRecords_put hp, hd]
    refine (deriveTop_stable (fun q hq => ?_) (hd ▸ hterm)).symm
    by_cases hid : q.id = p'.id
    · have hqp := eq_of_mem_parentRecords hp hq hid
      subst hqp
      simp only [if_pos hid]
      exact ⟨ho, fun ht' => by rw [hn] at ht'; cases ht'⟩
    · simp [hid]

/-- A write that does not touch a failed parent, nor fail one, leaves a transfer's failed required parents. -/
theorem any_failed_put (hp : Table.find? s.parents p'.id = some p) (t : Top)
    (hf : (p'.status == .failed) = (p.status == .failed)) (ho : p'.optional = p.optional) :
    ((({ s with parents := Table.put s.parents p' } : Store).parentRecords t).map Parent.view).any
        (fun v => !v.optional && v.status == .failed) =
      ((s.parentRecords t).map Parent.view).any (fun v => !v.optional && v.status == .failed) := by
  rw [parentRecords_put hp, List.map_map, List.any_map, List.any_map, Bool.eq_iff_iff, List.any_eq_true,
    List.any_eq_true]
  refine exists_congr fun q => and_congr_right fun hq => ?_
  simp only [Function.comp_apply]
  by_cases hid : q.id = p'.id
  · rw [if_pos hid, eq_of_mem_parentRecords hp hq hid]
    simp only [Parent.view, hf, ho]
  · rw [if_neg hid]

/-- Cancelling a parent of `T` that had not ended keeps the store stale, with `T` derived while a parent is
active: the cancelled parent is no longer active, and it has not failed. -/
theorem StaleActive.putParent (hl : s.Linked) (h : s.StaleActive T) (hp : Table.find? s.parents p'.id = some p)
    (hT : p.top = T) (hn : p.status.isTerminal = false) (hc : p'.status = .cancelled)
    (ho : p'.optional = p.optional) : ({ s with parents := Table.put s.parents p' } : Store).StaleActive T := by
  refine ⟨Stale.putParent hl h.1 hp hT ho hn, fun t ht hact => ?_⟩
  obtain ⟨q', hq', hqa⟩ := hact
  rw [parentRecords_put hp] at hq'
  obtain ⟨q, hq, rfl⟩ := List.mem_map.1 hq'
  by_cases hid : q.id = p'.id
  · rw [if_pos hid, hc] at hqa
    cases hqa
  · rw [if_neg hid] at hqa
    have hd : s.Derived t := h.2 ht ⟨q, hq, hqa⟩
    have hf : (p'.status == .failed) = (p.status == .failed) := by
      rw [hc]
      revert hn
      cases p.status <;> decide
    have hq'' : q ∈ ({ s with parents := Table.put s.parents p' } : Store).parentRecords t := by
      rw [parentRecords_put hp]
      exact List.mem_map.2 ⟨q, hq, if_neg hid⟩
    unfold Derived at hd ⊢
    rw [hd, deriveTop_of_active ⟨q.view, List.mem_map_of_mem hq, hqa⟩,
      deriveTop_of_active ⟨q.view, List.mem_map_of_mem hq'', hqa⟩, any_failed_put hp t hf ho]

end PutParent

/-! ## Writing a transfer -/

/-- A transfer written with its derived status, over `T`, makes a stale store derived. -/
theorem Stale.putTop (h : s.Stale T) {t : Top} (hT : t.id = T) (hd : s.Derived t) :
    ({ s with tops := Table.put s.tops t } : Store).TopsDerived := by
  intro id u hu
  rw [Table.find?_put] at hu
  by_cases hk : Keyed.key t = id
  · rw [if_pos hk] at hu
    cases hu
    exact hd
  · rw [if_neg hk] at hu
    exact h hu (Or.inl fun he => hk (hT.trans he.symm))

theorem TopsDerived.putTop (h : s.TopsDerived) {t : Top} (hd : s.Derived t) :
    ({ s with tops := Table.put s.tops t } : Store).TopsDerived :=
  Stale.putTop (h.stale t.id) rfl hd

/-- A refresh reads a transfer that has not ended as from `ACCEPTED`. -/
theorem derived_of_not_isTerminal {t : Top} (hn : t.status.isTerminal = false) :
    s.derived t = deriveTop .accepted t.cancelRequested ((s.parentRecords t).map Parent.view) :=
  deriveTop_of_not_isTerminal hn _ _

/-- A refresh of `T` makes a store where `T` went stale derived throughout. -/
theorem Stale.refresh (h : s.Stale T) (now : Stamp) : (exec (refreshTop T now) s).2.TopsDerived := by
  cases hT : Table.find? s.tops T with
  | none =>
    rw [exec_refreshTop_of_none hT]
    exact Stale.topsDerived h fun t ht => by rw [hT] at ht; cases ht
  | some t =>
    have hid : t.id = T := (Table.find?_eq_some hT).2
    rw [exec_refreshTop_of_find hT]
    cases hn : t.status.isTerminal
    · -- a transfer that has not ended takes the status its parents give it
      have hd : s.Derived (t.advance (s.derived t) (s.parentRecords t) now) := derived_of_not_isTerminal hn
      by_cases heq : s.derived t = t.status
      · rw [if_pos heq]
        refine Stale.topsDerived h fun t' ht => ?_
        rw [hT] at ht
        cases ht
        show t.status = _
        rw [← heq]
        exact hd
      · rw [if_neg heq]
        exact Stale.putTop h hid hd
    · -- an ended transfer keeps its status, which is derived
      have heq : s.derived t = t.status := by
        unfold derived deriveTop
        rw [if_pos hn]
      rw [if_pos heq]
      exact Stale.topsDerived h fun t' ht => by rw [hT] at ht; cases ht; exact h hT (Or.inr hn)

theorem TopsDerived.refresh (h : s.TopsDerived) (T : TaskId) (now : Stamp) :
    (exec (refreshTop T now) s).2.TopsDerived :=
  (h.stale T).refresh now

/-! ## Rolling a parent up -/

/-- A roll-up of a parent of `T` in a stale store writes nothing, or ends the parent and refreshes `T`. -/
theorem Stale.rollUp (hl : s.Linked) (h : s.Stale T) {pid : TaskId} {p : Parent}
    (hp : Table.find? s.parents pid = some p) (hT : p.top = T) (now : Stamp) :
    (exec (rollUpParent pid now) s).2 = s ∨ (exec (rollUpParent pid now) s).2.TopsDerived := by
  rcases @exec_rollUpParent_cases s pid now with he | ⟨q, outcome, bytes, hq, hs, -, -, he⟩
  · exact Or.inl he
  · -- the parent the roll-up finds is the one given
    rw [hp, Option.some.injEq] at hq
    subst hq
    right
    rw [he, hT]
    have hp' : Table.find? s.parents (p.rolledUp outcome (s.childRecords pid) bytes now).id = some p :=
      Table.find?_self hp
    exact Stale.refresh (Stale.putParent hl h hp' hT rfl (by rw [hs]; rfl)) now

/-- A roll-up keeps every transfer derived, whether it ends the parent, waits, or stops on an overflow. -/
theorem TopsDerived.rollUp (hl : s.Linked) (h : s.TopsDerived) (pid : TaskId) (now : Stamp) :
    (exec (rollUpParent pid now) s).2.TopsDerived := by
  cases hp : Table.find? s.parents pid with
  | none =>
    rw [exec_rollUpParent_of_none now hp]
    exact h
  | some p =>
    rcases Stale.rollUp hl (h.stale p.top) hp rfl now with he | hd
    · rw [he]
      exact h
    · exact hd

/-! ## Cancelling -/

/-- A cancel of a parent of `T` either goes on with `T` stale, or stops where every transfer is derived. -/
theorem StaleActive.cancel (hl : s.Linked) (h : s.StaleActive T) {pid : TaskId} {p : Parent}
    (hp : Table.find? s.parents pid = some p) (hT : p.top = T) (out : CancelOutcome) (now : Stamp) :
    (∃ out', (exec (cancelParent pid out now) s).1 = .ok out' ∧
        (exec (cancelParent pid out now) s).2.StaleActive T) ∨
      (exec (cancelParent pid out now) s).2.TopsDerived := by
  cases hn : p.status.isTerminal
  · -- the children go first, and no transfer reads them
    obtain ⟨out₁, cs, hc⟩ := hl.exec_cancelChildren_of_parent pid out now
    have h₁ : ({ s with children := cs } : Store).StaleActive T := h
    have hl₁ : ({ s with children := cs } : Store).Linked := by
      have hr := revises_cancelChildren (s.childIds pid) out now s
      rw [hc] at hr
      exact hl.revised hr
    cases hw : p.worker with
    | some w =>
      rw [exec_cancelParent_of_held out now hp hn hc (by simp [hw])]
      exact Or.inl ⟨_, rfl, h₁⟩
    | none =>
      by_cases ha : p.status = .inProgress
      · -- an active parent keeps `T` derived, so its roll-up starts from a derived store
        rw [exec_cancelParent_of_active out now hp hn hc hw ha]
        have hd : ({ s with children := cs } : Store).TopsDerived :=
          h₁.topsDerived hl₁ (p := p) hp hT (by rw [ha]; rfl)
        exact Or.inr (hd.rollUp hl₁ pid now)
      · rw [exec_cancelParent_of_free out now hp hn hc hw ha]
        have hp₁ : Table.find? ({ s with children := cs } : Store).parents (p.cancelledAt now).id = some p :=
          Table.find?_self hp
        exact Or.inl ⟨_, rfl, h₁.putParent hl₁ hp₁ hT hn rfl rfl⟩
  · rw [exec_cancelParent_of_ended out now hp hn]
    exact Or.inl ⟨out, rfl, h⟩

/-- A cancel walking parents of `T` either finishes with `T` stale, or stops where every transfer is
derived. -/
theorem StaleActive.cancelAll (hl : s.Linked) (h : s.StaleActive T) {pids : List TaskId}
    (hpids : ∀ pid ∈ pids, ∃ p, Table.find? s.parents pid = some p ∧ p.top = T) (out : CancelOutcome)
    (now : Stamp) :
    (∃ out', (exec (pids.foldlM (fun out pid => cancelParent pid out now) out) s).1 = .ok out' ∧
        (exec (pids.foldlM (fun out pid => cancelParent pid out now) out) s).2.StaleActive T) ∨
      (exec (pids.foldlM (fun out pid => cancelParent pid out now) out) s).2.TopsDerived := by
  induction pids generalizing s out with
  | nil => exact Or.inl ⟨out, rfl, h⟩
  | cons pid pids ih =>
    obtain ⟨p, hp, hT⟩ := hpids pid List.mem_cons_self
    have hstep := h.cancel hl hp hT out now
    have hr := revises_cancelParent pid out now s
    rw [exec_foldlM_cons, exec_bind]
    rcases hc : exec (cancelParent pid out now) s with ⟨r, s₁⟩
    rw [hc] at hstep hr
    cases r with
    | error e =>
      rcases hstep with ⟨_, hok, _⟩ | hd
      · cases hok
      · exact Or.inr hd
    | ok out₁ =>
      have hpids' : ∀ pid' ∈ pids, ∃ p, Table.find? s₁.parents pid' = some p ∧ p.top = T := by
        intro pid' hpid'
        obtain ⟨q, hq, hqT⟩ := hpids pid' (List.mem_cons_of_mem _ hpid')
        obtain ⟨q', hq', hq'T, -⟩ := hr.exists_parent hq
        exact ⟨q', hq', hq'T.trans hqT⟩
      have h₁ : s₁.StaleActive T := by
        rcases hstep with ⟨_, _, ha⟩ | hd
        · exact ha
        · exact hd.staleActive T
      exact ih (hl.revised hr) h₁ hpids' out₁

/-! ## Programs that keep every transfer derived -/

/-- A program that keeps every transfer derived when run on a linked store, whatever its outcome. -/
def KeepsDerived {α : Type} (m : StoreM α) : Prop :=
  ∀ s, s.Linked → s.TopsDerived → (exec m s).2.TopsDerived

namespace KeepsDerived

variable {α β : Type}

theorem bind {m : StoreM α} {f : α → StoreM β} (hm : KeepsDerived m) (hr : Revises m)
    (hf : ∀ a, KeepsDerived (f a)) : KeepsDerived (m >>= f) := by
  intro s hl h
  have hd := hm s hl h
  have hl' := hl.revised (hr s)
  rw [exec_bind]
  rcases he : exec m s with ⟨r, s'⟩
  rw [he] at hd hl'
  cases r with
  | ok a => exact hf a s' hl' hd
  | error e => exact hd

theorem of_state {m : StoreM α} (h : ∀ s, (exec m s).2 = s) : KeepsDerived m := fun s _ hd => by
  rw [h s]
  exact hd

theorem pure (a : α) : KeepsDerived (Pure.pure a : StoreM α) := of_state fun _ => rfl

theorem parent (id : TaskId) : KeepsDerived (Store.parent id) := of_state fun s => exec_parent_state s id

theorem child (id : TaskId) : KeepsDerived (Store.child id) := of_state fun s => exec_child_state s id

theorem mark (id : TaskId) : KeepsDerived (Store.mark id) := fun s _ h => by
  rw [exec_mark]
  exact h

end KeepsDerived

/-- A program that leaves `T` stale, then a refresh of `T` and reads, leave every transfer derived, if the
program stops early only where every transfer is derived. -/
theorem topsDerived_then_refresh {α β : Type} {m : StoreM α} {k : α → StoreM β} (hk : ∀ a s, (exec (k a) s).2 = s)
    (h : (∃ a, (exec m s).1 = .ok a ∧ (exec m s).2.Stale T) ∨ (exec m s).2.TopsDerived) (now : Stamp) :
    (exec (m >>= fun a => refreshTop T now >>= fun _ => k a) s).2.TopsDerived := by
  rw [exec_bind]
  rcases hm : exec m s with ⟨r, s₁⟩
  rw [hm] at h
  cases r with
  | ok a =>
    rw [exec_bind_of_reads fun _ => hk a]
    rcases h with ⟨_, _, hs⟩ | hd
    · exact hs.refresh now
    · exact hd.refresh T now
  | error e =>
    rcases h with ⟨_, hok, _⟩ | hd
    · cases hok
    · exact hd

theorem keepsDerived_refreshTop (T : TaskId) (now : Stamp) : KeepsDerived (refreshTop T now) :=
  fun _ _ h => h.refresh T now

theorem keepsDerived_rollUpParent (pid : TaskId) (now : Stamp) : KeepsDerived (rollUpParent pid now) :=
  fun _ hl h => h.rollUp hl pid now

theorem keepsDerived_cancelChild (id : TaskId) (out : CancelOutcome) (now : Stamp) :
    KeepsDerived (cancelChild id out now) := fun s _ h => by
  obtain ⟨cs, hcs⟩ := @cancelChild_frame s id out now
  rw [hcs]
  exact h

/-- A child's byte count moves its parent's, which no transfer's status reads. -/
theorem TopsDerived.setChildBytes (h : s.TopsDerived) (id : TaskId) (bytes : Nat) :
    (exec (setChildBytes id bytes) s).2.TopsDerived := by
  cases hc : Table.find? s.children id with
  | none =>
    rw [exec_setChildBytes_of_none hc]
    exact h
  | some c =>
    cases hp : Table.find? s.parents c.parent with
    | none =>
      rw [exec_setChildBytes_of_orphan hc hp]
      exact h
    | some p =>
      rw [exec_setChildBytes_of_find hc hp]
      have hp' : Table.find? ({ s with children := Table.put s.children { c with bytes } } : Store).parents
          { p with bytes := Word.saturatingAdd Word.max64 (Word.saturatingSub p.bytes c.bytes) bytes }.id = some p :=
        Table.find?_self hp
      exact TopsDerived.putParent h hp' rfl

theorem keepsDerived_setChildBytes (id : TaskId) (bytes : Nat) : KeepsDerived (setChildBytes id bytes) :=
  fun _ _ h => h.setChildBytes id bytes

/-! ## Every operation -/

theorem Parent.moveTo_view {p p' : Parent} {st : Status} {now : Stamp} (h : p.moveTo st now = .ok p') :
    p'.view = ⟨st, p.optional⟩ := by
  rw [(Parent.moveTo_ok h).2]
  rfl

theorem Kind.isTerminal_of_canMove {k : Kind} {st st' : Status} (h : k.canMove st st' = true) :
    st.isTerminal = false := by
  revert h
  cases k <;> cases st <;> simp [Kind.canMove, Kind.moves, Status.isTerminal]

/-- Only a staged or paused parent starts, and both are active. -/
theorem Kind.isActive_of_canMove_inProgress {st : Status} (h : Kind.parent.canMove st .inProgress = true) :
    st.isActive = true := by
  revert h
  cases st <;> decide

/-- Only a parent in staging is staged. -/
theorem Kind.eq_staging_of_canMove_staged {st : Status} (h : Kind.parent.canMove st .staged = true) :
    st = .staging := by
  revert h
  cases st <;> decide

section Operations

variable {id : TaskId} {w : WorkerId} {now : Stamp}

/-- A submission adds an accepted transfer whose parents are new and accepted. -/
theorem TopsDerived.createTransfer (hl : s.Linked) (h : s.TopsDerived) {t : Top} {ps : List Parent}
    (ha : s.Admits t ps) (hne : ps ≠ []) :
    ({ s with
        parents := ps.foldl Table.put s.parents
        tops := Table.put s.tops { t with parents := ps.map (·.id) } } : Store).TopsDerived := by
  obtain ⟨hps, hts⟩ := hl.admits_tables ha
  rw [hps, hts]
  intro id u hu
  rw [Table.find?_append, Option.or_eq_some_iff] at hu
  rcases hu with hu | ⟨-, hu⟩
  · -- an old transfer names old parents, found where they were
    have hrec : ({ s with parents := s.parents ++ ps, tops := s.tops ++ [{ t with parents := ps.map (·.id) }] } :
        Store).parentRecords u = s.parentRecords u := by
      unfold parentRecords
      refine List.filterMap_congr fun pid hpid => ?_
      obtain ⟨q, hq, -⟩ := (hl.top_parents hu).2 pid hpid
      rw [Table.find?_append_of_find? hq, hq]
    unfold Derived
    rw [hrec]
    exact h hu
  · -- the new transfer is accepted, and so are its parents
    obtain ⟨hmem, -⟩ := Table.find?_eq_some hu
    rw [List.mem_singleton] at hmem
    subst hmem
    obtain ⟨tenant, user, tag, created, ht⟩ := ha.top_new
    have hrec : ({ s with parents := s.parents ++ ps, tops := s.tops ++ [{ t with parents := ps.map (·.id) }] } :
        Store).parentRecords { t with parents := ps.map (·.id) } = ps := by
      unfold parentRecords
      rw [List.filterMap_map]
      conv_rhs => rw [← List.filterMap_some (l := ps)]
      refine List.filterMap_congr fun p hp => ?_
      rw [Function.comp_apply, Table.find?_append_of_not_mem (ha.parent_not_mem (List.mem_map_of_mem hp))]
      exact Table.find?_of_mem ha.parent_ids_nodup hp
    have hacc : ∀ v ∈ ps.map Parent.view, v.status = .accepted := by
      intro v hv
      obtain ⟨p, hp, rfl⟩ := List.mem_map.1 hv
      obtain ⟨_, _, _, _, hpf⟩ := ha.parents_new p hp
      rw [hpf]
      rfl
    unfold Derived
    rw [hrec, deriveTop_of_accepted (by simpa using hne) hacc, ht]
    rfl

/-- A cancel keeps every transfer derived, whatever it reaches and wherever it stops. -/
theorem TopsDerived.requestCancel (hl : s.Linked) (h : s.TopsDerived) (id : TaskId) (now : Stamp) :
    (exec (requestCancel id now) s).2.TopsDerived := by
  rcases @exec_requestCancel s id now with he | ⟨t, ht, hn, he⟩ | ⟨p, t, -, hp, -, -, -, he⟩ |
      ⟨c, t, -, -, -, -, -, -, he⟩
  · rw [he]
    exact h
  · -- the transfer takes the flag, which does not move a status that is not an end
    have hd₀ : s.Derived { t with cancelRequested := true } := by
      have hd := h ht
      unfold Derived at hd ⊢
      exact hd.trans (deriveTop_cancelRequested (hd ▸ hn) true).symm
    have ht' : Table.find? s.tops { t with cancelRequested := true }.id = some t := Table.find?_self ht
    have hl₀ : ({ s with tops := Table.put s.tops { t with cancelRequested := true } } : Store).Linked :=
      hl.revised (Revised.putTop ht' rfl)
    have hT : t.id = id := (Table.find?_eq_some ht).2
    have hfold := StaleActive.cancelAll hl₀ ((h.putTop hd₀).staleActive id)
      (fun pid hpid => (hl.top_parents ht).2 pid hpid) ⟨id, t.tenant, true, [], []⟩ now
    rw [he]
    refine topsDerived_then_refresh (k := Pure.pure) (fun _ _ => rfl) ?_ now
    rcases hfold with ⟨out, hok, ha⟩ | hd
    · exact Or.inl ⟨out, hok, ha.1⟩
    · exact Or.inr hd
  · -- a parent is marked, then cancelled, then its transfer refreshed
    rw [he, exec_bind, exec_mark]
    refine topsDerived_then_refresh (k := Pure.pure) (fun _ _ => rfl) ?_ now
    have hl₁ : ({ s with marks := if s.marks.contains id then s.marks else s.marks ++ [id] } : Store).Linked :=
      hl.revised (Revised.of_marks s _)
    rcases StaleActive.cancel hl₁ (h.staleActive p.top) hp rfl ⟨p.top, t.tenant, true, [], []⟩ now with
      ⟨out, hok, ha⟩ | hd
    · exact Or.inl ⟨out, hok, ha.1⟩
    · exact Or.inr hd
  · -- a child is marked and cancelled, then its parent rolls up and its transfer is refreshed
    rw [he]
    exact ((KeepsDerived.mark id).bind (Revises.mark id) fun _ =>
      (keepsDerived_cancelChild id _ now).bind (revises_cancelChild id _ now) fun out =>
        (KeepsDerived.child id).bind (Revises.child id) fun c' =>
          (keepsDerived_rollUpParent c'.parent now).bind (revises_rollUpParent _ now) fun _ =>
            (keepsDerived_refreshTop c.top now).bind (revises_refreshTop _ now) fun _ => KeepsDerived.pure out)
      s hl h

theorem TopsDerived.beginStaging (hl : s.Linked) (h : s.TopsDerived) :
    (exec (beginStaging id w now) s).2.TopsDerived := by
  rcases @exec_beginStaging s id w now with he | ⟨p, p', hp, -, hst, he⟩
  · rw [he]
    exact h
  · -- the parent moves into staging, or stays there; either way its transfer is refreshed
    obtain ⟨hid, htop, ho, hn⟩ : p'.id = p.id ∧ p'.top = p.top ∧ p'.optional = p.optional ∧
        p.status.isTerminal = false := by
      obtain ⟨_, _, _, hs, hacc | rfl, rfl⟩ := Parent.eq_of_stagingStep hst
      · exact ⟨rfl, rfl, rfl, by rw [hacc]; rfl⟩
      · exact ⟨rfl, rfl, rfl, by rcases hs with hs | hs <;> rw [hs] <;> rfl⟩
    have hp' : Table.find? s.parents p'.id = some p := Table.find?_of_key_eq hp hid
    rw [he, exec_bind_of_reads fun _ _ => rfl, htop]
    exact Stale.refresh (Stale.putParent hl (h.stale p.top) hp' rfl ho hn) now

theorem TopsDerived.recordParentRetry (h : s.TopsDerived) : (exec (recordParentRetry id w) s).2.TopsDerived := by
  rcases @exec_recordParentRetry s id w with he | ⟨p, n, hp, -, -, he⟩
  · rw [he]
    exact h
  · have hp' : Table.find? s.parents { p with retries := n }.id = some p := Table.find?_self hp
    rw [he]
    exact h.putParent hp' rfl

theorem TopsDerived.commitStaging (h : s.TopsDerived) (specs : List ChildSpec) :
    (exec (commitStaging id w specs now) s).2.TopsDerived := by
  rcases @exec_commitStaging s id w now specs with he | ⟨p, p', hp, -, hm, ⟨_, -, he⟩ | ⟨total, -, he⟩⟩
  · rw [he]
    exact h
  · rw [he]
    exact h
  · -- staging and staged are both active: the transfer reads the commit as no move
    have hs := Kind.eq_staging_of_canMove_staged (Parent.moveTo_ok hm).1
    have hv : { p' with totalBytes := some total, childCount := specs.length, bytes := 0 }.view.phase =
        p.view.phase := by
      show p'.view.phase = p.view.phase
      rw [Parent.moveTo_view hm]
      simp only [Parent.view, ParentView.phase, hs]
      rfl
    have hp' : Table.find? s.parents
        { p' with totalBytes := some total, childCount := specs.length, bytes := 0 }.id = some p :=
      Table.find?_of_key_eq hp (Parent.moveTo_links hm).1
    rw [he]
    exact h.putParent hp' hv

theorem TopsDerived.startParent (hl : s.Linked) (h : s.TopsDerived) :
    (exec (startParent id w now) s).2.TopsDerived := by
  rcases @exec_startParent s id w now with he | ⟨p, p', hp, -, hm, he⟩
  · rw [he]
    exact h
  · -- a staged or paused parent is active already: starting it is no move for its transfer
    have ha := Kind.isActive_of_canMove_inProgress (Parent.moveTo_ok hm).1
    have hv : { p' with worker := none }.view.phase = p.view.phase := by
      show p'.view.phase = p.view.phase
      rw [Parent.moveTo_view hm]
      simp only [Parent.view, ParentView.phase, Status.phase_of_isActive ha]
      rfl
    have hp' : Table.find? s.parents { p' with worker := none }.id = some p :=
      Table.find?_of_key_eq hp (Parent.moveTo_links hm).1
    have hl₁ : ({ s with parents := Table.put s.parents { p' with worker := none } } : Store).Linked :=
      hl.revised (Revised.putReleased hp hm rfl p'.error)
    rw [he]
    exact ((keepsDerived_rollUpParent id now).bind (revises_rollUpParent id now) fun _ =>
      (keepsDerived_refreshTop p.top now).bind (revises_refreshTop _ now) fun _ => KeepsDerived.parent id)
      _ hl₁ (h.putParent hp' hv)

theorem TopsDerived.finishParent (hl : s.Linked) (h : s.TopsDerived) (status : Status) (error : Option String) :
    (exec (finishParent id w status error now) s).2.TopsDerived := by
  rcases @exec_finishParent s id w now status error with he | ⟨p, p', hp, -, ht, hm, he⟩
  · rw [he]
    exact h
  · -- the parent ends and its transfer goes stale; its children are cancelled, then the transfer refreshed
    have hp' : Table.find? s.parents { p' with worker := none, error }.id = some p :=
      Table.find?_of_key_eq hp (Parent.moveTo_links hm).1
    have ho : p'.optional = p.optional := congrArg ParentView.optional (Parent.moveTo_view hm)
    have hs₁ := Stale.putParent hl (h.stale p.top) hp' rfl ho (Kind.isTerminal_of_canMove (Parent.moveTo_ok hm).1)
    have hl₁ : ({ s with parents := Table.put s.parents { p' with worker := none, error } } : Store).Linked :=
      hl.revised (Revised.putReleased hp hm (Status.pastStaging_of_isTerminal ht) error)
    obtain ⟨out, cs, hc⟩ := hl₁.exec_cancelChildren_of_parent id ⟨p.top, p.tenant, true, [], []⟩ now
    have hc' : exec (cancelChildren (s.childIds id) ⟨p.top, p.tenant, true, [], []⟩ now)
        { s with parents := Table.put s.parents { p' with worker := none, error } } = (.ok out, _) := hc
    rw [he]
    refine topsDerived_then_refresh (k := fun _ => parent id) (fun _ s => exec_parent_state s id) ?_ now
    rw [hc']
    exact Or.inl ⟨out, rfl, hs₁⟩

theorem TopsDerived.beginChildAttempt (h : s.TopsDerived) : (exec (beginChildAttempt id w now) s).2.TopsDerived := by
  rcases @exec_beginChildAttempt s id w now with he | ⟨c, c', -, -, -, ⟨_, -, he⟩ | ⟨n, -, he⟩⟩
  · rw [he]
    exact h
  · rw [he]
    exact h
  · rw [he, exec_bind_of_reads fun _ s => exec_child_state s id]
    exact TopsDerived.setChildBytes (s := { s with children := Table.put s.children { c' with retries := n } }) h id 0

theorem TopsDerived.recordProgress (h : s.TopsDerived) (bytes : Nat) :
    (exec (recordProgress id w bytes) s).2.TopsDerived := by
  rcases @exec_recordProgress s id w bytes with he | ⟨c, -, -, he⟩
  · rw [he]
    exact h
  · rw [he]
    exact h.setChildBytes id bytes

theorem TopsDerived.finishChild (hl : s.Linked) (h : s.TopsDerived) (status : Status) (bytes : Nat)
    (error : Option String) : (exec (finishChild id w status bytes error now) s).2.TopsDerived := by
  rcases @exec_finishChild s id w now status bytes error with he | ⟨c, c', hc, -, ht, hm, he⟩
  · rw [he]
    exact h
  · -- the child ends; no transfer reads it until its parent rolls up
    obtain ⟨hid, hpar, htop, hst⟩ := Child.moveTo_links hm
    have hl₁ : ({ s with children := Table.put s.children { c' with worker := none, error } } : Store).Linked :=
      hl.revised (Revised.putChild (Table.find?_of_key_eq hc hid) hpar htop fun _ => by
        rw [hst]; exact Status.inStaging_of_isTerminal ht)
    rw [he]
    exact ((keepsDerived_setChildBytes id bytes).bind (revises_setChildBytes id bytes) fun _ =>
      (keepsDerived_rollUpParent c.parent now).bind (revises_rollUpParent _ now) fun _ => KeepsDerived.child id)
      _ hl₁ h

end Operations

/-- Every call keeps every transfer derived, whatever its outcome. -/
theorem TopsDerived.call (hl : s.Linked) (h : s.TopsDerived) (c : Call) (ha : c.Admitted s) :
    (exec c.run s).2.TopsDerived := by
  cases hw : c.writesTasks
  · exact h.of_reassigned (c.keepsTasks hw s).1
  cases c <;> simp only [Call.writesTasks, Bool.false_eq_true] at hw <;> simp only [Call.run]
  case createTransfer t ps =>
    rw [exec_discard_state]
    rcases exec_createTransfer (s := s) t ps with he | ⟨hne, -, he⟩
    · rw [he]
      exact h
    · rw [he]
      exact h.createTransfer hl ha hne
  case requestCancel id now => rw [exec_discard_state]; exact h.requestCancel hl id now
  case beginStaging => rw [exec_discard_state]; exact h.beginStaging hl
  case recordParentRetry => rw [exec_discard_state]; exact h.recordParentRetry
  case commitStaging => rw [exec_discard_state]; exact h.commitStaging _
  case startParent => rw [exec_discard_state]; exact h.startParent hl
  case finishParent => rw [exec_discard_state]; exact h.finishParent hl _ _
  case beginChildAttempt => rw [exec_discard_state]; exact h.beginChildAttempt
  case recordProgress => exact h.recordProgress _
  case finishChild => rw [exec_discard_state]; exact h.finishChild hl _ _ _

/-- Looking up every id of a list finds them all, when each is there. -/
theorem mapM_find?_parents {ids : List TaskId} (h : ∀ id ∈ ids, ∃ p, Table.find? s.parents id = some p) :
    ids.mapM (Table.find? s.parents) = some (ids.filterMap (Table.find? s.parents)) := by
  induction ids with
  | nil => rfl
  | cons id ids ih =>
    obtain ⟨p, hp⟩ := h id List.mem_cons_self
    rw [List.mapM_cons, hp, ih fun id' h' => h id' (List.mem_cons_of_mem _ h'), List.filterMap_cons_some hp]
    rfl

end Store

/-- Every reachable store holds every transfer at its derived status. -/
theorem Reachable.topsDerived {s : Store} (h : Reachable s) : s.TopsDerived := by
  induction h with
  | empty => exact fun _ _ ht => by cases ht
  | call c hr ha ih => exact ih.call hr.linked c ha
  | draw _ ih =>
    rw [Store.exec_freshId]
    exact ih
  | restore now hr ih => exact ih.of_sameRecords (hr.linked.sameRecords_restore now) hr.linked

/-- In every reachable store each transfer's parents are all there, and its status is the one they give it,
read as from `ACCEPTED`: for ended transfers as well as running ones. -/
theorem Reachable.top_status_eq_deriveTop {s : Store} (h : Reachable s) {t : Top} (ht : t ∈ s.tops) :
    ∃ ps, t.parents.mapM (Table.find? s.parents) = some ps ∧
      t.status = deriveTop .accepted t.cancelRequested (ps.map Parent.view) := by
  have hl := h.linked
  have hf : Table.find? s.tops t.id = some t := hl.find?_top ht
  refine ⟨s.parentRecords t, Store.mapM_find?_parents fun pid hpid => ?_, h.topsDerived hf⟩
  obtain ⟨p, hp, -⟩ := (hl.top_parents hf).2 pid hpid
  exact ⟨p, hp⟩

/-- A transfer submitted with one parent and then cancelled has ended cancelled, as its cancelled parent and
its flag give it. -/
theorem cancelled_top_status_eq_deriveTop :
    let t₀ : Top := Top.fresh ⟨⟨1⟩⟩ "ta" "alice" none 0
    let s := (Store.exec (Call.requestCancel t₀.id 5).run
      (Store.exec (Call.createTransfer t₀ [Parent.fresh ⟨⟨2⟩⟩ t₀ "mem://src/a" "mem://dst/a" false 0]).run {}).2).2
    let t : Top :=
      { t₀ with status := .cancelled, error := some "transfer cancelled", cancelRequested := true,
                parents := [⟨⟨2⟩⟩], started := some 5, ended := some 5 }
    Reachable s ∧ t ∈ s.tops ∧ ∃ ps, t.parents.mapM (Table.find? s.parents) = some ps ∧
      t.status = deriveTop .accepted t.cancelRequested (ps.map Parent.view) := by
  intro t₀ s t
  have hadm : ({} : Store).Admits t₀ [Parent.fresh ⟨⟨2⟩⟩ t₀ "mem://src/a" "mem://dst/a" false 0] :=
    Store.admits_empty ⟨_, _, _, _, rfl⟩ (fun p hp => by rw [List.mem_singleton.1 hp]; exact ⟨_, _, _, _, rfl⟩)
      (by decide) (by decide)
  have hr : Reachable s := .call _ (.call _ .empty hadm) trivial
  have hmem : t ∈ s.tops := by decide
  exact ⟨hr, hmem, Reachable.top_status_eq_deriveTop hr hmem⟩

end Conveyor
