import Conveyor.Proofs.Store.Staging

/-!
# What an ended task keeps

Once a task ends the store leaves its record alone, with one exception the roll-ups make on purpose: a
parent's byte count moves with its children's, and a child may still be held by a worker after its parent
ended (its worker ended the parent early, or a cancel ended it while the child ran). Such a child's
progress moves the count of a parent that has ended; nothing else of an ended record ever changes.

* `Store.EndedKept s s'`: every transfer and child that has ended in `s` is in `s'` as it was, and every
  parent that has ended is as it was but for its byte count. It is a preorder on stores.
* `Store.KeepsEnded`: the programs that keep ended tasks so on every store. Every step inside an
  operation is one, but the move of a child's byte count, which keeps them only for a child that has not
  ended (`Store.EndedKept.setChildBytes`); the operations that move one check that the child is held, and
  a held child has not ended.
* `Store.EndedKept.call`: every call from a linked store whose tasks are placed, into a store whose tasks
  are placed, keeps ended tasks; so every move from a reachable store does.
* `Reachable.ended_records_kept`: every run from a reachable store keeps ended tasks;
  `failed_parent_counts_late_bytes` is a run where a parent's count moves after it failed.
-/

namespace Conveyor

namespace Store

variable {s s₁ s₂ : Store}

/-- Every task that has ended in `s` is in `s'` as it was, but for a parent's byte count: a transfer and a
child keep every field, a parent every field but `bytes`. -/
structure EndedKept (s s' : Store) : Prop where
  tops : ∀ {id t}, Table.find? s.tops id = some t → t.status.isTerminal = true → Table.find? s'.tops id = some t
  parents : ∀ {id p}, Table.find? s.parents id = some p → p.status.isTerminal = true →
    ∃ n, Table.find? s'.parents id = some { p with bytes := n }
  children : ∀ {id c}, Table.find? s.children id = some c → c.status.isTerminal = true →
    Table.find? s'.children id = some c

namespace EndedKept

theorem of_tasks (ht : s₁.tops = s.tops) (hp : s₁.parents = s.parents) (hc : s₁.children = s.children) :
    EndedKept s s₁ where
  tops hf _ := by rw [ht]; exact hf
  parents {_ p} hf _ := ⟨p.bytes, by rw [hp]; exact hf⟩
  children hf _ := by rw [hc]; exact hf

theorem refl (s : Store) : EndedKept s s := of_tasks rfl rfl rfl

theorem trans (h₁ : EndedKept s s₁) (h₂ : EndedKept s₁ s₂) : EndedKept s s₂ where
  tops hf ht := h₂.tops (h₁.tops hf ht) ht
  parents hf ht := by
    obtain ⟨_, hf₁⟩ := h₁.parents hf ht
    obtain ⟨n, hf₂⟩ := h₂.parents hf₁ ht
    exact ⟨n, hf₂⟩
  children hf hc := h₂.children (h₁.children hf hc) hc

/-- A store with the same records keeps every task. -/
theorem of_sameRecords {r : Store} (h : SameRecords s r) (hl : s.Linked) : EndedKept s r where
  tops hf _ := by rw [h.find?_tops hl]; exact hf
  parents {_ p} hf _ := ⟨p.bytes, by rw [h.find?_parents hl]; exact hf⟩
  children hf _ := by rw [h.find?_children hl]; exact hf

/-! ## Records that have not ended -/

variable {id : TaskId}

/-- A transfer that has not ended had not ended before. -/
theorem top_open (h : EndedKept s s₁) {t₁ : Top} (hf : Table.find? s₁.tops id = some t₁)
    (hn : t₁.status.isTerminal = false) : ∀ t, Table.find? s.tops id = some t → t.status.isTerminal = false := by
  intro t ht
  cases hterm : t.status.isTerminal
  · rfl
  · rw [h.tops ht hterm, Option.some.injEq] at hf
    rw [← hf, hterm] at hn
    exact hn

theorem parent_open (h : EndedKept s s₁) {p₁ : Parent} (hf : Table.find? s₁.parents id = some p₁)
    (hn : p₁.status.isTerminal = false) : ∀ p, Table.find? s.parents id = some p → p.status.isTerminal = false := by
  intro p hp
  cases hterm : p.status.isTerminal
  · rfl
  · obtain ⟨_, hp₁⟩ := h.parents hp hterm
    rw [hp₁, Option.some.injEq] at hf
    rw [← hf] at hn
    rw [← hn, hterm]

theorem child_open (h : EndedKept s s₁) {c₁ : Child} (hf : Table.find? s₁.children id = some c₁)
    (hn : c₁.status.isTerminal = false) : ∀ c, Table.find? s.children id = some c → c.status.isTerminal = false := by
  intro c hc
  cases hterm : c.status.isTerminal
  · rfl
  · rw [h.children hc hterm, Option.some.injEq] at hf
    rw [← hf, hterm] at hn
    exact hn

/-! ## Writing a record -/

/-- Writing a transfer that had not ended in `s` keeps what ended in `s`. -/
theorem putTop (h : EndedKept s s₁) {t' : Top}
    (hn : ∀ t, Table.find? s.tops t'.id = some t → t.status.isTerminal = false) :
    EndedKept s { s₁ with tops := Table.put s₁.tops t' } where
  tops {k t} hf ht := by
    rw [Table.find?_put]
    split
    · rename_i hk
      have hk' : t'.id = k := hk
      rw [hn t (hk' ▸ hf)] at ht
      cases ht
    · exact h.tops hf ht
  parents := h.parents
  children := h.children

/-- Writing a parent that had not ended in `s`, or only the byte count of one that had, keeps what ended in
`s`. -/
theorem putParent (h : EndedKept s s₁) {p' : Parent}
    (hn : ∀ p, Table.find? s.parents p'.id = some p → p.status.isTerminal = true → ∃ n, p' = { p with bytes := n }) :
    EndedKept s { s₁ with parents := Table.put s₁.parents p' } where
  tops := h.tops
  parents {k p} hf ht := by
    rw [Table.find?_put]
    split
    · rename_i hk
      have hk' : p'.id = k := hk
      obtain ⟨n, hp'⟩ := hn p (hk' ▸ hf) ht
      exact ⟨n, by rw [hp']⟩
    · exact h.parents hf ht
  children := h.children

/-- Writing a child that had not ended in `s` keeps what ended in `s`. -/
theorem putChild (h : EndedKept s s₁) {c' : Child}
    (hn : ∀ c, Table.find? s.children c'.id = some c → c.status.isTerminal = false) :
    EndedKept s { s₁ with children := Table.put s₁.children c' } where
  tops := h.tops
  parents := h.parents
  children {k c} hf hc := by
    rw [Table.find?_put]
    split
    · rename_i hk
      have hk' : c'.id = k := hk
      rw [hn c (hk' ▸ hf) ] at hc
      cases hc
    · exact h.children hf hc

/-- Writing over a transfer that has not ended keeps what ended before. -/
theorem putTop_open (h : EndedKept s s₁) {t t' : Top} (hf : Table.find? s₁.tops t'.id = some t)
    (hn : t.status.isTerminal = false) : EndedKept s { s₁ with tops := Table.put s₁.tops t' } :=
  h.putTop (h.top_open hf hn)

/-- Writing over a parent that has not ended keeps what ended before. -/
theorem putParent_open (h : EndedKept s s₁) {p p' : Parent} (hf : Table.find? s₁.parents p'.id = some p)
    (hn : p.status.isTerminal = false) : EndedKept s { s₁ with parents := Table.put s₁.parents p' } :=
  h.putParent fun q hq ht => by rw [h.parent_open hf hn q hq] at ht; cases ht

/-- Writing over a child that has not ended keeps what ended before. -/
theorem putChild_open (h : EndedKept s s₁) {c c' : Child} (hf : Table.find? s₁.children c'.id = some c)
    (hn : c.status.isTerminal = false) : EndedKept s { s₁ with children := Table.put s₁.children c' } :=
  h.putChild (h.child_open hf hn)

/-- Moving the byte count of a child that had not ended in `s` keeps what ended in `s`: the child is
written, and its parent only in its byte count. -/
theorem setChildBytes (h : EndedKept s s₁) {c : Child} (hc : Table.find? s.children id = some c)
    (hn : c.status.isTerminal = false) (bytes : Nat) : EndedKept s (exec (Store.setChildBytes id bytes) s₁).2 := by
  have hopen : ∀ c₀, Table.find? s.children id = some c₀ → c₀.status.isTerminal = false := fun c₀ h₀ => by
    rw [hc, Option.some.injEq] at h₀
    rw [← h₀]
    exact hn
  cases h₁ : Table.find? s₁.children id with
  | none => rw [exec_setChildBytes_of_none h₁]; exact h
  | some c₁ =>
    have hid : c₁.id = id := (Table.find?_eq_some h₁).2
    have hchild : EndedKept s { s₁ with children := Table.put s₁.children { c₁ with bytes } } :=
      h.putChild fun c₀ h₀ => hopen c₀ (hid ▸ h₀)
    cases hp : Table.find? s₁.parents c₁.parent with
    | none => rw [exec_setChildBytes_of_orphan h₁ hp]; exact hchild
    | some p =>
      rw [exec_setChildBytes_of_find h₁ hp]
      refine hchild.putParent fun q hq ht => ?_
      obtain ⟨n, hq₁⟩ := h.parents hq ht
      have hp' : Table.find? s₁.parents (Keyed.key p) = some p := Table.find?_self hp
      rw [show Keyed.key p = p.id from rfl] at hp'
      rw [hp', Option.some.injEq] at hq₁
      subst hq₁
      exact ⟨_, rfl⟩

/-- Moving the byte count of a child that had not ended in `s`, then running a program that keeps ended
tasks, keeps what ended in `s`. -/
theorem setChildBytes_bind {β : Type} (h : EndedKept s s₁) {c : Child} (hc : Table.find? s.children id = some c)
    (hn : c.status.isTerminal = false) (bytes : Nat) {k : Unit → StoreM β} (hk : ∀ u s, EndedKept s (exec (k u) s).2) :
    EndedKept s (exec (Store.setChildBytes id bytes >>= k) s₁).2 := by
  rw [exec_bind, exec_setChildBytes_ok]
  exact (h.setChildBytes hc hn bytes).trans (hk () _)

end EndedKept

/-! ## Programs that keep ended tasks -/

/-- A program that keeps every ended task, as `EndedKept` says, on every store it runs on, whatever its
outcome. -/
def KeepsEnded {α : Type} (m : StoreM α) : Prop := ∀ s, EndedKept s (exec m s).2

namespace KeepsEnded

variable {α β : Type}

theorem bind {m : StoreM α} {f : α → StoreM β} (hm : KeepsEnded m) (hf : ∀ a, KeepsEnded (f a)) :
    KeepsEnded (m >>= f) := by
  intro s
  have h := hm s
  rw [exec_bind]
  rcases hr : exec m s with ⟨r, s'⟩
  rw [hr] at h
  cases r with
  | ok a => exact h.trans (hf a s')
  | error e => exact h

theorem of_state {m : StoreM α} (h : ∀ s, (exec m s).2 = s) : KeepsEnded m := fun s => by
  rw [h s]
  exact EndedKept.refl s

theorem pure (a : α) : KeepsEnded (Pure.pure a : StoreM α) := of_state fun _ => rfl

theorem parent (id : TaskId) : KeepsEnded (Store.parent id) := of_state fun s => exec_parent_state s id

theorem child (id : TaskId) : KeepsEnded (Store.child id) := of_state fun s => exec_child_state s id

theorem mark (id : TaskId) : KeepsEnded (Store.mark id) := fun s => by
  rw [exec_mark]
  exact EndedKept.of_tasks rfl rfl rfl

theorem foldlM {f : β → α → StoreM β} (hf : ∀ b a, KeepsEnded (f b a)) (xs : List α) (b : β) :
    KeepsEnded (xs.foldlM f b) :=
  foldlM_of_bind (P := KeepsEnded) KeepsEnded.pure KeepsEnded.bind hf xs b

end KeepsEnded

/-- A transfer that has ended derives its own status, so a refresh writes only one that has not. -/
theorem keepsEnded_refreshTop (id : TaskId) (now : Stamp) : KeepsEnded (refreshTop id now) := by
  intro s
  cases h : Table.find? s.tops id with
  | none => rw [exec_refreshTop_of_none h]; exact EndedKept.refl s
  | some t =>
    rw [exec_refreshTop_of_find h]
    split
    · exact EndedKept.refl s
    · rename_i hne
      have hn : t.status.isTerminal = false := by
        cases ht : t.status.isTerminal
        · rfl
        · exact absurd (by simp [derived, deriveTop, ht]) hne
      have hf : Table.find? s.tops t.id = some t := Table.find?_self h
      exact (EndedKept.refl s).putTop_open hf hn

/-- Only a parent in progress rolls up. -/
theorem keepsEnded_rollUpParent (pid : TaskId) (now : Stamp) : KeepsEnded (rollUpParent pid now) := by
  intro s
  rcases @exec_rollUpParent_cases s pid now with he | ⟨p, outcome, bytes, h, hs, -, -, he⟩
  · rw [he]
    exact EndedKept.refl s
  · rw [he]
    have hput : EndedKept s { s with parents := Table.put s.parents (p.rolledUp outcome (s.childRecords pid) bytes now) } :=
      (EndedKept.refl s).putParent_open (p := p) (Table.find?_self h) (by rw [hs]; rfl)
    exact hput.trans (keepsEnded_refreshTop p.top now _)

/-- A cancel passes over a child that has ended. -/
theorem keepsEnded_cancelChild (id : TaskId) (out : CancelOutcome) (now : Stamp) : KeepsEnded (cancelChild id out now) := by
  intro s
  cases h : Table.find? s.children id with
  | none => rw [exec_cancelChild_of_none out now h]; exact EndedKept.refl s
  | some c =>
    cases ht : c.status.isTerminal
    · cases hw : c.worker with
      | some w => rw [exec_cancelChild_of_held out now h ht (by simp [hw])]; exact EndedKept.refl s
      | none =>
        cases hm : Kind.child.canMove c.status .cancelled
        · rw [exec_cancelChild_of_stuck out now h ht hw hm]; exact EndedKept.refl s
        · rw [exec_cancelChild_of_free out now h ht hw hm]
          exact (EndedKept.refl s).putChild_open (c := c) (Table.find?_self h) ht
    · rw [exec_cancelChild_of_ended out now h ht]; exact EndedKept.refl s

theorem keepsEnded_cancelChildren (ids : List TaskId) (out : CancelOutcome) (now : Stamp) :
    KeepsEnded (cancelChildren ids out now) :=
  KeepsEnded.foldlM (fun out id => keepsEnded_cancelChild id out now) ids out

/-- A cancel passes over a parent that has ended, with its children. -/
theorem keepsEnded_cancelParent (id : TaskId) (out : CancelOutcome) (now : Stamp) :
    KeepsEnded (cancelParent id out now) := by
  intro s
  have hc := keepsEnded_cancelChildren (s.childIds id) out now s
  rcases @exec_cancelParent_cases s id out now with he | ⟨p, -, ht, hp, he | he | he⟩
  · rw [he]; exact EndedKept.refl s
  · rw [he]; exact hc
  · rw [he]; exact hc.trans (keepsEnded_rollUpParent id now _)
  · rw [he]; exact hc.putParent_open (p := p) (Table.find?_self hp) ht

/-- A cancel request is refused for a task that ended or whose transfer ended, and passes over every ended
task below the one it reaches. -/
theorem keepsEnded_requestCancel (id : TaskId) (now : Stamp) : KeepsEnded (requestCancel id now) := by
  intro s
  have hrest : ∀ (topId : TaskId) (out : CancelOutcome), KeepsEnded (refreshTop topId now >>= fun _ => pure out) :=
    fun topId out => (keepsEnded_refreshTop topId now).bind fun _ => KeepsEnded.pure out
  rcases @exec_requestCancel s id now with h | ⟨t, ht, hn, h⟩ | ⟨p, t, -, -, -, -, -, h⟩ |
      ⟨c, t, -, -, -, -, -, -, h⟩
  · rw [h]
    exact EndedKept.refl s
  · have hmark : EndedKept s { s with tops := Table.put s.tops { t with cancelRequested := true } } :=
      (EndedKept.refl s).putTop_open (t := t) (Table.find?_self ht) hn
    rw [h]
    exact hmark.trans ((KeepsEnded.foldlM (fun out pid => keepsEnded_cancelParent pid out now) _ _).bind
      (hrest id) _)
  · rw [h]
    exact ((KeepsEnded.mark id).bind fun _ => (keepsEnded_cancelParent id _ now).bind (hrest p.top)) s
  · rw [h]
    exact ((KeepsEnded.mark id).bind fun _ => (keepsEnded_cancelChild id _ now).bind fun out =>
      (KeepsEnded.child id).bind fun c' => (keepsEnded_rollUpParent c'.parent now).bind fun _ => hrest c.top out) s

/-! ## The steps a worker reports -/

/-- A task a worker holds has not ended. -/
theorem Placed.parent_open (h : s.Placed) {id : TaskId} {p : Parent} {w : WorkerId}
    (hp : Table.find? s.parents id = some p) (hw : p.worker = some w) : p.status.isTerminal = false := by
  have hpl := h.parents p (Table.find?_eq_some hp).1
  rw [hw] at hpl
  exact hpl.not_isTerminal

theorem Placed.child_open (h : s.Placed) {id : TaskId} {c : Child} {w : WorkerId}
    (hc : Table.find? s.children id = some c) (hw : c.worker = some w) : c.status.isTerminal = false := by
  have hpl := h.children c (Table.find?_eq_some hc).1
  rw [hw] at hpl
  exact hpl.not_isTerminal

/-- The children a commit adds hold ids the store invents only then, so every child there was is found as
before. -/
theorem Linked.find?_newChildren (hl : s.Linked) {p : Parent} {specs : List ChildSpec} {now : Stamp} {id : TaskId}
    {c : Child} (hc : Table.find? s.children id = some c) :
    Table.find? ((s.newChildren p specs now).foldl Table.put s.children) id = some c := by
  rw [Table.find?_foldl_put_of_not_mem]
  · exact hc
  intro hmem
  obtain ⟨hcm, hcid⟩ := Table.find?_eq_some hc
  rw [show (s.newChildren p specs now).map Keyed.key = (s.newChildren p specs now).map (·.id) from rfl,
    newChildren_ids] at hmem
  obtain ⟨i, -, rfl⟩ := List.mem_map.1 hmem
  exact hl.spawned_not_child (Nat.le_add_right _ i) (hcid ▸ List.mem_map_of_mem hcm)

variable {id : TaskId} {w : WorkerId} {now : Stamp}

theorem Placed.endedKept_beginStaging (h : s.Placed) : EndedKept s (exec (beginStaging id w now) s).2 := by
  rcases @exec_beginStaging s id w now with he | ⟨p, p', hp, hw, hst, he⟩
  · rw [he]
    exact EndedKept.refl s
  · have hid : p'.id = p.id := by
      obtain ⟨_, _, _, -, -, rfl⟩ := Parent.eq_of_stagingStep hst
      rfl
    have hput : EndedKept s { s with parents := Table.put s.parents p' } :=
      (EndedKept.refl s).putParent_open (Table.find?_of_key_eq hp hid) (h.parent_open hp hw)
    rw [he]
    exact hput.trans (((keepsEnded_refreshTop p'.top now).bind fun _ => KeepsEnded.pure p') _)

theorem Placed.endedKept_recordParentRetry (h : s.Placed) : EndedKept s (exec (recordParentRetry id w) s).2 := by
  rcases @exec_recordParentRetry s id w with he | ⟨p, n, hp, hw, -, he⟩
  · rw [he]
    exact EndedKept.refl s
  · rw [he]
    exact (EndedKept.refl s).putParent_open (p := p) (Table.find?_self hp) (h.parent_open hp hw)

/-- A commit writes a parent the worker holds and adds children under new ids. -/
theorem Placed.endedKept_commitStaging (hl : s.Linked) (h : s.Placed) (specs : List ChildSpec) :
    EndedKept s (exec (commitStaging id w specs now) s).2 := by
  rcases @exec_commitStaging s id w now specs with he | ⟨p, p', hp, hw, hm, ⟨e, -, he⟩ | ⟨total, -, he⟩⟩
  · rw [he]
    exact EndedKept.refl s
  · rw [he]
    exact EndedKept.of_tasks rfl rfl rfl
  · rw [he]
    have hput : EndedKept s { s with
        parents := Table.put s.parents { p' with totalBytes := some total, childCount := specs.length, bytes := 0 } } :=
      (EndedKept.refl s).putParent_open (by rw [(Parent.moveTo_links hm).1]; exact Table.find?_self hp)
        (h.parent_open hp hw)
    exact ⟨fun hf _ => hf, hput.parents, fun hf _ => hl.find?_newChildren hf⟩

theorem Placed.endedKept_startParent (h : s.Placed) : EndedKept s (exec (startParent id w now) s).2 := by
  rcases @exec_startParent s id w now with he | ⟨p, p', hp, hw, hm, he⟩
  · rw [he]
    exact EndedKept.refl s
  · have hput : EndedKept s { s with parents := Table.put s.parents { p' with worker := none } } :=
      (EndedKept.refl s).putParent_open (by rw [(Parent.moveTo_links hm).1]; exact Table.find?_self hp)
        (h.parent_open hp hw)
    rw [he]
    exact hput.trans (((keepsEnded_rollUpParent id now).bind fun _ =>
      (keepsEnded_refreshTop p.top now).bind fun _ => KeepsEnded.parent id) _)

theorem Placed.endedKept_finishParent (h : s.Placed) (status : Status) (error : Option String) :
    EndedKept s (exec (finishParent id w status error now) s).2 := by
  rcases @exec_finishParent s id w now status error with he | ⟨p, p', hp, hw, -, hm, he⟩
  · rw [he]
    exact EndedKept.refl s
  · have hput : EndedKept s { s with parents := Table.put s.parents { p' with worker := none, error } } :=
      (EndedKept.refl s).putParent_open (by rw [(Parent.moveTo_links hm).1]; exact Table.find?_self hp)
        (h.parent_open hp hw)
    rw [he]
    exact hput.trans (((keepsEnded_cancelChildren _ _ now).bind fun _ =>
      (keepsEnded_refreshTop p.top now).bind fun _ => KeepsEnded.parent id) _)

theorem Placed.endedKept_beginChildAttempt (h : s.Placed) : EndedKept s (exec (beginChildAttempt id w now) s).2 := by
  rcases @exec_beginChildAttempt s id w now with he | ⟨c, c', hc, hw, hst, he⟩
  · rw [he]
    exact EndedKept.refl s
  · have hid : c'.id = c.id := by
      obtain ⟨_, _, rfl⟩ := Child.eq_of_attemptStep hst
      rfl
    have hn := h.child_open hc hw
    have hc' : Table.find? s.children c'.id = some c := Table.find?_of_key_eq hc hid
    rcases he with ⟨_, -, he⟩ | ⟨n, -, he⟩
    · rw [he]
      exact (EndedKept.refl s).putChild_open hc' hn
    · have hput : EndedKept s { s with children := Table.put s.children { c' with retries := n } } :=
        (EndedKept.refl s).putChild_open hc' hn
      rw [he]
      exact hput.setChildBytes_bind hc hn 0 fun _ => KeepsEnded.child id

theorem Placed.endedKept_recordProgress (h : s.Placed) (bytes : Nat) :
    EndedKept s (exec (recordProgress id w bytes) s).2 := by
  rcases @exec_recordProgress s id w bytes with he | ⟨c, hc, hw, he⟩
  · rw [he]
    exact EndedKept.refl s
  · rw [he]
    exact (EndedKept.refl s).setChildBytes hc (h.child_open hc hw) bytes

/-- A child the worker holds ends, then takes its final count while the store still compares it with the
child it was, which had not ended. -/
theorem Placed.endedKept_finishChild (h : s.Placed) (status : Status) (bytes : Nat) (error : Option String) :
    EndedKept s (exec (finishChild id w status bytes error now) s).2 := by
  rcases @exec_finishChild s id w now status bytes error with he | ⟨c, c', hc, hw, -, hm, he⟩
  · rw [he]
    exact EndedKept.refl s
  · have hn := h.child_open hc hw
    have hput : EndedKept s { s with children := Table.put s.children { c' with worker := none, error } } :=
      (EndedKept.refl s).putChild_open (by rw [(Child.moveTo_links hm).1]; exact Table.find?_self hc) hn
    rw [he]
    exact hput.setChildBytes_bind hc hn bytes fun _ =>
      (keepsEnded_rollUpParent c.parent now).bind fun _ => KeepsEnded.child id

/-- A submission adds a transfer and parents under new ids. -/
theorem Linked.endedKept_createTransfer (hl : s.Linked) {t : Top} {ps : List Parent} (ha : s.Admits t ps) :
    EndedKept s (exec (Store.createTransfer t ps) s).2 := by
  rcases exec_createTransfer (s := s) t ps with he | ⟨-, -, he⟩
  · rw [he]
    exact EndedKept.refl s
  · rw [he]
    obtain ⟨hps, hts⟩ := hl.admits_tables ha
    refine ⟨fun hf _ => ?_, fun {_ p} hf _ => ⟨p.bytes, ?_⟩, fun hf _ => hf⟩
    · rw [hts, Table.find?_append_of_find? hf]
    · rw [hps, Table.find?_append_of_find? hf]

/-- A worker holds no task that has ended. -/
theorem Placed.parent_unheld (h : s.Placed) {id : TaskId} {p : Parent} (hp : Table.find? s.parents id = some p)
    (ht : p.status.isTerminal = true) : p.worker = none := by
  cases hw : p.worker with
  | none => rfl
  | some w => rw [h.parent_open hp hw] at ht; cases ht

theorem Placed.child_unheld (h : s.Placed) {id : TaskId} {c : Child} (hc : Table.find? s.children id = some c)
    (ht : c.status.isTerminal = true) : c.worker = none := by
  cases hw : c.worker with
  | none => rfl
  | some w => rw [h.child_open hc hw] at ht; cases ht

/-- Handing tasks out or taking them back keeps every ended task, when no worker holds an ended task
before or after. -/
theorem EndedKept.of_reassigned (h : Reassigned s s₁) (hp : s.Placed) (hp₁ : s₁.Placed) : EndedKept s s₁ where
  tops hf _ := by rw [h.tops]; exact hf
  parents {k p} hf ht := by
    obtain ⟨f, hf₁⟩ := h.find?_parents
    have hk : Table.find? s₁.parents k = some { p with worker := f p } := by rw [hf₁ k, hf, Option.map_some]
    have hw : p.worker = none := hp.parent_unheld hf ht
    have hw₁ : f p = none := hp₁.parent_unheld hk ht
    refine ⟨p.bytes, ?_⟩
    rw [hk, hw₁, ← hw]
  children {k c} hf ht := by
    obtain ⟨g, hg₁⟩ := h.find?_children
    have hk : Table.find? s₁.children k = some { c with worker := g c } := by rw [hg₁ k, hf, Option.map_some]
    have hw : c.worker = none := hp.child_unheld hf ht
    have hw₁ : g c = none := hp₁.child_unheld hk ht
    rw [hk, hw₁, ← hw]

/-! ## Every step of a run -/

/-- Every call from a linked store whose tasks are placed, into a store whose tasks are placed, keeps every
ended task, whatever its outcome. -/
theorem EndedKept.call (hl : s.Linked) (hp : s.Placed) {c : Call} (hp₁ : (exec c.run s).2.Placed)
    (ha : c.Admitted s) : EndedKept s (exec c.run s).2 := by
  cases hw : c.writesTasks
  · exact EndedKept.of_reassigned (c.keepsTasks hw s).1 hp hp₁
  cases c <;> simp only [Call.writesTasks, Bool.false_eq_true] at hw <;> simp only [Call.run]
  case createTransfer t ps => rw [exec_discard_state]; exact hl.endedKept_createTransfer ha
  case requestCancel id now => rw [exec_discard_state]; exact keepsEnded_requestCancel id now s
  case beginStaging => rw [exec_discard_state]; exact hp.endedKept_beginStaging
  case recordParentRetry => rw [exec_discard_state]; exact hp.endedKept_recordParentRetry
  case commitStaging => rw [exec_discard_state]; exact hp.endedKept_commitStaging hl _
  case startParent => rw [exec_discard_state]; exact hp.endedKept_startParent
  case finishParent => rw [exec_discard_state]; exact hp.endedKept_finishParent _ _
  case beginChildAttempt => rw [exec_discard_state]; exact hp.endedKept_beginChildAttempt
  case recordProgress => exact hp.endedKept_recordProgress _
  case finishChild => rw [exec_discard_state]; exact hp.endedKept_finishChild _ _ _

/-- Every move from a reachable store keeps every ended task. -/
theorem EndedKept.move (hs : Reachable s) {m : Move} (hm : m.Admitted s) : EndedKept s (m.apply s) := by
  cases m with
  | call c => exact EndedKept.call hs.linked hs.flowing.placed (hs.move hm).flowing.placed hm
  | draw =>
    simp only [Move.apply, exec_freshId]
    exact EndedKept.of_tasks rfl rfl rfl
  | restore now => exact EndedKept.of_sameRecords (hs.linked.sameRecords_restore now) hs.linked

end Store

/-- Along every run from a reachable store, a transfer or a child that has ended keeps every field, and a
parent that has ended keeps every field but its byte count. -/
theorem Reachable.ended_records_kept {s s' : Store} {ms : List Move} (hs : Reachable s) (h : Runs s ms s') :
    s.EndedKept s' := by
  induction h with
  | nil s => exact Store.EndedKept.refl s
  | cons hm _ ih => exact (Store.EndedKept.move hs hm).trans (ih (hs.move hm))

/-! ## A parent that ends under a running child -/

/-- A transfer of one parent that its worker stages with one child of 10 bytes; the worker takes the child
too, then ends the parent as failed while it holds the child. -/
def failedParentRun : List Move :=
  let t : Top := Top.fresh ⟨⟨1⟩⟩ "ta" "alice" none 0
  let p : Parent := Parent.fresh ⟨⟨2⟩⟩ t "mem://src/in" "mem://dst/out" false 1
  let w : WorkerId := ⟨⟨3⟩⟩
  [.call (.createTransfer t [p]), .call (.registerWorker ⟨w, "h1", 0, 0⟩), .call (.assign .parent p.id w),
    .call (.beginStaging p.id w 2), .call (.commitStaging p.id w [⟨"/src/a", "/dst/a", 10⟩] 3),
    .call (.assign .child ⟨Uuid.spawned 0⟩ w), .call (.finishParent p.id w .failed (some "gave up") 4)]

/-- The worker then starts the child it still holds, which reports 5 bytes. -/
def lateChildRun : List Move :=
  [.call (.beginChildAttempt ⟨Uuid.spawned 0⟩ ⟨⟨3⟩⟩ 5), .call (.recordProgress ⟨Uuid.spawned 0⟩ ⟨⟨3⟩⟩ 5)]

/-- A move admitted where it is made, then moves that need no condition, made in turn, are a run. -/
theorem Runs.foldl_cons {m : Move} {ms : List Move} {s : Store} (hm : m.Admitted s)
    (hms : ∀ m ∈ ms, ∀ s, m.Admitted s) : Runs s (m :: ms) ((m :: ms).foldl (fun s m => m.apply s) s) :=
  .cons hm (Runs.foldl hms _)

theorem runs_failedParentRun :
    Runs {} failedParentRun (failedParentRun.foldl (fun s m => m.apply s) {}) ∧
      Runs (failedParentRun.foldl (fun s m => m.apply s) {}) lateChildRun
        (lateChildRun.foldl (fun s m => m.apply s) (failedParentRun.foldl (fun s m => m.apply s) {})) := by
  refine ⟨Runs.foldl_cons ?_ fun m hm _ => ?_, Runs.foldl (fun m hm _ => ?_) _⟩
  · exact Store.admits_empty ⟨_, _, _, _, rfl⟩
      (fun p hp => by rw [List.mem_singleton.1 hp]; exact ⟨_, _, _, _, rfl⟩) (by decide) (by decide)
  · simp only [List.mem_cons, List.not_mem_nil, or_false] at hm
    rcases hm with rfl | rfl | rfl | rfl | rfl | rfl <;> trivial
  · simp only [lateChildRun, List.mem_cons, List.not_mem_nil, or_false] at hm
    rcases hm with rfl | rfl <;> trivial

/-- The run where a parent fails under its running child is one the theorem speaks of. -/
theorem failed_parent_keeps_record :
    let s := failedParentRun.foldl (fun s m => m.apply s) {}
    let s' := lateChildRun.foldl (fun s m => m.apply s) s
    Reachable s ∧ Runs s lateChildRun s' ∧ s.EndedKept s' := by
  intro s s'
  obtain ⟨h₁, h₂⟩ := runs_failedParentRun
  have hs : Reachable s := h₁.reachable .empty
  exact ⟨hs, h₂, hs.ended_records_kept h₂⟩

/-- A parent that its worker failed while holding its child still takes the child's progress: its count
goes from 0 to 5 after it ended. -/
theorem failed_parent_counts_late_bytes :
    let s := failedParentRun.foldl (fun s m => m.apply s) {}
    let s' := lateChildRun.foldl (fun s m => m.apply s) s
    Reachable s ∧ Runs s lateChildRun s' ∧ ∃ p, Table.find? s.parents ⟨⟨2⟩⟩ = some p ∧ p.status = .failed ∧
      p.bytes = 0 ∧ Table.find? s'.parents ⟨⟨2⟩⟩ = some { p with bytes := 5 } := by
  intro s s'
  obtain ⟨h₁, h₂⟩ := runs_failedParentRun
  have hp : (Table.find? s.parents ⟨⟨2⟩⟩).isSome = true := by decide +kernel
  obtain ⟨p, hp⟩ := Option.isSome_iff_exists.1 hp
  have hst : (Table.find? s.parents ⟨⟨2⟩⟩).map (fun p => (p.status, p.bytes)) = some (.failed, 0) := by
    decide +kernel
  have hlate : Table.find? s'.parents ⟨⟨2⟩⟩ = (Table.find? s.parents ⟨⟨2⟩⟩).map fun p => { p with bytes := 5 } := by
    decide +kernel
  rw [hp] at hst hlate
  simp only [Option.map_some, Option.some.injEq, Prod.mk.injEq] at hst
  exact ⟨h₁.reachable .empty, h₂, p, hp, hst.1, hst.2, hlate⟩

end Conveyor
