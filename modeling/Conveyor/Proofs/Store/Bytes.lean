import Conveyor.Proofs.Store.Progress

/-!
# A parent's byte count

A parent counts the bytes its children have copied. The count follows them as they report: a move of one
child's count moves its parent's by the difference (`Store.setChildBytes`), a commit of staging starts the
parent and its new children at zero, and a roll-up writes the children's exact sum. The count is a 64-bit
word and a move saturates, at zero below and at the top of the word above. Once a move stopped at the top,
a later decrease of a child takes the parent's count below its children's sum, and only a roll-up brings
it back.

* `Store.childBytes s pid`: the exact sum of the bytes of the children listed for `pid`.
* `Store.BytesTrack R s`: every parent's count stands in relation `R` to its children's sum.
* `Store.Moves R C`: `R` survives the saturating move of one child's count, when the new sum meets `C`.
* `Store.BytesTrack.call`: a call keeps `BytesTrack R` when `R` is reflexive and `Moves R C`, and the sums
  it leaves meet `C`.
* `ReachableWithin P`: the stores reached by a run each store of which meets `P`.
* `Reachable.parent_bytes_le_children`: in every reachable store a parent's count is at most its children's
  sum, and equal to it when the run that reached the store never let a parent's children hold more than a
  64-bit word in all.
-/

namespace Conveyor

/-- The bytes a list of children holds, summed exactly. -/
def Child.sumBytes (cs : List Child) : Nat := (cs.map (·.bytes)).foldl (· + ·) 0

namespace Child

@[simp] theorem sumBytes_nil : sumBytes [] = 0 := rfl

@[simp] theorem sumBytes_cons (c : Child) (cs : List Child) : sumBytes (c :: cs) = c.bytes + sumBytes cs := by
  unfold sumBytes
  rw [List.map_cons, List.foldl_cons, foldl_add_shift, Nat.zero_add]

theorem le_sumBytes {c : Child} {cs : List Child} (h : c ∈ cs) : c.bytes ≤ sumBytes cs := by
  induction cs with
  | nil => cases h
  | cons d cs ih =>
    rw [sumBytes_cons]
    rcases List.mem_cons.1 h with rfl | h
    · omega
    · have := ih h
      omega

theorem sumBytes_eq_zero {cs : List Child} (h : ∀ c ∈ cs, c.bytes = 0) : sumBytes cs = 0 := by
  induction cs with
  | nil => rfl
  | cons c cs ih =>
    rw [sumBytes_cons, h c List.mem_cons_self, ih fun d hd => h d (List.mem_cons_of_mem _ hd)]

/-- Replacing the one child with a given id, in a list of children with distinct ids, moves the sum by the
difference of the two counts. -/
theorem sumBytes_map_replace {c c' : Child} (hid : c.id = c'.id) :
    ∀ {cs : List Child}, (cs.map (·.id)).Nodup → c ∈ cs →
      sumBytes (cs.map fun d => if d.id = c'.id then c' else d) + c.bytes = sumBytes cs + c'.bytes
  | [], _, h => by cases h
  | d :: cs, hnd, h => by
    obtain ⟨hd, hnd⟩ := List.nodup_cons.1 hnd
    rw [List.map_cons, sumBytes_cons, sumBytes_cons]
    rcases List.mem_cons.1 h with rfl | h
    · -- the head is the one replaced, and no other child has its id
      have hrest : (cs.map fun d => if d.id = c'.id then c' else d) = cs := by
        conv_rhs => rw [← List.map_id cs]
        exact List.map_congr_left fun e he => if_neg fun he' => hd (List.mem_map.2 ⟨e, he, he'.trans hid.symm⟩)
      rw [if_pos hid, hrest]
      omega
    · have hne : d.id ≠ c'.id := fun he => hd (List.mem_map.2 ⟨c, h, hid.trans he.symm⟩)
      have := sumBytes_map_replace hid hnd h
      rw [if_neg hne]
      omega

end Child

namespace Store

variable {s s' : Store} {R : Nat → Nat → Prop} {C : Nat → Prop}

/-- The bytes the children listed for parent `pid` hold, summed exactly. -/
def childBytes (s : Store) (pid : TaskId) : Nat := Child.sumBytes (s.childRecords pid)

/-- Every parent's byte count stands in relation `R` to the exact sum of its children's. -/
def BytesTrack (R : Nat → Nat → Prop) (s : Store) : Prop := ∀ p ∈ s.parents, R p.bytes (s.childBytes p.id)

/-- A relation between a parent's count and its children's sum that survives the move of one child's count
from `prev` to `new`, as `setChildBytes` makes it, whenever the new sum meets `C`. -/
def Moves (R : Nat → Nat → Prop) (C : Nat → Prop) : Prop :=
  ∀ b σ prev new, prev ≤ σ → R b σ → C (σ - prev + new) →
    R (Word.saturatingAdd Word.max64 (Word.saturatingSub b prev) new) (σ - prev + new)

/-- A saturating move never takes the count above the sum. -/
theorem moves_le : Moves (· ≤ ·) fun _ => True := by
  intro b σ prev new _ hb _
  simp only [Word.saturatingAdd, Word.saturatingSub]
  omega

/-- A move that leaves the sum within a 64-bit word keeps the count equal to it. -/
theorem moves_eq : Moves (· = ·) (· ≤ Word.max64) := by
  intro b σ prev new _ hb hC
  simp only [Word.saturatingAdd, Word.saturatingSub] at hC ⊢
  omega

/-! ## Writing a record -/

/-- The counts read only the parents, the children and the lists of children. -/
theorem BytesTrack.of_tasks (h : s.BytesTrack R) (hp : s'.parents = s.parents) (hc : s'.children = s.children)
    (hl : s'.childLists = s.childLists) : s'.BytesTrack R := by
  have hb : ∀ pid, s'.childBytes pid = s.childBytes pid := fun pid => by
    simp only [childBytes, childRecords, childIds, hc, hl]
  intro p hp'
  rw [hb]
  exact h p (hp ▸ hp')

/-- A parent written with a count in relation `R` to its children's sum keeps the counts tracked. -/
theorem BytesTrack.putParent (h : s.BytesTrack R) {p : Parent} (hp : R p.bytes (s.childBytes p.id)) :
    ({ s with parents := Table.put s.parents p } : Store).BytesTrack R := by
  intro q hq
  rcases Table.mem_put.1 hq with rfl | ⟨hq, -⟩
  · exact hp
  · exact h q hq

/-- A parent written over its record with the same count keeps the counts tracked. -/
theorem BytesTrack.putParent_of_find (h : s.BytesTrack R) {p p' : Parent}
    (hf : Table.find? s.parents p'.id = some p) (hb : p'.bytes = p.bytes) :
    ({ s with parents := Table.put s.parents p' } : Store).BytesTrack R := by
  obtain ⟨hmem, hid⟩ := Table.find?_eq_some hf
  refine h.putParent ?_
  rw [hb, ← hid]
  exact h p hmem

/-- A refresh writes transfers only. -/
theorem BytesTrack.refresh (h : s.BytesTrack R) (T : TaskId) (now : Stamp) :
    (exec (refreshTop T now) s).2.BytesTrack R := by
  obtain ⟨ts, hts⟩ := refreshTop_frame (s := s) T now
  rw [hts]
  exact h.of_tasks rfl rfl rfl

section Children

variable (hl : s.Linked)
include hl

/-- A child is among the children its parent lists. -/
theorem Linked.mem_childRecords {id : TaskId} {c : Child} (hc : Table.find? s.children id = some c) :
    c ∈ s.childRecords c.parent := by
  obtain ⟨-, -, -, -, hcid⟩ := hl.child_parent hc
  exact List.mem_filterMap.2 ⟨id, hcid, hc⟩

/-- A child written over its record moves its parent's sum by the difference of the two counts. -/
theorem Linked.childBytes_putChild {c c' : Child} (hc : Table.find? s.children c'.id = some c) :
    ({ s with children := Table.put s.children c' } : Store).childBytes c.parent + c.bytes =
      s.childBytes c.parent + c'.bytes := by
  have hid : c.id = c'.id := (Table.find?_eq_some hc).2
  have hrec : ({ s with children := Table.put s.children c' } : Store).childRecords c.parent =
      (s.childRecords c.parent).map fun d => if d.id = c'.id then c' else d := by
    unfold childRecords
    rw [List.map_filterMap]
    refine List.filterMap_congr fun cid _ => ?_
    rw [Table.find?_put]
    by_cases hk : Keyed.key c' = cid
    · rw [if_pos hk, ← hk]
      change some c' = Option.map _ (Table.find? s.children c'.id)
      rw [hc, Option.map_some, if_pos hid]
    · rw [if_neg hk]
      cases hf : Table.find? s.children cid with
      | none => rfl
      | some d =>
        have hd : d.id = cid := (Table.find?_eq_some hf).2
        rw [Option.map_some, if_neg fun he => hk (he.symm.trans hd)]
  have hnd : ((s.childRecords c.parent).map (·.id)).Nodup := by
    rw [hl.childRecords_ids]
    exact (hl.listed c.parent).1
  unfold childBytes
  rw [hrec]
  exact Child.sumBytes_map_replace hid hnd (hl.mem_childRecords hc)

/-- A child written over its record leaves the sums of other parents alone. -/
theorem Linked.childBytes_putChild_of_ne {c c' : Child} (hc : Table.find? s.children c'.id = some c) {pid : TaskId}
    (hpid : pid ≠ c.parent) : ({ s with children := Table.put s.children c' } : Store).childBytes pid =
      s.childBytes pid := by
  unfold childBytes
  rw [hl.childRecords_putChild hc hpid]

/-- A child written over its record with the same count keeps the counts tracked. -/
theorem BytesTrack.putChild (h : s.BytesTrack R) {c c' : Child} (hc : Table.find? s.children c'.id = some c)
    (hb : c'.bytes = c.bytes) : ({ s with children := Table.put s.children c' } : Store).BytesTrack R := by
  intro p hp
  have heq : ({ s with children := Table.put s.children c' } : Store).childBytes p.id = s.childBytes p.id := by
    by_cases hpid : p.id = c.parent
    · have := hl.childBytes_putChild hc
      rw [hpid]
      omega
    · exact hl.childBytes_putChild_of_ne hc hpid
  rw [heq]
  exact h p hp

/-- Moving a child's count keeps the counts in relation `R`, when `R` survives the move and the new sums
meet `C`. -/
theorem BytesTrack.setChildBytes (h : s.BytesTrack R) (hM : Moves R C) (id : TaskId) (bytes : Nat)
    (hC : ∀ pid, C ((exec (setChildBytes id bytes) s).2.childBytes pid)) :
    (exec (setChildBytes id bytes) s).2.BytesTrack R := by
  cases hf : Table.find? s.children id with
  | none =>
    rw [exec_setChildBytes_of_none hf]
    exact h
  | some c =>
    obtain ⟨p, hp, -⟩ := hl.child_parent hf
    obtain ⟨hpm, hpid⟩ := Table.find?_eq_some hp
    have hc' : Table.find? s.children { c with bytes }.id = some c := Table.find?_self hf
    rw [exec_setChildBytes_of_find hf hp] at hC ⊢
    have hσ : ({ s with children := Table.put s.children { c with bytes } } : Store).childBytes c.parent =
        s.childBytes c.parent - c.bytes + bytes := by
      have := hl.childBytes_putChild hc'
      change _ + c.bytes = s.childBytes c.parent + bytes at this
      have hle : c.bytes ≤ s.childBytes c.parent := Child.le_sumBytes (hl.mem_childRecords hf)
      omega
    intro q hq
    rcases Table.mem_put.1 hq with rfl | ⟨hq, hne⟩
    · have hq' : ({ p with bytes := Word.saturatingAdd Word.max64 (Word.saturatingSub p.bytes c.bytes) bytes } :
          Parent).id = c.parent := hpid
      have hmove := hM p.bytes (s.childBytes c.parent) c.bytes bytes (Child.le_sumBytes (hl.mem_childRecords hf))
        (hpid ▸ h p hpm) (hσ ▸ hC c.parent)
      rw [hq']
      exact hσ ▸ hmove
    · have hne' : q.id ≠ c.parent := fun he => hne (he.trans hpid.symm)
      have heq := hl.childBytes_putChild_of_ne hc' hne'
      exact heq ▸ h q hq

end Children

/-- A roll-up writes the exact sum of the children, so it keeps any reflexive relation. -/
theorem BytesTrack.rollUp (h : s.BytesTrack R) (hR : ∀ n, R n n) (pid : TaskId) (now : Stamp) :
    (exec (rollUpParent pid now) s).2.BytesTrack R := by
  rcases @exec_rollUpParent_cases s pid now with he | ⟨p, outcome, bytes, hp, -, -, hb, he⟩
  · rw [he]
    exact h
  · rw [he]
    refine BytesTrack.refresh (h.putParent ?_) p.top now
    have hid : p.id = pid := (Table.find?_eq_some hp).2
    change R bytes (s.childBytes p.id)
    rw [Word.eq_foldl_of_sum_ok hb, hid]
    exact hR _

/-- A roll-up writes no child and no list of children. -/
theorem childBytes_rollUp (pid : TaskId) (now : Stamp) (q : TaskId) :
    (exec (rollUpParent pid now) s).2.childBytes q = s.childBytes q := by
  rcases @exec_rollUpParent_cases s pid now with he | ⟨p, outcome, bytes, -, -, -, -, he⟩
  · rw [he]
  · rw [he]
    obtain ⟨ts, hts⟩ := refreshTop_frame
      (s := { s with parents := Table.put s.parents (p.rolledUp outcome (s.childRecords pid) bytes now) })
      p.top now
    rw [hts]
    rfl

/-- A program, then a refresh and reads, keeps the counts tracked where the program does. -/
theorem BytesTrack.then_refresh {α β : Type} {m : StoreM α} {k : α → StoreM β} (hk : ∀ a s, (exec (k a) s).2 = s)
    (h : (exec m s).2.BytesTrack R) (T : TaskId) (now : Stamp) :
    (exec (m >>= fun a => refreshTop T now >>= fun _ => k a) s).2.BytesTrack R := by
  rw [exec_bind]
  rcases hm : exec m s with ⟨r, s₁⟩
  rw [hm] at h
  cases r with
  | ok a =>
    rw [exec_bind_of_reads fun _ => hk a]
    exact h.refresh T now
  | error e => exact h

/-- The sums read only how many bytes each listed child holds. -/
theorem childBytes_congr (hl : s'.childLists = s.childLists)
    (hc : ∀ d, (Table.find? s'.children d).map (·.bytes) = (Table.find? s.children d).map (·.bytes))
    (pid : TaskId) : s'.childBytes pid = s.childBytes pid := by
  unfold childBytes Child.sumBytes childRecords childIds
  rw [hl, List.map_filterMap, List.map_filterMap]
  exact congrArg (fun xs => xs.foldl (· + ·) 0) (List.filterMap_congr fun d _ => hc d)

/-- Handing tasks out or taking them back moves no count. -/
theorem BytesTrack.of_reassigned (h : s.BytesTrack R) (hr : Reassigned s s') : s'.BytesTrack R := by
  obtain ⟨f, hf⟩ := hr.parents
  obtain ⟨g, hg⟩ := hr.find?_children
  intro q hq
  rw [hf] at hq
  obtain ⟨p, hp, rfl⟩ := List.mem_map.1 hq
  rw [childBytes_congr hr.childLists fun d => by rw [hg, Option.map_map]; rfl]
  exact h p hp

theorem BytesTrack.of_sameRecords (h : s.BytesTrack R) (hs : SameRecords s s') (hl : s.Linked) :
    s'.BytesTrack R := by
  have hb : ∀ pid, s'.childBytes pid = s.childBytes pid := fun pid => by
    simp only [childBytes, childRecords, hs.childIds, hs.find?_children hl]
  intro p hp
  rw [hb]
  exact h p ((hs.parents p).1 hp)

/-! ## Programs that keep the counts tracked -/

/-- A program that keeps the counts of every linked store in relation `R`, whatever its outcome. -/
def Tracks (R : Nat → Nat → Prop) {α : Type} (m : StoreM α) : Prop :=
  ∀ s, s.Linked → s.BytesTrack R → (exec m s).2.BytesTrack R

namespace Tracks

variable {α β : Type}

theorem bind {m : StoreM α} {f : α → StoreM β} (hm : Tracks R m) (hr : Revises m) (hf : ∀ a, Tracks R (f a)) :
    Tracks R (m >>= f) := by
  intro s hl h
  have h₁ := hm s hl h
  have hr₁ := hr s
  rw [exec_bind]
  rcases he : exec m s with ⟨r, s₁⟩
  rw [he] at h₁ hr₁
  cases r with
  | ok a => exact hf a s₁ (hl.revised hr₁) h₁
  | error e => exact h₁

theorem of_state {m : StoreM α} (hs : ∀ s, (exec m s).2 = s) : Tracks R m := fun s _ h => by
  rw [hs s]
  exact h

theorem pure (a : α) : Tracks R (Pure.pure a : StoreM α) := of_state fun _ => rfl

theorem mark (id : TaskId) : Tracks R (Store.mark id) := fun _ _ h => h.of_tasks rfl rfl rfl

theorem refresh (T : TaskId) (now : Stamp) : Tracks R (refreshTop T now) := fun _ _ h => h.refresh T now

theorem rollUp (hR : ∀ n, R n n) (pid : TaskId) (now : Stamp) : Tracks R (rollUpParent pid now) :=
  fun _ _ h => h.rollUp hR pid now

theorem foldlM {f : β → α → StoreM β} (hf : ∀ b a, Tracks R (f b a)) (hr : ∀ b a, Revises (f b a)) (xs : List α)
    (b : β) : Tracks R (xs.foldlM f b) := by
  induction xs generalizing b with
  | nil => exact pure b
  | cons a xs ih => exact (hf b a).bind (hr b a) fun b' => ih b'

end Tracks

/-- A cancel of a child writes it, if at all, with its count. -/
theorem tracks_cancelChild (id : TaskId) (out : CancelOutcome) (now : Stamp) : Tracks R (cancelChild id out now) := by
  intro s hl h
  cases hc : Table.find? s.children id with
  | none => rw [exec_cancelChild_of_none out now hc]; exact h
  | some c =>
    cases ht : c.status.isTerminal
    · cases hw : c.worker with
      | some w => rw [exec_cancelChild_of_held out now hc ht (by simp [hw])]; exact h
      | none =>
        cases hm : Kind.child.canMove c.status .cancelled
        · rw [exec_cancelChild_of_stuck out now hc ht hw hm]; exact h
        · have hc' : Table.find? s.children (c.cancelledAt now).id = some c := Table.find?_self hc
          rw [exec_cancelChild_of_free out now hc ht hw hm]
          exact h.putChild hl hc' rfl
    · rw [exec_cancelChild_of_ended out now hc ht]; exact h

theorem tracks_cancelChildren (ids : List TaskId) (out : CancelOutcome) (now : Stamp) :
    Tracks R (cancelChildren ids out now) :=
  Tracks.foldlM (fun out id => tracks_cancelChild id out now) (fun out id => revises_cancelChild id out now) ids out

section Reflexive

variable (hR : ∀ n, R n n)
include hR

/-- A cancel of a parent writes its children with their counts, then the parent with its count or rolled up. -/
theorem tracks_cancelParent (pid : TaskId) (out : CancelOutcome) (now : Stamp) : Tracks R (cancelParent pid out now) := by
  intro s hl h
  have h₁ := tracks_cancelChildren (s.childIds pid) out now s hl h
  rcases @exec_cancelParent_cases s pid out now with he | ⟨p, -, -, hp, he | he | he⟩
  · rw [he]; exact h
  · rw [he]; exact h₁
  · rw [he]; exact h₁.rollUp hR pid now
  · rw [he]; exact h₁.putParent_of_find (p := p) (Table.find?_self hp) rfl

theorem tracks_requestCancel (id : TaskId) (now : Stamp) : Tracks R (requestCancel id now) := by
  intro s hl h
  have hrest : ∀ (T : TaskId) (out : CancelOutcome), Tracks R (refreshTop T now >>= fun _ => pure out) :=
    fun T out => (Tracks.refresh T now).bind (revises_refreshTop T now) fun _ => Tracks.pure out
  have hparents : ∀ (ps : List TaskId) (out : CancelOutcome),
      Tracks R (ps.foldlM (fun out pid => cancelParent pid out now) out) :=
    Tracks.foldlM (fun out pid => tracks_cancelParent hR pid out now) fun out pid => revises_cancelParent pid out now
  rcases @exec_requestCancel s id now with he | ⟨t, ht, -, he⟩ | ⟨p, t, -, -, -, -, -, he⟩ |
      ⟨c, t, -, -, -, -, -, -, he⟩
  · rw [he]
    exact h
  · -- the transfer takes the flag, then its parents are cancelled in turn
    have ht' : Table.find? s.tops { t with cancelRequested := true }.id = some t := Table.find?_self ht
    rw [he]
    exact ((hparents _ _).bind (Revises.foldlM (fun out pid => revises_cancelParent pid out now) _ _) (hrest id)) _
      (hl.revised (Revised.putTop ht' rfl)) (h.of_tasks rfl rfl rfl)
  · rw [he]
    exact ((Tracks.mark id).bind (Revises.mark id) fun _ =>
      (tracks_cancelParent hR id _ now).bind (revises_cancelParent id _ now) (hrest p.top)) s hl h
  · rw [he]
    exact ((Tracks.mark id).bind (Revises.mark id) fun _ =>
      (tracks_cancelChild id _ now).bind (revises_cancelChild id _ now) fun out =>
        (Tracks.of_state fun s => exec_child_state s id).bind (Revises.child id) fun c' =>
          (Tracks.rollUp hR c'.parent now).bind (revises_rollUpParent c'.parent now) fun _ => hrest c.top out) s hl h

end Reflexive

/-! ## Every operation -/

theorem Parent.bytes_of_moveTo {p p' : Parent} {st : Status} {now : Stamp} (h : p.moveTo st now = .ok p') :
    p'.bytes = p.bytes := by
  rw [(Parent.moveTo_ok h).2]

theorem Child.bytes_of_moveTo {c c' : Child} {st : Status} {now : Stamp} (h : c.moveTo st now = .ok c') :
    c'.bytes = c.bytes := by
  rw [(Child.moveTo_ok h).2]

section Operations

variable {id : TaskId} {w : WorkerId} {now : Stamp}

/-- A submission adds parents at zero bytes, under ids no list of children names. -/
theorem BytesTrack.createTransfer (hl : s.Linked) (h : s.BytesTrack R) (hR : ∀ n, R n n) {t : Top}
    {ps : List Parent} (ha : s.Admits t ps) :
    ({ s with
        parents := ps.foldl Table.put s.parents
        tops := Table.put s.tops { t with parents := ps.map (·.id) } } : Store).BytesTrack R := by
  obtain ⟨hps, -⟩ := hl.admits_tables ha
  intro p hp
  rcases List.mem_append.1 (hps ▸ hp) with hp | hp
  · exact h p hp
  · have hb : p.bytes = 0 := by
      obtain ⟨_, _, _, _, hpf⟩ := ha.parents_new p hp
      rw [hpf]
      rfl
    have hnone : s.childIds p.id = [] := by
      cases hc : s.childIds p.id with
      | nil => rfl
      | cons cid _ =>
        obtain ⟨c, hcf, hpar⟩ := (hl.listed p.id).2 cid (by rw [hc]; exact List.mem_cons_self)
        obtain ⟨q, hq, -⟩ := hl.child_parent hcf
        rw [hpar] at hq
        have hmem : p.id ∈ s.parents.map (·.id) := Table.has_iff_keys.1 (Table.has_of_find? hq)
        exact absurd (List.mem_append.2 (.inl (List.mem_append.2 (.inr hmem))))
          (ha.ids_unused p.id (List.mem_cons_of_mem _ (List.mem_map_of_mem hp))).1
    change R p.bytes (Child.sumBytes ((s.childIds p.id).filterMap (Table.find? s.children)))
    rw [hb, hnone]
    exact hR 0

theorem BytesTrack.beginStaging (h : s.BytesTrack R) : (exec (beginStaging id w now) s).2.BytesTrack R := by
  rcases @exec_beginStaging s id w now with he | ⟨p, p', hp, -, hst, he⟩
  · rw [he]
    exact h
  · obtain ⟨hid, hb⟩ : p'.id = p.id ∧ p'.bytes = p.bytes := by
      obtain ⟨_, _, _, -, -, rfl⟩ := Parent.eq_of_stagingStep hst
      exact ⟨rfl, rfl⟩
    have hp' : Table.find? s.parents p'.id = some p := Table.find?_of_key_eq hp hid
    rw [he, exec_bind_of_reads fun _ _ => rfl]
    exact (h.putParent_of_find hp' hb).refresh p'.top now

theorem BytesTrack.recordParentRetry (h : s.BytesTrack R) : (exec (recordParentRetry id w) s).2.BytesTrack R := by
  rcases @exec_recordParentRetry s id w with he | ⟨p, n, hp, -, -, he⟩
  · rw [he]
    exact h
  · have hp' : Table.find? s.parents { p with retries := n }.id = some p := Table.find?_self hp
    rw [he]
    exact h.putParent_of_find hp' rfl

/-- The children a commit lists for its parent are the new ones, each at zero bytes. -/
theorem Linked.childBytes_commit (hl : s.Linked) (p : Parent) (specs : List ChildSpec) (now : Stamp)
    (hlists : s'.childLists = setChildList s.childLists id ((s.newChildren p specs now).map (·.id)))
    (hcs : s'.children = (s.newChildren p specs now).foldl Table.put s.children) : s'.childBytes id = 0 := by
  have hkeys : s'.childIds id = (s.newChildren p specs now).map (·.id) := by
    rw [childIds_of_childLists hlists, if_pos rfl]
  refine Child.sumBytes_eq_zero fun c hc => ?_
  obtain ⟨cid, hcid, hf⟩ := List.mem_filterMap.1 hc
  rw [hkeys, newChildren_ids] at hcid
  obtain ⟨k, -, rfl⟩ := List.mem_map.1 hcid
  rw [hcs] at hf
  obtain ⟨hmem, hkey⟩ := Table.find?_eq_some hf
  rcases Table.mem_foldl_put hmem with hold | hnew
  · -- a child already there holds an id invented before
    have hm : (⟨Uuid.spawned (s.serial + k)⟩ : TaskId) ∈ s.children.map (·.id) := hkey ▸ List.mem_map_of_mem hold
    exact absurd hm (hl.spawned_not_child (Nat.le_add_right _ k))
  · obtain ⟨i, -, rfl⟩ := List.mem_mapIdx.1 hnew
    rfl

/-- A commit starts the parent at zero, over new children at zero. -/
theorem BytesTrack.commitStaging (hl : s.Linked) (h : s.BytesTrack R) (hR : ∀ n, R n n) (specs : List ChildSpec) :
    (exec (commitStaging id w specs now) s).2.BytesTrack R := by
  rcases @exec_commitStaging s id w now specs with he | ⟨p, p', hp, -, hm, ⟨_, -, he⟩ | ⟨total, -, he⟩⟩
  · rw [he]
    exact h
  · rw [he]
    exact h.of_tasks rfl rfl rfl
  · have hid : p'.id = id := (Parent.moveTo_links hm).1.trans (Table.find?_eq_some hp).2
    rw [he]
    intro q hq
    rcases Table.mem_put.1 hq with rfl | ⟨hq, hne⟩
    · change R 0 (childBytes _ p'.id)
      rw [hid, hl.childBytes_commit p specs now rfl rfl]
      exact hR 0
    · have hne' : q.id ≠ id := fun he => hne (he.trans hid.symm)
      unfold childBytes
      rw [hl.childRecords_of_new (newChildren_ids p specs now) ?_ ?_ hne']
      · exact h q hq
      · rfl
      · rfl

theorem BytesTrack.startParent (h : s.BytesTrack R) (hR : ∀ n, R n n) :
    (exec (startParent id w now) s).2.BytesTrack R := by
  rcases @exec_startParent s id w now with he | ⟨p, p', hp, -, hm, he⟩
  · rw [he]
    exact h
  · -- the parent starts with its count, and rolls up at once if its children have all ended
    have hp' : Table.find? s.parents { p' with worker := none }.id = some p :=
      Table.find?_of_key_eq hp (Parent.moveTo_links hm).1
    have hb : p'.bytes = p.bytes := Parent.bytes_of_moveTo hm
    rw [he]
    exact BytesTrack.then_refresh (fun _ s => exec_parent_state s id) ((h.putParent_of_find hp' hb).rollUp hR id now)
      p.top now

theorem BytesTrack.finishParent (hl : s.Linked) (h : s.BytesTrack R) (status : Status) (error : Option String) :
    (exec (finishParent id w status error now) s).2.BytesTrack R := by
  rcases @exec_finishParent s id w now status error with he | ⟨p, p', hp, -, ht, hm, he⟩
  · rw [he]
    exact h
  · -- the parent ends with its count, and its unfinished children are cancelled with theirs
    have hp' : Table.find? s.parents { p' with worker := none, error }.id = some p :=
      Table.find?_of_key_eq hp (Parent.moveTo_links hm).1
    have hl₁ : ({ s with parents := Table.put s.parents { p' with worker := none, error } } : Store).Linked :=
      hl.revised (Revised.putReleased hp hm (Status.pastStaging_of_isTerminal ht) error)
    have hb : p'.bytes = p.bytes := Parent.bytes_of_moveTo hm
    rw [he]
    exact BytesTrack.then_refresh (fun _ s => exec_parent_state s id)
      (tracks_cancelChildren _ _ now _ hl₁ (h.putParent_of_find hp' hb)) p.top now

variable {C : Nat → Prop}

/-- An attempt of a child resets its count to zero; the counts stay in relation `R` as the move keeps it. -/
theorem BytesTrack.beginChildAttempt (hl : s.Linked) (h : s.BytesTrack R) (hM : Moves R C)
    (hC : ∀ pid, C ((exec (beginChildAttempt id w now) s).2.childBytes pid)) :
    (exec (beginChildAttempt id w now) s).2.BytesTrack R := by
  rcases @exec_beginChildAttempt s id w now with he | ⟨c, c', hc, -, hst, hrest⟩
  · rw [he]
    exact h
  · obtain ⟨hid, hpar, htop, hb, hs'⟩ : c'.id = c.id ∧ c'.parent = c.parent ∧ c'.top = c.top ∧
        c'.bytes = c.bytes ∧ c'.status.inStaging = false := by
      obtain ⟨_, _, rfl⟩ := Child.eq_of_attemptStep hst
      exact ⟨rfl, rfl, rfl, rfl, rfl⟩
    rcases hrest with ⟨_, -, he⟩ | ⟨n, -, he⟩
    · -- the count of attempts overflows after the status is written
      have hc' : Table.find? s.children c'.id = some c := Table.find?_of_key_eq hc hid
      rw [he]
      exact h.putChild hl hc' hb
    · have hc' : Table.find? s.children { c' with retries := n }.id = some c :=
        Table.find?_of_key_eq hc hid
      have hl₁ : ({ s with children := Table.put s.children { c' with retries := n } } : Store).Linked :=
        hl.revised (Revised.putChild hc' hpar htop fun _ => hs')
      rw [he, exec_bind_of_ok _ (exec_setChildBytes_ok id 0), exec_child_state] at hC ⊢
      exact (h.putChild hl hc' hb).setChildBytes hl₁ hM id 0 hC

theorem BytesTrack.recordProgress (hl : s.Linked) (h : s.BytesTrack R) (hM : Moves R C) (bytes : Nat)
    (hC : ∀ pid, C ((exec (recordProgress id w bytes) s).2.childBytes pid)) :
    (exec (recordProgress id w bytes) s).2.BytesTrack R := by
  rcases @exec_recordProgress s id w bytes with he | ⟨c, -, -, he⟩
  · rw [he]
    exact h
  · rw [he] at hC ⊢
    exact h.setChildBytes hl hM id bytes hC

/-- A child ends with its final count, then its parent rolls up to the exact sum if it was the last. -/
theorem BytesTrack.finishChild (hl : s.Linked) (h : s.BytesTrack R) (hR : ∀ n, R n n) (hM : Moves R C)
    (status : Status) (bytes : Nat) (error : Option String)
    (hC : ∀ pid, C ((exec (finishChild id w status bytes error now) s).2.childBytes pid)) :
    (exec (finishChild id w status bytes error now) s).2.BytesTrack R := by
  rcases @exec_finishChild s id w now status bytes error with he | ⟨c, c', hc, -, ht, hm, he⟩
  · rw [he]
    exact h
  · obtain ⟨hid, hpar, htop, hst⟩ := Child.moveTo_links hm
    have hc' : Table.find? s.children { c' with worker := none, error }.id = some c :=
      Table.find?_of_key_eq hc hid
    have hl₁ : ({ s with children := Table.put s.children { c' with worker := none, error } } : Store).Linked :=
      hl.revised (Revised.putChild hc' hpar htop fun _ => by rw [hst]; exact Status.inStaging_of_isTerminal ht)
    rw [he, exec_bind_of_ok _ (exec_setChildBytes_ok id bytes),
      exec_bind_of_reads fun _ s => exec_child_state s id] at hC ⊢
    have hC' : ∀ pid, C ((exec (Store.setChildBytes id bytes)
        { s with children := Table.put s.children { c' with worker := none, error } }).2.childBytes pid) :=
      fun pid => by
        rw [← childBytes_rollUp c.parent now pid]
        exact hC pid
    have hb : c'.bytes = c.bytes := Child.bytes_of_moveTo hm
    exact ((h.putChild hl hc' hb).setChildBytes hl₁ hM id bytes hC').rollUp hR c.parent now

end Operations

/-! ## Every step of a run -/

/-- Every call keeps the counts in relation `R`, whatever its outcome, when `R` is reflexive, survives a move
of a child's count, and the sums the call leaves meet `C`. -/
theorem BytesTrack.call {C : Nat → Prop} (hl : s.Linked) (h : s.BytesTrack R) (hR : ∀ n, R n n) (hM : Moves R C)
    (c : Call) (ha : c.Admitted s) (hC : ∀ pid, C ((exec c.run s).2.childBytes pid)) :
    (exec c.run s).2.BytesTrack R := by
  cases hw : c.writesTasks
  · exact h.of_reassigned (c.keepsTasks hw s).1
  cases c <;> simp only [Call.writesTasks, Bool.false_eq_true] at hw <;> simp only [Call.run] at hC ⊢
  case createTransfer t ps =>
    rw [exec_discard_state]
    rcases exec_createTransfer (s := s) t ps with he | ⟨-, -, he⟩
    · rw [he]
      exact h
    · rw [he]
      exact h.createTransfer hl hR ha
  case requestCancel id now => rw [exec_discard_state]; exact tracks_requestCancel hR id now s hl h
  case beginStaging => rw [exec_discard_state]; exact h.beginStaging
  case recordParentRetry => rw [exec_discard_state]; exact h.recordParentRetry
  case commitStaging => rw [exec_discard_state]; exact h.commitStaging hl hR _
  case startParent => rw [exec_discard_state]; exact h.startParent hR
  case finishParent => rw [exec_discard_state]; exact h.finishParent hl _ _
  case beginChildAttempt => rw [exec_discard_state] at hC ⊢; exact h.beginChildAttempt hl hM hC
  case recordProgress => exact h.recordProgress hl hM _ hC
  case finishChild => rw [exec_discard_state] at hC ⊢; exact h.finishChild hl hR hM _ _ _ hC

/-- No parent's listed children hold more bytes in all than a 64-bit word. -/
def InWord (s : Store) : Prop := ∀ pid, s.childBytes pid ≤ Word.max64

/-- A parent that no list of children names has no children to sum, so only the listed parents count. -/
theorem inWord_of_lists (h : ∀ kv ∈ s.childLists, s.childBytes kv.1 ≤ Word.max64) : s.InWord := by
  intro pid
  cases hf : s.childLists.find? (·.1 = pid) with
  | none =>
    have hnil : s.childIds pid = [] := by simp only [childIds, hf, Option.map_none, Option.getD_none]
    simp only [childBytes, childRecords, hnil, List.filterMap_nil, Child.sumBytes_nil]
    exact Nat.zero_le _
  | some kv =>
    have hkv := List.find?_some hf
    simp only [decide_eq_true_eq] at hkv
    exact hkv ▸ h kv (List.mem_of_find?_eq_some hf)

end Store

/-- The stores a run reaches from the empty store when every store on its way, the last included, meets
`P`. -/
inductive ReachableWithin (P : Store → Prop) : Store → Prop where
  | empty : P {} → ReachableWithin P {}
  | call {s : Store} (c : Call) : ReachableWithin P s → c.Admitted s → P (Store.exec c.run s).2 →
      ReachableWithin P (Store.exec c.run s).2
  | draw {s : Store} : ReachableWithin P s → P (Store.exec Store.freshId s).2 →
      ReachableWithin P (Store.exec Store.freshId s).2
  | restore {s : Store} (now : Stamp) : ReachableWithin P s → P (Store.ofSnapshot (s.capture now) s.serial) →
      ReachableWithin P (Store.ofSnapshot (s.capture now) s.serial)

namespace ReachableWithin

variable {P : Store → Prop} {s : Store}

theorem reachable (h : ReachableWithin P s) : Reachable s := by
  induction h with
  | empty => exact .empty
  | call c _ ha _ ih => exact .call c ih ha
  | draw _ _ ih => exact .draw ih
  | restore now _ _ ih => exact .restore now ih

/-- Every run stays within a condition that every store meets. -/
theorem of_reachable (h : Reachable s) (hP : ∀ s, P s) : ReachableWithin P s := by
  induction h with
  | empty => exact .empty (hP _)
  | call c _ ha ih => exact .call c ih ha (hP _)
  | draw _ ih => exact .draw ih (hP _)
  | restore now _ ih => exact .restore now ih (hP _)

/-- Calls made in turn, each store they pass meeting `P`. -/
theorem foldl_calls {cs : List Call} (h : ReachableWithin P s) (hcs : ∀ c ∈ cs, ∀ s, c.Admitted s)
    (hP : ∀ t ∈ (cs.scanl (fun s c => (Store.exec c.run s).2) s).tail, P t) :
    ReachableWithin P (cs.foldl (fun s c => (Store.exec c.run s).2) s) := by
  induction cs generalizing s with
  | nil => exact h
  | cons c cs ih =>
    rw [List.scanl_cons, List.tail_cons] at hP
    have hhead : (Store.exec c.run s).2 ∈ cs.scanl (fun s c => (Store.exec c.run s).2) (Store.exec c.run s).2 := by
      cases cs <;> simp [List.scanl]
    exact ih (.call c h (hcs c List.mem_cons_self _) (hP _ hhead)) (fun c' hc' => hcs c' (List.mem_cons_of_mem _ hc'))
      fun t ht => hP t (List.mem_of_mem_tail ht)

/-- Along a run whose sums all meet `C`, the counts stay in every reflexive relation `R` that survives the moves
of children's counts. -/
theorem bytesTrack {R : Nat → Nat → Prop} {C : Nat → Prop} (hR : ∀ n, R n n) (hM : Store.Moves R C)
    (h : ReachableWithin (fun s => ∀ pid, C (s.childBytes pid)) s) : s.BytesTrack R := by
  induction h with
  | empty => exact fun _ hp => (by cases hp)
  | call c hr ha hC ih => exact ih.call hr.reachable.linked hR hM c ha hC
  | draw _ _ ih =>
    rw [Store.exec_freshId]
    exact ih.of_tasks rfl rfl rfl
  | restore now hr _ ih => exact ih.of_sameRecords (hr.reachable.linked.sameRecords_restore now) hr.reachable.linked

end ReachableWithin

/-- In every reachable store a parent's byte count is at most the exact sum of the counts of the children it
lists; it equals that sum in every store reached by a run along which no parent's children ever held more
bytes in all than a 64-bit word. -/
theorem Reachable.parent_bytes_track_children {s : Store} (h : Reachable s) :
    (∀ p ∈ s.parents, p.bytes ≤ s.childBytes p.id) ∧
      (ReachableWithin Store.InWord s → ∀ p ∈ s.parents, p.bytes = s.childBytes p.id) :=
  ⟨ReachableWithin.bytesTrack (C := fun _ => True) Nat.le_refl Store.moves_le
      (ReachableWithin.of_reachable h fun _ _ => trivial),
    fun hw => ReachableWithin.bytesTrack (C := (· ≤ Word.max64)) (fun _ => rfl) Store.moves_eq hw⟩

set_option maxRecDepth 1000 in
/-- A child's progress moves its parent's count with it: once the first of two children reports 7 bytes, the
parent holds 7, the sum of its children, along a run that stays within a 64-bit word. -/
theorem progress_moves_parent_bytes :
    let t₀ : Top := Top.fresh ⟨⟨1⟩⟩ "ta" "alice" none 0
    let p₀ : Parent := Parent.fresh ⟨⟨2⟩⟩ t₀ "mem://src/in" "mem://dst/out" false 1
    let w : WorkerId := ⟨⟨3⟩⟩
    let c₀ : TaskId := ⟨Uuid.spawned 0⟩
    let s := [Call.registerWorker ⟨w, "h1", 0, 0⟩, .assign .parent p₀.id w, .beginStaging p₀.id w 2,
      .commitStaging p₀.id w [⟨"/src/a", "/dst/a", 10⟩, ⟨"/src/b", "/dst/b", 4⟩] 3, .startParent p₀.id w 4,
      .assign .child c₀ w, .beginChildAttempt c₀ w 5, .recordProgress c₀ w 7].foldl
        (fun s c => (Store.exec c.run s).2) (Store.exec (Call.createTransfer t₀ [p₀]).run {}).2
    ReachableWithin Store.InWord s ∧ ∃ p ∈ s.parents, p.bytes = 7 ∧ p.bytes = s.childBytes p.id := by
  intro t₀ p₀ w c₀ s
  have hadm : ({} : Store).Admits t₀ [p₀] :=
    Store.admits_empty ⟨_, _, _, _, rfl⟩ (fun p hp => by rw [List.mem_singleton.1 hp]; exact ⟨_, _, _, _, rfl⟩)
      (by decide) (by decide)
  have hw : ReachableWithin Store.InWord s := by
    refine ReachableWithin.foldl_calls (.call (.createTransfer t₀ [p₀]) (.empty ?_) hadm ?_) (fun c hc _ => ?_) ?_
    · exact Store.inWord_of_lists (by decide)
    · exact Store.inWord_of_lists (by decide)
    · simp only [List.mem_cons, List.not_mem_nil, or_false] at hc
      rcases hc with rfl | rfl | rfl | rfl | rfl | rfl | rfl | rfl <;> trivial
    · refine fun t ht => Store.inWord_of_lists ?_
      revert t
      decide +kernel
  obtain ⟨p, hp, hb⟩ : ∃ p ∈ s.parents, p.bytes = 7 := by decide +kernel
  exact ⟨hw, p, hp, hb, (Reachable.parent_bytes_track_children hw.reachable).2 hw p hp⟩

set_option maxRecDepth 1000 in
/-- A count stopped at the top of a 64-bit word falls behind its children's sum: the first child reports
`2 ^ 64 - 1` bytes and the second 5, which the parent's count cannot take; a new attempt of the second child
takes its 5 bytes back from the parent, which ends 5 below the sum of its children. -/
theorem saturated_parent_bytes_fall_behind :
    let t₀ : Top := Top.fresh ⟨⟨1⟩⟩ "ta" "alice" none 0
    let p₀ : Parent := Parent.fresh ⟨⟨2⟩⟩ t₀ "mem://src/in" "mem://dst/out" false 1
    let w : WorkerId := ⟨⟨3⟩⟩
    let c₀ : TaskId := ⟨Uuid.spawned 0⟩
    let c₁ : TaskId := ⟨Uuid.spawned 1⟩
    let s := [Call.registerWorker ⟨w, "h1", 0, 0⟩, .assign .parent p₀.id w, .beginStaging p₀.id w 2,
      .commitStaging p₀.id w [⟨"/src/a", "/dst/a", 1⟩, ⟨"/src/b", "/dst/b", 1⟩] 3, .startParent p₀.id w 4,
      .assign .child c₀ w, .beginChildAttempt c₀ w 5, .recordProgress c₀ w Word.max64,
      .assign .child c₁ w, .beginChildAttempt c₁ w 6, .recordProgress c₁ w 5, .beginChildAttempt c₁ w 7].foldl
        (fun s c => (Store.exec c.run s).2) (Store.exec (Call.createTransfer t₀ [p₀]).run {}).2
    Reachable s ∧ ∃ p ∈ s.parents, p.bytes + 5 = s.childBytes p.id := by
  intro t₀ p₀ w c₀ c₁ s
  have hadm : ({} : Store).Admits t₀ [p₀] :=
    Store.admits_empty ⟨_, _, _, _, rfl⟩ (fun p hp => by rw [List.mem_singleton.1 hp]; exact ⟨_, _, _, _, rfl⟩)
      (by decide) (by decide)
  have hr : Reachable s := Reachable.foldl_calls (.call (.createTransfer t₀ [p₀]) .empty hadm) fun c hc _ => by
    simp only [List.mem_cons, List.not_mem_nil, or_false] at hc
    rcases hc with rfl | rfl | rfl | rfl | rfl | rfl | rfl | rfl | rfl | rfl | rfl | rfl <;> trivial
  exact ⟨hr, by decide +kernel⟩

end Conveyor
