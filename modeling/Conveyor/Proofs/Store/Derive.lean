import Conveyor.Proofs.Store.Integrity

/-!
# A transfer's status read off its parents

`deriveTop` reads a parent only through its class (accepted, active, or one of the three ends) and
whether it is optional, and it reads the cancel flag only once every parent has ended:

* `deriveTop_phase`: active parents count alike (`Status.phase`).
* `deriveTop_stable`: once the derived status is an end, it stays while only unfinished parents move.
* `deriveTop_of_active`: while a parent is active, a transfer is failed or in progress.
* `deriveTop_of_accepted`: a transfer whose parents are all still accepted is accepted.
* `deriveTop_cancelRequested`: the cancel flag does not move a status that is not an end.
-/

namespace Conveyor

/-- The class of a status as a transfer's status reads it: every active status counts as in progress. -/
def Status.phase (st : Status) : Status := if st.isActive then .inProgress else st

/-- A parent's view with its status replaced by its class. -/
def ParentView.phase (v : ParentView) : ParentView := ⟨v.status.phase, v.optional⟩

theorem Status.phase_of_isActive {st : Status} (h : st.isActive = true) : st.phase = .inProgress := by
  simp [Status.phase, h]

theorem Status.isTerminal_of_isActive {st : Status} (h : st.isActive = true) : st.isTerminal = false := by
  cases st <;> first | rfl | cases h

theorem deriveTop_phase (c : Status) (cr : Bool) (vs : List ParentView) :
    deriveTop c cr (vs.map ParentView.phase) = deriveTop c cr vs := by
  have h1 : ∀ st : Status, (st.phase == .failed) = (st == .failed) := by intro st; cases st <;> rfl
  have h2 : ∀ st : Status, st.phase.isTerminal = st.isTerminal := by intro st; cases st <;> rfl
  have h3 : ∀ st : Status, (st.phase == .cancelled) = (st == .cancelled) := by intro st; cases st <;> rfl
  have h4 : ∀ st : Status, (st.phase != .accepted) = (st != .accepted) := by intro st; cases st <;> rfl
  simp only [deriveTop, List.any_map, List.all_map, Function.comp_def, ParentView.phase, h1, h2, h3, h4]

/-- A status that is not an end is derived as from \x60ACCEPTED\x60. -/
theorem deriveTop_of_not_isTerminal {c : Status} (h : c.isTerminal = false) (cr : Bool) (vs : List ParentView) :
    deriveTop c cr vs = deriveTop .accepted cr vs := by
  unfold deriveTop
  rw [h]
  rfl

/-- The cancel flag is read only once every parent has ended. -/
theorem deriveTop_cancelRequested {cr : Bool} {vs : List ParentView}
    (h : (deriveTop .accepted cr vs).isTerminal = false) (cr' : Bool) :
    deriveTop .accepted cr' vs = deriveTop .accepted cr vs := by
  unfold deriveTop at h ⊢
  have hacc : Status.accepted.isTerminal = false := rfl
  simp only [hacc, Bool.false_eq_true, if_false] at h ⊢
  by_cases hA : (vs.any fun p => !p.optional && p.status == .failed) = true
  · rw [if_pos hA] at h
    cases h
  · by_cases hB : (vs.all fun p => p.status.isTerminal) = true
    · rw [if_neg hA, if_pos hB] at h
      split at h <;> cases h
    · rw [if_neg hA, if_neg hB, if_neg hA, if_neg hB]

/-- While a parent is active, the transfer has failed (a required parent failed) or is in progress. -/
theorem deriveTop_of_active {cr : Bool} {vs : List ParentView} (h : ∃ v ∈ vs, v.status.isActive = true) :
    deriveTop .accepted cr vs = if vs.any (fun v => !v.optional && v.status == .failed) then .failed
      else .inProgress := by
  obtain ⟨v, hv, ha⟩ := h
  have hall : vs.all (·.status.isTerminal) = false :=
    List.all_eq_false.2 ⟨v, hv, by simp [Status.isTerminal_of_isActive ha]⟩
  have hany : vs.any (·.status != .accepted) = true := by
    refine List.any_eq_true.2 ⟨v, hv, ?_⟩
    cases hs : v.status <;> simp_all [Status.isActive]
  unfold deriveTop
  have hacc : Status.accepted.isTerminal = false := rfl
  simp only [hacc, Bool.false_eq_true, if_false, hall, hany, if_true]

/-- A transfer whose parents are all still accepted is accepted. -/
theorem deriveTop_of_accepted {cr : Bool} {vs : List ParentView} (hne : vs ≠ [])
    (h : ∀ v ∈ vs, v.status = .accepted) : deriveTop .accepted cr vs = .accepted := by
  obtain ⟨v, hv⟩ := List.exists_mem_of_ne_nil vs hne
  have hA : (vs.any fun v => !v.optional && v.status == .failed) = false :=
    List.any_eq_false.2 fun w hw => by simp [h w hw]
  have hB : vs.all (·.status.isTerminal) = false :=
    List.all_eq_false.2 ⟨v, hv, by rw [h v hv]; decide⟩
  have hC : vs.any (·.status != .accepted) = false := List.any_eq_false.2 fun w hw => by simp [h w hw]
  unfold deriveTop
  have hacc : Status.accepted.isTerminal = false := rfl
  simp only [hacc, hA, hB, hC, Bool.false_eq_true, if_false]

/-- Once a transfer's derived status is an end, it stays while only parents that had not ended move. -/
theorem deriveTop_stable {cr : Bool} {rs : List Parent} {f : Parent → Parent}
    (hf : ∀ q ∈ rs, (f q).optional = q.optional ∧ (q.status.isTerminal = true → f q = q))
    (ht : (deriveTop .accepted cr (rs.map Parent.view)).isTerminal = true) :
    deriveTop .accepted cr ((rs.map f).map Parent.view) = deriveTop .accepted cr (rs.map Parent.view) := by
  unfold deriveTop at ht ⊢
  have hacc : Status.accepted.isTerminal = false := rfl
  simp only [hacc, Bool.false_eq_true, if_false] at ht ⊢
  by_cases hA : ((rs.map Parent.view).any fun v => !v.optional && v.status == .failed) = true
  · -- the failed required parent had ended, so it is still there
    obtain ⟨v, hv, hvf⟩ := List.any_eq_true.1 hA
    obtain ⟨q, hq, rfl⟩ := List.mem_map.1 hv
    have hterm : q.status.isTerminal = true := by
      simp only [Parent.view, Bool.and_eq_true, beq_iff_eq] at hvf
      rw [hvf.2]
      rfl
    have hA' : (((rs.map f).map Parent.view).any fun v => !v.optional && v.status == .failed) = true :=
      List.any_eq_true.2 ⟨(f q).view, List.mem_map_of_mem (List.mem_map_of_mem hq), by rw [(hf q hq).2 hterm]; exact hvf⟩
    rw [if_pos hA, if_pos hA']
  · by_cases hB : ((rs.map Parent.view).all fun v => v.status.isTerminal) = true
    · -- every parent had ended, so none moved
      have hid : rs.map f = rs := by
        conv_rhs => rw [← List.map_id rs]
        refine List.map_congr_left fun q hq => (hf q hq).2 ?_
        exact List.all_eq_true.1 hB q.view (List.mem_map_of_mem hq)
      rw [hid]
    · rw [if_neg hA, if_neg hB] at ht
      split at ht <;> cases ht

end Conveyor
