import Conveyor.Proofs.Store.Cancel
import Conveyor.Proofs.Store.Tenants
import Conveyor.Service.Run

/-!
# A cancel action reaches the tasks under its task

A cancel of task `x` goes out to the running pipelines as the action `⟨x, tenant⟩`, with the tenant the cancel
request returned. The scope of a running task matches it when the tenants agree and the task, its parent or its
transfer is `x` (`Scope.matches`). In a reachable store that test is exactly "the task lies under `x`"
(`Store.Below`):

* ids are never shared between transfers, parents and children, so the ids of a parent's or a child's scope
  name `x` exactly when the task lies under `x` (`Store.Linked.below_parent_iff`, `Store.Linked.below_child_iff`);
* a task under `x` belongs to the transfer of `x` (`Store.Linked.top_of_below_parent` and the child's), and bears
  its tenant (`Reachable.tenantsAgree`);
* the request returns the tenant of that transfer: the outcome is made with it, and the cancels that follow only
  add tasks to it (`Store.KeepsTenant`, `Store.exec_requestCancel_ok`).

`Reachable.cancel_action_reaches_below` puts these together; a registry of running pipelines then cancels
exactly the tokens of the tasks under `x`.
-/

namespace Conveyor

theorem Scope.matches_iff {sc : Scope} {a : CancelAction} :
    sc.matches a = true ↔ a.tenant = sc.tenant ∧ (a.task = sc.task ∨ a.task = sc.top ∨ some a.task = sc.parent) := by
  simp [Scope.matches, or_assoc]

namespace Store

variable {s : Store}

/-- Whether task `d` lies under task `x`, read off the records of `d`. -/
def belowB (s : Store) (x d : TaskId) : Bool :=
  d == x || (Table.find? s.parents d).any (·.top == x) ||
    (Table.find? s.children d).any fun c => c.top == x || c.parent == x

theorem belowB_iff {x d : TaskId} : s.belowB x d = true ↔ s.Below x d := by
  simp [belowB, Below, Option.any_eq_true, or_assoc]

instance (x d : TaskId) : Decidable (s.Below x d) := decidable_of_iff _ belowB_iff

/-! ## The tenant a cancel returns -/

/-- A cancel program that returns the tenant of the outcome it was given. -/
def KeepsTenant (m : CancelOutcome → StoreM CancelOutcome) : Prop :=
  ∀ out s o s', exec (m out) s = (.ok o, s') → o.tenant = out.tenant

namespace KeepsTenant

theorem pure : KeepsTenant fun out => Pure.pure out := fun out s _ _ h => by
  rw [exec_pure] at h
  cases h
  rfl

theorem bind {m k : CancelOutcome → StoreM CancelOutcome} (hm : KeepsTenant m) (hk : KeepsTenant k) :
    KeepsTenant fun out => m out >>= k := fun out s o s' h => by
  obtain ⟨o₁, s₁, h₁, h₂⟩ := exec_bind_eq_ok h
  exact (hk o₁ s₁ o s' h₂).trans (hm out s o₁ s₁ h₁)

/-- A step that leaves the outcome alone, before a program that keeps its tenant. -/
theorem after {γ : Type} (n : StoreM γ) {k : γ → CancelOutcome → StoreM CancelOutcome} (hk : ∀ c, KeepsTenant (k c)) :
    KeepsTenant fun out => n >>= fun c => k c out := fun out s o s' h => by
  obtain ⟨c, s₁, -, h₂⟩ := exec_bind_eq_ok h
  exact hk c out s₁ o s' h₂

theorem foldlM {β : Type} {f : β → CancelOutcome → StoreM CancelOutcome} (hf : ∀ b, KeepsTenant (f b))
    (xs : List β) : KeepsTenant fun out => xs.foldlM (fun out b => f b out) out := by
  induction xs with
  | nil =>
    intro out s o s' h
    rw [exec_foldlM_nil] at h
    cases h
    rfl
  | cons x xs ih =>
    intro out s o s' h
    rw [exec_foldlM_cons] at h
    exact (bind (hf x) ih) out s o s' h

end KeepsTenant

theorem keepsTenant_cancelChild (id : TaskId) (now : Stamp) : KeepsTenant fun out => cancelChild id out now := by
  intro out s o s' h
  cases hc : Table.find? s.children id with
  | none =>
    rw [exec_cancelChild_of_none out now hc] at h
    cases h
  | some c =>
    cases ht : c.status.isTerminal
    · cases hw : c.worker with
      | some w =>
        rw [exec_cancelChild_of_held out now hc ht (by simp [hw])] at h
        cases h
        rfl
      | none =>
        cases hm : Kind.child.canMove c.status .cancelled
        · rw [exec_cancelChild_of_stuck out now hc ht hw hm] at h
          cases h
        · rw [exec_cancelChild_of_free out now hc ht hw hm] at h
          cases h
          rfl
    · rw [exec_cancelChild_of_ended out now hc ht] at h
      cases h
      rfl

theorem keepsTenant_cancelChildren (ids : List TaskId) (now : Stamp) :
    KeepsTenant fun out => cancelChildren ids out now :=
  KeepsTenant.foldlM (fun id => keepsTenant_cancelChild id now) ids

theorem keepsTenant_cancelParent (id : TaskId) (now : Stamp) : KeepsTenant fun out => cancelParent id out now := by
  intro out s o s' h
  cases hp : Table.find? s.parents id with
  | none =>
    rw [exec_cancelParent_of_none out now hp] at h
    cases h
  | some p =>
    cases ht : p.status.isTerminal
    · rcases hc : exec (cancelChildren (s.childIds id) out now) s with ⟨r, s₁⟩
      cases r with
      | error e =>
        rw [exec_cancelParent_of_error out now hp ht hc] at h
        cases h
      | ok out' =>
        have hout := keepsTenant_cancelChildren (s.childIds id) now out s out' s₁ hc
        cases hw : p.worker with
        | some w =>
          rw [exec_cancelParent_of_held out now hp ht hc (by simp [hw])] at h
          cases h
          exact hout
        | none =>
          by_cases ha : p.status = .inProgress
          · rw [exec_cancelParent_of_active out now hp ht hc hw ha] at h
            rcases hr : exec (rollUpParent id now) s₁ with ⟨r', s₂⟩
            rw [hr] at h
            cases r' <;> cases h
            exact hout
          · rw [exec_cancelParent_of_free out now hp ht hc hw ha] at h
            cases h
            exact hout
    · rw [exec_cancelParent_of_ended out now hp ht] at h
      cases h
      rfl

/-- A cancel of a task it finds returns the tenant of the task's transfer. -/
theorem requestCancel_tenant {x T : TaskId} {ended : Bool} {t : Top} {now : Stamp} {o : CancelOutcome}
    {s' : Store} (hx : s.locate x = some (T, ended)) (ht : Table.find? s.tops T = some t)
    (h : exec (requestCancel x now) s = (.ok o, s')) : o.tenant = t.tenant := by
  cases he : (ended || t.status.isTerminal)
  case true =>
    rw [exec_requestCancel_of_ended hx ht he] at h
    cases h
    rfl
  case false =>
    obtain ⟨hn, htn⟩ : ended = false ∧ t.status.isTerminal = false := by simpa using he
    have hrest : ∀ T' : TaskId, KeepsTenant fun out => refreshTop T' now >>= fun _ => Pure.pure out :=
      fun T' => KeepsTenant.after _ fun _ => KeepsTenant.pure
    cases h0 : Table.find? s.tops x with
    | some t₀ =>
      simp only [locate, h0, Option.some.injEq, Prod.mk.injEq] at hx
      obtain ⟨rfl, rfl⟩ := hx
      have h0' : Table.find? s.tops t₀.id = some t₀ := Table.find?_self h0
      rw [h0', Option.some.injEq] at ht
      subst ht
      rw [exec_requestCancel_of_top h0 hn] at h
      exact (KeepsTenant.foldlM (fun pid => keepsTenant_cancelParent pid now) t₀.parents).bind (hrest x) _ _ _ _ h
    | none =>
      cases h1 : Table.find? s.parents x with
      | some p =>
        simp only [locate, h0, h1, Option.some.injEq, Prod.mk.injEq] at hx
        obtain ⟨rfl, rfl⟩ := hx
        rw [exec_requestCancel_of_parent h0 h1 ht hn htn] at h
        exact KeepsTenant.after (mark x) (fun _ => (keepsTenant_cancelParent x now).bind (hrest p.top)) _ _ _ _ h
      | none =>
        cases h2 : Table.find? s.children x with
        | some c =>
          simp only [locate, h0, h1, h2, Option.some.injEq, Prod.mk.injEq] at hx
          obtain ⟨rfl, rfl⟩ := hx
          rw [exec_requestCancel_of_child h0 h1 h2 ht hn htn] at h
          exact KeepsTenant.after (mark x) (fun _ => (keepsTenant_cancelChild x now).bind
            (KeepsTenant.after (child x) fun c' => KeepsTenant.after (rollUpParent c'.parent now) fun _ =>
              hrest c.top)) _ _ _ _ h
        | none => simp [locate, h0, h1, h2] at hx

/-- A cancel that gives an outcome found the task and its transfer, and returns the transfer's tenant. -/
theorem exec_requestCancel_ok {x : TaskId} {now : Stamp} {o : CancelOutcome}
    (h : (exec (requestCancel x now) s).1 = .ok o) :
    ∃ T ended t, s.locate x = some (T, ended) ∧ Table.find? s.tops T = some t ∧ o.tenant = t.tenant := by
  cases hx : s.locate x with
  | none =>
    rw [exec_requestCancel_of_unknown hx] at h
    cases h
  | some e =>
    obtain ⟨T, ended⟩ := e
    cases ht : Table.find? s.tops T with
    | none =>
      rw [exec_requestCancel_of_lost hx ht] at h
      cases h
    | some t => exact ⟨T, ended, t, rfl, ht, requestCancel_tenant hx ht (Prod.ext h rfl)⟩

/-! ## What lies under a task -/

theorem locate_of_top {x : TaskId} {t : Top} (h : Table.find? s.tops x = some t) :
    s.locate x = some (x, t.status.isTerminal) := by
  have hid : t.id = x := (Table.find?_eq_some h).2
  simp [locate, h, hid]

/-- A task is found in one transfer only. -/
theorem top_eq_of_locate {x T T' : TaskId} {e e' : Bool} (h : s.locate x = some (T, e))
    (h' : s.locate x = some (T', e')) : T' = T := by
  rw [h'] at h
  exact (Prod.mk.inj (Option.some.inj h)).1

section Under

variable (hl : s.Linked)
include hl

theorem Linked.locate_of_parent {x : TaskId} {p : Parent} (h : Table.find? s.parents x = some p) :
    s.locate x = some (p.top, p.status.isTerminal) := by
  simp [locate, hl.tops_none_of_parent h, h]

theorem Linked.locate_of_child {x : TaskId} {c : Child} (h : Table.find? s.children x = some c) :
    s.locate x = some (c.top, c.status.isTerminal) := by
  simp [locate, hl.tops_none_of_child h, hl.parents_none_of_child h, h]

/-- A parent lies under `x` exactly when it is `x` or its transfer is `x`. -/
theorem Linked.below_parent_iff {x d : TaskId} {p : Parent} (hp : Table.find? s.parents d = some p) :
    s.Below x d ↔ x = p.id ∨ x = p.top := by
  have hid : p.id = d := (Table.find?_eq_some hp).2
  constructor
  · rintro (rfl | ⟨q, hq, rfl⟩ | ⟨c, hc, -⟩)
    · exact .inl hid.symm
    · rw [hp, Option.some.injEq] at hq
      subst hq
      exact .inr rfl
    · rw [hl.children_none_of_parent hp] at hc
      cases hc
  · rintro (rfl | rfl)
    · exact .inl hid.symm
    · exact .inr (.inl ⟨p, hp, rfl⟩)

/-- A child lies under `x` exactly when it is `x`, or its transfer or its parent is `x`. -/
theorem Linked.below_child_iff {x d : TaskId} {c : Child} (hc : Table.find? s.children d = some c) :
    s.Below x d ↔ x = c.id ∨ x = c.top ∨ x = c.parent := by
  have hid : c.id = d := (Table.find?_eq_some hc).2
  constructor
  · rintro (rfl | ⟨p, hp, -⟩ | ⟨c', hc', hx⟩)
    · exact .inl hid.symm
    · rw [hl.parents_none_of_child hc] at hp
      cases hp
    · rw [hc, Option.some.injEq] at hc'
      subst hc'
      rcases hx with rfl | rfl
      · exact .inr (.inl rfl)
      · exact .inr (.inr rfl)
  · rintro (rfl | rfl | rfl)
    · exact .inl hid.symm
    · exact .inr (.inr ⟨c, hc, .inl rfl⟩)
    · exact .inr (.inr ⟨c, hc, .inr rfl⟩)

variable {x T : TaskId} {ended : Bool} (hx : s.locate x = some (T, ended))
include hx

/-- A parent under `x` belongs to the transfer of `x`. -/
theorem Linked.top_of_below_parent {d : TaskId} {p : Parent} (hp : Table.find? s.parents d = some p)
    (h : x = p.id ∨ x = p.top) : p.top = T := by
  rcases h with rfl | rfl
  · exact top_eq_of_locate hx (hl.locate_of_parent (Table.find?_self hp))
  · obtain ⟨t, ht, -⟩ := hl.parent_top hp
    exact top_eq_of_locate hx (locate_of_top ht)

/-- A child under `x` belongs to the transfer of `x`. -/
theorem Linked.top_of_below_child {d : TaskId} {c : Child} (hc : Table.find? s.children d = some c)
    (h : x = c.id ∨ x = c.top ∨ x = c.parent) : c.top = T := by
  obtain ⟨p, hp, -, hct, -⟩ := hl.child_parent hc
  rcases h with rfl | rfl | rfl
  · exact top_eq_of_locate hx (hl.locate_of_child (Table.find?_self hc))
  · obtain ⟨t, ht, -⟩ := hl.parent_top hp
    rw [← hct] at ht
    exact top_eq_of_locate hx (locate_of_top ht)
  · exact hct.trans (top_eq_of_locate hx (hl.locate_of_parent hp))

end Under

/-! ## The scopes a cancel action matches -/

section Matches

variable (hl : s.Linked) (h : s.TenantsAgree) {x T : TaskId} {ended : Bool} {t : Top}
  (hx : s.locate x = some (T, ended)) (ht : Table.find? s.tops T = some t)
include hl h hx ht

/-- The scope of a parent matches the action for `x` with the tenant of `x`'s transfer exactly when the parent lies
under `x`. -/
theorem TenantsAgree.matches_parent_iff {d : TaskId} {p : Parent} (hp : Table.find? s.parents d = some p) :
    Scope.matches ⟨p.id, none, p.top, p.tenant⟩ ⟨x, t.tenant⟩ = true ↔ s.Below x d := by
  rw [Scope.matches_iff, hl.below_parent_iff hp]
  simp only [reduceCtorEq, or_false]
  refine ⟨fun hm => hm.2, fun hb => ⟨?_, hb⟩⟩
  have htop : Table.find? s.tops p.top = some t := by rw [hl.top_of_below_parent hx hp hb]; exact ht
  exact (h.parents hp htop).symm

/-- The scope of a child matches the action for `x` with the tenant of `x`'s transfer exactly when the child lies
under `x`. -/
theorem TenantsAgree.matches_child_iff {d : TaskId} {c : Child} (hc : Table.find? s.children d = some c) :
    Scope.matches ⟨c.id, some c.parent, c.top, c.tenant⟩ ⟨x, t.tenant⟩ = true ↔ s.Below x d := by
  rw [Scope.matches_iff, hl.below_child_iff hc]
  simp only [Option.some.injEq]
  refine ⟨fun hm => hm.2, fun hb => ⟨?_, hb⟩⟩
  have htop : Table.find? s.tops c.top = some t := by rw [hl.top_of_below_child hx hc hb]; exact ht
  exact (h.child_top hl hc htop).symm

end Matches

end Store

namespace Pipe

/-- The scope of a run is that of the parent or the child it runs, as the store holds it. -/
theorem runScope_eq_some {w : Service} {r : Run} {sc : Scope} (h : runScope w r = some sc) :
    (∃ p, Table.find? w.store.parents r.task = some p ∧ sc = ⟨p.id, none, p.top, p.tenant⟩) ∨
      ∃ c, Table.find? w.store.children r.task = some c ∧ sc = ⟨c.id, some c.parent, c.top, c.tenant⟩ := by
  unfold runScope at h
  cases hk : r.kind
  · rw [hk] at h
    obtain ⟨p, hp, rfl⟩ := Option.map_eq_some_iff.1 h
    exact .inl ⟨p, hp, rfl⟩
  · rw [hk] at h
    obtain ⟨c, hc, rfl⟩ := Option.map_eq_some_iff.1 h
    exact .inr ⟨c, hc, rfl⟩

/-- The scope of a run names the task it runs. -/
theorem runScope_task {w : Service} {r : Run} {sc : Scope} (h : runScope w r = some sc) : sc.task = r.task := by
  rcases runScope_eq_some h with ⟨p, hp, rfl⟩ | ⟨c, hc, rfl⟩
  · exact (Table.find?_eq_some hp).2
  · exact (Table.find?_eq_some hc).2

end Pipe

/-- **A cancel action reaches exactly the tasks under its task.** In a reachable store, when a cancel of `x`
gives an outcome, the action for `x` named with the outcome's tenant matches the scope of a running parent or
child exactly when that task lies under `x`. So a registry of running tasks reaches, and cancels in its order,
exactly the tokens of those under `x`. -/
theorem Reachable.cancel_action_reaches_below {w : Service} (h : Reachable w.store) {x : TaskId} {now : Stamp}
    {o : CancelOutcome} (ho : (Store.exec (Store.requestCancel x now) w.store).1 = .ok o) :
    (∀ r sc, Pipe.runScope w r = some sc → (sc.matches ⟨x, o.tenant⟩ = true ↔ w.store.Below x r.task)) ∧
    ∀ (reg : Registry) (tok : Tokens), (∀ e ∈ reg.running, ∃ r, Pipe.runScope w r = some e.1) →
      let under := reg.running.filter fun e => decide (w.store.Below x e.1.task)
      reg.apply ⟨x, o.tenant⟩ tok = (under.length, (under.map (·.2)).foldl Tokens.cancel tok) := by
  have hl := h.linked
  obtain ⟨T, ended, t, hx, ht, hten⟩ := Store.exec_requestCancel_ok ho
  have hiff : ∀ r sc, Pipe.runScope w r = some sc → (sc.matches ⟨x, o.tenant⟩ = true ↔ w.store.Below x r.task) := by
    intro r sc hr
    rw [hten]
    rcases Pipe.runScope_eq_some hr with ⟨p, hp, rfl⟩ | ⟨c, hc, rfl⟩
    · exact h.tenantsAgree.matches_parent_iff hl hx ht hp
    · exact h.tenantsAgree.matches_child_iff hl hx ht hc
  refine ⟨hiff, fun reg tok hreg => ?_⟩
  have hfilter : reg.running.filter (·.1.matches ⟨x, o.tenant⟩) =
      reg.running.filter fun e => decide (w.store.Below x e.1.task) := by
    refine List.filter_congr fun e he => ?_
    obtain ⟨r, hr⟩ := hreg e he
    rw [Pipe.runScope_task hr, Bool.eq_iff_iff, decide_eq_true_iff]
    exact hiff r e.1 hr
  simp only [Registry.apply, Registry.reached, hfilter, List.length_map]

/-- Transfer 1 of tenant "ta" with one parent, 2, staged and held by worker 3, and one child that no worker
holds. -/
def stagedParentStore : Store :=
  let t₀ : Top := Top.fresh ⟨⟨1⟩⟩ "ta" "alice" none 0
  let z : WorkerId := ⟨⟨3⟩⟩
  [Call.registerWorker ⟨z, "h1", 0, 0⟩, .assign .parent ⟨⟨2⟩⟩ z, .beginStaging ⟨⟨2⟩⟩ z 2,
    .commitStaging ⟨⟨2⟩⟩ z [⟨"/src/a", "/dst/a", 10⟩] 3].foldl (fun s c => (Store.exec c.run s).2)
    (Store.exec (Call.createTransfer t₀ [Parent.fresh ⟨⟨2⟩⟩ t₀ "mem://src/in" "mem://dst/out" false 1]).run {}).2

theorem reachable_stagedParentStore : Reachable stagedParentStore := by
  have hadm : ({} : Store).Admits (Top.fresh ⟨⟨1⟩⟩ "ta" "alice" none 0)
      [Parent.fresh ⟨⟨2⟩⟩ (Top.fresh ⟨⟨1⟩⟩ "ta" "alice" none 0) "mem://src/in" "mem://dst/out" false 1] :=
    Store.admits_empty ⟨_, _, _, _, rfl⟩
      (fun p hp => by rcases List.mem_singleton.1 hp with rfl; exact ⟨_, _, _, _, rfl⟩) (by decide) (by decide)
  exact Reachable.foldl_calls (.call (.createTransfer _ _) .empty hadm) fun c hc _ => by
    simp only [List.mem_cons, List.not_mem_nil, or_false] at hc
    rcases hc with rfl | rfl | rfl | rfl <;> trivial

/-- A cancel of the staged parent reaches its scope and its child's, and no other. -/
theorem staged_parent_cancel_reaches_below :
    let w : Service :=
      { store := stagedParentStore
        worker := ⟨⟨3, 100, 1000, 2.0⟩, 4096, 100, 8, 100⟩
        dispatch := ⟨1000, 2, 10, 10, 10⟩
        now := 0 }
    let o : CancelOutcome := ⟨⟨⟨1⟩⟩, "ta", true, [⟨Uuid.spawned 0⟩], [⟨⟨2⟩⟩]⟩
    Reachable w.store ∧ (Store.exec (Store.requestCancel ⟨⟨2⟩⟩ 5) w.store).1 = .ok o ∧
      (∀ r sc, Pipe.runScope w r = some sc → (sc.matches ⟨⟨⟨2⟩⟩, o.tenant⟩ = true ↔ w.store.Below ⟨⟨2⟩⟩ r.task)) ∧
      ∀ (reg : Registry) (tok : Tokens), (∀ e ∈ reg.running, ∃ r, Pipe.runScope w r = some e.1) →
        let under := reg.running.filter fun e => decide (w.store.Below ⟨⟨2⟩⟩ e.1.task)
        reg.apply ⟨⟨⟨2⟩⟩, o.tenant⟩ tok = (under.length, (under.map (·.2)).foldl Tokens.cancel tok) := by
  intro w o
  have hr : Reachable w.store := reachable_stagedParentStore
  have ho : (Store.exec (Store.requestCancel ⟨⟨2⟩⟩ 5) w.store).1 = .ok o := by decide +kernel
  exact ⟨hr, ho, Reachable.cancel_action_reaches_below hr ho⟩

end Conveyor
