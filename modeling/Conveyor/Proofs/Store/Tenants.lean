import Conveyor.Proofs.Store.Ended

/-!
# Every task bears its transfer's tenant

A transfer is made for a tenant, and the tasks under it carry the tenant with them: a request makes its
parents with the transfer's tenant, a commit makes children with their parent's, and no write changes a
tenant, the transfer of a parent or the parent of a child.

* `Store.topTenants`: the tenant of each transfer. Every call but a submission keeps it
  (`Store.keepsTenants_call`): a refresh and a cancel write a transfer with its own tenant, and nothing
  else writes one.
* `Store.fixedOf`: what each parent and child keeps from its creation on (`Parent.fixed`, `Child.fixed`),
  a view blind to the progress of tasks (`Store.fixedOf_blind`) that the start of an attempt keeps too.
* `Store.TenantsAgree`: every parent bears its transfer's tenant and every child its parent's. A call that
  keeps both views keeps it; a submission and a commit add tasks that bear the right tenants.
  `Reachable.tenantsAgree`: it holds in every reachable store.
-/

namespace Conveyor

namespace Store

variable {s s' : Store}

/-- The tenant of each transfer. -/
def topTenants (s : Store) (id : TaskId) : Option String := (Table.find? s.tops id).map (·.tenant)

/-- What each parent and each child keeps from its creation on. -/
def fixedOf (s : Store) : (TaskId → Option Parent.Fixed) × (TaskId → Option Child.Fixed) :=
  (fun id => (Table.find? s.parents id).map Parent.fixed, fun id => (Table.find? s.children id).map Child.fixed)

/-- Every parent bears the tenant of its transfer, and every child the tenant of its parent. -/
structure TenantsAgree (s : Store) : Prop where
  parents : ∀ {id p t}, Table.find? s.parents id = some p → Table.find? s.tops p.top = some t → p.tenant = t.tenant
  children : ∀ {id c p}, Table.find? s.children id = some c → Table.find? s.parents c.parent = some p →
    c.tenant = p.tenant

/-! ## The views -/

theorem topTenants_putTop {t t' : Top} (h : Table.find? s.tops t'.id = some t) (he : t'.tenant = t.tenant) :
    topTenants { s with tops := Table.put s.tops t' } = topTenants s :=
  funext (Table.map_find?_put h he)

/-- A program that writes no transfer keeps every tenant of one. -/
theorem keepsTenants_of_tops {α : Type} {m : StoreM α} (h : ∀ s, (exec m s).2.tops = s.tops) : Keeps topTenants m :=
  fun s => by
    show topTenants (exec m s).2 = topTenants s
    unfold topTenants
    rw [h s]

theorem fixedOf_putParent {p p' : Parent} (h : Table.find? s.parents p'.id = some p) (hf : p'.fixed = p.fixed) :
    fixedOf { s with parents := Table.put s.parents p' } = fixedOf s :=
  Prod.ext (funext (Table.map_find?_put h hf)) rfl

theorem fixedOf_putChild {c c' : Child} (h : Table.find? s.children c'.id = some c) (hf : c'.fixed = c.fixed) :
    fixedOf { s with children := Table.put s.children c' } = fixedOf s :=
  Prod.ext rfl (funext (Table.map_find?_put h hf))

/-- What parents and children keep from their creation is blind to the progress of tasks. -/
theorem fixedOf_blind : Blind fixedOf where
  putTop _ _ := rfl
  putParent _ _ _ h hf := fixedOf_putParent h hf
  putChild _ _ _ h hf _ := fixedOf_putChild h hf
  marks _ _ := rfl
  reassigned _ _ h := by
    obtain ⟨f, hf⟩ := h.find?_parents
    obtain ⟨g, hg⟩ := h.find?_children
    simp only [fixedOf, hf, hg, Option.map_map]
    rfl

/-- Stores that agree on every tenant of a transfer and on what every task keeps from its creation agree on
whether every task bears its transfer's tenant. -/
theorem TenantsAgree.of_views (h : s.TenantsAgree) (ht : topTenants s' = topTenants s) (hf : fixedOf s' = fixedOf s) :
    s'.TenantsAgree where
  parents {id p' t'} hp' ht' := by
    have hfp := congrArg (fun v => v.1 id) hf
    have htt := congrFun ht p'.top
    simp only [fixedOf, topTenants, hp', ht', Option.map_some] at hfp htt
    obtain ⟨p, hp, hpf⟩ := Option.map_eq_some_iff.1 hfp.symm
    obtain ⟨t, htop, htf⟩ := Option.map_eq_some_iff.1 htt.symm
    have hpt : p.top = p'.top := congrArg Parent.Fixed.top hpf
    have hpn : p.tenant = p'.tenant := congrArg Parent.Fixed.tenant hpf
    rw [← hpt] at htop
    rw [← hpn, ← htf]
    exact h.parents hp htop
  children {id c' p'} hc' hp' := by
    have hfc := congrArg (fun v => v.2 id) hf
    have hfp := congrArg (fun v => v.1 c'.parent) hf
    simp only [fixedOf, hc', hp', Option.map_some] at hfc hfp
    obtain ⟨c, hc, hcf⟩ := Option.map_eq_some_iff.1 hfc.symm
    obtain ⟨p, hp, hpf⟩ := Option.map_eq_some_iff.1 hfp.symm
    have hcp : c.parent = c'.parent := congrArg Child.Fixed.parent hcf
    have hcn : c.tenant = c'.tenant := congrArg Child.Fixed.tenant hcf
    have hpn : p.tenant = p'.tenant := congrArg Parent.Fixed.tenant hpf
    rw [← hcp] at hp
    rw [← hcn, ← hpn]
    exact h.children hc hp

/-! ## Every step but a submission keeps the tenants of the transfers -/

section TopTenants

variable {id : TaskId} {w : WorkerId} {now : Stamp}

/-- A refresh writes a transfer with its own tenant. -/
theorem keepsTenants_refreshTop (id : TaskId) (now : Stamp) : Keeps topTenants (refreshTop id now) := by
  intro s
  show topTenants (exec _ s).2 = topTenants s
  cases h : Table.find? s.tops id with
  | none => rw [exec_refreshTop_of_none h]
  | some t =>
    rw [exec_refreshTop_of_find h]
    split
    · rfl
    · exact topTenants_putTop (t := t) (Table.find?_self h) rfl

theorem keepsTenants_mark (id : TaskId) : Keeps topTenants (mark id) := fun _ => rfl

theorem keepsTenants_setChildBytes (id : TaskId) (bytes : Nat) : Keeps topTenants (setChildBytes id bytes) :=
  keepsTenants_of_tops fun s => by
    cases hc : Table.find? s.children id with
    | none => rw [exec_setChildBytes_of_none hc]
    | some c =>
      cases hp : Table.find? s.parents c.parent with
      | none => rw [exec_setChildBytes_of_orphan hc hp]
      | some p => rw [exec_setChildBytes_of_find hc hp]

theorem keepsTenants_rollUpParent (pid : TaskId) (now : Stamp) : Keeps topTenants (rollUpParent pid now) := by
  intro s
  show topTenants (exec _ s).2 = topTenants s
  rcases @exec_rollUpParent_cases s pid now with he | ⟨p, outcome, bytes, -, -, -, -, he⟩
  · rw [he]
  · rw [he]
    exact keepsTenants_refreshTop p.top now _

theorem keepsTenants_cancelChild (id : TaskId) (out : CancelOutcome) (now : Stamp) :
    Keeps topTenants (cancelChild id out now) :=
  keepsTenants_of_tops fun s => by
    obtain ⟨cs, hcs⟩ := @cancelChild_frame s id out now
    rw [hcs]

theorem keepsTenants_cancelChildren (ids : List TaskId) (out : CancelOutcome) (now : Stamp) :
    Keeps topTenants (cancelChildren ids out now) :=
  keepsTenants_of_tops fun s => by
    obtain ⟨cs, hcs⟩ := cancelChildren_frame (s := s) out now ids
    rw [hcs]

theorem keepsTenants_cancelParent (id : TaskId) (out : CancelOutcome) (now : Stamp) :
    Keeps topTenants (cancelParent id out now) := by
  intro s
  show topTenants (exec _ s).2 = topTenants s
  have hc : topTenants (exec (cancelChildren (s.childIds id) out now) s).2 = topTenants s :=
    keepsTenants_cancelChildren (s.childIds id) out now s
  rcases @exec_cancelParent_cases s id out now with he | ⟨p, -, -, -, he | he | he⟩
  · rw [he]
  · rw [he]; exact hc
  · rw [he]; exact (keepsTenants_rollUpParent id now _).trans hc
  · rw [he]; exact hc

/-- A cancel marks a transfer with its own tenant. -/
theorem keepsTenants_requestCancel (id : TaskId) (now : Stamp) : Keeps topTenants (requestCancel id now) := by
  have hrest : ∀ (topId : TaskId) (out : CancelOutcome),
      Keeps topTenants (refreshTop topId now >>= fun _ => Pure.pure out) :=
    fun topId out => (keepsTenants_refreshTop topId now).bind fun _ => Keeps.pure out
  intro s
  show topTenants (exec _ s).2 = topTenants s
  rcases @exec_requestCancel s id now with h | ⟨t, ht, -, h⟩ | ⟨p, t, -, -, -, -, -, h⟩ |
      ⟨c, t, -, -, -, -, -, -, h⟩
  · rw [h]
  · rw [h]
    exact (((Keeps.foldlM (fun out pid => keepsTenants_cancelParent pid out now) _ _).bind (hrest id)) _).trans
      (topTenants_putTop (t := t) (Table.find?_self ht) rfl)
  · rw [h]
    exact ((keepsTenants_mark id).bind fun _ => (keepsTenants_cancelParent id _ now).bind (hrest p.top)) s
  · rw [h]
    exact ((keepsTenants_mark id).bind fun _ => (keepsTenants_cancelChild id _ now).bind fun out =>
      (keeps_child id).bind fun c' => (keepsTenants_rollUpParent c'.parent now).bind fun _ => hrest c.top out) s

theorem keepsTenants_beginStaging : Keeps topTenants (beginStaging id w now) := by
  intro s
  show topTenants (exec _ s).2 = topTenants s
  rcases @exec_beginStaging s id w now with h | ⟨p, p', -, -, -, h⟩
  · rw [h]
  · rw [h]
    exact ((keepsTenants_refreshTop p'.top now).bind fun _ => Keeps.pure p') _

theorem keepsTenants_recordParentRetry : Keeps topTenants (recordParentRetry id w) :=
  keepsTenants_of_tops fun s => by
    rcases @exec_recordParentRetry s id w with h | ⟨p, n, -, -, -, h⟩
    · rw [h]
    · rw [h]

theorem keepsTenants_commitStaging (specs : List ChildSpec) : Keeps topTenants (commitStaging id w specs now) :=
  keepsTenants_of_tops fun s => by
    rcases @exec_commitStaging s id w now specs with h | ⟨p, p', -, -, -, ⟨e, -, h⟩ | ⟨total, -, h⟩⟩ <;> rw [h]

theorem keepsTenants_startParent : Keeps topTenants (startParent id w now) := by
  intro s
  show topTenants (exec _ s).2 = topTenants s
  rcases @exec_startParent s id w now with h | ⟨p, p', -, -, -, h⟩
  · rw [h]
  · rw [h]
    exact ((keepsTenants_rollUpParent id now).bind fun _ => (keepsTenants_refreshTop p.top now).bind fun _ =>
      keeps_parent id) _

theorem keepsTenants_finishParent (status : Status) (error : Option String) :
    Keeps topTenants (finishParent id w status error now) := by
  intro s
  show topTenants (exec _ s).2 = topTenants s
  rcases @exec_finishParent s id w now status error with h | ⟨p, p', -, -, -, -, h⟩
  · rw [h]
  · rw [h]
    exact ((keepsTenants_cancelChildren _ _ now).bind fun _ => (keepsTenants_refreshTop p.top now).bind fun _ =>
      keeps_parent id) _

theorem keepsTenants_beginChildAttempt : Keeps topTenants (beginChildAttempt id w now) := by
  intro s
  show topTenants (exec _ s).2 = topTenants s
  rcases @exec_beginChildAttempt s id w now with h | ⟨c, c', -, -, -, ⟨e, -, h⟩ | ⟨n, -, h⟩⟩
  · rw [h]
  · rw [h]
    rfl
  · rw [h]
    exact ((keepsTenants_setChildBytes id 0).bind fun _ => keeps_child id) _

theorem keepsTenants_recordProgress (bytes : Nat) : Keeps topTenants (recordProgress id w bytes) := by
  intro s
  show topTenants (exec _ s).2 = topTenants s
  rcases @exec_recordProgress s id w bytes with h | ⟨c, -, -, h⟩
  · rw [h]
  · rw [h]
    exact keepsTenants_setChildBytes id bytes s

theorem keepsTenants_finishChild (status : Status) (bytes : Nat) (error : Option String) :
    Keeps topTenants (finishChild id w status bytes error now) := by
  intro s
  show topTenants (exec _ s).2 = topTenants s
  rcases @exec_finishChild s id w now status bytes error with h | ⟨c, c', -, -, -, -, h⟩
  · rw [h]
  · rw [h]
    exact ((keepsTenants_setChildBytes id bytes).bind fun _ => (keepsTenants_rollUpParent c.parent now).bind
      fun _ => keeps_child id) _

end TopTenants

/-- Every call but a submission keeps the tenant of every transfer. -/
theorem keepsTenants_call (c : Call) (hc : ∀ t ps, c ≠ .createTransfer t ps) : Keeps topTenants c.run := by
  cases hw : c.writesTasks
  · exact keepsTenants_of_tops fun s => by rw [(c.keepsTasks hw s).1.tops]
  · cases c <;> simp only [Call.writesTasks, Bool.false_eq_true] at hw <;> simp only [Call.run]
    case createTransfer t ps => exact absurd rfl (hc t ps)
    case requestCancel id now => exact keeps_discard (keepsTenants_requestCancel id now)
    case beginStaging => exact keeps_discard keepsTenants_beginStaging
    case recordParentRetry => exact keeps_discard keepsTenants_recordParentRetry
    case commitStaging specs _ => exact keeps_discard (keepsTenants_commitStaging specs)
    case startParent => exact keeps_discard keepsTenants_startParent
    case finishParent status error _ => exact keeps_discard (keepsTenants_finishParent status error)
    case beginChildAttempt => exact keeps_discard keepsTenants_beginChildAttempt
    case recordProgress bytes => exact keepsTenants_recordProgress bytes
    case finishChild status bytes error _ => exact keeps_discard (keepsTenants_finishChild status bytes error)

/-- The start of an attempt writes its child with what the child keeps from its creation. -/
theorem fixedOf_beginChildAttempt {id : TaskId} {w : WorkerId} {now : Stamp} :
    Keeps fixedOf (beginChildAttempt id w now) :=
  fixedOf_blind.keeps_beginChildAttempt_of_fixed fun _ _ _ h hf => fixedOf_putChild h hf

/-! ## Steps that add tasks -/

/-- A submission adds a transfer and parents made for its tenant, under new ids. -/
theorem TenantsAgree.createTransfer (hl : s.Linked) (h : s.TenantsAgree) {t : Top} {ps : List Parent}
    (ha : s.Admits t ps) : (exec (Store.createTransfer t ps) s).2.TenantsAgree := by
  rcases exec_createTransfer (s := s) t ps with he | ⟨-, hnew, he⟩
  · rw [he]
    exact h
  rw [he]
  obtain ⟨hps, hts⟩ := hl.admits_tables ha
  have hnone : Table.find? s.tops t.id = none := Table.find?_eq_none.2 hnew
  refine ⟨fun {id p t₀} hp ht₀ => ?_, fun {id c p} hc hp => ?_⟩
  · simp only [hps, hts, Table.find?_append] at hp ht₀
    cases hq : Table.find? s.parents id with
    | some q =>
      rw [hq, Option.some_or, Option.some.injEq] at hp
      subst hp
      obtain ⟨t₁, ht₁, -⟩ := hl.parent_top hq
      rw [ht₁, Option.some_or, Option.some.injEq] at ht₀
      subst ht₀
      exact h.parents hq ht₁
    | none =>
      rw [hq, Option.none_or] at hp
      obtain ⟨src, dst, opt, created, hpf⟩ := ha.parents_new p (Table.find?_eq_some hp).1
      have htop : p.top = t.id := by rw [hpf]; rfl
      have hten : p.tenant = t.tenant := by rw [hpf]; rfl
      have hkey : Keyed.key ({ t with parents := ps.map (·.id) } : Top) = t.id := rfl
      rw [htop, hnone, Option.none_or, Table.find?_cons, if_pos hkey, Option.some.injEq] at ht₀
      rw [hten, ← ht₀]
  · simp only [hps, Table.find?_append] at hp
    obtain ⟨p₁, hp₁, -⟩ := hl.child_parent hc
    rw [hp₁, Option.some_or, Option.some.injEq] at hp
    subst hp
    exact h.children hc hp₁

/-- A commit writes its parent with the parent's transfer and tenant, and adds children made for the parent's
tenant. -/
theorem TenantsAgree.commitStaging (h : s.TenantsAgree) (id : TaskId) (w : WorkerId)
    (specs : List ChildSpec) (now : Stamp) : (exec (Store.commitStaging id w specs now) s).2.TenantsAgree := by
  by_cases hok : ∃ cs, (exec (Store.commitStaging id w specs now) s).1 = .ok cs
  · obtain ⟨cs, hcs⟩ := hok
    obtain ⟨p, p', total, hp, hm, -, he⟩ := exec_commitStaging_ok hcs
    obtain ⟨hid', htop, -⟩ := Parent.moveTo_links hm
    have hten : p'.tenant = p.tenant := by
      obtain ⟨-, rfl⟩ := Parent.moveTo_ok hm
      rfl
    have hp' : Table.find? s.parents p'.id = some p := Table.find?_of_key_eq hp hid'
    rw [he]
    refine ⟨fun {k r t₀} hr ht₀ => ?_, fun {k c r} hc hr => ?_⟩
    · simp only [Table.find?_put] at hr ht₀
      split at hr
      · -- the committed parent keeps its transfer and tenant
        cases hr
        exact hten.trans (h.parents hp (htop ▸ ht₀))
      · exact h.parents hr ht₀
    · simp only [Table.find?_put] at hc hr
      split at hr
      · -- the parent written by the commit: its children, old or new, bear its tenant
        cases hr
        rename_i hkey
        rcases find?_foldl_put hc with hnew | hold
        · exact (linked_of_mem_newChildren hnew).2.2.1.trans hten.symm
        · have hpc : Table.find? s.parents c.parent = some p := by rw [← hkey]; exact hp'
          exact (h.children hold hpc).trans hten.symm
      · rcases find?_foldl_put hc with hnew | hold
        · -- a new child names the committed parent
          obtain ⟨hcp, -⟩ := linked_of_mem_newChildren hnew
          exact absurd (hid'.trans hcp.symm) ‹_›
        · exact h.children hold hr
  · obtain ⟨n, hn⟩ := exec_commitStaging_of_fails fun cs hcs => hok ⟨cs, hcs⟩
    rw [hn]
    exact ⟨h.parents, h.children⟩

/-- Every call keeps every task bearing its transfer's tenant. -/
theorem TenantsAgree.call (hl : s.Linked) (h : s.TenantsAgree) (c : Call) (ha : c.Admitted s) :
    (exec c.run s).2.TenantsAgree := by
  have hother : ∀ c : Call, c.addsTasks = false → (∀ t ps, c ≠ .createTransfer t ps) →
      Keeps fixedOf c.run → (exec c.run s).2.TenantsAgree :=
    fun c _ hc hf => h.of_views (keepsTenants_call c hc s) (hf s)
  cases c
  case createTransfer t ps =>
    simp only [Call.run, exec_discard_state]
    exact h.createTransfer hl ha
  case commitStaging id w specs now =>
    simp only [Call.run, exec_discard_state]
    exact h.commitStaging id w specs now
  case beginChildAttempt id w now =>
    exact hother _ rfl (fun _ _ h => by cases h) (keeps_discard fixedOf_beginChildAttempt)
  all_goals exact hother _ rfl (fun _ _ h => by cases h) (fixedOf_blind.keeps_call _ rfl rfl)

/-- A child bears the tenant of its transfer, through its parent. -/
theorem TenantsAgree.child_top (h : s.TenantsAgree) (hl : s.Linked) {id : TaskId} {c : Child} {t : Top}
    (hc : Table.find? s.children id = some c) (ht : Table.find? s.tops c.top = some t) : c.tenant = t.tenant := by
  obtain ⟨p, hp, -, hct, -⟩ := hl.child_parent hc
  rw [hct] at ht
  exact (h.children hc hp).trans (h.parents hp ht)

theorem TenantsAgree.of_sameRecords {r : Store} (h : s.TenantsAgree) (hr : SameRecords s r) (hl : s.Linked) :
    r.TenantsAgree where
  parents hp ht := h.parents (by rwa [hr.find?_parents hl] at hp) (by rwa [hr.find?_tops hl] at ht)
  children hc hp := h.children (by rwa [hr.find?_children hl] at hc) (by rwa [hr.find?_parents hl] at hp)

end Store

/-- In every reachable store, every parent bears its transfer's tenant and every child its parent's. -/
theorem Reachable.tenantsAgree {s : Store} (h : Reachable s) : s.TenantsAgree := by
  induction h with
  | empty => exact ⟨(fun hp _ => by cases hp), (fun hc _ => by cases hc)⟩
  | call c hs ha ih => exact ih.call hs.linked c ha
  | draw _ ih => exact ⟨ih.parents, ih.children⟩
  | restore now hs ih => exact ih.of_sameRecords (hs.linked.sameRecords_restore now) hs.linked

end Conveyor
