import Conveyor.Proofs.Service.WalkEnds
import Conveyor.Proofs.Service.Fence
import Conveyor.Proofs.Service.Scope
import Conveyor.Proofs.Store.Integrity
import Conveyor.Proofs.Store.Staging

/-!
# Staging a directory of a memory

A parent pipeline run alone on an accepted parent its worker holds, whose source is a directory of a
memory, stages the parent and starts it, or ends it `FAILED`:

- `Pipe.exec_stage_of_directory`: staging gives the children of the objects the walk of the directory
  reaches (`Memory.reached`), sorted by source, when they are within the bounds of the node's workers,
  and fails with a failure of kind `other` when they are not.
- `Store.Linked.exec_beginStaging_accepted`, `Store.Linked.exec_commitStaging_staging`,
  `Store.Linked.exec_startParent_staged` and `Store.Linked.exec_finishParent_failed`: the store calls of
  the pipeline, each with what it writes.
- `Pipe.runParent_stages_directory`: the whole pipeline, from a reachable store. Where an object lies at
  the path of a directory, the objects below it get no child (`Pipe.object_hides_objects_below`).
-/

namespace Conveyor

namespace Store

variable {s : Store} {id : TaskId} {w : WorkerId} {now : Stamp} {p : Parent}

/-- A parent not yet staged has no children listed. -/
theorem Linked.childIds_of_not_pastStaging (hl : s.Linked) (hp : Table.find? s.parents id = some p)
    (hst : p.status.pastStaging = false) : s.childIds id = [] := by
  refine List.eq_nil_iff_forall_not_mem.2 fun cid hcid => ?_
  obtain ⟨c, hc, hpar⟩ := (hl.listed id).2 cid hcid
  obtain ⟨q, hq, hpast, -⟩ := hl.child_parent hc
  rw [hpar, hp] at hq
  cases hq
  rw [hst] at hpast
  cases hpast

/-- A parent with no cancel mark, in a transfer with no cancel asked for, has no cancel asked for. -/
theorem Linked.exec_isCancelRequested_parent (hl : s.Linked) (hp : Table.find? s.parents id = some p)
    (hmark : s.marks.contains id = false) (htop : s.topCancelled p.top = false) :
    exec (isCancelRequested id) s = (.ok false, s) := by
  have hpid : p.id = id := (Table.find?_eq_some hp).2
  rw [exec_isCancelRequested_of_parent (hl.tops_none_of_parent hp) hp, hpid, hmark, htop]
  rfl

/-- A record made from the parent found under an id, keeping its id, is found there once written. -/
theorem find?_put_of_find {q : Parent} (hp : Table.find? s.parents id = some p) (hq : q.id = p.id)
    (ps : List Parent) : Table.find? (Table.put ps q) id = some q := by
  have hk : Keyed.key q = id := hq.trans (Table.find?_eq_some hp).2
  rw [← hk]
  exact Table.find?_put_self _ _

/-- A refresh of a transfer the store has succeeds and writes transfers only. -/
theorem exec_refreshTop_ok {T : TaskId} {t : Top} (ht : Table.find? s.tops T = some t) (now : Stamp) :
    ∃ ts, exec (refreshTop T now) s = (.ok (), { s with tops := ts }) := by
  obtain ⟨ts, hts⟩ := refreshTop_frame (s := s) T now
  refine ⟨ts, Prod.ext ?_ hts⟩
  rw [exec_refreshTop_of_find ht]

/-- Staging begins for an accepted parent the worker holds: the parent moves to `STAGING`, and only its
record and its transfer are written, the transfer's cancel flag kept. -/
theorem Linked.exec_beginStaging_accepted (hl : s.Linked) (hp : Table.find? s.parents id = some p)
    (hw : p.worker = some w) (hacc : p.status = .accepted) :
    ∃ p' s', exec (beginStaging id w now) s = (.ok p', s') ∧ p.moveTo .staging now = .ok p' ∧
      Table.find? s'.parents id = some p' ∧ s'.Linked ∧ s.TopsBut p.top s' ∧ s'.marks = s.marks ∧
      s'.childLists = s.childLists := by
  have hm : Kind.parent.canMove p.status .staging = true := by rw [hacc]; rfl
  obtain ⟨p', hp'⟩ : ∃ p', p.moveTo .staging now = .ok p' := ⟨_, Parent.moveTo_of_canMove hm now⟩
  obtain ⟨hid', htop', -⟩ := Parent.moveTo_links hp'
  obtain ⟨t, ht, -⟩ := hl.parent_top hp
  obtain ⟨ts, hts⟩ := exec_refreshTop_ok (s := { s with parents := Table.put s.parents p' }) ht now
  have he : exec (beginStaging id w now) s = (.ok p', { s with parents := Table.put s.parents p', tops := ts }) := by
    simp [beginStaging, exec_bind, exec_ownedParent_of_find hp, hw, hacc, hp', htop']
    rw [← bind_pure_comp, exec_bind, hts]
    rfl
  refine ⟨p', _, he, hp', find?_put_of_find hp hid' _, hl.of_exec revises_beginStaging he, ?_, rfl, rfl⟩
  have hr := TopsBut.refresh (s := { s with parents := Table.put s.parents p' }) p.top now
  rw [hts] at hr
  have h₁ : s.TopsBut p.top { s with parents := Table.put s.parents p' } := TopsBut.of_tops rfl
  exact h₁.trans hr

/-- The new children carry the sources, destinations and sizes they were made from. -/
theorem newChildren_specs (p : Parent) (specs : List ChildSpec) (now : Stamp) :
    (s.newChildren p specs now).map (fun c => (⟨c.source, c.destination, c.size⟩ : ChildSpec)) = specs := by
  apply List.ext_getElem <;> simp [newChildren, Child.fresh]

/-- A `STAGING` parent the worker holds commits children whose sizes fit a word: it moves to `STAGED` with
their total, and has the new children as its own. -/
theorem Linked.exec_commitStaging_staging {specs : List ChildSpec} {total : Nat} (hl : s.Linked)
    (hp : Table.find? s.parents id = some p) (hw : p.worker = some w) (hst : p.status = .staging)
    (ht : Word.sum Word.max64 (specs.map (·.size)) = .ok total) :
    ∃ p' s', exec (Store.commitStaging id w specs now) s = (.ok (s.newChildren p specs now), s') ∧
      p.moveTo .staged now = .ok p' ∧
      Table.find? s'.parents id = some { p' with totalBytes := some total, childCount := specs.length, bytes := 0 } ∧
      s'.Linked ∧ s'.childRecords id = s.newChildren p specs now := by
  obtain ⟨p', hp', he⟩ := exec_commitStaging_of_staging hp hw hst ht
  obtain ⟨hid', -, -⟩ := Parent.moveTo_links hp'
  exact ⟨p', _, he, hp', find?_put_of_find hp (by exact hid') _, hl.commitStaging hp hp' total specs,
    childRecords_of_commit rfl rfl⟩

/-- The children of a parent the store has are its child records. -/
theorem exec_childrenOf_of_find (h : Table.find? s.parents id = some p) :
    exec (childrenOf id) s = (.ok (s.childRecords id), s) := by
  simp only [childrenOf, exec_bind, exec_parent_of_find h]
  rfl

/-- A roll-up waits while a child has not ended. -/
theorem rollUp_eq_none {optional cancel : Bool} {children : List Status} (h : ∃ st ∈ children, st.isTerminal = false) :
    rollUp optional cancel children = none := by
  obtain ⟨st, hst, hn⟩ := h
  have hall : children.all Status.isTerminal = false := List.all_eq_false.2 ⟨st, hst, by simp [hn]⟩
  simp [rollUp, hall]

/-- A `STAGED` parent the worker holds, with a child not ended, starts: it moves to `IN_PROGRESS` and is
released, and stays so; only its record and its transfer are written. -/
theorem Linked.exec_startParent_staged (hl : s.Linked) (hp : Table.find? s.parents id = some p)
    (hw : p.worker = some w) (hst : p.status = .staged)
    (hrun : ∃ c ∈ s.childRecords id, c.status.isTerminal = false) :
    ∃ p' s', exec (startParent id w now) s = (.ok { p' with worker := none }, s') ∧
      p.moveTo .inProgress now = .ok p' ∧ Table.find? s'.parents id = some { p' with worker := none } ∧
      s'.childLists = s.childLists ∧ s'.children = s.children := by
  have hm : Kind.parent.canMove p.status .inProgress = true := by rw [hst]; rfl
  obtain ⟨p', hp'⟩ : ∃ p', p.moveTo .inProgress now = .ok p' := ⟨_, Parent.moveTo_of_canMove hm now⟩
  obtain ⟨hid', htop', hst'⟩ := Parent.moveTo_links hp'
  have hpid : p.id = id := (Table.find?_eq_some hp).2
  obtain ⟨t, ht, -⟩ := hl.parent_top hp
  have hq : Table.find? (Table.put s.parents { p' with worker := none }) id = some { p' with worker := none } :=
    find?_put_of_find hp (by exact hid') _
  have hwait : ({ s with parents := Table.put s.parents { p' with worker := none } } : Store).rollUpOutcome
      { p' with worker := none } = none := by
    obtain ⟨c, hc, hn⟩ := hrun
    refine rollUp_eq_none ⟨c.status, List.mem_map.2 ⟨c, ?_, rfl⟩, hn⟩
    show c ∈ s.childRecords p'.id
    rwa [hid', hpid]
  have hroll := exec_rollUpParent_of_waiting (s := { s with parents := Table.put s.parents { p' with worker := none } })
    now hq hst' hwait
  obtain ⟨ts, hts⟩ := exec_refreshTop_ok (s := { s with parents := Table.put s.parents { p' with worker := none } })
    (htop' ▸ ht : Table.find? s.tops p'.top = some t) now
  have hpar := exec_parent_of_find
    (s := { s with parents := Table.put s.parents { p' with worker := none }, tops := ts }) hq
  refine ⟨p', { s with parents := Table.put s.parents { p' with worker := none }, tops := ts }, ?_, hp', hq, rfl, rfl⟩
  simp only [startParent, exec_bind, exec_ownedParent_of_find hp, hw, if_true, hp', exec_guardError_ok,
    exec_putParent, hroll, hts, hpar]

/-- A `STAGING` parent the worker holds, with no children listed, ends `FAILED`: it is released with the
error, and only its record and its transfer are written. -/
theorem Linked.exec_finishParent_failed (hl : s.Linked) (hp : Table.find? s.parents id = some p)
    (hw : p.worker = some w) (hst : p.status = .staging) (hnone : s.childIds id = []) (error : Option String) :
    ∃ p' s', exec (finishParent id w .failed error now) s = (.ok { p' with worker := none, error }, s') ∧
      p.moveTo .failed now = .ok p' ∧ Table.find? s'.parents id = some { p' with worker := none, error } ∧
      s'.childLists = s.childLists := by
  have hm : Kind.parent.canMove p.status .failed = true := by rw [hst]; rfl
  obtain ⟨p', hp'⟩ : ∃ p', p.moveTo .failed now = .ok p' := ⟨_, Parent.moveTo_of_canMove hm now⟩
  obtain ⟨hid', htop', -⟩ := Parent.moveTo_links hp'
  obtain ⟨t, ht, -⟩ := hl.parent_top hp
  have hq : Table.find? (Table.put s.parents { p' with worker := none, error }) id =
      some { p' with worker := none, error } := find?_put_of_find hp (by exact hid') _
  obtain ⟨ts, hts⟩ := exec_refreshTop_ok (s := { s with parents := Table.put s.parents { p' with worker := none, error } })
    (htop' ▸ ht : Table.find? s.tops p'.top = some t) now
  have hpar := exec_parent_of_find
    (s := { s with parents := Table.put s.parents { p' with worker := none, error }, tops := ts }) hq
  have hcancel : exec (cancelChildren (({ s with parents := Table.put s.parents { p' with worker := none, error } } :
      Store).childIds id) ⟨p'.top, p'.tenant, true, [], []⟩ now)
      { s with parents := Table.put s.parents { p' with worker := none, error } } =
      (.ok ⟨p'.top, p'.tenant, true, [], []⟩, { s with parents := Table.put s.parents { p' with worker := none, error } }) := by
    rw [show (({ s with parents := Table.put s.parents { p' with worker := none, error } } : Store).childIds id) = []
      from hnone]
    rfl
  refine ⟨p', { s with parents := Table.put s.parents { p' with worker := none, error }, tops := ts }, ?_, hp', hq, rfl⟩
  simp only [finishParent, exec_bind, Status.isTerminal, Bool.not_true, Bool.false_eq_true, if_false,
    exec_ownedParent_of_find hp, hw, if_true, hp', exec_guardError_ok, exec_putParent, exec_get, hcancel, hts, hpar]

end Store

/-- A path where no object is but below which some object lies is a directory, named without its
trailing slashes. -/
theorem Memory.stat_of_isBelow {m : Memory} {path : String} (hnot : m.get? path = none)
    (hbelow : ∃ kv ∈ m.objects, Memory.isBelow (Location.trimBack '/' path) kv.1) :
    m.stat path = .ok (Entry.directory (Location.trimBack '/' path)) := by
  have hb : m.hasBelow path = true := by
    obtain ⟨kv, hkv, hb⟩ := hbelow
    exact List.any_eq_true.2 ⟨kv, hkv, hb⟩
  simp [Memory.stat, hnot, hb]

namespace Pipe

variable {α : Type} {p : Pipe}

theorem exec_lift_guard_ok (a : α) : exec (lift (Service.guard (.ok a))) p = (.ok a, p) := rfl

theorem exec_lift_resolve {sys : String} {b : Backend} (h : p.service.storage.resolve sys = .ok b) :
    exec (lift (Service.resolve sys)) p = (.ok b, p) := by
  simp only [exec_lift, Service.resolve, Service.exec_bind, Service.exec_get, h]
  rfl

/-- A pipeline whose token is not cancelled asks the store; a store with no cancel for the task answers no. -/
theorem exec_cancelRequested_of_store {id : TaskId} (hc : p.run.cancelled = false)
    (h : Store.exec (Store.isCancelRequested id) p.service.store = (.ok false, p.service.store)) :
    exec (cancelRequested id) p = (.ok false, p) := by
  simp only [cancelRequested, exec_bind, exec_tokenCancelled, hc, Bool.false_eq_true, if_false, exec_lift,
    Service.exec_liftStore_of_read p.service h]

theorem exec_lift_liftStore_of_read {m : StoreM α} {a : α}
    (h : Store.exec m p.service.store = (.ok a, p.service.store)) : exec (lift (Service.liftStore m)) p = (.ok a, p) := by
  rw [exec_lift, Service.exec_liftStore_of_read p.service h]

theorem exec_lift_atNow (f : Stamp → StoreM α) :
    exec (lift (Service.atNow f)) p = ((Store.exec (f p.service.now) p.service.store).1,
      { p with service := { p.service with now := p.service.now + 1,
                                           store := (Store.exec (f p.service.now) p.service.store).2 } }) := by
  rw [exec_lift, Service.exec_atNow]

theorem exec_lift_note (f : Statistics → Statistics) :
    exec (lift (Service.note f)) p = (.ok (), { p with service := { p.service with stats := f p.service.stats } }) := rfl

theorem exec_lift_publish (kind : Kind) (ids : List TaskId) :
    exec (lift (Service.publish kind ids)) p = (.ok (), { p with service := { p.service with
      queues := p.service.queues.set kind ((p.service.queues.get kind).publishAll ids) } }) := rfl

/-- A commit that the store accepts moves the clock past the instants of the new children. -/
theorem exec_commit_of_ok {id : TaskId} {specs : List ChildSpec} {cs : List Child} {s' : Store}
    (h : Store.exec (Store.commitStaging id p.run.worker specs p.service.now) p.service.store = (.ok cs, s')) :
    exec (commit id specs) p =
      (.ok cs, { p with service := { p.service with now := p.service.now + 1 + specs.length, store := s' } }) := by
  simp only [commit, exec_bind, exec_get, exec_lift, Service.commitChildren, Service.exec_bind, Service.exec_atNow, h]
  rfl

theorem exec_finishParent_eq (id : TaskId) (status : Status) (error : String) :
    exec (finishParent id status error) p =
      ((Store.exec (Store.finishParent id p.run.worker status (some error) p.service.now) p.service.store).1,
        { p with service := { p.service with now := p.service.now + 1, store :=
          (Store.exec (Store.finishParent id p.run.worker status (some error) p.service.now) p.service.store).2 } }) := by
  simp only [finishParent, exec_bind, exec_get, exec_lift_atNow]

/-- Publishing and starting a parent: its children are put on the child queue, and the start is what the
store makes of it. -/
theorem exec_publishAndStart_of_ok {id : TaskId} {cs : List Child} {q : Parent} {s' : Store}
    (hch : Store.exec (Store.childrenOf id) p.service.store = (.ok cs, p.service.store))
    (hst : Store.exec (Store.startParent id p.run.worker p.service.now) p.service.store = (.ok q, s')) :
    exec (publishAndStart id) p =
      (.ok q, { p with service := { p.service with
        queues := p.service.queues.set .child ((p.service.queues.get .child).publishAll
          ((cs.filter fun c => !c.status.isTerminal).map (·.id)))
        now := p.service.now + 1, store := s' } }) := by
  simp only [publishAndStart, exec_bind, exec_lift_liftStore_of_read hch, exec_lift_publish, exec_get,
    exec_lift_atNow, hst]

/-- A `STAGING` parent the worker holds commits children whose sizes fit a word, at least one of them, and
starts: it is `IN_PROGRESS`, with the children as its own and their total. -/
theorem exec_commit_start {id : TaskId} {q₀ : Parent} {specs : List ChildSpec} {total : Nat}
    (hl : p.service.store.Linked) (hq : Table.find? p.service.store.parents id = some q₀)
    (hw : q₀.worker = some p.run.worker) (hst : q₀.status = .staging)
    (hsum : Word.sum Word.max64 (specs.map (·.size)) = .ok total) (hne : specs ≠ []) :
    ∃ q p', exec (do
        let _ ← commit id specs
        lift (Service.note Statistics.noteStaged)
        publishAndStart id) p = (.ok q, p') ∧
      Table.find? p'.service.store.parents id = some q ∧ q.status = .inProgress ∧
      (p'.service.store.childRecords id).map (fun c => (⟨c.source, c.destination, c.size⟩ : ChildSpec)) = specs ∧
      q.totalBytes = some total := by
  obtain ⟨q₁, s₁, hcommit, hmv₁, hf₁, hl₁, hrecs₁⟩ :=
    @Store.Linked.exec_commitStaging_staging _ _ _ p.service.now _ _ _ hl hq hw hst hsum
  obtain ⟨-, -, hst₁⟩ := Parent.moveTo_links hmv₁
  have hw₁ : q₁.worker = some p.run.worker := by rw [(Parent.moveTo_ok hmv₁).2]; exact hw
  set P : Pipe := { p with service := { p.service with
    now := p.service.now + 1 + specs.length, store := s₁, stats := Statistics.noteStaged p.service.stats } }
  have hrun : ∃ c ∈ s₁.childRecords id, c.status.isTerminal = false := by
    obtain ⟨spec, hspec⟩ := List.exists_mem_of_ne_nil specs hne
    rw [← Store.newChildren_specs (s := p.service.store) q₀ specs p.service.now] at hspec
    obtain ⟨c, hc, -⟩ := List.mem_map.1 hspec
    refine ⟨c, hrecs₁ ▸ hc, ?_⟩
    rw [(Store.mem_newChildren hc).2.2.1]
    rfl
  obtain ⟨q₂, s₂, hstart, hmv₂, hf₂, hcl₂, hch₂⟩ :=
    @Store.Linked.exec_startParent_staged _ _ _ P.service.now _ hl₁ hf₁ hw₁ hst₁ hrun
  have hpub := exec_publishAndStart_of_ok (p := P) (Store.exec_childrenOf_of_find hf₁) hstart
  simp only [exec_bind, exec_commit_of_ok (p := p) hcommit, exec_lift_note]
  refine ⟨_, _, hpub, hf₂, (Parent.moveTo_links hmv₂).2.2, ?_, ?_⟩
  · -- the start keeps the children the commit made
    have hkept : s₂.childRecords id = s₁.childRecords id := by
      simp only [Store.childRecords, Store.childIds, hcl₂, hch₂]
    show List.map _ (s₂.childRecords id) = specs
    rw [hkept, hrecs₁]
    exact Store.newChildren_specs q₀ specs _
  · show q₂.totalBytes = _
    rw [(Parent.moveTo_ok hmv₂).2]

/-- A `STAGING` parent the worker holds, with no children, ends `FAILED`, still with no children. -/
theorem exec_finishParent_staging {id : TaskId} {q₀ : Parent} (hl : p.service.store.Linked)
    (hq : Table.find? p.service.store.parents id = some q₀) (hw : q₀.worker = some p.run.worker)
    (hst : q₀.status = .staging) (hnone : p.service.store.childIds id = []) (error : String) :
    ∃ q p', exec (finishParent id .failed error) p = (.ok q, p') ∧
      Table.find? p'.service.store.parents id = some q ∧ q.status = .failed ∧ p'.service.store.childRecords id = [] := by
  obtain ⟨q₁, s₁, hfin, hmv₁, hf₁, hcl₁⟩ :=
    @Store.Linked.exec_finishParent_failed _ _ _ p.service.now _ hl hq hw hst hnone (some error)
  refine ⟨{ q₁ with worker := none, error := some error }, _, by rw [exec_finishParent_eq, hfin], hf₁,
    (Parent.moveTo_links hmv₁).2.2, ?_⟩
  have hkept : s₁.childIds id = p.service.store.childIds id := by simp only [Store.childIds, hcl₁]
  show (s₁.childIds id).filterMap _ = []
  rw [hkept, hnone]
  rfl

section Stage

variable {parent : Parent} {source destination : Location} {slot : Nat} {b : Backend} {m : Memory}

/-- Staging a parent whose source is a directory of a memory, with no object at its path: the parent gets
the children of the objects the walk reaches, sorted by source, when they are within the bounds of the
node's workers; past them, staging fails with a failure of kind `other`. The pipeline is left as it was. The
walk starts sound, and past its backlog, and past the fuel `stage` gives it, it runs to its end. -/
theorem exec_stage_of_directory (hsrc : Location.parse parent.source = .ok source)
    (hdst : Location.parse parent.destination = .ok destination)
    (hread : p.service.storage.resolve source.system = .ok (.memory slot))
    (hwrite : p.service.storage.resolve destination.system = .ok b)
    (hm : p.service.storage.memoryAt slot = m) (hkeys : (m.objects.map (·.1)).Nodup)
    (habs : ∀ kv ∈ m.objects, AbsolutePath kv.1.toList) (hnot : m.get? source.path = none)
    (hbelow : ∃ kv ∈ m.objects, Memory.isBelow (Location.trimBack '/' source.path) kv.1)
    (hc : p.run.cancelled = false)
    (hcancel : Store.exec (Store.isCancelRequested parent.id) p.service.store = (.ok false, p.service.store)) :
    ∃ (found : List ChildSpec) (msg : String),
      found.Perm ((m.reached (Location.trimBack '/' source.path)).map (childOf source destination)) ∧
      exec (stage parent) p =
        (if m.WithinBounds (Location.trimBack '/' source.path) p.service.worker.maxDepth p.service.worker.maxChildren
          then .ok (found.mergeSort fun a b => decide (a.source ≤ b.source))
          else .error (.error (.other msg)), p) := by
  set root := Location.trimBack '/' source.path with hroot
  have hstat : p.service.storage.stat (.memory slot) source.path = .ok (Entry.directory root) := by
    show (p.service.storage.memoryAt slot).stat source.path = _
    rw [hm]
    exact Memory.stat_of_isBelow hnot hbelow
  have hstart : ({ pending := [(root, 0)] } : Listing).Sound m source destination root p.service.worker.maxDepth [] :=
    Listing.sound_start hroot hbelow
  have hpos : 0 < listingBound p.service := Nat.pow_pos (Nat.succ_pos _)
  obtain ⟨found, msg, hperm, henum⟩ := @exec_enumerate_of_sound m source destination root slot parent.id p hc hm hkeys
    (fun kv hkv => (habs kv hkv).2.2) hroot (m.backlog root p.service.worker.maxDepth [(root, 0)] + listingBound p.service)
    [] _ hstart (Nat.zero_le _) (Nat.lt_add_of_pos_right hpos)
  rw [exec_enumerate_of_listingBound_le (Nat.le_add_left _ _) root] at henum
  refine ⟨found, msg, hperm, ?_⟩
  simp only [stage, exec_bind, hsrc, hdst, exec_lift_guard_ok, exec_lift_resolve hread, exec_lift_resolve hwrite,
    exec_retrying_of_ok (q := fun x => x.stat (.memory slot) source.path) hstat]
  simp only [Entry.directory, if_true]
  rw [exec_bind, exec_get]
  simp only [exec_bind, henum]
  by_cases hW : m.WithinBounds root p.service.worker.maxDepth p.service.worker.maxChildren
  · simp only [if_pos hW, exec_pure, exec_cancelRequested_of_store hc hcancel, Bool.false_eq_true, if_false]
  · simp only [if_neg hW]

end Stage

/-- The parent pipeline, run alone on an accepted parent its worker holds with no cancel asked for, whose source
is a directory of a memory with no object at its path and whose children's sizes fit a word. When the objects the
walk reaches are within the bounds of the node's workers, the parent gets one child for each of them, sorted by
source, with their sizes summed as its total, and starts `IN_PROGRESS`; past the bounds it ends `FAILED` with no
children. The walk reaches an object when no other object lies on its way: an object at the path of a directory
hides the objects below it. -/
theorem runParent_stages_directory {p₀ : Parent} {source destination : Location} {slot : Nat}
    {b : Backend} {m : Memory}
    (hreach : Reachable p.service.store) (hp₀ : Table.find? p.service.store.parents p₀.id = some p₀)
    (hheld : p₀.worker = some p.run.worker) (hacc : p₀.status = .accepted)
    (hmark : p.service.store.marks.contains p₀.id = false) (htop : p.service.store.topCancelled p₀.top = false)
    (hc : p.run.cancelled = false)
    (hsrc : Location.parse p₀.source = .ok source) (hdst : Location.parse p₀.destination = .ok destination)
    (hread : p.service.storage.resolve source.system = .ok (.memory slot))
    (hwrite : p.service.storage.resolve destination.system = .ok b)
    (hm : p.service.storage.memoryAt slot = m) (hkeys : (m.objects.map (·.1)).Nodup)
    (habs : ∀ kv ∈ m.objects, AbsolutePath kv.1.toList) (hnot : m.get? source.path = none)
    (hbelow : ∃ kv ∈ m.objects, Memory.isBelow (Location.trimBack '/' source.path) kv.1)
    (hfit : ((m.reached (Location.trimBack '/' source.path)).map fun kv => kv.2.length).foldl (· + ·) 0 ≤
      Word.max64) :
    ∃ q p', exec (runParent p₀.id) p = (.ok q, p') ∧ Table.find? p'.service.store.parents p₀.id = some q ∧
      if m.WithinBounds (Location.trimBack '/' source.path) p.service.worker.maxDepth p.service.worker.maxChildren
      then q.status = .inProgress ∧ ∃ specs : List ChildSpec,
        specs.Perm ((m.reached (Location.trimBack '/' source.path)).map (childOf source destination)) ∧
        specs.Pairwise (fun a b => a.source ≤ b.source) ∧
        (p'.service.store.childRecords p₀.id).map (fun c => (⟨c.source, c.destination, c.size⟩ : ChildSpec)) =
          specs ∧
        q.totalBytes = some ((specs.map (·.size)).foldl (· + ·) 0)
      else q.status = .failed ∧ p'.service.store.childRecords p₀.id = [] := by
  set root := Location.trimBack '/' source.path
  have hl := hreach.linked
  have hparent : exec (lift (Service.liftStore (Store.parent p₀.id))) p = (.ok p₀, p) :=
    exec_lift_liftStore_of_read (Store.exec_parent_of_find hp₀)
  have hasked : exec (cancelRequested p₀.id) p = (.ok false, p) :=
    exec_cancelRequested_of_store hc (hl.exec_isCancelRequested_parent hp₀ hmark htop)
  obtain ⟨p₁, s₁, he₁, hmv₁, hf₁, hl₁, htb₁, hmarks₁, hcl₁⟩ :=
    @Store.Linked.exec_beginStaging_accepted _ _ _ p.service.now _ hl hp₀ hheld hacc
  obtain ⟨hid₁, htop₁, hst₁⟩ := Parent.moveTo_links hmv₁
  have hp₁ := (Parent.moveTo_ok hmv₁).2
  have hw₁ : p₁.worker = some p.run.worker := by rw [hp₁]; exact hheld
  set P₁ : Pipe := { p with service := { p.service with now := p.service.now + 1, store := s₁ } }
  have hbegin : exec (lift (Service.atNow (Store.beginStaging p₀.id p.run.worker))) p = (.ok p₁, P₁) := by
    rw [exec_lift_atNow, he₁]
  have hcancel₁ : Store.exec (Store.isCancelRequested p₁.id) P₁.service.store = (.ok false, P₁.service.store) :=
    hl₁.exec_isCancelRequested_parent (hid₁ ▸ hf₁) (by rw [hmarks₁, hid₁]; exact hmark)
      (by rw [htb₁.flags, htop₁]; exact htop)
  obtain ⟨found, msg, hperm, hstage⟩ := exec_stage_of_directory (p := P₁)
    (show Location.parse p₁.source = .ok source by rw [hp₁]; exact hsrc) (by rw [hp₁]; exact hdst)
    hread hwrite hm hkeys habs hnot hbelow hc hcancel₁
  have hnstaged : (p₁.status == .staged) = false := by rw [hst₁]; rfl
  simp only [runParent, exec_bind, hparent, hasked, Bool.false_eq_true, if_false, exec_get, hbegin, hnstaged,
    exec_attempt]
  by_cases hW : m.WithinBounds root p.service.worker.maxDepth p.service.worker.maxChildren
  · -- within bounds: the children, sorted, are committed, and the parent starts
    rw [if_pos (show m.WithinBounds root P₁.service.worker.maxDepth P₁.service.worker.maxChildren from hW)] at hstage
    set sorted := found.mergeSort fun a b => decide (a.source ≤ b.source)
    have hperm' : sorted.Perm ((m.reached root).map (childOf source destination)) :=
      (List.mergeSort_perm _ _).trans hperm
    have hsum : Word.sum Word.max64 (sorted.map (·.size)) = .ok ((sorted.map (·.size)).foldl (· + ·) 0) := by
      have hsizes : (sorted.map (·.size)).foldl (· + ·) 0 =
          ((m.reached root).map fun kv => kv.2.length).foldl (· + ·) 0 := by
        rw [foldl_add_perm (hperm'.map (·.size)), List.map_map]
        rfl
      exact Word.sum_of_le (hsizes ▸ hfit)
    have hne : sorted ≠ [] := by
      obtain ⟨kv, hkv, hb⟩ := hbelow
      obtain ⟨kv', hkv', -⟩ := Memory.open_root.exists_reached hkv hb
      exact List.ne_nil_of_mem (hperm'.mem_iff.2 (List.mem_map_of_mem hkv'))
    obtain ⟨q, p', hrun, hf, hst, hrecs, htotal⟩ := exec_commit_start (p := P₁) hl₁ hf₁ hw₁ hst₁ hsum hne
    simp only [hstage, if_pos hW]
    refine ⟨q, p', hrun, hf, hst, sorted, hperm', ?_, hrecs, htotal⟩
    have h : sorted.Pairwise fun a b => decide (a.source ≤ b.source) = true :=
      @List.pairwise_mergeSort ChildSpec (fun a b => decide (a.source ≤ b.source))
        (fun a b c hab hbc => decide_eq_true (String.le_trans (of_decide_eq_true hab) (of_decide_eq_true hbc)))
        (fun a b => by simp [String.le_total a.source b.source]) found
    exact h.imp of_decide_eq_true
  · -- past the bounds: the failure is not bookkeeping, and the parent ends FAILED with no children
    rw [if_neg (show ¬ m.WithinBounds root P₁.service.worker.maxDepth P₁.service.worker.maxChildren from hW)]
      at hstage
    have hnone : s₁.childIds p₀.id = [] := hl₁.childIds_of_not_pastStaging hf₁ (by rw [hst₁]; rfl)
    obtain ⟨q, p', hfin, hf, hst, hnil⟩ :=
      exec_finishParent_staging (p := P₁) hl₁ hf₁ hw₁ hst₁ hnone (Error.other msg).message
    have hbk : (Error.other msg).isBookkeeping = false := rfl
    simp only [hstage, hbk, Bool.false_eq_true, if_false, hfin, if_neg hW]
    exact ⟨q, p', rfl, hf, hst, hnil⟩

set_option linter.constructorNameAsVariable false in
/-- An object at the path of a directory hides the objects below it: with objects at `/in/a` and `/in/a/b`,
the walk of `/in` reaches `/in/a` alone, and the parent starts with one child, for it. -/
theorem object_hides_objects_below :
    let t₀ : Top := Top.fresh ⟨⟨1⟩⟩ "ta" "alice" none 0
    let p₀ : Parent := Parent.fresh ⟨⟨2⟩⟩ t₀ "mem://src/in" "mem://dst/out" false 1
    let w : WorkerId := ⟨⟨3⟩⟩
    let m : Memory := { objects := [("/in/a", [0]), ("/in/a/b", [0, 0])] }
    let p : Pipe := ⟨{ Service.fresh ⟨default, 1024, 10, 10, 100⟩ ⟨1, 1, 1, 1, 1⟩ with
        store := [Call.registerWorker ⟨w, "h1", 0, 0⟩, .assign .parent p₀.id w].foldl
          (fun s c => (Store.exec c.run s).2) (Store.exec (Call.createTransfer t₀ [p₀]).run {}).2
        storage := { memories := [m], systems := [⟨"src", .memory 0, true⟩, ⟨"dst", .memory 0, true⟩] } },
      ⟨w, .parent, p₀.id, false, none⟩⟩
    m.reached "/in" = [("/in/a", [0])] ∧
      ∃ q p', exec (runParent p₀.id) p = (.ok q, p') ∧ Table.find? p'.service.store.parents p₀.id = some q ∧
        q.status = .inProgress ∧
        (p'.service.store.childRecords p₀.id).map (fun c => (c.source, c.destination, c.size)) =
          [("mem://src/in/a", "mem://dst/out/a", 1)] := by
  intro t₀ p₀ w m p
  have hadm : ({} : Store).Admits t₀ [p₀] :=
    Store.admits_empty ⟨_, _, _, _, rfl⟩
      (fun p hp => by
        rw [List.mem_singleton.1 hp]
        exact ⟨_, _, _, _, rfl⟩)
      (by decide) (by decide)
  have h₀ : Reachable (Store.exec (Call.createTransfer t₀ [p₀]).run {}).2 := .call (.createTransfer t₀ [p₀]) .empty hadm
  have hr : Reachable p.service.store := by
    simp only [p]
    exact Reachable.foldl_calls h₀ fun c hc _ => by
      simp only [List.mem_cons, List.not_mem_nil, or_false] at hc
      rcases hc with rfl | rfl <;> trivial
  have hreached : m.reached "/in" = [("/in/a", [0])] := by decide +kernel
  let source : Location := ⟨⟨"mem", some ⟨"", some (.domain "src"), none⟩, false, "/in", none, none⟩, "src"⟩
  let destination : Location := ⟨⟨"mem", some ⟨"", some (.domain "dst"), none⟩, false, "/out", none, none⟩, "dst"⟩
  have hroot : Location.trimBack '/' source.path = "/in" := by decide
  obtain ⟨q, p', hrun, hfind, hcase⟩ := @runParent_stages_directory p { p₀ with worker := some w } source destination 0 (.memory 0) m hr
    (by decide +kernel) rfl rfl (by decide +kernel) (by decide +kernel) rfl (by decide +kernel) (by decide +kernel)
    (by decide +kernel) (by decide +kernel) rfl (by decide) (by decide +kernel) (by decide +kernel)
    (by decide +kernel) (by decide +kernel)
  rw [if_pos (by decide +kernel)] at hcase
  obtain ⟨hst, specs, hperm, -, hrecs, -⟩ := hcase
  rw [hroot, hreached] at hperm
  have hspecs : specs = [⟨"mem://src/in/a", "mem://dst/out/a", 1⟩] := by
    rw [List.perm_singleton.1 hperm]
    decide +kernel
  have hsources := congrArg (List.map fun c : ChildSpec => (c.source, c.destination, c.size)) hrecs
  rw [List.map_map, hspecs] at hsources
  exact ⟨hreached, q, p', hrun, hfind, hst, hsources⟩

end Pipe

end Conveyor
