import Conveyor.Proofs.Service.Fence
import Mathlib.Data.List.Pairwise

/-!
# The progress a copy stores only rises

A copy publishes the running total of its reads on a channel after each read. Its progress loop offers each
total it sees to a `Throttle`, which keeps the latest, and at each tick stores what the throttle hands out: the
latest total, unless it is the one handed out last. Over every run of a copy, whatever the order of its reads,
of what the loop sees and of the ticks, and whatever the store answers:

* `Pipe.Sound`: the throttle holds a total published after some read, at most what was read and at least every
  total stored, and remembers the last total stored; the totals stored rise, and each was published and is at
  most what was read. Every move keeps it (`Pipe.Sound.move`): a tick hands out a total above every total
  stored before (`Pipe.lt_of_le_of_getLast_ne`).
* `Pipe.Tracks`: the store's count for the child is `0`, as the start of an attempt leaves it, or one of the
  totals stored. With nothing watching the pipeline and no other party writing the count, every move keeps it
  and never lowers the count (`Pipe.Tracks.move`).
* `Pipe.progress_writes_rise`: the totals a copy stores form a rising sequence of running totals of its reads;
  with no other writer the child's count never goes down between two points of a run, and a copy that gives the
  bytes copied gives at least the count stored.
-/

namespace Conveyor

namespace Store

/-- The bytes the store holds for a child, if it holds the child. -/
def bytesOf (s : Store) (id : TaskId) : Option Nat := (Table.find? s.children id).map (·.bytes)

/-- Setting a child's count sets the count the store reports for it, if it holds the child. -/
theorem bytesOf_setChildBytes (s : Store) (id : TaskId) (bytes : Nat) :
    (exec (setChildBytes id bytes) s).2.bytesOf id = (s.bytesOf id).map fun _ => bytes := by
  cases hc : Table.find? s.children id with
  | none => simp [exec_setChildBytes_of_none hc, bytesOf, hc]
  | some c =>
    have hk : c.id = id := (Table.find?_eq_some hc).2
    cases hp : Table.find? s.parents c.parent with
    | none => simp [exec_setChildBytes_of_orphan hc hp, bytesOf, Table.find?_put, Keyed.key, hk, hc]
    | some q => simp [exec_setChildBytes_of_find hc hp, bytesOf, Table.find?_put, Keyed.key, hk, hc]

end Store

/-- The call leaves the count of the child `id` as it is, in every store. -/
def Call.KeepsCount (call : Call) (id : TaskId) : Prop :=
  ∀ s, (Store.exec call.run s).2.bytesOf id = s.bytesOf id

namespace Throttle

/-- A throttle that hands out nothing holds nothing after, and remembers what it did. -/
theorem take_eq_none {t t' : Throttle} (h : t.take = (none, t')) : t'.pending = none ∧ t'.lastTaken = t.lastTaken := by
  unfold take at h
  split at h
  · cases h
    rename_i hp
    exact ⟨hp, rfl⟩
  · split at h <;> cases h
    exact ⟨rfl, rfl⟩

/-- A throttle hands out the total it holds when it is not the last one handed out, and remembers it. -/
theorem take_eq_some {t t' : Throttle} {b : Nat} (h : t.take = (some b, t')) :
    t.pending = some b ∧ t.lastTaken ≠ some b ∧ t' = { pending := none, lastTaken := some b } := by
  unfold take at h
  split at h
  · cases h
  · rename_i b' hp
    split at h
    · cases h
    · rename_i hne
      cases h
      exact ⟨hp, by simpa using hne, rfl⟩

end Throttle

namespace Pipe

/-! ## The record of a copy -/

/-- `b` is a running total the copy published: the bytes of its first `k` pieces, after at least one read. -/
def Published (P : List Nat) (b : Nat) : Prop := ∃ k, 0 < k ∧ b = (P.take k).sum

/-- Reading the piece at `k` adds it to the running total of the first `k`. -/
theorem drop_succ_of_drop {P rest : List Nat} {k n : Nat} (h : P.drop k = n :: rest) :
    P.drop (k + 1) = rest ∧ (P.take (k + 1)).sum = (P.take k).sum + n := by
  have hk : P[k]? = some n := by rw [← List.head?_drop, h]; rfl
  refine ⟨by rw [← List.drop_drop, h]; rfl, ?_⟩
  rw [List.take_add_one, hk, List.sum_append]
  simp

/-- A total at least every total stored and other than the last one stored is above all of them, when they
rise. -/
theorem lt_of_le_of_getLast_ne {sent : List Nat} {b : Nat} (hr : sent.Pairwise (· < ·)) (hle : ∀ a ∈ sent, a ≤ b)
    (hne : sent.getLast? ≠ some b) : ∀ a ∈ sent, a < b := by
  intro a ha
  have hsent : sent ≠ [] := List.ne_nil_of_mem ha
  have h₁ : a ≤ sent.getLast hsent := (hr.imp Nat.le_of_lt).rel_getLast ha
  have h₂ : sent.getLast hsent ≤ b := hle _ (List.getLast_mem hsent)
  have h₃ : sent.getLast hsent ≠ b := fun h => hne (by rw [List.getLast?_eq_some_getLast hsent, h])
  omega

/-- What the progress loop of a copy of the pieces `P` keeps. -/
structure Sound (P : List Nat) (c : Copying) : Prop where
  /-- The copy read the first `k` pieces and has the rest to read; a total not yet seen was published. -/
  reads : ∃ k, c.pieces = P.drop k ∧ c.read = (P.take k).sum ∧ (c.seen = false → 0 < k)
  /-- The throttle holds a published total, at most what was read and at least every total stored. -/
  pending : ∀ b, c.throttle.pending = some b → Published P b ∧ b ≤ c.read ∧ ∀ a ∈ c.sent, a ≤ b
  /-- The throttle remembers the last total stored. -/
  last : c.throttle.lastTaken = c.sent.getLast?
  /-- The totals stored rise. -/
  rising : c.sent.Pairwise (· < ·)
  /-- Every total stored was published and is at most what was read. -/
  sent : ∀ a ∈ c.sent, Published P a ∧ a ≤ c.read
  /-- A copy that gave a count gave what it read. -/
  counted : CountsRead c

theorem Sound.start (P : List Nat) (fault : Option Breakage) : Sound P { pieces := P, fault } :=
  ⟨⟨0, rfl, rfl, fun h => (by cases h)⟩, fun _ h => (by cases h), rfl, List.Pairwise.nil, fun _ h => (by cases h),
    fun _ h => (by cases h)⟩

section Moves

variable {src : Source} {sink : Sink} {label : String} {task : TaskId} {P : List Nat}

/-- A tick that hands out a total stores it above every total stored before. -/
theorem Sound.handOut {c : Copying} {b : Nat} {t : Throttle} (hs : Sound P c) (ht : c.throttle.take = (some b, t))
    {stopped : Bool} {persisted : Option (Except Error Unit)} :
    Sound P { c with throttle := t, sent := c.sent ++ [b], stopped, persisted } := by
  obtain ⟨hp, hne, rfl⟩ := Throttle.take_eq_some ht
  obtain ⟨hpub, hle, hge⟩ := hs.pending b hp
  have hlt := lt_of_le_of_getLast_ne hs.rising hge (hs.last ▸ hne)
  refine ⟨hs.reads, fun _ h => (by cases h), List.getLast?_concat.symm, ?_, ?_, ?_⟩
  · exact List.pairwise_append.2 ⟨hs.rising, List.pairwise_singleton _ _, fun a ha _ hb' => by
      rw [List.mem_singleton] at hb'
      exact hb' ▸ hlt a ha⟩
  · intro a ha
    rcases List.mem_append.1 ha with ha | ha
    · exact hs.sent a ha
    · rw [List.mem_singleton] at ha
      subst ha
      exact ⟨hpub, hle⟩
  · exact fun n hn => hs.counted n hn

/-- **Step lemma.** Every move of a copy keeps its progress loop sound. -/
theorem Sound.move {c c' : Copying} {p p' : Pipe} {e : CopyEvent} (hs : Sound P c)
    (hm : CopyMove src sink label task c p e c' p') : Sound P c' := by
  have hc := hs.counted.move hm
  cases hm with
  | still | wait | call => exact hs
  | stop | finish | close => exact ⟨hs.reads, hs.pending, hs.last, hs.rising, hs.sent, hc⟩
  | piece _ _ hp =>
    obtain ⟨k, hk, hr, -⟩ := hs.reads
    obtain ⟨hk', hsum⟩ := drop_succ_of_drop (hk ▸ hp)
    refine ⟨⟨k + 1, hk'.symm, by rw [hsum, hr], fun _ => Nat.succ_pos k⟩, fun b hb => ?_, hs.last, hs.rising,
      fun a ha => ?_, hc⟩
    · obtain ⟨hpub, hle, hge⟩ := hs.pending b hb
      exact ⟨hpub, Nat.le_add_right_of_le hle, hge⟩
    · obtain ⟨hpub, hle⟩ := hs.sent a ha
      exact ⟨hpub, Nat.le_add_right_of_le hle⟩
  | offer _ hseen =>
    obtain ⟨k, hk, hr, hpos⟩ := hs.reads
    refine ⟨⟨k, hk, hr, fun h => (by cases h)⟩, fun b hb => ?_, hs.last, hs.rising, hs.sent, hc⟩
    cases hb
    exact ⟨⟨k, hpos hseen, hr⟩, Nat.le_refl _, fun a ha => (hs.sent a ha).2⟩
  | idle _ ht =>
    obtain ⟨hnone, hlast⟩ := Throttle.take_eq_none ht
    exact ⟨hs.reads, fun b hb => (by rw [hnone] at hb; cases hb), hlast.trans hs.last, hs.rising, hs.sent, hc⟩
  | store _ ht | miss _ ht | refuse _ ht => exact hs.handOut ht

end Moves

/-! ## The record and the store -/

/-- The child's count in `p'` is at least its count in `p`. -/
def Rises (id : TaskId) (p p' : Pipe) : Prop :=
  ∀ b, p.service.store.bytesOf id = some b → ∃ b', p'.service.store.bytesOf id = some b' ∧ b ≤ b'

theorem Rises.refl (id : TaskId) (p : Pipe) : Rises id p p := fun b hb => ⟨b, hb, Nat.le_refl b⟩

theorem Rises.trans {id : TaskId} {p p₁ p₂ : Pipe} (h₁ : Rises id p p₁) (h₂ : Rises id p₁ p₂) :
    Rises id p p₂ := by
  intro b hb
  obtain ⟨b₁, hb₁, hle₁⟩ := h₁ b hb
  obtain ⟨b₂, hb₂, hle₂⟩ := h₂ b₁ hb₁
  exact ⟨b₂, hb₂, Nat.le_trans hle₁ hle₂⟩

theorem Rises.of_eq {id : TaskId} {p p' : Pipe} (h : p'.service.store.bytesOf id = p.service.store.bytesOf id) :
    Rises id p p' := fun b hb => ⟨b, h ▸ hb, Nat.le_refl b⟩

/-- The store's count for the child is `0`, as the start of an attempt leaves it, or one of the totals the copy
stored. -/
def Tracks (task : TaskId) (c : Copying) (p : Pipe) : Prop :=
  ∀ b, p.service.store.bytesOf task = some b → b = 0 ∨ b ∈ c.sent

/-- With nothing watching, a wait changes nothing. -/
theorem wait_quiet {c : Copying} {p p' : Pipe} (hq : p.run.watch = none)
    (h : exec (if (c.copied.isNone && !(p.run.cancelled || c.stopped)) = true then pause else pure ()) p = (.ok (), p')) :
    p' = p := by
  have he : exec (if (c.copied.isNone && !(p.run.cancelled || c.stopped)) = true then pause else pure ()) p =
      (.ok (), p) := by
    split
    · exact exec_pause_quiet hq
    · rfl
  rw [he] at h
  cases h
  rfl

section Moves

variable {src : Source} {sink : Sink} {label : String} {task : TaskId} {P : List Nat}

/-- **Step lemma.** With nothing watching the pipeline and no other party writing the child's count, every move
of a sound copy keeps the store's count following the copy's record, and never lowers it: a stored total is above
every total stored before. -/
theorem Tracks.move {c c' : Copying} {p p' : Pipe} {e : CopyEvent} (hs : Sound P c) (ht : Tracks task c p)
    (hq : p.run.watch = none) (hcall : ∀ call, e = .outside call → call.KeepsCount task)
    (hm : CopyMove src sink label task c p e c' p') : Tracks task c' p' ∧ Rises task p p' ∧ p'.run.watch = none := by
  cases hm with
  | still | stop | piece | finish | offer | close | idle => exact ⟨ht, Rises.refl _ _, hq⟩
  | wait hw =>
    rw [wait_quiet hq hw]
    exact ⟨ht, Rises.refl _ _, hq⟩
  | call call =>
    have hk := hcall call rfl p.service.store
    refine ⟨fun b hb => ht b (hk ▸ hb), Rises.of_eq hk, hq⟩
  | refuse _ _ _ _ | miss _ _ _ =>
    exact ⟨fun b hb => (ht b hb).imp_right fun h => List.mem_append_left _ h, Rises.refl _ _, hq⟩
  | @store b t d _ htake _ _ =>
    have hk := Store.bytesOf_setChildBytes p.service.store task b
    have hlt : ∀ a ∈ c.sent, a < b := by
      obtain ⟨hp, hne, -⟩ := Throttle.take_eq_some htake
      exact lt_of_le_of_getLast_ne hs.rising (hs.pending b hp).2.2 (hs.last ▸ hne)
    refine ⟨fun b' hb' => Or.inr ?_, fun b₀ hb₀ => ⟨b, ?_, ?_⟩, hq⟩
    · change (Store.exec (Store.setChildBytes task b) p.service.store).2.bytesOf task = some b' at hb'
      rw [hk] at hb'
      obtain ⟨_, -, rfl⟩ := Option.map_eq_some_iff.1 hb'
      exact List.mem_append_right _ (List.mem_singleton_self _)
    · change (Store.exec (Store.setChildBytes task b) p.service.store).2.bytesOf task = some b
      rw [hk, hb₀]
      rfl
    · rcases ht b₀ hb₀ with rfl | h
      · exact Nat.zero_le _
      · exact Nat.le_of_lt (hlt b₀ h)

end Moves

/-- **The progress writes rise.** Over every run of a copy, in any order of its reads, of what its progress loop
sees and of the ticks, whatever the store answers: the totals the loop stores rise, and each is a running total
of the reads published after some read and at most what was read. With nothing watching the pipeline, no other
party writing the child's count, and the count at `0` as the start of an attempt leaves it, the count never goes
down from any point of the run to a later one, and a copy that gave the bytes copied gave at least the count. -/
theorem progress_writes_rise (src : Source) (sink : Sink) (buffer : Nat) (label : String) (task : TaskId)
    (p : Pipe) (before after : List CopyEvent) {c₁ c₂ : Copying} {p₁ p₂ : Pipe}
    (h₁ : exec (copyRun src sink label task { pieces := (src.pieces buffer).1, fault := (src.pieces buffer).2 } before)
      p = (.ok c₁, p₁))
    (h₂ : exec (copyRun src sink label task c₁ after) p₁ = (.ok c₂, p₂)) :
    c₂.sent.Pairwise (· < ·) ∧
      (∀ b ∈ c₂.sent, b ≤ c₂.read ∧ ∃ k, 0 < k ∧ b = ((src.pieces buffer).1.take k).sum) ∧
      (p.run.watch = none → (∀ call, .outside call ∈ before ++ after → call.KeepsCount task) →
        (∀ b, p.service.store.bytesOf task = some b → b = 0) →
        Rises task p₁ p₂ ∧ ∀ n b, c₂.copied = some (.ok n) → p₂.service.store.bytesOf task = some b → b ≤ n) := by
  have hS₁ := copyRun_inv (fun c _ => Sound (src.pieces buffer).1 c) (fun _ _ _ _ _ _ hs hm => hs.move hm)
    (Sound.start _ _) h₁
  have hS₂ := copyRun_inv (fun c _ => Sound (src.pieces buffer).1 c) (fun _ _ _ _ _ _ hs hm => hs.move hm) hS₁ h₂
  refine ⟨hS₂.rising, fun b hb => ⟨(hS₂.sent b hb).2, (hS₂.sent b hb).1⟩, fun hq hcalls h0 => ?_⟩
  have hcall : ∀ e ∈ before ++ after, ∀ call, e = .outside call → call.KeepsCount task := by
    rintro e he call rfl
    exact hcalls call he
  obtain ⟨-, ht₁, hq₁⟩ := copyRun_inv (fun c q => Sound (src.pieces buffer).1 c ∧ Tracks task c q ∧ q.run.watch = none)
    (fun e he _ _ _ _ ⟨hs, ht, hq⟩ hm =>
      have h := ht.move hs hq (hcall e (List.mem_append_left _ he)) hm
      ⟨hs.move hm, h.1, h.2.2⟩)
    ⟨Sound.start _ _, fun b hb => Or.inl (h0 b hb), hq⟩ h₁
  obtain ⟨-, ht₂, hr, -⟩ := copyRun_inv
    (fun c q => Sound (src.pieces buffer).1 c ∧ Tracks task c q ∧ Rises task p₁ q ∧ q.run.watch = none)
    (fun e he _ _ _ _ ⟨hs, ht, hr, hq⟩ hm =>
      have h := ht.move hs hq (hcall e (List.mem_append_right _ he)) hm
      ⟨hs.move hm, h.1, hr.trans h.2.1, h.2.2⟩)
    ⟨hS₁, ht₁, Rises.refl _ _, hq₁⟩ h₂
  refine ⟨hr, fun n b hn hb => ?_⟩
  rw [hS₂.counted n hn]
  rcases ht₂ b hb with rfl | h
  · exact Nat.zero_le _
  · exact (hS₂.sent b h).2

/-- A child its worker holds, copied on the node's schedule from 100 bytes in reads of 40 that take 20
milliseconds each, with a window of 20: the ticks of the second and third waits store 40, then 80. -/
theorem timed_copy_writes_rise :
    let t₀ : Top := Top.fresh ⟨⟨1⟩⟩ "ta" "alice" none 0
    let p₀ : Parent := Parent.fresh ⟨⟨2⟩⟩ t₀ "mem://src/s/one" "mem://dst/d/one" false 1
    let w : WorkerId := ⟨⟨3⟩⟩
    let s₀ := (Store.exec ([Call.createTransfer t₀ [p₀], .registerWorker ⟨w, "h1", 0, 0⟩, .assign .parent p₀.id w,
      .beginStaging p₀.id w 2, .commitStaging p₀.id w [⟨"mem://src/s/one", "mem://dst/d/one", 100⟩] 3,
      .startParent p₀.id w 4].forM Call.run) {}).2
    let cid := (s₀.childIds p₀.id).headD p₀.id
    let s := (Store.exec ([Call.assign .child cid w, .beginChildAttempt cid w 5].forM Call.run) s₀).2
    let src : Source := ⟨List.replicate 100 7, 40, 20, none⟩
    let sink : Sink := .memory 0 "/d/one"
    let p : Pipe := ⟨{ Service.fresh ⟨default, 1024, 10, 10, 20⟩ ⟨1, 1, 1, 1, 1⟩ with store := s },
      ⟨w, .child, cid, false, none⟩⟩
    let start : Copying := { pieces := (src.pieces 1024).1, fault := (src.pieces 1024).2 }
    ∃ c₂ p₂, exec (copyRun src sink "mem://src/s/one" cid start (timedEvents 3 20 20)) p = (.ok c₂, p₂) ∧
      c₂.sent = [40, 80] ∧ c₂.sent.Pairwise (· < ·) ∧
      (∀ b ∈ c₂.sent, b ≤ c₂.read ∧ ∃ k, 0 < k ∧ b = ((src.pieces 1024).1.take k).sum) ∧
      (p.run.watch = none → (∀ call, .outside call ∈ [] ++ timedEvents 3 20 20 → call.KeepsCount cid) →
        (∀ b, p.service.store.bytesOf cid = some b → b = 0) →
        Rises cid p p₂ ∧ ∀ n b, c₂.copied = some (.ok n) → p₂.service.store.bytesOf cid = some b → b ≤ n) := by
  intro t₀ p₀ w s₀ cid s src sink p start
  obtain ⟨c₂, p₂, h₂, -⟩ := @copyRun_quiet src sink "mem://src/s/one" cid (timedEvents 3 20 20) start p rfl
  have hsent : (exec (copyRun src sink "mem://src/s/one" cid start (timedEvents 3 20 20)) p).1.toOption.map
      (·.sent) = some [40, 80] := by
    decide +kernel
  rw [h₂] at hsent
  simp only [Except.toOption, Option.map_some, Option.some.injEq] at hsent
  exact ⟨c₂, p₂, h₂, hsent, progress_writes_rise src sink 1024 "mem://src/s/one" cid p [] (timedEvents 3 20 20) rfl h₂⟩

end Pipe

end Conveyor
