import Conveyor.Proofs.Storage.Listing
import Conveyor.Proofs.Service.Attempts

/-!
# Walking a directory of a memory

A parent whose source is a directory lists it level by level (`Pipe.enumerate`): it keeps a stack of
directories with their depths, lists the last one, finds the files of its listing and puts its
directories on the stack. Over a memory, whose directories are only implied by the paths of its
objects, the walk from `root` finds exactly the objects it reaches (`Memory.reached`): those below
`root` with no object on the way, since an object at the path of a directory is listed in its place and
hides what lies below it.

- `Memory.Open.under_perm`: the objects the walk reaches below a directory it lists are those directly
  in it and those below each directory of its listing.
- `Pipe.Listing.Sound`: the invariant of the walk, which a step keeps (`Pipe.Listing.Sound.step`) while
  the `Memory.backlog` of its stack shrinks.
- `Pipe.exec_enumerate_of_sound`: with enough fuel, the walk ends with the children of the objects it
  reaches when they are within its bounds (`Memory.WithinBounds`), and fails with a failure of kind
  `other` when they are not.
-/

namespace Conveyor

/-! ## Paths of a location -/

/-- The part of a path below a location's path, as a listing computes it. -/
theorem Location.relativeTo_of_isBelow {l : Location} {k : String} (h : Memory.isBelow (Location.trimBack '/' l.path) k) :
    l.relativeTo k = some (String.ofList (Memory.restBelow (Location.trimBack '/' l.path) k)) := by
  obtain ⟨r, hr⟩ := Memory.isBelow_iff.1 h
  have hs : k.startsWith (Location.trimBack '/' l.path) = true := by
    rw [String.startsWith_string_iff, hr]
    exact List.prefix_append _ _
  have hdrop : k.toList.drop (Location.trimBack '/' l.path).length = '/' :: r := by
    rw [hr, ← String.length_toList]
    exact List.drop_left
  unfold Locator.relativeTo
  simp [hs, hdrop, String.isEmpty_iff, String.startsWith_string_iff, Memory.restBelow_of_eq hr]

/-! ## What a walk reaches -/

/-- Filtering by a predicate splits over the values a function takes on what passes it. -/
theorem perm_filter_flatMap {α β : Type} [DecidableEq β] {l : List α} {f : α → β} :
    ∀ {cs : List β} {q : α → Bool}, cs.Nodup → (∀ a ∈ l, q a = true → f a ∈ cs) →
      (l.filter q).Perm (cs.flatMap fun c => l.filter fun a => q a && f a == c)
  | [], q, _, hf => by
    rw [List.flatMap_nil, List.perm_nil, List.filter_eq_nil_iff]
    exact fun a ha hq => List.not_mem_nil (hf a ha hq)
  | c :: cs, q, hcs, hf => by
    rw [List.nodup_cons] at hcs
    have hrest := perm_filter_flatMap (l := l) (f := f) (q := fun a => q a && !(f a == c)) hcs.2
      fun a ha hq => by
        simp only [Bool.and_eq_true, Bool.not_eq_true', beq_eq_false_iff_ne] at hq
        exact (List.mem_cons.1 (hf a ha hq.1)).resolve_left hq.2
    have hsame : (cs.flatMap fun c' => l.filter fun a => (q a && !(f a == c)) && f a == c') =
        cs.flatMap fun c' => l.filter fun a => q a && f a == c' :=
      List.flatMap_congr fun c' hc' => List.filter_congr fun a _ => by
        have hne : c' ≠ c := by rintro rfl; exact hcs.1 hc'
        by_cases h : f a = c'
        · subst h
          simp [hne]
        · simp [beq_false_of_ne h]
    rw [List.flatMap_cons, ← hsame]
    refine (List.filter_append_perm (fun a => f a == c) (l.filter q)).symm.trans ?_
    simp only [List.filter_filter]
    exact List.Perm.append (List.Perm.of_eq (List.filter_congr fun a _ => by rw [Bool.and_comm]))
      ((List.Perm.of_eq (List.filter_congr fun a _ => by rw [Bool.and_comm])).trans hrest)

namespace Memory

/-- The objects a walk of the directories below `root` finds: those below it with no object on the way,
since an object at a directory's path is listed in its place. -/
def reached (m : Memory) (root : String) : List (String × Bytes) :=
  m.objects.filter fun kv => isBelow root kv.1 && !m.objects.any fun kv' => isBelow root kv'.1 && isBelow kv'.1 kv.1

/-- The objects of the walk below a directory. -/
def under (m : Memory) (root dir : String) : List (String × Bytes) := (m.reached root).filter (isBelow dir ·.1)

/-- A directory the walk lists: `root` or one below it, with no object at it or on the way. -/
def Open (m : Memory) (root dir : String) : Prop :=
  (dir = root ∨ isBelow root dir) ∧ ∀ kv ∈ m.objects, isBelow root kv.1 → kv.1 ≠ dir ∧ ¬ isBelow kv.1 dir

variable {m : Memory} {root dir : String} {M : Nat}

theorem mem_reached {kv : String × Bytes} :
    kv ∈ m.reached root ↔ kv ∈ m.objects ∧ isBelow root kv.1 ∧
      ∀ kv' ∈ m.objects, isBelow root kv'.1 → ¬ isBelow kv'.1 kv.1 := by
  simp [reached]

theorem open_root : m.Open root root :=
  ⟨Or.inl rfl, fun _ _ hb => ⟨fun e => not_isBelow_self (e ▸ hb), fun hb' => not_isBelow_self (isBelow_trans hb hb')⟩⟩

theorem Open.isBelow_root (ho : m.Open root dir) {k : String} (hk : isBelow dir k) : isBelow root k := by
  rcases ho.1 with rfl | hr
  · exact hk
  · exact isBelow_trans hr hk

/-- No object below `root` lies on the way to a path directly in a directory the walk lists. -/
theorem Open.not_isBelow_of_isDirect (ho : m.Open root dir) {c : String} (hc : isDirect dir c)
    {kv : String × Bytes} (hkv : kv ∈ m.objects) (hr : isBelow root kv.1) : ¬ isBelow kv.1 c := fun hb => by
  rcases eq_or_isBelow_of_isDirect hc hb with h | h
  · exact (ho.2 kv hkv hr).1 h
  · exact (ho.2 kv hkv hr).2 h

/-- The objects directly in a directory the walk lists are reached. -/
theorem Open.mem_reached_of_isDirect (ho : m.Open root dir) {kv : String × Bytes} (hkv : kv ∈ m.objects)
    (hd : isDirect dir kv.1) : kv ∈ m.reached root :=
  Memory.mem_reached.2 ⟨hkv, ho.isBelow_root (isBelow_of_isDirect hd),
    fun _ hkv' hr => ho.not_isBelow_of_isDirect hd hkv' hr⟩

/-- A directory of the listing of a directory the walk lists, where no object is, is listed in turn. -/
theorem Open.open_childDir (ho : m.Open root dir) {k : String}
    (hno : ∀ kv ∈ m.objects, kv.1 ≠ childDir dir k) : m.Open root (childDir dir k) := by
  have hc : isDirect dir (childDir dir k) := isDirect_childDir
  exact ⟨Or.inr (ho.isBelow_root (isBelow_of_isDirect hc)),
    fun kv hkv hr => ⟨hno kv hkv, ho.not_isBelow_of_isDirect hc hkv hr⟩⟩

/-- Below a directory the walk lists, with an object below it, the walk reaches an object: one with no
object on its way. By induction on the depth of the object: an object on its way lies below the directory and
higher up. -/
theorem Open.exists_reached (ho : m.Open root dir) {kv : String × Bytes} (hkv : kv ∈ m.objects)
    (hb : isBelow dir kv.1) : ∃ kv' ∈ m.reached root, isBelow dir kv'.1 := by
  induction hn : kv.1.toList.count '/' using Nat.strong_induction_on generalizing kv with
  | _ n ih =>
    by_cases hr : kv ∈ m.reached root
    · exact ⟨kv, hr, hb⟩
    · have hblock := mt Memory.mem_reached.2 hr
      simp only [hkv, ho.isBelow_root hb, true_and, not_forall, not_not, exists_prop] at hblock
      obtain ⟨kv', hkv', hr', hb'⟩ := hblock
      rcases isBelow_total hb hb' with h | h | h
      · exact absurd h.symm (ho.2 kv' hkv' hr').1
      · exact ih _ (hn ▸ count_lt_of_isBelow hb') hkv' h rfl
      · exact absurd h (ho.2 kv' hkv' hr').2

/-- The objects of the walk below a directory it lists: those directly in it, and those below each
directory of its listing. -/
theorem Open.under_perm (ho : m.Open root dir) {cs : List String} (hcs : cs.Nodup)
    (hmem : ∀ c, c ∈ cs ↔ (∃ kv ∈ m.objects, isBelow dir kv.1 ∧ isDirect dir kv.1 = false ∧ childDir dir kv.1 = c) ∧
      ∀ kv ∈ m.objects, kv.1 ≠ c) :
    (m.under root dir).Perm (m.objects.filter (isDirect dir ·.1) ++ cs.flatMap (m.under root)) := by
  refine (List.filter_append_perm (isDirect dir ·.1) (m.under root dir)).symm.trans
    (List.Perm.append (List.Perm.of_eq ?_) ?_)
  · -- the objects directly in `dir` are all reached
    simp only [under, reached, List.filter_filter]
    refine List.filter_congr fun kv hkv => ?_
    by_cases hd : isDirect dir kv.1 = true
    · have hr := List.mem_filter.1 (ho.mem_reached_of_isDirect hkv hd)
      simp only [hd, isBelow_of_isDirect hd, Bool.true_and]
      exact hr.2
    · simp [hd]
  · -- the others go by the directory of the listing they lie in
    have hf : ∀ kv ∈ m.under root dir, (!isDirect dir kv.1) = true → childDir dir kv.1 ∈ cs := by
      intro kv hkv hd
      obtain ⟨hr, hb⟩ := List.mem_filter.1 hkv
      have hd : isDirect dir kv.1 = false := by simpa using hd
      obtain ⟨hkv', -, hfree⟩ := mem_reached.1 hr
      refine (hmem _).2 ⟨⟨kv, hkv', hb, hd, rfl⟩, fun kv' hkv'' he => ?_⟩
      have hc : isDirect dir (childDir dir kv.1) := isDirect_childDir
      exact hfree kv' hkv'' (he ▸ ho.isBelow_root (isBelow_of_isDirect hc)) (he ▸ isBelow_childDir hb hd)
    refine (perm_filter_flatMap hcs hf).trans (List.Perm.of_eq (List.flatMap_congr fun c hc => ?_))
    obtain ⟨kv₀, -, -, -, rfl⟩ := ((hmem c).1 hc).1
    have hc : isDirect dir (childDir dir kv₀.1) := isDirect_childDir
    simp only [under, List.filter_filter]
    refine List.filter_congr fun kv _ => Bool.eq_iff_iff.2 ?_
    simp only [Bool.and_eq_true, Bool.not_eq_true', beq_iff_eq]
    constructor
    · rintro ⟨⟨hd, he⟩, hb⟩
      rw [← he]
      exact isBelow_childDir hb hd
    · intro hb
      exact ⟨⟨isDirect_eq_false_of_isBelow hc hb, childDir_eq_of_isBelow hc hb⟩,
        isBelow_trans (isBelow_of_isDirect hc) hb⟩

/-! ## The stack of a walk -/

/-- What is left of a walk that may go `M` levels down: for each directory on its stack, its objects
times the levels the walk may still go down there. -/
def backlog (m : Memory) (root : String) (M : Nat) : List (String × Nat) → Nat
  | [] => 0
  | x :: xs => (m.under root x.1).length * (M + 2 - x.2) + m.backlog root M xs

theorem backlog_append (xs ys : List (String × Nat)) :
    m.backlog root M (xs ++ ys) = m.backlog root M xs + m.backlog root M ys := by
  induction xs with
  | nil => simp [backlog]
  | cons x xs ih => simp only [List.cons_append, backlog, ih]; omega

theorem backlog_map (cs : List String) (d : Nat) :
    m.backlog root M (cs.map fun c => (c, d + 1)) = (cs.flatMap (m.under root)).length * (M + 1 - d) := by
  induction cs with
  | nil => simp [backlog]
  | cons c cs ih =>
    rw [List.map_cons, backlog, ih, List.flatMap_cons, List.length_append, Nat.add_mul,
      show M + 2 - (d + 1) = M + 1 - d by omega]

/-- A directory on the stack of a walk from `root` that may go `M` levels down, at its depth. -/
structure Stacked (m : Memory) (root : String) (M : Nat) (x : String × Nat) : Prop where
  isOpen : m.Open root x.1
  trimmed : x.1.toList.getLast? ≠ some '/'
  level : x.1.toList.count '/' = root.toList.count '/' + x.2
  nonempty : m.under root x.1 ≠ []
  depth_le : x.2 ≤ M + 1

/-- A directory of the listing of a stacked directory, with an object below it, is stacked one level
down. -/
theorem Stacked.stacked_childDir {D : String} {d : Nat} {kv : String × Bytes} (hx : m.Stacked root M (D, d)) (hd : d ≤ M)
    (habs : ¬ ['/', '/'] <:+: kv.1.toList) (hkv : kv ∈ m.objects) (hb : isBelow D kv.1)
    (hdir : isDirect D kv.1 = false) (hno : ∀ kv' ∈ m.objects, kv'.1 ≠ childDir D kv.1) :
    m.Stacked root M (childDir D kv.1, d + 1) := by
  have hopen := hx.isOpen.open_childDir hno
  obtain ⟨kv₁, hkv₁, hb₁⟩ := hopen.exists_reached hkv (isBelow_childDir hb hdir)
  have hlev : (childDir D kv.1).toList.count '/' = D.toList.count '/' + 1 := count_of_isDirect isDirect_childDir
  have := hx.level
  exact ⟨hopen, childDir_getLast habs hb hdir, by simp only at this ⊢; omega,
    List.ne_nil_of_mem (List.mem_filter.2 ⟨hkv₁, hb₁⟩), by omega⟩

/-- Listing the directory on top of the stack shrinks the backlog: the objects below it pass to the
directories of its listing, one level down, and those directly in it leave. -/
theorem backlog_listed_lt {P : List (String × Nat)} {D : String} {d : Nat} {F : List (String × Bytes)}
    {cs : List String} (hpart : (m.under root D).Perm (F ++ cs.flatMap (m.under root))) (hne : m.under root D ≠ [])
    (hd : d ≤ M) : m.backlog root M (P ++ cs.map fun c => (c, d + 1)) < m.backlog root M (P ++ [(D, d)]) := by
  rw [backlog_append, backlog_append, backlog_map]
  have hlen := hpart.length_eq
  rw [List.length_append] at hlen
  have hpos : 0 < (m.under root D).length := List.length_pos_of_ne_nil hne
  have hle : (cs.flatMap (m.under root)).length * (M + 1 - d) ≤ (m.under root D).length * (M + 1 - d) :=
    Nat.mul_le_mul_right _ (by omega)
  have hsplit : (m.under root D).length * (M + 2 - d) = (m.under root D).length * (M + 1 - d) +
      (m.under root D).length := by
    rw [show M + 2 - d = (M + 1 - d) + 1 by omega, Nat.mul_succ]
  simp only [backlog]
  omega

/-- A walk from `root` that may go `M` levels down and find `C` files finds all it reaches: at most `C`
objects, none more than `M + 1` levels below `root`. -/
def WithinBounds (m : Memory) (root : String) (M C : Nat) : Prop :=
  (m.reached root).length ≤ C ∧ ∀ kv ∈ m.reached root, kv.1.toList.count '/' ≤ root.toList.count '/' + M + 1

instance (m : Memory) (root : String) (M C : Nat) : Decidable (m.WithinBounds root M C) :=
  inferInstanceAs (Decidable (_ ∧ _))

/-- A stacked directory past the depth has objects the walk reaches too deep. -/
theorem Stacked.not_withinBounds {D : String} {d C : Nat} (hx : m.Stacked root M (D, d)) (hd : M < d) :
    ¬ m.WithinBounds root M C := fun h => by
  obtain ⟨kv, hkv⟩ := List.exists_mem_of_ne_nil _ hx.nonempty
  obtain ⟨hkvr, hb⟩ := List.mem_filter.1 hkv
  have h₁ := h.2 kv hkvr
  have h₂ := count_lt_of_isBelow hb
  have h₃ := hx.level
  simp only at h₂ h₃
  omega

end Memory

/-- The child a parent from `source` to `destination` gets for an object below its source. -/
def childOf (source destination : Location) (kv : String × Bytes) : ChildSpec :=
  ⟨(source.withPath kv.1).render,
    (destination.join (String.ofList (Memory.restBelow (Location.trimBack '/' source.path) kv.1))).render,
    kv.2.length⟩

namespace Pipe

/-! ## The steps of a walk -/

/-- Adding the entries of a listed directory: its files are found, its directories put on the stack. -/
theorem addEntries_eq {source destination : Location} {depth : Nat} {rel : String → String} :
    ∀ {es : List Entry} {l : Listing}, (∀ e ∈ es, e.isDir = false → source.relativeTo e.path = some (rel e.path)) →
      addEntries source destination depth es l =
        .ok { found := l.found ++ (es.filter (!·.isDir)).map fun e =>
                ⟨(source.withPath e.path).render, (destination.join (rel e.path)).render, e.size⟩,
              pending := l.pending ++ (es.filter (·.isDir)).map fun e => (e.path, depth) }
  | [], l, _ => by simp [addEntries]
  | e :: es, l, h => by
    have hrest := fun l' => @addEntries_eq source destination depth rel es l' fun e' he' => h e' (List.mem_cons_of_mem e he')
    cases hd : e.isDir
    · simp only [addEntries, hd, Bool.false_eq_true, if_false, h e List.mem_cons_self hd, hrest]
      simp [hd]
    · simp only [addEntries, hd, if_true, hrest]
      simp [hd]

variable {p : Pipe}

theorem exec_tokenCancelled : exec tokenCancelled p = (.ok p.run.cancelled, p) := rfl

theorem exec_retrying_of_ok {α : Type} {q : Storage → Except Error α} {a : α} (h : q p.service.storage = .ok a)
    (id : TaskId) : exec (retrying q id) p = (.ok a, p) := by
  simp only [retrying, exec_bind, exec_get, withRetry, h]
  rfl

section Enumerate

variable {b : Backend} {source destination : Location} {id : TaskId} {fuel : Nat} {l l' : Listing}
  {P : List (String × Nat)} {D : String} {d : Nat}

theorem exec_enumerate_nil (hl : l.pending = []) : exec (enumerate b source destination id fuel l) p = (.ok l.found, p) := by
  cases fuel <;> simp [enumerate, hl]

/-- A listing stops at a directory nested deeper than the bound. -/
theorem exec_enumerate_deep (hl : l.pending = P ++ [(D, d)]) (hc : p.run.cancelled = false)
    (hd : d > p.service.worker.maxDepth) :
    exec (enumerate b source destination id (fuel + 1) l) p =
      (.error (.error (.other (D ++ ": directory nesting exceeds " ++ toString p.service.worker.maxDepth ++
        " levels"))), p) := by
  simp only [enumerate, hl, List.getLast?_concat, List.dropLast_concat, exec_bind, exec_tokenCancelled, hc,
    Bool.false_eq_true, ↓reduceIte, exec_get, hd]
  rfl

/-- One step of a listing: the last directory on the stack is listed, its files found and its directories
put on the stack, unless the count of files passes its bound. -/
theorem exec_enumerate_step {es : List Entry} (hl : l.pending = P ++ [(D, d)]) (hc : p.run.cancelled = false)
    (hd : d ≤ p.service.worker.maxDepth) (hes : p.service.storage.list b D = .ok es)
    (hadd : addEntries source destination (d + 1) es { l with pending := P } = .ok l') :
    exec (enumerate b source destination id (fuel + 1) l) p =
      if l'.found.length > p.service.worker.maxChildren then
        (.error (.error (.other (source.render ++ " holds more than " ++ toString p.service.worker.maxChildren ++
          " files"))), p)
      else exec (enumerate b source destination id fuel l') p := by
  simp only [enumerate, hl, List.getLast?_concat, List.dropLast_concat, exec_bind, exec_tokenCancelled, hc,
    Bool.false_eq_true, ↓reduceIte, exec_get, show ¬ d > p.service.worker.maxDepth by omega]
  rw [exec_retrying_of_ok hes]
  simp only [hadd, pure_bind]
  split
  · rw [exec_bind, exec_throw]
  · rfl

end Enumerate

namespace Listing

/-- Where a walk from `root` that may go `M` levels down stands: it found the files of the objects `fs`,
and these with the objects below the directories of its stack are the objects it reaches. -/
structure Sound (m : Memory) (source destination : Location) (root : String) (M : Nat)
    (fs : List (String × Bytes)) (l : Listing) : Prop where
  found : l.found.Perm (fs.map (childOf source destination))
  covers : (fs ++ l.pending.flatMap fun x => m.under root x.1).Perm (m.reached root)
  levels : ∀ kv ∈ fs, kv.1.toList.count '/' ≤ root.toList.count '/' + M + 1
  stacked : ∀ x ∈ l.pending, m.Stacked root M x

variable {m : Memory} {source destination : Location} {root : String} {M : Nat}

/-- A walk starts sound from a directory with an object below it. -/
theorem sound_start (hroot : root = Location.trimBack '/' source.path)
    (hne : ∃ kv ∈ m.objects, Memory.isBelow root kv.1) :
    ({ pending := [(root, 0)] } : Listing).Sound m source destination root M [] where
  found := List.Perm.nil
  covers := by
    refine List.Perm.of_eq ?_
    simp only [List.flatMap_cons, List.flatMap_nil, List.append_nil, List.nil_append, Memory.under]
    exact List.filter_eq_self.2 fun kv hkv => by simpa using (Memory.mem_reached.1 hkv).2.1
  levels _ h := absurd h List.not_mem_nil
  stacked x hx := by
    rw [List.mem_singleton] at hx
    subst hx
    obtain ⟨kv, hkv, hb⟩ := hne
    obtain ⟨kv', hkv', hb'⟩ := Memory.open_root.exists_reached hkv hb
    exact ⟨Memory.open_root, hroot ▸ Location.trimBack_getLast _, by simp,
      List.ne_nil_of_mem (List.mem_filter.2 ⟨hkv', hb'⟩), Nat.zero_le _⟩

variable {fs : List (String × Bytes)} {l : Listing} {P : List (String × Nat)} {D : String} {d : Nat}

/-- One step of a sound walk: listing the directory on top of its stack finds the files directly in it
and puts the directories of its listing on the stack; the walk stays sound, and its backlog shrinks. -/
theorem Sound.step (hkeys : (m.objects.map (·.1)).Nodup) (habs : ∀ kv ∈ m.objects, ¬ ['/', '/'] <:+: kv.1.toList)
    (hroot : root = Location.trimBack '/' source.path) (h : l.Sound m source destination root M fs)
    (hl : l.pending = P ++ [(D, d)]) (hd : d ≤ M) :
    ∃ es fs' l', m.list D = .ok es ∧ addEntries source destination (d + 1) es { l with pending := P } = .ok l' ∧
      l'.Sound m source destination root M fs' ∧ m.backlog root M l'.pending < m.backlog root M l.pending := by
  have hx : m.Stacked root M (D, d) := h.stacked _ (hl ▸ List.mem_append_right P (List.mem_singleton_self _))
  obtain ⟨kv, hkv⟩ := List.exists_mem_of_ne_nil _ hx.nonempty
  obtain ⟨hkvr, hb⟩ := List.mem_filter.1 hkv
  obtain ⟨es, hes, hfiles, hnd, hdirs⟩ :=
    Memory.list_spec hx.trimmed hkeys ⟨kv, (Memory.mem_reached.1 hkvr).1, hb⟩
  have hrel : ∀ e ∈ es, e.isDir = false →
      source.relativeTo e.path = some (String.ofList (Memory.restBelow root e.path)) := by
    intro e he hf
    obtain ⟨kv', hkv', rfl⟩ := List.mem_map.1 (hfiles.mem_iff.1 (List.mem_filter.2 ⟨he, by simp [hf]⟩))
    subst hroot
    exact Location.relativeTo_of_isBelow
      (hx.isOpen.isBelow_root (Memory.isBelow_of_isDirect (List.mem_filter.1 hkv').2))
  have hpart : (m.under root D).Perm (m.objects.filter (Memory.isDirect D ·.1) ++
      ((es.filter (·.isDir)).map (·.path)).flatMap (m.under root)) := hx.isOpen.under_perm hnd hdirs
  have hcov := h.covers
  rw [hl, List.flatMap_append, List.flatMap_singleton] at hcov
  have hds : ((es.filter (·.isDir)).map fun e => (e.path, d + 1)) =
      ((es.filter (·.isDir)).map (·.path)).map fun c => (c, d + 1) := by
    rw [List.map_map]; rfl
  refine ⟨es, fs ++ m.objects.filter (Memory.isDirect D ·.1), _, hes,
    @addEntries_eq source destination (d + 1) (fun k => String.ofList (Memory.restBelow root k)) es _ hrel,
    ⟨?_, ?_, ?_, ?_⟩, ?_⟩
  · -- the files found are those of the objects directly in the directory
    rw [List.map_append]
    refine h.found.append ((hfiles.map _).trans (List.Perm.of_eq ?_))
    rw [List.map_map]
    subst hroot
    rfl
  · dsimp only
    rw [hds, List.flatMap_append, List.flatMap_map]
    calc List.Perm ((fs ++ m.objects.filter (Memory.isDirect D ·.1)) ++
          (P.flatMap (fun x => m.under root x.1) ++ ((es.filter (·.isDir)).map (·.path)).flatMap (m.under root)))
          (fs ++ (P.flatMap (fun x => m.under root x.1) ++ (m.objects.filter (Memory.isDirect D ·.1) ++
            ((es.filter (·.isDir)).map (·.path)).flatMap (m.under root)))) := by
          rw [List.append_assoc]
          exact (List.perm_append_comm_assoc _ _ _).append_left fs
      List.Perm _ (fs ++ (P.flatMap (fun x => m.under root x.1) ++ m.under root D)) :=
          (hpart.symm.append_left _).append_left _
      List.Perm _ (m.reached root) := hcov
  · intro kv hkv
    rcases List.mem_append.1 hkv with hkv | hkv
    · exact h.levels kv hkv
    · have := Memory.count_of_isDirect (List.mem_filter.1 hkv).2
      have := hx.level
      simp only at this
      omega
  · intro x hx'
    rcases List.mem_append.1 hx' with hP | hds'
    · exact h.stacked x (hl ▸ List.mem_append_left _ hP)
    · obtain ⟨e, he, rfl⟩ := List.mem_map.1 hds'
      obtain ⟨⟨kv₀, hkv₀, hb₀, hd₀, hc₀⟩, hno⟩ := (hdirs e.path).1 (List.mem_map_of_mem he)
      show m.Stacked root M (e.path, d + 1)
      rw [← hc₀] at hno ⊢
      exact hx.stacked_childDir hd (habs kv₀ hkv₀) hkv₀ hb₀ hd₀ hno
  · dsimp only
    rw [hl, hds]
    exact Memory.backlog_listed_lt hpart hx.nonempty hd

/-- A sound walk with nothing left to list has found the children of all the objects it reaches, and is
within its bounds when it found at most `C` files. -/
theorem Sound.done {C : Nat} (h : l.Sound m source destination root M fs) (hnil : l.pending = []) :
    l.found.Perm ((m.reached root).map (childOf source destination)) ∧
      (l.found.length ≤ C → m.WithinBounds root M C) := by
  have hcov : fs.Perm (m.reached root) := by simpa [hnil] using h.covers
  refine ⟨h.found.trans (hcov.map _), fun hle => ⟨?_, fun kv hkv => h.levels kv (hcov.mem_iff.2 hkv)⟩⟩
  rw [← hcov.length_eq, ← List.length_map (childOf source destination), ← h.found.length_eq]
  exact hle

/-- A sound walk that found more than `C` files reaches more than `C` objects. -/
theorem Sound.not_withinBounds {C : Nat} (h : l.Sound m source destination root M fs) (hC : C < l.found.length) :
    ¬ m.WithinBounds root M C := fun hw => by
  have hfs : l.found.length ≤ (m.reached root).length := by
    rw [h.found.length_eq, List.length_map, ← h.covers.length_eq, List.length_append]
    omega
  have := hw.1
  omega

end Listing

/-- A sound walk with enough fuel ends as its bounds say: within them, with the children of the objects it
reaches; past them, with a failure of kind `other`. The store and the pipeline are left as they were. -/
theorem exec_enumerate_of_sound {m : Memory} {source destination : Location} {root : String} {slot : Nat}
    {id : TaskId} {p : Pipe} (hc : p.run.cancelled = false) (hm : p.service.storage.memoryAt slot = m)
    (hkeys : (m.objects.map (·.1)).Nodup) (habs : ∀ kv ∈ m.objects, ¬ ['/', '/'] <:+: kv.1.toList)
    (hroot : root = Location.trimBack '/' source.path) :
    ∀ fuel fs (l : Listing), l.Sound m source destination root p.service.worker.maxDepth fs →
      l.found.length ≤ p.service.worker.maxChildren →
      m.backlog root p.service.worker.maxDepth l.pending < fuel →
      ∃ found msg, found.Perm ((m.reached root).map (childOf source destination)) ∧
        exec (enumerate (.memory slot) source destination id fuel l) p =
          (if m.WithinBounds root p.service.worker.maxDepth p.service.worker.maxChildren then .ok found
            else .error (.error (.other msg)), p) := by
  intro fuel
  induction fuel with
  | zero => intro _ _ _ _ hb; omega
  | succ fuel ih =>
    intro fs l hs hle hb
    rcases List.eq_nil_or_concat l.pending with hnil | ⟨P, ⟨D, d⟩, hl⟩
    · -- nothing left to list: the files found are all the walk reaches
      obtain ⟨hperm, hwithin⟩ := hs.done hnil
      exact ⟨l.found, "", hperm, by rw [exec_enumerate_nil hnil, if_pos (hwithin hle)]⟩
    · rw [List.concat_eq_append] at hl
      have hx : m.Stacked root p.service.worker.maxDepth (D, d) :=
        hs.stacked _ (hl ▸ List.mem_append_right P (List.mem_singleton_self _))
      by_cases hd : d ≤ p.service.worker.maxDepth
      · obtain ⟨es, fs', l', hes, hadd, hs', hlt⟩ := hs.step hkeys habs hroot hl hd
        have hes' : p.service.storage.list (.memory slot) D = .ok es := by
          show (p.service.storage.memoryAt slot).list D = _
          rw [hm]
          exact hes
        rw [exec_enumerate_step hl hc hd hes' hadd]
        by_cases hC : l'.found.length > p.service.worker.maxChildren
        · -- too many files: the walk reaches more objects than that
          exact ⟨_, _, List.Perm.refl _, by rw [if_pos hC, if_neg (hs'.not_withinBounds hC)]⟩
        · rw [if_neg hC]
          exact ih fs' l' hs' (by omega) (by omega)
      · -- too deep: an object the walk reaches lies below the directory
        have hout := hx.not_withinBounds (C := p.service.worker.maxChildren) (by omega)
        exact ⟨_, _, List.Perm.refl _, by rw [exec_enumerate_deep hl hc (by omega), if_neg hout]⟩

end Pipe

end Conveyor
