import Conveyor.Proofs.Storage.Range
import Mathlib.Data.List.Infix
import Mathlib.Data.List.Nodup
import Mathlib.Data.List.TakeDrop
import Mathlib.Data.List.TakeWhile

/-!
# Listing a directory of a memory

A memory holds objects under paths; `Memory.list` lists what lies one level below a directory. Each object
below the directory gives an entry (`Memory.entryBelow`): the object itself when it lies directly in the
directory, else the directory of the listing it lies in (`Memory.childDir`). The entries are then added one by
one (`Memory.addEntry`): a file takes the place of a directory of its path, and a directory is added only if
its path is new.

- `Memory.foldl_addEntry`: adding entries keeps each path once, and keeps exactly the entries `Kept` names:
  all of them, but a directory whose path some file has.
- `Memory.entryBelow_eq`: the entry an object gives, said through `isBelow`, `isDirect` and `childDir`.
- `Memory.list_spec`: for a directory whose path does not end in a slash, with some object below it, in a
  memory whose paths are distinct, the listing succeeds; it holds each path once, its files are the objects
  directly in the directory, and its directories are the directories of the objects further below, but those
  that are objects themselves.
- `Memory.list_answers_as_full_scan`: for any path, the listing, which scans only the objects from the path's
  prefix to the first without it (`Memory.scanBelow_dropWhile`), answers as a scan of every object: `NotFound`
  exactly when no object starts with the prefix and none is at the path, else the files and directories one
  level below, in strictly increasing path order.

The paths of a directory tree are `AbsolutePath`s: a slash before each segment, no segment empty. Along one
path the directories it lies below are ordered (`Memory.isBelow_trans`, `Memory.isBelow_total`); an object
further below a directory lies below the listing's `childDir` of it (`Memory.isBelow_childDir`), the only
directory of the listing it lies below (`Memory.childDir_eq_of_isBelow`).
-/

namespace Conveyor

/-- A path written with a slash before each of its segments, none of them empty, as `/a/b`. -/
def AbsolutePath (cs : List Char) : Prop :=
  cs.head? = some '/' ∧ cs.getLast? ≠ some '/' ∧ ¬ ['/', '/'] <:+: cs

instance (cs : List Char) : Decidable (AbsolutePath cs) := inferInstanceAs (Decidable (_ ∧ _ ∧ _))

namespace Memory

/-! ## Adding entries to a listing -/

/-- What a listing keeps of a list of entries: each of them, except a directory whose path some file
of the list has. -/
def Kept (cs : List Entry) (e : Entry) : Prop :=
  e ∈ cs ∧ (e.isDir = true → ∀ e' ∈ cs, e'.path = e.path → e'.isDir = true)

/-- Entries a listing can be built from: no two files share a path, and a directory is named by its
path alone. -/
structure Candidates (cs : List Entry) : Prop where
  files_nodup : ((cs.filter (!·.isDir)).map (·.path)).Nodup
  dir_eq : ∀ e ∈ cs, e.isDir = true → e = Entry.directory e.path

theorem Candidates.of_append {xs ys : List Entry} (h : Candidates (xs ++ ys)) : Candidates xs where
  files_nodup := (((List.sublist_append_left xs ys).filter _).map _).nodup h.files_nodup
  dir_eq e he := h.dir_eq e (List.mem_append_left ys he)

/-- Two files of candidates with one path are the same file. -/
theorem Candidates.file_eq {cs : List Entry} (h : Candidates cs) {e e' : Entry} (he : e ∈ cs) (he' : e' ∈ cs)
    (hf : e.isDir = false) (hf' : e'.isDir = false) (hp : e.path = e'.path) : e = e' :=
  List.inj_on_of_nodup_map h.files_nodup (List.mem_filter.2 ⟨he, by simp [hf]⟩)
    (List.mem_filter.2 ⟨he', by simp [hf']⟩) hp

/-- Two directories of candidates with one path are the same directory. -/
theorem Candidates.dir_eq_of_path {cs : List Entry} (h : Candidates cs) {e e' : Entry} (he : e ∈ cs)
    (he' : e' ∈ cs) (hd : e.isDir = true) (hd' : e'.isDir = true) (hp : e.path = e'.path) : e = e' := by
  rw [h.dir_eq e he hd, h.dir_eq e' he' hd', hp]

section Adding

variable {xs : List Entry} {c : Entry} {acc : List Entry}

/-- What a longer list keeps of its first part, the first part keeps. -/
theorem Kept.of_append {ys : List Entry} {e : Entry} (hk : Kept (xs ++ ys) e) (he : e ∈ xs) : Kept xs e :=
  ⟨he, fun hd e' he' hp => hk.2 hd e' (List.mem_append_left _ he') hp⟩

/-- An entry a list keeps stays kept with one more entry, unless that one is a file of its path. -/
theorem Kept.append_single {e : Entry} (hk : Kept xs e) (hc : e.isDir = true → c.path = e.path → c.isDir = true) :
    Kept (xs ++ [c]) e := by
  refine ⟨List.mem_append_left _ hk.1, fun hd e' he' hp => ?_⟩
  rcases List.mem_append.1 he' with he' | he'
  · exact hk.2 hd e' he' hp
  · rw [List.mem_singleton.1 he'] at hp ⊢
    exact hc hd hp

/-- A directory whose path the listing already has changes nothing. -/
theorem addEntry_kept_of_dir (hc : Candidates (xs ++ [c])) (hmem : ∀ e, e ∈ acc ↔ Kept xs e) {x : Entry}
    (hx : x ∈ acc) (hxp : x.path = c.path) (hdir : c.isDir = true) : ∀ e, e ∈ acc ↔ Kept (xs ++ [c]) e := by
  have hxs := ((hmem x).1 hx).1
  refine fun e => ⟨fun he => ((hmem e).1 he).append_single fun _ _ => hdir, fun hk => ?_⟩
  rcases List.mem_append.1 hk.1 with he | he
  · exact (hmem e).2 (hk.of_append he)
  · -- the new directory is kept, so what has its path is a directory too: it is the one there
    rw [List.mem_singleton.1 he] at hk ⊢
    cases hxd : x.isDir
    · exact absurd (hk.2 hdir x (List.mem_append_left _ hxs) hxp) (by simp [hxd])
    · rw [← hc.dir_eq_of_path (List.mem_append_left _ hxs) (List.mem_append_right xs (List.mem_singleton_self c))
        hxd hdir hxp]
      exact hx

/-- A file takes the place of what the listing has at its path. -/
theorem addEntry_kept_of_file (hc : Candidates (xs ++ [c])) (hnd : (acc.map (·.path)).Nodup)
    (hmem : ∀ e, e ∈ acc ↔ Kept xs e) {x : Entry} (hx : x ∈ acc) (hxp : x.path = c.path) (hfile : c.isDir = false) :
    ((acc.map fun x => if (x.path == c.path) = true then c else x).map (·.path)).Nodup ∧
      ∀ e, e ∈ acc.map (fun x => if (x.path == c.path) = true then c else x) ↔ Kept (xs ++ [c]) e := by
  have hc_mem : c ∈ xs ++ [c] := List.mem_append_right xs (List.mem_singleton_self c)
  have hpaths : (acc.map fun x => if (x.path == c.path) = true then c else x).map (·.path) =
      acc.map (·.path) := by
    rw [List.map_map]
    refine List.map_congr_left fun x _ => ?_
    simp only [Function.comp_apply]
    split <;> simp_all
  refine ⟨by rw [hpaths]; exact hnd, fun e => ?_⟩
  simp only [List.mem_map]
  constructor
  · rintro ⟨y, hy, rfl⟩
    by_cases hyp : y.path = c.path
    · simp only [hyp, beq_self_eq_true, if_true]
      exact ⟨hc_mem, fun hd => absurd hd (by simp [hfile])⟩
    · simp only [hyp, beq_iff_eq, if_false]
      exact ((hmem y).1 hy).append_single fun _ hp => absurd hp.symm hyp
  · intro hk
    have hsame : e.path = c.path → e = c := fun hp => by
      cases hed : e.isDir
      · exact hc.file_eq hk.1 hc_mem hed hfile hp
      · exact absurd (hk.2 hed c hc_mem hp.symm) (by simp [hfile])
    by_cases hep : e.path = c.path
    · exact ⟨x, hx, by simp [hxp, hsame hep]⟩
    · rcases List.mem_append.1 hk.1 with he | he
      · exact ⟨e, (hmem e).2 (hk.of_append he), by simp [hep]⟩
      · exact absurd (congrArg Entry.path (List.mem_singleton.1 he)) hep

/-- An entry of a path the listing does not have is added at the end. -/
theorem addEntry_kept_of_new (hnd : (acc.map (·.path)).Nodup) (hmem : ∀ e, e ∈ acc ↔ Kept xs e)
    (hnew : ∀ y ∈ acc, y.path ≠ c.path) :
    ((acc ++ [c]).map (·.path)).Nodup ∧ ∀ e, e ∈ acc ++ [c] ↔ Kept (xs ++ [c]) e := by
  refine ⟨?_, fun e => ⟨fun he => ?_, fun hk => ?_⟩⟩
  · rw [List.map_append, List.nodup_append]
    refine ⟨hnd, List.nodup_singleton _, fun a ha b hb hab => ?_⟩
    obtain ⟨y, hy, rfl⟩ := List.mem_map.1 ha
    rw [List.map_singleton, List.mem_singleton] at hb
    exact hnew y hy (hab.trans hb)
  · rcases List.mem_append.1 he with he | he
    · exact ((hmem e).1 he).append_single fun _ hp => absurd hp.symm (hnew e he)
    · rw [List.mem_singleton.1 he]
      refine ⟨List.mem_append_right xs (List.mem_singleton_self c), fun hd e' he' hp => ?_⟩
      rcases List.mem_append.1 he' with he' | he'
      · -- a file of that path would have been kept
        cases hed : e'.isDir
        · exact absurd hp (hnew e' ((hmem e').2 ⟨he', fun h => by simp [hed] at h⟩))
        · rfl
      · rw [List.mem_singleton.1 he']; exact hd
  · rcases List.mem_append.1 hk.1 with he | he
    · exact List.mem_append_left _ ((hmem e).2 (hk.of_append he))
    · exact List.mem_append_right _ he

/-- Adding one entry keeps each path once, and exactly the entries `Kept` names. -/
theorem addEntry_kept (hc : Candidates (xs ++ [c])) (hnd : (acc.map (·.path)).Nodup)
    (hmem : ∀ e, e ∈ acc ↔ Kept xs e) :
    ((addEntry acc c).map (·.path)).Nodup ∧ ∀ e, e ∈ addEntry acc c ↔ Kept (xs ++ [c]) e := by
  unfold addEntry
  split
  · rename_i hany
    obtain ⟨x, hx, hxp⟩ := List.any_eq_true.1 hany
    have hxp : x.path = c.path := by simpa using hxp
    split
    · rename_i hdir
      exact ⟨hnd, addEntry_kept_of_dir hc hmem hx hxp hdir⟩
    · rename_i hfile
      exact addEntry_kept_of_file hc hnd hmem hx hxp (by simpa using hfile)
  · rename_i hany
    exact addEntry_kept_of_new hnd hmem fun y hy hp => hany (List.any_eq_true.2 ⟨y, hy, by simp [hp]⟩)

/-- Adding entries one by one keeps each path once, and exactly the entries `Kept` names. -/
theorem foldl_addEntry (ys : List Entry) : ∀ xs acc, Candidates (xs ++ ys) → (acc.map (·.path)).Nodup →
    (∀ e, e ∈ acc ↔ Kept xs e) →
    ((ys.foldl addEntry acc).map (·.path)).Nodup ∧ ∀ e, e ∈ ys.foldl addEntry acc ↔ Kept (xs ++ ys) e := by
  induction ys with
  | nil => intro xs acc _ hnd hmem; simpa using ⟨hnd, hmem⟩
  | cons y ys ih =>
    intro xs acc hc hnd hmem
    have hc' : Candidates (xs ++ [y] ++ ys) := by simpa using hc
    obtain ⟨hnd', hmem'⟩ := addEntry_kept hc'.of_append hnd hmem
    simpa using ih (xs ++ [y]) (addEntry acc y) hc' hnd' hmem'

end Adding

/-! ## Paths below a directory -/

/-- Whether a path lies below a directory. -/
def isBelow (dir path : String) : Bool := path.startsWith (dir ++ "/")

/-- What follows a directory and its slash in a path. -/
def restBelow (dir path : String) : List Char := path.toList.drop (dir.length + 1)

/-- Whether a path lies directly in a directory. -/
def isDirect (dir path : String) : Bool := isBelow dir path && !(restBelow dir path).contains '/'

/-- The directory directly in `dir` that a path below it lies in. -/
def childDir (dir path : String) : String :=
  dir ++ "/" ++ String.ofList ((restBelow dir path).takeWhile (· ≠ '/'))

theorem isBelow_iff {dir path : String} :
    isBelow dir path = true ↔ ∃ r, path.toList = dir.toList ++ '/' :: r := by
  have hs : "/".toList = ['/'] := rfl
  rw [isBelow, String.startsWith_string_iff, String.toList_append, hs]
  constructor
  · rintro ⟨r, hr⟩
    exact ⟨r, by rw [← hr]; simp⟩
  · rintro ⟨r, hr⟩
    exact ⟨r, by rw [hr]; simp⟩

theorem restBelow_of_eq {dir path : String} {r : List Char} (h : path.toList = dir.toList ++ '/' :: r) :
    restBelow dir path = r := by
  rw [restBelow, h, ← String.length_toList, show dir.toList ++ '/' :: r = (dir.toList ++ ['/']) ++ r by simp]
  exact List.drop_left' (by simp)

theorem isDirect_iff {dir path : String} :
    isDirect dir path = true ↔ ∃ r, path.toList = dir.toList ++ '/' :: r ∧ '/' ∉ r := by
  simp only [isDirect, Bool.and_eq_true, Bool.not_eq_true', List.contains_eq_mem, decide_eq_false_iff_not,
    isBelow_iff]
  constructor
  · rintro ⟨⟨r, hr⟩, hn⟩
    exact ⟨r, hr, by rwa [restBelow_of_eq hr] at hn⟩
  · rintro ⟨r, hr, hn⟩
    exact ⟨⟨r, hr⟩, by rwa [restBelow_of_eq hr]⟩

section Geometry

variable {a b c dir path : String}

/-- One path split at two of its slashes: at the same one, or one part is below the other. -/
theorem split_slash {a b r s : List Char} (h : a ++ '/' :: r = b ++ '/' :: s) :
    a = b ∧ r = s ∨ (∃ t, b = a ++ '/' :: t ∧ r = t ++ '/' :: s) ∨
      (∃ t, a = b ++ '/' :: t ∧ s = t ++ '/' :: r) := by
  rcases List.append_eq_append_iff.1 h with ⟨t, rfl, ht⟩ | ⟨t, rfl, ht⟩
  · cases t with
    | nil => simp only [List.append_nil, List.nil_append, List.cons.injEq, true_and] at ht ⊢; exact Or.inl ht
    | cons x t =>
      simp only [List.cons_append, List.cons.injEq] at ht
      obtain ⟨rfl, rfl⟩ := ht
      exact Or.inr (Or.inl ⟨t, rfl, rfl⟩)
  · cases t with
    | nil => simp only [List.append_nil, List.nil_append, List.cons.injEq, true_and] at ht ⊢; exact Or.inl ht.symm
    | cons x t =>
      simp only [List.cons_append, List.cons.injEq] at ht
      obtain ⟨rfl, rfl⟩ := ht
      exact Or.inr (Or.inr ⟨t, rfl, rfl⟩)

theorem toList_childDir : (childDir dir path).toList =
    dir.toList ++ '/' :: (restBelow dir path).takeWhile (fun c => !decide (c = '/')) := by
  simp [childDir]

theorem isBelow_trans (hab : isBelow a b) (hbc : isBelow b c) : isBelow a c := by
  obtain ⟨r, hr⟩ := isBelow_iff.1 hab
  obtain ⟨s, hs⟩ := isBelow_iff.1 hbc
  exact isBelow_iff.2 ⟨r ++ '/' :: s, by simp [hs, hr]⟩

/-- Two directories a path lies below are one, or one lies below the other. -/
theorem isBelow_total (ha : isBelow a path) (hb : isBelow b path) : a = b ∨ isBelow a b ∨ isBelow b a := by
  obtain ⟨r, hr⟩ := isBelow_iff.1 ha
  obtain ⟨s, hs⟩ := isBelow_iff.1 hb
  rcases split_slash (hr.symm.trans hs) with ⟨h, -⟩ | ⟨t, ht, -⟩ | ⟨t, ht, -⟩
  · exact Or.inl (String.toList_inj.1 h)
  · exact Or.inr (Or.inl (isBelow_iff.2 ⟨t, ht⟩))
  · exact Or.inr (Or.inr (isBelow_iff.2 ⟨t, ht⟩))

theorem count_lt_of_isBelow (h : isBelow a b) : a.toList.count '/' < b.toList.count '/' := by
  obtain ⟨r, hr⟩ := isBelow_iff.1 h
  rw [hr, List.count_append, List.count_cons_self]
  omega

theorem count_of_isDirect (h : isDirect a b) : b.toList.count '/' = a.toList.count '/' + 1 := by
  obtain ⟨r, hr, hs⟩ := isDirect_iff.1 h
  rw [hr, List.count_append, List.count_cons_self, List.count_eq_zero.2 hs]

theorem isDirect_childDir : isDirect dir (childDir dir path) :=
  isDirect_iff.2 ⟨_, toList_childDir, fun hm => by simpa using List.mem_takeWhile_imp hm⟩


theorem isBelow_of_isDirect (h : isDirect a b) : isBelow a b := by
  simp only [isDirect, Bool.and_eq_true] at h
  exact h.1

theorem not_isBelow_self : ¬ isBelow a a := fun h => (Nat.lt_irrefl _) (count_lt_of_isBelow h)

/-- The directory of the listing of `dir` a path further below lies in, and what follows it. -/
theorem eq_childDir_of_not_isDirect (h : isBelow dir path) (hd : isDirect dir path = false) :
    ∃ s, path.toList = (childDir dir path).toList ++ '/' :: s := by
  obtain ⟨r, hr⟩ := isBelow_iff.1 h
  have hslash : '/' ∈ r := by
    by_contra hn
    exact absurd (isDirect_iff.2 ⟨r, hr, hn⟩) (by simp [hd])
  cases hdw : r.dropWhile (fun c => !decide (c = '/')) with
  | nil =>
    have := List.dropWhile_eq_nil_iff.1 hdw '/' hslash
    simp at this
  | cons y s =>
    obtain rfl : y = '/' := by
      have := List.head_dropWhile_not (fun c => !decide (c = '/')) (show r.dropWhile _ ≠ [] by simp [hdw])
      simpa [hdw] using this
    refine ⟨s, ?_⟩
    rw [toList_childDir, restBelow_of_eq hr, hr, List.append_assoc, List.cons_append, ← hdw,
      List.takeWhile_append_dropWhile]

theorem isBelow_childDir (h : isBelow dir path) (hd : isDirect dir path = false) :
    isBelow (childDir dir path) path :=
  isBelow_iff.2 (eq_childDir_of_not_isDirect h hd)

/-- A path below a directory of the listing of `dir` lies in that directory of the listing. -/
theorem childDir_eq_of_isBelow (hc : isDirect dir c) (hk : isBelow c path) : childDir dir path = c := by
  obtain ⟨x, hx, hxs⟩ := isDirect_iff.1 hc
  obtain ⟨y, hy⟩ := isBelow_iff.1 hk
  have hpath : path.toList = dir.toList ++ '/' :: (x ++ '/' :: y) := by simp [hy, hx]
  have htw : (x ++ '/' :: y).takeWhile (fun c => !decide (c = '/')) = x := by
    rw [List.takeWhile_append_of_pos fun a ha => by
      simp only [Bool.not_eq_true', decide_eq_false_iff_not]
      rintro rfl
      exact hxs ha]
    simp
  rw [← String.toList_inj, toList_childDir, restBelow_of_eq hpath, htw, hx]

/-- A path below a directory of the listing of `dir` is not directly in `dir`. -/
theorem isDirect_eq_false_of_isBelow (hc : isDirect dir c) (hk : isBelow c path) : isDirect dir path = false := by
  have h₁ := count_of_isDirect hc
  have h₂ := count_lt_of_isBelow hk
  cases hd : isDirect dir path
  · rfl
  · have h₃ := count_of_isDirect hd
    omega

/-- A directory above one of the listing of `dir` is `dir` or above it. -/
theorem eq_or_isBelow_of_isDirect (hc : isDirect dir c) (ha : isBelow a c) : a = dir ∨ isBelow a dir := by
  obtain ⟨x, hx, hxs⟩ := isDirect_iff.1 hc
  obtain ⟨s, hs⟩ := isBelow_iff.1 ha
  rcases split_slash (hx.symm.trans hs) with ⟨h, -⟩ | ⟨t, -, ht⟩ | ⟨t, ht, -⟩
  · exact Or.inl (String.toList_inj.1 h).symm
  · exact absurd (ht ▸ List.mem_append_right t List.mem_cons_self) hxs
  · exact Or.inr (isBelow_iff.2 ⟨t, ht⟩)

/-- Below a path with no empty segment, a directory of a listing does not end in a slash. -/
theorem childDir_getLast (hk : ¬ ['/', '/'] <:+: path.toList) (h : isBelow dir path)
    (hd : isDirect dir path = false) : (childDir dir path).toList.getLast? ≠ some '/' := by
  obtain ⟨s, hs⟩ := eq_childDir_of_not_isDirect h hd
  intro hl
  obtain ⟨ys, hys⟩ := List.getLast?_eq_some_iff.1 hl
  exact hk ⟨ys, s, by rw [hs, hys]; simp⟩

end Geometry

/-- The entry an object gives the listing of a directory. -/
theorem entryBelow_eq (dir key : String) (data : Bytes) :
    entryBelow (dir ++ "/") key data =
      if isBelow dir key then
        if isDirect dir key then some (Entry.file key data.length) else some (Entry.directory (childDir dir key))
      else none := by
  unfold entryBelow
  by_cases hb : isBelow dir key = true
  · have hb' : key.startsWith (dir ++ "/") = true := hb
    obtain ⟨r, hr⟩ := isBelow_iff.1 hb
    have hlen : (dir ++ "/").length = dir.length + 1 := by rw [String.length_append]; rfl
    have hrest : key.toList.drop (dir ++ "/").length = r := by rw [hlen]; exact restBelow_of_eq hr
    simp only [hb', if_true, hb, hrest, List.span_eq_takeWhile_dropWhile]
    by_cases hd : '/' ∈ r
    · have hdir : isDirect dir key = false := by
        rw [Bool.eq_false_iff]
        intro h
        obtain ⟨r', hr', hn⟩ := isDirect_iff.1 h
        rw [hr] at hr'
        have hrr : r = r' := by simpa using hr'
        exact hn (hrr ▸ hd)
      obtain ⟨x, xs, hx⟩ : ∃ x xs, r.dropWhile (fun x => !decide (x = '/')) = x :: xs := by
        cases h : r.dropWhile (fun x => !decide (x = '/')) with
        | nil =>
          exact absurd (List.dropWhile_eq_nil_iff.1 h '/' hd) (by simp)
        | cons x xs => exact ⟨x, xs, rfl⟩
      simp [hx, hdir, childDir, restBelow_of_eq hr]
    · have hdir : isDirect dir key = true := isDirect_iff.2 ⟨r, hr, hd⟩
      have hx : r.dropWhile (fun x => !decide (x = '/')) = [] :=
        List.dropWhile_eq_nil_iff.2 fun x hx => by simpa using fun e : x = '/' => hd (e ▸ hx)
      simp [hx, hdir]
  · have hb' : key.startsWith (dir ++ "/") = false := Bool.eq_false_iff.2 hb
    simp only [hb', hb, Bool.false_eq_true, if_false]

/-- A path that does not end in a slash has none to trim. -/
theorem trimBack_of_getLast {s : String} (h : s.toList.getLast? ≠ some '/') : Location.trimBack '/' s = s := by
  unfold Location.trimBack
  cases hr : s.toList.reverse with
  | nil => rw [List.dropWhile_nil, ← hr, List.reverse_reverse, String.ofList_toList]
  | cons x xs =>
    have hx : x ≠ '/' := fun e => h (by rw [← List.head?_reverse, hr, e]; rfl)
    rw [List.dropWhile_cons_of_neg (by simpa using hx), ← hr, List.reverse_reverse, String.ofList_toList]

theorem dirPrefix_of_getLast {s : String} (h : s.toList.getLast? ≠ some '/') : dirPrefix s = s ++ "/" := by
  rw [dirPrefix, trimBack_of_getLast h]

/-! ## The listing of a directory -/

/-- The entries the objects of a memory give the listing of a directory, in the objects' order. -/
def candidates (m : Memory) (dir : String) : List Entry :=
  m.objects.filterMap fun kv => entryBelow (dirPrefix dir) kv.1 kv.2

variable {m : Memory} {dir : String}

theorem mem_candidates (hdir : dir.toList.getLast? ≠ some '/') {e : Entry} :
    e ∈ m.candidates dir ↔ ∃ kv ∈ m.objects, isBelow dir kv.1 = true ∧
      e = if isDirect dir kv.1 then Entry.file kv.1 kv.2.length else Entry.directory (childDir dir kv.1) := by
  simp only [candidates, List.mem_filterMap, dirPrefix_of_getLast hdir, entryBelow_eq]
  constructor
  · rintro ⟨kv, hkv, he⟩
    split at he
    · refine ⟨kv, hkv, ‹_›, ?_⟩
      split at he <;> (rename_i hd; simp only [Option.some.injEq] at he; simp [hd, he])
    · cases he
  · rintro ⟨kv, hkv, hb, rfl⟩
    refine ⟨kv, hkv, ?_⟩
    simp only [hb, if_true]
    split <;> rfl

/-- The files among the entries objects give are the objects directly in the directory. -/
theorem files_filterMap_entryBelow (os : List (String × Bytes)) :
    (os.filterMap fun kv => entryBelow (dir ++ "/") kv.1 kv.2).filter (!·.isDir) =
      (os.filter (isDirect dir ·.1)).map fun kv => Entry.file kv.1 kv.2.length := by
  induction os with
  | nil => rfl
  | cons kv os ih =>
    rw [List.filterMap_cons, entryBelow_eq]
    by_cases hb : isBelow dir kv.1
    · by_cases hd : isDirect dir kv.1
      · simp [hb, hd, ih, Entry.file]
      · simp [hb, hd, ih, Entry.directory]
    · have hd : isDirect dir kv.1 = false := by simp [isDirect, hb]
      simp [hb, hd, ih]

theorem files_candidates (hdir : dir.toList.getLast? ≠ some '/') :
    (m.candidates dir).filter (!·.isDir) =
      (m.objects.filter (isDirect dir ·.1)).map fun kv => Entry.file kv.1 kv.2.length := by
  rw [candidates, dirPrefix_of_getLast hdir, files_filterMap_entryBelow]

/-- In a memory whose paths are distinct, the entries of a directory can be listed. -/
theorem candidates_of_nodup (hdir : dir.toList.getLast? ≠ some '/') (hkeys : (m.objects.map (·.1)).Nodup) :
    Candidates (m.candidates dir) where
  files_nodup := by
    rw [files_candidates hdir, List.map_map]
    exact (List.filter_sublist.map _).nodup hkeys
  dir_eq e he hd := by
    obtain ⟨kv, -, -, rfl⟩ := (mem_candidates hdir).1 he
    cases hdk : isDirect dir kv.1 <;> simp [hdk, Entry.file, Entry.directory] at hd ⊢

theorem kept_of_file {cs : List Entry} {e : Entry} (he : e ∈ cs) (hf : e.isDir = false) : Kept cs e :=
  ⟨he, fun hd => absurd hd (by simp [hf])⟩

/-- A listing keeps some entry when its objects give one: that entry, or a file of its path. -/
theorem exists_kept_of_mem {cs : List Entry} {e : Entry} (he : e ∈ cs) : ∃ e', Kept cs e' := by
  by_cases hk : Kept cs e
  · exact ⟨e, hk⟩
  · simp only [Kept, not_and, not_forall] at hk
    obtain ⟨-, e', he', -, hd'⟩ := hk he
    exact ⟨e', kept_of_file he' (by simpa using hd')⟩

/-- A directory of the listing of `dir`: the directory of the listing of an object further below,
where no object is. -/
theorem kept_directory_iff (hdir : dir.toList.getLast? ≠ some '/') {c : String} :
    (∃ e, Kept (m.candidates dir) e ∧ e.isDir = true ∧ e.path = c) ↔
      (∃ kv ∈ m.objects, isBelow dir kv.1 ∧ isDirect dir kv.1 = false ∧ childDir dir kv.1 = c) ∧
        ∀ kv ∈ m.objects, kv.1 ≠ c := by
  constructor
  · rintro ⟨e, ⟨he, hk⟩, hd, rfl⟩
    obtain ⟨kv, hkv, hb, rfl⟩ := (mem_candidates hdir).1 he
    cases hdk : isDirect dir kv.1
    · simp only [hdk, Bool.false_eq_true, if_false] at hk ⊢
      refine ⟨⟨kv, hkv, hb, hdk, rfl⟩, fun kv' hkv' hc => ?_⟩
      have hdk' : isDirect dir kv'.1 := hc ▸ isDirect_childDir
      have hf : Entry.file kv'.1 kv'.2.length ∈ m.candidates dir :=
        (mem_candidates hdir).2 ⟨kv', hkv', isBelow_of_isDirect hdk', by simp [hdk']⟩
      simpa [Entry.file] using hk rfl _ hf hc
    · simp [hdk, Entry.file] at hd
  · rintro ⟨⟨kv, hkv, hb, hd, rfl⟩, hno⟩
    have he : Entry.directory (childDir dir kv.1) ∈ m.candidates dir :=
      (mem_candidates hdir).2 ⟨kv, hkv, hb, by simp [hd]⟩
    refine ⟨_, ⟨he, fun _ e' he' hp => ?_⟩, rfl, rfl⟩
    obtain ⟨kv', hkv', -, rfl⟩ := (mem_candidates hdir).1 he'
    cases hd' : isDirect dir kv'.1
    · simp [Entry.directory]
    · simp only [hd', if_true, Entry.file, Entry.directory] at hp
      exact absurd hp (hno kv' hkv')


theorem list_eq (m : Memory) (dir : String) :
    m.list dir =
      if ((m.candidates dir).foldl addEntry []).isEmpty && (m.get? dir).isNone then .error (.notFound dir)
      else .ok (((m.candidates dir).foldl addEntry []).mergeSort fun a b => decide (a.path ≤ b.path)) := by
  rw [list, scanBelow_dropWhile]
  rfl

/-- The listing of a directory, said through the objects. When some object lies below the directory,
the listing succeeds; its files are the objects directly in the directory, and its directories, each
once, are those of the listing the objects further below lie in, but those where an object is. -/
theorem list_spec (hdir : dir.toList.getLast? ≠ some '/') (hkeys : (m.objects.map (·.1)).Nodup)
    (hne : ∃ kv ∈ m.objects, isBelow dir kv.1) :
    ∃ es, m.list dir = .ok es ∧
      (es.filter (!·.isDir)).Perm ((m.objects.filter (isDirect dir ·.1)).map fun kv => Entry.file kv.1 kv.2.length) ∧
      ((es.filter (·.isDir)).map (·.path)).Nodup ∧
      ∀ c, c ∈ (es.filter (·.isDir)).map (·.path) ↔
        (∃ kv ∈ m.objects, isBelow dir kv.1 ∧ isDirect dir kv.1 = false ∧ childDir dir kv.1 = c) ∧
          ∀ kv ∈ m.objects, kv.1 ≠ c := by
  have hC := candidates_of_nodup hdir hkeys
  obtain ⟨hnd, hmem⟩ := foldl_addEntry (m.candidates dir) [] [] (by simpa using hC) (by simp)
    (fun e => by simp [Kept])
  simp only [List.nil_append] at hmem
  have hFne : (m.candidates dir).foldl addEntry [] ≠ [] := by
    obtain ⟨kv, hkv, hb⟩ := hne
    obtain ⟨e', hk⟩ := exists_kept_of_mem ((mem_candidates hdir).2 ⟨kv, hkv, hb, rfl⟩)
    exact List.ne_nil_of_mem ((hmem e').2 hk)
  have hsort := List.mergeSort_perm ((m.candidates dir).foldl addEntry []) fun a b => decide (a.path ≤ b.path)
  have hFnd := hnd.of_map
  refine ⟨((m.candidates dir).foldl addEntry []).mergeSort fun a b => decide (a.path ≤ b.path),
    by simp [list_eq, List.isEmpty_iff, hFne], ?_, ?_, fun c => ?_⟩
  · -- the files kept are all the files of the candidates
    rw [← files_candidates hdir]
    refine (hsort.filter _).trans ((List.perm_ext_iff_of_nodup (hFnd.filter _) (hC.files_nodup.of_map)).2
      fun e => ?_)
    simp only [List.mem_filter, hmem, Bool.not_eq_true']
    exact ⟨fun ⟨hk, hf⟩ => ⟨hk.1, hf⟩, fun ⟨he, hf⟩ => ⟨kept_of_file he hf, hf⟩⟩
  · exact ((hsort.filter _).map _).nodup_iff.2 ((List.filter_sublist.map _).nodup hnd)
  · rw [((hsort.filter _).map _).mem_iff, ← kept_directory_iff hdir]
    simp only [List.mem_map, List.mem_filter, hmem]
    exact ⟨fun ⟨e, ⟨hk, hd⟩, hp⟩ => ⟨e, hk, hd, hp⟩, fun ⟨e, hk, hd, hp⟩ => ⟨e, ⟨hk, hd⟩, hp⟩⟩


/-! ## The listing of any path -/

/-- The paths of a memory's objects are distinct. -/
theorem nodup_keys (m : Memory) : (m.objects.map (·.1)).Nodup :=
  List.pairwise_map.2 (m.ordered.imp String.ne_of_lt)

/-- No object is at a path exactly when none has it as its path. -/
theorem get?_eq_none_iff {p : String} : m.get? p = none ↔ ∀ kv ∈ m.objects, kv.1 ≠ p := by
  simp [get?, lookupKey, List.find?_eq_none]

/-- A path and the path trimmed of its trailing slashes have one prefix. -/
theorem dirPrefix_trimBack (p : String) : dirPrefix (Location.trimBack '/' p) = dirPrefix p :=
  dirPrefix_of_getLast (Location.trimBack_getLast p)

/-- A path directly in `dir` is the directory's prefix and a name with no slash. -/
theorem isDirect_iff_name {k : String} :
    isDirect dir k = true ↔ ∃ name, k.toList = (dir ++ "/").toList ++ name ∧ '/' ∉ name := by
  rw [isDirect_iff]
  simp [String.toList_append, show "/".toList = ['/'] from rfl]

/-- A path further below `dir`, and the directory of the listing it lies in: the prefix, a first segment with
no slash, a slash and the rest. -/
theorem childDir_iff_segment {k c : String} :
    (isBelow dir k = true ∧ isDirect dir k = false ∧ childDir dir k = c) ↔
      ∃ d rest, k.toList = (dir ++ "/").toList ++ d ++ '/' :: rest ∧ '/' ∉ d ∧
        c = String.ofList ((dir ++ "/").toList ++ d) := by
  have hpre : (dir ++ "/").toList = dir.toList ++ ['/'] := by
    simp [String.toList_append, show "/".toList = ['/'] from rfl]
  constructor
  · rintro ⟨hb, hd, rfl⟩
    obtain ⟨rest, hk⟩ := eq_childDir_of_not_isDirect hb hd
    refine ⟨(restBelow dir k).takeWhile (fun c => !decide (c = '/')), rest, ?_, fun hm => ?_, ?_⟩
    · rw [hk, toList_childDir, hpre]
      simp
    · simpa using List.mem_takeWhile_imp hm
    · rw [← String.toList_inj, toList_childDir, String.toList_ofList, hpre]
      simp
  · rintro ⟨d, rest, hk, hd, rfl⟩
    have hc : isDirect dir (String.ofList ((dir ++ "/").toList ++ d)) :=
      isDirect_iff_name.2 ⟨d, String.toList_ofList, hd⟩
    have hkc : isBelow (String.ofList ((dir ++ "/").toList ++ d)) k :=
      isBelow_iff.2 ⟨rest, by rw [hk, String.toList_ofList, List.append_assoc]⟩
    exact ⟨isBelow_trans (isBelow_of_isDirect hc) hkc, isDirect_eq_false_of_isBelow hc hkc,
      childDir_eq_of_isBelow hc hkc⟩

/-- What the listing of `dir` keeps: the objects directly in it, as files, and the directories of the
listing that objects further below lie in, where no object is. -/
theorem kept_candidates_iff (hdir : dir.toList.getLast? ≠ some '/') {e : Entry} :
    Kept (m.candidates dir) e ↔
      (∃ kv ∈ m.objects, isDirect dir kv.1 ∧ e = Entry.file kv.1 kv.2.length) ∨
      ∃ kv ∈ m.objects, (isBelow dir kv.1 ∧ isDirect dir kv.1 = false ∧ e = Entry.directory (childDir dir kv.1)) ∧
        ∀ kv' ∈ m.objects, kv'.1 ≠ e.path := by
  constructor
  · intro hk
    obtain ⟨kv, hkv, hb, he⟩ := (mem_candidates hdir).1 hk.1
    cases hd : isDirect dir kv.1
    · simp only [hd, Bool.false_eq_true, if_false] at he
      have hno := ((kept_directory_iff hdir).1 ⟨e, hk, by rw [he]; rfl, rfl⟩).2
      exact Or.inr ⟨kv, hkv, ⟨hb, hd, he⟩, hno⟩
    · simp only [hd, if_true] at he
      exact Or.inl ⟨kv, hkv, hd, he⟩
  · rintro (⟨kv, hkv, hd, rfl⟩ | ⟨kv, hkv, ⟨hb, hd, rfl⟩, hno⟩)
    · exact kept_of_file ((mem_candidates hdir).2 ⟨kv, hkv, isBelow_of_isDirect hd, by simp [hd]⟩) rfl
    · -- the directory kept at that path is this one
      obtain ⟨e', hk', hd', hp'⟩ := (kept_directory_iff hdir).2 ⟨⟨kv, hkv, hb, hd, rfl⟩, hno⟩
      have he' : e' = Entry.directory (childDir dir kv.1) := by
        rw [(candidates_of_nodup hdir m.nodup_keys).dir_eq e' hk'.1 hd', hp']
      exact he' ▸ hk'

/-- The full scan of `dir` holds each path once, and exactly the entries the listing keeps. -/
theorem foldl_candidates_kept (hdir : dir.toList.getLast? ≠ some '/') :
    (((m.candidates dir).foldl addEntry []).map (·.path)).Nodup ∧
      ∀ e, e ∈ (m.candidates dir).foldl addEntry [] ↔ Kept (m.candidates dir) e := by
  obtain ⟨hnd, hmem⟩ := foldl_addEntry (m.candidates dir) [] []
    (by simpa using candidates_of_nodup hdir m.nodup_keys) (by simp) (fun e => by simp [Kept])
  exact ⟨hnd, by simpa using hmem⟩

/-- The full scan of `dir` lists nothing exactly when no object lies below `dir`. -/
theorem foldl_candidates_eq_nil_iff (hdir : dir.toList.getLast? ≠ some '/') :
    (m.candidates dir).foldl addEntry [] = [] ↔ ∀ kv ∈ m.objects, isBelow dir kv.1 = false := by
  constructor
  · intro hnil kv hkv
    refine Bool.eq_false_iff.2 fun hb => ?_
    obtain ⟨e, hk⟩ := exists_kept_of_mem ((mem_candidates hdir).2 ⟨kv, hkv, hb, rfl⟩)
    have he := ((foldl_candidates_kept hdir).2 e).2 hk
    rw [hnil] at he
    exact List.not_mem_nil he
  · intro hno
    have hc : m.candidates dir = [] := List.filterMap_eq_nil_iff.2 fun kv hkv => by
      rw [dirPrefix_of_getLast hdir]
      exact entryBelow_eq_none.2 (hno kv hkv)
    rw [hc]
    rfl

/-- An entry of the full scan of `dir`, said through the paths of the objects: a file for each object whose
path is the directory's prefix and a name with no slash, and a directory for the prefix and the first segment
of each object further below, where no object is. -/
theorem mem_foldl_candidates_iff (hdir : dir.toList.getLast? ≠ some '/') {e : Entry} :
    e ∈ (m.candidates dir).foldl addEntry [] ↔
      (∃ kv ∈ m.objects, ∃ name, kv.1.toList = (dir ++ "/").toList ++ name ∧ '/' ∉ name ∧
        e = Entry.file kv.1 kv.2.length) ∨
      ∃ kv ∈ m.objects, ∃ d rest, kv.1.toList = (dir ++ "/").toList ++ d ++ '/' :: rest ∧ '/' ∉ d ∧
        e = Entry.directory (String.ofList ((dir ++ "/").toList ++ d)) ∧ ∀ kv' ∈ m.objects, kv'.1 ≠ e.path := by
  rw [(foldl_candidates_kept hdir).2, kept_candidates_iff hdir]
  apply or_congr
  · refine exists_congr fun kv => and_congr_right fun _ => ?_
    rw [isDirect_iff_name]
    constructor
    · rintro ⟨⟨name, hk, hn⟩, he⟩
      exact ⟨name, hk, hn, he⟩
    · rintro ⟨name, hk, hn, he⟩
      exact ⟨⟨name, hk, hn⟩, he⟩
  · refine exists_congr fun kv => and_congr_right fun _ => ⟨?_, ?_⟩
    · rintro ⟨⟨hb, hd, rfl⟩, hno⟩
      obtain ⟨d, rest, hk, hd', hc⟩ := childDir_iff_segment.1 ⟨hb, hd, rfl⟩
      exact ⟨d, rest, hk, hd', by rw [hc], hno⟩
    · rintro ⟨d, rest, hk, hd', rfl, hno⟩
      obtain ⟨hb, hd, hc⟩ := childDir_iff_segment.2 ⟨d, rest, hk, hd', rfl⟩
      exact ⟨⟨hb, hd, by rw [hc]⟩, hno⟩

/-- Entries with distinct paths, sorted by path, come in strictly increasing path order. -/
theorem pairwise_lt_mergeSort {es : List Entry} (h : (es.map (·.path)).Nodup) :
    (es.mergeSort fun a b => decide (a.path ≤ b.path)).Pairwise (fun a b => a.path < b.path) := by
  have hsorted := @List.pairwise_mergeSort Entry (fun a b => decide (a.path ≤ b.path))
    (fun a b c hab hbc => by simpa using String.le_trans (by simpa using hab) (by simpa using hbc))
    (fun a b => by simpa using String.le_total a.path b.path) es
  have hnd := ((List.mergeSort_perm es fun a b => decide (a.path ≤ b.path)).map (·.path)).nodup_iff.2 h
  refine List.Pairwise.imp₂ (fun a b hab hne => ?_) hsorted (List.pairwise_map.1 hnd)
  exact Classical.byContradiction fun hlt => hne (String.le_antisymm (of_decide_eq_true hab) (String.not_lt.1 hlt))

/-- Listing a path scans only the objects from its prefix on, up to the first without it, and answers as a
scan of every object would. It is `NotFound` exactly when no object's path starts with the prefix and no
object is at the path. Otherwise it lists, in strictly increasing path order, each object whose path is the
prefix and a name with no slash, as a file of its size, and for each object further below, the prefix and
the first segment after it, as a directory, unless an object is at that path. -/
theorem list_answers_as_full_scan (m : Memory) (p : String) :
    (m.list p = .error (.notFound p) ∧
        (∀ kv ∈ m.objects, kv.1.startsWith (dirPrefix p) = false) ∧ ∀ kv ∈ m.objects, kv.1 ≠ p) ∨
      ∃ es, m.list p = .ok es ∧
        ((∃ kv ∈ m.objects, kv.1.startsWith (dirPrefix p) = true) ∨ ∃ kv ∈ m.objects, kv.1 = p) ∧
        es.Pairwise (fun a b => a.path < b.path) ∧
        ∀ e, e ∈ es ↔
          (∃ kv ∈ m.objects, ∃ name, kv.1.toList = (dirPrefix p).toList ++ name ∧ '/' ∉ name ∧
            e = Entry.file kv.1 kv.2.length) ∨
          ∃ kv ∈ m.objects, ∃ d rest, kv.1.toList = (dirPrefix p).toList ++ d ++ '/' :: rest ∧ '/' ∉ d ∧
            e = Entry.directory (String.ofList ((dirPrefix p).toList ++ d)) ∧ ∀ kv' ∈ m.objects, kv'.1 ≠ e.path := by
  set dir := Location.trimBack '/' p
  have hdir : dir.toList.getLast? ≠ some '/' := Location.trimBack_getLast p
  have hlist : m.list p = if ((m.candidates dir).foldl addEntry []).isEmpty && (m.get? p).isNone
      then .error (.notFound p)
      else .ok (((m.candidates dir).foldl addEntry []).mergeSort fun a b => decide (a.path ≤ b.path)) := by
    rw [list_eq, candidates, candidates, dirPrefix_trimBack]
  have hnil := foldl_candidates_eq_nil_iff (m := m) hdir
  by_cases hnf : (∀ kv ∈ m.objects, kv.1.startsWith (dirPrefix p) = false) ∧ ∀ kv ∈ m.objects, kv.1 ≠ p
  · refine Or.inl ⟨?_, hnf⟩
    rw [hlist, hnil.2 hnf.1, get?_eq_none_iff.2 hnf.2]
    rfl
  · refine Or.inr ⟨_, ?_, ?_, pairwise_lt_mergeSort (foldl_candidates_kept hdir).1,
      fun e => List.mem_mergeSort.trans (mem_foldl_candidates_iff hdir)⟩
    · rw [hlist, if_neg]
      intro h
      simp only [Bool.and_eq_true, List.isEmpty_iff, Option.isNone_iff_eq_none] at h
      exact hnf ⟨hnil.1 h.1, get?_eq_none_iff.1 h.2⟩
    · simp only [not_and_or, not_forall, Bool.not_eq_false, ne_eq, Decidable.not_not] at hnf
      rcases hnf with ⟨kv, hkv, hs⟩ | ⟨kv, hkv, hk⟩
      · exact Or.inl ⟨kv, hkv, hs⟩
      · exact Or.inr ⟨kv, hkv, hk⟩

end Memory

end Conveyor
