import Conveyor.Proofs.Uri.ReadBack
import Conveyor.Cli.Run

/-!
# Paths set on locations read back

A transfer location is read and written with a URL library (`UrlLibrary`), which is not fixed here. What the
proofs take from the library is what the URL standard says its reader, its path setter and its writer do on the
locations a transfer writes, and what its `file:` URL of a local path is (`UrlLibrary.Whatwg`). Those locations are
written under a root (`Root`): `scheme://host` for a scheme that is not special and a host written as it is, or
`file://` with an empty host, whose storage system is `file`.

* A path set on a location under a root, or joined to it, gives a location whose text reads back under the same
  root, on the same system, with the path percent-encoded (`Locator.withPath_reads_back`). It is the path set only
  when no character of it is one a path encodes: a space, for one, reads back as `%20`.
* The `file:` location the command line makes of an absolute local path reads back with the path's names, each
  written as a segment (`Locator.toUri_reads_back`); that is the local path only when the path is its names joined
  by slashes and no character of a name is one a segment encodes.
* `written_paths_read_back` puts the three together for any library that keeps the laws, and the library of a
  running node keeps them (`UrlLibrary.standard_whatwg`).
-/

namespace Conveyor
open Uri

/-! ## Roots -/

/-- Where a storage location is written: `scheme://host` for a scheme that is not special and a host written as
it is, or `file://` with an empty host. -/
inductive Root where
  | named (scheme host : String) (hs : schemeText scheme = true) (hk : SchemeKind.of scheme = .other)
      (hh : plainHost host = true)
  | file

namespace Root

/-- The text a location under the root starts with. -/
def text : Root → String
  | named s h .. => s ++ "://" ++ h
  | file => "file://"

def scheme : Root → String
  | named s .. => s
  | file => "file"

def host : Root → Option String
  | named _ h .. => some h
  | file => none

/-- The storage system a location under the root names: its host, or `file`. -/
def system : Root → String
  | named _ h .. => h
  | file => "file"

/-- A path that reads back once set under the root: it starts with a slash and its names read back as written;
under `file://` it also holds no backslash, which separates names there, and keeps its start. -/
def settable : Root → List Char → Bool
  | named .., P => P.head? == some '/' && plainPath P
  | file, P => P.head? == some '/' && plainPath P && !P.contains '\\' && fileStart P

/-- A path as a location under the root writes it. -/
def written : Root → List Char → Bool
  | named .., W => writtenPath W
  | file, W => writtenPath W && !W.contains '\\' && fileStart W

theorem head_of_settable {r : Root} {P : List Char} (h : r.settable P = true) : P.head? = some '/' := by
  cases r <;> simp_all [settable]

theorem settable_of_written {r : Root} {W : List Char} (h : r.written W = true) : r.settable W = true := by
  cases r <;> simp_all [written, settable, writtenPath_iff]

theorem writtenPath_of_written {r : Root} {W : List Char} (h : r.written W = true) : writtenPath W = true := by
  cases r <;> simp_all [Root.written]

theorem backslash_not_mem_encodeText {cs : List Char} (h : '\\' ∉ cs) : '\\' ∉ encodeText .path cs := fun hm => by
  obtain ⟨c, hc, hs⟩ := List.mem_flatMap.1 hm
  exact h ((eq_of_mem_encodeChar ⟨by decide, by decide⟩ hs).2 ▸ hc)

/-- A written text starts with a slash only if the text does. -/
theorem head_encodeText_ne_slash {cs : List Char} (h : cs.head? ≠ some '/') :
    (encodeText .path cs).head? ≠ some '/' := by
  cases cs with
  | nil => simp [encodeText]
  | cons c cs =>
    obtain ⟨d, ds, hd⟩ := List.exists_cons_of_ne_nil (encodeChar_ne_nil .path c)
    have hne : d ≠ '/' := fun e => h (by simp [eq_slash_of_mem_encodeChar (e ▸ hd ▸ List.mem_cons_self)])
    simp [encodeText, hd, hne]

/-- A path of a `file:` location that keeps its start keeps it once written. -/
theorem fileStart_encodeText {P : List Char} (hhead : P.head? = some '/') (h : fileStart P = true) :
    fileStart (encodeText .path P) = true := by
  obtain ⟨T, rfl⟩ := List.head?_eq_some_iff.1 hhead
  simp only [fileStart, encodeText_cons_slash, List.drop_succ_cons, List.drop_zero, encodeText_encodeText,
    Bool.and_eq_true, bne_iff_ne, ne_eq] at h ⊢
  exact ⟨head_encodeText_ne_slash h.1, h.2⟩

/-- A path that reads back once set is, written, a path as a location under the root writes it. -/
theorem written_encodeText {r : Root} {P : List Char} (h : r.settable P = true) :
    r.written (encodeText .path P) = true := by
  cases r with
  | named =>
    simp only [settable, written, Bool.and_eq_true, beq_iff_eq] at h ⊢
    exact writtenPath_encodeText h.1 h.2
  | file =>
    simp only [settable, written, Bool.and_eq_true, beq_iff_eq] at h ⊢
    obtain ⟨⟨⟨hhead, hplain⟩, hbs⟩, hstart⟩ := h
    refine ⟨⟨writtenPath_encodeText hhead hplain, ?_⟩, fileStart_encodeText hhead hstart⟩
    simpa using backslash_not_mem_encodeText (by simpa using hbs)

/-- A path is its trimmed path followed by the slashes trimmed off. -/
theorem trimBack_append {W : List Char} :
    ∃ S, W = (Location.trimBack '/' (String.ofList W)).toList ++ S ∧ ∀ c ∈ S, c = '/' := by
  refine ⟨(W.reverse.takeWhile (· == '/')).reverse, ?_, fun c hc => ?_⟩
  · simp only [Location.trimBack, String.toList_ofList]
    rw [← List.reverse_append, List.takeWhile_append_dropWhile, List.reverse_reverse]
  · simpa using List.all_eq_true.1 List.all_takeWhile c (List.mem_reverse.1 hc)

theorem plainPath_of_append_slashes {T S : List Char} (hS : ∀ c ∈ S, c = '/') (h : plainPath (T ++ S) = true) :
    plainPath T = true := by
  cases S with
  | nil => simpa using h
  | cons c S =>
    rw [hS c List.mem_cons_self, plainPath_append_slash, Bool.and_eq_true] at h
    exact h.1

theorem plainPath_of_slash {R : List Char} (h : plainPath ('/' :: R) = true) : plainPath R = true := by
  rw [← List.nil_append ('/' :: R), plainPath_append_slash, Bool.and_eq_true] at h
  exact h.2

/-- A `file:` path that keeps its start keeps it when the slashes it ends in give way to a slash and more. -/
theorem fileStart_join {T S : List Char} (hS : ∀ c ∈ S, c = '/') (hT : T ≠ [])
    (hW : fileStart ('/' :: (T ++ S)) = true) (R : List Char) : fileStart ('/' :: (T ++ '/' :: R)) = true := by
  obtain ⟨t, T', rfl⟩ := List.exists_cons_of_ne_nil hT
  have hA : encodeText .path (t :: T') ≠ [] := by simp [encodeText, encodeChar_ne_nil]
  have hSenc : (encodeText .path S).head? = none ∨ (encodeText .path S).head? = some '/' := by
    rw [encodeText_of_pathSafe fun c hc => by rw [hS c hc]; decide]
    cases S with
    | nil => exact .inl rfl
    | cons c S => exact .inr (by rw [hS c List.mem_cons_self]; rfl)
  simp only [fileStart, List.drop_succ_cons, List.drop_zero, List.cons_append, Bool.and_eq_true, bne_iff_ne,
    ne_eq, List.head?_cons, Bool.not_eq_eq_eq_not, Bool.not_true] at hW ⊢
  rw [← List.cons_append, encodeText_append, encodeText_cons_slash] at ⊢
  rw [← List.cons_append, encodeText_append] at hW
  exact ⟨hW.1, (isDrive_take_append hA (Or.inr rfl) hSenc).trans hW.2⟩

/-- Joining a relative path that reads back to a written path gives a path that reads back: the written path
without the slashes it ends in, a slash, and the relative path. -/
theorem settable_join {r : Root} {W R : List Char} (hW : r.written W = true) (hR : r.settable ('/' :: R) = true) :
    r.settable ((Location.trimBack '/' (String.ofList W)).toList ++ '/' :: R) = true := by
  obtain ⟨S, hS, hslash⟩ := trimBack_append (W := W)
  have hlast := Location.trimBack_getLast (String.ofList W)
  generalize (Location.trimBack '/' (String.ofList W)).toList = T at hS hlast ⊢
  subst hS
  have hWs := settable_of_written hW
  have hhead := head_of_settable hWs
  rcases T with _ | ⟨t, T'⟩
  · simpa using hR
  have ht : t = '/' := by simpa using hhead
  subst ht
  have hT' : T' ≠ [] := by
    rintro rfl
    simp at hlast
  cases r with
  | named =>
    simp only [settable, Bool.and_eq_true, beq_iff_eq] at hWs hR ⊢
    refine ⟨rfl, ?_⟩
    rw [plainPath_append_slash, plainPath_of_append_slashes hslash hWs.2, plainPath_of_slash hR.2]
    rfl
  | file =>
    simp only [settable, Bool.and_eq_true, beq_iff_eq] at hWs hR ⊢
    obtain ⟨⟨⟨-, hplainW⟩, hbsW⟩, hstartW⟩ := hWs
    obtain ⟨⟨⟨-, hplainR⟩, hbsR⟩, -⟩ := hR
    have hbsW' : '\\' ∉ ('/' :: T') ++ S := by simpa using hbsW
    have hbsR' : '\\' ∉ '/' :: R := by simpa using hbsR
    refine ⟨⟨⟨rfl, ?_⟩, ?_⟩, fileStart_join hslash hT' hstartW R⟩
    · rw [plainPath_append_slash, plainPath_of_append_slashes hslash hplainW, plainPath_of_slash hplainR]
      rfl
    · have hbs : '\\' ∉ ('/' :: T') ++ '/' :: R := by
        simp only [List.mem_append, not_or] at hbsW' ⊢
        exact ⟨hbsW'.1, hbsR'⟩
      simpa using hbs

end Root

/-! ## Names written as segments

A local path is made a `file:` location by writing each of its names with the set of a segment of a special
location, which holds `%`, `/` and `\\`: a written name never spells `.` or `..` unless the name does, and never
starts a drive letter unless the name does. -/

/-- A character that lowers to one that is no lower-case letter is that character. -/
theorem eq_of_toLower {c d : Char} (hd : d.toNat < 97 ∨ 122 < d.toNat) (h : c.toLower = d) : c = d := by
  unfold Char.toLower at h
  split at h
  · rename_i hc
    subst h
    exfalso
    have h32 : ('a'.val - 'A'.val).toNat = 32 := by decide
    have hlt : c.val.toNat ≤ 90 := by simpa [UInt32.le_iff_toNat_le] using hc.2
    have hge : 65 ≤ c.val.toNat := by simpa [UInt32.le_iff_toNat_le] using hc.1
    rcases hd with hd | hd <;> simp only [Char.toNat, UInt32.toNat_add, h32] at hd <;> omega
  · exact h

/-- Two hexadecimal digits that lower alike are one digit. -/
theorem hexUpper_toLower_inj : ∀ n < 16, ∀ m < 16, (hexUpper n).toLower = (hexUpper m).toLower → n = m := by
  decide

/-- A segment written with the special segment set never reads, lowered, as `%2e` and more: `%` is written
only as the start of a byte the set holds, and `.` is no such byte. -/
theorem lower_encodeText_segment_ne (cs rest : List Char) :
    (encodeText .specialPathSegment cs).map Char.toLower ≠ '%' :: '2' :: 'e' :: rest := by
  intro h
  cases cs with
  | nil => simp [encodeText] at h
  | cons c cs =>
    simp only [encodeText, List.flatMap_cons, List.map_append] at h
    rcases encodeChar_cases .specialPathSegment c with ⟨hh, he⟩ | ⟨-, b, r, hb, hh, he⟩
    · rw [he, List.map_singleton, List.singleton_append, List.cons.injEq] at h
      rw [eq_of_toLower (by decide) h.1] at hh
      exact absurd hh (by decide)
    · rw [he] at h
      simp only [List.cons_append, List.map_cons, List.cons.injEq] at h
      obtain ⟨-, h2, he, -⟩ := h
      have h16 := hexUpper_toLower_inj (b / 16) (by omega) 2 (by decide) (h2.trans (by decide))
      have h14 := hexUpper_toLower_inj (b % 16) (by omega) 14 (by decide) (he.trans (by decide))
      have hb46 : b = 46 := by omega
      subst hb46
      exact absurd hh (by decide)

/-- A segment written with the special segment set that reads, lowered, as `.` and more starts with `.`. -/
theorem lower_encodeText_segment_dot {cs rest : List Char}
    (h : (encodeText .specialPathSegment cs).map Char.toLower = '.' :: rest) :
    ∃ cs', cs = '.' :: cs' ∧ (encodeText .specialPathSegment cs').map Char.toLower = rest := by
  cases cs with
  | nil => simp [encodeText] at h
  | cons c cs =>
    simp only [encodeText, List.flatMap_cons, List.map_append] at h
    rcases encodeChar_cases .specialPathSegment c with ⟨-, he⟩ | ⟨-, b, r, -, -, he⟩
    · rw [he, List.map_singleton, List.singleton_append, List.cons.injEq] at h
      exact ⟨cs, by rw [eq_of_toLower (by decide) h.1], h.2⟩
    · rw [he] at h
      simp only [List.cons_append, List.map_cons, List.cons.injEq] at h
      exact absurd h.1 (by decide)

theorem lower_encodeText_segment_nil {cs : List Char}
    (h : (encodeText .specialPathSegment cs).map Char.toLower = []) : cs = [] :=
  encodeText_eq_nil (List.map_eq_nil_iff.1 h)

/-- A name written as a segment of a special location reads as `..` only when it is `..`. -/
theorem isDoubleDot_encodeText_segment {n : List Char} (h : isDoubleDot (encodeText .specialPathSegment n) = true) :
    n = ['.', '.'] := by
  have hdots : "..".toList = ['.', '.'] ∧ "%2e%2e".toList = ['%', '2', 'e', '%', '2', 'e'] ∧
      "%2e.".toList = ['%', '2', 'e', '.'] ∧ ".%2e".toList = ['.', '%', '2', 'e'] := by decide
  simp only [isDoubleDot, Bool.or_eq_true, beq_iff_eq, ← String.toList_inj, String.toList_ofList, hdots] at h
  rcases h with ((h | h) | h) | h
  · obtain ⟨n', rfl, h1⟩ := lower_encodeText_segment_dot h
    obtain ⟨n'', rfl, h2⟩ := lower_encodeText_segment_dot h1
    rw [lower_encodeText_segment_nil h2]
  · exact absurd h (lower_encodeText_segment_ne _ _)
  · exact absurd h (lower_encodeText_segment_ne _ _)
  · obtain ⟨n', rfl, h1⟩ := lower_encodeText_segment_dot h
    exact absurd h1 (lower_encodeText_segment_ne _ _)

/-- A name written as a segment of a special location reads as `.` only when it is `.`. -/
theorem isSingleDot_encodeText_segment {n : List Char} (h : isSingleDot (encodeText .specialPathSegment n) = true) :
    n = ['.'] := by
  have hdot : ".".toList = ['.'] ∧ "%2e".toList = ['%', '2', 'e'] := by decide
  simp only [isSingleDot, Bool.or_eq_true, beq_iff_eq, ← String.toList_inj, String.toList_ofList, hdot] at h
  rcases h with h | h
  · obtain ⟨n', rfl, h1⟩ := lower_encodeText_segment_dot h
    rw [lower_encodeText_segment_nil h1]
  · exact absurd h (lower_encodeText_segment_ne _ _)

theorem encodeText_segment_ne_dot {n : List Char} (h : n ≠ ['.']) : encodeText .specialPathSegment n ≠ ['.'] :=
  fun e => h (isSingleDot_encodeText_segment (by rw [e]; decide))

/-- A name other than `.` and `..`, written as a segment of a special location, reads back as written. -/
theorem plainName_segment {n : List Char} (h1 : n ≠ ['.']) (h2 : n ≠ ['.', '.']) :
    plainName (encodeText .specialPathSegment n) = true := by
  have hsafe : ∀ c ∈ encodeText .specialPathSegment n, pathSafe c = true :=
    fun c hc => pathSafe_of_mem_encodeText_of (by decide) hc
  refine plainName_iff.2 ⟨fun c hc => ne_breaks_of_gt (gt_of_pathSafe (hsafe c hc)), ?_, ?_⟩ <;>
    rw [encodeText_of_pathSafe hsafe]
  · cases hd : isDoubleDot (encodeText .specialPathSegment n)
    · rfl
    · exact absurd (isDoubleDot_encodeText_segment hd) h2
  · cases hd : isSingleDot (encodeText .specialPathSegment n)
    · rfl
    · exact absurd (isSingleDot_encodeText_segment hd) h1

/-- A text that does not start with a drive letter does not start with one once written. -/
theorem isDrive_take_encodeText {set : EncodeSet} {cs : List Char} (h : isDrive (cs.take 2) = false) :
    isDrive ((encodeText set cs).take 2) = false := by
  cases cs with
  | nil => rfl
  | cons a cs =>
    simp only [encodeText, List.flatMap_cons] at h ⊢
    rcases encodeChar_cases set a with ⟨-, ha⟩ | ⟨-, b, r, -, -, ha⟩
    · rw [ha]
      cases cs with
      | nil => rfl
      | cons c cs =>
        simp only [List.flatMap_cons]
        rcases encodeChar_cases set c with ⟨-, hc⟩ | ⟨-, b, r, -, -, hc⟩
        · rw [hc]
          simpa using h
        · rw [hc]
          simp [isDrive]
    · rw [ha]
      rfl

/-! ## Local paths -/

theorem toList_of_startsWith {f : String} (hf : f.startsWith "/" = true) : ∃ T, f.toList = '/' :: T := by
  simp only [String.startsWith_string_iff, String.reduceToList] at hf
  obtain ⟨T, hT⟩ := hf
  exact ⟨T, hT.symm⟩

/-- The names of an absolute local path: what lies between its slashes, empty names and `.` dropped. -/
theorem components_of_head {f : String} {T : List Char} (hf : f.toList = '/' :: T) :
    (components f).map String.toList = (T.splitOn '/').filter fun n => !n.isEmpty && n != ['.'] := by
  simp [components, hf, splitOn_cons_slash, List.map_map, Function.comp_def]

/-- A name of an absolute local path is not empty, not `.`, and holds no slash. -/
theorem name_of_mem_components {f : String} {T : List Char} (hf : f.toList = '/' :: T) {n : List Char}
    (hn : n ∈ (components f).map String.toList) : n ≠ [] ∧ n ≠ ['.'] ∧ '/' ∉ n := by
  rw [components_of_head hf, List.mem_filter] at hn
  obtain ⟨hs, hg⟩ := hn
  simp only [Bool.and_eq_true, Bool.not_eq_eq_eq_not, Bool.not_true, List.isEmpty_eq_false_iff, bne_iff_ne,
    ne_eq] at hg
  exact ⟨hg.1, hg.2, not_mem_of_mem_splitOn hs⟩

/-- Names that are not empty, not `.`, and hold no slash are the names of the path they make. -/
theorem filter_splitOn_intercalate {ms : List (List Char)} (h : ∀ m ∈ ms, m ≠ [] ∧ m ≠ ['.'] ∧ '/' ∉ m) :
    ((['/'].intercalate ms).splitOn '/').filter (fun n => !n.isEmpty && n != ['.']) = ms := by
  by_cases hne : ms = []
  · subst hne
    rfl
  · rw [List.splitOn_intercalate '/' (fun m hm => (h m hm).2.2) hne, List.filter_eq_self]
    intro m hm
    simp [(h m hm).1, (h m hm).2.1]

theorem filePath_toList (f : String) : (filePath f).toList =
    '/' :: ['/'].intercalate (((components f).map String.toList).map (encodeText .specialPathSegment)) := by
  simp [filePath, List.map_map, Function.comp_def]

/-- A path made of names that read back reads back. -/
theorem plainPath_cons_intercalate {ms : List (List Char)} (h : ∀ m ∈ ms, '/' ∉ m ∧ plainName m = true) :
    plainPath ('/' :: ['/'].intercalate ms) = true := by
  refine List.all_eq_true.2 fun seg hseg => ?_
  rw [splitOn_cons_slash] at hseg
  rcases List.mem_cons.1 hseg with rfl | hseg
  · decide
  by_cases hne : ms = []
  · subst hne
    rw [List.mem_singleton.1 hseg]
    decide
  · rw [List.splitOn_intercalate '/' (fun m hm => (h m hm).1) hne] at hseg
    exact (h seg hseg).2

/-- A `file:` path made of names, the first of which is no drive letter, keeps its start. -/
theorem fileStart_intercalate {ms : List (List Char)}
    (hms : ∀ m ∈ ms, m ≠ [] ∧ '/' ∉ m ∧ ∀ c ∈ m, pathSafe c = true)
    (hdrive : ∀ m ∈ ms.head?, isDrive (m.take 2) = false) : fileStart ('/' :: ['/'].intercalate ms) = true := by
  have hsafe : ∀ c ∈ ['/'].intercalate ms, pathSafe c = true :=
    forall_mem_intercalate_slash (by decide) fun m hm => (hms m hm).2.2
  simp only [fileStart, List.drop_succ_cons, List.drop_zero, encodeText_of_pathSafe hsafe, Bool.and_eq_true,
    bne_iff_ne, ne_eq, Bool.not_eq_eq_eq_not, Bool.not_true]
  cases ms with
  | nil => exact ⟨by simp, rfl⟩
  | cons m rest =>
    obtain ⟨hne, hslash, -⟩ := hms m List.mem_cons_self
    obtain ⟨c, cs, rfl⟩ := List.exists_cons_of_ne_nil hne
    obtain ⟨X, hX, hXh⟩ : ∃ X, ['/'].intercalate ((c :: cs) :: rest) = (c :: cs) ++ X ∧
        (X.head? = none ∨ X.head? = some '/') := by
      cases rest with
      | nil => exact ⟨[], by simp, .inl rfl⟩
      | cons m' rest => exact ⟨'/' :: ['/'].intercalate (m' :: rest), by rw [List.intercalate_cons_cons]; simp, .inr rfl⟩
    rw [hX]
    refine ⟨fun e => hslash ?_, ?_⟩
    · rw [List.cons_append, List.head?_cons, Option.some.injEq] at e
      exact e ▸ List.mem_cons_self
    rw [isDrive_take_append (Y := []) (List.cons_ne_nil c cs) hXh (.inl rfl), List.append_nil]
    exact hdrive _ rfl

/-- The path of the `file:` location of an absolute local path, none of whose names is `..` and whose first name
is no drive letter, is a path as a `file:` location writes it. -/
theorem written_filePath {f : String} (hf : f.startsWith "/" = true) (hdots : ".." ∉ components f)
    (hdrive : ∀ n ∈ (components f).head?, isDrive (n.toList.take 2) = false) :
    Root.file.written (filePath f).toList = true := by
  obtain ⟨T, hT⟩ := toList_of_startsWith hf
  have hnames : ∀ n ∈ (components f).map String.toList, n ≠ [] ∧ n ≠ ['.'] ∧ n ≠ ['.', '.'] ∧ '/' ∉ n := by
    intro n hn
    obtain ⟨h1, h2, h3⟩ := name_of_mem_components hT hn
    obtain ⟨m, hm, rfl⟩ := List.mem_map.1 hn
    refine ⟨h1, h2, fun e => hdots ?_, h3⟩
    rwa [show m = ".." from String.toList_inj.1 (e.trans (by decide))] at hm
  have hfirst : ∀ m ∈ (((components f).map String.toList).map (encodeText .specialPathSegment)).head?,
      isDrive (m.take 2) = false := fun m hm => by
    rw [List.head?_map, List.head?_map, Option.map_map, Option.mem_def, Option.map_eq_some_iff] at hm
    obtain ⟨n, hn, rfl⟩ := hm
    exact isDrive_take_encodeText (hdrive n hn)
  rw [filePath_toList]
  generalize (components f).map String.toList = ns at hnames hfirst
  have hms : ∀ m ∈ ns.map (encodeText .specialPathSegment), m ≠ [] ∧ '/' ∉ m ∧ '\\' ∉ m ∧
      (∀ c ∈ m, pathSafe c = true) ∧ plainName m = true := by
    intro m hm
    obtain ⟨n, hn, rfl⟩ := List.mem_map.1 hm
    obtain ⟨h1, h2, h3, -⟩ := hnames n hn
    exact ⟨fun e => h1 (encodeText_eq_nil e), not_mem_encodeText_of_holds ⟨by decide, by decide⟩ (by decide) n,
      not_mem_encodeText_of_holds ⟨by decide, by decide⟩ (by decide) n,
      fun c hc => pathSafe_of_mem_encodeText_of (by decide) hc, plainName_segment h2 h3⟩
  have hsafe : ∀ c ∈ '/' :: ['/'].intercalate (ns.map (encodeText .specialPathSegment)), pathSafe c = true :=
    List.forall_mem_cons.2 ⟨by decide, forall_mem_intercalate_slash (by decide) fun m hm => (hms m hm).2.2.2.1⟩
  have hbs : ∀ c ∈ '/' :: ['/'].intercalate (ns.map (encodeText .specialPathSegment)), c ≠ '\\' :=
    List.forall_mem_cons.2 ⟨by decide, forall_mem_intercalate_slash (by decide) fun m hm c hc e =>
      (hms m hm).2.2.1 (e ▸ hc)⟩
  have hstart := fileStart_intercalate (fun m hm => ⟨(hms m hm).1, (hms m hm).2.1, (hms m hm).2.2.2.1⟩) hfirst
  have hplain := plainPath_cons_intercalate fun m hm => ⟨(hms m hm).2.1, (hms m hm).2.2.2.2⟩
  simp only [Root.written, Bool.and_eq_true, Bool.not_eq_eq_eq_not, Bool.not_true, List.contains_eq_mem,
    decide_eq_false_iff_not]
  exact ⟨⟨writtenPath_iff.2 ⟨rfl, hsafe, hplain⟩, fun h => hbs _ h rfl⟩, hstart⟩

/-- The names of a path, each written as a segment and joined by slashes, give back the path exactly when the path
is its names joined by slashes and each of its characters is a slash or one a segment writes as itself. -/
theorem names_self_iff {T : List Char} {ns : List (List Char)} (hnames : ∀ n ∈ ns, n ≠ [] ∧ n ≠ ['.'] ∧ '/' ∉ n)
    (hback : ns = (T.splitOn '/').filter fun n => !n.isEmpty && n != ['.']) :
    ['/'].intercalate (ns.map (encodeText .specialPathSegment)) = T ↔
      T = ['/'].intercalate ns ∧ ∀ c ∈ T, c = '/' ∨ EncodeSet.specialPathSegment.holds c.toNat = false := by
  constructor
  · intro hl
    have hms : ∀ m ∈ ns.map (encodeText .specialPathSegment), m ≠ [] ∧ m ≠ ['.'] ∧ '/' ∉ m := by
      intro m hm
      obtain ⟨n, hn, rfl⟩ := List.mem_map.1 hm
      obtain ⟨h1, h2, -⟩ := hnames n hn
      exact ⟨fun e => h1 (encodeText_eq_nil e), encodeText_segment_ne_dot h2,
        not_mem_encodeText_of_holds ⟨by decide, by decide⟩ (by decide) n⟩
    have hself : ns.map (encodeText .specialPathSegment) = ns := by
      rw [← hl] at hback
      exact (hback.trans (filter_splitOn_intercalate hms)).symm
    have hT : T = ['/'].intercalate ns := by rw [← hl, hself]
    have hn : ∀ n ∈ ns, encodeText .specialPathSegment n = n :=
      List.map_eq_map_iff.1 (hself.trans (List.map_id' ns).symm)
    refine ⟨hT, ?_⟩
    rw [hT]
    exact forall_mem_intercalate_slash (.inl rfl) fun n hn' c hc => .inr (not_holds_of_encodeText_eq (hn n hn') c hc)
  · rintro ⟨hT, hchars⟩
    have hself : ∀ n ∈ ns, encodeText .specialPathSegment n = n := fun n hn =>
      encodeText_of_not_holds fun c hc =>
        (hchars c (hT ▸ mem_of_mem_intercalate hn hc)).resolve_left fun e => (hnames n hn).2.2 (e ▸ hc)
    rw [List.map_congr_left hself, List.map_id', hT]

/-- The path of the `file:` location of an absolute local path is the local path exactly when the local path is its
names joined by slashes and no character of a name is one a segment encodes. -/
theorem filePath_eq_self_iff {f : String} (hf : f.startsWith "/" = true) :
    filePath f = f ↔ f = String.ofList ('/' :: ['/'].intercalate ((components f).map String.toList)) ∧
      ∀ c ∈ f.toList, c = '/' ∨ EncodeSet.specialPathSegment.holds c.toNat = false := by
  obtain ⟨T, hT⟩ := toList_of_startsWith hf
  have key := names_self_iff (fun n hn => name_of_mem_components hT hn) (components_of_head hT)
  have hf' : f = String.ofList ('/' :: ['/'].intercalate ((components f).map String.toList)) ↔
      T = ['/'].intercalate ((components f).map String.toList) := by
    rw [← String.toList_inj, String.toList_ofList, hT, List.cons.injEq, and_iff_right rfl]
  rw [← String.toList_inj, filePath_toList, hT, List.cons.injEq, and_iff_right rfl, key, hf']
  refine and_congr_right fun _ => ⟨fun h c hc => ?_, fun h c hc => h c (List.mem_cons_of_mem _ hc)⟩
  rcases List.mem_cons.1 hc with rfl | hc
  · exact .inl rfl
  · exact h c hc

/-! ## What a URL library keeps -/

/-- A URL of a library lies under a root: it has the root's scheme and host and a hierarchical path, and it is
written as the root followed by its path. -/
structure UrlLibrary.At (L : UrlLibrary) (r : Root) (u : L.Url) : Prop where
  scheme : L.scheme u = r.scheme
  host : L.hostText u = r.host
  hierarchical : L.hasOpaquePath u = false
  render : L.render u = r.text ++ L.path u

/-- What the URL standard says a library's reader, path setter and writer do on the locations a transfer
writes, and what the library's `file:` URL of a local path is. -/
structure UrlLibrary.Whatwg (L : UrlLibrary) : Prop where
  /-- The reader reads a root followed by a path as a location writes it as a URL under the root with that
  path. -/
  parse_written : ∀ (r : Root) (W : String), r.written W.toList = true →
    ∃ u, L.parse (r.text ++ W) = .ok u ∧ L.At r u ∧ L.path u = W
  /-- Setting a path that reads back, on a URL read that way, leaves it under the root and writes the path
  percent-encoded with the path set. -/
  setPath_settable : ∀ (r : Root) (W P : String) (u : L.Url), r.written W.toList = true →
    r.settable P.toList = true → L.parse (r.text ++ W) = .ok u →
    L.At r (L.setPath u P) ∧ L.path (L.setPath u P) = String.ofList (encodeText .path P.toList)
  /-- The `file:` URL of a local path is written as `file://` followed by the path's names, each written as a
  segment of a special URL. -/
  render_fromFilePath : ∀ p, L.render (L.fromFilePath p) = "file://" ++ filePath p

/-! ## Reading back through a lawful library -/

namespace Locator

variable {L : UrlLibrary}

/-- A root followed by a path as a location under it writes it reads as a location on the root's system, with
that path. -/
theorem parse_written (hL : L.Whatwg) {r : Root} {W : String} (hW : r.written W.toList = true) :
    ∃ u, L.parse (r.text ++ W) = .ok u ∧ L.path u = W ∧ Locator.parse L (r.text ++ W) = .ok ⟨u, r.system⟩ := by
  obtain ⟨u, hp, hat, hpath⟩ := hL.parse_written r W hW
  have hne : (L.path u).isEmpty = false := by
    have hh := Root.head_of_settable (Root.settable_of_written hW)
    rw [hpath, Bool.eq_false_iff]
    intro he
    rw [String.isEmpty_iff] at he
    subst he
    simp at hh
  refine ⟨u, hp, hpath, ?_⟩
  simp only [Locator.parse, hp, hat.hierarchical, hne, Bool.false_eq_true, if_false, hat.host, hat.scheme]
  cases r with
  | named s h _ _ hh => simp [Root.host, Root.system, (plainHost_iff.1 hh).1]
  | file => rfl

/-- A path that reads back, set on a location read from a root and a written path, gives a location whose text
reads back on the same system, with the path percent-encoded. -/
theorem withPath_reads_back (hL : L.Whatwg) {r : Root} {W : String} (hW : r.written W.toList = true)
    {u : Locator L} (hu : Locator.parse L (r.text ++ W) = .ok u) {P : String} (hP : r.settable P.toList = true) :
    ∃ v, Locator.parse L (u.withPath P).render = .ok v ∧ v.system = u.system ∧
      v.path = String.ofList (encodeText .path P.toList) := by
  obtain ⟨url, hparse, -, hloc⟩ := parse_written hL hW
  rw [hloc, Except.ok.injEq] at hu
  subst hu
  obtain ⟨hat, hpath⟩ := hL.setPath_settable r W P url hW hP hparse
  have hrender : (withPath ⟨url, r.system⟩ P).render = r.text ++ String.ofList (encodeText .path P.toList) := by
    show L.render (L.setPath url P) = _
    rw [hat.render, hpath]
  have hW' : r.written (String.ofList (encodeText .path P.toList)).toList = true := by
    rw [String.toList_ofList]
    exact Root.written_encodeText hP
  obtain ⟨url', -, hpath', hloc'⟩ := parse_written hL hW'
  exact ⟨⟨url', r.system⟩, hrender ▸ hloc', rfl, hpath'⟩

theorem join_eq_withPath (l : Locator L) {rel : String} (hr : Location.trimFront '/' rel ≠ "") :
    l.join rel = l.withPath (Location.trimBack '/' l.path ++ "/" ++ Location.trimFront '/' rel) := by
  simp [join, hr]

/-- The path a join sets, written: the base path without its trailing slashes, a slash, and the relative path
written. -/
theorem encodeText_join {W R : List Char} (hW : ∀ c ∈ W, pathSafe c = true) :
    encodeText .path ((Location.trimBack '/' (String.ofList W)).toList ++ '/' :: R) =
      (Location.trimBack '/' (String.ofList W)).toList ++ '/' :: encodeText .path R := by
  obtain ⟨S, hS, -⟩ := Root.trimBack_append (W := W)
  have hT : ∀ c ∈ (Location.trimBack '/' (String.ofList W)).toList, pathSafe c = true := fun c hc => by
    rw [hS] at hW
    exact hW c (List.mem_append_left S hc)
  rw [encodeText_append, encodeText_cons_slash, encodeText_of_pathSafe hT]

/-- Joining a relative path that reads back to a location read from a root and a written path gives a location
whose text reads back on the same system. -/
theorem join_reads_back (hL : L.Whatwg) {r : Root} {W : String} (hW : r.written W.toList = true)
    {u : Locator L} (hu : Locator.parse L (r.text ++ W) = .ok u) {rel : String}
    (hr : Location.trimFront '/' rel ≠ "") (hrel : r.settable ('/' :: (Location.trimFront '/' rel).toList) = true) :
    ∃ v, Locator.parse L (u.join rel).render = .ok v ∧ v.system = u.system ∧
      v.path = Location.trimBack '/' u.path ++ "/" ++
        String.ofList (encodeText .path (Location.trimFront '/' rel).toList) := by
  have hpath : u.path = W := by
    obtain ⟨url, -, hp, hloc⟩ := parse_written hL hW
    rw [hloc, Except.ok.injEq] at hu
    subst hu
    exact hp
  have hjoin : (Location.trimBack '/' W ++ "/" ++ Location.trimFront '/' rel).toList =
      (Location.trimBack '/' (String.ofList W.toList)).toList ++ '/' :: (Location.trimFront '/' rel).toList := by
    simp
  have hset : r.settable (Location.trimBack '/' W ++ "/" ++ Location.trimFront '/' rel).toList = true := by
    rw [hjoin]
    exact Root.settable_join hW hrel
  obtain ⟨v, hv, hsys, hvpath⟩ := withPath_reads_back hL hW hu hset
  refine ⟨v, by rw [join_eq_withPath u hr, hpath]; exact hv, hsys, ?_⟩
  have hsafe : ∀ c ∈ W.toList, pathSafe c = true := (writtenPath_iff.1 (Root.writtenPath_of_written hW)).2.1
  rw [hvpath, hjoin, encodeText_join hsafe, hpath, ← String.toList_inj]
  simp

/-- The `file:` location the command line makes of an absolute local path, none of whose names is `..` and
whose first name is no drive letter, reads back on the `file` system with the path's names written as segments. -/
theorem toUri_reads_back (hL : L.Whatwg) (cwd : String) {f : String} (hf : f.startsWith "/" = true)
    (hfu : Cli.hasSchemeSeparator f = false) (hdots : ".." ∉ components f)
    (hdrive : ∀ n ∈ (components f).head?, isDrive (n.toList.take 2) = false) :
    ∃ v, Locator.parse L (Cli.toUri L cwd f) = .ok v ∧ v.system = "file" ∧ v.path = filePath f := by
  have htext : Cli.toUri L cwd f = Root.file.text ++ filePath f := by
    unfold Cli.toUri
    rw [hfu, if_neg Bool.false_ne_true, if_pos hf, hL.render_fromFilePath]
    rfl
  obtain ⟨url, -, hpath, hloc⟩ := parse_written hL (written_filePath hf hdots hdrive)
  exact ⟨⟨url, Root.file.system⟩, htext ▸ hloc, rfl, hpath⟩

end Locator

/-! ## The library of a running node -/

/-- The URL the reader of a running node reads from a root followed by a path. -/
def Root.url (r : Root) (W : String) : Url :=
  { scheme := r.scheme, authority := some ⟨"", r.host.map .domain, none⟩, path := W, query := none, fragment := none }

theorem Root.parse_url {r : Root} {W : String} (hW : r.written W.toList = true) :
    UrlLibrary.standard.parse (r.text ++ W) = .ok (r.url W) := by
  cases r with
  | named s h hs hk hh =>
    have hp := Url.parse_plain hs hk hh hW
    rw [String.ofList_toList] at hp
    simp only [UrlLibrary.standard, Root.text, hp]
    rfl
  | file =>
    simp only [Root.written, Bool.and_eq_true, Bool.not_eq_eq_eq_not, Bool.not_true, List.contains_eq_mem,
      decide_eq_false_iff_not] at hW
    have hp := Url.parse_file hW.1.1 hW.1.2 hW.2
    rw [String.ofList_toList] at hp
    simp only [UrlLibrary.standard, Root.text, hp]
    rfl

theorem Root.at_url (r : Root) (W : String) : UrlLibrary.standard.At r (r.url W) := by
  have happ : ∀ s h : String, s ++ ":" ++ ("//" ++ h) = s ++ "://" ++ h := fun s h => by
    simp only [String.append_assoc, String.append_right_inj]
    rw [← String.append_assoc]
    rfl
  cases r <;> exact ⟨rfl, by simp [Root.url, Url.hostText, Host.render, Root.host], rfl,
    by simp [Root.url, Url.render, Url.head, Host.render, Root.text, Root.scheme, Root.host, happ]⟩

/-- Setting a path that reads back on the URL read from a root writes the path percent-encoded. -/
theorem Root.setPath_url {r : Root} (W : String) {P : String} (hP : r.settable P.toList = true) :
    (r.url W).setPath P = r.url (String.ofList (encodeText .path P.toList)) := by
  cases r with
  | named s h hs hk hh =>
    simp only [Root.settable, Bool.and_eq_true, beq_iff_eq] at hP
    exact setPath_other (u := Root.url (.named s h hs hk hh) W) hk hP.1 hP.2
  | file =>
    simp only [Root.settable, Bool.and_eq_true, beq_iff_eq, Bool.not_eq_eq_eq_not, Bool.not_true,
      List.contains_eq_mem, decide_eq_false_iff_not] at hP
    exact setPath_file rfl rfl hP.1.1.1 hP.1.1.2 hP.1.2 hP.2

/-- The reader and writer of `Uri.Url` keep the laws. -/
theorem UrlLibrary.standard_whatwg : UrlLibrary.standard.Whatwg where
  parse_written r W hW := ⟨r.url W, Root.parse_url hW, r.at_url W, rfl⟩
  setPath_settable r W P u hW hP hu := by
    rw [Root.parse_url hW, Except.ok.injEq] at hu
    subst hu
    show UrlLibrary.standard.At r ((r.url W).setPath P) ∧ ((r.url W).setPath P).path = _
    rw [Root.setPath_url W hP]
    exact ⟨r.at_url _, rfl⟩
  render_fromFilePath p := by
    simp [Url.render, Url.head, Url.fromFilePath]

/-! ## Written paths read back -/

/-- Under a URL library that keeps the laws, and for a location read from a root and a path as a location under
the root writes it:

* a path that reads back, set on the location, gives a location whose text reads back on the same system with the
  path percent-encoded, which is the path set only when each of its characters is one a path writes as itself;
* so does a relative path joined to it: the base path without its trailing slashes, a slash, and the relative
  path encoded;
* the command line's location for an absolute local path, with no `..` name and no drive letter first, reads back
  on the `file` system with the path's names each written as a segment; that is the local path only when the
  path is its names joined by slashes and no character of a name is one a segment encodes. -/
theorem written_paths_read_back {L : UrlLibrary} (hL : L.Whatwg) {r : Root} {W : String}
    (hW : r.written W.toList = true) {u : Locator L} (hu : Locator.parse L (r.text ++ W) = .ok u)
    {p rel : String} (hp : r.settable p.toList = true) (hr : Location.trimFront '/' rel ≠ "")
    (hrel : r.settable ('/' :: (Location.trimFront '/' rel).toList) = true) {cwd f : String}
    (hf : f.startsWith "/" = true) (hfu : Cli.hasSchemeSeparator f = false) (hdots : ".." ∉ components f)
    (hdrive : ∀ n ∈ (components f).head?, isDrive (n.toList.take 2) = false) :
    (∃ v, Locator.parse L (u.withPath p).render = .ok v ∧ v.system = u.system ∧
      v.path = String.ofList (encodeText .path p.toList) ∧ (v.path = p ↔ ∀ c ∈ p.toList, pathSafe c = true)) ∧
    (∃ v, Locator.parse L (u.join rel).render = .ok v ∧ v.system = u.system ∧
      v.path = Location.trimBack '/' u.path ++ "/" ++
        String.ofList (encodeText .path (Location.trimFront '/' rel).toList) ∧
      (v.path = Location.trimBack '/' u.path ++ "/" ++ Location.trimFront '/' rel ↔
        ∀ c ∈ (Location.trimFront '/' rel).toList, pathSafe c = true)) ∧
    (∃ v, Locator.parse L (Cli.toUri L cwd f) = .ok v ∧ v.system = "file" ∧ v.path = filePath f ∧
      (v.path = f ↔ f = String.ofList ('/' :: ['/'].intercalate ((components f).map String.toList)) ∧
        ∀ c ∈ f.toList, c = '/' ∨ EncodeSet.specialPathSegment.holds c.toNat = false)) := by
  obtain ⟨v₁, h₁, hs₁, hp₁⟩ := Locator.withPath_reads_back hL hW hu hp
  obtain ⟨v₂, h₂, hs₂, hp₂⟩ := Locator.join_reads_back hL hW hu hr hrel
  obtain ⟨v₃, h₃, hs₃, hp₃⟩ := Locator.toUri_reads_back hL cwd hf hfu hdots hdrive
  refine ⟨⟨v₁, h₁, hs₁, hp₁, ?_⟩, ⟨v₂, h₂, hs₂, hp₂, ?_⟩, ⟨v₃, h₃, hs₃, hp₃, ?_⟩⟩
  · rw [hp₁, ← String.toList_inj, String.toList_ofList]
    exact encodeText_eq_self_iff
  · rw [hp₂, ← String.toList_inj]
    simp only [String.toList_ofList, String.toList_append, List.append_cancel_left_eq]
    exact encodeText_eq_self_iff
  · rw [hp₃]
    exact filePath_eq_self_iff hf

/-- Under `mem://src/in`, a space in a path set or joined reads back as `%20`, and so does a space in a local
path given to the command line. -/
theorem space_in_set_path_reads_back_encoded :
    ∃ u : Location,
      Locator.parse .standard ((Root.named "mem" "src" (by decide) (by decide) (by decide)).text ++ "/in") =
        .ok u ∧
      (∃ v, Locator.parse .standard (u.withPath "/in/a b").render = .ok v ∧ v.system = u.system ∧
        v.path = String.ofList (encodeText .path "/in/a b".toList) ∧
        (v.path = "/in/a b" ↔ ∀ c ∈ "/in/a b".toList, pathSafe c = true)) ∧
      (∃ v, Locator.parse .standard (u.join "a b").render = .ok v ∧ v.system = u.system ∧
        v.path = Location.trimBack '/' u.path ++ "/" ++
          String.ofList (encodeText .path (Location.trimFront '/' "a b").toList) ∧
        (v.path = Location.trimBack '/' u.path ++ "/" ++ Location.trimFront '/' "a b" ↔
          ∀ c ∈ (Location.trimFront '/' "a b").toList, pathSafe c = true)) ∧
      (∃ v, Locator.parse .standard (Cli.toUri .standard "/" "/data/a b") = .ok v ∧ v.system = "file" ∧
        v.path = filePath "/data/a b" ∧
        (v.path = "/data/a b" ↔
          "/data/a b" = String.ofList ('/' :: ['/'].intercalate ((components "/data/a b").map String.toList)) ∧
          ∀ c ∈ "/data/a b".toList, c = '/' ∨ EncodeSet.specialPathSegment.holds c.toNat = false)) := by
  obtain ⟨url, -, -, hu⟩ := Locator.parse_written UrlLibrary.standard_whatwg
    (r := .named "mem" "src" (by decide) (by decide) (by decide)) (W := "/in") (by decide +kernel)
  exact ⟨_, hu, written_paths_read_back UrlLibrary.standard_whatwg (by decide +kernel) hu (by decide +kernel)
    (by decide +kernel) (by decide +kernel) (by decide +kernel) (by decide +kernel) (by decide +kernel)
    (by decide +kernel)⟩

example : String.ofList (encodeText .path "/in/a b".toList) = "/in/a%20b" ∧
    filePath "/data/a b" = "/data/a%20b" := by
  decide +kernel

end Conveyor
