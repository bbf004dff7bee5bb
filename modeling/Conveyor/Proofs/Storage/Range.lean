import Conveyor.Storage.Memory

/-!
# Paths with a common prefix form a range

The paths of a memory's objects increase strictly, and in that order the paths that start with a prefix
come one after another: none lies before the prefix (`le_of_startsWith`), and a path that lies between
the prefix and a path starting with it starts with it too (`startsWith_of_between`).

So the scan of a listing, which starts at the first object at or after the directory's prefix and stops at
the first object that does not start with it, passes no object that lies below the directory:
`Memory.scanBelow_dropWhile` says it adds exactly what a scan of every object would.
-/

namespace Conveyor

/-! ## Prefixes in lexicographic order -/

/-- A list that does not lie before `pre` but lies before a list starting with `pre` starts with `pre` too. -/
theorem isPrefix_of_between : ∀ {pre x y : List Char}, ¬ x < pre → x < y → pre <+: y → pre <+: x
  | [], _, _, _, _, _ => List.nil_prefix
  | c :: pre, [], _, hge, _, _ => absurd (List.nil_lt_cons c pre) hge
  | c :: pre, x₀ :: x, _, hge, hlt, hy => by
    obtain ⟨t, rfl⟩ := hy
    rw [List.cons_lt_cons_iff, not_or, not_and] at hge
    rw [List.cons_append, List.cons_lt_cons_iff] at hlt
    rcases hlt with hlt | ⟨rfl, hlt⟩
    · -- the first letter of `x` would lie before `c`
      exact absurd hlt hge.1
    · exact (List.prefix_cons_inj _).2 (isPrefix_of_between (hge.2 rfl) hlt (List.prefix_append pre t))

/-- A path that starts with a prefix does not lie before it. -/
theorem le_of_startsWith {pre x : String} (h : x.startsWith pre = true) : pre ≤ x :=
  (String.startsWith_string_iff.1 h).le

/-- A path between a prefix and a path that starts with it starts with it too. -/
theorem startsWith_of_between {pre x y : String} (hle : pre ≤ x) (hlt : x < y) (hy : y.startsWith pre = true) :
    x.startsWith pre = true :=
  String.startsWith_string_iff.2 (isPrefix_of_between hle hlt (String.startsWith_string_iff.1 hy))

namespace Memory

/-! ## The scan of a listing -/

/-- An object gives the listing of a directory nothing exactly when its path lacks the prefix. -/
theorem entryBelow_eq_none {pre key : String} {data : Bytes} :
    entryBelow pre key data = none ↔ key.startsWith pre = false := by
  unfold entryBelow
  by_cases h : key.startsWith pre = true
  · simp only [h, if_true, Bool.true_eq_false, iff_false]
    split <;> simp
  · simp [h]

/-- The objects from the first at or after `pre` on lie at or after `pre`. -/
theorem le_of_mem_dropWhile {pre : String} : ∀ {os : List (String × Bytes)},
    os.Pairwise (fun a b => a.1 < b.1) → ∀ kv ∈ os.dropWhile (fun kv => decide (kv.1 < pre)), pre ≤ kv.1
  | [], _, _, h => absurd h List.not_mem_nil
  | o :: os, hos, kv, h => by
    rw [List.pairwise_cons] at hos
    rw [List.dropWhile_cons] at h
    split at h
    · exact le_of_mem_dropWhile hos.2 kv h
    · rename_i hge
      have hge : pre ≤ o.1 := String.not_lt.1 (by simpa using hge)
      rcases List.mem_cons.1 h with rfl | h
      · exact hge
      · exact String.le_trans hge (List.le_of_lt (hos.1 kv h))

/-- Objects before `pre` give the listing below it nothing. -/
theorem filterMap_dropWhile (pre : String) : ∀ os : List (String × Bytes),
    (os.dropWhile fun kv => decide (kv.1 < pre)).filterMap (fun kv => entryBelow pre kv.1 kv.2) =
      os.filterMap fun kv => entryBelow pre kv.1 kv.2
  | [] => rfl
  | o :: os => by
    rw [List.dropWhile_cons]
    split
    · rename_i hlt
      have hnot : o.1.startsWith pre = false :=
        Bool.eq_false_iff.2 fun h => le_of_startsWith h (by simpa using hlt)
      rw [filterMap_dropWhile pre os, List.filterMap_cons, entryBelow_eq_none.2 hnot]
    · rfl

/-- Over objects in increasing path order, none before `pre`, the scan that stops at the first object not
below `pre` adds what every object gives: past that object no path starts with `pre`. -/
theorem scanBelow_eq_foldl (pre : String) : ∀ {os : List (String × Bytes)} (acc : List Entry),
    os.Pairwise (fun a b => a.1 < b.1) → (∀ kv ∈ os, pre ≤ kv.1) →
      scanBelow pre os acc = (os.filterMap fun kv => entryBelow pre kv.1 kv.2).foldl addEntry acc
  | [], _, _, _ => rfl
  | (key, data) :: rest, acc, hos, hge => by
    rw [List.pairwise_cons] at hos
    have hkey : pre ≤ key := hge _ List.mem_cons_self
    cases he : entryBelow pre key data with
    | some e =>
      rw [scanBelow, he, List.filterMap_cons, he, List.foldl_cons]
      exact scanBelow_eq_foldl pre _ hos.2 fun kv hkv => String.le_trans hkey (List.le_of_lt (hos.1 kv hkv))
    | none =>
      have hnot : key.startsWith pre = false := entryBelow_eq_none.1 he
      have hrest : rest.filterMap (fun kv => entryBelow pre kv.1 kv.2) = [] :=
        List.filterMap_eq_nil_iff.2 fun kv hkv => entryBelow_eq_none.2 <| Bool.eq_false_iff.2 fun h => by
          rw [startsWith_of_between hkey (hos.1 kv hkv) h] at hnot
          cases hnot
      rw [scanBelow, he, List.filterMap_cons, he, hrest]
      rfl

/-- The scan of a listing, from the first object at or after the prefix to the first without it, adds what
all the objects of the memory give. -/
theorem scanBelow_dropWhile (m : Memory) (pre : String) :
    scanBelow pre (m.objects.dropWhile fun kv => decide (kv.1 < pre)) [] =
      (m.objects.filterMap fun kv => entryBelow pre kv.1 kv.2).foldl addEntry [] := by
  rw [scanBelow_eq_foldl pre [] (m.ordered.sublist (List.dropWhile_sublist _)) (le_of_mem_dropWhile m.ordered),
    filterMap_dropWhile]

end Memory

end Conveyor
