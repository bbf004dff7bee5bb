import Conveyor.Store.Basic

/-!
# Keyed tables

A table is a list of records, each with a key (`Keyed.key`). `Table.find?` finds the first record under a
key, and `Table.put` writes a record over the one with its key, or appends it when the key is new. Every
proof about the store reads a record through the lemmas here:

* `Table.find?_put`: after a write, the written record is found under its key, and every other key finds what
  it found before; `Table.mem_put` and `Table.keys_put` say which records and keys the table then holds.
* `Table.put_put`: of two writes under one key the second wins; `Table.put_of_find?`: writing back what the
  table holds changes nothing.
* `Table.foldl_put_of_nodup`, `Table.find?_foldl_put_of_not_mem`, `Table.filterMap_find?_foldl_put`: writes
  one after another, under new keys or under other keys.
* `Table.find?_congr`: two tables with distinct keys and the same records find alike.
-/

namespace Conveyor

namespace Table

variable {α κ : Type} [Keyed α κ] [DecidableEq κ]

@[simp] theorem find?_nil (k : κ) : find? ([] : List α) k = none := rfl

theorem find?_cons (y : α) (ys : List α) (k : κ) :
    find? (y :: ys) k = if Keyed.key y = k then some y else find? ys k := by
  by_cases h : Keyed.key y = k <;> simp [find?, h]

@[simp] theorem has_nil (k : κ) : has ([] : List α) k = false := rfl

theorem has_cons (y : α) (ys : List α) (k : κ) : has (y :: ys) k = (decide (Keyed.key y = k) || has ys k) :=
  rfl

theorem has_iff {xs : List α} {k : κ} : has xs k = true ↔ ∃ x ∈ xs, Keyed.key x = k := by
  simp [has]

theorem has_iff_keys {xs : List α} {k : κ} : has xs k = true ↔ k ∈ xs.map Keyed.key := by
  simp [has]

/-- A record found under a key is in the table and has the key. -/
theorem find?_eq_some {xs : List α} {k : κ} {x : α} (h : find? xs k = some x) :
    x ∈ xs ∧ Keyed.key x = k := by
  unfold find? at h
  exact ⟨List.mem_of_find?_eq_some h, by simpa using List.find?_some h⟩

theorem find?_eq_none {xs : List α} {k : κ} : find? xs k = none ↔ has xs k = false := by
  simp [find?, has]

theorem find?_isSome {xs : List α} {k : κ} : (find? xs k).isSome = has xs k := by
  cases h : find? xs k with
  | none => exact (find?_eq_none.1 h).symm
  | some x =>
    obtain ⟨hx, rfl⟩ := find?_eq_some h
    exact (has_iff.2 ⟨x, hx, rfl⟩).symm

/-- In a table whose keys are distinct, each record is found under its key. -/
theorem find?_of_mem {xs : List α} {x : α} (hk : (xs.map Keyed.key).Nodup) (hx : x ∈ xs) :
    find? xs (Keyed.key x) = some x := by
  induction xs with
  | nil => cases hx
  | cons y ys ih =>
    rw [List.map_cons, List.nodup_cons] at hk
    rw [find?_cons]
    rcases List.mem_cons.1 hx with rfl | hx
    · simp
    · have hne : Keyed.key y ≠ Keyed.key x := fun h => hk.1 (h ▸ List.mem_map_of_mem hx)
      rw [if_neg hne, ih hk.2 hx]

/-- A map that keeps every key keeps what is found under a key. -/
theorem find?_map {xs : List α} (f : α → α) (hf : ∀ y, Keyed.key (f y) = Keyed.key y) (k : κ) :
    find? (xs.map f) k = (find? xs k).map f := by
  induction xs with
  | nil => rfl
  | cons y ys ih =>
    rw [List.map_cons, find?_cons, find?_cons, hf, ih]
    split <;> rfl

private theorem find?_map_replace (xs : List α) (x : α) (k : κ) :
    find? (xs.map fun y => if Keyed.key y = Keyed.key x then x else y) k =
      if Keyed.key x = k then (if has xs (Keyed.key x) then some x else none) else find? xs k := by
  induction xs with
  | nil => simp
  | cons y ys ih =>
    rw [List.map_cons, find?_cons, ih, find?_cons, has_cons]
    by_cases hy : Keyed.key y = Keyed.key x
    · by_cases hk : Keyed.key x = k <;> simp [hy, hk]
    · by_cases hk : Keyed.key x = k
      · subst hk; simp [hy]
      · simp only [if_neg hy, hk, if_false]

private theorem find?_append_single (xs : List α) (x : α) (k : κ) :
    find? (xs ++ [x]) k = (find? xs k).or (if Keyed.key x = k then some x else none) := by
  induction xs with
  | nil => by_cases hk : Keyed.key x = k <;> simp [find?_cons, hk]
  | cons y ys ih =>
    rw [List.cons_append, find?_cons, ih, find?_cons]
    by_cases hy : Keyed.key y = k <;> simp [hy]

/-- After a write, the written record is found under its key and every other key finds what it found
before. -/
theorem find?_put (xs : List α) (x : α) (k : κ) :
    find? (put xs x) k = if Keyed.key x = k then some x else find? xs k := by
  unfold put
  split
  · rename_i h
    rw [find?_map_replace]
    simp [h]
  · rename_i h
    rw [find?_append_single]
    by_cases hk : Keyed.key x = k
    · subst hk
      rw [(find?_eq_none).2 (by simpa using h)]
      simp
    · simp [hk]

@[simp] theorem find?_put_self (xs : List α) (x : α) : find? (put xs x) (Keyed.key x) = some x := by
  simp [find?_put]

theorem find?_put_of_ne (xs : List α) (x : α) {k : κ} (h : Keyed.key x ≠ k) :
    find? (put xs x) k = find? xs k := by
  simp [find?_put, h]

/-- A property of the record found under a key survives a write: it must hold of the record written, if that
has the key, and of the record found before, if not. -/
theorem forall_find?_put {P : α → Prop} {xs : List α} {x : α} {k : κ} (hx : Keyed.key x = k → P x)
    (h : Keyed.key x ≠ k → ∀ y, find? xs k = some y → P y) : ∀ y, find? (put xs x) k = some y → P y := by
  intro y hy
  rw [find?_put] at hy
  split at hy
  · rename_i hk
    cases hy
    exact hx hk
  · rename_i hk
    exact h hk y hy

/-- The records after a write: the written one, and those of other keys. -/
theorem mem_put {xs : List α} {x y : α} : y ∈ put xs x ↔ y = x ∨ (y ∈ xs ∧ Keyed.key y ≠ Keyed.key x) := by
  unfold put
  split
  · rename_i h
    simp only [List.mem_map]
    constructor
    · rintro ⟨z, hz, rfl⟩
      by_cases hzk : Keyed.key z = Keyed.key x <;> simp_all
    · rintro (rfl | ⟨hy, hk⟩)
      · obtain ⟨z, hz, hzk⟩ := has_iff.1 h
        exact ⟨z, hz, by simp [hzk]⟩
      · exact ⟨y, hy, by simp [hk]⟩
  · rename_i h
    simp only [List.mem_append, List.mem_singleton]
    constructor
    · rintro (hy | rfl)
      · exact Or.inr ⟨hy, fun hk => h (has_iff.2 ⟨y, hy, hk⟩)⟩
      · exact Or.inl rfl
    · rintro (rfl | ⟨hy, _⟩)
      · exact Or.inr rfl
      · exact Or.inl hy

/-- A write keeps the keys, adding the written one at the end if it is new. -/
theorem keys_put (xs : List α) (x : α) :
    (put xs x).map Keyed.key =
      if has xs (Keyed.key x) then xs.map Keyed.key else xs.map Keyed.key ++ [Keyed.key x] := by
  unfold put
  split
  · simp only [List.map_map]
    congr 1
    funext y
    by_cases h : Keyed.key y = Keyed.key x <;> simp [h]
  · simp

theorem keys_put_of_has {xs : List α} {x : α} (h : has xs (Keyed.key x) = true) :
    (put xs x).map Keyed.key = xs.map Keyed.key := by
  rw [keys_put, if_pos h]

theorem has_of_find? {xs : List α} {k : κ} {x : α} (h : find? xs k = some x) : has xs k = true := by
  rw [← find?_isSome, h]
  rfl

theorem find?_self {xs : List α} {k : κ} {x : α} (h : find? xs k = some x) : find? xs (Keyed.key x) = some x := by
  rw [(find?_eq_some h).2]
  exact h

/-- A record found under a key is found under the key of every record that shares its key. -/
theorem find?_of_key_eq {xs : List α} {k : κ} {x y : α} (h : find? xs k = some x) (hk : Keyed.key y = Keyed.key x) :
    find? xs (Keyed.key y) = some x := by
  rw [hk]
  exact find?_self h

/-- Two tables with the same keys find a record under the same keys. -/
theorem exists_find?_of_keys {xs ys : List α} (hk : ys.map Keyed.key = xs.map Keyed.key) {k : κ} {x : α}
    (h : find? xs k = some x) : ∃ y, find? ys k = some y := by
  have hx := has_of_find? h
  rw [has_iff_keys, ← hk, ← has_iff_keys, ← find?_isSome] at hx
  exact Option.isSome_iff_exists.1 hx

/-- Two tables with the same keys, where each record of the second goes back to a record of the first under
its key: each record of the first has one in the second, related to it the same way. -/
theorem exists_find?_of_back {xs ys : List α} {R : α → α → Prop} (hk : ys.map Keyed.key = xs.map Keyed.key)
    (hb : ∀ {k : κ} {y : α}, find? ys k = some y → ∃ x, find? xs k = some x ∧ R x y) {k : κ} {x : α}
    (hx : find? xs k = some x) : ∃ y, find? ys k = some y ∧ R x y := by
  obtain ⟨y, hy⟩ := exists_find?_of_keys hk hx
  obtain ⟨x', hx', hr⟩ := hb hy
  rw [hx] at hx'
  cases hx'
  exact ⟨y, hy, hr⟩

theorem find?_append (xs ys : List α) (k : κ) : find? (xs ++ ys) k = (find? xs k).or (find? ys k) :=
  List.find?_append

theorem find?_eq_none_of_not_mem {xs : List α} {k : κ} (h : k ∉ xs.map Keyed.key) : find? xs k = none := by
  rw [find?_eq_none, ← Bool.not_eq_true, has_iff_keys]
  exact h

/-- Appending records keeps what the table found. -/
theorem find?_append_of_find? {xs ys : List α} {k : κ} {x : α} (h : find? xs k = some x) :
    find? (xs ++ ys) k = some x := by
  rw [find?_append, h]
  rfl

/-- A key the table lacks is found, after an append, among the records appended. -/
theorem find?_append_of_not_mem {xs ys : List α} {k : κ} (h : k ∉ xs.map Keyed.key) :
    find? (xs ++ ys) k = find? ys k := by
  rw [find?_append, find?_eq_none_of_not_mem h]
  rfl

theorem put_of_not_mem {xs : List α} {x : α} (h : Keyed.key x ∉ xs.map Keyed.key) : put xs x = xs ++ [x] := by
  have hh : has xs (Keyed.key x) = false := by rw [← Bool.not_eq_true, has_iff_keys]; exact h
  simp [put, hh]

/-- Writing records under new keys, one after another, appends them. -/
theorem foldl_put_of_nodup {xs ys : List α} (h : (xs.map Keyed.key ++ ys.map Keyed.key).Nodup) :
    ys.foldl put xs = xs ++ ys := by
  induction ys generalizing xs with
  | nil => simp
  | cons y ys ih =>
    have hy : Keyed.key y ∉ xs.map Keyed.key := by
      intro hm
      exact (List.nodup_append.1 h).2.2 _ hm _ (by simp) rfl
    rw [List.foldl_cons, put_of_not_mem hy, ih (by simpa using h)]
    simp

/-- Two tables with distinct keys and the same records find the same record under each key. -/
theorem find?_congr {xs ys : List α} (hx : (xs.map Keyed.key).Nodup) (hy : (ys.map Keyed.key).Nodup)
    (h : ∀ a, a ∈ xs ↔ a ∈ ys) (k : κ) : find? xs k = find? ys k := by
  cases hxk : find? xs k with
  | some a =>
    obtain ⟨ha, rfl⟩ := find?_eq_some hxk
    exact (find?_of_mem hy ((h a).1 ha)).symm
  | none =>
    cases hyk : find? ys k with
    | none => rfl
    | some b =>
      obtain ⟨hb, rfl⟩ := find?_eq_some hyk
      rw [find?_of_mem hx ((h b).2 hb)] at hxk
      cases hxk

/-- Writing back the record a table holds under its key changes nothing. -/
theorem put_of_find? {xs : List α} {x : α} (hk : (xs.map Keyed.key).Nodup) (h : find? xs (Keyed.key x) = some x) :
    put xs x = xs := by
  unfold put
  rw [if_pos (has_of_find? h)]
  conv => rhs; rw [← List.map_id xs]
  refine List.map_congr_left fun y hy => ?_
  split
  · rename_i hyx
    have hfy := find?_of_mem hk hy
    rw [hyx, h] at hfy
    exact Option.some.inj hfy
  · rfl

/-- Two tables with the same keys lack the same keys. -/
theorem find?_eq_none_of_keys {xs ys : List α} (hk : ys.map Keyed.key = xs.map Keyed.key) {k : κ}
    (h : find? xs k = none) : find? ys k = none := by
  cases hy : find? ys k with
  | none => rfl
  | some y =>
    obtain ⟨x, hx⟩ := exists_find?_of_keys hk.symm hy
    rw [h] at hx
    cases hx

/-- The second of two writes under one key wins. -/
theorem put_put (xs : List α) {x y : α} (h : Keyed.key x = Keyed.key y) : put (put xs x) y = put xs y := by
  unfold put
  by_cases hx : has xs (Keyed.key x) = true
  · have hm : has (xs.map fun z => if Keyed.key z = Keyed.key x then x else z) (Keyed.key y) = true := by
      rw [← h]
      obtain ⟨z, hz, hzk⟩ := has_iff.1 hx
      exact has_iff.2 ⟨x, List.mem_map.2 ⟨z, hz, by simp [hzk]⟩, rfl⟩
    rw [if_pos hx, if_pos hm, if_pos (h ▸ hx), List.map_map]
    congr 1
    funext z
    by_cases hz : Keyed.key z = Keyed.key x
    · simp [hz, h]
    · have hzy : ¬Keyed.key z = Keyed.key y := h ▸ hz
      simp [hz, hzy]
  · have hm : has (xs ++ [x]) (Keyed.key y) = true := has_iff.2 ⟨x, by simp, h⟩
    rw [if_neg hx, if_pos hm, if_neg (h ▸ hx), List.map_append, List.map_singleton, if_pos h]
    congr 1
    have hkeep : ∀ z ∈ xs, (if Keyed.key z = Keyed.key y then y else z) = id z := by
      intro z hz
      have : Keyed.key z ≠ Keyed.key y := fun hk => hx (has_iff.2 ⟨z, hz, hk.trans h.symm⟩)
      simp [this]
    rw [List.map_congr_left hkeep, List.map_id]

theorem find?_put_eq {xs : List α} {x : α} {k : κ}
    (h : Keyed.key x = k) : Table.find? (Table.put xs x) k = some x := by
  rw [← h]
  exact Table.find?_put_self xs x

theorem mem_foldl_put {xs ys : List α} {y : α}
    (h : y ∈ ys.foldl Table.put xs) : y ∈ xs ∨ y ∈ ys := by
  induction ys generalizing xs with
  | nil => exact Or.inl h
  | cons z zs ih =>
    rcases ih h with hy | hy
    · rcases Table.mem_put.1 hy with rfl | ⟨hy, -⟩
      · exact Or.inr List.mem_cons_self
      · exact Or.inl hy
    · exact Or.inr (List.mem_cons_of_mem _ hy)

theorem find?_foldl_put_of_not_mem {xs ys : List α} {k : κ}
    (h : k ∉ ys.map Keyed.key) : Table.find? (ys.foldl Table.put xs) k = Table.find? xs k := by
  induction ys generalizing xs with
  | nil => rfl
  | cons y ys ih =>
    rw [List.map_cons, List.mem_cons, not_or] at h
    rw [List.foldl_cons, ih h.2, Table.find?_put_of_ne _ _ (Ne.symm h.1)]

/-- Looking up the records written in turn under distinct keys gives them back. -/
theorem filterMap_find?_foldl_put {ys : List α}
    (h : (ys.map Keyed.key).Nodup) (xs : List α) :
    (ys.map Keyed.key).filterMap (Table.find? (ys.foldl Table.put xs)) = ys := by
  induction ys generalizing xs with
  | nil => rfl
  | cons y ys ih =>
    rw [List.map_cons, List.nodup_cons] at h
    have hy : Table.find? (ys.foldl Table.put (Table.put xs y)) (Keyed.key y) = some y := by
      rw [Table.find?_foldl_put_of_not_mem h.1, Table.find?_put_self]
    rw [List.map_cons, List.foldl_cons, List.filterMap_cons_some hy, ih h.2]

/-- Writing a record over one that \x60f\x60 reads alike leaves what \x60f\x60 reads of every lookup. -/
theorem map_find?_put {β : Type} {f : α → β} {xs : List α} {x x' : α}
    (h : Table.find? xs (Keyed.key x') = some x) (hf : f x' = f x) (k : κ) :
    (Table.find? (Table.put xs x') k).map f = (Table.find? xs k).map f := by
  rw [Table.find?_put]
  split
  · rename_i hk
    rw [← hk, h, Option.map_some, Option.map_some, hf]
  · rfl

end Table

end Conveyor
