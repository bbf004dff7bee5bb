import Conveyor.Word

/-!
# Checked sums

A checked sum adds left to right and stops with an overflow as soon as its running total passes the top of its
word. The running totals only grow, so the first to pass the top is passed by the whole sum: a checked sum is
the plain sum when that fits, and an overflow otherwise (`Word.sum_eq`). Every other fact about checked sums is
read off that equation.
-/

namespace Conveyor

/-- A sum from \x60n\x60 is \x60n\x60 more than the sum from zero. -/
theorem foldl_add_shift : ∀ (xs : List Nat) (n : Nat), xs.foldl (· + ·) n = n + xs.foldl (· + ·) 0
  | [], _ => rfl
  | x :: xs, n => by
    rw [List.foldl_cons, List.foldl_cons, foldl_add_shift xs (n + x), foldl_add_shift xs (0 + x)]
    omega

/-- Sums add up alike in any order. -/
theorem foldl_add_perm {l₁ l₂ : List Nat} (h : List.Perm l₁ l₂) : l₁.foldl (· + ·) 0 = l₂.foldl (· + ·) 0 :=
  h.foldl_eq' (fun _ _ _ _ _ => Nat.add_right_comm _ _ _) 0

/-- Terms of at most \x60t\x60 add up to at most \x60t\x60 times their count. -/
theorem foldl_add_le_mul {t : Nat} : ∀ {l : List Nat}, (∀ x ∈ l, x ≤ t) → l.foldl (· + ·) 0 ≤ t * l.length
  | [], _ => Nat.zero_le _
  | x :: l, h => by
    have hx := h x List.mem_cons_self
    have hl := foldl_add_le_mul fun y hy => h y (List.mem_cons_of_mem x hy)
    rw [List.foldl_cons, foldl_add_shift, List.length_cons, Nat.mul_succ]
    omega

namespace Word

/-- From a running total within the top, a checked sum gives the plain sum when it fits, and an overflow
otherwise. -/
theorem foldlM_add_eq {top : Nat} : ∀ (xs : List Nat) {acc : Nat}, acc ≤ top →
    xs.foldlM (add top) acc = if xs.foldl (· + ·) acc ≤ top then .ok (xs.foldl (· + ·) acc) else .error .addOverflow
  | [], acc, h => by
    rw [List.foldlM_nil, List.foldl_nil, if_pos h]
    rfl
  | x :: xs, acc, h => by
    rw [List.foldlM_cons, List.foldl_cons]
    by_cases hx : acc + x ≤ top
    · have ha : add top acc x = .ok (acc + x) := if_pos hx
      rw [ha]
      exact foldlM_add_eq xs hx
    · -- this running total passed the top, and the rest of the sum only adds to it
      have ha : add top acc x = .error .addOverflow := if_neg hx
      have hrest := foldl_add_shift xs (acc + x)
      rw [ha, if_neg (by omega)]
      rfl

theorem sum_eq (top : Nat) (xs : List Nat) :
    sum top xs = if xs.foldl (· + ·) 0 ≤ top then .ok (xs.foldl (· + ·) 0) else .error .addOverflow :=
  foldlM_add_eq xs (Nat.zero_le top)

theorem sum_of_le {top : Nat} {xs : List Nat} (h : xs.foldl (· + ·) 0 ≤ top) :
    sum top xs = .ok (xs.foldl (· + ·) 0) := by
  rw [sum_eq, if_pos h]

/-- A checked sum that gives a result gives the plain sum. -/
theorem eq_foldl_of_sum_ok {top b : Nat} {xs : List Nat} (h : sum top xs = .ok b) : b = xs.foldl (· + ·) 0 := by
  rw [sum_eq] at h
  split at h
  · cases h
    rfl
  · cases h

/-- A checked sum that stops has a plain sum past the top. -/
theorem lt_foldl_of_sum_error {top : Nat} {xs : List Nat} {e : Panic} (h : sum top xs = .error e) :
    top < xs.foldl (· + ·) 0 := by
  rw [sum_eq] at h
  split at h
  · cases h
  · omega

end Word

end Conveyor
