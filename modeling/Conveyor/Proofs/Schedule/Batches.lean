import Conveyor.Schedule.Fair
import Mathlib.Algebra.Order.Floor.Div
import Mathlib.Data.List.Perm.Subperm

/-!
# What a fair batch holds

A fair batch is the first `limit` tasks of the round-robin order of the tenants' queues
(`fairInterleave_eq_take_roundRobin`). The dispatcher's loop gets there round by round: a round takes the first
task of each queue while the batch has room (`takeRound_batch`), leaving the queues without it when they all fit
(`takeRound_queues`), and the round-robin order is those first tasks, then the order of the rest
(`roundRobin_succ`). The loop invariant `takeRounds_eq` holds across whole rounds, a round that breaks off with
the batch full, and a last round that finds the queues empty; the fuel suffices because every round but the last
takes a task.

So a fair batch takes ready tasks, never invents one and never repeats one:

* `flatten_groupByKey`: grouping by tenant keeps every value, each once;
* `roundRobin_subperm`: the round-robin order takes values of its lists, each at most as often as they hold it;
* `fairInterleave_subperm`: so a fair batch is a sub-permutation of the ready values, and holds distinct
  values when they are distinct (`fairInterleave_nodup`).

`distribute` then hands the whole batch out: its runs, read in order, are the batch again, and each goes to
one of the workers (`distribute_flatten`, `mem_distribute`). In full (`distribute_hands_out_batch`): the
`k`-th run goes to the `k`-th worker, every run holds between one and `⌈|batch| / |workers|⌉` tasks, and
nothing is handed out exactly when there is no task or no worker.
-/

namespace Conveyor

variable {α β : Type}

/-! ## Grouping by tenant -/

/-- The step of `groupByKey`: a value joins the group of its key, or opens a new group at the end. -/
def groupStep (groups : List (String × List α)) (kv : String × α) : List (String × List α) :=
  if groups.any (·.1 == kv.1) then
    groups.map fun (k', vs) => if k' == kv.1 then (k', vs ++ [kv.2]) else (k', vs)
  else groups ++ [(kv.1, [kv.2])]

theorem groupByKey_eq_foldl (pairs : List (String × α)) : groupByKey pairs = pairs.foldl groupStep [] := rfl

/-- Appending a value to the one group of its key appends it to the values, up to order. -/
theorem flatten_appendToGroup (k : String) (v : α) :
    ∀ {groups : List (String × List α)}, (groups.map (·.1)).Nodup → groups.any (·.1 == k) = true →
      List.Perm ((groups.map fun (k', vs) => if k' == k then (k', vs ++ [v]) else (k', vs)).map (·.2)).flatten
        ((groups.map (·.2)).flatten ++ [v])
  | [], _, h => by cases h
  | (k₀, vs₀) :: gs, hnd, h => by
    obtain ⟨hk₀, hnd⟩ := List.nodup_cons.1 hnd
    by_cases hk : k₀ = k
    · -- the head is the group of `k`, and no other group has its key
      subst hk
      have hrest : (gs.map fun (k', vs) => if k' == k₀ then (k', vs ++ [v]) else (k', vs)) = gs := by
        conv_rhs => rw [← List.map_id gs]
        refine List.map_congr_left fun g hg => ?_
        have hne : g.1 ≠ k₀ := fun he => hk₀ (List.mem_map.2 ⟨g, hg, he⟩)
        simp [hne]
      simp only [List.map_cons, beq_self_eq_true, if_true, hrest, List.flatten_cons, List.append_assoc]
      exact (@List.perm_append_comm _ [v] _).append_left vs₀
    · have hk' : (k₀ == k) = false := by simpa using hk
      have h' : gs.any (·.1 == k) = true := by simpa [hk'] using h
      simp only [List.map_cons, hk', Bool.false_eq_true, if_false, List.flatten_cons, List.append_assoc]
      exact (flatten_appendToGroup k v hnd h').append_left vs₀

/-- One step of the grouping keeps the keys distinct and the values, up to order. -/
theorem groupStep_perm {groups : List (String × List α)} {vals : List α}
    (hnd : (groups.map (·.1)).Nodup) (hp : List.Perm (groups.map (·.2)).flatten vals) (kv : String × α) :
    ((groupStep groups kv).map (·.1)).Nodup ∧ List.Perm ((groupStep groups kv).map (·.2)).flatten (vals ++ [kv.2]) := by
  unfold groupStep
  split
  · rename_i hany
    have hkeys : ((groups.map fun (k', vs) => if k' == kv.1 then (k', vs ++ [kv.2]) else (k', vs)).map (·.1)) =
        groups.map (·.1) := by
      rw [List.map_map]
      refine List.map_congr_left fun g _ => ?_
      by_cases hg : g.1 = kv.1 <;> simp [hg]
    exact ⟨hkeys ▸ hnd, (flatten_appendToGroup kv.1 kv.2 hnd hany).trans (hp.append_right _)⟩
  · rename_i hany
    have hnew : kv.1 ∉ groups.map (·.1) := fun hm => hany (by
      obtain ⟨g, hg, he⟩ := List.mem_map.1 hm
      exact List.any_eq_true.2 ⟨g, hg, by simp [he]⟩)
    refine ⟨?_, ?_⟩
    · rw [List.map_append, List.map_singleton]
      exact List.nodup_append.2 ⟨hnd, by simp, fun a ha b hb hab => by
        rw [List.mem_singleton] at hb
        exact hnew (hb ▸ hab ▸ ha)⟩
    · rw [List.map_append, List.flatten_append, List.map_singleton, List.flatten_singleton]
      exact hp.append_right _

/-- Grouping by key keeps every value, each once. -/
theorem flatten_groupByKey (pairs : List (String × α)) :
    List.Perm ((groupByKey pairs).map (·.2)).flatten (pairs.map (·.2)) := by
  suffices h : ∀ (groups : List (String × List α)) (vals : List α), (groups.map (·.1)).Nodup →
      List.Perm (groups.map (·.2)).flatten vals →
      List.Perm ((pairs.foldl groupStep groups).map (·.2)).flatten (vals ++ pairs.map (·.2)) by
    rw [groupByKey_eq_foldl]
    simpa using h [] [] List.nodup_nil List.Perm.nil
  induction pairs with
  | nil => intro groups vals _ hp; simpa using hp
  | cons kv pairs ih =>
    intro groups vals hnd hp
    obtain ⟨hnd', hp'⟩ := groupStep_perm hnd hp kv
    simpa using ih _ _ hnd' hp'

/-! ## Round robin -/

/-- Round `r` of the round robin takes the `r`-th value of every list that has one. -/
theorem roundRobin_eq_rounds : ∀ (fuel : Nat) (lists : List (List α)),
    roundRobin fuel lists = (List.range fuel).flatMap fun r => lists.filterMap (·[r]?)
  | 0, _ => rfl
  | fuel + 1, lists => by
    unfold roundRobin
    dsimp only
    split
    · -- no list holds anything, so no round takes anything
      rename_i h
      have hnil : ∀ l ∈ lists, l = [] := fun l hl => by
        have := List.isEmpty_iff.1 h
        by_contra hne
        have hm : l ∈ lists.filter (!·.isEmpty) := List.mem_filter.2 ⟨hl, by simpa using hne⟩
        rw [this] at hm
        cases hm
      symm
      rw [List.flatMap_eq_nil_iff]
      intro r _
      rw [List.filterMap_eq_nil_iff]
      intro l hl
      simp [hnil l hl]
    · rw [roundRobin_eq_rounds fuel, List.range_succ_eq_map, List.flatMap_cons, List.flatMap_map]
      congr 1
      · -- round 0 takes the heads
        rw [List.filterMap_filter]
        refine List.filterMap_congr fun l _ => ?_
        cases l <;> rfl
      · -- the later rounds of the tails are the later rounds of the lists
        refine List.flatMap_congr fun r _ => ?_
        rw [List.filterMap_map, List.filterMap_filter]
        refine List.filterMap_congr fun l _ => ?_
        cases l <;> simp

/-- The heads of the lists that hold something, then their tails, are their values up to order. -/
theorem heads_tails_perm : ∀ lists : List (List α),
    List.Perm ((lists.filter (!·.isEmpty)).filterMap List.head? ++ ((lists.filter (!·.isEmpty)).map List.tail).flatten)
      lists.flatten
  | [] => List.Perm.nil
  | [] :: lists => by simpa using heads_tails_perm lists
  | (x :: xs) :: lists => by
    have ih := heads_tails_perm lists
    simp only [List.filter_cons, List.isEmpty_cons, Bool.not_false, if_true, List.filterMap_cons,
      List.head?_cons, List.map_cons, List.tail_cons, List.flatten_cons, List.cons_append, List.perm_cons]
    refine (List.perm_append_comm_assoc _ _ _).trans ?_
    exact ih.append_left xs

/-- The round-robin order takes values of its lists, each at most as often as they hold it. -/
theorem roundRobin_subperm : ∀ (fuel : Nat) (lists : List (List α)),
    List.Subperm (roundRobin fuel lists) lists.flatten
  | 0, _ => List.nil_subperm
  | fuel + 1, lists => by
    unfold roundRobin
    dsimp only
    split
    · exact List.nil_subperm
    · exact ((List.subperm_append_left _).2 (roundRobin_subperm fuel _)).trans (heads_tails_perm lists).subperm

/-! ## The dispatcher's loop -/

/-- The round-robin order is the first task of every queue that holds one, then the order of the rest. -/
theorem roundRobin_succ (fuel : Nat) (qs : List (List α)) :
    roundRobin (fuel + 1) qs = qs.filterMap List.head? ++ roundRobin fuel (qs.map List.tail) := by
  rw [roundRobin_eq_rounds, roundRobin_eq_rounds, List.range_succ_eq_map, List.flatMap_cons, List.flatMap_map]
  congr 1
  · exact List.filterMap_congr fun q _ => by cases q <;> rfl
  · refine List.flatMap_congr fun r _ => ?_
    rw [List.filterMap_map]
    exact List.filterMap_congr fun q _ => by cases q <;> simp

/-- Rounds past the longest queue take nothing, so the fuel of the round robin does not matter beyond it. -/
theorem roundRobin_fuel {qs : List (List α)} {n m : Nat} (hq : ∀ q ∈ qs, q.length ≤ n) (hnm : n ≤ m) :
    roundRobin m qs = roundRobin n qs := by
  obtain ⟨k, rfl⟩ := Nat.exists_eq_add_of_le hnm
  rw [roundRobin_eq_rounds, roundRobin_eq_rounds, List.range_add, List.flatMap_append]
  have hnil : ((List.range k).map (n + ·)).flatMap (fun r => qs.filterMap (·[r]?)) = [] := by
    rw [List.flatMap_eq_nil_iff]
    intro r hr
    obtain ⟨i, -, rfl⟩ := List.mem_map.1 hr
    rw [List.filterMap_eq_nil_iff]
    intro q hq'
    exact List.getElem?_eq_none (Nat.le_trans (hq q hq') (Nat.le_add_right n i))
  rw [hnil, List.append_nil]

/-- The tasks queued are the first of each queue and those behind them. -/
theorem length_flatten_heads_tails (qs : List (List α)) :
    qs.flatten.length = (qs.filterMap List.head?).length + (qs.map List.tail).flatten.length := by
  induction qs with
  | nil => rfl
  | cons q qs ih =>
    cases q with
    | nil => simpa [List.filterMap_cons] using ih
    | cons x xs =>
      simp only [List.flatten_cons, List.length_append, List.filterMap_cons, List.head?_cons, List.length_cons,
        List.map_cons, List.tail_cons, ih]
      omega

theorem eq_nil_of_heads_eq_nil {qs : List (List α)} (h : qs.filterMap List.head? = []) : ∀ q ∈ qs, q = [] := by
  intro q hq
  cases q with
  | nil => rfl
  | cons x xs => exact absurd (List.filterMap_eq_nil_iff.1 h _ hq) (by simp)

section Loop

variable {limit : Nat}

/-- A round adds the first tasks of the queues that hold one, as many as the batch has room for. -/
theorem takeRound_batch : ∀ (qs : List (List α)) (batch : List α), batch.length ≤ limit →
    (takeRound limit qs batch).2 = batch ++ (qs.filterMap List.head?).take (limit - batch.length)
  | [], batch, _ => by simp [takeRound]
  | q :: qs, batch, hb => by
    by_cases hfull : batch.length = limit
    · simp [takeRound, hfull]
    · have hlt : batch.length < limit := Nat.lt_of_le_of_ne hb hfull
      cases q with
      | nil => simpa [takeRound, hfull, List.filterMap_cons] using takeRound_batch qs batch hb
      | cons x xs =>
        have ih := takeRound_batch qs (batch ++ [x]) (by simp; omega)
        have hroom : limit - batch.length = (limit - (batch ++ [x]).length) + 1 := by simp; omega
        simp only [takeRound, hfull, if_false, List.filterMap_cons, List.head?_cons, ih, hroom, List.take_succ_cons,
          List.append_assoc, List.singleton_append]

/-- A round that has room for the first task of every queue leaves each queue without it. -/
theorem takeRound_queues : ∀ (qs : List (List α)) (batch : List α),
    batch.length + (qs.filterMap List.head?).length ≤ limit → (takeRound limit qs batch).1 = qs.map List.tail
  | [], batch, _ => rfl
  | q :: qs, batch, hb => by
    by_cases hfull : batch.length = limit
    · -- the batch is full already, so no queue has a task left to give
      have hnil : ∀ q' ∈ q :: qs, q' = [] := eq_nil_of_heads_eq_nil (List.eq_nil_of_length_eq_zero (by omega))
      simp only [takeRound, hfull, if_true]
      exact (List.map_congr_left fun q' hq' => by rw [hnil q' hq']; rfl).trans (List.map_id _) |>.symm
    · cases q with
      | nil => simpa [takeRound, hfull] using takeRound_queues qs batch (by simpa [List.filterMap_cons] using hb)
      | cons x xs =>
        simpa [takeRound, hfull] using takeRound_queues qs (batch ++ [x]) (by simp at hb ⊢; omega)

/-- A loop that starts with a full batch leaves it as it is. -/
theorem takeRounds_of_full {batch : List α} (h : batch.length = limit) :
    ∀ (fuel : Nat) (qs : List (List α)), takeRounds limit fuel qs batch = batch
  | 0, _ => rfl
  | _ + 1, _ => by simp [takeRounds, h]

/-- **The loop invariant.** From queues that hold fewer tasks than the rounds left, the rounds add to a batch of
at most `limit` tasks the first tasks of the round-robin order of the queues, as many as it has room for:
rounds that take a task of every queue keep the invariant, and the loop stops either at a round that breaks off
with the batch full or at a round that finds every queue empty. -/
theorem takeRounds_eq : ∀ (fuel : Nat) (qs : List (List α)) (batch : List α),
    batch.length ≤ limit → qs.flatten.length < fuel →
      takeRounds limit fuel qs batch = batch ++ (roundRobin qs.flatten.length qs).take (limit - batch.length)
  | 0, _, _, _, h => absurd h (Nat.not_lt_zero _)
  | fuel + 1, qs, batch, hb, hq => by
    by_cases hlt : batch.length < limit
    · have hround := takeRound_batch qs batch hb
      simp only [takeRounds, hlt, if_true]
      by_cases hheads : qs.filterMap List.head? = []
      · -- every queue is empty: the round takes nothing and the loop stops
        have hrr : roundRobin qs.flatten.length qs = [] := by
          rw [roundRobin_fuel (n := 0) (fun q hq => by rw [eq_nil_of_heads_eq_nil hheads q hq]; rfl) (Nat.zero_le _)]
          rfl
        rw [hround, hheads, hrr]
        simp
      · have hpos := List.length_pos_iff.2 hheads
        have hsplit := length_flatten_heads_tails qs
        obtain ⟨n, hn⟩ : ∃ n, qs.flatten.length = n + 1 := Nat.exists_eq_succ_of_ne_zero (by omega)
        have hgrew : (takeRound limit qs batch).2.length ≠ batch.length := by
          rw [hround, List.length_append, List.length_take]
          omega
        rw [if_neg hgrew, hn, roundRobin_succ]
        by_cases hfit : batch.length + (qs.filterMap List.head?).length ≤ limit
        · -- the round takes the first task of every queue and the rounds go on with the rest
          have hrest : ((qs.map List.tail).flatten.length) ≤ n := by omega
          have hheads' : (qs.filterMap List.head?).take (limit - batch.length) = qs.filterMap List.head? :=
            List.take_of_length_le (by omega)
          rw [takeRound_queues qs batch hfit, hround, hheads', takeRounds_eq fuel _ _ (by simp; omega) (by omega),
            roundRobin_fuel (fun q hq => (List.sublist_flatten_of_mem hq).length_le) hrest, List.take_append,
            List.take_of_length_le (Nat.le_sub_of_add_le' hfit), List.append_assoc]
          congr 3
          simp only [List.length_append]
          omega
        · -- the round breaks off with the batch full, and the loop stops there
          have hfull : (takeRound limit qs batch).2.length = limit := by
            rw [hround, List.length_append, List.length_take]
            omega
          rw [takeRounds_of_full hfull, hround, List.take_append_of_le_length (by omega)]
    · have hfull : batch.length = limit := by omega
      rw [takeRounds_of_full hfull, hfull, Nat.sub_self, List.take_zero, List.append_nil]

end Loop

/-- The dispatcher's loop gives the first `limit` tasks of the round-robin order of the tenants' queues. -/
theorem fairInterleave_eq_take_roundRobin (ready : List (String × α)) (limit : Nat) :
    fairInterleave ready limit = (roundRobin ready.length ((groupByKey ready).map (·.2))).take limit := by
  have hlen : ((groupByKey ready).map (·.2)).flatten.length = ready.length := by
    rw [(flatten_groupByKey ready).length_eq, List.length_map]
  unfold fairInterleave
  rw [takeRounds_eq _ _ _ (Nat.zero_le _) (by omega), hlen]
  rfl

/-- A fair batch is a sub-permutation of the ready values. -/
theorem fairInterleave_subperm (ready : List (String × α)) (limit : Nat) :
    List.Subperm (fairInterleave ready limit) (ready.map (·.2)) :=
  fairInterleave_eq_take_roundRobin ready limit ▸ ((List.take_sublist _ _).subperm.trans (roundRobin_subperm _ _)).trans (flatten_groupByKey ready).subperm

theorem fairInterleave_nodup {ready : List (String × α)} (h : (ready.map (·.2)).Nodup) (limit : Nat) :
    (fairInterleave ready limit).Nodup := by
  obtain ⟨l, hp, hs⟩ := fairInterleave_subperm ready limit
  exact hp.nodup (hs.nodup h)

theorem mem_of_mem_fairInterleave {ready : List (String × α)} {limit : Nat} {x : α}
    (h : x ∈ fairInterleave ready limit) : x ∈ ready.map (·.2) :=
  (fairInterleave_subperm ready limit).subset h

theorem length_fairInterleave_le (ready : List (String × α)) (limit : Nat) :
    (fairInterleave ready limit).length ≤ limit :=
  fairInterleave_eq_take_roundRobin ready limit ▸ List.length_take_le _ _

/-! ## Handing a batch out -/

/-- With enough fuel and runs of positive length, the runs read in order are the list. -/
theorem flatten_chunks_go {n : Nat} (hn : 0 < n) :
    ∀ (fuel : Nat) (xs : List α), xs.length ≤ fuel * n → (chunks.go n fuel xs).flatten = xs
  | 0, [], _ => rfl
  | 0, _ :: _, h => by simp at h
  | _ + 1, [], _ => by simp [chunks.go]
  | fuel + 1, x :: xs, h => by
    have hd : (List.drop n (x :: xs)).length ≤ fuel * n := by
      rw [List.length_drop]
      rw [Nat.succ_mul] at h
      omega
    simp only [chunks.go, List.flatten_cons, flatten_chunks_go hn fuel _ hd, List.take_append_drop]

/-- A list of at most `k` runs of `n` cuts into at most `k` runs. -/
theorem length_chunks_go_le {n : Nat} : ∀ (fuel : Nat) (xs : List α) (k : Nat), xs.length ≤ k * n →
    (chunks.go n fuel xs).length ≤ k
  | 0, _, _, _ => by simp [chunks.go]
  | _ + 1, [], _, _ => by simp [chunks.go]
  | fuel + 1, x :: xs, k, h => by
    cases k with
    | zero => simp at h
    | succ k =>
      have hd : (List.drop n (x :: xs)).length ≤ k * n := by
        rw [List.length_drop]
        rw [Nat.succ_mul] at h
        omega
      simp only [chunks.go, List.length_cons]
      have := length_chunks_go_le fuel _ k hd
      omega

/-- Runs of `⌈|batch| / |workers|⌉` tasks cover the batch in at most as many runs as there are workers. -/
theorem distribute_chunks {batch : List α} {workers : List β} (hb : batch ≠ []) (hw : workers ≠ []) :
    let size := (batch.length + workers.length - 1) / workers.length
    (chunks size batch).flatten = batch ∧ (chunks size batch).length ≤ workers.length := by
  intro size
  have hk : 0 < workers.length := List.length_pos_iff.2 hw
  have hn : 0 < batch.length := List.length_pos_iff.2 hb
  have hcover : batch.length ≤ workers.length * size := by
    have hdm := Nat.div_add_mod (batch.length + workers.length - 1) workers.length
    have hlt := Nat.mod_lt (batch.length + workers.length - 1) hk
    show batch.length ≤ workers.length * ((batch.length + workers.length - 1) / workers.length)
    omega
  have hsize : 0 < size := Nat.pos_of_ne_zero fun h0 => by rw [h0, Nat.mul_zero] at hcover; omega
  exact ⟨flatten_chunks_go hsize _ _ (Nat.le_mul_of_pos_right _ hsize), length_chunks_go_le _ _ _ hcover⟩

/-- Every task of the batch is handed out, in order. -/
theorem distribute_flatten (batch : List α) {workers : List β} (hw : workers ≠ []) :
    ((distribute batch workers).map (·.2)).flatten = batch := by
  unfold distribute
  by_cases hb : batch = []
  · simp [hb]
  · have hb' : batch.isEmpty = false := by simpa using hb
    have hw' : workers.isEmpty = false := by simpa using hw
    obtain ⟨hflat, hlen⟩ := distribute_chunks hb hw
    simp only [hb', hw', Bool.or_false, Bool.false_eq_true, if_false]
    rw [List.map_snd_zip hlen, hflat]

/-- Every run goes to one of the workers. -/
theorem mem_distribute {batch : List α} {workers : List β} {p : β × List α} (h : p ∈ distribute batch workers) :
    p.1 ∈ workers := by
  unfold distribute at h
  split at h
  · cases h
  · exact (List.of_mem_zip h).1

/-- Every run of a cut into runs of a positive length `n` holds some element and at most `n`. -/
theorem mem_chunks_go {n : Nat} (hn : 0 < n) :
    ∀ (fuel : Nat) (xs : List α), ∀ ys ∈ chunks.go n fuel xs, ys ≠ [] ∧ ys.length ≤ n
  | 0, _, ys, h => by simp [chunks.go] at h
  | _ + 1, [], ys, h => by simp [chunks.go] at h
  | fuel + 1, _ :: xs, ys, h => by
    simp only [chunks.go, List.mem_cons] at h
    rcases h with rfl | h
    · exact ⟨by simp [List.take_eq_nil_iff]; omega, List.length_take_le _ _⟩
    · exact mem_chunks_go hn fuel _ ys h

/-- Pairing a list with another keeps a prefix of it as the first components. -/
theorem map_fst_zip_prefix : ∀ (xs : List β) (ys : List α), (xs.zip ys).map (·.1) <+: xs
  | [], _ => List.nil_prefix
  | _ :: _, [] => List.nil_prefix
  | _ :: xs, _ :: ys => List.cons_prefix_cons.2 ⟨rfl, map_fst_zip_prefix xs ys⟩

/-- How a batch is handed to workers. The runs go to the workers in order, so the `k`-th run to the `k`-th
worker and no worker twice; each run holds at least one task, so the run length is never zero (a cut into
runs of no task is where the slices of the batch would panic), and at most `⌈|batch| / |workers|⌉`; read
in order, the runs are the whole batch, each task once, so the pairing with the workers drops none. Nothing
is handed out exactly when there is no task or no worker. -/
theorem distribute_hands_out_batch (batch : List α) (workers : List β) :
    (distribute batch workers).map (·.1) <+: workers ∧ (distribute batch workers).length ≤ workers.length ∧
      (∀ r ∈ distribute batch workers, r.2 ≠ [] ∧ r.2.length ≤ batch.length ⌈/⌉ workers.length) ∧
      ((distribute batch workers).map (·.2)).flatten = (if workers = [] then [] else batch) ∧
      (distribute batch workers = [] ↔ batch = [] ∨ workers = []) := by
  by_cases hbw : batch = [] ∨ workers = []
  · -- nothing to hand out, or no one to hand it to
    have hr : distribute batch workers = [] := by rcases hbw with h | h <;> simp [distribute, h]
    rw [hr]
    rcases hbw with h | h <;> simp [h]
  obtain ⟨hb, hw⟩ := not_or.1 hbw
  have hk : 0 < workers.length := List.length_pos_iff.2 hw
  have hn : 0 < batch.length := List.length_pos_iff.2 hb
  have hpos : 0 < batch.length ⌈/⌉ workers.length := Nat.div_pos (by omega) hk
  have hruns : distribute batch workers = workers.zip (chunks (batch.length ⌈/⌉ workers.length) batch) := by
    have hb' : batch.isEmpty = false := by simpa using hb
    have hw' : workers.isEmpty = false := by simpa using hw
    simp only [distribute, hb', hw', Bool.or_false, Bool.false_eq_true, if_false,
      Nat.ceilDiv_eq_add_pred_div]
  have hpre : (distribute batch workers).map (·.1) <+: workers := hruns ▸ map_fst_zip_prefix workers _
  refine ⟨hpre, by simpa using hpre.length_le, fun r hr => ?_, ?_, ?_⟩
  · rw [hruns] at hr
    exact mem_chunks_go hpos _ _ _ (List.of_mem_zip hr).2
  · rw [if_neg hw]
    exact distribute_flatten batch hw
  · -- a batch of some task cuts into a first run, which goes to the first worker
    obtain ⟨x, xs, rfl⟩ := List.exists_cons_of_ne_nil hb
    obtain ⟨v, vs, rfl⟩ := List.exists_cons_of_ne_nil hw
    simp [hruns, chunks, chunks.go]

/-- Seven tasks for three workers go out in runs of three, three and one. -/
example : (distribute (List.range 7) ["a", "b", "c"]).map (·.2.length) = [3, 3, 1] := by decide

end Conveyor
