import Conveyor.Proofs.Service.Walk
import Conveyor.Proofs.Service.Fence
import Conveyor.Proofs.Service.QueryRetries
import Mathlib.Algebra.BigOperators.Group.Finset.Basic
import Mathlib.Algebra.BigOperators.Ring.Finset

/-!
# A walk of a directory ends

A parent whose source is a directory walks it (`Pipe.enumerate`): it keeps a stack of directories with
their depths, takes the last one, lists it and puts the directories of its listing on the stack one level
down. The stack can grow by a whole listing at each round, and a storage may list a directory inside
itself (a memory does for a key with an empty segment), so the walk ends for a reason of its own: a
directory past the depth bound `M` stops it before it is listed.

* `Pipe.enumerate_succ`: a walk is a loop of rounds (`Pipe.walkRound`).
* `Pipe.Walks`: a walk from a stack lists `n` directories and ends with an answer. It never changes the
  storage or the node's settings (`Pipe.keeps_ground_walkRound`), so it lists each directory as the
  storage does.
* `Pipe.Walks.le_budget`: when no listing holds more than `B` entries, a directory at depth `d ≤ M` costs
  at most `1 + B + ... + B ^ (M - d)` listings, the `budget` of its place on the stack; every round that
  goes on lowers the budget of the whole stack (`Pipe.walks_exists`).
* `Pipe.Asks`: each listing asks the storage at most `max 1 maxRetries` times (`Pipe.asks_exists`).
* `Pipe.Walks.depth_le`: a walk that succeeds never met a directory nested deeper than `M`.
* `Pipe.enumerate_ends`: together, from the root.
-/

namespace Conveyor

/-- `1 + B + ... + B ^ (k - 1)`: how many directories a tree of `k` levels has when a directory holds at
most `B` entries. -/
def levels (B : Nat) : Nat → Nat
  | 0 => 0
  | k + 1 => 1 + B * levels B k

theorem levels_eq_sum (B k : Nat) : levels B k = ∑ d ∈ Finset.range k, B ^ d := by
  induction k with
  | zero => rfl
  | succ k ih =>
    rw [levels, ih, Finset.sum_range_succ', Finset.mul_sum, pow_zero, Nat.add_comm]
    simp only [pow_succ, Nat.mul_comm]

theorem levels_lt_pow (B : Nat) : ∀ k, levels B k < Nat.pow (B + 2) k
  | 0 => Nat.zero_lt_one
  | k + 1 => by
    have ih := levels_lt_pow B k
    have h₁ : B * (levels B k + 1) ≤ B * Nat.pow (B + 2) k := Nat.mul_le_mul_left B ih
    show 1 + B * levels B k < Nat.pow (B + 2) k * (B + 2)
    rw [Nat.mul_add, Nat.mul_comm (Nat.pow (B + 2) k) B] at *
    omega

/-! ## How many entries a listing holds -/

namespace Memory

/-- Adding an entry to a listing adds at most one. -/
theorem length_addEntry_le (acc : List Entry) (e : Entry) : (addEntry acc e).length ≤ acc.length + 1 := by
  unfold addEntry
  split
  · split <;> simp
  · simp

/-- A fold that adds at most one entry per object adds at most as many entries as there are objects. -/
theorem length_foldl_le {f : List Entry → String × Bytes → List Entry}
    (hf : ∀ acc kv, (f acc kv).length ≤ acc.length + 1) :
    ∀ (objs : List (String × Bytes)) (acc : List Entry), (objs.foldl f acc).length ≤ acc.length + objs.length
  | [], acc => by simp
  | kv :: objs, acc => by
    have := hf acc kv
    have := length_foldl_le hf objs (f acc kv)
    simp only [List.foldl_cons, List.length_cons]
    omega

/-- A memory lists at most as many entries as it holds objects. -/
theorem length_list_le {m : Memory} {path : String} {es : List Entry} (h : m.list path = .ok es) :
    es.length ≤ m.objects.length := by
  rw [list_eq, candidates, List.foldl_filterMap] at h
  split at h
  · cases h
  · cases h
    rw [List.length_mergeSort]
    refine (length_foldl_le (fun acc kv => ?_) _ _).trans (by simp)
    split
    · exact length_addEntry_le acc _
    · omega

end Memory

/-- A directory of a disk names at most as many entries as the disk has items. -/
theorem Disk.length_readDir_le {d : Disk} {dp : DiskPath} {names : List String} (h : d.readDir dp = .ok names) :
    names.length ≤ d.items.length := by
  unfold Disk.readDir at h
  split at h
  · cases h
  · cases h
  · cases h
    rw [Disk.namesIn, List.length_mergeSort]
    exact List.length_filterMap_le _ _

namespace Storage

/-- The objects of one memory, counted among those of all. -/
theorem length_objects_le (st : Storage) (slot : Nat) :
    (st.memoryAt slot).objects.length ≤ (st.memories.map fun m => m.objects.length).foldl (· + ·) 0 := by
  rw [← List.sum_eq_foldl_nat, Storage.memoryAt]
  induction st.memories generalizing slot with
  | nil => simp
  | cons m ms ih =>
    cases slot with
    | zero => simp
    | succ n =>
      have := ih n
      simp only [List.getD_cons_succ, List.map_cons, List.sum_cons]
      omega

/-- No listing of a storage holds more entries than its width. -/
theorem length_list_le {st : Storage} {b : Backend} {path : String} {es : List Entry}
    (h : st.list b path = .ok es) : es.length ≤ st.width := by
  unfold list at h
  split at h
  · have := Memory.length_list_le h
    have := st.length_objects_le ‹Nat›
    unfold width
    omega
  · cases h
  · dsimp only at h
    split at h
    · cases h
    · cases h
      have := Disk.length_readDir_le ‹_›
      simp only [List.length_map]
      unfold width
      omega

/-- The storage lists directories nested `n` levels below `D`: a chain of directories, each one a directory
of the listing of the one before. -/
inductive Nested (st : Storage) (b : Backend) : String → Nat → Prop
  | here (D : String) : Nested st b D 0
  | under {D : String} {es : List Entry} {e : Entry} {n : Nat} : st.list b D = .ok es → e ∈ es →
      e.isDir = true → Nested st b e.path n → Nested st b D (n + 1)

end Storage

namespace Pipe

variable {α β : Type}

theorem throw_bind' (e : Failure) (f : α → PipeM β) : (throw e >>= f : PipeM β) = throw e := rfl

/-! ## The rounds of a walk -/

/-- A round of a walk whose stack ends with the directory `dir` at `depth`, over the rest `l` of the stack:
a cancelled token, or a directory past the depth bound, stops the walk before the directory is listed;
otherwise it is listed, its files found and its directories put on the stack one level down, and more
files than the bound stop the walk. -/
def walkRound (b : Backend) (source destination : Location) (id : TaskId) (dir : String) (depth : Nat)
    (l : Listing) : PipeM Listing := do
  if ← tokenCancelled then throw (.error .cancelled)
  let w := (← get).service.worker
  if depth > w.maxDepth then
    throw (.error (.other (dir ++ ": directory nesting exceeds " ++ toString w.maxDepth ++ " levels")))
  let entries ← retrying (·.list b dir) id
  let l ← match addEntries source destination (depth + 1) entries l with
    | .ok l => pure l
    | .error e => throw (.error e)
  if l.found.length > w.maxChildren then
    throw (.error (.other (source.render ++ " holds more than " ++ toString w.maxChildren ++ " files")))
  return l

variable {b : Backend} {source destination : Location} {id : TaskId}

/-- A walk with fuel left runs a round on the last directory of its stack, then walks on. -/
theorem enumerate_succ (fuel : Nat) (l : Listing) :
    enumerate b source destination id (fuel + 1) l =
      match l.pending.getLast? with
      | none => pure l.found
      | some (dir, depth) =>
        walkRound b source destination id dir depth { l with pending := l.pending.dropLast } >>=
          enumerate b source destination id fuel := by
  rcases h : l.pending.getLast? with _ | ⟨dir, depth⟩
  · simp only [enumerate, h]
  · simp only [enumerate, h, walkRound, bind_assoc, pure_bind, throw_bind']
    refine bind_congr fun (c : Bool) => ?_
    cases c
    · simp only [Bool.false_eq_true, if_false, bind_assoc]
      refine bind_congr fun (q : Pipe) => ?_
      by_cases hd : depth > q.service.worker.maxDepth
      · simp only [hd, if_true, throw_bind']
      · simp only [hd, if_false, bind_assoc]
        refine bind_congr fun (es : List Entry) => ?_
        cases addEntries source destination (depth + 1) es { found := l.found, pending := l.pending.dropLast } with
        | error e => simp only [throw_bind']
        | ok l' =>
          by_cases hn : l'.found.length > q.service.worker.maxChildren
          · simp only [hn, if_true, throw_bind']
          · simp only [hn, if_false, pure_bind]
    · simp only [if_true, throw_bind']

/-! ## What a walk keeps -/

/-- The settings of the node's workers and its storage: what no walk changes. -/
def ground (p : Pipe) : WorkerSettings × Storage := (p.service.worker, p.service.storage)

theorem keeps_ground_liftStore (m : StoreM α) : Keeps ground (lift (Service.liftStore m)) := fun _ => rfl

theorem keeps_storage_sleep : Keeps storage sleep := by
  have hwait : Keeps storage (do pause; if ← tokenCancelled then throw (.error .cancelled) else pure ()) :=
    keeps_storage_pause.bind fun _ => keeps_tokenCancelled.bind fun _ => (Keeps.throw _).ite (Keeps.pure _)
  exact keeps_tokenCancelled.bind fun _ => ((Keeps.throw _).bind fun _ => hwait).ite hwait

theorem keeps_ground_sleep : Keeps ground sleep := fun p => by
  have hw := congrArg Prod.fst (keeps_sleep p)
  exact Prod.ext hw (keeps_storage_sleep p)

theorem keeps_ground_queryRound (query : Storage → Except Error α) (attempts : Nat) :
    Keeps ground (queryRound query id attempts) := by
  refine Keeps.get.bind fun p => ?_
  split
  · exact Keeps.pure _
  · refine Keeps.get.bind fun _ => Keeps.ite ?_ (Keeps.throw _)
    exact Keeps.get.bind fun _ => (keeps_ground_liftStore _).bind fun _ =>
      keeps_ground_sleep.bind fun _ => Keeps.pure _

theorem keeps_ground_withRetry (query : Storage → Except Error α) :
    ∀ (fuel attempts : Nat), Keeps ground (withRetry query id fuel attempts)
  | 0, _ => Keeps.throw _
  | fuel + 1, attempts => by
    rw [withRetry_succ]
    refine (keeps_ground_queryRound query attempts).bind fun r => ?_
    cases r with
    | answered a => exact Keeps.pure _
    | retry e => exact keeps_ground_withRetry query fuel (attempts + 1)

theorem keeps_ground_retrying (query : Storage → Except Error α) : Keeps ground (retrying query id) :=
  Keeps.get.bind fun _ => keeps_ground_withRetry query _ 0

theorem keeps_ground_walkRound (dir : String) (depth : Nat) (l : Listing) :
    Keeps ground (walkRound b source destination id dir depth l) := by
  unfold walkRound
  refine keeps_tokenCancelled.bind fun _ => ?_
  refine Keeps.ite ((Keeps.throw _).bind fun _ => ?_) ?_ <;>
  · refine Keeps.get.bind fun _ => Keeps.ite ((Keeps.throw _).bind fun _ => ?_) ?_ <;>
    · refine (keeps_ground_retrying _).bind fun es => ?_
      split <;> [skip; exact (Keeps.throw _).bind fun _ => Keeps.ite ((Keeps.throw _).bind fun _ => Keeps.pure _) (Keeps.pure _)]
      exact (Keeps.pure _).bind fun _ => Keeps.ite ((Keeps.throw _).bind fun _ => Keeps.pure _) (Keeps.pure _)

/-! ## How often a listing asks the storage -/

/-- A query with retries, from `attempts` retries in the pipeline `p`, asks the storage `n` times and ends with
`r` in `q`: each round asks once, and goes round again after a transient failure recorded as a retry. -/
inductive Asks (query : Storage → Except Error α) (id : TaskId) : Nat → Pipe → Nat → Except Failure α → Pipe → Prop
  | answered {attempts p a q} : exec (queryRound query id attempts) p = (.ok (.answered a), q) →
      Asks query id attempts p 1 (.ok a) q
  | failed {attempts p f q} : exec (queryRound query id attempts) p = (.error f, q) →
      Asks query id attempts p 1 (.error f) q
  | retried {attempts p e p' n r q} : exec (queryRound query id attempts) p = (.ok (.retry e), p') →
      Asks query id (attempts + 1) p' n r q → Asks query id attempts p (n + 1) r q

/-- A round goes round again only below the bound of the node's policy, and keeps the node's settings. -/
theorem queryRound_retry {query : Storage → Except Error α} {attempts : Nat} {p p' : Pipe} {e : Error}
    (h : exec (queryRound query id attempts) p = (.ok (.retry e), p')) :
    attempts + 1 < p.service.worker.retry.maxRetries ∧ ground p' = ground p := by
  refine ⟨?_, (keeps_ground_queryRound query attempts).eq_of_run h⟩
  unfold queryRound at h
  rw [exec_bind, exec_get] at h
  dsimp only at h
  split at h
  · cases h
  · rw [exec_bind, exec_get] at h
    dsimp only at h
    split at h
    · rename_i hc
      exact of_decide_eq_true (Bool.and_eq_true _ _ ▸ hc).2
    · cases h

/-- A round answers only what the storage answers: it reads the storage once. -/
theorem queryRound_answered {query : Storage → Except Error α} {attempts : Nat} {p p' : Pipe} {a : α}
    (h : exec (queryRound query id attempts) p = (.ok (.answered a), p')) : query p.service.storage = .ok a := by
  unfold queryRound at h
  rw [exec_bind, exec_get] at h
  dsimp only at h
  split at h
  · cases h
    assumption
  · -- a failed query goes round again or fails, and answers nothing
    rw [exec_bind, exec_get] at h
    dsimp only at h
    split at h
    · rw [exec_bind, exec_get] at h
      dsimp only at h
      rw [exec_bind] at h
      split at h <;> [skip; cases h]
      rw [exec_bind] at h
      split at h <;> cases h
    · cases h

/-- A query with retries ends after at most `max 1 (maxRetries - attempts)` questions to the storage. -/
theorem asks_exists (query : Storage → Except Error α) (id : TaskId) :
    ∀ (k attempts : Nat) (p : Pipe), p.service.worker.retry.maxRetries - attempts ≤ k →
      ∃ n r q, Asks query id attempts p n r q ∧ n ≤ max 1 (p.service.worker.retry.maxRetries - attempts) := by
  intro k
  induction k with
  | zero =>
    intro attempts p hk
    rcases hr : exec (queryRound query id attempts) p with ⟨_ | (a | e), q⟩
    · exact ⟨1, _, q, .failed hr, by omega⟩
    · exact ⟨1, _, q, .answered hr, by omega⟩
    · have := (queryRound_retry hr).1
      omega
  | succ k ih =>
    intro attempts p hk
    rcases hr : exec (queryRound query id attempts) p with ⟨_ | (a | e), q⟩
    · exact ⟨1, _, q, .failed hr, by omega⟩
    · exact ⟨1, _, q, .answered hr, by omega⟩
    · -- a retry leaves one attempt less below the same bound
      obtain ⟨hlt, hg⟩ := queryRound_retry hr
      have hm : q.service.worker.retry.maxRetries = p.service.worker.retry.maxRetries := by
        rw [show q.service.worker = p.service.worker from congrArg Prod.fst hg]
      obtain ⟨n, r, q', ha, hn⟩ := ih (attempts + 1) q (by omega)
      exact ⟨n + 1, r, q', .retried hr ha, by omega⟩

/-- Fuel for every question a query asks runs it to its end. -/
theorem Asks.exec_withRetry {query : Storage → Except Error α} {attempts n : Nat} {p q : Pipe}
    {r : Except Failure α} (h : Asks query id attempts p n r q) :
    ∀ fuel, n ≤ fuel → exec (withRetry query id fuel attempts) p = (r, q) := by
  induction h with
  | answered hr =>
    intro fuel hf
    obtain ⟨fuel, rfl⟩ : ∃ f, fuel = f + 1 := ⟨fuel - 1, by omega⟩
    rw [withRetry_succ, exec_bind, hr]
    rfl
  | failed hr =>
    intro fuel hf
    obtain ⟨fuel, rfl⟩ : ∃ f, fuel = f + 1 := ⟨fuel - 1, by omega⟩
    rw [withRetry_succ, exec_bind, hr]
  | retried hr _ ih =>
    intro fuel hf
    obtain ⟨fuel, rfl⟩ : ∃ f, fuel = f + 1 := ⟨fuel - 1, by omega⟩
    rw [withRetry_succ, exec_bind, hr]
    exact ih fuel (by omega)

/-- A storage query with retries asks the storage at most `max 1 maxRetries` times. -/
theorem retrying_asks (query : Storage → Except Error α) (id : TaskId) (p : Pipe) :
    ∃ n r q, Asks query id 0 p n r q ∧ n ≤ max 1 p.service.worker.retry.maxRetries ∧
      exec (retrying query id) p = (r, q) := by
  obtain ⟨n, r, q, ha, hn⟩ := asks_exists query id _ 0 p le_rfl
  refine ⟨n, r, q, ha, by simpa using hn, ?_⟩
  rw [exec_retrying]
  exact ha.exec_withRetry _ (by omega)

/-- A query with retries answers what the storage answers: the storage does not change between rounds. -/
theorem withRetry_answer {query : Storage → Except Error α} :
    ∀ {fuel attempts : Nat} {p q : Pipe} {a : α}, exec (withRetry query id fuel attempts) p = (.ok a, q) →
      query p.service.storage = .ok a
  | 0, _, _, _, _, h => by cases h
  | fuel + 1, attempts, p, q, a, h => by
    rw [withRetry_succ, exec_bind] at h
    rcases hr : exec (queryRound query id attempts) p with ⟨_ | (a' | e), p'⟩
    · rw [hr] at h
      cases h
    · rw [hr] at h
      cases h
      exact queryRound_answered hr
    · rw [hr] at h
      have hs : p'.service.storage = p.service.storage := congrArg Prod.snd (queryRound_retry hr).2
      rw [← hs]
      exact withRetry_answer h

theorem retrying_answer {query : Storage → Except Error α} {p q : Pipe} {a : α}
    (h : exec (retrying query id) p = (.ok a, q)) : query p.service.storage = .ok a := by
  rw [exec_retrying] at h
  exact withRetry_answer h

/-! ## Walks -/

/-- Adding entries puts the directories among them on the stack, in order, whatever becomes of the files. -/
theorem addEntries_pending {depth : Nat} :
    ∀ {es : List Entry} {l l' : Listing}, addEntries source destination depth es l = .ok l' →
      l'.pending = l.pending ++ (es.filter (·.isDir)).map fun e => (e.path, depth)
  | [], l, l', h => by
    cases h
    simp
  | e :: es, l, l', h => by
    unfold addEntries at h
    by_cases hd : e.isDir = true
    · rw [if_pos hd] at h
      rw [addEntries_pending h]
      simp [hd]
    · rw [if_neg hd] at h
      split at h
      · dsimp only at h
        rw [addEntries_pending h]
        simp [hd]
      · cases h

/-- A round that goes on listed its directory as the storage lists it, at a depth within the bound and with
the token not cancelled, and put the directories of the listing on the stack one level down. -/
theorem walkRound_ok {dir : String} {depth : Nat} {l l' : Listing} {p p' : Pipe}
    (h : exec (walkRound b source destination id dir depth l) p = (.ok l', p')) :
    p.run.cancelled = false ∧ depth ≤ p.service.worker.maxDepth ∧ ground p' = ground p ∧
      ∃ es, p.service.storage.list b dir = .ok es ∧
        l'.pending = l.pending ++ (es.filter (·.isDir)).map fun e => (e.path, depth + 1) := by
  have hg := (keeps_ground_walkRound dir depth l).eq_of_run h
  unfold walkRound at h
  rw [exec_bind, exec_tokenCancelled] at h
  dsimp only at h
  cases hc : p.run.cancelled
  · rw [hc] at h
    simp only [Bool.false_eq_true, if_false, exec_bind, exec_get] at h
    by_cases hd : depth > p.service.worker.maxDepth
    · simp only [hd, if_true] at h
      cases h
    · simp only [hd, if_false] at h
      refine ⟨rfl, by omega, hg, ?_⟩
      rw [exec_bind] at h
      rcases hq : exec (retrying (·.list b dir) id) p with ⟨_ | es, p₁⟩
      · rw [hq] at h
        cases h
      · rw [hq] at h
        dsimp only at h
        refine ⟨es, retrying_answer hq, ?_⟩
        cases ha : addEntries source destination (depth + 1) es l with
        | error e =>
          rw [ha] at h
          simp only [throw_bind', exec_throw] at h
          cases h
        | ok l₁ =>
          rw [ha] at h
          simp only [pure_bind] at h
          split at h
          · simp only [throw_bind', exec_throw] at h
            cases h
          · rw [exec_pure] at h
            cases h
            exact addEntries_pending ha
  · rw [hc] at h
    simp only [if_true, exec_bind, exec_throw] at h
    cases h

/-- A walk from a stack, in the pipeline `p`, lists `n` directories and ends with `r` in `q`. -/
inductive Walks (b : Backend) (source destination : Location) (id : TaskId) :
    Listing → Pipe → Nat → Except Failure (List ChildSpec) → Pipe → Prop
  /-- Nothing is left to list: the walk gives the files it found. -/
  | done {l p} : l.pending = [] → Walks b source destination id l p 0 (.ok l.found) p
  /-- A cancelled token, or a directory past the depth bound, stops the walk before it lists. -/
  | halt {l p P D d e q} : l.pending = P ++ [(D, d)] →
      (p.run.cancelled = true ∨ p.service.worker.maxDepth < d) →
      exec (walkRound b source destination id D d { l with pending := P }) p = (.error e, q) →
      Walks b source destination id l p 0 (.error e) q
  /-- The last directory is listed, and the listing or what follows it stops the walk. -/
  | fail {l p P D d e q} : l.pending = P ++ [(D, d)] → p.run.cancelled = false →
      d ≤ p.service.worker.maxDepth →
      exec (walkRound b source destination id D d { l with pending := P }) p = (.error e, q) →
      Walks b source destination id l p 1 (.error e) q
  /-- The last directory is listed and the walk goes on. -/
  | next {l p P D d l' p' n r q} : l.pending = P ++ [(D, d)] →
      exec (walkRound b source destination id D d { l with pending := P }) p = (.ok l', p') →
      Walks b source destination id l' p' n r q → Walks b source destination id l p (n + 1) r q

/-- Fuel past the directories a walk lists runs it to its end. -/
theorem Walks.exec_enumerate {l : Listing} {p q : Pipe} {n : Nat} {r : Except Failure (List ChildSpec)}
    (h : Walks b source destination id l p n r q) :
    ∀ fuel, n < fuel → exec (enumerate b source destination id fuel l) p = (r, q) := by
  induction h with
  | done hl =>
    intro fuel hf
    obtain ⟨fuel, rfl⟩ : ∃ f, fuel = f + 1 := ⟨fuel - 1, by omega⟩
    rw [enumerate_succ, hl]
    rfl
  | halt hl _ he | fail hl _ _ he =>
    intro fuel hf
    obtain ⟨fuel, rfl⟩ : ∃ f, fuel = f + 1 := ⟨fuel - 1, by omega⟩
    rw [enumerate_succ, hl, List.getLast?_concat, List.dropLast_concat]
    dsimp only
    rw [exec_bind, he]
  | next hl he _ ih =>
    intro fuel hf
    obtain ⟨fuel, rfl⟩ : ∃ f, fuel = f + 1 := ⟨fuel - 1, by omega⟩
    rw [enumerate_succ, hl, List.getLast?_concat, List.dropLast_concat]
    dsimp only
    rw [exec_bind, he]
    exact ih fuel (by omega)

/-! ## The budget of a stack -/

/-- What a walk that may go `M` levels down, through listings of at most `B` entries, can still list from its
stack: `1 + B + ... + B ^ (M - d)` for a directory at depth `d ≤ M`, nothing for one deeper. -/
def budget (B M : Nat) : List (String × Nat) → Nat
  | [] => 0
  | x :: xs => levels B (M + 1 - x.2) + budget B M xs

theorem budget_append (B M : Nat) (xs ys : List (String × Nat)) :
    budget B M (xs ++ ys) = budget B M xs + budget B M ys := by
  induction xs with
  | nil => simp [budget]
  | cons x xs ih => simp only [List.cons_append, budget, ih]; omega

theorem budget_map (B M d : Nat) (cs : List String) :
    budget B M (cs.map fun c => (c, d + 1)) = cs.length * levels B (M - d) := by
  induction cs with
  | nil => simp [budget]
  | cons c cs ih =>
    rw [List.map_cons, budget, ih, List.length_cons, Nat.succ_mul, show M + 1 - (d + 1) = M - d by omega]
    omega

/-- Listing a directory within the depth bound lowers the budget of the stack: the directory leaves it, and
each of at most `B` directories of its listing comes one level down. -/
theorem budget_listed {B M d : Nat} {P : List (String × Nat)} {D : String} {es : List Entry}
    (hd : d ≤ M) (hB : es.length ≤ B) :
    budget B M (P ++ (es.filter (·.isDir)).map fun e => (e.path, d + 1)) + 1 ≤ budget B M (P ++ [(D, d)]) := by
  have hmap : ((es.filter (·.isDir)).map fun e => (e.path, d + 1)) =
      ((es.filter (·.isDir)).map (·.path)).map fun c => (c, d + 1) := by
    rw [List.map_map]; rfl
  rw [hmap, budget_append, budget_append, budget_map, List.length_map]
  have hlen : (es.filter (·.isDir)).length * levels B (M - d) ≤ B * levels B (M - d) :=
    Nat.mul_le_mul_right _ ((List.length_filter_le _ _).trans hB)
  have hlev : levels B (M + 1 - d) = 1 + B * levels B (M - d) := by
    rw [show M + 1 - d = (M - d) + 1 by omega, levels]
  simp only [budget, hlev]
  omega

section Walks

variable {B : Nat}

/-- A walk lists no more directories than the budget of its stack. By induction on the walk: the directory
listed is within the depth bound, so its place on the stack costs at least one listing. -/
theorem Walks.le_budget {l : Listing} {p q : Pipe} {n : Nat} {r : Except Failure (List ChildSpec)}
    (h : Walks b source destination id l p n r q)
    (hB : ∀ D es, p.service.storage.list b D = .ok es → es.length ≤ B) :
    n ≤ budget B p.service.worker.maxDepth l.pending := by
  revert hB
  induction h with
  | done => exact fun _ => Nat.zero_le _
  | halt => exact fun _ => Nat.zero_le _
  | @fail l p P D d e q hl _ hd _ =>
    intro _
    have hpos : 0 < levels B (p.service.worker.maxDepth + 1 - d) := by
      rw [show p.service.worker.maxDepth + 1 - d = (p.service.worker.maxDepth - d) + 1 by omega, levels]
      omega
    rw [hl, budget_append]
    simp only [budget]
    omega
  | @next l p P D d l' p' n r q hl he _ ih =>
    intro hB
    obtain ⟨-, hd, hg, es, hes, hpend⟩ := walkRound_ok he
    have hw : p'.service.worker = p.service.worker := congrArg Prod.fst hg
    have hs : p'.service.storage = p.service.storage := congrArg Prod.snd hg
    have ih' := ih fun D' es' h' => hB D' es' (hs ▸ h')
    rw [hw, hpend] at ih'
    have := budget_listed (P := P) (D := D) hd (hB _ _ hes)
    rw [hl]
    dsimp only at ih'
    omega

/-- Every walk ends: with no listing of its storage holding more than `B` entries, each round that goes on
lowers the budget of the stack. -/
theorem walks_exists {st : Storage} (hB : ∀ D es, st.list b D = .ok es → es.length ≤ B) :
    ∀ (l : Listing) (p : Pipe), p.service.storage = st → ∃ n r q, Walks b source destination id l p n r q := by
  suffices h : ∀ k (l : Listing) (p : Pipe), p.service.storage = st →
      budget B p.service.worker.maxDepth l.pending ≤ k → ∃ n r q, Walks b source destination id l p n r q from
    fun l p hs => h _ l p hs le_rfl
  intro k
  induction k using Nat.strong_induction_on with
  | _ k ih =>
    intro l p hs hk
    rcases List.eq_nil_or_concat l.pending with hnil | ⟨P, ⟨D, d⟩, hl⟩
    · exact ⟨0, _, p, .done hnil⟩
    rw [List.concat_eq_append] at hl
    rcases hr : exec (walkRound b source destination id D d { l with pending := P }) p with ⟨_ | l', p'⟩
    · -- the round stops the walk, before or after it lists the directory
      by_cases hstop : p.run.cancelled = true ∨ p.service.worker.maxDepth < d
      · exact ⟨0, _, _, .halt hl hstop hr⟩
      · simp only [not_or, Bool.not_eq_true, Nat.not_lt] at hstop
        exact ⟨1, _, _, .fail hl hstop.1 hstop.2 hr⟩
    · -- the round goes on from a stack of a lower budget
      obtain ⟨-, hd, hg, es, hes, hpend⟩ := walkRound_ok hr
      have hw : p'.service.worker = p.service.worker := congrArg Prod.fst hg
      have hs' : p'.service.storage = st := (congrArg Prod.snd hg).trans hs
      have hlow := budget_listed (P := P) (D := D) hd (hB _ _ (hs ▸ hes))
      rw [← hl] at hlow
      obtain ⟨n, r, q, hw'⟩ := ih (budget B p.service.worker.maxDepth l'.pending) (by rw [hpend]; dsimp only; omega) l' p' hs'
        (by rw [hw])
      exact ⟨n + 1, r, q, .next hl hr hw'⟩

/-- A walk that meets a directory with directories nested below it past the depth bound fails: every directory
it puts on its stack is taken and listed before the stack empties, down to one past the bound. -/
theorem Walks.fails_of_nested {l : Listing} {p q : Pipe} {n : Nat} {r : Except Failure (List ChildSpec)}
    (h : Walks b source destination id l p n r q) :
    (∃ x ∈ l.pending, ∃ k, Storage.Nested p.service.storage b x.1 k ∧ p.service.worker.maxDepth < x.2 + k) →
      ∃ e, r = .error e := by
  induction h with
  | done hl =>
    rintro ⟨x, hx, -⟩
    rw [hl] at hx
    cases hx
  | halt => exact fun _ => ⟨_, rfl⟩
  | fail => exact fun _ => ⟨_, rfl⟩
  | @next l p P D d l' p' n r q hl he _ ih =>
    rintro ⟨x, hx, k, hN, hk⟩
    obtain ⟨-, hd, hg, es, hes, hpend⟩ := walkRound_ok he
    have hw : p'.service.worker = p.service.worker := congrArg Prod.fst hg
    have hs : p'.service.storage = p.service.storage := congrArg Prod.snd hg
    refine ih ?_
    rw [hw, hs, hpend]
    rw [hl] at hx
    rcases List.mem_append.1 hx with hP | hD
    · exact ⟨x, List.mem_append_left _ hP, k, hN, hk⟩
    · -- the listed directory is within the bound, so the chain below it goes on in its listing
      rw [List.mem_singleton] at hD
      subst hD
      cases hN with
      | here => dsimp only at hk; omega
      | @under _ es' e j hes' he' hdir hN' =>
        rw [hes] at hes'
        cases hes'
        refine ⟨(e.path, d + 1), List.mem_append_right _ (List.mem_map.2 ⟨e, List.mem_filter.2 ⟨he', hdir⟩, rfl⟩),
          j, hN', ?_⟩
        dsimp only at hk ⊢
        omega

end Walks

/-- The fuel `stage` gives the walk from a root is past its end: any more fuel gives the same walk. -/
theorem exec_enumerate_of_listingBound_le {p : Pipe} {F : Nat} (hF : listingBound p.service ≤ F) (root : String) :
    exec (enumerate b source destination id F { pending := [(root, 0)] }) p =
      exec (enumerate b source destination id (listingBound p.service) { pending := [(root, 0)] }) p := by
  have hB : ∀ D es, p.service.storage.list b D = .ok es → es.length ≤ p.service.storage.width :=
    fun _ _ h => Storage.length_list_le h
  obtain ⟨n, r, q, hw⟩ := @walks_exists b source destination id _ _ hB { pending := [(root, 0)] } p rfl
  have hn : n < listingBound p.service := by
    have := hw.le_budget hB
    simp only [budget, Nat.sub_zero, Nat.add_zero] at this
    exact Nat.lt_of_le_of_lt this (levels_lt_pow _ _)
  rw [hw.exec_enumerate F (by omega), hw.exec_enumerate _ hn]

/-- The walk of a parent's source directory ends, whatever its storage lists, directories inside themselves
included. Say no listing of the storage holds more than `B` entries, and the walk may go `M` levels down: it
lists `n ≤ 1 + B + ... + B ^ M` directories and ends; the fuel `stage` gives it is past that, as is every
larger fuel, so the fuel never cuts it short. It fails when the storage nests directories more than `M`
levels below the root, rather than going round. Each listing asks the storage at most `max 1 maxRetries`
times. -/
theorem enumerate_ends (b : Backend) (source destination : Location) (id : TaskId) (root : String) (p : Pipe)
    (B : Nat) (hB : ∀ D es, p.service.storage.list b D = .ok es → es.length ≤ B) :
    let M := p.service.worker.maxDepth
    let start : Listing := { pending := [(root, 0)] }
    ∃ n r q, Walks b source destination id start p n r q ∧
      n ≤ ∑ d ∈ Finset.range (M + 1), B ^ d ∧ n < listingBound p.service ∧
      (∀ fuel, n < fuel → exec (enumerate b source destination id fuel start) p = (r, q)) ∧
      (Storage.Nested p.service.storage b root (M + 1) → ∃ e, r = .error e) ∧
      ∀ (D : String) (q' : Pipe), q'.service.worker = p.service.worker →
        ∃ k r' q'', Asks (·.list b D) id 0 q' k r' q'' ∧ k ≤ max 1 p.service.worker.retry.maxRetries ∧
          exec (retrying (·.list b D) id) q' = (r', q'') := by
  intro M start
  have hW : ∀ D es, p.service.storage.list b D = .ok es → es.length ≤ p.service.storage.width :=
    fun _ _ h => Storage.length_list_le h
  obtain ⟨n, r, q, hw⟩ := @walks_exists b source destination id _ _ hW start p rfl
  have hroot : ∀ B', budget B' M start.pending = levels B' (M + 1) := fun B' => by simp [start, budget]
  have hn := hw.le_budget hB
  have hnW := hw.le_budget hW
  rw [hroot] at hn hnW
  refine ⟨n, r, q, hw, levels_eq_sum B (M + 1) ▸ hn, Nat.lt_of_le_of_lt hnW (levels_lt_pow _ _),
    fun fuel hf => hw.exec_enumerate fuel hf, fun hN => hw.fails_of_nested ⟨(root, 0), List.mem_singleton_self _,
      M + 1, hN, by omega⟩, fun D q' hq' => ?_⟩
  obtain ⟨k, r', q'', ha, hk, he⟩ := retrying_asks (·.list b D) id q'
  rw [hq'] at hk
  exact ⟨k, r', q'', ha, hk, he⟩

/-- A memory whose only key has an empty segment, `/in//x`, lists `/in/` below `/in` and below `/in/`
itself, so a walk of `/in` may go down forever; with one level allowed, it ends after at most two listings,
and fails. -/
theorem self_listing_walk_fails :
    let p : Pipe := ⟨{ Service.fresh ⟨⟨3, 100, 1000, 2.0⟩, 4096, 100, 1, 100⟩ ⟨1000, 2, 10, 10, 10⟩ with
      storage := { memories := [{ objects := [("/in//x", [7])] }] } }, ⟨⟨⟨1⟩⟩, .parent, ⟨⟨2⟩⟩, false, none⟩⟩
    let src : Location := ⟨{ scheme := "mem", authority := none, path := "/in", query := none, fragment := none },
      "src"⟩
    (∀ D es, p.service.storage.list (.memory 0) D = .ok es → es.length ≤ 1) ∧
      Storage.Nested p.service.storage (.memory 0) "/in" (p.service.worker.maxDepth + 1) ∧
      ∃ n r q, Walks (.memory 0) src src ⟨⟨2⟩⟩ { pending := [("/in", 0)] } p n r q ∧ n ≤ 2 ∧ ∃ e, r = .error e := by
  intro p src
  have hB : ∀ D es, p.service.storage.list (.memory 0) D = .ok es → es.length ≤ 1 :=
    fun _ _ h => (Storage.length_list_le h).trans (by decide)
  have hself : p.service.storage.list (.memory 0) "/in/" = .ok [Entry.directory "/in/"] := by decide +kernel
  have hN : Storage.Nested p.service.storage (.memory 0) "/in" (p.service.worker.maxDepth + 1) :=
    .under (by decide +kernel) (List.mem_singleton_self (Entry.directory "/in/")) rfl
      (.under hself (List.mem_singleton_self _) rfl (.here _))
  obtain ⟨n, r, q, hw, hn, -, -, herr, -⟩ := enumerate_ends (.memory 0) src src ⟨⟨2⟩⟩ "/in" p 1 hB
  have hsum : ∑ d ∈ Finset.range (p.service.worker.maxDepth + 1), 1 ^ d = 2 := by simp [p, Service.fresh]
  exact ⟨hB, hN, n, r, q, hw, hsum ▸ hn, herr hN⟩

end Pipe

end Conveyor
