import Conveyor.Proofs.Service.Rounds

/-!
# How often a storage query is retried

A parent pipeline asks the storage for the source (`stat`) and for every directory below it (`list`), each
through `Pipe.retrying`, which retries transient failures as the retry policy allows and records every retry on the
parent (`Store.recordParentRetry`).

* `Pipe.withRetry_succ`: the retries of a query are rounds (`Pipe.queryRound`): the query, and on a transient
  failure the policy allows to retry, a retry recorded on the parent and a wait.
* `Store.parentRetriesOf_steady`: only a recorded retry moves the count of a parent; the moves of tasks keep it, so a
  watch beside the pipeline keeps it too (`Pipe.keeps_sleep_of`).
* `Pipe.withRetry_counted`: the rounds of one query raise the parent's count by at most `maxRetries - 1`, whatever
  the count was before.

The policy's bound is the bound of one query: the count of the rounds starts at 0 for every query, while the
parent's count carries on from query to query and from one staging to the next.
-/

namespace Conveyor

namespace Store

/-- The count of the listing retries of a parent, as the store holds it. -/
def parentRetriesOf (s : Store) (id : TaskId) : Option Nat := (Table.find? s.parents id).map (·.retries)

/-- Only a recorded retry moves the count of a parent: a record written over another with the same count, and
handing tasks to other workers, keep every count. -/
theorem parentRetriesOf_steady : Steady parentRetriesOf where
  putTop _ _ := rfl
  putParent s p p' h _ hr := by
    funext id
    simp only [parentRetriesOf]
    rw [Table.find?_put]
    by_cases hk : p'.id = id
    · subst hk
      simp [Keyed.key, h, hr]
    · simp [Keyed.key, hk]
  putChild _ _ _ _ _ _ := rfl
  marks _ _ := rfl
  reassigned s s' h := by
    obtain ⟨g, hg⟩ := h.find?_parents
    funext id
    simp only [parentRetriesOf, hg, Option.map_map]
    rfl

variable {s : Store} {id : TaskId} {w : WorkerId} {k : Nat}

/-- A retry is recorded only by adding one to the parent's count, and gives the new count; a refused one writes
nothing. -/
theorem exec_recordParentRetry_count (hk : s.parentRetriesOf id = some k) :
    (exec (recordParentRetry id w) s).2 = s ∧ (∀ n, (exec (recordParentRetry id w) s).1 ≠ .ok n) ∨
      (exec (recordParentRetry id w) s).1 = .ok (k + 1) ∧
        (exec (recordParentRetry id w) s).2.parentRetriesOf id = some (k + 1) := by
  rcases @exec_recordParentRetry_cases s id w with ⟨e, he⟩ | ⟨p, n, hp, -, hn, he⟩
  · left
    rw [he]
    exact ⟨rfl, fun n h => by cases h⟩
  · -- the count read was the parent's, and the checked addition gave the plain sum
    right
    have hk' : p.retries = k := by
      simp only [parentRetriesOf, hp, Option.map_some, Option.some.injEq] at hk
      exact hk
    subst hk'
    obtain rfl := Word.eq_of_add_ok hn
    have hid : p.id = id := (Table.find?_eq_some hp).2
    rw [he]
    refine ⟨rfl, ?_⟩
    simp [parentRetriesOf, Table.find?_put, Keyed.key, hid]

end Store

namespace Pipe

/-! ## Rounds of a query -/

/-- How a round of a storage query ends: with the answer, or with a transient failure recorded as a retry. -/
inductive QueryEnd (α : Type) where
  | answered (a : α)
  | retry (e : Error)

variable {α : Type}

/-- One round of a storage query, after `attempts` retries: the query, and on a failure the policy allows to
retry, a retry recorded on the parent `id` and a wait. -/
def queryRound (query : Storage → Except Error α) (id : TaskId) (attempts : Nat) : PipeM (QueryEnd α) := do
  match query (← get).service.storage with
  | .ok a => return .answered a
  | .error e =>
    let w := (← get).service
    if e.shouldRetry && w.worker.retry.canRetry (attempts + 1) then
      let worker := (← get).run.worker
      let _ ← lift (Service.liftStore (Store.recordParentRetry id worker))
      sleep
      return .retry e
    else throw (.error e)

/-- What follows a round of a query: its answer, or the rounds the fuel has left, after one more retry. -/
def QueryEnd.next (query : Storage → Except Error α) (id : TaskId) (fuel attempts : Nat) : QueryEnd α → PipeM α
  | .answered a => pure a
  | .retry _ => withRetry query id fuel (attempts + 1)

/-- The retries of a query are a round, then what follows it. -/
theorem withRetry_succ (query : Storage → Except Error α) (id : TaskId) (fuel attempts : Nat) :
    withRetry query id (fuel + 1) attempts = queryRound query id attempts >>= QueryEnd.next query id fuel attempts := by
  simp only [withRetry, queryRound, bind_assoc]
  refine bind_congr fun p => ?_
  cases query p.service.storage with
  | ok a => simp [QueryEnd.next]
  | error e =>
    simp only [bind_assoc, apply_ite (fun m : PipeM (QueryEnd α) => m >>= QueryEnd.next query id fuel attempts)]
    refine bind_congr fun q => ?_
    split
    · simp [QueryEnd.next]
    · rfl

/-! ## Counts of a parent -/

/-- The pipeline's node runs workers with the settings `W` and holds `k` as the count of retries of the parent
`id`. -/
def ParentCounts (W : WorkerSettings) (id : TaskId) (k : Nat) (p : Pipe) : Prop :=
  p.service.worker = W ∧ p.service.store.parentRetriesOf id = some k

variable {W : WorkerSettings} {id : TaskId}

theorem ParentCounts.of_settingsAnd {k : Nat} {p p' : Pipe} (h : ParentCounts W id k p)
    (he : p'.settingsAnd Store.parentRetriesOf = p.settingsAnd Store.parentRetriesOf) : ParentCounts W id k p' :=
  ⟨(congrArg Prod.fst he).trans h.1, (congrFun (congrArg Prod.snd he) id).trans h.2⟩

/-- Recording a retry, then waiting: the parent's count goes one higher, or a refused record stops the round with
the count as it was. -/
theorem exec_recordRetry {k : Nat} {p : Pipe} (hp : ParentCounts W id k p) (v : WorkerId) (e : Error) :
    let r := exec (do
      let _ ← lift (Service.liftStore (Store.recordParentRetry id v))
      sleep
      return QueryEnd.retry (α := α) e) p
    ParentCounts W id k r.2 ∧ (∀ a, r.1 ≠ .ok a) ∨ ParentCounts W id (k + 1) r.2 ∧ ∀ a, r.1 = .ok a → a = .retry e := by
  dsimp only
  rw [exec_bind, exec_lift, Service.exec_liftStore]
  rcases Store.exec_recordParentRetry_count (w := v) hp.2 with ⟨hsame, hno⟩ | ⟨hok, hcount⟩
  · -- a refused record stops the round and writes nothing
    left
    rcases hres : Store.exec (Store.recordParentRetry id v) p.service.store with ⟨_ | n, s'⟩
    · rw [hres] at hsame
      dsimp only at hsame ⊢
      subst hsame
      exact ⟨hp, fun a h => by cases h⟩
    · rw [hres] at hno
      exact absurd rfl (hno n)
  · right
    rcases hres : Store.exec (Store.recordParentRetry id v) p.service.store with ⟨r, s'⟩
    rw [hres] at hok hcount
    dsimp only at hok hcount
    subst hok
    dsimp only
    have hq : ParentCounts W id (k + 1) { p with service := { p.service with store := s' } } := ⟨hp.1, hcount⟩
    have hgives : Gives (fun (a : QueryEnd α) (_ : Pipe) => a = .retry e) (do sleep; pure (QueryEnd.retry e)) :=
      Gives.bind fun _ => Gives.pure fun _ => rfl
    exact ⟨hq.of_settingsAnd (((keeps_sleep_of Store.parentRetriesOf_steady).bind fun _ => Keeps.pure _) _),
      fun a h => hgives _ a _ (Prod.ext h rfl)⟩

/-- A round from the count `k` of the parent leaves it at `k` or, after a failure the policy allows to retry, at
`k + 1`; it goes round again only after such a failure, with the retry recorded. -/
theorem queryRound_counted (query : Storage → Except Error α) (attempts : Nat) {k : Nat} {p : Pipe}
    (hp : ParentCounts W id k p) :
    ∃ n, (n = k ∨ attempts + 1 < W.retry.maxRetries ∧ n = k + 1) ∧
      ParentCounts W id n (exec (queryRound query id attempts) p).2 ∧
      ∀ e, (exec (queryRound query id attempts) p).1 = .ok (.retry e) →
        e.shouldRetry = true ∧ attempts + 1 < W.retry.maxRetries ∧ n = k + 1 := by
  unfold queryRound
  rw [exec_bind, exec_get]
  dsimp only
  cases hq : query p.service.storage with
  | ok a => exact ⟨k, Or.inl rfl, hp, fun e h => by cases h⟩
  | error e =>
    dsimp only
    rw [exec_bind, exec_get]
    dsimp only
    rw [hp.1]
    by_cases hc : (e.shouldRetry && W.retry.canRetry (attempts + 1)) = true
    · rw [if_pos hc, exec_bind, exec_get]
      dsimp only
      obtain ⟨hs, hcan⟩ := Bool.and_eq_true _ _ ▸ hc
      have hlt : attempts + 1 < W.retry.maxRetries := by simpa [RetryPolicy.canRetry] using hcan
      rcases exec_recordRetry hp p.run.worker e with ⟨hk, hno⟩ | ⟨hk, hret⟩
      · exact ⟨k, Or.inl rfl, hk, fun e' h => absurd h (hno _)⟩
      · refine ⟨k + 1, Or.inr ⟨hlt, rfl⟩, hk, fun e' h => ?_⟩
        cases hret _ h
        exact ⟨hs, hlt, rfl⟩
    · rw [if_neg hc]
      exact ⟨k, Or.inl rfl, hp, fun e h => by cases h⟩

/-! ## Runs of rounds -/

/-- The rounds of one query raise the parent's count by at most the retries the policy has left after `attempts`. -/
theorem withRetry_counted (query : Storage → Except Error α) : ∀ (fuel attempts k : Nat) (p : Pipe),
    ParentCounts W id k p → ∃ j, j ≤ W.retry.maxRetries - 1 - attempts ∧
      ParentCounts W id (k + j) (exec (withRetry query id fuel attempts) p).2
  | 0, _, _, _, hp => ⟨0, Nat.zero_le _, hp⟩
  | fuel + 1, attempts, k, p, hp => by
    obtain ⟨n, hn, hq, hR⟩ := queryRound_counted query attempts hp
    rw [withRetry_succ, exec_bind]
    rcases hr : exec (queryRound query id attempts) p with ⟨_ | r, q⟩
    all_goals rw [hr] at hq hR
    · -- a round that stopped the query
      refine ⟨n - k, by omega, ?_⟩
      rwa [show k + (n - k) = n by omega]
    · cases r with
      | answered a =>
        refine ⟨n - k, by omega, ?_⟩
        rwa [show k + (n - k) = n by omega]
      | retry e =>
        obtain ⟨-, hlt, rfl⟩ := hR e rfl
        obtain ⟨j, hj, hq'⟩ := withRetry_counted query fuel (attempts + 1) (k + 1) q hq
        refine ⟨j + 1, by omega, ?_⟩
        rwa [show k + (j + 1) = k + 1 + j by omega]

/-- Past the retries the policy has left, the fuel does not matter: the rounds of a query end before it does. -/
theorem exec_withRetry_fuel (query : Storage → Except Error α) : ∀ (fuel fuel' attempts k : Nat) (p : Pipe),
    ParentCounts W id k p → W.retry.maxRetries - 1 - attempts < fuel → W.retry.maxRetries - 1 - attempts < fuel' →
    exec (withRetry query id fuel attempts) p = exec (withRetry query id fuel' attempts) p
  | 0, _, _, _, _, _, h, _ => absurd h (Nat.not_lt_zero _)
  | _, 0, _, _, _, _, _, h => absurd h (Nat.not_lt_zero _)
  | fuel + 1, fuel' + 1, attempts, k, p, hp, h, h' => by
    obtain ⟨n, -, hq, hR⟩ := queryRound_counted query attempts hp
    rw [withRetry_succ, withRetry_succ, exec_bind, exec_bind]
    rcases hr : exec (queryRound query id attempts) p with ⟨_ | r, q⟩
    · rfl
    · cases r with
      | answered a => rfl
      | retry e =>
        rw [hr] at hq hR
        obtain ⟨-, hlt, rfl⟩ := hR e rfl
        exact exec_withRetry_fuel query fuel fuel' (attempts + 1) (k + 1) q hq (by omega) (by omega)

/-- A query with retries runs its rounds from no retry, with one more fuel than the bound. -/
theorem exec_retrying (query : Storage → Except Error α) (id : TaskId) (p : Pipe) :
    exec (retrying query id) p = exec (withRetry query id (p.service.worker.retry.maxRetries + 1) 0) p := by
  unfold retrying
  rw [exec_bind, exec_get]

/-- A storage query of a parent pipeline, from the count `k` the store holds for the parent, is the loop of its
rounds: every fuel past the retries the policy allows gives the same run. A round goes on to another only after a
transient failure, below the bound, and records the retry by raising the parent's count by one; so the query raises
the count by at most `maxRetries - 1`. That bounds one query, not the parent: the rounds of every query start from no
retry, while the count `k` carries on from the parent's earlier queries and stagings. -/
theorem retrying_raises_count_per_query (query : Storage → Except Error α) (id : TaskId) (p : Pipe) (k : Nat)
    (hk : p.service.store.parentRetriesOf id = some k) :
    let W := p.service.worker
    (∀ fuel, W.retry.maxRetries - 1 < fuel → exec (retrying query id) p = exec (withRetry query id fuel 0) p) ∧
    (∃ j, j ≤ W.retry.maxRetries - 1 ∧
      (exec (retrying query id) p).2.service.store.parentRetriesOf id = some (k + j)) ∧
    (∀ fuel attempts,
      withRetry query id (fuel + 1) attempts = queryRound query id attempts >>= QueryEnd.next query id fuel attempts) ∧
    ∀ attempts n q e q', q.service.worker = W → q.service.store.parentRetriesOf id = some n →
      exec (queryRound query id attempts) q = (.ok (.retry e), q') →
      e.shouldRetry = true ∧ attempts + 1 < W.retry.maxRetries ∧
        q'.service.store.parentRetriesOf id = some (n + 1) := by
  dsimp only
  have hp : ParentCounts p.service.worker id k p := ⟨rfl, hk⟩
  obtain ⟨j, hj, hq⟩ := withRetry_counted query _ 0 k p hp
  refine ⟨fun fuel h => (exec_retrying query id p).trans (exec_withRetry_fuel query _ fuel 0 k p hp (by omega) h),
    ⟨j, hj, ?_⟩, withRetry_succ query id, fun attempts n q e q' hw hn he => ?_⟩
  · rw [exec_retrying]
    exact hq.2
  · -- the round's own account of its retry
    have hq₀ : ParentCounts p.service.worker id n q := ⟨hw, hn⟩
    obtain ⟨n', -, hq', hR⟩ := queryRound_counted query attempts hq₀
    rw [he] at hq' hR
    obtain ⟨hs, hlt, rfl⟩ := hR e rfl
    exact ⟨hs, hlt, hq'.2⟩

/-- A parent that two earlier retries left at a count of 2, on a node whose policy allows three attempts: a query
that keeps timing out is retried twice more, and leaves the parent's count at 4. -/
theorem timed_out_query_passes_bound :
    let p₀ : Parent := { Parent.fresh ⟨⟨2⟩⟩ (Top.fresh ⟨⟨1⟩⟩ "ta" "alice" none 0) "mem://src/a" "mem://dst/a"
      false 1 with worker := some ⟨⟨4⟩⟩, retries := 2 }
    let p : Pipe := ⟨{ Service.fresh ⟨⟨3, 100, 1000, 2.0⟩, 4096, 100, 8, 100⟩ ⟨1000, 2, 10, 10, 10⟩ with
      store := { parents := [p₀] } }, ⟨⟨⟨4⟩⟩, .parent, p₀.id, false, none⟩⟩
    let query : Storage → Except Error Nat := fun _ => .error (.timeout 5)
    p.service.store.parentRetriesOf p₀.id = some 2 ∧
      (∃ j, j ≤ 2 ∧ (exec (retrying query p₀.id) p).2.service.store.parentRetriesOf p₀.id = some (2 + j)) ∧
      (exec (retrying query p₀.id) p).2.service.store.parentRetriesOf p₀.id = some 4 := by
  intro p₀ p query
  have hk : p.service.store.parentRetriesOf p₀.id = some 2 := by decide
  obtain ⟨-, hcount, -⟩ := retrying_raises_count_per_query query p₀.id p 2 hk
  exact ⟨hk, hcount, by decide⟩

end Pipe

end Conveyor
