import Conveyor.Proofs.Service.Endings

/-!
# The rounds of a child's attempts

A child pipeline runs round after round (`Pipe.attemptChild_succ`). A round (`Pipe.attemptRound`) checks for a
cancel and for the bound of the node's retry policy, starts at most one attempt, and then either ends the child, or
gives the failure and the count of an attempt that failed transiently with attempts left and whose wait no cancel
cut short, and the next round starts from that count.

* `Pipe.attemptRound_counted`: from the count the store holds, a round leaves it as it was or, only from below the
  bound, one higher; it goes round again only after a transient failure of the attempt it started, whose count is
  still below the bound.
* `Pipe.attemptChild_counted`: the rounds of a pipeline raise the count by at most the attempts the policy has left.
* `Pipe.exec_attemptChild_fuel`: a pipeline runs out of rounds before it runs out of fuel, so every fuel past the
  attempts left gives the same run, and a child pipeline is the loop of its rounds, unbounded.

Nothing but the start of an attempt changes a count, whatever the watch beside the pipeline does (`Pipe.keeps_react`),
so the count the store holds is the pipeline's own count of the attempts it started.
-/

namespace Conveyor

namespace Store

variable {s : Store} {id : TaskId} {k : Nat}

/-- The start of an attempt leaves the child's count as it was or one higher, however it ends. -/
theorem retriesOf_beginChildAttempt (hk : s.retriesOf id = some k) (w : WorkerId) (now : Stamp) :
    (exec (beginChildAttempt id w now) s).2.retriesOf id = some k ∨
      (exec (beginChildAttempt id w now) s).2.retriesOf id = some (k + 1) := by
  rcases @exec_beginChildAttempt s id w now with he | ⟨c, c', hc, -, hst, ⟨e, -, he⟩ | ⟨m, hm, he⟩⟩
  · rw [he]
    exact Or.inl hk
  all_goals
    obtain ⟨hr, hid⟩ : c'.retries = c.retries ∧ c'.id = c.id := by
      obtain ⟨_, _, rfl⟩ := Child.eq_of_attemptStep hst
      exact ⟨rfl, rfl⟩
    have hkc : c.retries = k := by
      simp only [retriesOf, hc, Option.map_some, Option.some.injEq] at hk
      exact hk
    rw [he]
  · -- a panic of the count's addition leaves the status move, with the count as it was
    left
    rw [retriesOf_putChild (c := c) (Table.find?_of_key_eq hc hid) hr]
    exact hk
  · right
    refine (congrFun (((retriesOf_blind.steady.keeps_setChildBytes id 0).bind fun _ => keeps_child id) _) id).trans ?_
    have hkey : c'.id = id := hid.trans (Table.find?_eq_some hc).2
    simp only [retriesOf, Table.find?_put, show Keyed.key { c' with retries := m } = id from hkey, if_pos,
      Option.map_some]
    rw [Word.eq_of_add_ok hm, hkc]

end Store

namespace Pipe

/-! ## Rounds -/

/-- How a round of a child's attempts ends: the child ended, or an attempt failed in a way the policy tries again,
with the count the attempt gave. -/
inductive RoundEnd where
  | ended (c : Child)
  | retry (e : Error) (made : Nat)

/-- The rest of a round once the attempt `c` started under the policy `policy`: the copy, and how the round ends. -/
def copyRound (id : TaskId) (policy : RetryPolicy) (c : Child) : PipeM RoundEnd := do
  let made := c.retries
  lift (Service.note (·.noteAttempt (made > 1)))
  match ← attempt (copyOnce c) with
  | .ok bytes =>
    lift (Service.note (·.noteCompleted bytes 0))
    return .ended (← finishChild id .completed bytes none)
  | .error .cancelled => return .ended (← cancelChild id)
  | .error e =>
    if e.shouldRetry && policy.canRetry made then
      match ← attempt sleep with
      | .error _ => return .ended (← cancelChild id)
      | .ok () => return .retry e made
    else if e.isBookkeeping then throw (.error e)
    else
      lift (Service.note Statistics.noteFailed)
      return .ended (← finishChild id .failed 0 (some e.message))

/-- One round of a child's attempts, from the count `made`. -/
def attemptRound (id : TaskId) (made : Nat) : PipeM RoundEnd := do
  if ← cancelRequested id then return .ended (← cancelChild id)
  let policy := (← get).service.worker.retry
  if !policy.canRetry made then
    lift (Service.note Statistics.noteFailed)
    return .ended (← finishChild id .failed 0 (some ("gave up after " ++ toString made ++ " attempts")))
  let worker := (← get).run.worker
  copyRound id policy (← lift (Service.atNow (Store.beginChildAttempt id worker)))

/-- What follows a round: the child it ended, or the rounds the fuel has left. -/
def RoundEnd.next (id : TaskId) (fuel : Nat) : RoundEnd → PipeM Child
  | .ended c => pure c
  | .retry _ made => attemptChild id fuel made

/-- The attempts of a child are a round, then what follows it. -/
theorem attemptChild_succ (id : TaskId) (fuel made : Nat) :
    attemptChild id (fuel + 1) made = attemptRound id made >>= RoundEnd.next id fuel := by
  simp only [attemptChild, attemptRound, copyRound, bind_assoc, pure_bind, bind_pure, RoundEnd.next,
    apply_ite (fun m : PipeM RoundEnd => m >>= RoundEnd.next id fuel)]
  refine bind_congr fun b => ?_
  split
  · rfl
  refine bind_congr fun q => ?_
  split
  · rfl
  refine bind_congr fun w => bind_congr fun c => bind_congr fun u => bind_congr fun r => ?_
  split
  · simp [RoundEnd.next]
  · simp [RoundEnd.next]
  · simp only [apply_ite (fun m : PipeM RoundEnd => m >>= RoundEnd.next id fuel), bind_assoc, pure_bind,
      bind_pure, RoundEnd.next]
    split_ifs
    · refine bind_congr fun s => ?_
      split <;> simp [RoundEnd.next]
    · rfl
    · rfl

/-! ## Counts -/

/-- The pipeline's node runs workers with the settings `W` and holds `made` as the count of the child `id`. -/
def Counts (W : WorkerSettings) (id : TaskId) (made : Nat) (p : Pipe) : Prop :=
  p.service.worker = W ∧ p.service.store.retriesOf id = some made

theorem Counts.of_attempts {W : WorkerSettings} {id : TaskId} {made : Nat} {p p' : Pipe} (h : Counts W id made p)
    (he : p'.attempts = p.attempts) : Counts W id made p' :=
  ⟨(congrArg Prod.fst he).trans h.1, (congrFun (congrArg Prod.snd he) id).trans h.2⟩

/-- From a pipeline counting `made` for the child `id` under the settings `W`, `m` leaves the settings and a count
`n` that is `made`, or `made + 1` when `made` is below the bound; a result it gives meets `R` with that count. -/
def Counted {α : Type} (W : WorkerSettings) (id : TaskId) (made : Nat) (R : α → Nat → Prop) (m : PipeM α) : Prop :=
  ∀ p, Counts W id made p → ∃ n, (n = made ∨ made < W.retry.maxRetries ∧ n = made + 1) ∧
    Counts W id n (exec m p).2 ∧ ∀ a, (exec m p).1 = .ok a → R a n

namespace Counted

variable {α β : Type} {W : WorkerSettings} {id : TaskId} {made : Nat} {R : β → Nat → Prop}

theorem pure {b : β} (h : R b made) : Counted W id made R (Pure.pure b : PipeM β) :=
  fun p hp => ⟨made, Or.inl rfl, hp, fun _ he => by cases he; exact h⟩

theorem ite {c : Prop} [Decidable c] {m m' : PipeM β} (hm : Counted W id made R m) (hm' : Counted W id made R m') :
    Counted W id made R (if c then m else m') := by
  split
  · exact hm
  · exact hm'

theorem bind_get {k : Pipe → PipeM β} (hk : ∀ p₀, Counts W id made p₀ → Counted W id made R (k p₀)) :
    Counted W id made R (get >>= k) :=
  fun p hp => hk p hp p hp

/-- A step that keeps the counts leaves the count for the next. -/
theorem bind_keeps {m : PipeM α} {k : α → PipeM β} (hm : Keeps attempts m) (hk : ∀ a, Counted W id made R (k a)) :
    Counted W id made R (m >>= k) := by
  intro p hp
  have he : (exec m p).2.attempts = p.attempts := hm p
  rw [exec_bind]
  rcases hr : exec m p with ⟨_ | a, p₁⟩
  all_goals rw [hr] at he
  · exact ⟨made, Or.inl rfl, hp.of_attempts he, fun _ h => by cases h⟩
  · exact hk a p₁ (hp.of_attempts he)

/-- An attempt started below the bound raises the count by one, and what follows it keeps the count and gives what
`R` allows at the raised count. -/
theorem bind_begin {v : WorkerId} {k : Child → PipeM β} (hlt : made < W.retry.maxRetries)
    (hk : ∀ c, c.retries = made + 1 → Keeps attempts (k c) ∧ Gives (fun b _ => R b (made + 1)) (k c)) :
    Counted W id made R (lift (Service.atNow (Store.beginChildAttempt id v)) >>= k) := by
  intro p ⟨hw, hmade⟩
  have hcount := Store.retriesOf_beginChildAttempt hmade v p.service.now
  rw [exec_bind, exec_lift, Service.exec_atNow]
  rcases hr : Store.exec (Store.beginChildAttempt id v p.service.now) p.service.store with ⟨_ | c, s'⟩
  all_goals rw [hr] at hcount
  · -- a refused start ends the round, with the count as it was or raised
    rcases hcount with h | h
    · exact ⟨made, Or.inl rfl, ⟨hw, h⟩, fun _ he => by cases he⟩
    · exact ⟨made + 1, Or.inr ⟨hlt, rfl⟩, ⟨hw, h⟩, fun _ he => by cases he⟩
  · obtain ⟨k₀, hk₀, hc, hs', -⟩ := Store.exec_beginChildAttempt_ok hr
    rw [hmade, Option.some.injEq] at hk₀
    have hc' : c.retries = made + 1 := by rw [hc, hk₀]
    obtain ⟨hkeep, hgive⟩ := hk c hc'
    have hq : Counts W id (made + 1) { p with service := { p.service with now := p.service.now + 1, store := s' } } :=
      ⟨hw, hc' ▸ hs'⟩
    exact ⟨made + 1, Or.inr ⟨hlt, rfl⟩, hq.of_attempts (hkeep _), fun b he => hgive _ b _ (Prod.ext he rfl)⟩

end Counted

/-- What a round gives from the count `made`: it goes round again only after a transient failure, with the count
`n` it leaves, one more than `made` and below the bound. -/
def RoundAllows (W : WorkerSettings) (made : Nat) (r : RoundEnd) (n : Nat) : Prop :=
  ∀ e m, r = .retry e m → e.shouldRetry = true ∧ m = n ∧ n = made + 1 ∧ n < W.retry.maxRetries

theorem keeps_copyRound (id : TaskId) (policy : RetryPolicy) (c : Child) : Keeps attempts (copyRound id policy c) := by
  unfold copyRound
  refine (keeps_lift (Service.keeps_note _)).bind fun _ => (keeps_attempt (keeps_copyOnce c)).bind fun r => ?_
  have hended : ∀ {m : PipeM Child}, Keeps attempts m → Keeps attempts (do return RoundEnd.ended (← m)) :=
    fun hm => hm.bind fun _ => Keeps.pure _
  split
  · exact (keeps_lift (Service.keeps_note _)).bind fun _ => hended (keeps_finishChild _ _ _ _)
  · exact hended (keeps_cancelChild id)
  · refine Keeps.ite ((keeps_attempt keeps_sleep).bind fun s => ?_) (Keeps.ite (Keeps.throw _) ?_)
    · split
      · exact hended (keeps_cancelChild id)
      · exact Keeps.pure _
    · exact (keeps_lift (Service.keeps_note _)).bind fun _ => hended (keeps_finishChild _ _ _ _)

/-- The rest of a round goes round again only after a transient failure of its attempt, with the attempt's count,
which the policy allows to be tried again. -/
theorem gives_copyRound (id : TaskId) (policy : RetryPolicy) (c : Child) :
    Gives (fun r _ => ∀ e m, r = .retry e m → e.shouldRetry = true ∧ m = c.retries ∧ policy.canRetry m = true)
      (copyRound id policy c) := by
  unfold copyRound
  have hended : ∀ m : PipeM Child, Gives (fun (r : RoundEnd) (_ : Pipe) => ∀ e n, r = .retry e n →
      e.shouldRetry = true ∧ n = c.retries ∧ policy.canRetry n = true) (do return .ended (← m)) :=
    fun m => Gives.bind fun _ => Gives.pure fun _ _ _ h => by cases h
  refine Gives.bind fun _ => Gives.bind fun r => ?_
  split
  · exact Gives.bind fun _ => hended _
  · exact hended _
  · rename_i e _
    by_cases hr : (e.shouldRetry && policy.canRetry c.retries) = true
    · rw [if_pos hr]
      refine Gives.bind fun s => ?_
      split
      · exact hended _
      · refine Gives.pure fun _ e' m h => ?_
        cases h
        simpa using hr
    · rw [if_neg hr]
      exact (Gives.throw _).ite (Gives.bind fun _ => hended _)

variable {W : WorkerSettings} {id : TaskId}

/-- A round from the count the store holds leaves it as it was or, only from below the bound, one higher, and goes
round again only after a transient failure of the attempt it started, with that attempt's count. -/
theorem attemptRound_counted (made : Nat) : Counted W id made (RoundAllows W made) (attemptRound id made) := by
  have hended : ∀ {m : PipeM Child}, Keeps attempts m →
      Counted W id made (RoundAllows W made) (do return RoundEnd.ended (← m)) :=
    fun hm => Counted.bind_keeps hm fun _ => Counted.pure fun _ _ h => by cases h
  unfold attemptRound
  refine Counted.bind_keeps (keeps_cancelRequested id) fun _ => Counted.ite (hended (keeps_cancelChild id)) ?_
  refine Counted.bind_get fun p₀ hp₀ => ?_
  rw [hp₀.1]
  by_cases hc : W.retry.canRetry made = true
  · rw [if_neg (by simp [hc])]
    refine Counted.bind_get fun _ _ => Counted.bind_begin (by simpa [RetryPolicy.canRetry] using hc) fun c hc' =>
      ⟨keeps_copyRound id _ c, fun q r q' he e m hr => ?_⟩
    obtain ⟨hs, hm, hm'⟩ := gives_copyRound id W.retry c q r q' he e m hr
    rw [hc'] at hm
    exact ⟨hs, hm, rfl, by simpa [RetryPolicy.canRetry, hm] using hm'⟩
  · rw [if_pos (by simp [hc])]
    exact Counted.bind_keeps (keeps_lift (Service.keeps_note _)) fun _ => hended (keeps_finishChild _ _ _ _)

/-! ## Runs of rounds -/

/-- The rounds of a pipeline from the count the store holds raise it by at most the attempts the policy has left. -/
theorem attemptChild_counted : ∀ (fuel made : Nat) (p : Pipe), Counts W id made p →
    ∃ n, n ≤ W.retry.maxRetries - made ∧ Counts W id (made + n) (exec (attemptChild id fuel made) p).2
  | 0, made, p, hp => ⟨0, Nat.zero_le _, hp.of_attempts (keeps_noteFinish _ _ _ _ _ p)⟩
  | fuel + 1, made, p, hp => by
    obtain ⟨n, hn, hq, hR⟩ := attemptRound_counted made p hp
    rw [attemptChild_succ, exec_bind]
    rcases hr : exec (attemptRound id made) p with ⟨_ | r, q⟩
    all_goals rw [hr] at hq hR
    · -- a round that stopped the pipeline
      refine ⟨n - made, by omega, ?_⟩
      rwa [show made + (n - made) = n by omega]
    · cases r with
      | ended c =>
        refine ⟨n - made, by omega, ?_⟩
        rwa [show made + (n - made) = n by omega]
      | retry e m =>
        obtain ⟨-, rfl, rfl, hlt⟩ := hR _ rfl e _ rfl
        obtain ⟨n', hn', hq'⟩ := attemptChild_counted fuel (made + 1) q hq
        refine ⟨n' + 1, by omega, ?_⟩
        rwa [show made + (n' + 1) = made + 1 + n' by omega]

/-- Past the attempts the policy has left, the fuel does not matter: the rounds end before it does. -/
theorem exec_attemptChild_fuel : ∀ (fuel fuel' made : Nat) (p : Pipe), Counts W id made p →
    W.retry.maxRetries - made < fuel → W.retry.maxRetries - made < fuel' →
    exec (attemptChild id fuel made) p = exec (attemptChild id fuel' made) p
  | 0, _, _, _, _, h, _ => absurd h (Nat.not_lt_zero _)
  | _, 0, _, _, _, _, h => absurd h (Nat.not_lt_zero _)
  | fuel + 1, fuel' + 1, made, p, hp, h, h' => by
    obtain ⟨n, -, hq, hR⟩ := attemptRound_counted made p hp
    rw [attemptChild_succ, attemptChild_succ, exec_bind, exec_bind]
    rcases hr : exec (attemptRound id made) p with ⟨_ | r, q⟩
    · rfl
    · cases r with
      | ended c => rfl
      | retry e m =>
        rw [hr] at hq hR
        obtain ⟨-, rfl, rfl, hlt⟩ := hR _ rfl e _ rfl
        exact exec_attemptChild_fuel fuel fuel' (made + 1) q hq (by omega) (by omega)

/-- A child pipeline for a stored child runs the rounds from the child's count, with one more fuel than the bound. -/
theorem exec_runChild_of_find {p : Pipe} {c : Child} (hc : Table.find? p.service.store.children id = some c) :
    exec (runChild id) p = exec (attemptChild id (p.service.worker.retry.maxRetries + 1) c.retries) p := by
  unfold runChild
  rw [exec_bind, exec_lift, Service.exec_liftStore, Store.exec_child_of_find hc]
  dsimp only
  rw [exec_bind, exec_get]

/-- A child pipeline, from the count `c.retries` the store holds for its child, is the loop of its rounds: every fuel
past the attempts the policy has left gives the same run, so the loop ends on its own. The attempts it starts, each
counted once by the store, raise the count by at most the attempts left, `maxRetries - c.retries`. A round goes on to
another only after a transient failure of the attempt it started, whose count is one more than the round found and
still below the bound. A pipeline that gives a result gives its child as the store holds it, ended by its last step,
and released. -/
theorem runChild_attempts_bounded (id : TaskId) (p : Pipe) (c : Child)
    (hc : Table.find? p.service.store.children id = some c) :
    let W := p.service.worker
    (∀ fuel, W.retry.maxRetries - c.retries < fuel →
      exec (runChild id) p = exec (attemptChild id fuel c.retries) p) ∧
    (exec (runChild id) p).2.service.worker = W ∧
    (∃ n, n ≤ W.retry.maxRetries - c.retries ∧
      (exec (runChild id) p).2.service.store.retriesOf id = some (c.retries + n)) ∧
    (∀ fuel made, attemptChild id (fuel + 1) made = attemptRound id made >>= RoundEnd.next id fuel) ∧
    (∀ made q e m q', q.service.worker = W → q.service.store.retriesOf id = some made →
      exec (attemptRound id made) q = (.ok (.retry e m), q') →
      e.shouldRetry = true ∧ m = made + 1 ∧ m < W.retry.maxRetries ∧ q'.service.store.retriesOf id = some m) ∧
    ∀ c' p', exec (runChild id) p = (.ok c', p') →
      Table.find? p'.service.store.children id = some c' ∧ c'.worker = none ∧ c'.status.isTerminal = true := by
  dsimp only
  have hp : Counts p.service.worker id c.retries p := ⟨rfl, by simp [Store.retriesOf, hc]⟩
  have hrun := exec_runChild_of_find hc
  obtain ⟨n, hn, hq⟩ := attemptChild_counted _ _ p hp
  refine ⟨fun fuel h => hrun.trans (exec_attemptChild_fuel _ fuel _ p hp (by omega) h), ?_, ⟨n, hn, ?_⟩,
    attemptChild_succ id, fun made q e m q' hw hm he => ?_, gives_runChild id p⟩
  · rw [hrun]
    exact hq.1
  · rw [hrun]
    exact hq.2
  · -- the round's own account of its retry
    obtain ⟨n', -, hq', hR⟩ := attemptRound_counted made q ⟨hw, hm⟩
    rw [he] at hq' hR
    obtain ⟨hs, rfl, rfl, hlt⟩ := hR _ rfl e _ rfl
    exact ⟨hs, rfl, hlt, hq'.2⟩

/-- A fresh child on a node whose policy allows three attempts: its pipeline leaves the count at three at most. -/
theorem fresh_child_attempts_bounded :
    let c₀ : Child := Child.fresh ⟨⟨3⟩⟩ (Parent.fresh ⟨⟨2⟩⟩ (Top.fresh ⟨⟨1⟩⟩ "ta" "alice" none 0) "mem://src/a"
      "mem://dst/a" false 1) ⟨"mem://src/a", "mem://dst/a", 1⟩ 2
    let p : Pipe := ⟨{ Service.fresh ⟨⟨3, 100, 1000, 2.0⟩, 4096, 100, 8, 100⟩ ⟨1000, 2, 10, 10, 10⟩ with
      store := { children := [c₀] } }, ⟨⟨⟨4⟩⟩, .child, c₀.id, false, none⟩⟩
    Table.find? p.service.store.children c₀.id = some c₀ ∧
      ∃ n, n ≤ 3 ∧ (exec (runChild c₀.id) p).2.service.store.retriesOf c₀.id = some n := by
  intro c₀ p
  have hc : Table.find? p.service.store.children c₀.id = some c₀ := by decide
  obtain ⟨-, -, ⟨n, hn, hr⟩, -⟩ := runChild_attempts_bounded c₀.id p c₀ hc
  rw [show c₀.retries = 0 from rfl, Nat.zero_add] at hr
  exact ⟨hc, n, hn, hr⟩

end Pipe

end Conveyor
