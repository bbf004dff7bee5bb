/-!
# Fair batches

The dispatcher builds each batch so that no tenant starves another: ready tasks are queued by
tenant, tenants in order of their first ready task, and the batch takes one task of each tenant
in turn, round after round, each tenant's tasks in their ready order.

- `fairInterleave ready limit` runs that loop: a round visits the tenants' queues in order, each
  giving up its first task, and breaks off once the batch holds `limit` tasks (`takeRound`); rounds
  go on while the batch is short of `limit`, and stop after a round that took nothing
  (`takeRounds`).
- `roundRobin` is the order the rounds produce, said at once: the first task of each tenant, then
  the second of each, and so on.
- `distribute batch workers` cuts the batch into consecutive runs of `⌈|batch| / |workers|⌉`
  tasks and hands the runs to the workers in order; workers beyond the last run get nothing.
-/

namespace Conveyor

/-- Group values by key, keys in order of first appearance, values in order. -/
def groupByKey {α : Type} (pairs : List (String × α)) : List (String × List α) :=
  pairs.foldl (fun groups (k, v) =>
    if groups.any (·.1 == k) then groups.map fun (k', vs) => if k' == k then (k', vs ++ [v]) else (k', vs)
    else groups ++ [(k, [v])]) []

/-- The round-robin order of lists: the first of each, then the second of each, and so on,
skipping lists that ran out. `fuel` bounds the number of rounds. -/
def roundRobin {α : Type} (fuel : Nat) (lists : List (List α)) : List α :=
  match fuel with
  | 0 => []
  | fuel + 1 =>
    let live := lists.filter (!·.isEmpty)
    if live.isEmpty then [] else live.filterMap List.head? ++ roundRobin fuel (live.map List.tail)

/-- One round over the tenants' queues: each queue in turn gives up its first task, until the batch
holds `limit` tasks, where the round breaks off. Gives the queues as the round leaves them, and the
batch. -/
def takeRound {α : Type} (limit : Nat) : List (List α) → List α → List (List α) × List α
  | [], batch => ([], batch)
  | q :: qs, batch =>
    if batch.length = limit then (q :: qs, batch)
    else
      match q with
      | [] => let r := takeRound limit qs batch; ([] :: r.1, r.2)
      | x :: rest => let r := takeRound limit qs (batch ++ [x]); (rest :: r.1, r.2)

/-- Rounds while the batch holds fewer than `limit` tasks, until a round takes none. `fuel` bounds
the rounds: every round but the last takes a task. -/
def takeRounds {α : Type} (limit : Nat) : Nat → List (List α) → List α → List α
  | 0, _, batch => batch
  | fuel + 1, queues, batch =>
    if batch.length < limit then
      let r := takeRound limit queues batch
      if r.2.length = batch.length then r.2 else takeRounds limit fuel r.1 r.2
    else batch

/-- A batch of at most `limit` ready tasks, taken round by round from the tenants' queues. -/
def fairInterleave {α : Type} (ready : List (String × α)) (limit : Nat) : List α :=
  takeRounds limit (ready.length + 1) ((groupByKey ready).map (·.2)) []

/-- Consecutive runs of `n` elements, the last one possibly shorter (`n` positive). -/
def chunks {α : Type} (n : Nat) (xs : List α) : List (List α) :=
  go xs.length xs
where
  go : Nat → List α → List (List α)
    | 0, _ => []
    | _, [] => []
    | fuel + 1, xs => xs.take n :: go fuel (xs.drop n)

/-- Hand a batch to workers in runs of equal length, the last run possibly shorter. -/
def distribute {α β : Type} (batch : List α) (workers : List β) : List (β × List α) :=
  if batch.isEmpty || workers.isEmpty then []
  else
    let size := (batch.length + workers.length - 1) / workers.length
    workers.zip (chunks size batch)

end Conveyor
