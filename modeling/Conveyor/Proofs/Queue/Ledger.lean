import Conveyor.Queue
import Mathlib.Data.Multiset.AddSub

/-!
# What a work queue accounts for

A work queue loses no id and makes none up. Every id published is waiting, out in a delivery not yet
settled, or was taken out for good: acknowledged, or refused without a requeue. Each delivery gets a tag
never used before, and a tag is in flight from its delivery until it is acknowledged or refused, and never
again after.

* `QueueCall`: one call on a queue, made by `QueueCall.run`; `QueueLedger` records what calls made in turn
  published, took out, delivered and closed, and `WorkQueue.replay` makes calls in turn from a queue.
* `WorkQueue.held`: the ids a queue holds, waiting or in flight.
* `WorkQueue.Accounts q₀ l q`: the run from `q₀` that recorded `l` and left `q` kept the books; one call
  keeps them (`WorkQueue.Accounts.step`), so every run does (`WorkQueue.accounts_replay`).
* `WorkQueue.replay_keeps_account`: from a new queue, whatever the calls, the queue holds the multiset of
  ids published less those taken out, no tag is delivered twice, a tag never delivered or already settled
  is refused and changes nothing, and a consume never lifts the deliveries in flight past the larger of
  the prefetch and the count in flight before it.
-/

namespace Conveyor

/-- One call on a work queue. -/
inductive QueueCall where
  | publish (id : TaskId)
  | publishAll (ids : List TaskId)
  | consume (prefetch : Nat)
  | ack (tag : Nat)
  | nack (tag : Nat) (requeue : Bool)
deriving DecidableEq, Repr

/-- What a call on a queue answers: nothing, the deliveries it made, or whether the tag was in flight. -/
inductive QueueAnswer where
  | done
  | delivered (ds : List Delivery)
  | settled (outstanding : Bool)
deriving DecidableEq, Repr

namespace WorkQueue

/-- The tags in flight. -/
def tags (q : WorkQueue) : List Nat := q.unacked.map (·.1)

/-- The ids a queue holds: those waiting, then those in flight. -/
def held (q : WorkQueue) : List TaskId := q.ready.map (·.1) ++ q.unacked.map (·.2)

/-- The tags in flight are distinct and were all handed out before the next one. -/
structure Sound (q : WorkQueue) : Prop where
  nodup : q.tags.Nodup
  lt_next : ∀ t ∈ q.tags, t < q.nextTag

theorem Sound.empty (name : String) : (WorkQueue.empty name).Sound :=
  ⟨List.nodup_nil, fun _ h => by cases h⟩

end WorkQueue

namespace QueueCall

/-- Make a call. -/
def run : QueueCall → WorkQueue → QueueAnswer × WorkQueue
  | publish id, q => (.done, q.publish id)
  | publishAll ids, q => (.done, q.publishAll ids)
  | consume n, q => (.delivered (q.consume n).1, (q.consume n).2)
  | ack t, q => (.settled (q.ack t).1, (q.ack t).2)
  | nack t r, q => (.settled (q.nack t r).1, (q.nack t r).2)

/-- The ids a call publishes. -/
def published : QueueCall → List TaskId
  | publish id => [id]
  | publishAll ids => ids
  | _ => []

/-- The id a call takes out for good: the one in flight under a tag it acknowledges, or under a tag it
refuses without a requeue. -/
def settles : QueueCall → WorkQueue → List TaskId
  | ack t, q | nack t false, q => ((q.unacked.find? (·.1 == t)).map (·.2)).toList
  | _, _ => []

/-- The tags of the deliveries a call makes. -/
def delivers : QueueCall → WorkQueue → List Nat
  | consume n, q => (q.consume n).1.map (·.tag)
  | _, _ => []

/-- The tag a call acknowledges or refuses, when the queue answers that it was in flight. -/
def closes (c : QueueCall) (q : WorkQueue) : List Nat :=
  match c, (c.run q).1 with
  | ack t, .settled true | nack t _, .settled true => [t]
  | _, _ => []

end QueueCall

/-- What calls made in turn recorded: the ids they published and the ids they took out for good, and the
tags they delivered and the tags they closed, in order. -/
structure QueueLedger where
  published : List TaskId := []
  settled : List TaskId := []
  delivered : List Nat := []
  closed : List Nat := []

/-- Record one more call, made on the queue `q`. -/
def QueueCall.record (c : QueueCall) (q : WorkQueue) (l : QueueLedger) : QueueLedger where
  published := l.published ++ c.published
  settled := l.settled ++ c.settles q
  delivered := l.delivered ++ c.delivers q
  closed := l.closed ++ c.closes q

/-- One more call from a queue and what was recorded so far. -/
def QueueCall.replayStep (ql : WorkQueue × QueueLedger) (c : QueueCall) : WorkQueue × QueueLedger :=
  ((c.run ql.1).2, c.record ql.1 ql.2)

/-- Make calls in turn from `q`: the queue they leave and what they recorded. -/
def WorkQueue.replay (q : WorkQueue) (cs : List QueueCall) : WorkQueue × QueueLedger :=
  cs.foldl QueueCall.replayStep (q, {})

namespace WorkQueue

variable {q : WorkQueue}

/-! ## Consuming -/

/-- The ids a consume takes from the front, with their redelivery marks. -/
def taken (q : WorkQueue) (n : Nat) : List (TaskId × Bool) := q.ready.take (n - q.inFlight)

theorem consume_deliveries (n : Nat) :
    (q.consume n).1 = (q.taken n).zipIdx.map fun ((id, again), i) => ⟨q.nextTag + i, id, again⟩ := rfl

theorem consume_queue (n : Nat) : (q.consume n).2 =
    { q with
      ready := q.ready.drop (n - q.inFlight)
      unacked := q.unacked ++ (q.consume n).1.map fun d => (d.tag, d.id)
      nextTag := q.nextTag + (q.taken n).length } := rfl

/-- The deliveries of a consume carry the next tags in order. -/
theorem consume_tags (n : Nat) : (q.consume n).1.map (·.tag) = List.range' q.nextTag (q.taken n).length := by
  rw [consume_deliveries, List.map_map]
  apply List.ext_getElem
  · simp
  · intro i h₁ h₂
    simp

/-- The deliveries of a consume carry the ids it takes, in order. -/
theorem consume_ids (n : Nat) : (q.consume n).1.map (·.id) = (q.taken n).map (·.1) := by
  rw [consume_deliveries, List.map_map]
  apply List.ext_getElem
  · simp
  · intro i h₁ h₂
    simp

/-- A consume moves ids from waiting to in flight. -/
theorem held_consume (n : Nat) : (q.consume n).2.held.Perm q.held := by
  have hin : ((q.consume n).1.map fun d => (d.tag, d.id)).map (·.2) = (q.taken n).map (·.1) := by
    rw [List.map_map, ← consume_ids]
    rfl
  have hready : q.ready.map (·.1) = (q.taken n).map (·.1) ++ (q.ready.drop (n - q.inFlight)).map (·.1) := by
    rw [← List.map_append, taken, List.take_append_drop]
  rw [consume_queue]
  simp only [held, List.map_append, hin, hready]
  exact List.perm_iff_count.2 fun a => by simp only [List.count_append]; omega

/-- A consume never lifts the deliveries in flight past the prefetch, nor past the count before it. -/
theorem inFlight_consume_le (n : Nat) : (q.consume n).2.inFlight ≤ max n q.inFlight := by
  have hlen : (q.taken n).length ≤ n - q.inFlight := by
    rw [taken]
    exact List.length_take_le _ _
  have hflight : (q.consume n).2.inFlight = q.inFlight + (q.taken n).length := by
    simp [inFlight, consume_queue, consume_deliveries]
  omega

/-- A consume of a sound queue leaves it sound, in flight the tags before and the new ones. -/
theorem Sound.consume (h : q.Sound) (n : Nat) :
    (q.consume n).2.Sound ∧ (q.consume n).2.tags = q.tags ++ (q.consume n).1.map (·.tag) := by
  have htags : (q.consume n).2.tags = q.tags ++ (q.consume n).1.map (·.tag) := by
    simp only [tags, consume_queue, List.map_append, List.map_map]
    rfl
  have hnext : (q.consume n).2.nextTag = q.nextTag + (q.taken n).length := rfl
  refine ⟨⟨?_, fun t ht => ?_⟩, htags⟩
  · rw [htags, consume_tags]
    refine List.nodup_append.2 ⟨h.nodup, List.nodup_range', fun a ha b hb hab => ?_⟩
    have := h.lt_next a ha
    have := (List.mem_range'_1.1 hb).1
    omega
  · rw [htags, consume_tags, List.mem_append] at ht
    rcases ht with ht | ht
    · have := h.lt_next t ht
      omega
    · have := (List.mem_range'_1.1 ht).2
      omega

/-! ## Settling a tag -/

/-- The entry of a tag, in a list of entries with distinct tags. -/
theorem find?_tag_of_mem {us : List (Nat × TaskId)} {t : Nat} {id : TaskId} (hnd : (us.map (·.1)).Nodup)
    (hm : (t, id) ∈ us) : us.find? (·.1 == t) = some (t, id) := by
  induction us with
  | nil => cases hm
  | cons u us ih =>
    rw [List.map_cons, List.nodup_cons] at hnd
    rcases List.mem_cons.1 hm with rfl | hm
    · simp
    · have hne : u.1 ≠ t := fun he => hnd.1 (by rw [he]; exact List.mem_map_of_mem (f := (·.1)) hm)
      simp [hne, ih hnd.2 hm]

/-- With distinct tags, dropping the entries of a tag drops one entry. -/
theorem perm_filter_tag {us : List (Nat × TaskId)} {t : Nat} {id : TaskId} (hnd : (us.map (·.1)).Nodup)
    (hm : (t, id) ∈ us) : us.Perm ((t, id) :: us.filter (·.1 != t)) := by
  induction us with
  | nil => cases hm
  | cons u us ih =>
    rw [List.map_cons, List.nodup_cons] at hnd
    rcases List.mem_cons.1 hm with rfl | hm
    · have hnone : us.filter (·.1 != t) = us := by
        refine List.filter_eq_self.2 fun v hv => ?_
        have hne : v.1 ≠ t := fun he => hnd.1 (by rw [← he]; exact List.mem_map_of_mem (f := (·.1)) hv)
        simpa using hne
      simp [hnone]
    · have hne : u.1 ≠ t := fun he => hnd.1 (by rw [he]; exact List.mem_map_of_mem (f := (·.1)) hm)
      have hu : (u.1 != t) = true := by simpa using hne
      rw [List.filter_cons_of_pos (p := fun x : Nat × TaskId => x.1 != t) hu]
      exact ((ih hnd.2 hm).cons u).trans (List.Perm.swap _ _ _)

theorem mem_tags {t : Nat} : t ∈ q.tags ↔ ∃ id, (t, id) ∈ q.unacked := by
  simp [tags]

/-- No entry carries a tag that is not in flight. -/
theorem find?_tag_of_not_mem {t : Nat} (h : t ∉ q.tags) : q.unacked.find? (·.1 == t) = none := by
  refine List.find?_eq_none.2 fun u hu he => h (mem_tags.2 ⟨u.2, ?_⟩)
  have : u.1 = t := by simpa using he
  rw [← this]
  exact hu

/-- An acknowledgement of a tag not in flight is refused and changes nothing. -/
theorem ack_of_not_mem {t : Nat} (h : t ∉ q.tags) : q.ack t = (false, q) := by
  have hany : q.unacked.any (·.1 == t) = false := by
    refine List.any_eq_false.2 fun u hu he => h (mem_tags.2 ⟨u.2, ?_⟩)
    have : u.1 = t := by simpa using he
    rw [← this]
    exact hu
  simp [ack, hany]

/-- A refusal of a tag not in flight is refused and changes nothing. -/
theorem nack_of_not_mem {t : Nat} (h : t ∉ q.tags) (r : Bool) : q.nack t r = (false, q) := by
  simp [nack, find?_tag_of_not_mem h]

/-- An acknowledgement of a tag in flight drops its entry. -/
theorem ack_of_mem {t : Nat} {id : TaskId} (h : (t, id) ∈ q.unacked) :
    q.ack t = (true, { q with unacked := q.unacked.filter (·.1 != t) }) := by
  have hany : q.unacked.any (·.1 == t) = true := List.any_eq_true.2 ⟨(t, id), h, by simp⟩
  simp [ack, hany]

/-- A refusal of a tag in flight drops its entry, and puts its id back at the front if asked. -/
theorem nack_of_mem (hs : q.Sound) {t : Nat} {id : TaskId} (h : (t, id) ∈ q.unacked) (r : Bool) :
    q.nack t r = (true, { q with
      unacked := q.unacked.filter (·.1 != t)
      ready := if r then (id, true) :: q.ready else q.ready }) := by
  cases r <;> simp [nack, find?_tag_of_mem hs.nodup h]

/-- Dropping the entry of a tag in flight keeps a queue sound and takes the tag out of flight. -/
theorem Sound.drop (hs : q.Sound) (t : Nat) (ready : List (TaskId × Bool)) :
    ({ q with unacked := q.unacked.filter (·.1 != t), ready } : WorkQueue).Sound ∧
      ∀ t', t' ∈ ({ q with unacked := q.unacked.filter (·.1 != t), ready } : WorkQueue).tags ↔
        t' ∈ q.tags ∧ t' ≠ t := by
  have hiff : ∀ t', t' ∈ ({ q with unacked := q.unacked.filter (·.1 != t), ready } : WorkQueue).tags ↔
      t' ∈ q.tags ∧ t' ≠ t := by
    intro t'
    simp only [tags, List.mem_map, List.mem_filter, bne_iff_ne, ne_eq]
    constructor
    · rintro ⟨u, ⟨hu, hne⟩, rfl⟩
      exact ⟨⟨u, hu, rfl⟩, hne⟩
    · rintro ⟨⟨u, hu, rfl⟩, hne⟩
      exact ⟨u, ⟨hu, hne⟩, rfl⟩
  refine ⟨⟨?_, fun t' ht' => hs.lt_next t' ((hiff t').1 ht').1⟩, hiff⟩
  exact hs.nodup.sublist (List.filter_sublist.map _)

/-- The ids in flight are those of the other tags and the one under the tag. -/
theorem unacked_ids_perm (hs : q.Sound) {t : Nat} {id : TaskId} (h : (t, id) ∈ q.unacked) :
    (q.unacked.map (·.2)).Perm (id :: (q.unacked.filter (·.1 != t)).map (·.2)) :=
  (perm_filter_tag hs.nodup h).map _

/-! ## Keeping the books -/

/-- The books a run from `q₀` kept, having recorded `l` and left `q`: what the queue holds and what was
taken out make up what it held and what was published; each tag delivered was new, and a tag is in flight
exactly when it was in flight at the start or delivered, and not closed since; the queue is sound. -/
structure Accounts (q₀ : WorkQueue) (l : QueueLedger) (q : WorkQueue) : Prop where
  held : (q.held ++ l.settled).Perm (q₀.held ++ l.published)
  delivered_nodup : l.delivered.Nodup
  delivered_fresh : ∀ t ∈ l.delivered, q₀.nextTag ≤ t ∧ t < q.nextTag
  closed_lt : ∀ t ∈ l.closed, t < q.nextTag
  tags : ∀ t, t ∈ q.tags ↔ (t ∈ q₀.tags ∨ t ∈ l.delivered) ∧ t ∉ l.closed
  sound : q.Sound
  next_le : q₀.nextTag ≤ q.nextTag

variable {q₀ : WorkQueue} {l : QueueLedger}

/-- A sound queue has kept the books of the run that made no call. -/
theorem Accounts.start (h : q.Sound) : Accounts q {} q where
  held := by simp
  delivered_nodup := List.nodup_nil
  delivered_fresh _ ht := by cases ht
  closed_lt _ ht := by cases ht
  tags t := by simp
  sound := h
  next_le := Nat.le_refl _

/-- Ids put at the back add to what the queue holds, and touch no tag. -/
theorem Accounts.append (h : Accounts q₀ l q) (ids : List TaskId) :
    Accounts q₀ { l with published := l.published ++ ids } { q with ready := q.ready ++ ids.map (·, false) } where
  held := by
    refine List.perm_iff_count.2 fun a => ?_
    have e := List.perm_iff_count.1 h.held a
    simp only [WorkQueue.held, List.map_append, List.map_map, List.count_append] at e ⊢
    have hid : (ids.map ((·.1) ∘ (·, false))).count a = ids.count a := by
      rw [show ((·.1) ∘ (·, false) : TaskId → TaskId) = id from rfl, List.map_id]
    omega
  delivered_nodup := h.delivered_nodup
  delivered_fresh := h.delivered_fresh
  closed_lt := h.closed_lt
  tags := h.tags
  sound := ⟨h.sound.nodup, h.sound.lt_next⟩
  next_le := h.next_le

/-- A consume moves ids into flight under new tags. -/
theorem Accounts.consume (h : Accounts q₀ l q) (n : Nat) :
    Accounts q₀ { l with delivered := l.delivered ++ (q.consume n).1.map (·.tag) } (q.consume n).2 := by
  obtain ⟨hsound, htags⟩ := h.sound.consume n
  have hnext : (q.consume n).2.nextTag = q.nextTag + (q.taken n).length := rfl
  have hnew : ∀ t ∈ (q.consume n).1.map (·.tag), q.nextTag ≤ t ∧ t < (q.consume n).2.nextTag := by
    intro t ht
    rw [consume_tags, List.mem_range'_1] at ht
    omega
  refine ⟨(held_consume n).append_right _ |>.trans h.held, ?_, fun t ht => ?_, fun t ht => ?_, fun t => ?_,
    hsound, ?_⟩
  · refine List.nodup_append.2 ⟨h.delivered_nodup, ?_, fun a ha b hb hab => ?_⟩
    · rw [consume_tags]
      exact List.nodup_range'
    · have := (h.delivered_fresh a ha).2
      have := (hnew b hb).1
      omega
  · rcases List.mem_append.1 ht with ht | ht
    · have := h.delivered_fresh t ht
      omega
    · have := hnew t ht
      have := h.next_le
      omega
  · have := h.closed_lt t ht
    omega
  · rw [htags, List.mem_append, h.tags]
    by_cases hn : t ∈ (q.consume n).1.map (·.tag)
    · -- a new tag was never closed: every closed tag lies below the old next tag
      have hc : t ∉ l.closed := fun hc => by
        have := h.closed_lt t hc
        have := (hnew t hn).1
        omega
      simp [hn, hc]
    · simp [hn]
  · have := h.next_le
    omega

/-- Settling a tag in flight takes its entry out of flight; its id goes back to waiting or out for good. -/
theorem Accounts.settle (h : Accounts q₀ l q) {t : Nat} {id : TaskId} (hm : (t, id) ∈ q.unacked)
    (ready : List (TaskId × Bool)) (out : List TaskId) (hr : (ready.map (·.1) ++ out).Perm (q.ready.map (·.1) ++ [id])) :
    Accounts q₀ { l with settled := l.settled ++ out, closed := l.closed ++ [t] }
      { q with unacked := q.unacked.filter (·.1 != t), ready } := by
  obtain ⟨hsound, hiff⟩ := h.sound.drop t ready
  have ht : t < q.nextTag := h.sound.lt_next t (mem_tags.2 ⟨id, hm⟩)
  refine ⟨?_, h.delivered_nodup, h.delivered_fresh, fun t' ht' => ?_, fun t' => ?_, hsound, h.next_le⟩
  · refine List.perm_iff_count.2 fun a => ?_
    have e := List.perm_iff_count.1 h.held a
    have e₁ := List.perm_iff_count.1 hr a
    have e₂ := List.perm_iff_count.1 (unacked_ids_perm h.sound hm) a
    simp only [WorkQueue.held, List.count_append, List.count_cons, List.count_nil] at e e₁ e₂ ⊢
    omega
  · rcases List.mem_append.1 ht' with ht' | ht'
    · exact h.closed_lt t' ht'
    · rw [List.mem_singleton.1 ht']
      exact ht
  · rw [hiff, h.tags]
    simp only [List.mem_append, List.mem_singleton, not_or]
    tauto

/-- A queue kept its books, and a call on it keeps them. -/
theorem Accounts.step (h : Accounts q₀ l q) (c : QueueCall) : Accounts q₀ (c.record q l) (c.run q).2 := by
  cases c with
  | publish id => simpa [QueueCall.record, QueueCall.run, QueueCall.published, QueueCall.settles,
      QueueCall.delivers, QueueCall.closes, publish] using h.append [id]
  | publishAll ids => simpa [QueueCall.record, QueueCall.run, QueueCall.published, QueueCall.settles,
      QueueCall.delivers, QueueCall.closes, publishAll] using h.append ids
  | consume n => simpa [QueueCall.record, QueueCall.run, QueueCall.published, QueueCall.settles,
      QueueCall.delivers, QueueCall.closes] using h.consume n
  | ack t =>
    by_cases ht : t ∈ q.tags
    · obtain ⟨id, hm⟩ := mem_tags.1 ht
      have e := h.settle hm q.ready [id] (List.Perm.refl _)
      simpa [QueueCall.record, QueueCall.run, QueueCall.published, QueueCall.settles, QueueCall.delivers,
        QueueCall.closes, ack_of_mem hm, find?_tag_of_mem h.sound.nodup hm] using e
    · simpa [QueueCall.record, QueueCall.run, QueueCall.published, QueueCall.settles, QueueCall.delivers,
        QueueCall.closes, ack_of_not_mem ht, find?_tag_of_not_mem ht] using h
  | nack t r =>
    by_cases ht : t ∈ q.tags
    · obtain ⟨id, hm⟩ := mem_tags.1 ht
      cases r with
      | false =>
        have e := h.settle hm q.ready [id] (List.Perm.refl _)
        simpa [QueueCall.record, QueueCall.run, QueueCall.published, QueueCall.settles, QueueCall.delivers,
          QueueCall.closes, nack_of_mem h.sound hm, find?_tag_of_mem h.sound.nodup hm] using e
      | true =>
        have e := h.settle hm ((id, true) :: q.ready) [] (by simpa using (List.perm_append_singleton id _).symm)
        simpa [QueueCall.record, QueueCall.run, QueueCall.published, QueueCall.settles, QueueCall.delivers,
          QueueCall.closes, nack_of_mem h.sound hm] using e
    · cases r <;> simpa [QueueCall.record, QueueCall.run, QueueCall.published, QueueCall.settles,
        QueueCall.delivers, QueueCall.closes, nack_of_not_mem ht, find?_tag_of_not_mem ht] using h

/-- Calls made in turn from a queue whose books are kept keep them. -/
theorem Accounts.foldl (h : Accounts q₀ l q) (cs : List QueueCall) :
    Accounts q₀ (cs.foldl QueueCall.replayStep (q, l)).2 (cs.foldl QueueCall.replayStep (q, l)).1 := by
  induction cs generalizing q l with
  | nil => exact h
  | cons c cs ih => exact ih (h.step c)

/-- Every run from a sound queue keeps the books. -/
theorem accounts_replay (h : q.Sound) (cs : List QueueCall) : Accounts q (q.replay cs).2 (q.replay cs).1 :=
  (Accounts.start h).foldl cs

/-- Whatever calls are made on a new queue, in whatever order: the ids it holds, waiting or in flight, are
the multiset of ids published less those acknowledged or refused without a requeue; no two deliveries share
a tag; a tag is in flight exactly when it was delivered and not acknowledged or refused since, so an
acknowledgement or refusal of a tag never delivered, or already settled, is refused and changes nothing;
and a consume never lifts the count in flight above the larger of its prefetch and the count before it. -/
theorem replay_keeps_account (name : String) (cs : List QueueCall) :
    let q := ((WorkQueue.empty name).replay cs).1
    let l := ((WorkQueue.empty name).replay cs).2
    (↑q.held : Multiset TaskId) = ↑l.published - ↑l.settled ∧ l.delivered.Nodup ∧
    (∀ t, t ∈ q.tags ↔ t ∈ l.delivered ∧ t ∉ l.closed) ∧
    (∀ t, t ∉ l.delivered ∨ t ∈ l.closed → q.ack t = (false, q) ∧ ∀ r, q.nack t r = (false, q)) ∧
    ∀ n, (q.consume n).2.inFlight ≤ max n q.inFlight := by
  intro q l
  have h : Accounts (WorkQueue.empty name) l q := accounts_replay (Sound.empty name) cs
  have htags : ∀ t, t ∈ q.tags ↔ t ∈ l.delivered ∧ t ∉ l.closed := fun t => by
    simpa [tags, WorkQueue.empty] using h.tags t
  have hheld : (↑q.held : Multiset TaskId) + ↑l.settled = ↑l.published := by
    rw [Multiset.coe_add, Multiset.coe_eq_coe]
    simpa [WorkQueue.held, WorkQueue.empty] using h.held
  refine ⟨by rw [← hheld, Multiset.add_sub_cancel_right], h.delivered_nodup, htags, fun t ht => ?_,
    inFlight_consume_le⟩
  have hn : t ∉ q.tags := fun hm => by
    rcases ht with ht | ht
    · exact ht ((htags t).1 hm).1
    · exact ((htags t).1 hm).2 ht
  exact ⟨ack_of_not_mem hn, nack_of_not_mem hn⟩

/-- A refused delivery put back comes out again first, marked as redelivered, under a new tag. -/
example : (((WorkQueue.empty "q").replay
      [.publish ⟨⟨1⟩⟩, .publish ⟨⟨2⟩⟩, .consume 1, .nack 0 true]).1.consume 1).1 = [⟨1, ⟨⟨1⟩⟩, true⟩] := by
  decide

end WorkQueue

end Conveyor
