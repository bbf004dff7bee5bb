import Conveyor.Service.Stream

/-!
# How a copy into a writer ends

`copyStream` reads a stream into a buffer of at least one byte and writes each piece it reads, until
a read hands out nothing; then it shuts the writer down. The token is looked at before every read,
and a read or a call on the writer may fail. What the reads hand out is read off their answers by
`readOut`: the pieces before the end of the stream, none of them empty, and the failure that stops
the reads, if one does.

* `Ends` says in five ways how a copy of such pieces ends: the token seen before a read, a read
  that fails, a write the writer refuses, or the end of the stream followed by a shutdown that the
  writer refuses or takes. In each the writer has had the pieces read so far, in order, and only
  the last two call its shutdown. `copyStream_ends`: every copy ends in one of them.
* `copyStream_ok_iff_whole_stream`: a copy gives a count exactly when the stream ends with no
  failure before the token is seen and the writer takes every piece and then the shutdown; the
  count is the bytes of the pieces. A copy that fails and shut the writer down did so after the
  whole stream, and fails with the shutdown's own failure.
* `Source.copyOut_whole`: a file that does not break off is copied whole into a buffer, whatever
  the size of the buffer, `0` included.
-/

namespace Conveyor

/-- What the reads of a stream hand out before it ends: the pieces, none of them empty, and the
failure that stops the reads, if one does. -/
def readOut : List (Except Breakage Bytes) → List Bytes × Option Breakage
  | [] => ([], none)
  | .error b :: _ => ([], some b)
  | .ok [] :: _ => ([], none)
  | .ok (x :: xs) :: rest => ((x :: xs) :: (readOut rest).1, (readOut rest).2)

/-- The writer takes each of the calls `calls`, made after the calls `done`: it refuses none. -/
def Takes (writer : List WriterCall → Option Breakage) : List WriterCall → List WriterCall → Prop
  | _, [] => True
  | done, c :: calls => writer (done ++ [c]) = none ∧ Takes writer (done ++ [c]) calls

theorem takes_append (writer : List WriterCall → Option Breakage) :
    ∀ (done calls more : List WriterCall),
      Takes writer done (calls ++ more) ↔ Takes writer done calls ∧ Takes writer (done ++ calls) more
  | done, [], more => by simp [Takes]
  | done, c :: calls, more => by
    simp only [List.cons_append, Takes, takes_append writer (done ++ [c]) calls more, List.append_assoc,
      List.nil_append, and_assoc]

theorem Takes.last {writer : List WriterCall → Option Breakage} {done calls : List WriterCall} {c : WriterCall}
    (h : Takes writer done (calls ++ [c])) : writer (done ++ calls ++ [c]) = none :=
  ((takes_append writer done calls [c]).1 h).2.1

/-- A writer that takes some calls takes the calls that lead up to each of them. -/
theorem Takes.prefix {writer : List WriterCall → Option Breakage} {done calls pre : List WriterCall}
    (h : Takes writer done calls) (hp : pre <+: calls) (hne : pre ≠ []) : writer (done ++ pre) = none := by
  obtain ⟨more, rfl⟩ := hp
  obtain ⟨front, c, rfl⟩ := (List.eq_nil_or_concat pre).resolve_left hne
  simp only [List.concat_eq_append] at h ⊢
  rw [← List.append_assoc]
  exact ((takes_append writer done _ more).1 h).1.last

/-- A writer that never fails takes every call. -/
theorem takes_of_never_fails : ∀ (done calls : List WriterCall), Takes (fun _ => none) done calls
  | _, [] => trivial
  | _, _ :: calls => ⟨rfl, takes_of_never_fails _ calls⟩

theorem shutdown_not_mem_writes (pieces : List Bytes) : WriterCall.shutdown ∉ pieces.map .write := by
  simp

/-- A failure of the system is never a cancellation. -/
theorem Error.ofIo_ne_cancelled (kind : IoKind) (text path : String) : Error.ofIo kind text path ≠ .cancelled := by
  cases kind <;> simp [Error.ofIo]

/-! ## The ways a copy ends -/

/-- How a copy ends from its `k`-th read on, with `total` bytes written in the calls `done`, when the
reads still to come hand out `pieces` and then the end of the stream (`fault = none`) or a failure:
its result and all the calls it made on the writer. -/
inductive Ends (writer : List WriterCall → Option Breakage) (cancelAt : Option Nat) (source destination : String)
    (pieces : List Bytes) (fault : Option Breakage) (k total : Nat) (done : List WriterCall) :
    Except Error Nat × List WriterCall → Prop
  /-- The token is seen before read `k + j`, when the writer has had the first `j` pieces. -/
  | cancelled (j : Nat) {calls : List WriterCall} : j ≤ pieces.length → cancelAt = some (k + j) →
      calls = done ++ (pieces.take j).map .write → Ends writer cancelAt source destination pieces fault k total done
        (.error .cancelled, calls)
  /-- The read after the last piece fails. -/
  | readFailed (b : Breakage) {calls : List WriterCall} : fault = some b → calls = done ++ pieces.map .write →
      Ends writer cancelAt source destination pieces fault k total done
        (.error (Error.ofIo b.kind b.text source), calls)
  /-- The writer refuses the write of piece `j`. -/
  | writeRefused (j : Nat) (b : Breakage) {calls : List WriterCall} : j < pieces.length →
      calls = done ++ (pieces.take (j + 1)).map .write → writer calls = some b →
      Ends writer cancelAt source destination pieces fault k total done
        (.error (Error.ofIo b.kind b.text destination), calls)
  /-- The stream ends before the token is seen, the writer takes every piece and refuses the shutdown. -/
  | shutdownRefused (b : Breakage) {calls : List WriterCall} : fault = none →
      (∀ c, cancelAt = some c → k ≤ c → k + pieces.length < c) → Takes writer done (pieces.map .write) →
      calls = done ++ pieces.map .write ++ [.shutdown] → writer calls = some b →
      Ends writer cancelAt source destination pieces fault k total done
        (.error (Error.ofIo b.kind b.text destination), calls)
  /-- The stream ends before the token is seen, the writer takes every piece and the shutdown, and the
  copy gives the bytes written. -/
  | finished {n : Nat} {calls : List WriterCall} : fault = none →
      (∀ c, cancelAt = some c → k ≤ c → k + pieces.length < c) → Takes writer done (pieces.map .write) →
      calls = done ++ pieces.map .write ++ [.shutdown] → writer calls = none → n = total + pieces.flatten.length →
      Ends writer cancelAt source destination pieces fault k total done (.ok n, calls)

section Rounds

variable {writer : List WriterCall → Option Breakage} {cancelAt : Option Nat} {source destination : String}

/-- A token not seen before read `k` and not before reads `k + 1` to `k + 1 + m` is not seen before
reads `k` to `k + (m + 1)`. -/
theorem quiet_cons {k m : Nat} (hc : cancelAt ≠ some k)
    (hq : ∀ c, cancelAt = some c → k + 1 ≤ c → k + 1 + m < c) :
    ∀ c, cancelAt = some c → k ≤ c → k + (m + 1) < c := by
  intro c hc' hk
  have hne : c ≠ k := fun h => hc (h ▸ hc')
  have := hq c hc' (by omega)
  omega

/-- A round that writes the piece `x` and goes on ends as the rounds after it. -/
theorem Ends.cons {x : Bytes} {pieces : List Bytes} {fault : Option Breakage} {k total : Nat}
    {done : List WriterCall} {res : Except Error Nat × List WriterCall} (hc : cancelAt ≠ some k)
    (hw : writer (done ++ [.write x]) = none)
    (h : Ends writer cancelAt source destination pieces fault (k + 1) (total + x.length) (done ++ [.write x]) res) :
    Ends writer cancelAt source destination (x :: pieces) fault k total done res := by
  cases h with
  | cancelled j hj hk hcalls =>
    exact .cancelled (j + 1) (by simpa using hj) (by rw [hk]; congr 1; omega) (by simp [hcalls])
  | readFailed b hf hcalls => exact .readFailed b hf (by simp [hcalls])
  | writeRefused j b hj hcalls hb =>
    exact .writeRefused (j + 1) b (by simpa using hj) (by simp [hcalls]) hb
  | shutdownRefused b hf hq ht hcalls hb =>
    refine .shutdownRefused b hf (by simpa using quiet_cons hc hq) ⟨hw, ht⟩ (by simp [hcalls]) hb
  | finished hf hq ht hcalls hn hw' =>
    refine .finished hf (by simpa using quiet_cons hc hq) ⟨hw, ht⟩ (by simp [hcalls]) hn ?_
    simp [hw', Nat.add_assoc]

/-- A round that finds the end of the stream shuts the writer down. -/
theorem ends_finish {k total : Nat} {done : List WriterCall} (hc : cancelAt ≠ some k) :
    Ends writer cancelAt source destination [] none k total done (copyStream.finish writer destination total done) := by
  have hq : ∀ c, cancelAt = some c → k ≤ c → k + ([] : List Bytes).length < c := by
    intro c hc' hk
    have hne : c ≠ k := fun h => hc (h ▸ hc')
    simp only [List.length_nil]
    omega
  simp only [copyStream.finish]
  cases hw : writer (done ++ [.shutdown]) with
  | some b => exact .shutdownRefused b rfl hq trivial (by simp) hw
  | none => exact .finished rfl hq trivial (by simp) hw (by simp)

/-- Every run of a copy's rounds ends in one of the ways of `Ends`, read off the answers of its reads. -/
theorem pump_ends (answers : List (Except Breakage Bytes)) :
    ∀ (k total : Nat) (done : List WriterCall),
      Ends writer cancelAt source destination (readOut answers).1 (readOut answers).2 k total done
        (copyStream.pump writer cancelAt source destination answers k total done) := by
  induction answers with
  | nil =>
    intro k total done
    unfold copyStream.pump
    by_cases hc : cancelAt = some k
    · rw [if_pos hc]
      exact .cancelled 0 (Nat.zero_le _) (by simpa) (by simp)
    · rw [if_neg hc]
      exact ends_finish hc
  | cons a rest ih =>
    intro k total done
    unfold copyStream.pump
    by_cases hc : cancelAt = some k
    · rw [if_pos hc]
      exact .cancelled 0 (Nat.zero_le _) (by simpa) (by simp)
    · rw [if_neg hc]
      rcases a with b | _ | ⟨x, xs⟩
      · exact .readFailed b rfl (by simp [readOut])
      · exact ends_finish hc
      · -- a piece: the writer refuses it, or the copy goes on with the rest
        simp only [readOut]
        cases hw : writer (done ++ [.write (x :: xs)]) with
        | some b => exact .writeRefused 0 b (by simp) (by simp) hw
        | none => exact Ends.cons hc hw (ih (k + 1) _ _)

end Rounds

section Outcomes

variable {writer : List WriterCall → Option Breakage} {cancelAt : Option Nat} {source destination : String}
  {pieces : List Bytes} {fault : Option Breakage} {k total : Nat} {done calls : List WriterCall}

/-- A copy that gives a count read the whole stream with no failure before the token was seen, and the
writer took every piece and then the shutdown. -/
theorem Ends.of_ok {n : Nat}
    (h : Ends writer cancelAt source destination pieces fault k total done (.ok n, calls)) :
    fault = none ∧ (∀ c, cancelAt = some c → k ≤ c → k + pieces.length < c) ∧
      calls = done ++ pieces.map .write ++ [.shutdown] ∧ Takes writer done (pieces.map .write ++ [.shutdown]) ∧
      n = total + pieces.flatten.length := by
  cases h with
  | finished hf hq ht hcalls hw hn =>
    refine ⟨hf, hq, hcalls, (takes_append writer done _ _).2 ⟨ht, ?_⟩, hn⟩
    exact ⟨by rw [← hcalls]; exact hw, trivial⟩

/-- A stream that ends with no failure before the token is seen, into a writer that takes every piece and
the shutdown, is copied whole. -/
theorem Ends.ok_of_takes {res : Except Error Nat × List WriterCall}
    (h : Ends writer cancelAt source destination pieces fault k total done res) (hf : fault = none)
    (hq : ∀ c, cancelAt = some c → k ≤ c → k + pieces.length < c)
    (ht : Takes writer done (pieces.map .write ++ [.shutdown])) :
    res = (.ok (total + pieces.flatten.length), done ++ pieces.map .write ++ [.shutdown]) := by
  cases h with
  | cancelled j hj hk _ =>
    have := hq (k + j) hk (Nat.le_add_right k j)
    omega
  | readFailed b hb _ => simp [hf] at hb
  | writeRefused j b hj hcalls hb =>
    have hpre : (pieces.take (j + 1)).map WriterCall.write <+: pieces.map .write ++ [.shutdown] := by
      rw [List.map_take]
      exact (List.take_prefix _ _).trans (List.prefix_append _ _)
    rw [hcalls, ht.prefix hpre (List.ne_nil_of_length_pos (by simp; omega))] at hb
    cases hb
  | shutdownRefused b _ _ _ hcalls hb =>
    rw [hcalls, ht.last] at hb
    cases hb
  | finished _ _ _ hcalls _ hn => rw [hcalls, hn]

/-- A copy that fails after calling the shutdown read the whole stream with no failure before the token
was seen, the writer took every piece, and it fails with the writer's refusal of the shutdown. -/
theorem Ends.of_shutdown_mem {e : Error}
    (h : Ends writer cancelAt source destination pieces fault k total done (.error e, calls))
    (hs : .shutdown ∈ calls) (hd : .shutdown ∉ done) :
    fault = none ∧ (∀ c, cancelAt = some c → k ≤ c → k + pieces.length < c) ∧
      Takes writer done (pieces.map .write) ∧ calls = done ++ pieces.map .write ++ [.shutdown] ∧
      ∃ b, writer calls = some b ∧ e = Error.ofIo b.kind b.text destination := by
  have hw : ∀ ps : List Bytes, calls = done ++ ps.map .write → False := fun ps hcalls => by
    rw [hcalls, List.mem_append] at hs
    exact hs.elim hd (shutdown_not_mem_writes ps)
  cases h with
  | cancelled _ _ _ hcalls => exact (hw _ hcalls).elim
  | readFailed _ _ hcalls => exact (hw _ hcalls).elim
  | writeRefused _ _ _ hcalls _ => exact (hw _ hcalls).elim
  | shutdownRefused b hf hq ht hcalls hb => exact ⟨hf, hq, ht, hcalls, b, hb, rfl⟩

end Outcomes

/-- Every copy ends in one of the ways of `Ends`, read off what the reads into its buffer hand out. -/
theorem copyStream_ends (reader : Nat → List (Except Breakage Bytes)) (writer : List WriterCall → Option Breakage)
    (buffer : Nat) (cancelAt : Option Nat) (source destination : String) :
    Ends writer cancelAt source destination (readOut (reader (max buffer 1))).1 (readOut (reader (max buffer 1))).2
      0 0 [] (copyStream reader writer buffer cancelAt source destination) :=
  pump_ends _ 0 0 []

/-- A copy that sees its token never calls the writer's shutdown: the shutdown's own failure is a failure
of the system, never a cancellation. -/
theorem copyStream_cancelled_keeps_writer_open {reader : Nat → List (Except Breakage Bytes)}
    {writer : List WriterCall → Option Breakage} {buffer : Nat} {cancelAt : Option Nat} {source destination : String}
    {calls : List WriterCall} (h : copyStream reader writer buffer cancelAt source destination = (.error .cancelled, calls)) :
    .shutdown ∉ calls := by
  intro hs
  have hends := copyStream_ends reader writer buffer cancelAt source destination
  rw [h] at hends
  obtain ⟨-, -, -, -, b, -, hb⟩ := hends.of_shutdown_mem hs List.not_mem_nil
  exact Error.ofIo_ne_cancelled b.kind b.text destination hb.symm

example : copyStream (fun _ => [.ok [1], .ok [2]])
    (fun calls => if calls.length = 2 then some ⟨.brokenPipe, "gone"⟩ else none) 4 none "s" "d" =
      (.error (Error.ofIo .brokenPipe "gone" "d"), [.write [1], .write [2]]) := by
  rfl

/-- A copy gives a count exactly when its reads reach the end of the stream with no failure before the
token is seen, and the writer takes every call the copy makes: the pieces read, in order, and then the
shutdown. The count is the bytes of the pieces. A copy that fails has called the shutdown only after
all the pieces were read and taken with the token never seen, and it fails with the writer's refusal of
the shutdown. -/
theorem copyStream_ok_iff_whole_stream {reader : Nat → List (Except Breakage Bytes)}
    {writer : List WriterCall → Option Breakage} {buffer : Nat} {cancelAt : Option Nat} {source destination : String}
    {pieces : List Bytes} {fault : Option Breakage} {r : Except Error Nat} {calls : List WriterCall}
    (hread : readOut (reader (max buffer 1)) = (pieces, fault))
    (hcopy : copyStream reader writer buffer cancelAt source destination = (r, calls)) :
    (∀ n, r = .ok n ↔ fault = none ∧ (∀ c, cancelAt = some c → pieces.length < c) ∧
        calls = pieces.map .write ++ [.shutdown] ∧ Takes writer [] calls ∧ n = pieces.flatten.length) ∧
    (∀ e, r = .error e → .shutdown ∈ calls →
        fault = none ∧ (∀ c, cancelAt = some c → pieces.length < c) ∧ Takes writer [] (pieces.map .write) ∧
        calls = pieces.map .write ++ [.shutdown] ∧ ∃ b, writer calls = some b ∧ e = Error.ofIo b.kind b.text destination) := by
  have h := copyStream_ends reader writer buffer cancelAt source destination
  rw [hread, hcopy] at h
  refine ⟨fun n => ⟨fun hr => ?_, fun hok => ?_⟩, fun e hr hs => ?_⟩
  · subst hr
    obtain ⟨hf, hq, hcalls, ht, hn⟩ := h.of_ok
    rw [List.nil_append] at hcalls
    exact ⟨hf, fun c hc => by simpa using hq c hc (Nat.zero_le c), hcalls, hcalls ▸ ht, by simpa using hn⟩
  · obtain ⟨hf, hq, hcalls, ht, hn⟩ := hok
    have hres := h.ok_of_takes hf (fun c hc _ => by simpa using hq c hc) (hcalls ▸ ht)
    rw [Prod.mk.injEq, Nat.zero_add] at hres
    rw [hres.1, hn]
  · subst hr
    obtain ⟨hf, hq, ht, hcalls, hb⟩ := h.of_shutdown_mem hs List.not_mem_nil
    exact ⟨hf, fun c hc => by simpa using hq c hc (Nat.zero_le c), ht, by simpa using hcalls, hb⟩

/-- A stream of two pieces copied through a buffer of size `0` into a writer that takes every call. -/
theorem two_pieces_copied_whole :
    readOut ((fun _ => [.ok [1], .ok [2, 3]] : Nat → List (Except Breakage Bytes)) (max 0 1)) = ([[1], [2, 3]], none) ∧
    copyStream (fun _ => [.ok [1], .ok [2, 3]]) (fun _ => none) 0 none "src" "dst" =
      (.ok 3, [.write [1], .write [2, 3], .shutdown]) ∧
    ((∀ n, (.ok 3 : Except Error Nat) = .ok n ↔
        (none : Option Breakage) = none ∧ (∀ c, (none : Option Nat) = some c → [[1], [2, 3]].length < c) ∧
        [.write [1], .write [2, 3], .shutdown] = [[1], [2, 3]].map .write ++ [WriterCall.shutdown] ∧
        Takes (fun _ => none) [] [.write [1], .write [2, 3], .shutdown] ∧
        n = ([[1], [2, 3]] : List Bytes).flatten.length) ∧
      (∀ e, (.ok 3 : Except Error Nat) = .error e → .shutdown ∈ [WriterCall.write [1], .write [2, 3], .shutdown] →
        (none : Option Breakage) = none ∧ (∀ c, (none : Option Nat) = some c → [[1], [2, 3]].length < c) ∧
        Takes (fun _ => none) [] (([[1], [2, 3]] : List Bytes).map .write) ∧
        [.write [1], .write [2, 3], .shutdown] = [[1], [2, 3]].map .write ++ [WriterCall.shutdown] ∧
        ∃ b, (fun _ => none : List WriterCall → Option Breakage) [.write [1], .write [2, 3], .shutdown] = some b ∧
          e = Error.ofIo b.kind b.text "dst")) :=
  ⟨rfl, rfl, @copyStream_ok_iff_whole_stream (fun _ => [.ok [1], .ok [2, 3]]) (fun _ => none) 0 none "src" "dst"
    [[1], [2, 3]] none (.ok 3) [.write [1], .write [2, 3], .shutdown] rfl rfl⟩

/-! ## Copying a file into a buffer -/

theorem readOut_map_ok_append : ∀ (pieces : List Bytes), (∀ x ∈ pieces, x ≠ []) →
    ∀ (more : List (Except Breakage Bytes)),
      readOut (pieces.map .ok ++ more) = (pieces ++ (readOut more).1, (readOut more).2)
  | [], _, more => by simp
  | [] :: _, h, _ => absurd rfl (h [] List.mem_cons_self)
  | (x :: xs) :: pieces, h, more => by
    simp only [List.map_cons, List.cons_append, readOut,
      readOut_map_ok_append pieces (fun y hy => h y (List.mem_cons_of_mem _ hy)) more]

theorem mem_cutPieces_cons {data : Bytes} {n : Nat} {sizes : List Nat} {x : Bytes} :
    x ∈ cutPieces data (n :: sizes) ↔ x = data.take n ∨ x ∈ cutPieces (data.drop n) sizes := by
  simp [cutPieces]

namespace Source

/-- Every read of a file from an offset on hands out some of its bytes. -/
theorem cutPieces_ne_nil (s : Source) (buffer pos : Nat) :
    ∀ x ∈ cutPieces (s.data.drop pos) (s.piecesFrom buffer pos).1, x ≠ [] := by
  fun_induction s.piecesFrom buffer pos with
  | case3 pos at_ b hb hat hlen n rest fault hrest ih | case5 pos hb hlen n rest fault hrest ih =>
    intro x hx
    rw [mem_cutPieces_cons, List.drop_drop] at hx
    rcases hx with rfl | hx
    · -- a piece is at least one byte and at most what is left
      simp only [ne_eq, List.take_eq_nil_iff, List.drop_eq_nil_iff, not_or]
      omega
    · rw [hrest] at ih
      exact ih x hx
  | _ => simp [cutPieces]

/-- The reads of a file that does not break off hand out all its bytes from an offset on, and end with
no failure. -/
theorem flatten_cutPieces (s : Source) (hs : s.breaks = none) (buffer pos : Nat) :
    (cutPieces (s.data.drop pos) (s.piecesFrom buffer pos).1).flatten = s.data.drop pos ∧
      (s.piecesFrom buffer pos).2 = none := by
  fun_induction s.piecesFrom buffer pos with
  | case1 _ _ _ hb | case2 _ _ _ hb | case3 _ _ _ hb => simp [hs] at hb
  | case4 pos _ hlen => simp [cutPieces, List.drop_eq_nil_of_le hlen]
  | case5 pos _ _ n rest fault hrest ih =>
    rw [hrest] at ih
    refine ⟨?_, ih.2⟩
    rw [cutPieces, List.flatten_cons, List.drop_drop, ih.1, ← List.drop_drop, List.take_append_drop]

theorem readOut_answers (s : Source) (buffer : Nat) :
    readOut (s.answers buffer) = (cutPieces s.data (s.pieces buffer).1, (s.pieces buffer).2) := by
  rcases h : s.pieces buffer with ⟨pieces, fault⟩
  have hne : ∀ x ∈ cutPieces s.data pieces, x ≠ [] := by
    have := s.cutPieces_ne_nil buffer 0
    rwa [List.drop_zero, show s.piecesFrom buffer 0 = s.pieces buffer from rfl, h] at this
  simp only [answers, h, readOut_map_ok_append _ hne]
  cases fault <;> simp [readOut]

/-- A file that does not break off, copied with its token not cancelled, reaches the buffer whole, whatever
the size of the buffer, `0` included. -/
theorem copyOut_whole (s : Source) (hs : s.breaks = none) (buffer : Nat) (source destination : String) :
    s.copyOut buffer false source destination = (.ok s.data.length, s.data) := by
  have hP := s.flatten_cutPieces hs (max buffer 1) 0
  rw [List.drop_zero] at hP
  change (cutPieces s.data (s.pieces (max buffer 1)).1).flatten = s.data ∧ (s.pieces (max buffer 1)).2 = none at hP
  have h := copyStream_ends s.answers (fun _ => none) buffer none source destination
  rw [readOut_answers] at h
  have hres := h.ok_of_takes hP.2 (by simp) (takes_of_never_fails _ _)
  simp only [copyOut, Bool.false_eq_true, if_false, hres]
  simp [Function.comp_def, WriterCall.bytes, hP.1]

end Source

end Conveyor
