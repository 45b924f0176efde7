/-
The account of a poll, wherever it returns.  A poll can leave its loop with a call that fails, a chunk that the
sink does not take whole, an empty reply or one at the end, and the flush after these may fail too.  At each of
these exits the offset, the sink and the count tell the same: they have moved by the chunks that were
taken whole, and only a chunk that was refused leaves a part of itself in the sink.
-/
import Mathlib.Tactic.Common
import TaskTail.Proofs.Range.OnWire
import TaskTail.Proofs.Tail.Exchange

namespace TaskTail

/-- The answer brings bytes, and is not the last one of a poll that can write them. -/
def Answer.GoesOn : Answer → Prop
  | .error _ => False
  | .ok reply => reply.data ≠ .empty ∧ reply.endOfFile = false

/-- The answer is the last one of a poll that finds no more output. -/
def Answer.Final : Answer → Prop
  | .error _ => False
  | .ok reply => reply.data = .empty ∨ reply.endOfFile = true

theorem Answer.GoesOn.not_final {answer : Answer} (hgoes : answer.GoesOn) : ¬ answer.Final := by
  rcases answer with error | reply
  · exact hgoes.elim
  · rintro (hdata | hend)
    · exact hgoes.1 hdata
    · exact Bool.false_ne_true (hgoes.2.symm.trans hend)

/-- The chunks that exchanges bring, in their order. -/
def chunksOf (xs : List Exchange) : List ByteArray :=
  (xs.map fun x => answerBytes x.answer).filter fun data => !data.isEmpty

/-- The sink after the chunks, if it takes all of them whole. -/
def Sink.takeAll? (s : Sink) : List ByteArray → Option Sink
  | [] => some s
  | chunk :: rest =>
    match s.write chunk with
    | (t, none) => t.takeAll? rest
    | (_, some _) => none

@[simp] theorem chunksOf_nil : chunksOf [] = [] := rfl

theorem chunksOf_cons_of_bytes {x : Exchange} {reply : RangeReply} (hanswer : x.answer = .ok reply)
    (hdata : reply.data ≠ .empty) (xs : List Exchange) :
    chunksOf (x :: xs) = reply.data :: chunksOf xs := by
  have hkeep : (!reply.data.isEmpty) = true := by
    rw [Bool.not_eq_true', ← Bool.not_eq_true]
    exact mt isEmpty_iff.mp hdata
  simp [chunksOf, hanswer, answerBytes, hkeep]

/-- An exchange that fails or is empty brings no chunk. -/
theorem chunksOf_cons_of_empty {x : Exchange} (hempty : answerBytes x.answer = .empty)
    (xs : List Exchange) : chunksOf (x :: xs) = chunksOf xs := by
  simp [chunksOf, hempty, ByteArray.isEmpty]

/-- The last of the exchanges, and none before it, ends a poll that finds no more output. -/
def OnlyLastIsFinal (xs : List Exchange) : Prop :=
  ∃ front last, xs = front ++ [last] ∧ last.answer.Final ∧ ∀ x ∈ front, x.answer.GoesOn

theorem not_onlyLastIsFinal_nil : ¬ OnlyLastIsFinal [] := by
  rintro ⟨front, last, hxs, -⟩
  simp at hxs

theorem onlyLastIsFinal_singleton_iff (x : Exchange) : OnlyLastIsFinal [x] ↔ x.answer.Final := by
  constructor
  · rintro ⟨front, last, hxs, hfinal, -⟩
    obtain ⟨-, rfl⟩ := List.append_eq_singleton_iff.mp hxs.symm |>.resolve_right (by simp)
      |>.imp id List.singleton_inj.mp
    exact hfinal
  · intro hfinal
    exact ⟨[], x, rfl, hfinal, by simp⟩

theorem onlyLastIsFinal_cons_iff {x : Exchange} (hgoes : x.answer.GoesOn) (xs : List Exchange) :
    OnlyLastIsFinal (x :: xs) ↔ OnlyLastIsFinal xs := by
  constructor
  · rintro ⟨front, last, hxs, hfinal, hfront⟩
    rcases front with _ | ⟨first, front⟩
    · obtain ⟨rfl, -⟩ := List.cons.inj hxs
      exact (hgoes.not_final hfinal).elim
    · obtain ⟨rfl, rfl⟩ := List.cons.inj hxs
      exact ⟨front, last, rfl, hfinal, fun y hy => hfront y (List.mem_cons_of_mem x hy)⟩
  · rintro ⟨front, last, rfl, hfinal, hfront⟩
    exact ⟨x :: front, last, rfl, hfinal, List.forall_mem_cons.mpr ⟨hgoes, hfront⟩⟩

theorem Sink.takeAll?_cons_of_taken {s t : Sink} {chunk : ByteArray} (hwrite : s.write chunk = (t, none))
    (rest : List ByteArray) : s.takeAll? (chunk :: rest) = t.takeAll? rest := by
  rw [takeAll?, hwrite]

theorem Sink.received_of_taken {s t : Sink} {chunk : ByteArray} (hwrite : s.write chunk = (t, none)) :
    t.received = s.received ++ chunk := by
  rw [write] at hwrite
  split at hwrite
  · cases hwrite
    rfl
  · cases hwrite

/-- A sink that takes chunks whole has received just these. -/
theorem Sink.received_takeAll? {s t : Sink} {chunks : List ByteArray}
    (htake : s.takeAll? chunks = some t) : t.received = s.received ++ joined chunks := by
  induction chunks generalizing s with
  | nil =>
      cases htake
      exact ByteArray.append_empty.symm
  | cons chunk rest ih =>
      rcases hwrite : s.write chunk with ⟨next, _ | source⟩
      · rw [takeAll?_cons_of_taken hwrite] at htake
        rw [ih htake, received_of_taken hwrite, joined_cons, ByteArray.append_assoc]
      · rw [takeAll?, hwrite] at htake
        cases htake

/-- A sink that refuses a chunk has received a proper part of it. -/
theorem Sink.received_of_refused {s t : Sink} {chunk : ByteArray} {source : IoError}
    (hwrite : s.write chunk = (t, some source)) (hchunk : chunk ≠ .empty) :
    ∃ part, t.received = s.received ++ part ∧ part.size < chunk.size ∧
      part = chunk.extract 0 part.size := by
  have hpos : chunk.size ≠ 0 := mt ByteArray.size_eq_zero_iff.mp hchunk
  rw [write] at hwrite
  split at hwrite
  · cases hwrite
  · rename_i taken error _
    cases hwrite
    refine ⟨_, rfl, ?_, ?_⟩
    · rw [ByteArray.size_extract]
      omega
    · rw [ByteArray.size_extract]
      congr 1
      omega

namespace Poll

/-- From `p` the poll goes through exchanges to `q`, and its sink takes the chunks `taken` whole. -/
inductive GoesThroughTaking : Poll → List Exchange → List ByteArray → Poll → Prop
  | pending {p : Poll} : p.result = none → GoesThroughTaking p [] [] p
  | failed {p : Poll} {error : ClientError} :
      GoesThroughTaking p [⟨p.tail.request, .error error⟩] [] { p with result := some (.error error) }
  | empty {p : Poll} {reply : RangeReply} :
      reply.data = .empty → GoesThroughTaking p [⟨p.tail.request, .ok reply⟩] [] p.finish
  | refused {p : Poll} {reply : RangeReply} {s : Sink} {source : IoError} :
      reply.data ≠ .empty → p.sink.write reply.data = (s, some source) →
      GoesThroughTaking p [⟨p.tail.request, .ok reply⟩] []
        { p with sink := s, result := some (.error (.write source)) }
  | last {p : Poll} {reply : RangeReply} {s : Sink} :
      reply.data ≠ .empty → p.sink.write reply.data = (s, none) → reply.endOfFile = true →
      GoesThroughTaking p [⟨p.tail.request, .ok reply⟩] [reply.data]
        (p.advance s reply.data.size).finish
  | more {p q : Poll} {reply : RangeReply} {s : Sink} {xs : List Exchange} {taken : List ByteArray} :
      reply.data ≠ .empty → p.sink.write reply.data = (s, none) → reply.endOfFile = false →
      GoesThroughTaking (p.advance s reply.data.size) xs taken q →
      GoesThroughTaking p (⟨p.tail.request, .ok reply⟩ :: xs) (reply.data :: taken) q

variable {p q : Poll} {xs : List Exchange} {taken : List ByteArray} {s : Sink}

theorem exists_result_finish (p : Poll) : ∃ result, p.finish.result = some result :=
  ⟨_, by rw [finish_eq]⟩

/-- Every poll under way goes through its exchanges so, whoever answers it and whatever its sink does. -/
theorem exists_goesThroughTaking (hpending : p.result = none) (calls : List Responder) :
    ∃ taken, GoesThroughTaking p (p.exchanges calls) taken (p.run calls).1 := by
  induction calls generalizing p with
  | nil => exact ⟨[], .pending hpending⟩
  | cons respond rest ih =>
      rw [exchanges_cons_of_pending hpending, run_cons_of_pending hpending]
      have hanswered := p.answered_feed (respond p.tail.request)
      generalize respond p.tail.request = answer at hanswered ⊢
      generalize p.feed answer = next at hanswered ⊢
      rcases hanswered with error | ⟨reply, hdata⟩ | ⟨reply, s, source, hdata, hwrite⟩ |
        ⟨reply, s, hdata, hwrite, hend⟩ | ⟨reply, s, hdata, hwrite, hend⟩
      · rw [run_of_over rfl, exchanges_of_over rfl]
        exact ⟨[], .failed⟩
      · obtain ⟨result, hover⟩ := p.exists_result_finish
        rw [run_of_over hover, exchanges_of_over hover]
        exact ⟨[], .empty hdata⟩
      · rw [run_of_over rfl, exchanges_of_over rfl]
        exact ⟨[], .refused hdata hwrite⟩
      · obtain ⟨result, hover⟩ := (p.advance s reply.data.size).exists_result_finish
        rw [run_of_over hover, exchanges_of_over hover]
        exact ⟨[reply.data], .last hdata hwrite hend⟩
      · obtain ⟨taken, hthrough⟩ := ih (p := p.advance s reply.data.size) hpending
        exact ⟨reply.data :: taken, .more hdata hwrite hend hthrough⟩

/-- The offset and the count have moved by the chunks that were taken whole. -/
theorem GoesThroughTaking.moved (hthrough : GoesThroughTaking p xs taken q) :
    q.tail = p.tail.withOffset (p.tail.offset + (joined taken).size) ∧
      q.written = p.written + (joined taken).size := by
  induction hthrough with
  | pending | failed | refused => exact ⟨rfl, rfl⟩
  | empty =>
      rw [finish_eq]
      exact ⟨rfl, rfl⟩
  | last =>
      rw [finish_eq, joined_singleton]
      exact ⟨rfl, rfl⟩
  | more _ _ _ _ ih =>
      rw [ih.1, ih.2, joined_cons, ByteArray.size_append, ← Nat.add_assoc, ← Nat.add_assoc]
      exact ⟨rfl, rfl⟩

theorem GoesThroughTaking.exists_takeAll? (hthrough : GoesThroughTaking p xs taken q) :
    ∃ s, p.sink.takeAll? taken = some s := by
  induction hthrough with
  | pending | failed | empty | refused => exact ⟨_, rfl⟩
  | last _ hwrite => exact ⟨_, Sink.takeAll?_cons_of_taken hwrite []⟩
  | more _ hwrite _ _ ih =>
      rw [Sink.takeAll?_cons_of_taken hwrite]
      exact ih

/-- The sink took all chunks whole, or all but the last, of which it has received a part. -/
theorem GoesThroughTaking.received (hthrough : GoesThroughTaking p xs taken q)
    (htake : p.sink.takeAll? taken = some s) :
    (chunksOf xs = taken ∧ q.sink.received = s.received) ∨
      ∃ chunk source part, chunksOf xs = taken ++ [chunk] ∧ (s.write chunk).2 = some source ∧
        q.sink.received = s.received ++ part ∧ part.size < chunk.size ∧
        part = chunk.extract 0 part.size := by
  induction hthrough with
  | pending =>
      cases htake
      exact Or.inl ⟨rfl, rfl⟩
  | failed =>
      cases htake
      exact Or.inl ⟨chunksOf_cons_of_empty rfl [], rfl⟩
  | @empty p reply hdata =>
      cases htake
      refine Or.inl ⟨?_, received_finish p⟩
      exact chunksOf_cons_of_empty (x := ⟨_, .ok reply⟩) hdata []
  | @refused p reply _ source hdata hwrite =>
      cases htake
      obtain ⟨part, hreceived, hpart⟩ := Sink.received_of_refused hwrite hdata
      refine Or.inr ⟨reply.data, source, part, chunksOf_cons_of_bytes rfl hdata [], ?_, hreceived, hpart⟩
      rw [hwrite]
  | last hdata hwrite _ =>
      rw [Sink.takeAll?_cons_of_taken hwrite] at htake
      cases htake
      exact Or.inl ⟨chunksOf_cons_of_bytes rfl hdata [], received_finish _⟩
  | more hdata hwrite _ _ ih =>
      rw [Sink.takeAll?_cons_of_taken hwrite] at htake
      rw [chunksOf_cons_of_bytes rfl hdata]
      rcases ih htake with ⟨hchunks, hsink⟩ | ⟨chunk, source, part, hchunks, hrest⟩
      · exact Or.inl ⟨by rw [hchunks], hsink⟩
      · exact Or.inr ⟨chunk, source, part, by rw [hchunks, List.cons_append], hrest⟩

/-- Each call asks for what comes right behind the chunks of the calls before it. -/
theorem GoesThroughTaking.request_eq {earlier later : List Exchange} {x : Exchange}
    (hthrough : GoesThroughTaking p (earlier ++ x :: later) taken q) :
    x.request = (p.tail.withOffset (p.tail.offset + (joined (chunksOf earlier)).size)).request := by
  induction earlier generalizing p taken with
  | nil => rcases hthrough <;> rfl
  | cons first earlier ih =>
      generalize hxs : first :: earlier ++ x :: later = xs at hthrough
      rcases hthrough with _ | _ | _ | _ | _ | ⟨hdata, hwrite, _, hrest⟩
      · cases hxs
      · simp at hxs
      · simp at hxs
      · simp at hxs
      · simp at hxs
      · rw [List.cons_append, List.cons.injEq] at hxs
        obtain ⟨rfl, rfl⟩ := hxs
        rw [ih hrest, chunksOf_cons_of_bytes rfl hdata, joined_cons, ByteArray.size_append,
          ← Nat.add_assoc]
        rfl

theorem result_finish_eq_ok_iff (p : Poll) (n : Nat) :
    p.finish.result = some (.ok n) ↔ n = p.written ∧ p.sink.flush.2 = none := by
  rw [finish_eq]
  rcases p.sink.flush.2 with _ | source
  · simp [eq_comm]
  · simp

theorem result_finish_eq_error_iff (p : Poll) (error : ClientError) :
    p.finish.result = some (.error error) ↔
      ∃ source, error = .write source ∧ p.sink.flush.2 = some source := by
  rw [finish_eq]
  rcases p.sink.flush.2 with _ | source
  · simp
  · simp [eq_comm]

/-- A poll ends well exactly when it finds no more output, and the sink took all chunks and was flushed. -/
theorem GoesThroughTaking.result_eq_ok_iff (hthrough : GoesThroughTaking p xs taken q)
    (htake : p.sink.takeAll? taken = some s)
    (n : Nat) :
    q.result = some (.ok n) ↔
      n = q.written ∧ chunksOf xs = taken ∧ s.flush.2 = none ∧ OnlyLastIsFinal xs := by
  induction hthrough with
  | pending hpending => simp [hpending, not_onlyLastIsFinal_nil]
  | failed => simp [onlyLastIsFinal_singleton_iff, Answer.Final]
  | @empty p reply hdata =>
      cases htake
      rw [result_finish_eq_ok_iff, onlyLastIsFinal_singleton_iff, finish_eq,
        chunksOf_cons_of_empty (x := ⟨_, .ok reply⟩) hdata []]
      simp [Answer.Final, hdata]
  | refused hdata _ =>
      rw [chunksOf_cons_of_bytes rfl hdata]
      simp
  | last hdata hwrite hend =>
      rw [Sink.takeAll?_cons_of_taken hwrite] at htake
      cases htake
      rw [result_finish_eq_ok_iff, onlyLastIsFinal_singleton_iff, finish_eq, chunksOf_cons_of_bytes rfl hdata]
      simp [Answer.Final, hend, advance]
  | @more p q reply s xs taken hdata hwrite hend _ ih =>
      have hgoes : Answer.GoesOn (.ok reply) := ⟨hdata, hend⟩
      rw [Sink.takeAll?_cons_of_taken hwrite] at htake
      rw [ih htake, chunksOf_cons_of_bytes rfl hdata,
        onlyLastIsFinal_cons_iff (x := ⟨p.tail.request, .ok reply⟩) hgoes, List.cons.injEq,
        and_iff_right rfl]

/-- A poll fails with a failed call, a refused chunk or a failed flush, and with nothing else. -/
theorem GoesThroughTaking.result_eq_error_iff (hthrough : GoesThroughTaking p xs taken q)
    (htake : p.sink.takeAll? taken = some s)
    (error : ClientError) :
    q.result = some (.error error) ↔ (∃ x ∈ xs, x.answer = .error error) ∨
      ∃ source, error = .write source ∧
        ((∃ chunk, chunksOf xs = taken ++ [chunk] ∧ (s.write chunk).2 = some source) ∨
          (chunksOf xs = taken ∧ s.flush.2 = some source ∧ OnlyLastIsFinal xs)) := by
  induction hthrough with
  | pending hpending => simp [hpending, not_onlyLastIsFinal_nil]
  | @failed p failure =>
      rw [chunksOf_cons_of_empty (x := ⟨_, .error failure⟩) rfl [], onlyLastIsFinal_singleton_iff]
      simp [Answer.Final]
  | @empty p reply hdata =>
      cases htake
      rw [result_finish_eq_error_iff, onlyLastIsFinal_singleton_iff,
        chunksOf_cons_of_empty (x := ⟨_, .ok reply⟩) hdata []]
      simp [Answer.Final, hdata]
  | refused hdata hwrite =>
      cases htake
      rw [chunksOf_cons_of_bytes rfl hdata]
      simp [hwrite, eq_comm]
  | last hdata hwrite hend =>
      rw [Sink.takeAll?_cons_of_taken hwrite] at htake
      cases htake
      rw [result_finish_eq_error_iff, onlyLastIsFinal_singleton_iff, chunksOf_cons_of_bytes rfl hdata]
      simp [Answer.Final, hend, advance]
  | @more p q reply s xs taken hdata hwrite hend _ ih =>
      have hgoes : Answer.GoesOn (.ok reply) := ⟨hdata, hend⟩
      rw [Sink.takeAll?_cons_of_taken hwrite] at htake
      rw [ih htake, chunksOf_cons_of_bytes rfl hdata,
        onlyLastIsFinal_cons_iff (x := ⟨p.tail.request, .ok reply⟩) hgoes]
      simp

/-- Every exchange but the last brings bytes, and does not end the poll. -/
theorem GoesThroughTaking.goesOn (hthrough : GoesThroughTaking p xs taken q) :
    ∀ x ∈ xs.dropLast, x.answer.GoesOn := by
  induction hthrough with
  | pending | failed | empty | refused | last => simp
  | @more p q reply s xs taken hdata _ hend _ ih =>
      rcases xs with _ | ⟨next, xs⟩
      · simp
      · rw [List.dropLast_cons_cons, List.forall_mem_cons]
        exact ⟨⟨hdata, hend⟩, ih⟩

/-- The account of a poll `p` that started with `tail` and `sink` and has had the exchanges `xs`: its sink took
the chunks `taken` whole, after which it was `s`. -/
structure Account (tail : Tail) (sink : Sink) (xs : List Exchange) (taken : List ByteArray) (s : Sink)
    (p : Poll) : Prop where
  took : sink.takeAll? taken = some s
  offset : p.tail = tail.withOffset (tail.offset + (joined taken).size)
  received : (chunksOf xs = taken ∧ p.sink.received = sink.received ++ joined taken) ∨
    ∃ chunk source part, chunksOf xs = taken ++ [chunk] ∧ (s.write chunk).2 = some source ∧
      p.sink.received = sink.received ++ joined taken ++ part ∧ part.size < chunk.size ∧
      part = chunk.extract 0 part.size
  requests : ∀ (earlier : List Exchange) (x : Exchange) (later : List Exchange),
    xs = earlier ++ x :: later →
    x.request = (tail.withOffset (tail.offset + (joined (chunksOf earlier)).size)).request ∧
      x.request.toWire.offset.toInt =
        (min (tail.offset + (joined (chunksOf earlier)).size) maxWireOffset : Nat)
  goesOn : ∀ x ∈ xs.dropLast, x.answer.GoesOn
  result_ok : ∀ n, p.result = some (.ok n) ↔
    n = (joined taken).size ∧ chunksOf xs = taken ∧ s.flush.2 = none ∧ OnlyLastIsFinal xs
  result_error : ∀ error, p.result = some (.error error) ↔
    (∃ x ∈ xs, x.answer = .error error) ∨
      ∃ source, error = .write source ∧
        ((∃ chunk, chunksOf xs = taken ++ [chunk] ∧ (s.write chunk).2 = some source) ∨
          (chunksOf xs = taken ∧ s.flush.2 = some source ∧ OnlyLastIsFinal xs))

theorem GoesThroughTaking.account {tail : Tail} {sink : Sink}
    (hthrough : GoesThroughTaking (start tail sink) xs taken q)
    (htake : sink.takeAll? taken = some s) : Account tail sink xs taken s q := by
  have hreceived : s.received = sink.received ++ joined taken := Sink.received_takeAll? htake
  have hwritten : q.written = (joined taken).size := hthrough.moved.2.trans (Nat.zero_add _)
  refine ⟨htake, hthrough.moved.1, ?_, ?_, hthrough.goesOn, ?_, hthrough.result_eq_error_iff htake⟩
  · rw [← hreceived]
    exact hthrough.received htake
  · rintro earlier x later rfl
    have hrequest := hthrough.request_eq
    refine ⟨hrequest, ?_⟩
    rw [hrequest, RangeRequest.toInt_offset_toWire]
    rfl
  · intro n
    rw [← hwritten]
    exact hthrough.result_eq_ok_iff htake n

/-- Each exchange is with the responder whose turn it is. -/
theorem forall₂_exchanges (p : Poll) (calls : List Responder) :
    List.Forall₂ (fun respond x => x.answer = respond x.request)
      (calls.take (p.exchanges calls).length) (p.exchanges calls) := by
  induction calls generalizing p with
  | nil => exact .nil
  | cons respond rest ih =>
      rcases hresult : p.result with _ | result
      · rw [exchanges_cons_of_pending hresult]
        exact .cons rfl (ih _)
      · rw [exchanges_of_over hresult]
        exact .nil

/-- A poll has a true account at all times, and so wherever it returns: with every server, which may send
data at the end, nothing without the end, or fail after any number of chunks, and with every sink.  It asks the
responders in their turn, and none after its last exchange. -/
theorem exists_account (tail : Tail) (sink : Sink) (calls : List Responder) :
    let xs := (start tail sink).exchanges calls
    (∃ taken s, Account tail sink xs taken s ((start tail sink).run calls).1) ∧
    ((start tail sink).run calls).2 = calls.drop xs.length ∧
    List.Forall₂ (fun respond x => x.answer = respond x.request) (calls.take xs.length) xs := by
  refine ⟨?_, ?_, forall₂_exchanges _ calls⟩
  · obtain ⟨taken, hthrough⟩ := exists_goesThroughTaking (p := start tail sink) rfl calls
    obtain ⟨s, htake⟩ := hthrough.exists_takeAll?
    exact ⟨taken, s, hthrough.account htake⟩
  · rw [run_eq_exchanges]

end Poll

end TaskTail
