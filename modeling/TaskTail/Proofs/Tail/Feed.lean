/-
What one answer does to a poll.  A poll goes one of five ways with it, as the call, the bytes and the sink
decide.  When the sink takes everything, the bytes of the answer go to the sink, and the offset and the count of the
poll move by their number; the poll ends with a failed answer, with an empty one and with one at the end of
the output.
-/
import Mathlib.Tactic.Common
import TaskTail.Proofs.Range.Fill
import TaskTail.Tail.Poll

namespace TaskTail

/-- The bytes that an answer brings. -/
def answerBytes : Answer → ByteArray
  | .error _ => .empty
  | .ok reply => reply.data

namespace Poll

/-- How a poll ends with an answer, when it has written `written` bytes in all. -/
def resultAfter (written : Nat) : Answer → Option PollResult
  | .error error => some (.error error)
  | .ok reply => if reply.data.isEmpty || reply.endOfFile then some (.ok written) else none

/-- `q` is the poll `p` after its sink took `data`, as it takes everything. -/
structure Took (p : Poll) (data : ByteArray) (q : Poll) : Prop where
  tail : q.tail = p.tail.withOffset (p.tail.offset + data.size)
  rule : q.sink.rule = .accept
  received : q.sink.received = p.sink.received ++ data
  written : q.written = p.written + data.size

/-- `q` is the poll `p` after an answer. -/
structure Fed (p : Poll) (answer : Answer) (q : Poll) : Prop
    extends Took p (answerBytes answer) q where
  result : q.result = resultAfter q.written answer

variable {p : Poll}

theorem write_accept {s : Sink} (hrule : s.rule = .accept) (chunk : ByteArray) :
    s.write chunk = ({ s with received := s.received ++ chunk, writes := s.writes + 1 }, none) := by
  simp only [Sink.write, hrule, SinkRule.accept]

theorem finish_accept (hrule : p.sink.rule = .accept) :
    p.finish = { p with
      sink := { p.sink with flushed := p.sink.received.size, flushes := p.sink.flushes + 1 }
      result := some (.ok p.written) } := by
  simp only [finish, Sink.flush, hrule, SinkRule.accept]

theorem received_flush (s : Sink) : s.flush.1.received = s.received := by
  rw [Sink.flush]
  split <;> rfl

/-- The end of a poll flushes the sink, and is the end that the flush gives it. -/
theorem finish_eq (p : Poll) :
    p.finish = { p with
      sink := p.sink.flush.1
      result := some (p.sink.flush.2.elim (.ok p.written) fun source => .error (.write source)) } := by
  rw [finish]
  rcases p.sink.flush with ⟨sink, _ | source⟩ <;> rfl

theorem tail_finish (p : Poll) : p.finish.tail = p.tail := by
  rw [finish_eq]

theorem received_finish (p : Poll) : p.finish.sink.received = p.sink.received := by
  rw [finish_eq]
  exact received_flush p.sink

theorem result_finish (p : Poll) : p.finish.result = some (.ok p.written) ∨
    ∃ source, p.finish.result = some (.error (.write source)) := by
  rw [finish_eq]
  rcases p.sink.flush.2 with _ | source
  · exact Or.inl rfl
  · exact Or.inr ⟨source, rfl⟩

/-- What one answer can make of a poll. -/
inductive Answered (p : Poll) : Answer → Poll → Prop
  | failed (error : ClientError) : Answered p (.error error) { p with result := some (.error error) }
  | empty (reply : RangeReply) : reply.data = .empty → Answered p (.ok reply) p.finish
  | refused (reply : RangeReply) (s : Sink) (source : IoError) :
      reply.data ≠ .empty → p.sink.write reply.data = (s, some source) →
      Answered p (.ok reply) { p with sink := s, result := some (.error (.write source)) }
  | last (reply : RangeReply) (s : Sink) :
      reply.data ≠ .empty → p.sink.write reply.data = (s, none) → reply.endOfFile = true →
      Answered p (.ok reply) (p.advance s reply.data.size).finish
  | more (reply : RangeReply) (s : Sink) :
      reply.data ≠ .empty → p.sink.write reply.data = (s, none) → reply.endOfFile = false →
      Answered p (.ok reply) (p.advance s reply.data.size)

theorem answered_feed (p : Poll) (answer : Answer) : p.Answered answer (p.feed answer) := by
  rcases answer with error | reply
  · exact .failed error
  · by_cases hdata : reply.data = .empty
    · rw [feed, if_pos (isEmpty_iff.mpr hdata)]
      exact .empty reply hdata
    · rw [feed, if_neg (mt isEmpty_iff.mp hdata)]
      rcases hwrite : p.sink.write reply.data with ⟨s, _ | source⟩
      · rcases hend : reply.endOfFile with _ | _
        · exact .more reply s hdata hwrite hend
        · exact .last reply s hdata hwrite hend
      · exact .refused reply s source hdata hwrite

theorem took_empty (hrule : p.sink.rule = .accept) : Took p .empty p :=
  ⟨rfl, hrule, ByteArray.append_empty.symm, rfl⟩

theorem took_write (hrule : p.sink.rule = .accept) (data : ByteArray) :
    Took p data (p.advance (p.sink.write data).1 data.size) := by
  rw [write_accept hrule]
  exact ⟨rfl, hrule, rfl, rfl⟩

/-- The end of a poll changes nothing of what was taken. -/
theorem Took.finish {data : ByteArray} {q : Poll} (htook : Took p data q) :
    Took p data q.finish ∧ q.finish.result = some (.ok q.finish.written) := by
  rw [finish_accept htook.rule]
  exact ⟨⟨htook.tail, htook.rule, htook.received, htook.written⟩, rfl⟩

theorem Answered.fed {answer : Answer} {q : Poll} (hanswered : p.Answered answer q)
    (hrule : p.sink.rule = .accept) (hpending : p.result = none) : Fed p answer q := by
  rcases hanswered with error | ⟨reply, hdata⟩ | ⟨reply, s, source, hdata, hwrite⟩ |
    ⟨reply, s, hdata, hwrite, hend⟩ | ⟨reply, s, hdata, hwrite, hend⟩
  · have htook := took_empty hrule
    exact ⟨⟨htook.tail, htook.rule, htook.received, htook.written⟩, rfl⟩
  · obtain ⟨htook, hresult⟩ := (took_empty hrule).finish
    rw [← hdata] at htook
    refine ⟨htook, ?_⟩
    rw [hresult, resultAfter, isEmpty_iff.mpr hdata]
    rfl
  · rw [write_accept hrule] at hwrite
    simp at hwrite
  · have htook := took_write hrule reply.data
    rw [hwrite] at htook
    obtain ⟨htaken, hresult⟩ := htook.finish
    refine ⟨htaken, ?_⟩
    rw [hresult, resultAfter, hend, Bool.or_true, if_pos rfl]
  · have htook := took_write hrule reply.data
    rw [hwrite] at htook
    refine ⟨htook, ?_⟩
    rw [resultAfter, hend, Bool.or_false, if_neg (mt isEmpty_iff.mp hdata)]
    exact hpending

/-- With a sink that takes everything, an answer does no more and no less than `Fed` says. -/
theorem fed_feed (hrule : p.sink.rule = .accept) (hpending : p.result = none) (answer : Answer) :
    Fed p answer (p.feed answer) :=
  (p.answered_feed answer).fed hrule hpending

theorem run_of_over {result : PollResult} (hover : p.result = some result)
    (calls : List Responder) : p.run calls = (p, calls) := by
  cases calls with
  | nil => rfl
  | cons respond rest => simp only [run, hover, Option.isSome_some, if_true]

theorem run_cons_of_pending (hpending : p.result = none) (respond : Responder)
    (rest : List Responder) :
    p.run (respond :: rest) = (p.feed (respond p.tail.request)).run rest := by
  simp only [run, hpending, Option.isSome_none, Bool.false_eq_true, if_false]

/-- A poll that is not over after some calls goes on with the next ones. -/
theorem run_append_of_pending {calls : List Responder} (hpending : (p.run calls).1.result = none)
    (more : List Responder) : p.run (calls ++ more) = (p.run calls).1.run more := by
  induction calls generalizing p with
  | nil => rfl
  | cons respond rest ih =>
      cases hresult : p.result with
      | none =>
          rw [run_cons_of_pending hresult] at hpending
          rw [List.cons_append, run_cons_of_pending hresult, run_cons_of_pending hresult]
          exact ih hpending
      | some result =>
          rw [run_of_over hresult, hresult] at hpending
          cases hpending

/-- The call with which a poll returns. -/
theorem run_concat_of_pending {calls : List Responder} (hpending : (p.run calls).1.result = none)
    (respond : Responder) :
    (p.run (calls ++ [respond])).1 =
      (p.run calls).1.feed (respond (p.run calls).1.tail.request) := by
  rw [run_append_of_pending hpending, run_cons_of_pending hpending, run]

/-- What every answer to a poll under way keeps, the poll keeps. -/
theorem run_induction {P : Poll → Prop}
    (hfeed : ∀ q answer, q.result = none → P q → P (q.feed answer)) (hstart : P p)
    (calls : List Responder) : P (p.run calls).1 := by
  induction calls generalizing p with
  | nil => exact hstart
  | cons respond rest ih =>
      cases hresult : p.result with
      | none =>
          rw [run_cons_of_pending hresult]
          exact ih (hfeed p (respond p.tail.request) hresult hstart)
      | some result =>
          rw [run_of_over hresult]
          exact hstart

/-- Since a poll started with `tail` and `sink`, the offset has moved and the sink was filled by what
was written, which is what the poll reports when it ends well. -/
structure Balanced (tail : Tail) (sink : Sink) (p : Poll) : Prop where
  rule : p.sink.rule = .accept
  offset : p.tail.offset = tail.offset + p.written
  filled : p.sink.received.size = sink.received.size + p.written
  result : ∀ n, p.result = some (.ok n) → n = p.written

theorem resultAfter_eq_ok {written n : Nat} {answer : Answer}
    (hresult : resultAfter written answer = some (.ok n)) :
    n = written ∧
      ∃ reply, answer = .ok reply ∧ (reply.data = .empty ∨ reply.endOfFile = true) := by
  cases answer with
  | error error => cases hresult
  | ok reply =>
      rw [resultAfter] at hresult
      split at hresult
      · rename_i hend
        cases hresult
        rw [Bool.or_eq_true, isEmpty_iff] at hend
        exact ⟨rfl, reply, rfl, hend⟩
      · cases hresult

theorem Balanced.feed {tail : Tail} {sink : Sink} (hbalanced : Balanced tail sink p)
    (hpending : p.result = none) (answer : Answer) : Balanced tail sink (p.feed answer) := by
  have hfed := fed_feed hbalanced.rule hpending answer
  refine ⟨hfed.rule, ?_, ?_, ?_⟩
  · rw [hfed.tail, hfed.written, ← Nat.add_assoc, ← hbalanced.offset]
    rfl
  · rw [hfed.received, ByteArray.size_append, hfed.written, hbalanced.filled, Nat.add_assoc]
  · intro n hn
    rw [hfed.result] at hn
    exact (resultAfter_eq_ok hn).1

theorem balanced_run {tail : Tail} {sink : Sink} (hrule : sink.rule = .accept)
    (calls : List Responder) : Balanced tail sink ((start tail sink).run calls).1 := by
  apply run_induction
  · intro q answer hpending hbalanced
    exact hbalanced.feed hpending answer
  · refine ⟨hrule, rfl, rfl, ?_⟩
    intro n hn
    cases hn

end Poll

end TaskTail
