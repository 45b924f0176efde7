/-
When what a tail has passed is flushed.  A poll flushes its sink only when it ends well, and then everything that the
sink has received, by earlier polls too.  A poll that fails leaves what it wrote unflushed, however far it has moved
the offset; so nothing stays behind exactly when the polls that fail bring nothing.
-/
import TaskTail.Proofs.Tail.ByHand
import TaskTail.Proofs.Tail.Growth

namespace TaskTail

/-- All that the sink has received is flushed. -/
def Sink.Settled (s : Sink) : Prop :=
  s.flushed = s.received.size

namespace Poll

/-- Since a poll started with `sink`, its sink was flushed if the poll has ended well, and not otherwise. -/
structure Flushes (sink : Sink) (p : Poll) : Prop where
  rule : p.sink.rule = .accept
  ended : ∀ n, p.result = some (.ok n) → p.sink.Settled
  other : (∀ n, p.result ≠ some (.ok n)) → p.sink.flushed = sink.flushed

variable {p : Poll} {sink : Sink}

theorem flushes_finish (hrule : p.sink.rule = .accept) : Flushes sink p.finish := by
  rw [finish_accept hrule]
  refine ⟨hrule, ?_, ?_⟩
  · intro _ _
    rfl
  · intro hother
    exact absurd rfl (hother p.written)

theorem Flushes.feed (hflushes : Flushes sink p) (hpending : p.result = none) (answer : Answer) :
    Flushes sink (p.feed answer) := by
  have hrule := hflushes.rule
  have hbefore : p.sink.flushed = sink.flushed := by
    apply hflushes.other
    intro n hn
    rw [hpending] at hn
    cases hn
  have hanswered := p.answered_feed answer
  generalize p.feed answer = q at hanswered ⊢
  rcases hanswered with error | reply | ⟨reply, s, source, _, hwrite⟩ | ⟨reply, s, _, hwrite⟩ |
    ⟨reply, s, _, hwrite⟩
  · exact ⟨hrule, by simp, fun _ => hbefore⟩
  · exact flushes_finish hrule
  · rw [write_accept hrule] at hwrite
    simp at hwrite
  · rw [write_accept hrule] at hwrite
    cases hwrite
    exact flushes_finish hrule
  · rw [write_accept hrule] at hwrite
    cases hwrite
    exact ⟨hrule, by simp [advance, hpending], fun _ => hbefore⟩

theorem flushes_run (tail : Tail) (hrule : sink.rule = .accept) (calls : List Responder) :
    Flushes sink ((start tail sink).run calls).1 := by
  apply run_induction
  · intro q answer hpending hflushes
    exact hflushes.feed hpending answer
  · refine ⟨hrule, ?_, ?_⟩
    · intro n hn
      cases hn
    · intro _
      rfl

/-- A poll that ends well leaves nothing unflushed, not even what an earlier poll has left. -/
theorem settled_of_ok (tail : Tail) (hrule : sink.rule = .accept) {calls : List Responder} {n : Nat}
    (hresult : ((start tail sink).run calls).1.result = some (.ok n)) :
    ((start tail sink).run calls).1.sink.Settled :=
  (flushes_run tail hrule calls).ended n hresult

/-- A poll that does not end well leaves unflushed what it has written. -/
theorem received_eq_flushed_add (tail : Tail) (hrule : sink.rule = .accept) (hsettled : sink.Settled)
    {calls : List Responder} (hother : ∀ n, ((start tail sink).run calls).1.result ≠ some (.ok n)) :
    ((start tail sink).run calls).1.sink.received.size =
      ((start tail sink).run calls).1.sink.flushed + ((start tail sink).run calls).1.written := by
  have hbalanced : Balanced tail sink ((start tail sink).run calls).1 := balanced_run hrule calls
  rw [hbalanced.filled, (flushes_run tail hrule calls).other hother, hsettled]

/-- With a sink that is settled before it, a poll leaves a settled one exactly when it ends well or has moved
the offset by nothing. -/
theorem settled_run_iff (tail : Tail) (hrule : sink.rule = .accept) (hsettled : sink.Settled)
    (calls : List Responder) :
    ((start tail sink).run calls).1.sink.Settled ↔
      (∃ n, ((start tail sink).run calls).1.result = some (.ok n)) ∨
        ((start tail sink).run calls).1.tail.offset = tail.offset := by
  have hbalanced : Balanced tail sink ((start tail sink).run calls).1 := balanced_run hrule calls
  by_cases hok : ∃ n, ((start tail sink).run calls).1.result = some (.ok n)
  · obtain ⟨n, hresult⟩ := hok
    exact iff_of_true (settled_of_ok tail hrule hresult) (Or.inl ⟨n, hresult⟩)
  · have hleft := received_eq_flushed_add tail hrule hsettled fun n hn => hok ⟨n, hn⟩
    have hoffset := hbalanced.offset
    rw [Sink.Settled, or_iff_right hok]
    omega

end Poll

namespace Follower

variable {f : Follower} {turns : List Turn}

/-- As long as the polls that do not end well bring nothing, following leaves nothing unflushed, wherever it
waits or ends. -/
theorem settled_follow (hrule : f.sink.rule = .accept) (hsettled : f.sink.Settled)
    (hclean : ∀ p ∈ f.spot.polls (turns.map Turn.responders),
      (∃ n, p.result = some (.ok n)) ∨ p.written = 0) :
    (f.follow turns).1.sink.Settled := by
  induction turns generalizing f with
  | nil => exact hsettled
  | cons turn rest ih =>
      obtain ⟨hfirst, hrest⟩ := List.forall_mem_cons.mp hclean
      have hbalanced : Poll.Balanced f.tail f.sink (f.pollOf turn) :=
        Poll.balanced_run hrule turn.responders
      have hpoll : (f.pollOf turn).sink.Settled := by
        apply (Poll.settled_run_iff f.tail hrule hsettled turn.responders).mpr
        refine hfirst.imp_right fun hzero => ?_
        have hoffset := hbalanced.offset
        change (f.pollOf turn).written = 0 at hzero
        rwa [hzero, Nat.add_zero] at hoffset
      cases hturn : f.afterTurn (f.pollOf turn) with
      | inl ending =>
          rw [follow_cons_of_end hturn]
          exact hpoll
      | inr backoff =>
          rw [follow_cons_of_wait hturn]
          split
          · exact hpoll
          · exact ih (f := f.waiting (f.pollOf turn) backoff) hbalanced.rule hpoll hrest

/-- When the file goes away in the middle of a poll, the follower waits with two bytes behind its offset that
are not flushed. -/
theorem unflushed_after_interrupted_copy :
    let registry := Registry.empty.register ⟨⟨"t"⟩, ⟨"f"⟩⟩
    let calls := [Moment.appending registry "abc".toUTF8 .empty, Moment.unopened registry .notFound]
    let f : Follower := ⟨(Tail.ofTask ⟨"t"⟩).withChunkSize 2, .fresh .accept, .standard⟩
    let after := (f.follow [⟨calls.map (Moment.respond 4 10), true⟩]).1
    after.tail.offset = 2 ∧ after.sink.received.size = 2 ∧ after.sink.flushed = 0 := by
  decide +kernel

end Follower

end TaskTail
