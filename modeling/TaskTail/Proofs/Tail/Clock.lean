/-
Following by the clock takes turns.  Each poll that it makes is a turn in which the world of that moment
answers all calls, and the stop is taken after it exactly when it comes before the next poll is due.  What
it reports is what following through these turns comes to.
-/
import Mathlib.Tactic.Common
import TaskTail.Proofs.Tail.Turn

namespace TaskTail

namespace Poll

/-- Calls that are all answered alike. -/
theorem drain_eq_run (p : Poll) (respond : Responder) (calls : Nat) :
    p.drain respond calls = (p.run (List.replicate calls respond)).1 := by
  induction calls generalizing p with
  | zero => rfl
  | succ calls ih =>
      rw [drain, List.replicate_succ, run]
      split
      · rfl
      · exact ih _

/-- Whatever a sink refuses, it never gives back what it has received. -/
theorem exists_received_of_write {s t : Sink} {chunk : ByteArray} {refused : Option IoError}
    (hwrite : s.write chunk = (t, refused)) : ∃ more, t.received = s.received ++ more := by
  rw [Sink.write] at hwrite
  split at hwrite
  · cases hwrite
    exact ⟨_, rfl⟩
  · cases hwrite
    exact ⟨_, rfl⟩

theorem Answered.exists_received {answer : Answer} {p q : Poll} (hanswered : p.Answered answer q) :
    ∃ more, q.sink.received = p.sink.received ++ more := by
  rcases hanswered with error | reply | ⟨reply, s, source, _, hwrite⟩ | ⟨reply, s, _, hwrite⟩ |
    ⟨reply, s, _, hwrite⟩
  · exact ⟨.empty, ByteArray.append_empty.symm⟩
  · exact ⟨.empty, (received_finish p).trans ByteArray.append_empty.symm⟩
  · exact exists_received_of_write hwrite
  · rw [received_finish]
    exact exists_received_of_write hwrite
  · exact exists_received_of_write hwrite

theorem exists_received_run (p : Poll) (calls : List Responder) :
    ∃ more, (p.run calls).1.sink.received = p.sink.received ++ more := by
  apply run_induction (P := fun q => ∃ more, q.sink.received = p.sink.received ++ more)
  · rintro q answer - ⟨before, hbefore⟩
    obtain ⟨more, hmore⟩ := (q.answered_feed answer).exists_received
    exact ⟨before ++ more, by rw [hmore, hbefore, ByteArray.append_assoc]⟩
  · exact ⟨.empty, ByteArray.append_empty.symm⟩

end Poll

/-- All bytes that are written at some moment, in their order. -/
def writtenBytes (writes : List (Nat × ByteArray)) : ByteArray :=
  writes.foldr (fun written rest => written.2 ++ rest) .empty

theorem writtenBytes_append (first second : List (Nat × ByteArray)) :
    writtenBytes (first ++ second) = writtenBytes first ++ writtenBytes second := by
  induction first with
  | nil => exact ByteArray.empty_append.symm
  | cons written rest ih =>
      rw [List.cons_append, writtenBytes, List.foldr_cons, ← writtenBytes, ih, ← ByteArray.append_assoc]
      rfl

theorem writtenBytes_writtenAt (now : Nat) (data : ByteArray) :
    writtenBytes (writtenAt now data) = data := by
  rw [writtenAt]
  split
  · rename_i hempty
    exact (isEmpty_iff.mp hempty).symm
  · exact ByteArray.append_empty

/-- The report tells what came of a follower that had the sink `s` at first. -/
structure FollowReport.ReportsOutcome (r : FollowReport) (s : Sink) (outcome : Follower × FollowEnd) :
    Prop where
  ending : outcome.2 = r.ending
  offset : outcome.1.tail.offset = r.offset
  received : outcome.1.sink.received = s.received ++ writtenBytes r.writes

theorem FollowReport.reportsOutcome_poll {f : Follower} {p : Poll} {b : Backoff} {ending : FollowEnd}
    {moment : Nat} {writes : List (Nat × ByteArray)}
    (hwrites : p.sink.received = f.sink.received ++ writtenBytes writes) :
    (FollowReport.mk ending moment p.tail.offset writes).ReportsOutcome f.sink (f.waiting p b, ending) :=
  ⟨rfl, rfl, hwrites⟩

theorem FollowReport.ReportsOutcome.after {r : FollowReport} {s later : Sink}
    {outcome : Follower × FollowEnd} {writes : List (Nat × ByteArray)}
    (hreports : r.ReportsOutcome later outcome) (hlater : later.received = s.received ++ writtenBytes writes) :
    (r.after writes).ReportsOutcome s outcome := by
  refine ⟨hreports.ending, hreports.offset, ?_⟩
  rw [hreports.received, hlater, FollowReport.after, writtenBytes_append, ByteArray.append_assoc]

namespace World

variable {stopAt limit now : Nat} {w : World} {f : Follower} {changes : List TimedChange}

/-- A poll at one moment, as a turn. -/
def turn (w : World) (limit : Nat) (stop : Bool) : Turn :=
  ⟨List.replicate w.callBound (w.responder limit), stop⟩

theorem pollOf_turn (w : World) (limit : Nat) (stop : Bool) (f : Follower) :
    f.pollOf (w.turn limit stop) = w.poll limit f.tail f.sink := by
  rw [World.poll, Poll.drain_eq_run]
  rfl

theorem received_poll (w : World) (limit now : Nat) (f : Follower) :
    (w.poll limit f.tail f.sink).sink.received = f.sink.received ++ writtenBytes (writtenAt now
      ((w.poll limit f.tail f.sink).sink.receivedSince f.sink.received.size)) := by
  rw [writtenBytes_writtenAt]
  obtain ⟨more, hmore⟩ := Poll.exists_received_run (Poll.start f.tail f.sink)
    (List.replicate w.callBound (w.responder limit))
  rw [World.poll, Poll.drain_eq_run, Sink.receivedSince, hmore]
  congr 1
  exact (ByteArray.extract_append_eq_right rfl ByteArray.size_append).symm

theorem followByClock_of_end {ending : FollowEnd}
    (hend : f.afterTurn (w.poll limit f.tail f.sink) = .inl ending) :
    followByClock stopAt limit now w f changes =
      ⟨ending, now, (w.poll limit f.tail f.sink).tail.offset,
        writtenAt now ((w.poll limit f.tail f.sink).sink.receivedSince f.sink.received.size)⟩ := by
  unfold followByClock
  simp only [hend]

theorem followByClock_of_stop {backoff : Backoff}
    (hwait : f.afterTurn (w.poll limit f.tail f.sink) = .inr backoff)
    (hstop : stopAt ≤ nextPollAt now backoff.current) :
    followByClock stopAt limit now w f changes =
      ⟨.stopped, max now stopAt, (w.poll limit f.tail f.sink).tail.offset,
        writtenAt now ((w.poll limit f.tail f.sink).sink.receivedSince f.sink.received.size)⟩ := by
  unfold followByClock
  simp only [hwait, if_pos hstop]

theorem followByClock_of_wait {backoff : Backoff}
    (hwait : f.afterTurn (w.poll limit f.tail f.sink) = .inr backoff)
    (hstop : ¬ stopAt ≤ nextPollAt now backoff.current) :
    followByClock stopAt limit now w f changes =
      (followByClock stopAt limit (nextPollAt now backoff.current)
        (w.applyAll ((changes.filter (·.moment ≤ nextPollAt now backoff.current)).map
          TimedChange.change))
        (f.waiting (w.poll limit f.tail f.sink) backoff)
        (changes.filter (nextPollAt now backoff.current < ·.moment))).after
        (writtenAt now
          ((w.poll limit f.tail f.sink).sink.receivedSince f.sink.received.size)) := by
  conv_lhs => unfold followByClock
  simp only [hwait, if_neg hstop]
  rfl

/-- What following by the clock reports is what comes of following through some turns. -/
theorem followByClock_reportsOutcome (stopAt limit now : Nat) (w : World) (f : Follower)
    (changes : List TimedChange) :
    ∃ turns, turns ≠ [] ∧
      (followByClock stopAt limit now w f changes).ReportsOutcome f.sink (f.follow turns) := by
  -- A poll that another one follows leaves less time until the stop.
  induction hleft : stopAt - now using Nat.strongRecOn generalizing now w f changes with
  | ind left ih =>
      rcases hturn : f.afterTurn (w.poll limit f.tail f.sink) with ending | backoff
      · refine ⟨[w.turn limit false], List.cons_ne_nil _ _, ?_⟩
        have hfirst : f.follow [w.turn limit false] =
            (f.waiting (w.poll limit f.tail f.sink) f.backoff, ending) := by
          rw [Follower.follow_cons, pollOf_turn, hturn]
          rfl
        rw [followByClock_of_end hturn, hfirst]
        exact FollowReport.reportsOutcome_poll (received_poll w limit now f)
      · by_cases hstop : stopAt ≤ nextPollAt now backoff.current
        · refine ⟨[w.turn limit true], List.cons_ne_nil _ _, ?_⟩
          have hfirst : f.follow [w.turn limit true] =
              (f.waiting (w.poll limit f.tail f.sink) backoff, .stopped) := by
            rw [Follower.follow_cons, pollOf_turn, hturn]
            rfl
          rw [followByClock_of_stop hturn hstop, hfirst]
          exact FollowReport.reportsOutcome_poll (received_poll w limit now f)
        · have hnext := lt_nextPollAt now backoff.current
          obtain ⟨turns, -, hreports⟩ := ih (stopAt - nextPollAt now backoff.current) (by omega)
            (nextPollAt now backoff.current)
            (w.applyAll ((changes.filter (·.moment ≤ nextPollAt now backoff.current)).map
              TimedChange.change))
            (f.waiting (w.poll limit f.tail f.sink) backoff)
            (changes.filter (nextPollAt now backoff.current < ·.moment)) rfl
          refine ⟨w.turn limit false :: turns, List.cons_ne_nil _ _, ?_⟩
          have hfirst : f.follow (w.turn limit false :: turns) =
              (f.waiting (w.poll limit f.tail f.sink) backoff).follow turns := by
            rw [Follower.follow_cons, pollOf_turn, hturn]
            rfl
          rw [followByClock_of_wait hturn hstop, hfirst]
          exact hreports.after (received_poll w limit now f)

end World

end TaskTail
