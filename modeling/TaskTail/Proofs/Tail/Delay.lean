/-
How long a follower waits after a poll.  A wait starts over when the poll ended well and wrote something,
and grows after every other poll.  A poll that fails in a way that another try may mend counts as one
that brought nothing, even if it wrote something before it failed.
-/
import Mathlib.Tactic.Common
import TaskTail.Proofs.Tail.Growth
import TaskTail.Proofs.Tail.Turn

namespace TaskTail

/-- A wait of a follower: the follower before its poll, the poll, and the waits after it. -/
structure Nap where
  follower : Follower
  poll : Poll
  backoff : Backoff

/-- How many bytes the poll before the wait gave to the sink. -/
def Nap.brought (nap : Nap) : Nat :=
  nap.poll.sink.received.size - nap.follower.sink.received.size

theorem Backoff.next_of_verdict {b next : Backoff} {progress : Bool}
    (hverdict : b.verdict progress = .wait next) : b.next progress = .ok next := by
  rw [verdict] at hverdict
  split at hverdict
  · rename_i after hafter
    cases hverdict
    exact hafter
  · cases hverdict

/-- Only a poll that ended well, or that another try may mend, is followed by a wait. -/
theorem Backoff.next_of_settle {b next : Backoff} {result : PollResult}
    (hsettle : b.settle result = .wait next) :
    (∃ n, result = .ok n ∧ b.next (0 < n) = .ok next) ∨
      ∃ error, result = .error error ∧ error.isRetryable = true ∧ b.next false = .ok next := by
  cases result with
  | ok n => exact Or.inl ⟨n, rfl, next_of_verdict hsettle⟩
  | error error =>
      rw [settle] at hsettle
      split at hsettle
      · rename_i hretryable
        exact Or.inr ⟨error, rfl, hretryable, next_of_verdict hsettle⟩
      · cases hsettle

namespace Follower

variable {f : Follower} {turns : List Turn} {nap : Nap}

theorem settle_of_afterTurn {p : Poll} {backoff : Backoff}
    (hwait : f.afterTurn p = .inr backoff) :
    ∃ result, p.result = some result ∧ f.backoff.settle result = .wait backoff := by
  rw [afterTurn] at hwait
  split at hwait
  · cases hwait
  · rename_i result hresult
    split at hwait
    · cases hwait
    · cases hwait
    · rename_i next hsettle
      cases hwait
      exact ⟨result, hresult, hsettle⟩

/-- The waits of a follower through the given turns. -/
def naps (f : Follower) : List Turn → List Nap
  | [] => []
  | turn :: rest =>
    match f.afterTurn (f.pollOf turn) with
    | .inl _ => []
    | .inr backoff =>
      ⟨f, f.pollOf turn, backoff⟩ ::
        if turn.stop then [] else (f.waiting (f.pollOf turn) backoff).naps rest

/-- Every wait comes after the poll of one turn, which starts where following the turns before it has
led, and it is decided by that poll. -/
theorem turn_of_mem_naps (hrule : f.sink.rule = .accept) (hnap : nap ∈ f.naps turns) :
    ∃ earlier turn rest, turns = earlier ++ turn :: rest ∧
      nap.follower = (f.follow earlier).1 ∧ nap.poll = nap.follower.pollOf turn ∧
      nap.follower.sink.rule = .accept ∧ nap.follower.afterTurn nap.poll = .inr nap.backoff := by
  induction turns generalizing f with
  | nil => cases hnap
  | cons turn rest ih =>
      rw [naps] at hnap
      split at hnap
      · cases hnap
      · rename_i backoff hwait
        rcases List.mem_cons.mp hnap with hfirst | hlater
        · subst hfirst
          exact ⟨[], turn, rest, rfl, rfl, rfl, hrule, hwait⟩
        · split at hlater
          · cases hlater
          · rename_i hstop
            have hpoll : Poll.Balanced f.tail f.sink (f.pollOf turn) :=
              Poll.balanced_run hrule turn.responders
            obtain ⟨earlier, later, others, hturns, hfollower, hnext⟩ := ih hpoll.rule hlater
            refine ⟨turn :: earlier, later, others, by rw [hturns, List.cons_append], ?_, hnext⟩
            rw [follow_cons_of_wait hwait, if_neg hstop, hfollower]

/-- What every wait of a run is, when the sink takes everything. -/
theorem next_of_mem_naps (hrule : f.sink.rule = .accept) (hnap : nap ∈ f.naps turns) :
    (nap.poll.result = some (.ok nap.brought) ∧
        nap.follower.backoff.next (0 < nap.brought) = .ok nap.backoff) ∨
      ∃ error, nap.poll.result = some (.error error) ∧ error.isRetryable = true ∧
        nap.follower.backoff.next false = .ok nap.backoff := by
  obtain ⟨_, turn, _, _, _, hpoll, hnaprule, hwait⟩ := turn_of_mem_naps hrule hnap
  have hbalanced : Poll.Balanced nap.follower.tail nap.follower.sink nap.poll := by
    rw [hpoll]
    exact Poll.balanced_run hnaprule turn.responders
  have hbrought : nap.brought = nap.poll.written := by
    rw [Nap.brought, hbalanced.filled, Nat.add_sub_cancel_left]
  obtain ⟨result, hresult, hsettle⟩ := settle_of_afterTurn hwait
  rcases Backoff.next_of_settle hsettle with ⟨n, rfl, hnext⟩ | ⟨error, rfl, hretryable, hnext⟩
  · have hn : n = nap.brought := (hbalanced.result n hresult).trans hbrought.symm
    rw [← hn]
    exact Or.inl ⟨hresult, hnext⟩
  · exact Or.inr ⟨error, hresult, hretryable, hnext⟩

/-- As long as polls that fail bring nothing, a wait starts over exactly when its poll brought
something. -/
theorem next_brought_of_mem_naps (hrule : f.sink.rule = .accept) (hnap : nap ∈ f.naps turns)
    (hclean : ∀ error, nap.poll.result = some (.error error) → nap.brought = 0) :
    nap.follower.backoff.next (0 < nap.brought) = .ok nap.backoff := by
  rcases next_of_mem_naps hrule hnap with ⟨_, hnext⟩ | ⟨error, hresult, _, hnext⟩
  · exact hnext
  · rw [hclean error hresult]
    exact hnext

/-- When the file goes away in the middle of a poll, the wait grows although two bytes were written. -/
theorem wait_grows_after_interrupted_copy :
    let registry := Registry.empty.register ⟨⟨"t"⟩, ⟨"f"⟩⟩
    let calls := [Moment.appending registry "abc".toUTF8 .empty, Moment.unopened registry .notFound]
    let f : Follower := ⟨(Tail.ofTask ⟨"t"⟩).withChunkSize 2, .fresh .accept, .standard⟩
    (f.naps [⟨calls.map (Moment.respond 4 10), false⟩]).map
        (fun nap => (nap.brought, nap.backoff.current)) =
      [(2, .ofMillis 1500)] := by
  decide +kernel

end Follower

end TaskTail
