/-
One turn of following.  The poll of a turn starts where the poll before it stopped, and following either
ends with it or waits and takes the next turn, unless the stop is taken in the wait.
-/
import Mathlib.Tactic.Common
import TaskTail.Proofs.Tail.Feed
import TaskTail.Tail.Clock

namespace TaskTail

namespace Follower

variable {f : Follower} {turn : Turn} {rest : List Turn}

def pollOf (f : Follower) (turn : Turn) : Poll :=
  ((Poll.start f.tail f.sink).run turn.responders).1

/-- The follower that waits after a poll. -/
def waiting (f : Follower) (p : Poll) (backoff : Backoff) : Follower :=
  { f.afterPoll p with backoff }

/-- Following takes its first turn by the same rule as following by the clock does. -/
theorem follow_cons (f : Follower) (turn : Turn) (rest : List Turn) :
    f.follow (turn :: rest) =
      match f.afterTurn (f.pollOf turn) with
      | .inl ending => (f.afterPoll (f.pollOf turn), ending)
      | .inr backoff =>
        if turn.stop then (f.waiting (f.pollOf turn) backoff, .stopped)
        else (f.waiting (f.pollOf turn) backoff).follow rest := by
  rw [follow, afterTurn, ← pollOf]
  cases (f.pollOf turn).result with
  | none => rfl
  | some result =>
      have hbackoff : (f.afterPoll (f.pollOf turn)).backoff = f.backoff := rfl
      simp only [hbackoff]
      cases f.backoff.settle result <;> rfl

theorem follow_cons_of_end {ending : FollowEnd}
    (hend : f.afterTurn (f.pollOf turn) = .inl ending) :
    f.follow (turn :: rest) = (f.afterPoll (f.pollOf turn), ending) := by
  rw [follow_cons, hend]

theorem follow_cons_of_wait {backoff : Backoff}
    (hwait : f.afterTurn (f.pollOf turn) = .inr backoff) :
    f.follow (turn :: rest) =
      if turn.stop then (f.waiting (f.pollOf turn) backoff, .stopped)
      else (f.waiting (f.pollOf turn) backoff).follow rest := by
  rw [follow_cons, hwait]

end Follower

end TaskTail
