/-
Following: polling again and again until told to stop.  After each poll the follower either gives up, because the
poll failed in a way that another try cannot mend, or waits.  A poll counts as progress only when it ended well and
wrote something.
-/
import TaskTail.Tail.Backoff
import TaskTail.Tail.Poll
namespace TaskTail

inductive Verdict
  | wait (backoff : Backoff)
  | giveUp (error : ClientError)
  /-- The next wait would leave the range of time spans. -/
  | overflow (error : Duration.RangeError)

/-- Waits as after a poll that made progress or not. -/
def Backoff.verdict (b : Backoff) (progress : Bool) : Verdict :=
  match b.next progress with
  | .ok b => .wait b
  | .error error => .overflow error

/-- What a follower does after a poll with the given result. -/
def Backoff.settle (b : Backoff) : PollResult → Verdict
  | .ok written => b.verdict (0 < written)
  | .error error => if error.isRetryable then b.verdict false else .giveUp error

inductive FollowEnd
  | stopped
  | failed (error : ClientError)
  | overflow (error : Duration.RangeError)
  /-- The calls were used up in the middle of a poll. -/
  | unfinished

/-- One turn of following: who answers the calls of the poll, and whether the stop is taken in the wait after it. -/
structure Turn where
  responders : List Responder
  stop : Bool

/-- A follower between two polls. -/
structure Follower where
  tail : Tail
  sink : Sink
  backoff : Backoff

namespace Follower

def afterPoll (f : Follower) (p : Poll) : Follower :=
  { f with tail := p.tail, sink := p.sink }

def follow (f : Follower) : List Turn → Follower × FollowEnd
  | [] => (f, .unfinished)
  | turn :: rest =>
    let p := ((Poll.start f.tail f.sink).run turn.responders).1
    let f := f.afterPoll p
    match p.result with
    | none => (f, .unfinished)
    | some result =>
      match f.backoff.settle result with
      | .giveUp error => (f, .failed error)
      | .overflow error => (f, .overflow error)
      | .wait backoff =>
        let f := { f with backoff }
        if turn.stop then (f, .stopped) else f.follow rest

end Follower

end TaskTail
