/-
Following by the clock.  Time is counted in whole milliseconds from zero; polls take no time, and the files and the
monitor change at given moments.  After a poll at `now` with a wait of `delay`, the next poll is at the first
millisecond that is not before `now` plus `delay`, unless the stop comes first.
-/
import TaskTail.Tail.Follow
import TaskTail.World
namespace TaskTail

structure TimedChange where
  moment : Nat
  change : Change

/-- What following by the clock came to. -/
structure FollowReport where
  ending : FollowEnd
  endedAt : Nat
  offset : Nat
  /-- The bytes written at each moment at which something was written. -/
  writes : List (Nat × ByteArray)

/-- The first millisecond after `now` that is not before `now` plus `delay`. -/
def nextPollAt (now : Nat) (delay : Duration) : Nat :=
  now + max 1 ((delay.nanos + 999999) / 1000000)

theorem lt_nextPollAt (now : Nat) (delay : Duration) : now < nextPollAt now delay := by
  unfold nextPollAt
  omega

/-- The bytes that a sink has received since it had received `count`. -/
def Sink.receivedSince (s : Sink) (count : Nat) : ByteArray :=
  s.received.extract count s.received.size

/-- The bytes written at a moment, if there are any. -/
def writtenAt (now : Nat) (data : ByteArray) : List (Nat × ByteArray) :=
  if data.isEmpty then [] else [(now, data)]

/-- How following ends right after a poll, or else the waits that go on. -/
def Follower.afterTurn (f : Follower) (p : Poll) : FollowEnd ⊕ Backoff :=
  match p.result with
  | none => .inl .unfinished
  | some result =>
    match f.backoff.settle result with
    | .giveUp error => .inl (.failed error)
    | .overflow error => .inl (.overflow error)
    | .wait backoff => .inr backoff

/-- The report with what was written before it. -/
def FollowReport.after (r : FollowReport) (writes : List (Nat × ByteArray)) : FollowReport :=
  { r with writes := writes ++ r.writes }

/-- Follows from `now` until the stop, through the changes still to come. -/
def followByClock (stopAt limit : Nat) (now : Nat) (w : World) (f : Follower) (changes : List TimedChange) :
    FollowReport :=
  let p := w.poll limit f.tail f.sink
  let writes := writtenAt now (p.sink.receivedSince f.sink.received.size)
  match f.afterTurn p with
  | .inl ending => ⟨ending, now, p.tail.offset, writes⟩
  | .inr backoff =>
    let next := nextPollAt now backoff.current
    if stopAt ≤ next then ⟨.stopped, max now stopAt, p.tail.offset, writes⟩
    else
      have := lt_nextPollAt now backoff.current
      let due := (changes.filter (·.moment ≤ next)).map TimedChange.change
      (followByClock stopAt limit next (w.applyAll due) { f.afterPoll p with backoff }
        (changes.filter (next < ·.moment))).after writes
termination_by stopAt - now

end TaskTail
