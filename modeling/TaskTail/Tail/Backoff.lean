/-
How long a follower waits between polls.  The wait starts at an initial span, grows by a factor after every poll that
brought nothing, is cut to a greatest span, and falls back to the initial one as soon as something arrives.  Only
growth is cut: the initial span itself may be longer than the greatest.
-/
import TaskTail.Number.Duration
namespace TaskTail

structure Backoff where
  initial : Duration
  max : Duration
  factor : Number.Binary64
  current : Duration
  deriving DecidableEq, Repr, Inhabited

namespace Backoff

def start (initial max : Duration) (factor : Number.Binary64) : Backoff :=
  ⟨initial, max, factor, initial⟩

/-- Waits of one second that grow by half of themselves up to half a minute. -/
def standard : Backoff :=
  start (.ofSeconds 1) (.ofSeconds 30) .threeHalves

/-- The waits after a poll, which brought something or not; growth fails when it leaves the range of time spans. -/
def next (b : Backoff) (progress : Bool) : Except Duration.RangeError Backoff :=
  if progress then .ok { b with current := b.initial }
  else (b.current.scale b.factor).map fun grown => { b with current := grown.min b.max }

/-- The first wait and the waits after the given polls, up to one that fails. -/
def waits (b : Backoff) : List Bool → List (Except Duration.RangeError Duration)
  | [] => [.ok b.current]
  | progress :: polls =>
    .ok b.current ::
      match b.next progress with
      | .ok b => b.waits polls
      | .error error => [.error error]

end Backoff

end TaskTail
