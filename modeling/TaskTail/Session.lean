/-
Sessions: a monitor, its files and its clients, used step by step.  All steps share one registry.  Clients reach the
monitor through a network; a session in which a client is needed but cannot connect comes to nothing.
-/
import TaskTail.Client.Connect
import TaskTail.World
namespace TaskTail

/-- A tail with the limit on replies of its client. -/
structure ClientTail where
  tail : Tail
  replyLimit : Nat

inductive Step
  | change (change : Change)
  | resolve (task : TaskId)
  | count
  /-- A read of the files that does not go through the service. -/
  | read (request : RangeRequest)
  /-- A request to the service itself. -/
  | call (request : WireRequest)
  /-- A read through a client. -/
  | clientRead (request : RangeRequest) (replyLimit : Nat)
  /-- Sets up a tail under a name, in the place of any earlier one. -/
  | tail (name : String) (tail : ClientTail)
  /-- Polls the tail of a name into a fresh sink. -/
  | poll (name : String) (rule : SinkRule)

/-- Whether a step is taken by a client. -/
def Step.needsClient : Step → Bool
  | .clientRead .. | .tail .. | .poll .. => true
  | .change _ | .resolve _ | .count | .read _ | .call _ => false

inductive StepResult
  | done
  | resolved (path : Option Path)
  | counted (size : Nat) (isEmpty : Bool)
  | read (reply : Except ReadError RangeReply)
  | called (reply : Except Status WireReply)
  | answered (answer : Answer)
  | tailAt (offset : Nat)
  | polled (result : PollResult) (out : ByteArray) (offset : Nat)
  /-- There is no tail of that name, or its poll did not end. -/
  | stuck

structure Session where
  world : World
  tails : List (String × ClientTail)

namespace Session

/-- The session after a step, and what the step shows. -/
def step (s : Session) : Step → Session × StepResult
  | .change change => ({ s with world := s.world.apply change }, .done)
  | .resolve task => (s, .resolved (s.world.monitor.registry.resolve? task))
  | .count => (s, .counted s.world.monitor.registry.size s.world.monitor.registry.isEmpty)
  | .read request => (s, .read (s.world.read request))
  | .call request => (s, .called (s.world.server request))
  | .clientRead request replyLimit => (s, .answered (s.world.responder replyLimit request))
  | .tail name tail => ({ s with tails := (name, tail) :: s.tails }, .tailAt tail.tail.offset)
  | .poll name rule =>
    match s.tails.lookup name with
    | none => (s, .stuck)
    | some tail =>
      let p := s.world.poll tail.replyLimit tail.tail (.fresh rule)
      let s := { s with tails := (name, { tail with tail := p.tail }) :: s.tails }
      match p.result with
      | none => (s, .stuck)
      | some result => (s, .polled result p.sink.received p.tail.offset)

def run (s : Session) : List Step → List StepResult
  | [] => []
  | step :: rest =>
    let taken := s.step step
    taken.2 :: taken.1.run rest

/-- Where the monitor of a session listens. -/
def endpoint : String :=
  let config : MonitorConfig := {}
  "http://" ++ config.bindAddress

/-- What a session shows, or why its client could not connect. -/
def play (network : Network Unit) (s : Session) (steps : List Step) : Except ClientError (List StepResult) :=
  if steps.any Step.needsClient then (connect network endpoint none none).map fun _ => s.run steps
  else .ok (s.run steps)

end Session

end TaskTail
