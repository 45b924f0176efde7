/-
Polling: copying everything that a task's output holds now, from a moving offset, to a sink.  A poll asks for one
chunk after another.  It ends with the first failed call, the first chunk that the sink does not take whole, or the
first reply that is empty or at the end of the output; only in the last case is the sink flushed.  The offset moves
by the chunks that were taken whole, and never back.
-/
import TaskTail.Client.Read
import TaskTail.Tail.Sink
namespace TaskTail

/-- A moving position in the output of a task. -/
structure Tail where
  task : TaskId
  offset : Nat
  chunkSize : Nat
  deriving DecidableEq, Repr, Inhabited

namespace Tail

def ofTask (task : TaskId) : Tail :=
  ⟨task, 0, defaultChunkSize⟩

def withOffset (t : Tail) (offset : Nat) : Tail :=
  { t with offset }

/-- The tail with another size of chunks, of at least one byte. -/
def withChunkSize (t : Tail) (size : Nat) : Tail :=
  { t with chunkSize := max size 1 }

def request (t : Tail) : RangeRequest :=
  ⟨t.task, t.offset, t.chunkSize⟩

end Tail

/-- What answers a client's requests at one moment. -/
abbrev Responder := RangeRequest → Answer

/-- The result of a poll: how many bytes it wrote, or why it failed. -/
abbrev PollResult := Except ClientError Nat

structure Poll where
  tail : Tail
  sink : Sink
  written : Nat
  result : Option PollResult

namespace Poll

def start (tail : Tail) (sink : Sink) : Poll :=
  ⟨tail, sink, 0, none⟩

/-- Ends a poll that found no more output. -/
def finish (p : Poll) : Poll :=
  match p.sink.flush with
  | (sink, none) => { p with sink, result := some (.ok p.written) }
  | (sink, some error) => { p with sink, result := some (.error (.write error)) }

/-- The poll after a chunk was taken whole. -/
def advance (p : Poll) (sink : Sink) (count : Nat) : Poll :=
  { p with sink, tail := { p.tail with offset := p.tail.offset + count }, written := p.written + count }

def feed (p : Poll) : Answer → Poll
  | .error error => { p with result := some (.error error) }
  | .ok reply =>
    if reply.data.isEmpty then p.finish
    else
      match p.sink.write reply.data with
      | (sink, some error) => { p with sink, result := some (.error (.write error)) }
      | (sink, none) =>
        let p := p.advance sink reply.data.size
        if reply.endOfFile then p.finish else p

/-- The poll after the given responders have answered, one call each, and the responders that are left. -/
def run (p : Poll) : List Responder → Poll × List Responder
  | [] => (p, [])
  | respond :: rest => if p.result.isSome then (p, respond :: rest) else (p.feed (respond p.tail.request)).run rest

/-- The poll after up to `calls` calls that are all answered alike. -/
def drain (p : Poll) (respond : Responder) : (calls : Nat) → Poll
  | 0 => p
  | calls + 1 => if p.result.isSome then p else (p.feed (respond p.tail.request)).drain respond calls

end Poll

end TaskTail
