/-
A monitor together with the files that it serves, as they change over time: files are written and moved, and tasks
are registered.
-/
import TaskTail.Files.Action
import TaskTail.Monitor.Service
import TaskTail.Tail.Poll
namespace TaskTail

/-- A monitor and the files as they are now. -/
structure World where
  files : FileTree
  monitor : Monitor

inductive Change
  | files (action : FileAction)
  | register (entry : TaskEntry)

namespace World

def apply (w : World) : Change → World
  | .files action => { w with files := w.files.apply action }
  | .register entry => { w with monitor := w.monitor.startWatching entry }

def applyAll (w : World) (changes : List Change) : World :=
  changes.foldl apply w

/-- A read that does not go through the service. -/
def read (w : World) (request : RangeRequest) : Except ReadError RangeReply :=
  readRange w.monitor.registry w.files.openFile request

/-- What answers remote requests now. -/
def server (w : World) : Server :=
  w.monitor.server w.files.openFile

/-- What answers a client now that accepts encoded replies of up to `limit` bytes. -/
def responder (w : World) (limit : Nat) : Responder :=
  clientRead limit w.server.delivered

/-- How many calls a poll makes at most now: every call but the last gives at least one byte. -/
def callBound (w : World) : Nat :=
  w.files.nodes.foldl (fun bound entry =>
    match entry.2 with
    | .file content => max bound content.size
    | _ => bound) 0 + 2

/-- A whole poll of a tail, while nothing changes. -/
def poll (w : World) (limit : Nat) (tail : Tail) (sink : Sink) : Poll :=
  (Poll.start tail sink).drain (w.responder limit) w.callBound

end World

end TaskTail
