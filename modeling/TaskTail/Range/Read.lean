/-
Reading a range of a task's output: find the path of the task, open the file afresh, and read at the requested
offset.  No more is asked of the file than its metadata say it holds beyond that offset, so that a huge size costs
nothing.  That the buffer can be made is taken for granted: a machine may have no room for one, and none can be longer
than memory is addressed, but only a direct reader of a file without metadata can ask for such a buffer.
-/
import TaskTail.Registry
import TaskTail.Range.Fill
import TaskTail.Range.Request
import TaskTail.Range.Error
namespace TaskTail

/-- What opening a path for reading gives at one moment. -/
abbrev Opening := Path → Except IoError OpenFile

namespace OpenFile

/-- The length of the buffer for a read of `size` bytes at `offset`, which is made whatever its length is. -/
def capacity (file : OpenFile) (offset size : Nat) : Nat :=
  min (file.length.elim maxOffset (· - offset)) size

/-- The reply of an open file to a request for `size` bytes at `offset`; making the buffer cannot fail here. -/
def readRange (file : OpenFile) (offset size : Nat) : RangeReply :=
  match file.readUpTo offset (file.capacity offset size) with
  | .ok data => if data.isEmpty && 0 < size then .atEnd else .ofData data
  | .error _ => .atEnd

end OpenFile

/-- The reply to a request, given the registered tasks and the files as they are now. -/
def readRange (registry : Registry) (opening : Opening) (request : RangeRequest) : Except ReadError RangeReply :=
  match registry.resolve? request.task with
  | none => .error (.unknownTask request.task)
  | some path =>
    match opening path with
    | .error source => .error (.openFailed request.task path source)
    | .ok file => .ok (file.readRange request.offset request.size)

end TaskTail
