/-
Requests for a range of a task's output, and the replies to them.  A reply either carries bytes or says that the end
of the output is reached; a reply to a request for no bytes does neither.
-/
import TaskTail.Task
namespace TaskTail

/-- Up to `size` bytes of the output of `task`, from byte `offset` on. -/
structure RangeRequest where
  task : TaskId
  offset : Nat
  size : Nat
  deriving DecidableEq, Repr, Inhabited

/-- The bytes of a range, or the end of the output. -/
structure RangeReply where
  data : ByteArray
  endOfFile : Bool
  deriving Inhabited

instance : DecidableEq RangeReply := fun a b =>
  decidable_of_iff (a.data.data = b.data.data ∧ a.endOfFile = b.endOfFile) (by
    cases a
    cases b
    simp [ByteArray.ext_iff])

namespace RangeReply

def atEnd : RangeReply := ⟨.empty, true⟩

def ofData (data : ByteArray) : RangeReply := ⟨data, false⟩

end RangeReply

end TaskTail
