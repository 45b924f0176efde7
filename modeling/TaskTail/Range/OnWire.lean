/-
Requests and replies on their way between client and monitor.  What the wire cannot carry of a request is cut to the
greatest number that it can; what arrives with a negative number is refused, the offset before the size.  Replies
travel as they are.
-/
import TaskTail.Range.Request
import TaskTail.Status
import TaskTail.Wire.Message
namespace TaskTail

/-- The greatest size that a request can carry. -/
def maxWireSize : Nat := 0x7fffffff

/-- The greatest offset that a request can carry. -/
def maxWireOffset : Nat := 0x7fffffffffffffff

def RangeRequest.toWire (r : RangeRequest) : WireRequest where
  task := r.task.text
  size := .ofNat (min r.size maxWireSize)
  offset := .ofNat (min r.offset maxWireOffset)

/-- The failed call that answers a negative number. -/
def Status.negative (what : String) (value : Int) : Status :=
  ⟨.invalidArgument, what ++ " must be non-negative, got " ++ toString value⟩

/-- The request that arrived, unless one of its numbers is negative. -/
def WireRequest.toRange (r : WireRequest) : Except Status RangeRequest :=
  if r.offset < 0 then .error (.negative "offset" r.offset.toInt)
  else if r.size < 0 then .error (.negative "size" r.size.toInt)
  else .ok ⟨⟨r.task⟩, r.offset.toNatClampNeg, r.size.toNatClampNeg⟩

def RangeReply.toWire (r : RangeReply) : WireReply :=
  ⟨r.data, r.endOfFile⟩

def WireReply.toRange (r : WireReply) : RangeReply :=
  ⟨r.data, r.endOfFile⟩

theorem RangeReply.toRange_toWire (r : RangeReply) : r.toWire.toRange = r := rfl

end TaskTail
