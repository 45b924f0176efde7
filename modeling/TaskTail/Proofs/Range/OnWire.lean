/-
Numbers on the wire.  A request is refused for a negative number and for nothing else; what a client
sends never has one, because numbers that are too great are cut to the greatest that the wire carries.
-/
import Mathlib.Tactic.Common
import TaskTail.Range.Error
import TaskTail.Range.OnWire

namespace TaskTail

namespace WireRequest

variable {request : WireRequest}

/-- A request with a negative number is refused, whatever else it asks for. -/
theorem toRange_of_negative (hnegative : request.offset < 0 ∨ request.size < 0) :
    ∃ message, request.toRange = .error ⟨.invalidArgument, message⟩ := by
  by_cases hoffset : request.offset < 0
  · exact ⟨_, by rw [toRange, if_pos hoffset, Status.negative]⟩
  · have hsize : request.size < 0 := hnegative.resolve_left hoffset
    exact ⟨_, by rw [toRange, if_neg hoffset, if_pos hsize, Status.negative]⟩

theorem toRange_of_nonneg (hoffset : 0 ≤ request.offset) (hsize : 0 ≤ request.size) :
    request.toRange =
      .ok ⟨⟨request.task⟩, request.offset.toNatClampNeg, request.size.toNatClampNeg⟩ := by
  rw [toRange, if_neg (Int64.not_lt.mpr hoffset), if_neg (Int32.not_lt.mpr hsize)]

end WireRequest

namespace RangeRequest

theorem toNatClampNeg_size_toWire (r : RangeRequest) :
    r.toWire.size.toNatClampNeg = min r.size maxWireSize := by
  apply Int32.toNatClampNeg_ofNat_of_lt
  rw [maxWireSize]
  omega

theorem toNatClampNeg_offset_toWire (r : RangeRequest) :
    r.toWire.offset.toNatClampNeg = min r.offset maxWireOffset := by
  apply Int64.toNatClampNeg_ofNat_of_lt
  rw [maxWireOffset]
  omega

theorem toWire_size_nonneg (r : RangeRequest) : 0 ≤ r.toWire.size := by
  rw [Int32.le_iff_toInt_le, toWire, Int32.toInt_ofNat_of_lt]
  · exact Int.natCast_nonneg _
  · rw [maxWireSize]
    omega

theorem toInt_offset_toWire (r : RangeRequest) :
    r.toWire.offset.toInt = (min r.offset maxWireOffset : Nat) := by
  apply Int64.toInt_ofNat_of_lt
  rw [maxWireOffset]
  omega

theorem toWire_offset_nonneg (r : RangeRequest) : 0 ≤ r.toWire.offset := by
  rw [Int64.le_iff_toInt_le, toInt_offset_toWire]
  exact Int.natCast_nonneg _

/-- What arrives of a request that was sent: its numbers, cut to what the wire carries. -/
theorem toRange_toWire (r : RangeRequest) :
    r.toWire.toRange = .ok ⟨r.task, min r.offset maxWireOffset, min r.size maxWireSize⟩ := by
  rw [WireRequest.toRange_of_nonneg r.toWire_offset_nonneg r.toWire_size_nonneg,
    toNatClampNeg_offset_toWire, toNatClampNeg_size_toWire, toWire]

end RangeRequest

/-- What came of a read, as it is sent back. -/
def sent : Except ReadError RangeReply → Except Status WireReply
  | .error error => .error error.status
  | .ok reply => .ok reply.toWire

@[simp] theorem sent_error (error : ReadError) : sent (.error error) = .error error.status := rfl

@[simp] theorem sent_ok (reply : RangeReply) : sent (.ok reply) = .ok reply.toWire := rfl

/-- No failed read is sent back as a bad request. -/
theorem sent_ne_invalidArgument (result : Except ReadError RangeReply) (message : String) :
    sent result ≠ .error ⟨.invalidArgument, message⟩ := by
  intro hsent
  cases result with
  | ok reply => cases hsent
  | error error =>
      have hcode := congrArg Status.code (Except.error.inj hsent)
      cases error with
      | unknownTask task => cases hcode
      | openFailed task path source =>
          simp only [ReadError.status, ReadError.code] at hcode
          split at hcode <;> cases hcode

/-- Only an unknown task is sent back as one. -/
theorem code_openFailed_ne_notFound (task : TaskId) (path : Path) (source : IoError) :
    (ReadError.openFailed task path source).code ≠ .notFound := by
  rw [ReadError.code]
  split <;> simp

end TaskTail
