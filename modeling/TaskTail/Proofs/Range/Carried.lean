/-
Which requests the wire carries.  Sending and receiving are inverse to each other between the requests for
a range whose numbers fit on the wire and the requests on the wire without a negative number.  Every other
request for a range arrives as the one that its cut numbers make, and from then on it travels unchanged.
The numbers of a request for a range have no bound here, so nothing depends on the width in which they are kept.
-/
import Mathlib.Algebra.Group.Nat.Defs
import Mathlib.Tactic.Common
import TaskTail.Proofs.Range.OnWire

namespace TaskTail

theorem maxWireOffset_eq : maxWireOffset = 2 ^ 63 - 1 := by
  decide

theorem maxWireSize_eq : maxWireSize = 2 ^ 31 - 1 := by
  decide

namespace RangeRequest

/-- The wire carries both numbers of the request as they are. -/
structure Carried (r : RangeRequest) : Prop where
  offset_le : r.offset ≤ maxWireOffset
  size_le : r.size ≤ maxWireSize

/-- The request with its numbers cut to the greatest that the wire carries. -/
def cut (r : RangeRequest) : RangeRequest :=
  ⟨r.task, min r.offset maxWireOffset, min r.size maxWireSize⟩

variable {r near far : RangeRequest}

theorem carried_iff : r.Carried ↔ r.offset ≤ maxWireOffset ∧ r.size ≤ maxWireSize :=
  ⟨fun hr => ⟨hr.offset_le, hr.size_le⟩, fun ⟨hoffset, hsize⟩ => ⟨hoffset, hsize⟩⟩

theorem cut_of_carried (hr : r.Carried) : r.cut = r := by
  rw [cut, Nat.min_eq_left hr.offset_le, Nat.min_eq_left hr.size_le]

theorem offset_cut_le (hle : near.offset ≤ far.offset) : near.cut.offset ≤ far.cut.offset :=
  Nat.le_min.mpr ⟨Nat.le_trans (Nat.min_le_left _ _) hle, Nat.min_le_right _ _⟩

theorem size_cut_le (hle : near.size ≤ far.size) : near.cut.size ≤ far.cut.size :=
  Nat.le_min.mpr ⟨Nat.le_trans (Nat.min_le_left _ _) hle, Nat.min_le_right _ _⟩

/-- A request that is sent always arrives, as the one that its cut numbers make. -/
theorem toRange_toWire_eq_ok_iff {arrived : RangeRequest} :
    r.toWire.toRange = .ok arrived ↔ arrived = r.cut := by
  rw [r.toRange_toWire, Except.ok.injEq]
  exact eq_comm

theorem toWire_of_carried (hr : r.Carried) :
    r.toWire = ⟨r.task.text, .ofNat r.size, .ofNat r.offset⟩ := by
  rw [toWire, Nat.min_eq_left hr.size_le, Nat.min_eq_left hr.offset_le]

end RangeRequest

namespace WireRequest

variable {request : WireRequest} {r : RangeRequest}

theorem nonneg_of_toRange (hread : request.toRange = .ok r) : 0 ≤ request.offset ∧ 0 ≤ request.size := by
  by_contra hnot
  rw [not_and_or, Int64.not_le, Int32.not_le] at hnot
  obtain ⟨message, hrefused⟩ := toRange_of_negative hnot
  rw [hread] at hrefused
  cases hrefused

theorem exists_toRange_iff :
    (∃ r, request.toRange = .ok r) ↔ 0 ≤ request.offset ∧ 0 ≤ request.size := by
  constructor
  · rintro ⟨r, hread⟩
    exact nonneg_of_toRange hread
  · rintro ⟨hoffset, hsize⟩
    exact ⟨_, toRange_of_nonneg hoffset hsize⟩

theorem eq_of_toRange (hread : request.toRange = .ok r) :
    r = ⟨⟨request.task⟩, request.offset.toNatClampNeg, request.size.toNatClampNeg⟩ := by
  obtain ⟨hoffset, hsize⟩ := nonneg_of_toRange hread
  rw [toRange_of_nonneg hoffset hsize] at hread
  exact (Except.ok.inj hread).symm

theorem carried_of_toRange (hread : request.toRange = .ok r) : r.Carried := by
  rw [eq_of_toRange hread]
  exact ⟨Nat.le_of_lt_succ request.offset.toNatClampNeg_lt, Nat.le_of_lt_succ request.size.toNatClampNeg_lt⟩

theorem toWire_of_toRange (hread : request.toRange = .ok r) : r.toWire = request := by
  obtain ⟨hoffset, hsize⟩ := nonneg_of_toRange hread
  rw [RangeRequest.toWire_of_carried (carried_of_toRange hread), eq_of_toRange hread,
    Int32.ofNat_toNatClampNeg _ hsize, Int64.ofNat_toNatClampNeg _ hoffset]

/-- Receiving undoes sending on the requests that the wire carries, and it undoes nothing else. -/
theorem toRange_eq_ok_iff : request.toRange = .ok r ↔ r.Carried ∧ r.toWire = request := by
  constructor
  · intro hread
    exact ⟨carried_of_toRange hread, toWire_of_toRange hread⟩
  · rintro ⟨hr, rfl⟩
    exact RangeRequest.toRange_toWire_eq_ok_iff.mpr (RangeRequest.cut_of_carried hr).symm

end WireRequest

theorem RangeRequest.toRange_toWire_eq_self_iff {r : RangeRequest} : r.toWire.toRange = .ok r ↔ r.Carried := by
  rw [WireRequest.toRange_eq_ok_iff]
  exact and_iff_left rfl

/-- A request on the wire is accepted exactly when neither of its numbers is negative, and the request for a
range that it is taken for is sent as that very request.  A request for a range always arrives, for its task and
with each number cut to the greatest that the wire carries.  So what has arrived arrives unchanged when it is
sent on; a later offset does not arrive before an earlier one, nor a larger size as less than a smaller one; and
a request arrives unchanged exactly when the wire carries both of its numbers. -/
theorem requests_arrive_cut :
    (∀ request : WireRequest,
      (∃ r, request.toRange = .ok r) ↔ 0 ≤ request.offset ∧ 0 ≤ request.size) ∧
      (∀ (request : WireRequest) (r : RangeRequest), request.toRange = .ok r → r.toWire = request) ∧
      (∀ r : RangeRequest,
        r.toWire.toRange = .ok ⟨r.task, min r.offset (2 ^ 63 - 1), min r.size (2 ^ 31 - 1)⟩) ∧
      (∀ r arrived : RangeRequest, r.toWire.toRange = .ok arrived →
        arrived.toWire.toRange = .ok arrived) ∧
      (∀ near far near' far' : RangeRequest,
        near.toWire.toRange = .ok near' → far.toWire.toRange = .ok far' →
          (near.offset ≤ far.offset → near'.offset ≤ far'.offset) ∧
            (near.size ≤ far.size → near'.size ≤ far'.size)) ∧
      (∀ r : RangeRequest,
        r.toWire.toRange = .ok r ↔ r.offset ≤ 2 ^ 63 - 1 ∧ r.size ≤ 2 ^ 31 - 1) := by
  refine ⟨fun request => WireRequest.exists_toRange_iff,
    fun request r => WireRequest.toWire_of_toRange, ?_, ?_, ?_, ?_⟩
  · intro r
    rw [r.toRange_toWire, maxWireOffset_eq, maxWireSize_eq]
  · intro r arrived harrived
    exact RangeRequest.toRange_toWire_eq_self_iff.mpr (WireRequest.carried_of_toRange harrived)
  · intro near far near' far' hnear hfar
    rw [RangeRequest.toRange_toWire_eq_ok_iff] at hnear hfar
    rw [hnear, hfar]
    exact ⟨RangeRequest.offset_cut_le, RangeRequest.size_cut_le⟩
  · intro r
    rw [RangeRequest.toRange_toWire_eq_self_iff, RangeRequest.carried_iff, maxWireOffset_eq, maxWireSize_eq]

/-- A request at the limits of the wire, and two requests past them that arrive in their order. -/
theorem requests_arrive_cut_past_limits :
    let limit : WireRequest := ⟨"t", .maxValue, .maxValue⟩
    let cut : RangeRequest := ⟨⟨"t"⟩, 2 ^ 63 - 1, 2 ^ 31 - 1⟩
    let near : RangeRequest := ⟨⟨"t"⟩, 2 ^ 63 - 2, 2 ^ 31⟩
    let far : RangeRequest := ⟨⟨"t"⟩, 2 ^ 64 - 1, 2 ^ 64 - 1⟩
    (limit.toRange = .ok cut ∧ cut.toWire = limit) ∧
      (far.toWire.toRange = .ok cut ∧ cut.toWire.toRange = .ok cut) ∧
      ∃ near', near.toWire.toRange = .ok near' ∧
        near.offset ≤ far.offset ∧ near'.offset ≤ cut.offset ∧
        near.size ≤ far.size ∧ near'.size ≤ cut.size := by
  intro limit cut near far
  obtain ⟨-, hback, harrives, hagain, horder, -⟩ := requests_arrive_cut
  have hlimit : limit.toRange = .ok cut := rfl
  have hfar : far.toWire.toRange = .ok cut := harrives far
  have hnear := harrives near
  have hoffset : near.offset ≤ far.offset := by decide
  have hsize : near.size ≤ far.size := by decide
  obtain ⟨hoffsets, hsizes⟩ := horder near far _ cut hnear hfar
  exact ⟨⟨hlimit, hback limit cut hlimit⟩, ⟨hfar, hagain far cut hfar⟩,
    _, hnear, hoffset, hoffsets hoffset, hsize, hsizes hsize⟩

end TaskTail
