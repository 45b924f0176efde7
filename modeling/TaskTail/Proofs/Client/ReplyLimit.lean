/-
The limit of a client and the cap of a monitor.  What a reply takes on the wire besides its bytes depends
on how many bytes there are, but the numbers that a request can carry keep it far below the room that the
default limit leaves.  So a client whose limit leaves as much room is never refused a reply for its
length, and never asks in vain for the same bytes again.
-/
import Mathlib.Tactic.Common
import TaskTail.Proofs.Client.Failure
import TaskTail.Proofs.Wire.Message

namespace TaskTail

open Wire

/-- The room that the default limit of a client leaves beyond the default cap of a monitor. -/
theorem defaultMaxReplySize_sub : defaultMaxReplySize - defaultMaxReadSize = 1024 :=
  Nat.add_sub_cancel_left defaultMaxReadSize 1024

/-- Besides its bytes a reply has at most two tags, five bytes for their number and one for the flag. -/
theorem WireReply.length_encode_le {reply : WireReply} (hsize : reply.data.size < 128 ^ 5) :
    reply.encode.length ≤ reply.data.size + 8 := by
  have hnumber : Varint.length reply.data.size ≤ 5 := (Varint.length_le_iff _ 4).mpr hsize
  rw [length_encode, Varint.length_encode]
  split <;> split <;> omega

theorem WireRequest.sizeWithin_lt (request : WireRequest) (cap : Nat) :
    request.sizeWithin cap < 128 ^ 5 := by
  have hcarried := Int32.toNatClampNeg_lt request.size
  rw [sizeWithin]
  omega

theorem clientRead_through_of_length_le {server : Server} {request : RangeRequest} {limit : Nat}
    (deliver : Status → Status) {reply : WireReply} (hserver : server request.toWire = .ok reply)
    (hlength : reply.encode.length ≤ limit) :
    clientRead limit (server.through deliver) request = .ok reply.toRange := by
  rw [reply.length_encode_eq_encodedLength] at hlength
  simp only [clientRead, Server.through, hserver, if_neg (Nat.not_lt.mpr hlength)]

namespace Monitor

variable {m : Monitor} {opening : Opening} {request : WireRequest} {reply : WireReply}

theorem length_encode_readOutput_le (hanswer : m.readOutput opening request = .ok reply) :
    reply.encode.length ≤ m.maxReadSize + 8 := by
  have hsize := size_readOutput_le_sizeWithin m opening hanswer
  have hcap := size_readOutput_le m opening hanswer
  have hlength := WireReply.length_encode_le
    (Nat.lt_of_le_of_lt hsize (request.sizeWithin_lt m.maxReadSize))
  omega

/-- A reply that every client with the limit takes, however the failures of the monitor reach it. -/
structure Arrives (m : Monitor) (opening : Opening) (request : WireRequest) (reply : WireReply)
    (limit : Nat) : Prop where
  length_le : reply.encode.length ≤ limit
  taken : ∀ (deliver : Status → Status) (range : RangeRequest), range.toWire = request →
    clientRead limit ((m.server opening).through deliver) range = .ok reply.toRange

theorem arrives_of_room (hanswer : m.readOutput opening request = .ok reply) {limit : Nat}
    (hroom : m.maxReadSize + 8 ≤ limit) : m.Arrives opening request reply limit := by
  have hlength := Nat.le_trans (length_encode_readOutput_le hanswer) hroom
  constructor
  case length_le => exact hlength
  case taken =>
    intro deliver range hrange
    have hserver : m.server opening range.toWire = .ok reply := by rw [server, hrange, hanswer]
    exact clientRead_through_of_length_le deliver hserver hlength

/-- A reply is never too long for a client that leaves as much room beyond the cap of the monitor as the
default limit leaves beyond the default cap.  So the default limit does for every cap up to the
default one. -/
theorem readOutput_arrives (m : Monitor) (opening : Opening) (request : WireRequest)
    (reply : WireReply) (hanswer : m.readOutput opening request = .ok reply) :
    (∀ limit, m.maxReadSize + (defaultMaxReplySize - defaultMaxReadSize) ≤ limit →
      m.Arrives opening request reply limit) ∧
    (m.maxReadSize ≤ defaultMaxReadSize → m.Arrives opening request reply defaultMaxReplySize) ∧
    reply.encode.length =
      (if reply.data.size = 0 then 0
        else 1 + (Varint.encode reply.data.size).length + reply.data.size) +
      (if reply.endOfFile then 2 else 0) := by
  refine ⟨?_, ?_, reply.length_encode⟩
  · intro limit hlimit
    rw [defaultMaxReplySize_sub] at hlimit
    apply arrives_of_room hanswer
    omega
  · intro hcap
    have hroom := defaultMaxReplySize_sub
    apply arrives_of_room hanswer
    omega

/-- A client with the smallest limit asks for more bytes than the cap allows, and gets a reply whose
number of bytes takes two bytes. -/
theorem readOutput_arrives_at_cap :
    let m := afterHistory [⟨⟨"t"⟩, ⟨"f"⟩⟩] 150
    let opening : Opening := fun _ => .ok (.regular ⟨Array.replicate 200 0x61⟩)
    let reply : WireReply := ⟨⟨Array.replicate 150 0x61⟩, false⟩
    m.readOutput opening ⟨"t", Int32.maxValue, 10⟩ = .ok reply ∧ reply.encode.length = 153 ∧
      clientRead 1174 (m.server opening).delivered ⟨⟨"t"⟩, 10, maxWireSize + 1⟩ =
        .ok reply.toRange := by
  intro m opening reply
  have haccepted : WireRequest.Accepted ⟨"t", Int32.maxValue, 10⟩ := by
    unfold WireRequest.Accepted
    decide
  have hoffset : Int64.toNatClampNeg 10 = 10 := by decide
  have hsize : WireRequest.sizeWithin ⟨"t", Int32.maxValue, 10⟩ 150 = 150 := by decide +kernel
  have hcontent : (ByteArray.mk (Array.replicate 200 0x61)).size = 200 := Array.size_replicate
  have hextract : (ByteArray.mk (Array.replicate 200 0x61)).extract 10 (min (10 + 150) 200) =
      ⟨Array.replicate 150 0x61⟩ := by
    apply ByteArray.ext
    simp
  have hanswer : m.readOutput opening ⟨"t", Int32.maxValue, 10⟩ = .ok reply := by
    rw [readOutput_of_opened haccepted rfl rfl, hsize, hoffset,
      OpenFile.readRange_of_content (OpenFile.regular_within _) (OpenFile.regular_readable _)
        (Or.inr (by decide)) (by decide), hcontent, if_neg (by decide), hextract]
    rfl
  obtain ⟨hlimit, -, hlength⟩ := readOutput_arrives m opening _ reply hanswer
  refine ⟨hanswer, ?_, ?_⟩
  · rw [hlength, Varint.length_encode]
    decide +kernel
  · exact (hlimit 1174 (by decide)).taken Status.delivered ⟨⟨"t"⟩, 10, maxWireSize + 1⟩ (by decide)

end Monitor

end TaskTail
