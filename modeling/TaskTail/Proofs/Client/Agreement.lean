/-
Reading from afar and reading on the spot.  A client asks with numbers cut to what the wire carries, and
the monitor cuts the size once more; yet as no file goes on past the greatest offset of the wire, the
client gets just what a direct read of the uncut offset gives.
-/
import Mathlib.Tactic.Common
import TaskTail.Client.Read
import TaskTail.Proofs.Range.OnWire
import TaskTail.Proofs.Range.Reply

namespace TaskTail

theorem maxWireOffset_le_maxOffset : maxWireOffset ≤ maxOffset := by
  decide

namespace OpenFile

theorem regular_endsBy {content : ByteArray} {bound : Nat} (hle : content.size ≤ bound) :
    (regular content).EndsBy bound :=
  hle

/-- An offset past the end of a file may be cut to any that is not before the end. -/
theorem readRange_min_offset {file : OpenFile} {bound : Nat} (hfile : file.EndsBy bound)
    (hbound : bound ≤ maxOffset) (offset size : Nat) :
    file.readRange (min offset bound) size = file.readRange offset size := by
  by_cases hle : offset ≤ bound
  · rw [Nat.min_eq_left hle]
  · have hlt : bound ≤ offset := Nat.le_of_lt (Nat.lt_of_not_le hle)
    rw [Nat.min_eq_right hlt]
    rcases Nat.eq_zero_or_pos size with hzero | hpos
    · rw [hzero, readRange_zero, readRange_zero]
    · rw [readRange_of_endsBy hfile (Nat.le_refl bound) hbound hpos,
        readRange_of_endsBy hfile hlt hbound hpos]

end OpenFile

/-- No file that opens goes on past the greatest offset of the wire. -/
def Opening.EndsOnWire (opening : Opening) : Prop :=
  ∀ path file, opening path = .ok file → file.EndsBy maxWireOffset

theorem readRange_min_maxWireOffset (registry : Registry) {opening : Opening}
    (hfiles : opening.EndsOnWire) (task : TaskId) (offset size : Nat) :
    readRange registry opening ⟨task, min offset maxWireOffset, size⟩ =
      readRange registry opening ⟨task, offset, size⟩ := by
  cases hpath : registry.resolve? task with
  | none => rw [readRange_of_unknown hpath, readRange_of_unknown hpath]
  | some path =>
      cases hopening : opening path with
      | error source =>
          rw [readRange_of_unopened hpath hopening, readRange_of_unopened hpath hopening]
      | ok file =>
          rw [readRange_of_opened hpath hopening, readRange_of_opened hpath hopening,
            OpenFile.readRange_min_offset (hfiles path file hopening) maxWireOffset_le_maxOffset]

namespace Monitor

/-- What a monitor makes of a request that a client sent: it reads with numbers that the wire and the
cap have cut. -/
theorem server_toWire (m : Monitor) (opening : Opening) (request : RangeRequest) :
    m.server opening request.toWire = sent (readRange m.registry opening
      ⟨request.task, min request.offset maxWireOffset,
        min (min request.size maxWireSize) m.maxReadSize⟩) := by
  rw [server, readOutput, RangeRequest.toRange_toWire]
  rfl

/-- It might as well read with the uncut offset, as no file goes on past the cut one. -/
theorem server_toWire_of_endsOnWire (m : Monitor) {opening : Opening}
    (hfiles : opening.EndsOnWire) (request : RangeRequest) :
    m.server opening request.toWire = sent (readRange m.registry opening
      ⟨request.task, request.offset, min request.size (min maxWireSize m.maxReadSize)⟩) := by
  rw [server_toWire, readRange_min_maxWireOffset m.registry hfiles, Nat.min_assoc]

/-- Whatever a client gets comes from the file which the current path of the task opens. -/
theorem exists_file_of_clientRead {m : Monitor} {opening : Opening} {limit : Nat}
    {request : RangeRequest} {reply : RangeReply}
    (hreply : clientRead limit (m.server opening).delivered request = .ok reply) :
    ∃ path file, m.registry.resolve? request.task = some path ∧ opening path = .ok file ∧
      reply = file.readRange (min request.offset maxWireOffset)
        (min (min request.size maxWireSize) m.maxReadSize) := by
  have hserver := m.server_toWire opening request
  cases hread : readRange m.registry opening ⟨request.task, min request.offset maxWireOffset,
      min (min request.size maxWireSize) m.maxReadSize⟩ with
  | error error =>
      rw [hread, sent_error] at hserver
      simp only [clientRead, Server.delivered, hserver] at hreply
      cases hreply
  | ok found =>
      rw [hread, sent_ok] at hserver
      simp only [clientRead, Server.delivered, hserver, RangeReply.toRange_toWire] at hreply
      split at hreply
      · cases hreply
      · cases hreply
        exact exists_file_of_readRange hread

/-- The client gets the reply of a direct read with the uncut offset and the cut size, as long as it
accepts a reply of that length; it fails exactly as the direct read fails, with a missing task told
by its name; and it is never refused for a negative number. -/
theorem clientRead_agrees (m : Monitor) (opening : Opening) (hfiles : opening.EndsOnWire)
    (limit : Nat) (request : RangeRequest) :
    let direct := readRange m.registry opening
      ⟨request.task, request.offset, min request.size (min maxWireSize m.maxReadSize)⟩
    (∀ reply, direct = .ok reply → reply.toWire.encodedLength ≤ limit →
      clientRead limit (m.server opening) request = .ok reply) ∧
    (∀ task, direct = .error (.unknownTask task) →
      clientRead limit (m.server opening) request = .error (.unknownTask request.task)) ∧
    (∀ task path source, direct = .error (.openFailed task path source) →
      clientRead limit (m.server opening) request =
        .error (.remote
          ⟨if source.kind = .permissionDenied then .permissionDenied else .unavailable,
            (ReadError.openFailed task path source).message⟩)) ∧
    ∀ message, m.server opening request.toWire ≠ .error ⟨.invalidArgument, message⟩ := by
  intro direct
  have hserver : m.server opening request.toWire = sent direct :=
    m.server_toWire_of_endsOnWire hfiles request
  refine ⟨?_, ?_, ?_, ?_⟩
  · intro reply hdirect hlimit
    rw [hdirect, sent_ok] at hserver
    simp only [clientRead, hserver, if_neg (Nat.not_lt.mpr hlimit), RangeReply.toRange_toWire]
  · intro task hdirect
    rw [hdirect, sent_error] at hserver
    simp only [clientRead, hserver, ReadError.status, ReadError.code, ClientError.ofStatus,
      if_true]
  · intro task path source hdirect
    rw [hdirect, sent_error] at hserver
    simp only [clientRead, hserver, ReadError.status, ClientError.ofStatus,
      if_neg (code_openFailed_ne_notFound task path source)]
    rw [ReadError.code]
  · intro message
    rw [hserver]
    exact sent_ne_invalidArgument direct message

/-- An offset that the wire cannot carry, into a file of five bytes. -/
theorem clientRead_agrees_past_wire :
    let m : Monitor := ⟨Registry.empty.register ⟨⟨"t"⟩, ⟨"f"⟩⟩, 4⟩
    let opening : Opening := fun _ => .ok (.regular "hello".toUTF8)
    opening.EndsOnWire ∧
      clientRead 2 (m.server opening) ⟨⟨"t"⟩, 0x8000000000000005, 7⟩ = .ok .atEnd := by
  intro m opening
  have hfiles : opening.EndsOnWire := by
    intro path file hopening
    cases hopening
    exact OpenFile.regular_endsBy (by decide)
  refine ⟨hfiles, ?_⟩
  have hdirect : readRange m.registry opening ⟨⟨"t"⟩, 0x8000000000000005, 4⟩ = .ok .atEnd := by
    rw [readRange_of_opened rfl rfl, OpenFile.readRange_of_length_le rfl (by decide) (by decide)]
  exact (m.clientRead_agrees opening hfiles 2 ⟨⟨"t"⟩, 0x8000000000000005, 7⟩).1 _ hdirect
    (by decide)

end Monitor

end TaskTail
