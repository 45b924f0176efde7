/-
The complete answer of a monitor.  Every request gets exactly one of these: it is refused for a negative
number, its task is unknown, the current file of its task does not open, or it gets the bytes from the
offset on, or the end.  The size that counts is the requested one after the cap.
-/
import Mathlib.Tactic.Common
import TaskTail.Proofs.Range.OnWire
import TaskTail.Proofs.Range.Reply
import TaskTail.Proofs.Registry
import TaskTail.Session

namespace TaskTail

namespace WireRequest

/-- No number of the request is negative. -/
def Accepted (request : WireRequest) : Prop :=
  0 ≤ request.offset ∧ 0 ≤ request.size

/-- How many bytes a monitor with a cap gives at most. -/
def sizeWithin (request : WireRequest) (cap : Nat) : Nat :=
  min request.size.toNatClampNeg cap

/-- The positions that a request can ask for are far from the greatest offset. -/
theorem reach_le (request : WireRequest) (cap : Nat) :
    request.offset.toNatClampNeg + request.sizeWithin cap ≤ maxOffset := by
  have hoffset := Int64.toNatClampNeg_lt request.offset
  have hsize := Int32.toNatClampNeg_lt request.size
  simp only [sizeWithin, maxOffset, UInt64.size]
  omega

theorem accepted_or_negative (request : WireRequest) :
    request.Accepted ∨ request.offset < 0 ∨ request.size < 0 := by
  rw [Accepted, ← Int64.not_lt, ← Int32.not_lt]
  tauto

end WireRequest

/-- How a monitor with the given cap answers a request, when `history` are all registrations so far
and `opening` is what the files are like. -/
structure Answers (history : List TaskEntry) (cap : Nat) (opening : Opening)
    (request : WireRequest) (answer : Except Status WireReply) : Prop where
  /-- A negative number is refused before anything else is looked at. -/
  invalid : (∃ message, answer = .error ⟨.invalidArgument, message⟩) ↔
    request.offset < 0 ∨ request.size < 0
  unknown : request.Accepted →
    ((∃ message, answer = .error ⟨.notFound, message⟩) ↔
      ∀ entry ∈ history, entry.task ≠ ⟨request.task⟩)
  unopened : request.Accepted → ∀ path, lastPath? history ⟨request.task⟩ = some path →
    ∀ source, opening path = .error source →
      ∃ message, answer = .error
        ⟨if source.kind = .permissionDenied then .permissionDenied else .unavailable, message⟩
  /-- A request that the cap or the client cut to nothing gets neither bytes nor the end. -/
  nothing : request.Accepted → ∀ path, lastPath? history ⟨request.task⟩ = some path →
    ∀ file, opening path = .ok file → request.sizeWithin cap = 0 →
      answer = .ok ⟨.empty, false⟩
  content : request.Accepted → ∀ path, lastPath? history ⟨request.task⟩ = some path →
    ∀ file, opening path = .ok file → 0 < request.sizeWithin cap →
      ∀ content, file.Within content → file.Readable content →
        let offset := request.offset.toNatClampNeg
        answer = .ok (if content.size ≤ offset then ⟨.empty, true⟩
          else ⟨content.extract offset (min (offset + request.sizeWithin cap) content.size), false⟩)
  /-- A file that gives no bytes at all, as a directory does by `OpenFile.directory_silentFrom`. -/
  directory : request.Accepted → ∀ path, lastPath? history ⟨request.task⟩ = some path →
    ∀ file, opening path = .ok file → 0 < request.sizeWithin cap → file.SilentFrom 0 →
      answer = .ok ⟨.empty, true⟩
  bounded : ∀ reply, answer = .ok reply → reply.data.size ≤ cap

namespace Monitor

variable {history : List TaskEntry} {cap : Nat} {opening : Opening} {request : WireRequest}

/-- The monitor after some registrations. -/
def afterHistory (history : List TaskEntry) (cap : Nat) : Monitor :=
  ⟨Registry.empty.registerAll history, cap⟩

/-- A request without negative numbers gets what a read of the capped size gives. -/
theorem readOutput_of_accepted (m : Monitor) (opening : Opening)
    (haccepted : request.Accepted) :
    m.readOutput opening request = sent (readRange m.registry opening
      ⟨⟨request.task⟩, request.offset.toNatClampNeg, request.sizeWithin m.maxReadSize⟩) := by
  rw [readOutput, WireRequest.toRange_of_nonneg haccepted.1 haccepted.2]
  rfl

theorem readOutput_of_negative (m : Monitor) (opening : Opening)
    (hnegative : request.offset < 0 ∨ request.size < 0) :
    ∃ message, m.readOutput opening request = .error ⟨.invalidArgument, message⟩ := by
  obtain ⟨message, hmessage⟩ := WireRequest.toRange_of_negative hnegative
  exact ⟨message, by rw [readOutput, hmessage]⟩

theorem resolve?_afterHistory (history : List TaskEntry) (cap : Nat) (task : TaskId) :
    (afterHistory history cap).registry.resolve? task = lastPath? history task :=
  Registry.resolve?_registerAll_empty history task

theorem readOutput_of_unknown (haccepted : request.Accepted)
    (hunknown : lastPath? history ⟨request.task⟩ = none) :
    (afterHistory history cap).readOutput opening request =
      .error (ReadError.unknownTask ⟨request.task⟩).status := by
  rw [readOutput_of_accepted _ _ haccepted,
    readRange_of_unknown ((resolve?_afterHistory history cap _).trans hunknown)]
  rfl

theorem readOutput_of_unopened (haccepted : request.Accepted) {path : Path}
    (hpath : lastPath? history ⟨request.task⟩ = some path) {source : IoError}
    (hopening : opening path = .error source) :
    (afterHistory history cap).readOutput opening request =
      .error (ReadError.openFailed ⟨request.task⟩ path source).status := by
  rw [readOutput_of_accepted _ _ haccepted,
    readRange_of_unopened ((resolve?_afterHistory history cap _).trans hpath) hopening]
  rfl

theorem readOutput_of_opened (haccepted : request.Accepted) {path : Path}
    (hpath : lastPath? history ⟨request.task⟩ = some path) {file : OpenFile}
    (hopening : opening path = .ok file) :
    (afterHistory history cap).readOutput opening request =
      .ok (file.readRange request.offset.toNatClampNeg (request.sizeWithin cap)).toWire := by
  rw [readOutput_of_accepted _ _ haccepted,
    readRange_of_opened ((resolve?_afterHistory history cap _).trans hpath) hopening]
  rfl

theorem readOutput_notFound_iff (cap : Nat) (opening : Opening) (haccepted : request.Accepted) :
    (∃ message, (afterHistory history cap).readOutput opening request =
        .error ⟨.notFound, message⟩) ↔
      ∀ entry ∈ history, entry.task ≠ ⟨request.task⟩ := by
  rw [← lastPath?_eq_none_iff]
  constructor
  · rintro ⟨message, hanswer⟩
    cases hpath : lastPath? history ⟨request.task⟩ with
    | none => rfl
    | some path =>
        cases hopening : opening path with
        | error source =>
            rw [readOutput_of_unopened haccepted hpath hopening] at hanswer
            have hcode := congrArg Status.code (Except.error.inj hanswer)
            exact False.elim (code_openFailed_ne_notFound ⟨request.task⟩ path source hcode)
        | ok file =>
            rw [readOutput_of_opened haccepted hpath hopening] at hanswer
            cases hanswer
  · intro hnone
    exact ⟨_, readOutput_of_unknown haccepted hnone⟩

theorem readOutput_invalidArgument_iff (m : Monitor) (opening : Opening)
    (request : WireRequest) :
    (∃ message, m.readOutput opening request = .error ⟨.invalidArgument, message⟩) ↔
      request.offset < 0 ∨ request.size < 0 := by
  constructor
  · rintro ⟨message, hanswer⟩
    rcases request.accepted_or_negative with haccepted | hnegative
    · rw [readOutput_of_accepted m opening haccepted] at hanswer
      exact False.elim (sent_ne_invalidArgument _ message hanswer)
    · exact hnegative
  · exact readOutput_of_negative m opening

/-- No reply has more bytes than the request may get. -/
theorem size_readOutput_le_sizeWithin (m : Monitor) (opening : Opening) {reply : WireReply}
    (hanswer : m.readOutput opening request = .ok reply) :
    reply.data.size ≤ request.sizeWithin m.maxReadSize := by
  rcases request.accepted_or_negative with haccepted | hnegative
  · rw [readOutput_of_accepted m opening haccepted] at hanswer
    cases hread : readRange m.registry opening
        ⟨⟨request.task⟩, request.offset.toNatClampNeg, request.sizeWithin m.maxReadSize⟩ with
    | error error =>
        rw [hread] at hanswer
        cases hanswer
    | ok found =>
        rw [hread] at hanswer
        cases hanswer
        obtain ⟨path, file, _, _, rfl⟩ := exists_file_of_readRange hread
        exact file.size_readRange_le _ _
  · obtain ⟨message, hrefused⟩ := readOutput_of_negative m opening hnegative
    rw [hanswer] at hrefused
    cases hrefused

theorem size_readOutput_le (m : Monitor) (opening : Opening) {reply : WireReply}
    (hanswer : m.readOutput opening request = .ok reply) :
    reply.data.size ≤ m.maxReadSize :=
  Nat.le_trans (size_readOutput_le_sizeWithin m opening hanswer) (Nat.min_le_right _ _)

/-- No call changes the session in which it is made, whether it succeeds or fails. -/
theorem step_call (session : Session) (request : WireRequest) :
    session.step (.call request) = (session,
      .called (session.world.monitor.readOutput session.world.files.openFile request)) :=
  rfl

/-- The complete answer of a monitor to any request, whatever was registered and whatever the files
are like; and a call leaves the monitor of its session as it is. -/
theorem readOutput_answers (history : List TaskEntry) (cap : Nat) (opening : Opening)
    (request : WireRequest) :
    Answers history cap opening request
        ((afterHistory history cap).readOutput opening request) ∧
      ∀ session : Session, session.world.monitor = afterHistory history cap →
        (session.step (.call request)).1.world.monitor = afterHistory history cap := by
  constructor
  · constructor
    case invalid => exact readOutput_invalidArgument_iff _ opening request
    case unknown => exact readOutput_notFound_iff cap opening
    case unopened =>
      intro haccepted path hpath source hopening
      exact ⟨_, readOutput_of_unopened haccepted hpath hopening⟩
    case nothing =>
      intro haccepted path hpath file hopening hzero
      rw [readOutput_of_opened haccepted hpath hopening, hzero, OpenFile.readRange_zero]
      rfl
    case content =>
      intro haccepted path hpath file hopening hpos content hwithin hreadable offset
      rw [readOutput_of_opened haccepted hpath hopening,
        OpenFile.readRange_of_content hwithin hreadable (Or.inr (request.reach_le cap)) hpos]
      split <;> rfl
    case directory =>
      intro haccepted path hpath file hopening hpos hsilent
      rw [readOutput_of_opened haccepted hpath hopening,
        OpenFile.readRange_of_silentFrom hsilent (Nat.zero_le _) (Nat.zero_le _) hpos]
      rfl
    case bounded =>
      intro reply hanswer
      exact size_readOutput_le _ opening hanswer
  · intro session hmonitor
    rw [step_call]
    exact hmonitor

end Monitor

end TaskTail
