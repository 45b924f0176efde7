/-
What a failed read means.  The monitor tells why a read failed by a code, and the client has nothing but
that code to go by.  Two things must never be confused on the way: a task that was never registered, which
ends a follower, and a file that is not there yet, which a follower waits for.
-/
import Mathlib.Tactic.Common
import TaskTail.Proofs.Client.Agreement
import TaskTail.Proofs.Monitor.Answer

namespace TaskTail

/-- A server whose failures reach its clients as `deliver` leaves them. -/
def Server.through (deliver : Status → Status) (server : Server) : Server := fun request =>
  match server request with
  | .error status => .error (deliver status)
  | .ok reply => .ok reply

/-- Headers are one way to deliver a failure. -/
theorem Server.through_delivered (server : Server) :
    server.through Status.delivered = server.delivered :=
  rfl

/-- The codes of the failures that answer a request arrive unchanged. -/
def Server.KeepsCode (server : Server) (deliver : Status → Status) (request : RangeRequest) : Prop :=
  ∀ status, server request.toWire = .error status → (deliver status).code = status.code

section ClientRead

variable {server : Server} {deliver : Status → Status} {request : RangeRequest} {limit : Nat}

theorem clientRead_through_of_error {status : Status}
    (hserver : server request.toWire = .error status) :
    clientRead limit (server.through deliver) request =
      .error (.ofStatus request (deliver status)) := by
  simp only [clientRead, Server.through, hserver]

/-- A reply either arrives or is too long, which is no failure of the monitor. -/
theorem clientRead_through_of_ok {reply : WireReply} (hserver : server request.toWire = .ok reply)
    {error : ClientError}
    (hanswer : clientRead limit (server.through deliver) request = .error error) :
    ∃ length, error = .remote (.replyTooLong length limit) := by
  simp only [clientRead, Server.through, hserver] at hanswer
  split at hanswer
  · cases hanswer
    exact ⟨reply.encodedLength, rfl⟩
  · cases hanswer

theorem isRetryable_remote_iff (status : Status) :
    (ClientError.remote status).isRetryable = true ↔ status.code = .unavailable := by
  rw [ClientError.isRetryable, beq_iff_eq]

end ClientRead

/-- A client never sends a negative number. -/
theorem RangeRequest.toWire_accepted (r : RangeRequest) : r.toWire.Accepted :=
  ⟨r.toWire_offset_nonneg, r.toWire_size_nonneg⟩

namespace Monitor

variable {history : List TaskEntry} {cap limit : Nat} {opening : Opening}
variable {deliver : Status → Status} {request : RangeRequest}

theorem clientRead_of_unknown
    (hcode : ((afterHistory history cap).server opening).KeepsCode deliver request)
    (hunknown : lastPath? history request.task = none) :
    clientRead limit (((afterHistory history cap).server opening).through deliver) request =
      .error (.unknownTask request.task) := by
  have hserver : (afterHistory history cap).server opening request.toWire =
      .error (ReadError.unknownTask request.task).status :=
    readOutput_of_unknown request.toWire_accepted hunknown
  rw [clientRead_through_of_error hserver, ClientError.ofStatus, hcode _ hserver]
  rfl

/-- A file that does not open is never told as a missing task, whatever kept it from opening. -/
theorem clientRead_of_unopened
    (hcode : ((afterHistory history cap).server opening).KeepsCode deliver request)
    {path : Path} (hpath : lastPath? history request.task = some path) {source : IoError}
    (hopening : opening path = .error source) :
    ∃ status, clientRead limit (((afterHistory history cap).server opening).through deliver)
        request = .error (.remote status) ∧
      status.code = if source.kind = .permissionDenied then .permissionDenied else .unavailable := by
  have hserver : (afterHistory history cap).server opening request.toWire =
      .error (ReadError.openFailed request.task path source).status :=
    readOutput_of_unopened request.toWire_accepted hpath hopening
  have hkept := hcode _ hserver
  refine ⟨deliver (ReadError.openFailed request.task path source).status, ?_, hkept⟩
  rw [clientRead_through_of_error hserver, ClientError.ofStatus, hkept, ReadError.status,
    if_neg (code_openFailed_ne_notFound request.task path source)]

/-- A file that opens is no reason for any of the failures that a follower looks at. -/
theorem clientRead_of_opened {path : Path} (hpath : lastPath? history request.task = some path)
    {file : OpenFile} (hopening : opening path = .ok file) {error : ClientError}
    (hanswer : clientRead limit (((afterHistory history cap).server opening).through deliver)
      request = .error error) :
    ∃ status, error = .remote status ∧ status.code = .outOfRange := by
  have hserver : (afterHistory history cap).server opening request.toWire = .ok _ :=
    readOutput_of_opened request.toWire_accepted hpath hopening
  obtain ⟨length, rfl⟩ := clientRead_through_of_ok hserver hanswer
  exact ⟨_, rfl, rfl⟩

/-- All that can go wrong: the task is unknown, its file does not open, or the reply is too long. -/
theorem clientRead_error_cases
    (hcode : ((afterHistory history cap).server opening).KeepsCode deliver request)
    {error : ClientError}
    (hanswer : clientRead limit (((afterHistory history cap).server opening).through deliver)
      request = .error error) :
    (lastPath? history request.task = none ∧ error = .unknownTask request.task) ∨
      ∃ status, error = .remote status ∧
        ((∃ path source, lastPath? history request.task = some path ∧
            opening path = .error source ∧
            status.code = if source.kind = .permissionDenied then .permissionDenied else .unavailable) ∨
          status.code = .outOfRange) := by
  cases hpath : lastPath? history request.task with
  | none =>
      rw [clientRead_of_unknown hcode hpath] at hanswer
      exact Or.inl ⟨rfl, (Except.error.inj hanswer).symm⟩
  | some path =>
      right
      cases hopening : opening path with
      | error source =>
          obtain ⟨status, hstatus, hmeant⟩ := clientRead_of_unopened hcode hpath hopening
          rw [hstatus] at hanswer
          exact ⟨status, (Except.error.inj hanswer).symm,
            Or.inl ⟨path, source, rfl, hopening, hmeant⟩⟩
      | ok file =>
          obtain ⟨status, hstatus, hmeant⟩ := clientRead_of_opened hpath hopening hanswer
          exact ⟨status, hstatus, Or.inr hmeant⟩

theorem clientRead_eq_unknownTask_iff
    (hcode : ((afterHistory history cap).server opening).KeepsCode deliver request)
    (task : TaskId) :
    clientRead limit (((afterHistory history cap).server opening).through deliver) request =
        .error (.unknownTask task) ↔
      (∀ entry ∈ history, entry.task ≠ request.task) ∧ task = request.task := by
  rw [← lastPath?_eq_none_iff]
  constructor
  · intro hanswer
    rcases clientRead_error_cases hcode hanswer with ⟨hnone, htask⟩ | ⟨status, hstatus, _⟩
    · exact ⟨hnone, ClientError.unknownTask.inj htask⟩
    · cases hstatus
  · rintro ⟨hnone, rfl⟩
    exact clientRead_of_unknown hcode hnone

theorem clientRead_retryable_iff
    (hcode : ((afterHistory history cap).server opening).KeepsCode deliver request) :
    (∃ error, clientRead limit (((afterHistory history cap).server opening).through deliver)
        request = .error error ∧ error.isRetryable = true) ↔
      ∃ path source, lastPath? history request.task = some path ∧
        opening path = .error source ∧ source.kind ≠ .permissionDenied := by
  constructor
  · rintro ⟨error, hanswer, hretryable⟩
    rcases clientRead_error_cases hcode hanswer with
      ⟨_, rfl⟩ | ⟨status, rfl, ⟨path, source, hpath, hopening, hmeant⟩ | hmeant⟩
    · cases hretryable
    · refine ⟨path, source, hpath, hopening, fun hdenied => ?_⟩
      rw [isRetryable_remote_iff, hmeant, if_pos hdenied] at hretryable
      cases hretryable
    · rw [isRetryable_remote_iff, hmeant] at hretryable
      cases hretryable
  · rintro ⟨path, source, hpath, hopening, hkind⟩
    obtain ⟨status, hstatus, hmeant⟩ := clientRead_of_unopened hcode hpath hopening
    refine ⟨.remote status, hstatus, ?_⟩
    rw [isRetryable_remote_iff, hmeant, if_neg hkind]

/-- A client is told of an unknown task exactly when the task was never registered, and by the name
that it asked for; it may try again exactly when the file of a registered task does not open, be it
missing or out of reach for whatever reason but a lack of permission; and a lack of permission it is
told as such, which is final. -/
theorem clientRead_failure_iff (history : List TaskEntry) (cap limit : Nat) (opening : Opening)
    (deliver : Status → Status) (request : RangeRequest)
    (hcode : ((afterHistory history cap).server opening).KeepsCode deliver request) :
    let answer :=
      clientRead limit (((afterHistory history cap).server opening).through deliver) request
    (∀ task, answer = .error (.unknownTask task) ↔
      (∀ entry ∈ history, entry.task ≠ request.task) ∧ task = request.task) ∧
    ((∃ error, answer = .error error ∧ error.isRetryable = true) ↔
      ∃ path source, lastPath? history request.task = some path ∧
        opening path = .error source ∧ source.kind ≠ .permissionDenied) ∧
    ∀ path source, lastPath? history request.task = some path → opening path = .error source →
      source.kind = .permissionDenied →
        ∃ status, answer = .error (.remote status) ∧ status.code = .permissionDenied ∧
          (ClientError.remote status).isRetryable = false := by
  intro answer
  refine ⟨clientRead_eq_unknownTask_iff hcode, clientRead_retryable_iff hcode, ?_⟩
  intro path source hpath hopening hdenied
  obtain ⟨status, hstatus, hmeant⟩ := clientRead_of_unopened hcode hpath hopening
  rw [if_pos hdenied] at hmeant
  refine ⟨status, hstatus, hmeant, ?_⟩
  rw [← Bool.not_eq_true, isRetryable_remote_iff, hmeant]
  decide

/-- A missing file whose path is changed by the header that carries it: the client may try again, and
no task is unknown to it. -/
theorem clientRead_failure_iff_missing_file :
    let history : List TaskEntry := [⟨⟨"t"⟩, ⟨"out%41.log"⟩⟩, ⟨⟨"u"⟩, ⟨"f"⟩⟩]
    let opening : Opening := fun _ => .error .notFound
    let server := (afterHistory history 4).server opening
    let request : RangeRequest := ⟨⟨"t"⟩, 7, 5⟩
    server.KeepsCode Status.delivered request ∧
      (∃ error, clientRead 2 server.delivered request = .error error ∧
        error.isRetryable = true) ∧
      ∀ task, clientRead 2 server.delivered request ≠ .error (.unknownTask task) := by
  intro history opening server request
  have hcode : server.KeepsCode Status.delivered request := by
    intro status hstatus
    have hserver : server request.toWire =
        .error (ReadError.openFailed ⟨"t"⟩ ⟨"out%41.log"⟩ .notFound).status :=
      readOutput_of_unopened request.toWire_accepted rfl rfl
    rw [hserver] at hstatus
    cases hstatus
    decide +kernel
  obtain ⟨hunknown, hretryable, _⟩ :=
    clientRead_failure_iff history 4 2 opening Status.delivered request hcode
  rw [Server.through_delivered] at hunknown hretryable
  refine ⟨hcode, hretryable.mpr ⟨⟨"out%41.log"⟩, .notFound, rfl, rfl, by decide⟩, ?_⟩
  intro task htask
  exact ((hunknown task).mp htask).1 ⟨⟨"t"⟩, ⟨"out%41.log"⟩⟩ List.mem_cons_self rfl

end Monitor

end TaskTail
