/-
A task once known stays known.  Nothing that happens to a monitor takes a task out of it, and a request
is answered with an unknown task exactly when there is no such task; a file that is missing, or that goes
away later, is another failure.  So after one answer that is not of that kind, there is none for the same
task, and no client is told so.
-/
import Mathlib.Tactic.Common
import TaskTail.Proofs.Client.Failure
import TaskTail.Proofs.Monitor.Isolation

namespace TaskTail

/-- The answer tells of an unknown task. -/
def IsNotFound (answer : Except Status WireReply) : Prop :=
  ∃ message, answer = .error ⟨.notFound, message⟩

/-- What a client learns about a task that there is: a reply, or that its file does not open. -/
inductive Answer.Found : Answer → Prop
  | reply (reply : RangeReply) : Found (.ok reply)
  | unopened {status : Status} :
      status.code = .unavailable ∨ status.code = .permissionDenied → Found (.error (.remote status))

/-- On the way a failure may lose its code, but it never takes on that of another one. -/
theorem Status.code_delivered (status : Status) :
    status.delivered.code = status.code ∨ status.delivered.code = .unknown ∨
      status.delivered.code = .internal := by
  rw [delivered]
  split
  · rw [ofHeader]
    split
    · exact Or.inl rfl
    · exact Or.inr (Or.inl rfl)
  · exact Or.inr (Or.inr rfl)

namespace Monitor

variable {m : Monitor} {task : TaskId} {request : WireRequest} {opening : Opening}

def Knows (m : Monitor) (task : TaskId) : Prop :=
  m.registry.resolve? task ≠ none

theorem Knows.accept (hknows : m.Knows task) (registration : Registration) :
    (m.accept registration).Knows task := by
  rw [Knows, registry_accept, Registry.resolve?_register]
  split
  · simp
  · exact hknows

theorem readOutput_of_not_knows (haccepted : request.Accepted)
    (hknows : ¬ m.Knows ⟨request.task⟩) :
    m.readOutput opening request = .error (ReadError.unknownTask ⟨request.task⟩).status := by
  rw [Knows, not_not] at hknows
  rw [readOutput_of_accepted m opening haccepted, readRange_of_unknown hknows]
  rfl

theorem readOutput_of_knows (m : Monitor) (opening : Opening) (haccepted : request.Accepted)
    (hknows : m.Knows ⟨request.task⟩) :
    (∃ path source, m.readOutput opening request =
        .error (ReadError.openFailed ⟨request.task⟩ path source).status) ∨
      ∃ reply, m.readOutput opening request = .ok reply := by
  rw [readOutput_of_accepted m opening haccepted]
  obtain ⟨path, hpath⟩ := Option.ne_none_iff_exists'.mp hknows
  rcases hopening : opening path with source | file
  · left
    refine ⟨path, source, ?_⟩
    rw [readRange_of_unopened hpath hopening]
    rfl
  · right
    refine ⟨(file.readRange request.offset.toNatClampNeg
      (request.sizeWithin m.maxReadSize)).toWire, ?_⟩
    rw [readRange_of_opened hpath hopening]
    rfl

theorem not_isNotFound_of_knows (hknows : m.Knows ⟨request.task⟩) :
    ¬ IsNotFound (m.readOutput opening request) := by
  rintro ⟨message, hanswer⟩
  rcases request.accepted_or_negative with haccepted | hnegative
  · rcases m.readOutput_of_knows opening haccepted hknows with
      ⟨path, source, hfailed⟩ | ⟨reply, hreply⟩
    · rw [hfailed] at hanswer
      have hcode := congrArg Status.code (Except.error.inj hanswer)
      exact code_openFailed_ne_notFound ⟨request.task⟩ path source hcode
    · rw [hreply] at hanswer
      cases hanswer
  · obtain ⟨other, hrefused⟩ := readOutput_of_negative m opening hnegative
    rw [hrefused] at hanswer
    cases hanswer

theorem knows_of_not_isNotFound (haccepted : request.Accepted)
    (hanswer : ¬ IsNotFound (m.readOutput opening request)) : m.Knows ⟨request.task⟩ := by
  by_contra hknows
  exact hanswer ⟨_, readOutput_of_not_knows haccepted hknows⟩

end Monitor

namespace Scene

variable {s later : Scene} {task : TaskId} {request : RangeRequest} {limit : Nat}

/-- Some run leads from one scene to the other. -/
def ReachesByEvents (s later : Scene) : Prop :=
  ∃ run, later = List.foldl after s run

/-- What a client gets at the scene that accepts replies of up to `limit` bytes. -/
def respond (s : Scene) (limit : Nat) : Responder :=
  clientRead limit (s.monitor.server s.opening).delivered

theorem knows_after (hknows : s.monitor.Knows task) (event : Event) :
    (s.after event).monitor.Knows task := by
  rcases event with registration | now | request
  · exact hknows.accept registration
  · exact hknows
  · exact hknows

theorem knows_of_reachesByEvents (hknows : s.monitor.Knows task) (hreaches : s.ReachesByEvents later) :
    later.monitor.Knows task := by
  obtain ⟨run, rfl⟩ := hreaches
  induction run generalizing s with
  | nil => exact hknows
  | cons event rest ih => exact ih (knows_after hknows event)

/-- A task that is known is never answered as unknown, whatever happens. -/
theorem not_isNotFound_of_mem_answersTo (hknows : s.monitor.Knows task) (run : List Event) :
    ∀ answered ∈ s.answersTo task run, ¬ IsNotFound answered.2 := by
  induction run generalizing s with
  | nil => simp [answersTo]
  | cons event rest ih =>
      intro answered hanswered
      rw [answersTo, List.mem_append] at hanswered
      rcases hanswered with hnow | hlater
      · rcases event with registration | now | request
        · simp [answerTo?] at hnow
        · simp [answerTo?] at hnow
        · by_cases hown : ⟨request.task⟩ = task
          · obtain rfl : answered = (request, s.monitor.readOutput s.opening request) := by
              simpa [answerTo?, hown] using hnow
            rw [← hown] at hknows
            exact Monitor.not_isNotFound_of_knows hknows
          · simp [answerTo?, hown] at hnow
      · exact ih (knows_after hknows event) answered hlater

theorem pairwise_answersTo (s : Scene) (task : TaskId) (run : List Event) :
    (s.answersTo task run).Pairwise fun first later =>
      first.1.Accepted → ¬ IsNotFound first.2 → ¬ IsNotFound later.2 := by
  induction run generalizing s with
  | nil => exact List.Pairwise.nil
  | cons event rest ih =>
      rcases event with registration | now | request
      · exact ih _
      · exact ih _
      · by_cases hown : ⟨request.task⟩ = task
        · rw [answersTo_own_call s hown, List.pairwise_cons]
          refine ⟨?_, ih s⟩
          intro later hlater haccepted hfound
          have hknows := Monitor.knows_of_not_isNotFound haccepted hfound
          rw [hown] at hknows
          exact not_isNotFound_of_mem_answersTo hknows rest later hlater
        · rw [answersTo_other_call s hown]
          exact ih s

/-- Only a task that there is can be found. -/
theorem knows_of_found (hfound : (s.respond limit request).Found) :
    s.monitor.Knows request.task := by
  by_contra hknows
  have hserver : s.monitor.server s.opening request.toWire =
      .error (ReadError.unknownTask request.task).status :=
    Monitor.readOutput_of_not_knows request.toWire_accepted hknows
  rw [respond, ← Server.through_delivered, clientRead_through_of_error hserver,
    ClientError.ofStatus] at hfound
  rcases (ReadError.unknownTask request.task).status.code_delivered with hcode | hcode | hcode
  · have hmissing : (ReadError.unknownTask request.task).status.delivered.code = .notFound := hcode
    rw [if_pos hmissing] at hfound
    cases hfound
  · rw [if_neg (by simp [hcode])] at hfound
    cases hfound with
    | unopened hunopened => simp [hcode] at hunopened
  · rw [if_neg (by simp [hcode])] at hfound
    cases hfound with
    | unopened hunopened => simp [hcode] at hunopened

/-- A client is never told that a task is unknown which there is. -/
theorem respond_ne_unknownTask (hknows : s.monitor.Knows request.task) (task : TaskId) :
    s.respond limit request ≠ .error (.unknownTask task) := by
  intro hunknown
  rcases hserver : s.monitor.server s.opening request.toWire with status | reply
  · rw [respond, ← Server.through_delivered, clientRead_through_of_error hserver,
      ClientError.ofStatus] at hunknown
    have hcode : status.delivered.code = .notFound := by
      by_contra hcode
      simp [hcode] at hunknown
    have hstatus : status.code = .notFound := by
      rcases status.code_delivered with hsame | hlost | hlost
      · exact hsame.symm.trans hcode
      · rw [hlost] at hcode
        cases hcode
      · rw [hlost] at hcode
        cases hcode
    have hanswer : ¬ IsNotFound (s.monitor.readOutput s.opening request.toWire) :=
      Monitor.not_isNotFound_of_knows hknows
    apply hanswer
    exact ⟨status.message, by rw [← hstatus]; exact hserver⟩
  · rw [respond, ← Server.through_delivered] at hunknown
    obtain ⟨length, hlength⟩ := clientRead_through_of_ok hserver hunknown
    cases hlength

end Scene

end TaskTail
