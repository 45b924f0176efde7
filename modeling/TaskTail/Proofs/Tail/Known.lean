/-
A tail that has found its task never loses it.  Each call of a tail is made at a scene of the monitor, and
each scene leads to those of the calls after it.  Once one call has brought bytes, the end of the output, or
the news that the file does not open, no later call tells of an unknown task; and nothing else makes
a poll or a follower fail with one.
-/
import Mathlib.Tactic.Common
import TaskTail.Proofs.Monitor.Known
import TaskTail.Proofs.Tail.ByHand

namespace TaskTail

/-- If the first exchange has found the task, then the later one does not tell of an unknown task. -/
def Exchange.KeepsFoundTask (first later : Exchange) : Prop :=
  first.answer.Found → ∀ task, later.answer ≠ .error (.unknownTask task)

/-- What answers the calls that are made at the given scenes. -/
def respondAll (limit : Nat) (scenes : List Scene) : List Responder :=
  scenes.map fun s => s.respond limit

namespace Poll

variable {p : Poll} {limit : Nat} {scenes : List Scene} {task : TaskId} {x : Exchange}

theorem Answered.task_eq {answer : Answer} {q : Poll} (hanswered : p.Answered answer q) :
    q.tail.task = p.tail.task := by
  rcases hanswered with error | reply | _ | ⟨reply, s⟩ | _
  · rfl
  · rw [tail_finish]
  · rfl
  · rw [tail_finish]
    rfl
  · rfl

theorem task_feed (p : Poll) (answer : Answer) : (p.feed answer).tail.task = p.tail.task :=
  (p.answered_feed answer).task_eq

theorem task_run (p : Poll) (calls : List Responder) : (p.run calls).1.tail.task = p.tail.task := by
  apply run_induction (P := fun q => q.tail.task = p.tail.task)
  · intro q answer _ hq
    rw [task_feed, hq]
  · rfl

/-- Each exchange is made at one of the scenes, and for the task of the poll. -/
theorem exists_scene_of_mem_exchanges (hx : x ∈ p.exchanges (respondAll limit scenes)) :
    ∃ s ∈ scenes, x.answer = s.respond limit x.request ∧ x.request.task = p.tail.task := by
  induction scenes generalizing p with
  | nil => simp [respondAll, exchanges] at hx
  | cons s rest ih =>
      rcases hresult : p.result with _ | result
      · rw [respondAll, List.map_cons, exchanges_cons_of_pending hresult, List.mem_cons] at hx
        rcases hx with rfl | hrest
        · exact ⟨s, List.mem_cons_self, rfl, rfl⟩
        · obtain ⟨later, hlater, hanswer, htask⟩ := ih hrest
          exact ⟨later, List.mem_cons_of_mem s hlater, hanswer, htask.trans (task_feed p _)⟩
      · rw [respondAll, exchanges_of_over hresult] at hx
        cases hx

/-- An exchange at a scene that knows the task does not tell of an unknown one. -/
theorem ne_unknownTask_of_mem_exchanges (hknows : ∀ s ∈ scenes, s.monitor.Knows p.tail.task)
    (hx : x ∈ p.exchanges (respondAll limit scenes)) (task : TaskId) :
    x.answer ≠ .error (.unknownTask task) := by
  obtain ⟨s, hs, hanswer, htask⟩ := exists_scene_of_mem_exchanges hx
  rw [hanswer]
  apply Scene.respond_ne_unknownTask
  rw [htask]
  exact hknows s hs

theorem pairwise_exchanges (hreaches : scenes.Pairwise Scene.ReachesByEvents) :
    (p.exchanges (respondAll limit scenes)).Pairwise Exchange.KeepsFoundTask := by
  induction scenes generalizing p with
  | nil => exact List.Pairwise.nil
  | cons s rest ih =>
      obtain ⟨hfirst, hrest⟩ := List.pairwise_cons.mp hreaches
      rcases hresult : p.result with _ | result
      · rw [respondAll, List.map_cons, exchanges_cons_of_pending hresult, List.pairwise_cons]
        refine ⟨?_, ih hrest⟩
        intro x hx hfound
        -- What has been found is known, at this scene and at all that it leads to.
        have hknows : s.monitor.Knows p.tail.task := Scene.knows_of_found hfound
        apply ne_unknownTask_of_mem_exchanges _ hx
        intro later hlater
        rw [task_feed]
        exact Scene.knows_of_reachesByEvents hknows (hfirst later hlater)
      · rw [respondAll, exchanges_of_over hresult]
        exact List.Pairwise.nil

theorem result_finish_ne (p : Poll) (task : TaskId) :
    p.finish.result ≠ some (.error (.unknownTask task)) := by
  rcases p.result_finish with hresult | ⟨source, hresult⟩
  · simp [hresult]
  · simp [hresult]

/-- Only an answer makes a poll fail with an unknown task. -/
theorem eq_unknownTask_of_result_feed {answer : Answer} (hpending : p.result = none)
    (hresult : (p.feed answer).result = some (.error (.unknownTask task))) :
    answer = .error (.unknownTask task) := by
  have hanswered := p.answered_feed answer
  generalize p.feed answer = q at hanswered hresult
  rcases hanswered with error | reply | _ | ⟨reply, s⟩ | _
  · simpa using hresult
  · exact (result_finish_ne _ task hresult).elim
  · simp at hresult
  · exact (result_finish_ne _ task hresult).elim
  · simp [advance, hpending] at hresult

/-- The answer that makes a poll fail with an unknown task is the last one. -/
theorem exchanges_of_unknownTask {calls : List Responder} (hpending : p.result = none)
    (hresult : (p.run calls).1.result = some (.error (.unknownTask task))) :
    ∃ front x, p.exchanges calls = front ++ [x] ∧ x.answer = .error (.unknownTask task) := by
  induction calls generalizing p with
  | nil =>
      rw [run, hpending] at hresult
      cases hresult
  | cons respond rest ih =>
      rw [run_cons_of_pending hpending] at hresult
      rw [exchanges_cons_of_pending hpending]
      rcases hfed : (p.feed (respond p.tail.request)).result with _ | result
      · obtain ⟨front, x, hfront, hx⟩ := ih hfed hresult
        exact ⟨_ :: front, x, by rw [hfront, List.cons_append], hx⟩
      · rw [run_of_over hfed] at hresult
        refine ⟨[], _, by rw [exchanges_of_over hfed, List.nil_append], ?_⟩
        exact eq_unknownTask_of_result_feed hpending hresult

end Poll

namespace Spot

variable {spot : Spot} {limit : Nat} {seen : List (List Scene)} {last : List Scene} {x : Exchange}

theorem task_after (s : Spot) (calls : List Responder) : (s.after calls).tail.task = s.tail.task :=
  Poll.task_run (Poll.start s.tail s.sink) calls

theorem ne_unknownTask_of_mem_exchanges
    (hknows : ∀ s ∈ seen.flatten, s.monitor.Knows spot.tail.task)
    (hx : x ∈ spot.exchanges (seen.map (respondAll limit))) (task : TaskId) :
    x.answer ≠ .error (.unknownTask task) := by
  induction seen generalizing spot with
  | nil => simp [exchanges] at hx
  | cons calls rest ih =>
      rw [List.flatten_cons, List.forall_mem_append] at hknows
      rw [List.map_cons, exchanges, List.mem_append] at hx
      rcases hx with hfirst | hrest
      · exact Poll.ne_unknownTask_of_mem_exchanges hknows.1 hfirst task
      · apply ih _ hrest
        rw [task_after]
        exact hknows.2

/-- Polls that are made by hand keep what they have found, from one to the next. -/
theorem pairwise_exchanges (spot : Spot) (limit : Nat)
    (hreaches : seen.flatten.Pairwise Scene.ReachesByEvents) :
    (spot.exchanges (seen.map (respondAll limit))).Pairwise Exchange.KeepsFoundTask := by
  induction seen generalizing spot with
  | nil => exact List.Pairwise.nil
  | cons calls rest ih =>
      obtain ⟨hcalls, hrest, hcross⟩ := List.pairwise_append.mp (List.flatten_cons ▸ hreaches)
      rw [List.map_cons, exchanges, List.pairwise_append]
      refine ⟨Poll.pairwise_exchanges hcalls, ih _ hrest, ?_⟩
      intro first hfirst later hlater hfound
      obtain ⟨s, hs, hanswer, htask⟩ := Poll.exists_scene_of_mem_exchanges hfirst
      rw [hanswer] at hfound
      have hknows : s.monitor.Knows spot.tail.task := htask ▸ Scene.knows_of_found hfound
      apply ne_unknownTask_of_mem_exchanges _ hlater
      intro next hnext
      rw [task_after]
      exact Scene.knows_of_reachesByEvents hknows (hcross s hs next hnext)

/-- A poll does not fail with an unknown task, if it or a poll before it has found the task. -/
theorem result_poll_ne_unknownTask (hreaches : (seen ++ [last]).flatten.Pairwise Scene.ReachesByEvents)
    (hfound : ∃ x ∈ spot.exchanges ((seen ++ [last]).map (respondAll limit)), x.answer.Found)
    (task : TaskId) :
    ((spot.afterAll (seen.map (respondAll limit))).poll (respondAll limit last)).result ≠
      some (.error (.unknownTask task)) := by
  intro hresult
  obtain ⟨front, x, hfront, hx⟩ := Poll.exchanges_of_unknownTask rfl hresult
  have hall : spot.exchanges ((seen ++ [last]).map (respondAll limit)) =
      (spot.exchanges (seen.map (respondAll limit)) ++ front) ++ [x] := by
    rw [List.map_append, exchanges_append, List.map_singleton, exchanges, exchanges, hfront,
      List.append_nil, List.append_assoc]
  have hkeeps := spot.pairwise_exchanges limit hreaches
  obtain ⟨found, hmem, hfound⟩ := hfound
  rw [hall] at hmem hkeeps
  rcases List.mem_append.mp hmem with hearlier | hlast
  · have hkept := (List.pairwise_append.mp hkeeps).2.2 found hearlier x (List.mem_singleton_self x)
    exact hkept hfound task hx
  · obtain rfl := List.mem_singleton.mp hlast
    rw [hx] at hfound
    cases hfound

end Spot

namespace Follower

variable {spot : Spot} {limit : Nat} {seen : List (List Scene)}

/-- A turn whose calls are made at the given scenes. -/
def turnAt (limit : Nat) (t : List Scene × Bool) : Turn :=
  ⟨respondAll limit t.1, t.2⟩

theorem map_responders_turnAt (limit : Nat) (turns : List (List Scene × Bool)) :
    (turns.map (turnAt limit)).map Turn.responders =
      (turns.map Prod.fst).map (respondAll limit) := by
  rw [List.map_map, List.map_map]
  rfl

/-- A follower does not fail with an unknown task, if it or a poll before it has found the task. -/
theorem follow_ne_unknownTask {turns : List (List Scene × Bool)} {b : Backoff}
    (hreaches : (seen.flatten ++ turns.flatMap Prod.fst).Pairwise Scene.ReachesByEvents)
    (hfound : ∃ x ∈ spot.exchanges (seen.map (respondAll limit)) ++
      ((spot.afterAll (seen.map (respondAll limit))).follower b).exchanges
        (turns.map (turnAt limit)), x.answer.Found)
    (task : TaskId) :
    (((spot.afterAll (seen.map (respondAll limit))).follower b).follow
      (turns.map (turnAt limit))).2 ≠ .failed (.unknownTask task) := by
  intro hend
  rcases passes_or_ends ((spot.afterAll (seen.map (respondAll limit))).follower b)
      (turns.map (turnAt limit)) with
    ⟨next, hpasses⟩ | ⟨earlier, turn, later, between, ending, next, hturns, hpasses, hends⟩
  · rw [(follow_of_passes hpasses).1] at hend
    cases hend
  · obtain ⟨hfollow, hexchanges⟩ := follow_append_of_ends hpasses hends later
    rw [hturns, hfollow] at hend
    subst hend
    rw [hturns, hexchanges] at hfound
    obtain ⟨first, rest, rfl, rfl, hrest⟩ := List.map_eq_append_iff.mp hturns
    obtain ⟨last, others, rfl, rfl, rfl⟩ := List.map_eq_cons_iff.mp hrest
    have hmade : (first.map (turnAt limit) ++ [turnAt limit last]).map Turn.responders =
        (first.map Prod.fst ++ [last.1]).map (respondAll limit) := by
      rw [List.map_append, map_responders_turnAt, List.map_append]
      rfl
    have hscenes : (seen ++ first.map Prod.fst ++ [last.1]).flatten.Pairwise Scene.ReachesByEvents := by
      rw [List.flatMap_append, List.flatMap_cons, ← List.append_assoc, ← List.append_assoc] at hreaches
      have hfront := (List.pairwise_append.mp hreaches).1
      simpa [List.flatMap_def] using hfront
    have hasked : ∃ x ∈ spot.exchanges
        ((seen ++ first.map Prod.fst ++ [last.1]).map (respondAll limit)), x.answer.Found := by
      rw [hmade] at hfound
      rw [List.append_assoc, List.map_append, Spot.exchanges_append]
      exact hfound
    apply Spot.result_poll_ne_unknownTask hscenes hasked task
    cases hends with
    | failed hresult hfinal =>
        rw [pollAfter, map_responders_turnAt] at hresult
        rw [List.map_append, Spot.afterAll_append]
        exact hresult

end Follower

/-- Once a request for a task, with numbers that are not negative, has been answered with anything but an
unknown task, no later request for it is answered so.  A client that has got a reply for the task, or was
told that its file does not open, has shown it to be known, so no client is told of an unknown task later;
and a tail for which one of its calls has shown it never fails with an unknown task, neither in a poll
nor while it is followed. -/
theorem known_stays_known :
    (∀ (s : Scene) (task : TaskId) (run : List Event),
      (s.answersTo task run).Pairwise fun first later =>
        first.1.Accepted → ¬ IsNotFound first.2 → ¬ IsNotFound later.2) ∧
    (∀ (s later : Scene) (limit limit' : Nat) (request request' : RangeRequest),
      s.ReachesByEvents later → request'.task = request.task → (s.respond limit request).Found →
        ∀ task, later.respond limit' request' ≠ .error (.unknownTask task)) ∧
    ∀ (limit : Nat) (spot : Spot) (seen : List (List Scene)),
      let now := spot.afterAll (seen.map (respondAll limit))
      (∀ last, (seen ++ [last]).flatten.Pairwise Scene.ReachesByEvents →
        (∃ x ∈ spot.exchanges ((seen ++ [last]).map (respondAll limit)), x.answer.Found) →
          ∀ task, (now.poll (respondAll limit last)).result ≠
            some (.error (.unknownTask task))) ∧
      ∀ (turns : List (List Scene × Bool)) (b : Backoff),
        (seen.flatten ++ turns.flatMap Prod.fst).Pairwise Scene.ReachesByEvents →
        (∃ x ∈ spot.exchanges (seen.map (respondAll limit)) ++
          (now.follower b).exchanges (turns.map (Follower.turnAt limit)), x.answer.Found) →
            ∀ task, ((now.follower b).follow (turns.map (Follower.turnAt limit))).2 ≠
              .failed (.unknownTask task) := by
  refine ⟨Scene.pairwise_answersTo, ?_, ?_⟩
  · intro s later limit limit' request request' hreaches htask hfound
    apply Scene.respond_ne_unknownTask
    rw [htask]
    exact Scene.knows_of_reachesByEvents (Scene.knows_of_found hfound) hreaches
  · intro limit spot seen
    constructor
    · intro last hreaches hfound task
      exact Spot.result_poll_ne_unknownTask hreaches hfound task
    · intro turns b hreaches hfound task
      exact Follower.follow_ne_unknownTask hreaches hfound task

/-- A task is registered before its file is there, which is what the first poll is told; the follower
after it finds the file, and then the task moves to another file that is not there. -/
theorem known_stays_known_without_file :
    let unknown : Scene := ⟨⟨.empty, 4⟩, fun _ => .error .notFound⟩
    let missing := unknown.after (.register (.startWatching ⟨"t"⟩ ⟨"f"⟩))
    let written := missing.after (.files fun path =>
      if path = ⟨"f"⟩ then .ok (.regular "abc".toUTF8) else .error .notFound)
    let moved := written.after (.register (.startWatching ⟨"t"⟩ ⟨"g"⟩))
    let spot : Spot := ⟨.ofTask ⟨"t"⟩, .fresh .accept⟩
    let turns : List (List Scene × Bool) := [([written, written], false), ([moved], true)]
    unknown.respond 99 spot.tail.request = .error (.unknownTask ⟨"t"⟩) ∧
      (missing.respond 99 spot.tail.request).Found ∧
      ∀ task, (((spot.afterAll ([[missing]].map (respondAll 99))).follower .standard).follow
        (turns.map (Follower.turnAt 99))).2 ≠ .failed (.unknownTask task) := by
  intro unknown missing written moved spot turns
  have hunknown : unknown.respond 99 spot.tail.request = .error (.unknownTask ⟨"t"⟩) := by
    decide +kernel
  have hmissing : missing.respond 99 spot.tail.request =
      .error (.remote (ReadError.openFailed ⟨"t"⟩ ⟨"f"⟩ .notFound).status) := by
    decide +kernel
  have hcode : (ReadError.openFailed ⟨"t"⟩ ⟨"f"⟩ .notFound).status.code = .unavailable := by
    decide
  have hfound : (missing.respond 99 spot.tail.request).Found := by
    rw [hmissing]
    exact .unopened (Or.inl hcode)
  have hwritten : missing.ReachesByEvents written := ⟨[.files _], rfl⟩
  have hmoved : written.ReachesByEvents moved := ⟨[.register _], rfl⟩
  have hboth : missing.ReachesByEvents moved := ⟨[.files _, .register _], rfl⟩
  have hagain : written.ReachesByEvents written := ⟨[], rfl⟩
  have hreaches : ([[missing]].flatten ++ turns.flatMap Prod.fst).Pairwise Scene.ReachesByEvents := by
    simp [turns, hwritten, hmoved, hboth, hagain]
  obtain ⟨-, -, htails⟩ := known_stays_known
  obtain ⟨-, hfollow⟩ := htails 99 spot [[missing]]
  let first : Exchange := ⟨spot.tail.request, missing.respond 99 spot.tail.request⟩
  have hfirst : first ∈ spot.exchanges ([[missing]].map (respondAll 99)) := by
    rw [List.map_singleton, Spot.exchanges, List.mem_append, respondAll, List.map_singleton,
      Poll.exchanges_cons_of_pending rfl]
    exact Or.inl List.mem_cons_self
  have hend := hfollow turns .standard hreaches ⟨first, List.mem_append_left _ hfirst, hfound⟩
  exact ⟨hunknown, hfound, hend⟩

end TaskTail
