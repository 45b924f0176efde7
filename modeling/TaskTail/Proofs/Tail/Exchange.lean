/-
What a poll asks for and is told.  A poll is decided by the answers that it gets, and it asks as many
responders as it gets answers; when it fails because of an answer, that answer is the last one.
-/
import Mathlib.Tactic.Common
import TaskTail.Proofs.Tail.Feed

namespace TaskTail

structure Exchange where
  request : RangeRequest
  answer : Answer

namespace Poll

variable {p : Poll}

/-- The requests of a poll through the given responders, with the answers that it gets. -/
def exchanges (p : Poll) : List Responder → List Exchange
  | [] => []
  | respond :: rest =>
    if p.result.isSome then []
    else ⟨p.tail.request, respond p.tail.request⟩ ::
      (p.feed (respond p.tail.request)).exchanges rest

theorem exchanges_of_over {result : PollResult} (hover : p.result = some result)
    (calls : List Responder) : p.exchanges calls = [] := by
  rcases calls with _ | ⟨respond, rest⟩
  · rfl
  · simp [exchanges, hover]

theorem exchanges_cons_of_pending (hpending : p.result = none) (respond : Responder)
    (rest : List Responder) :
    p.exchanges (respond :: rest) = ⟨p.tail.request, respond p.tail.request⟩ ::
      (p.feed (respond p.tail.request)).exchanges rest := by
  simp [exchanges, hpending]

/-- A poll is the outcome of its exchanges, and takes one responder for each of them. -/
theorem run_eq_exchanges (p : Poll) (calls : List Responder) :
    p.run calls = ((p.exchanges calls).foldl (fun p x => p.feed x.answer) p,
      calls.drop (p.exchanges calls).length) := by
  induction calls generalizing p with
  | nil => rfl
  | cons respond rest ih =>
      rcases hresult : p.result with _ | result
      · rw [run_cons_of_pending hresult, exchanges_cons_of_pending hresult, ih]
        rfl
      · rw [run_of_over hresult, exchanges_of_over hresult]
        rfl

end Poll

end TaskTail
