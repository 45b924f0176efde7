/-
The registry and its history.  However a registry came about, the path it has for a task is that of the
last registration of exactly this task, and it has none exactly when there was no such registration.  It
counts every task once, however often it was registered.
-/
import Mathlib.Data.Finset.Card
import Mathlib.Data.List.Induction
import Mathlib.Tactic.Common
import TaskTail.Registry

namespace TaskTail

/-- The path of the last registration of a task. -/
def lastPath? (history : List TaskEntry) (task : TaskId) : Option Path :=
  (history.reverse.find? (·.task = task)).map TaskEntry.path

theorem lastPath?_concat (history : List TaskEntry) (entry : TaskEntry) (task : TaskId) :
    lastPath? (history ++ [entry]) task =
      if entry.task = task then some entry.path else lastPath? history task := by
  by_cases htask : entry.task = task
  · simp [lastPath?, htask]
  · simp [lastPath?, htask]

theorem lastPath?_eq_none_iff (history : List TaskEntry) (task : TaskId) :
    lastPath? history task = none ↔ ∀ entry ∈ history, entry.task ≠ task := by
  simp [lastPath?]

/-- The registrations of other tasks do not matter. -/
theorem lastPath?_filter (history : List TaskEntry) (task : TaskId) :
    lastPath? (history.filter (·.task = task)) task = lastPath? history task := by
  simp only [lastPath?, ← List.filter_reverse, List.find?_filter, and_self, Bool.decide_eq_true]

namespace Registry

theorem registerAll_append (r : Registry) (first second : List TaskEntry) :
    r.registerAll (first ++ second) = (r.registerAll first).registerAll second :=
  List.foldl_append

theorem registerAll_concat (r : Registry) (history : List TaskEntry) (entry : TaskEntry) :
    r.registerAll (history ++ [entry]) = (r.registerAll history).register entry := by
  rw [registerAll, List.foldl_append]
  rfl

/-- A task has the path of its last registration, and before that the path it had at first. -/
theorem resolve?_registerAll (r : Registry) (history : List TaskEntry) (task : TaskId) :
    (r.registerAll history).resolve? task = (lastPath? history task).or (r.resolve? task) := by
  induction history using List.reverseRecOn with
  | nil => rfl
  | append_singleton earlier entry ih =>
      rw [registerAll_concat, resolve?_register, lastPath?_concat, ih]
      split
      · rw [Option.some_or]
      · rfl

theorem resolve?_registerAll_empty (history : List TaskEntry) (task : TaskId) :
    (empty.registerAll history).resolve? task = lastPath? history task := by
  rw [resolve?_registerAll, resolve?_empty, Option.or_none]

/-- A task is among the entries exactly when it has a path. -/
theorem mem_tasks_iff (r : Registry) (task : TaskId) :
    task ∈ r.entries.map TaskEntry.task ↔ r.resolve? task ≠ none := by
  simp [resolve?, List.find?_eq_none]

/-- Every task counts once. -/
theorem size_registerAll_empty (history : List TaskEntry) :
    (empty.registerAll history).size = (history.map TaskEntry.task).toFinset.card := by
  have htasks : ((empty.registerAll history).entries.map TaskEntry.task).toFinset =
      (history.map TaskEntry.task).toFinset := by
    ext task
    rw [List.mem_toFinset, mem_tasks_iff, resolve?_registerAll_empty, Ne, lastPath?_eq_none_iff]
    simp
  rw [← htasks, List.toFinset_card_of_nodup (empty.registerAll history).nodup, List.length_map]
  rfl

theorem isEmpty_registerAll_empty_iff (history : List TaskEntry) :
    (empty.registerAll history).isEmpty = true ↔ history = [] := by
  have hsize := size_registerAll_empty history
  rw [isEmpty, List.isEmpty_iff, ← List.length_eq_zero_iff, ← size, hsize, Finset.card_eq_zero,
    List.toFinset_eq_empty_iff, List.map_eq_nil_iff]

end Registry

end TaskTail
