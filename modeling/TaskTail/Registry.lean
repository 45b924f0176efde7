/-
The registry: for every task that was ever registered, the path it was registered with last.  An entry is never
taken out, so a task that is known stays known.
-/
import TaskTail.Entry
namespace TaskTail

/-- The registered tasks, each at most once, with their current paths. -/
structure Registry where
  entries : List TaskEntry
  nodup : (entries.map TaskEntry.task).Nodup

namespace Registry

def empty : Registry := ⟨[], List.nodup_nil⟩

instance : Inhabited Registry := ⟨empty⟩

/-- Registers a task under a path, in the place of any earlier path of the same task. -/
def register (r : Registry) (entry : TaskEntry) : Registry where
  entries := entry :: r.entries.filter (·.task ≠ entry.task)
  nodup := by
    rw [List.map_cons, List.nodup_cons]
    refine ⟨fun h => ?_, (List.filter_sublist.map TaskEntry.task).nodup r.nodup⟩
    obtain ⟨e, he, heq⟩ := List.mem_map.1 h
    exact (of_decide_eq_true (List.mem_filter.1 he).2) heq

def registerAll (r : Registry) (entries : List TaskEntry) : Registry :=
  entries.foldl register r

/-- The path of a task, if the task is registered. -/
def resolve? (r : Registry) (task : TaskId) : Option Path :=
  (r.entries.find? (·.task = task)).map TaskEntry.path

def size (r : Registry) : Nat :=
  r.entries.length

def isEmpty (r : Registry) : Bool :=
  r.entries.isEmpty

theorem resolve?_empty (task : TaskId) : empty.resolve? task = none := rfl

/-- The last path wins for the registered task, and no other task is touched. -/
theorem resolve?_register (r : Registry) (entry : TaskEntry) (task : TaskId) :
    (r.register entry).resolve? task = if entry.task = task then some entry.path else r.resolve? task := by
  by_cases h : entry.task = task
  · simp [resolve?, register, h]
  · have : (fun a : TaskEntry => !decide (a.task = entry.task) && decide (a.task = task)) =
        fun a => decide (a.task = task) := by
      funext a
      by_cases ha : a.task = task
      · simp [ha, Ne.symm h]
      · simp [ha]
    simp [resolve?, register, h, List.find?_filter, this]

end Registry

end TaskTail
