/-
Entries: a task together with the file that receives its output.
-/
import TaskTail.Task
import TaskTail.Path
namespace TaskTail

/-- The file that receives the output of one task. -/
structure TaskEntry where
  task : TaskId
  path : Path
  deriving DecidableEq, Repr, Inhabited

/-- Two entries are equivalent when they name the same task and their paths have the same steps. -/
def TaskEntry.equivalent (a b : TaskEntry) : Bool :=
  a.task == b.task && a.path.equivalent b.path

end TaskTail
