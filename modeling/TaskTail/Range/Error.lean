/-
Why a range cannot be read.  There are two reasons only: the task is not registered, or its file does not open.
Once the file is open, whatever goes wrong counts as the end of the output, because a reader polls again anyway.
-/
import TaskTail.Entry
import TaskTail.IoError
import TaskTail.Status
namespace TaskTail

inductive ReadError
  | unknownTask (task : TaskId)
  | openFailed (task : TaskId) (path : Path) (source : IoError)
  deriving DecidableEq, Repr, Inhabited

namespace ReadError

def message : ReadError → String
  | unknownTask task => "Unknown task: " ++ task.text
  | openFailed task path source =>
    "Failed to open output of task " ++ task.text ++ " at '" ++ path.text ++ "': " ++ source.message

/-- How a remote caller is told: a missing file may still appear, so it is not the same as a missing task. -/
def code : ReadError → Code
  | unknownTask _ => .notFound
  | openFailed _ _ source => if source.kind = .permissionDenied then .permissionDenied else .unavailable

def status (e : ReadError) : Status :=
  ⟨e.code, e.message⟩

end ReadError

end TaskTail
