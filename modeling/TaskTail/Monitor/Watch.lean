/-
Watches given as text.  A watch is the name of a task, an equals sign and a path; the first equals sign divides
them, so a path may hold more of them and a name none.
-/
import TaskTail.Entry
namespace TaskTail

inductive WatchError
  | noSeparator (text : String)
  | emptyTask
  | emptyPath (task : String)
  deriving DecidableEq, Repr

def WatchError.message : WatchError → String
  | noSeparator text => "expected TASK_ID=PATH, got '" ++ text ++ "'"
  | emptyTask => "task id cannot be empty"
  | emptyPath task => "path for task '" ++ task ++ "' cannot be empty"

/-- The two sides of the first equals sign. -/
def splitAtEquals? : List Char → Option (List Char × List Char)
  | [] => none
  | c :: cs => if c = '=' then some ([], cs) else (splitAtEquals? cs).map fun sides => (c :: sides.1, sides.2)

def parseWatch (s : String) : Except WatchError TaskEntry :=
  match splitAtEquals? s.toList with
  | none => .error (.noSeparator s)
  | some ([], _) => .error .emptyTask
  | some (task, []) => .error (.emptyPath (.ofList task))
  | some (task, path) => .ok ⟨⟨.ofList task⟩, ⟨.ofList path⟩⟩

/-- The text of a watch for an entry. -/
def TaskEntry.watch (entry : TaskEntry) : String :=
  entry.task.text ++ "=" ++ entry.path.text

end TaskTail
