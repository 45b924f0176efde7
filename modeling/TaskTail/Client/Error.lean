/-
Why a client's call failed.  Only an unavailable monitor or file is worth another try later.
-/
import TaskTail.Task
import TaskTail.IoError
import TaskTail.Status
import TaskTail.Text.Quoted
namespace TaskTail

inductive ClientError
  | connection (reason : String)
  | unknownTask (task : TaskId)
  | remote (status : Status)
  | write (source : IoError)
  deriving DecidableEq, Repr

namespace ClientError

/-- Whether the same call may succeed later. -/
def isRetryable : ClientError → Bool
  | remote status => status.code == .unavailable
  | connection _ | unknownTask _ | write _ => false

def message : ClientError → String
  | connection reason => "connection failed: " ++ reason
  | unknownTask task => "unknown task: " ++ task.text
  | remote status =>
    "gRPC error: status: " ++ status.code.name ++ ", message: " ++ Text.quoted status.message ++
      ", details: [], metadata: MetadataMap \x7b headers: \x7b\x7d \x7d"
  | write source => "write error: " ++ source.message

end ClientError

end TaskTail
