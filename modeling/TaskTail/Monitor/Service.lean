/-
The monitor's service.  A monitor holds the registered tasks and a cap on the bytes of one read; it checks a request,
cuts its size to the cap and reads the file.
-/
import TaskTail.Monitor.Config
import TaskTail.Range.Read
import TaskTail.Range.OnWire
namespace TaskTail

structure Monitor where
  registry : Registry
  maxReadSize : Nat
  deriving Inhabited

namespace Monitor

/-- The monitor of some settings, with a registry that others may already have filled. -/
def withRegistry (registry : Registry) (config : MonitorConfig) : Monitor :=
  ⟨registry.registerAll config.watches, config.maxReadSize⟩

def ofConfig (config : MonitorConfig) : Monitor :=
  withRegistry .empty config

/-- Registers a task while the monitor serves. -/
def startWatching (m : Monitor) (entry : TaskEntry) : Monitor :=
  { m with registry := m.registry.register entry }

/-- The answer to a request, given the files as they are now. -/
def readOutput (m : Monitor) (opening : Opening) (request : WireRequest) : Except Status WireReply :=
  match request.toRange with
  | .error status => .error status
  | .ok range =>
    match readRange m.registry opening { range with size := min range.size m.maxReadSize } with
    | .error error => .error error.status
    | .ok reply => .ok reply.toWire

end Monitor

end TaskTail
