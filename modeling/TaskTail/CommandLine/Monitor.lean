/-
The monitor's command line: its settings, all of them options.  Certificate and key are given both or not at all.
-/
import TaskTail.CommandLine.Client
import TaskTail.Monitor.Watch
namespace TaskTail.CommandLine

def monitorSpecs : List OptionSpec := [
  .valued "bind" (some 'b'), .valued "tls-cert" none, .valued "tls-key" none, .valued "max-read-size" none,
  { long := "watch", short := some 'w', takesValue := true, repeatable := true }, .valued "log-level" none]

def watch (text : String) : Except Refusal TaskEntry :=
  (parseWatch text).mapError fun _ => .misuse

def parseMonitor (arguments : List String) : Except Refusal MonitorConfig := do
  let r ← CommandLine.read monitorSpecs false arguments
  if !r.words.isEmpty || r.has "tls-cert" != r.has "tls-key" then throw .misuse
  let defaults : MonitorConfig := {}
  return {
    bindAddress := (r.value? "bind").getD defaults.bindAddress
    certificate := (r.value? "tls-cert").map Path.mk
    key := (r.value? "tls-key").map Path.mk
    maxReadSize := ← r.number "max-read-size" defaults.maxReadSize
    logLevel := ← r.parsed "log-level" defaults.logLevel LogLevel.parse?
    watches := ← (r.values "watch").mapM watch }

end TaskTail.CommandLine
