/-
The program.  It runs a monitor and one client of it together: the arguments up to the first pair of dashes are the
monitor's command line, those after it the client's.  Output goes to standard output, remarks and failures to
standard error.
-/
import TaskTail.CommandLine.Program
import TaskTail.Files.Contents
import TaskTail.Tail.Clock
namespace TaskTail.CommandLine

/-- The failure of an error number, which some calls report with a minus sign. -/
def systemNumber (number : UInt32) : IoError :=
  .system (number.toInt32.toInt.natAbs : Int)

def systemFailure : IO.Error → IoError
  | .noFileOrDirectory _ number _ | .permissionDenied _ number _ | .inappropriateType _ number _
  | .invalidArgument _ number _ | .resourceExhausted _ number _ | .interrupted _ number _ => systemNumber number
  | error => .custom .other (toString error)

def readWhole (path : Path) : IO (Except IoError ByteArray) := do
  try
    return .ok (← IO.FS.readBinFile path.text)
  catch error =>
    return .error (systemFailure error)

/-- What the files at the given paths hold now. -/
def snapshot (paths : List Path) : IO Contents := do
  let held ← paths.mapM fun path => return (path, ← readWhole path)
  return fun path => (held.lookup path).getD (.error .notFound)

/-- Prints what a program left behind and gives its exit code. -/
def print (r : Report) : IO UInt32 := do
  let out ← IO.getStdout
  out.write r.out
  out.flush
  if let some note := r.note then IO.eprintln note
  if let some failure := r.failure then IO.eprintln failure.message
  return UInt32.ofNat r.exit

/-- What answers a client of the monitor now, and how many calls a poll takes at most. -/
def responderNow (monitor : Monitor) : IO (Responder × Nat) := do
  let paths := monitor.registry.entries.map TaskEntry.path
  let contents ← snapshot paths
  return (clientRead defaultMaxReplySize (monitor.server contents.openFile).delivered,
    contents.greatestLength paths + 2)

/-- Sleeps in pieces, as the system takes no more than 32 bits of milliseconds at once. -/
partial def pause (millis : Nat) : IO Unit := do
  let piece := min millis (UInt32.size - 1)
  IO.sleep (UInt32.ofNat piece)
  if piece < millis then pause (millis - piece)

/-- Polls and waits in turn, printing after each poll what it wrote. -/
partial def keepFollowing (monitor : Monitor) (f : Follower) : IO UInt32 := do
  let (respond, calls) ← responderNow monitor
  let p := (Poll.start f.tail f.sink).drain respond calls
  match f.afterTurn p with
  | .inl ending => print (.ofFollowEnd p.sink.received ending)
  | .inr backoff =>
    let _ ← print (.success p.sink.received none)
    pause (nextPollAt 0 backoff.current)
    keepFollowing monitor ⟨p.tail, .fresh .accept, backoff⟩

def carryOut (monitor : Monitor) : ClientCommand → IO UInt32
  | .tail task offset true maxPollDelay =>
    keepFollowing monitor (follower task offset maxPollDelay)
  | command => do
    let (respond, calls) ← responderNow monitor
    print (command.run respond calls)

/-- The files besides watched ones that two command lines name. -/
def namedFiles (forMonitor forClient : List String) : List Path :=
  ((parseMonitor forMonitor).toOption.elim [] fun config => config.certificate.toList ++ config.key.toList) ++
    (ClientOptions.parse forClient).toOption.elim [] fun options => options.certificate.toList

def runBoth (forMonitor forClient : List String) : IO UInt32 := do
  let contents ← snapshot (namedFiles forMonitor forClient)
  match startMonitor contents forMonitor with
  | .error report => print report
  | .ok (config, monitor) =>
    match startClient contents (serving config monitor) forClient with
    | .error report => print report
    | .ok (command, monitor) => carryOut monitor command

end TaskTail.CommandLine

/-- Divides the arguments at the first pair of dashes and runs both programs. -/
def main (arguments : List String) : IO UInt32 :=
  TaskTail.CommandLine.runBoth (arguments.takeWhile (· ≠ "--")) ((arguments.dropWhile (· ≠ "--")).drop 1)
