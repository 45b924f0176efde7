/-
What the two programs do.  The monitor reads its command line, the files it needs and then serves until it is
interrupted; each client reads its own command line and its certificate, connects and carries out its command.
Exit codes: zero when all went well or after an interrupt, one after a failure, two for a misused command line, and 101
when a follower breaks off because its next wait would leave the range of time spans.
-/
import TaskTail.Client.Connect
import TaskTail.CommandLine.Monitor
import TaskTail.Identity.ServerName
import TaskTail.Monitor.Listen
import TaskTail.Tail.Clock
import TaskTail.World
namespace TaskTail.CommandLine

inductive Failure
  | client (error : ClientError)
  | monitor (error : MonitorError)
  /-- The certificate of a client could not be read. -/
  | certificate (path : Path) (source : IoError)
  deriving Repr

def Failure.message : Failure → String
  | client error => error.message
  | monitor error => error.message
  | certificate path source => "Failed to read CA certificate from '" ++ path.text ++ "': " ++ source.message

/-- What a program left behind. -/
structure Report where
  exit : Nat
  out : ByteArray
  /-- A remark for the reader, beside the output. -/
  note : Option String
  failure : Option Failure

namespace Report

def success (out : ByteArray) (note : Option String) : Report :=
  ⟨0, out, note, none⟩

/-- The program failed after some output. -/
def failed (out : ByteArray) (failure : Failure) : Report :=
  ⟨1, out, none, some failure⟩

/-- A follower broke off, not with a failure of its own but because of a wait that is out of range. -/
def brokenOff (out : ByteArray) (error : Duration.RangeError) : Report :=
  ⟨101, out, some error.message, none⟩

/-- What is left behind when following ends with a poll that wrote `out`.  A poll whose calls ran out is no failure. -/
def ofFollowEnd (out : ByteArray) : FollowEnd → Report
  | .failed error => failed out (.client error)
  | .overflow error => brokenOff out error
  | .stopped | .unfinished => success out none

/-- The command line was not carried out. -/
def refused : Refusal → Report
  | .help => ⟨0, .empty, none, none⟩
  | .misuse => ⟨2, .empty, none, none⟩

end Report

def endNote (offset : Nat) : String :=
  "(end of file at offset " ++ toString offset ++ ")"

/-- The waits of a follower that waits `seconds` at most, but may always wait one. -/
def followBackoff (seconds : Nat) : Backoff :=
  .start (.ofSeconds 1) (.ofSeconds (max seconds 1)) .threeHalves

/-- The follower of a task's output from an offset on. -/
def follower (task : TaskId) (offset maxPollDelay : Nat) : Follower :=
  ⟨(Tail.ofTask task).withOffset offset, .fresh .accept, followBackoff maxPollDelay⟩

/-- What a connected client does, given what answers it and how many calls a poll takes at most.  A follower is
interrupted in its first wait. -/
def ClientCommand.run (respond : Responder) (calls : Nat) : ClientCommand → Report
  | .read task offset size =>
    match respond ⟨task, offset, size⟩ with
    | .error error => .failed .empty (.client error)
    | .ok reply => .success reply.data (if reply.endOfFile then some (endNote offset) else none)
  | .tail task offset follow maxPollDelay =>
    let f := follower task offset maxPollDelay
    let p := (Poll.start f.tail f.sink).drain respond calls
    if follow then
      match f.afterTurn p with
      | .inl ending => .ofFollowEnd p.sink.received ending
      | .inr _ => .success p.sink.received none
    else
      match p.result with
      | none | some (.ok _) => .success p.sink.received none
      | some (.error error) => .failed p.sink.received (.client error)

/-- What a client has to do and whom it talks to, once it is connected; or what it came to before. -/
def startClient {α : Type} (contents : Contents) (network : Network α) (arguments : List String) :
    Except Report (ClientCommand × α) :=
  match ClientOptions.parse arguments with
  | .error refusal => .error (.refused refusal)
  | .ok options =>
    match options.certificate.mapM fun path => (contents path).mapError (Failure.certificate path) with
    | .error failure => .error (.failed .empty failure)
    | .ok certificate =>
      match connect network options.address certificate options.domain with
      | .error error => .error (.failed .empty (.client error))
      | .ok peer => .ok (options.command, peer)

/-- What a monitor does up to the point at which it serves. -/
def startMonitor (contents : Contents) (arguments : List String) : Except Report (MonitorConfig × Monitor) :=
  match parseMonitor arguments with
  | .error refusal => .error (.refused refusal)
  | .ok config =>
    match Monitor.serve config contents with
    | .error error => .error (.failed .empty (.monitor error))
    | .ok monitor => .ok (config, monitor)

/-- A network in which a monitor listens by its settings.  One that serves encrypted is not found unencrypted. -/
def serving {α : Type} (config : MonitorConfig) (monitor : α) : Network α where
  encrypts certificate name :=
    (Identity.Pem.ofFile certificate.data.toList).certificates?.isSome && Identity.isServerName name
  peer? channel :=
    if channel.endpoint.authority = config.bindAddress && channel.security.isPlaintext && !config.tlsEnabled then
      some monitor
    else none

/-- What a client does, from its command line on, when it meets a world on its network. -/
def runClient (files : FileTree) (network : Network World) (arguments : List String) : Report :=
  match startClient files.readAll network arguments with
  | .error report => report
  | .ok (command, w) => command.run (w.responder defaultMaxReplySize) w.callBound

end TaskTail.CommandLine
