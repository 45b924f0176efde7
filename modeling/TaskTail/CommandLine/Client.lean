/-
The client's command line: where the monitor is, how to check it, and one of two commands.  `read` prints one range
of a task's output; `tail` prints all that is there and, when following, goes on until it is interrupted.
-/
import TaskTail.CommandLine.Options
import TaskTail.Text.Decimal
import TaskTail.Monitor.Config
namespace TaskTail.CommandLine

/-- The greatest number that an option can give. -/
def maxNumber : Nat := UInt64.size - 1

inductive ClientCommand
  | read (task : TaskId) (offset size : Nat)
  | tail (task : TaskId) (offset : Nat) (follow : Bool) (maxPollDelay : Nat)
  deriving DecidableEq, Repr

structure ClientOptions where
  address : String
  certificate : Option Path
  domain : Option String
  verbose : Bool
  command : ClientCommand
  deriving DecidableEq, Repr

/-- The options in front of the command. -/
def clientSpecs : List OptionSpec :=
  [.valued "addr" (some 'a'), .valued "ca-cert" none, .valued "tls-domain" none, .flag "verbose" (some 'v')]

def readSpecs : List OptionSpec :=
  [.valued "offset" (some 'o'), .valued "size" (some 's')]

def tailSpecs : List OptionSpec :=
  [.valued "offset" (some 'o'), .flag "follow" (some 'f'), .valued "max-poll-delay" none]

def defaultAddress : String := "http://[::1]:50052"

/-- How many seconds a follower waits at most unless told otherwise. -/
def defaultMaxPollDelay : Nat := 30

def Reading.number (r : Reading) (long : String) (default : Nat) : Except Refusal Nat :=
  r.parsed long default (Text.decimalUpTo? maxNumber)

/-- The task that a command is about: its only word. -/
def Reading.task (r : Reading) : Except Refusal TaskId :=
  match r.words with
  | [task] => .ok ⟨task⟩
  | _ => .error .misuse

def ClientCommand.parse : List String → Except Refusal ClientCommand
  | "read" :: arguments => do
    let r ← CommandLine.read readSpecs false arguments
    return .read (← r.task) (← r.number "offset" 0) (← r.number "size" defaultChunkSize)
  | "tail" :: arguments => do
    let r ← CommandLine.read tailSpecs false arguments
    return .tail (← r.task) (← r.number "offset" 0) (r.has "follow") (← r.number "max-poll-delay" defaultMaxPollDelay)
  | "help" :: _ => .error .help
  | _ => .error .misuse

/-- Reads a client's command line.  A name to check the monitor by is of use only with a certificate. -/
def ClientOptions.parse (arguments : List String) : Except Refusal ClientOptions := do
  let r ← CommandLine.read clientSpecs true arguments
  if !r.words.isEmpty then throw .misuse
  let command ← ClientCommand.parse r.rest
  if r.has "tls-domain" && !r.has "ca-cert" then throw .misuse
  return {
    address := (r.value? "addr").getD defaultAddress
    certificate := (r.value? "ca-cert").map Path.mk
    domain := r.value? "tls-domain"
    verbose := r.has "verbose"
    command }

end TaskTail.CommandLine
