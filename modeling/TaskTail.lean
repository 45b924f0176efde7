import TaskTail.Main
import TaskTail.Session
import TaskTail.Tail.Clock
import TaskTail.Proofs.Monitor.Answer
import TaskTail.Proofs.Monitor.Isolation
import TaskTail.Proofs.Monitor.Progress
import TaskTail.Proofs.Monitor.Registrations
import TaskTail.Proofs.Client.Agreement
import TaskTail.Proofs.Client.Failure
import TaskTail.Proofs.Tail.Copied
import TaskTail.Proofs.Tail.Delay
import TaskTail.Proofs.Wire.Schema
import TaskTail.Proofs.Wire.Message
import TaskTail.Proofs.Client.ReplyLimit
import TaskTail.Proofs.Tail.ByHand
import TaskTail.Proofs.Monitor.Known
import TaskTail.Proofs.Tail.Known
import TaskTail.Proofs.Wire.Evolution
import TaskTail.Proofs.Range.Snapshot
import TaskTail.Proofs.Client.Connect
import TaskTail.Proofs.Tail.Flushed
import TaskTail.Proofs.Range.Outcomes
import TaskTail.Proofs.Tail.Account
import TaskTail.Proofs.Tail.Drain
import TaskTail.Proofs.Tail.Reach
import TaskTail.Proofs.Number.Scale
import TaskTail.Proofs.Tail.Cap
import TaskTail.Proofs.CommandLine.PollDelay
import TaskTail.Proofs.Monitor.Watch
import TaskTail.Proofs.Range.Carried
