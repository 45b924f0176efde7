/-
Where a tail writes to.  A sink takes a chunk whole, or a proper part of it and then fails; a flush succeeds or
fails.  What is received is in the order of writing, and what was received at a successful flush is flushed.
-/
import TaskTail.IoError
namespace TaskTail

/-- When a sink fails.  The rules may look at how often it was written to or flushed before. -/
structure SinkRule where
  /-- How many bytes of a chunk are taken before the failure, unless the chunk is taken whole. -/
  refuse : (writes : Nat) → (received chunk : ByteArray) → Option (Nat × IoError)
  /-- The failure of a flush, unless it succeeds. -/
  refuseFlush : (flushes : Nat) → Option IoError

namespace SinkRule

def accept : SinkRule where
  refuse _ _ _ := none
  refuseFlush _ := none

/-- The failure of a sink that has no room left. -/
def full : IoError := .custom .other "sink full"

/-- Up to `limit` bytes are taken in all. -/
def upTo (limit : Nat) : SinkRule where
  refuse _ received chunk :=
    if received.size + chunk.size ≤ limit then none else some (limit - received.size, full)
  refuseFlush _ := none

end SinkRule

/-- A place to write to, with what it has received. -/
structure Sink where
  rule : SinkRule
  received : ByteArray
  /-- How many of the received bytes are flushed. -/
  flushed : Nat
  writes : Nat
  flushes : Nat

namespace Sink

def fresh (rule : SinkRule) : Sink :=
  ⟨rule, .empty, 0, 0, 0⟩

/-- The sink after a chunk, and the failure if the chunk was not taken whole. -/
def write (s : Sink) (chunk : ByteArray) : Sink × Option IoError :=
  match s.rule.refuse s.writes s.received chunk with
  | none => ({ s with received := s.received ++ chunk, writes := s.writes + 1 }, none)
  | some (taken, error) =>
    let part := chunk.extract 0 (min taken (chunk.size - 1))
    ({ s with received := s.received ++ part, writes := s.writes + 1 }, some error)

/-- The sink after a flush, and its failure if it failed. -/
def flush (s : Sink) : Sink × Option IoError :=
  match s.rule.refuseFlush s.flushes with
  | none => ({ s with flushed := s.received.size, flushes := s.flushes + 1 }, none)
  | some error => ({ s with flushes := s.flushes + 1 }, some error)

end Sink

end TaskTail
