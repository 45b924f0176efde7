/-
A file that is open for reading, as far as a reader can tell: the length that its metadata report, and what
positioned reads of it give.  The first reads may come out in any way, interrupted ones included; after them the
file behaves the same at every read.
-/
import TaskTail.IoError
namespace TaskTail

/-- The greatest offset into a file that a request can carry. -/
def maxOffset : Nat := UInt64.size - 1

/-- How one positioned read came out.  A read that gives no bytes is at the end of the file. -/
inductive ReadOutcome
  | bytes (data : ByteArray)
  | interrupted
  | failed (error : IoError)

/-- What a read of up to `room` bytes at `position` gives. -/
abbrev PositionedRead (α : Type) := (position room : Nat) → α

structure OpenFile where
  /-- The length that the metadata report, unless they cannot be had. -/
  length : Option Nat
  /-- The first positioned reads, in their order. -/
  early : List (PositionedRead ReadOutcome)
  /-- Every positioned read after those; none of them is interrupted. -/
  late : PositionedRead (Except IoError ByteArray)

namespace OpenFile

/-- A regular file whose content does not change while it is read. -/
def regular (content : ByteArray) : OpenFile where
  length := some content.size
  early := []
  late position room := .ok (content.extract position (position + room))

/-- A directory: it opens and has a length, but cannot be read. -/
def directory : OpenFile where
  length := some 4096
  early := []
  late _ _ := .error .isADirectory

/-- A device without a length, whose reads give what `read` gives. -/
def device (read : PositionedRead ByteArray) : OpenFile where
  length := some 0
  early := []
  late position room := .ok (read position room)

end OpenFile

end TaskTail
