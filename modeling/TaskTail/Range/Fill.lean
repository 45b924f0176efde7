/-
Filling a buffer by positioned reads.  A fill asks for the unfilled rest of the buffer, right after the bytes it
already has, until the buffer is full, a read gives nothing or a read fails.  An interrupted read is asked again, and
a failure after some bytes keeps those bytes.
-/
import TaskTail.Files.OpenFile
namespace TaskTail

/-- Whether a fill goes on, and if not, why it ended early. -/
inductive FillState
  | reading
  | stopped
  | failed (error : IoError)

/-- A buffer of `size` bytes being filled from `offset` of a file. -/
structure Fill where
  offset : Nat
  size : Nat
  bytes : ByteArray
  state : FillState

namespace Fill

def start (offset size : Nat) : Fill :=
  ⟨offset, size, .empty, .reading⟩

def room (f : Fill) : Nat :=
  f.size - f.bytes.size

/-- Position and length of the next read; none when the fill is over. -/
def next? (f : Fill) : Option (Nat × Nat) :=
  match f.state with
  | .reading => if f.bytes.size < f.size then some (min (f.offset + f.bytes.size) maxOffset, f.room) else none
  | .stopped | .failed _ => none

def feed (f : Fill) : ReadOutcome → Fill
  | .bytes data =>
    let taken := data.extract 0 f.room
    if taken.isEmpty then { f with state := .stopped } else { f with bytes := f.bytes ++ taken }
  | .interrupted => f
  | .failed error => if f.bytes.isEmpty then { f with state := .failed error } else { f with state := .stopped }

/-- The fill after the given outcomes, of which those after its end are not used. -/
def run (f : Fill) : List ReadOutcome → Fill
  | [] => f
  | outcome :: rest => if f.next?.isSome then (f.feed outcome).run rest else f

/-- The fill after the given reads of a file, of which those after its end are not made. -/
def readEarly (f : Fill) : List (PositionedRead ReadOutcome) → Fill
  | [] => f
  | read :: rest =>
    match f.next? with
    | none => f
    | some (position, room) => (f.feed (read position room)).readEarly rest

/-- A bound on the reads to come when none is interrupted. -/
def patience (f : Fill) : Nat :=
  match f.state with
  | .reading => f.room + 1
  | .stopped | .failed _ => 0

/-- How an uninterrupted read came out. -/
def outcome : Except IoError ByteArray → ReadOutcome
  | .ok data => .bytes data
  | .error error => .failed error

theorem next?_eq_some {f : Fill} {ask : Nat × Nat} (h : f.next? = some ask) :
    f.state = .reading ∧ f.bytes.size < f.size ∧
      ask = (min (f.offset + f.bytes.size) maxOffset, f.room) := by
  unfold next? at h
  split at h
  · rename_i hs
    split at h
    · exact ⟨hs, ‹_›, (Option.some.inj h).symm⟩
    · cases h
  · cases h
  · cases h

/-- An uninterrupted read ends the fill or leaves less room. -/
theorem patience_feed_lt {f : Fill} {ask : Nat × Nat} (h : f.next? = some ask)
    (result : Except IoError ByteArray) : (f.feed (outcome result)).patience < f.patience := by
  obtain ⟨hs, hlt, -⟩ := next?_eq_some h
  cases result with
  | error error =>
    by_cases hempty : f.bytes.isEmpty <;> simp [outcome, feed, patience, hs, hempty]
  | ok data =>
    by_cases hempty : (data.extract 0 f.room).isEmpty
    · simp [outcome, feed, patience, hs, hempty]
    · have hpos : (data.extract 0 f.room).size ≠ 0 := fun h0 => hempty (by simp [ByteArray.isEmpty, h0])
      have hfeed : f.feed (.bytes data) = { f with bytes := f.bytes ++ data.extract 0 f.room } := by
        simp [feed, hempty]
      rw [outcome, hfeed]
      simp only [patience, hs, room, ByteArray.size_append] at hpos ⊢
      omega

/-- The fill after all the reads it makes of a file that is never interrupted. -/
def readLate (read : PositionedRead (Except IoError ByteArray)) (f : Fill) : Fill :=
  match h : f.next? with
  | none => f
  | some (position, room) =>
    have := patience_feed_lt h (read position room)
    readLate read (f.feed (outcome (read position room)))
termination_by f.patience

/-- The bytes that were read, or the failure that came before any. -/
def result (f : Fill) : Except IoError ByteArray :=
  match f.state with
  | .failed error => .error error
  | .reading | .stopped => .ok f.bytes

end Fill

/-- Up to `size` bytes of an open file from `offset`. -/
def OpenFile.readUpTo (file : OpenFile) (offset size : Nat) : Except IoError ByteArray :=
  (((Fill.start offset size).readEarly file.early).readLate file.late).result

end TaskTail
