/-
The two messages of a remote read.  A request names a task and carries its numbers with a sign, although only
numbers that are not negative make sense; a reply carries bytes and whether the end of the output is reached.
-/
import TaskTail.Wire.Schema
namespace TaskTail

/-- A request for a range of a task's output as it travels. -/
structure WireRequest where
  task : String
  size : Int32
  offset : Int64
  deriving DecidableEq, Repr, Inhabited

/-- A reply to such a request as it travels. -/
structure WireReply where
  data : ByteArray
  endOfFile : Bool
  deriving Inhabited

instance : DecidableEq WireReply := fun a b =>
  decidable_of_iff (a.data.data = b.data.data ∧ a.endOfFile = b.endOfFile) (by
    cases a
    cases b
    simp [ByteArray.ext_iff])

namespace Wire

/-- The number that stands for a signed number: its bits as sixty-four bits in two's complement. -/
def ofSigned (value : Int64) : Nat :=
  value.toUInt64.toNat

def nonzero (value : Nat) : Option Payload :=
  if value = 0 then none else some (.number value)

def nonempty (data : List UInt8) : Option Payload :=
  if data.isEmpty then none else some (.bytes data)

def textBytes (s : String) : List UInt8 :=
  s.toUTF8.data.toList

/-- The text that bytes spell, if they spell one. -/
def text? (bytes : List UInt8) : Option String :=
  String.fromUTF8? ⟨bytes.toArray⟩

end Wire

open Wire

/-- The name of the task in a request. -/
def WireRequest.taskField : Wire.Field WireRequest where
  tag := 1
  name := "task_id"
  wireType := .lengthDelimited
  payload? := fun r => nonempty (textBytes r.task)
  put := fun r payload =>
    match payload with
    | .bytes data =>
      match text? data with
      | some task => .ok { r with task }
      | none => .error .invalidText
    | .number _ => .error .invalidText

/-- The number of bytes that are asked for. -/
def WireRequest.sizeField : Wire.Field WireRequest where
  tag := 2
  name := "size"
  wireType := .varint
  payload? := fun r => nonzero (ofSigned r.size.toInt64)
  put := fun r payload =>
    match payload with
    | .number value => .ok { r with size := (UInt32.ofNat value).toInt32 }
    | .bytes _ => .error .invalidVarint

/-- Where the requested bytes begin. -/
def WireRequest.offsetField : Wire.Field WireRequest where
  tag := 3
  name := "offset"
  wireType := .varint
  payload? := fun r => nonzero (ofSigned r.offset)
  put := fun r payload =>
    match payload with
    | .number value => .ok { r with offset := (UInt64.ofNat value).toInt64 }
    | .bytes _ => .error .invalidVarint

def WireRequest.schema : Schema WireRequest where
  name := "ReadOutputRequest"
  blank := ⟨"", 0, 0⟩
  fields := [taskField, sizeField, offsetField]

/-- The bytes of a reply. -/
def WireReply.dataField : Wire.Field WireReply where
  tag := 1
  name := "data"
  wireType := .lengthDelimited
  payload? := fun r => nonempty r.data.data.toList
  put := fun r payload =>
    match payload with
    | .bytes data => .ok { r with data := ⟨data.toArray⟩ }
    | .number _ => .error .invalidVarint

/-- Whether the end of the output is reached. -/
def WireReply.endField : Wire.Field WireReply where
  tag := 2
  name := "end_of_file"
  wireType := .varint
  payload? := fun r => nonzero r.endOfFile.toNat
  put := fun r payload =>
    match payload with
    | .number value => .ok { r with endOfFile := value ≠ 0 }
    | .bytes _ => .error .invalidVarint

def WireReply.schema : Schema WireReply where
  name := "ReadOutputReply"
  blank := ⟨.empty, false⟩
  fields := [dataField, endField]

namespace WireRequest

def encode (r : WireRequest) : List UInt8 :=
  schema.encode r

def decode (bytes : List UInt8) : Except DecodeError WireRequest :=
  schema.decode bytes

/-- How many bytes a number takes in a field with a small tag. -/
def numberLength (value : Nat) : Nat :=
  if value = 0 then 0 else 1 + Varint.length value

def encodedLength (r : WireRequest) : Nat :=
  (if r.task.utf8ByteSize = 0 then 0 else 1 + Varint.length r.task.utf8ByteSize + r.task.utf8ByteSize) +
    numberLength (ofSigned r.size.toInt64) + numberLength (ofSigned r.offset)

end WireRequest

namespace WireReply

def encode (r : WireReply) : List UInt8 :=
  schema.encode r

def decode (bytes : List UInt8) : Except DecodeError WireReply :=
  schema.decode bytes

def encodedLength (r : WireReply) : Nat :=
  (if r.data.isEmpty then 0 else 1 + Varint.length r.data.size + r.data.size) + if r.endOfFile then 2 else 0

end WireReply

end TaskTail
