/-
Why bytes are not a message.  A fault inside the value of a known field is reported with the name of the field; a
fault elsewhere has no place to name.
-/
namespace TaskTail.Wire

/-- How the value of a field is laid out. -/
inductive WireType
  | varint
  | sixtyFourBit
  | lengthDelimited
  | startGroup
  | endGroup
  | thirtyTwoBit
  deriving DecidableEq, Repr, Inhabited

namespace WireType

def number : WireType → Nat
  | varint => 0
  | sixtyFourBit => 1
  | lengthDelimited => 2
  | startGroup => 3
  | endGroup => 4
  | thirtyTwoBit => 5

def ofNumber? : Nat → Option WireType
  | 0 => some varint
  | 1 => some sixtyFourBit
  | 2 => some lengthDelimited
  | 3 => some startGroup
  | 4 => some endGroup
  | 5 => some thirtyTwoBit
  | _ => none

def name : WireType → String
  | varint => "Varint"
  | sixtyFourBit => "SixtyFourBit"
  | lengthDelimited => "LengthDelimited"
  | startGroup => "StartGroup"
  | endGroup => "EndGroup"
  | thirtyTwoBit => "ThirtyTwoBit"

theorem ofNumber?_number (t : WireType) : ofNumber? t.number = some t := by
  cases t <;> rfl

theorem number_lt (t : WireType) : t.number < 8 := by
  cases t <;> decide

end WireType

inductive Fault
  | invalidVarint
  | invalidKey (key : Nat)
  | unknownWireType (number : Nat)
  | invalidTag
  | wireTypeMismatch (actual expected : WireType)
  | bufferUnderflow
  | invalidText
  | recursionLimit
  | unexpectedEndGroup
  deriving DecidableEq, Repr

def Fault.description : Fault → String
  | invalidVarint => "invalid varint"
  | invalidKey key => "invalid key value: " ++ toString key
  | unknownWireType number => "invalid wire type value: " ++ toString number
  | invalidTag => "invalid tag value: 0"
  | wireTypeMismatch actual expected =>
    "invalid wire type: " ++ actual.name ++ " (expected " ++ expected.name ++ ")"
  | bufferUnderflow => "buffer underflow"
  | invalidText => "invalid string value: data is not UTF-8 encoded"
  | recursionLimit => "recursion limit reached"
  | unexpectedEndGroup => "unexpected end group tag"

/-- A fault and the field in whose value it is, if it is in one. -/
structure DecodeError where
  field : Option String
  fault : Fault
  deriving DecidableEq, Repr

def DecodeError.message (e : DecodeError) : String :=
  "failed to decode Protobuf message: " ++ e.field.elim "" (· ++ ": ") ++ e.fault.description

end TaskTail.Wire
