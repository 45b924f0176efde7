/-
Fields on the wire.  A field is a key, which holds its tag and its layout, followed by a payload.  Fields with a tag
that a message does not know are skipped by their layout alone; groups among them may nest a hundred deep.
-/
import TaskTail.Wire.Varint
import TaskTail.Wire.Error
namespace TaskTail.Wire

/-- What introduces a field. -/
structure Key where
  tag : Nat
  wireType : WireType
  deriving DecidableEq, Repr

namespace Key

def encode (key : Key) : List UInt8 :=
  Varint.encode (key.tag * 8 + key.wireType.number)

/-- The key at the front, and the bytes after it. -/
def decode (bytes : List UInt8) : Except Fault (Key × List UInt8) :=
  match Varint.decode? bytes with
  | none => .error .invalidVarint
  | some (value, rest) =>
    if UInt32.size ≤ value then .error (.invalidKey value)
    else
      match WireType.ofNumber? (value % 8) with
      | none => .error (.unknownWireType (value % 8))
      | some wireType => if value / 8 = 0 then .error .invalidTag else .ok (⟨value / 8, wireType⟩, rest)

/-- Reading a key takes at least one byte. -/
theorem decode_shortens {bytes : List UInt8} {read : Key × List UInt8} (h : decode bytes = .ok read) :
    read.2.length < bytes.length := by
  unfold decode at h
  split at h
  · cases h
  · rename_i value rest hv
    have := Varint.decode?_shortens hv
    split at h
    · cases h
    · split at h
      · cases h
      · split at h
        · cases h
        · cases h; exact this

end Key

/-- The value of a field: a number, or a run of bytes. -/
inductive Payload
  | number (value : Nat)
  | bytes (data : List UInt8)

def Payload.wireType : Payload → WireType
  | number _ => .varint
  | bytes _ => .lengthDelimited

def Payload.encode : Payload → List UInt8
  | number value => Varint.encode value
  | bytes data => Varint.encode data.length ++ data

/-- The bytes after the first `count`. -/
def dropExactly (count : Nat) (bytes : List UInt8) : Except Fault (List UInt8) :=
  if bytes.length < count then .error .bufferUnderflow else .ok (bytes.drop count)

/-- The run of bytes behind its length, and the bytes after it. -/
def readRun (bytes : List UInt8) : Except Fault (List UInt8 × List UInt8) :=
  match Varint.decode? bytes with
  | none => .error .invalidVarint
  | some (length, rest) =>
    if rest.length < length then .error .bufferUnderflow else .ok (rest.take length, rest.drop length)

/-- The number at the front, and the bytes after it. -/
def readNumber (bytes : List UInt8) : Except Fault (Nat × List UInt8) :=
  match Varint.decode? bytes with
  | none => .error .invalidVarint
  | some read => .ok read

/-- How deep groups may nest. -/
def maxDepth : Nat := 100

/-- Skips the payload of a field that is not a group. -/
def skipPayload (wireType : WireType) (bytes : List UInt8) : Except Fault (List UInt8) :=
  match wireType with
  | .varint => (readNumber bytes).map Prod.snd
  | .sixtyFourBit => dropExactly 8 bytes
  | .lengthDelimited => (readRun bytes).map Prod.snd
  | .thirtyTwoBit => dropExactly 4 bytes
  | .startGroup | .endGroup => .error .unexpectedEndGroup

theorem length_dropExactly_le {count : Nat} {bytes rest : List UInt8} (h : dropExactly count bytes = .ok rest) :
    rest.length ≤ bytes.length := by
  unfold dropExactly at h
  split at h
  · cases h
  · cases h; simp

theorem length_readNumber_le {bytes : List UInt8} {read : Nat × List UInt8} (h : readNumber bytes = .ok read) :
    read.2.length ≤ bytes.length := by
  unfold readNumber at h
  split at h
  · cases h
  · rename_i r hv
    cases h
    exact Nat.le_of_lt (Varint.decode?_shortens hv)

theorem length_readRun_le {bytes : List UInt8} {read : List UInt8 × List UInt8} (h : readRun bytes = .ok read) :
    read.2.length ≤ bytes.length := by
  unfold readRun at h
  split at h
  · cases h
  · rename_i length rest hv
    have := Varint.decode?_shortens hv
    split at h
    · cases h
    · cases h
      simp only [List.length_drop] at this ⊢
      omega

/-- Skipping a payload does not add bytes. -/
theorem length_skipPayload_le {wireType : WireType} {bytes rest : List UInt8}
    (h : skipPayload wireType bytes = .ok rest) : rest.length ≤ bytes.length := by
  cases wireType with
  | varint =>
    cases hr : readNumber bytes with
    | error e => simp [skipPayload, hr, Except.map] at h
    | ok read =>
      simp only [skipPayload, hr, Except.map, Except.ok.injEq] at h
      exact h ▸ length_readNumber_le hr
  | lengthDelimited =>
    cases hr : readRun bytes with
    | error e => simp [skipPayload, hr, Except.map] at h
    | ok read =>
      simp only [skipPayload, hr, Except.map, Except.ok.injEq] at h
      exact h ▸ length_readRun_le hr
  | sixtyFourBit => exact length_dropExactly_le h
  | thirtyTwoBit => exact length_dropExactly_le h
  | startGroup => simp [skipPayload] at h
  | endGroup => simp [skipPayload] at h

/-- Skips the rest of the groups with the given tags, the innermost first. -/
def skipGroups (groups : List Nat) (bytes : List UInt8) : Except Fault (List UInt8) :=
  match groups with
  | [] => .ok bytes
  | tag :: outer =>
    match hkey : Key.decode bytes with
    | .error fault => .error fault
    | .ok (key, rest) =>
      have shorter : rest.length < bytes.length := Key.decode_shortens hkey
      if key.wireType = .endGroup then
        if key.tag = tag then skipGroups outer rest else .error .unexpectedEndGroup
      else if maxDepth ≤ (tag :: outer).length then .error .recursionLimit
      else if key.wireType = .startGroup then skipGroups (key.tag :: tag :: outer) rest
      else
        match hskip : skipPayload key.wireType rest with
        | .error fault => .error fault
        | .ok rest' =>
          have : rest'.length < bytes.length := Nat.lt_of_le_of_lt (length_skipPayload_le hskip) shorter
          skipGroups (tag :: outer) rest'
termination_by bytes.length

/-- Skips the payload of a field with an unknown tag. -/
def skipField (key : Key) (bytes : List UInt8) : Except Fault (List UInt8) :=
  if key.wireType = .startGroup then skipGroups [key.tag] bytes else skipPayload key.wireType bytes

/-- Skipping groups does not add bytes. -/
theorem length_skipGroups_le {groups : List Nat} {bytes rest : List UInt8}
    (h : skipGroups groups bytes = .ok rest) : rest.length ≤ bytes.length := by
  fun_induction skipGroups groups bytes generalizing rest with
  | case1 => cases h; exact Nat.le_refl _
  | case3 => rename_i ih; have := ih h; omega
  | case6 => rename_i ih; have := ih h; omega
  | case8 => rename_i ih; have := ih h; omega
  | _ => cases h

/-- Skipping a field does not add bytes. -/
theorem length_skipField_le {key : Key} {bytes rest : List UInt8} (h : skipField key bytes = .ok rest) :
    rest.length ≤ bytes.length := by
  unfold skipField at h
  split at h
  · exact length_skipGroups_le h
  · exact length_skipPayload_le h

end TaskTail.Wire
