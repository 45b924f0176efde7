/-
Messages on the wire.  A message type is a blank message and its fields in the order of their tags.  A message is
written field by field, without the fields that have their default value; it is read by merging field after field
into the blank message, so that the last occurrence of a field wins and unknown fields leave no trace.
-/
import TaskTail.Wire.Field
namespace TaskTail.Wire

/-- One field of a type of messages. -/
structure Field (α : Type) where
  tag : Nat
  name : String
  wireType : WireType
  /-- What the message puts on the wire; nothing when the field has its default value. -/
  payload? : α → Option Payload
  /-- The message with the field taken from a payload. -/
  put : α → Payload → Except Fault α

structure Schema (α : Type) where
  name : String
  blank : α
  fields : List (Field α)

namespace Field

def encode {α : Type} (field : Field α) (message : α) : List UInt8 :=
  match field.payload? message with
  | none => []
  | some payload => Key.encode ⟨field.tag, payload.wireType⟩ ++ payload.encode

/-- Reads the payload of the field at the front into a message. -/
def merge {α : Type} (field : Field α) (message : α) (bytes : List UInt8) : Except Fault (α × List UInt8) :=
  match field.wireType with
  | .varint =>
    match readNumber bytes with
    | .error fault => .error fault
    | .ok (value, rest) => (field.put message (.number value)).map (·, rest)
  | .lengthDelimited =>
    match readRun bytes with
    | .error fault => .error fault
    | .ok (data, rest) => (field.put message (.bytes data)).map (·, rest)
  | other => .error (.wireTypeMismatch other field.wireType)

/-- Merging a field does not add bytes. -/
theorem length_merge_le {α : Type} {field : Field α} {message : α} {bytes : List UInt8} {read : α × List UInt8}
    (h : field.merge message bytes = .ok read) : read.2.length ≤ bytes.length := by
  unfold merge at h
  split at h
  · split at h
    · cases h
    · rename_i value rest hr
      have := length_readNumber_le hr
      cases hp : field.put message (.number value) with
      | error fault => simp [hp, Except.map] at h
      | ok merged => simp [hp, Except.map] at h; subst h; exact this
  · split at h
    · cases h
    · rename_i data rest hr
      have := length_readRun_le hr
      cases hp : field.put message (.bytes data) with
      | error fault => simp [hp, Except.map] at h
      | ok merged => simp [hp, Except.map] at h; subst h; exact this
  · cases h

end Field

namespace Schema

variable {α : Type}

def encode (schema : Schema α) (message : α) : List UInt8 :=
  schema.fields.flatMap (·.encode message)

def field? (schema : Schema α) (tag : Nat) : Option (Field α) :=
  schema.fields.find? (·.tag = tag)

/-- A fault in the value of a field. -/
def errorIn (schema : Schema α) (field : Field α) (fault : Fault) : DecodeError :=
  ⟨some (schema.name ++ "." ++ field.name), fault⟩

/-- Merges the one field behind a key into a message. -/
def mergeField (schema : Schema α) (message : α) (key : Key) (bytes : List UInt8) :
    Except DecodeError (α × List UInt8) :=
  match schema.field? key.tag with
  | some field =>
    if key.wireType = field.wireType then (field.merge message bytes).mapError (schema.errorIn field)
    else .error (schema.errorIn field (.wireTypeMismatch key.wireType field.wireType))
  | none => ((skipField key bytes).map (message, ·)).mapError (⟨none, ·⟩)

/-- Merging a field does not add bytes. -/
theorem length_mergeField_le {schema : Schema α} {message : α} {key : Key} {bytes : List UInt8}
    {read : α × List UInt8} (h : schema.mergeField message key bytes = .ok read) :
    read.2.length ≤ bytes.length := by
  unfold mergeField at h
  split at h
  · split at h
    · rename_i field _ _
      cases hm : field.merge message bytes with
      | error fault => rw [hm] at h; cases h
      | ok merged => rw [hm] at h; cases h; exact Field.length_merge_le hm
    · cases h
  · cases hs : skipField key bytes with
    | error fault => rw [hs] at h; cases h
    | ok rest => rw [hs] at h; cases h; exact length_skipField_le hs

/-- Merges the fields in `bytes` into a message, one after another. -/
def merge (schema : Schema α) (message : α) (bytes : List UInt8) : Except DecodeError α :=
  match bytes with
  | [] => .ok message
  | b :: tail =>
    match hkey : Key.decode (b :: tail) with
    | .error fault => .error ⟨none, fault⟩
    | .ok (key, rest) =>
      have shorter : rest.length < (b :: tail).length := Key.decode_shortens hkey
      match hfield : schema.mergeField message key rest with
      | .error error => .error error
      | .ok (merged, rest') =>
        have : rest'.length < (b :: tail).length := Nat.lt_of_le_of_lt (length_mergeField_le hfield) shorter
        schema.merge merged rest'
termination_by bytes.length
decreasing_by exact this

def decode (schema : Schema α) (bytes : List UInt8) : Except DecodeError α :=
  schema.merge schema.blank bytes

end Schema

end TaskTail.Wire
