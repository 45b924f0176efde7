/-
What is written of a message is read back.  Merging the bytes of a message into another one takes over the
fields that were written and nothing else, whatever bytes follow, for every type of messages whose fields
are found by their tags and put their values on the wire in the layout that they declare.
-/
import Mathlib.Tactic.Common
import TaskTail.Proofs.Wire.Grammar
import TaskTail.Wire.Schema

namespace TaskTail.Wire

/-- Its number, or the number of its bytes, has at most sixty-four bits. -/
def Payload.Fits : Payload → Prop
  | number value => value < UInt64.size
  | bytes data => data.length < UInt64.size

variable {α : Type}

namespace Field

/-- The message `base` with what the field has in another message, if it is written of that one. -/
def carry (field : Field α) (message base : α) : Except Fault α :=
  match field.payload? message with
  | none => .ok base
  | some payload => field.put base payload

variable {field : Field α} {message : α}

theorem encode_of_none (hpayload : field.payload? message = none) : field.encode message = [] := by
  rw [encode, hpayload]

theorem encode_of_some {payload : Payload} (hpayload : field.payload? message = some payload) :
    field.encode message = Key.encode ⟨field.tag, payload.wireType⟩ ++ payload.encode := by
  rw [encode, hpayload]

theorem encode_of_default {isDefault : Prop} [Decidable isDefault] {payload : Payload}
    (hpayload : field.payload? message = if isDefault then none else some payload) :
    field.encode message =
      if isDefault then [] else Key.encode ⟨field.tag, payload.wireType⟩ ++ payload.encode := by
  by_cases hdefault : isDefault
  · rw [if_pos hdefault] at hpayload ⊢
    exact encode_of_none hpayload
  · rw [if_neg hdefault] at hpayload ⊢
    exact encode_of_some hpayload

theorem carry_of_default {isDefault : Prop} [Decidable isDefault] {payload : Payload}
    (hpayload : field.payload? message = if isDefault then none else some payload) (base : α) :
    field.carry message base = if isDefault then .ok base else field.put base payload := by
  by_cases hdefault : isDefault
  · rw [if_pos hdefault] at hpayload ⊢
    rw [carry, hpayload]
  · rw [if_neg hdefault] at hpayload ⊢
    rw [carry, hpayload]

theorem merge_encode {payload : Payload} (hfits : payload.Fits)
    (hlayout : payload.wireType = field.wireType) {base merged : α}
    (hput : field.put base payload = .ok merged) (rest : List UInt8) :
    field.merge base (payload.encode ++ rest) = .ok (merged, rest) := by
  cases payload with
  | number value =>
      have hspells : Varint.Spells (Varint.encode value) value := Varint.spells_encode hfits
      simp only [merge, ← hlayout, Payload.wireType, Payload.encode, readNumber_of_spells hspells, hput,
        Except.map]
  | bytes data =>
      have hspells : Varint.Spells (Varint.encode data.length) data.length := Varint.spells_encode hfits
      simp only [merge, ← hlayout, Payload.wireType, Payload.encode, readRun_of_spells hspells, hput,
        Except.map]

end Field

namespace Schema

variable {schema : Schema α} {message base merged : α}

/-- What makes the messages of a type readable: every field is the one that is found by its tag, the
tags fit into keys, and payloads have the layouts that their fields declare. -/
structure Sound (schema : Schema α) : Prop where
  found : ∀ field ∈ schema.fields, schema.field? field.tag = some field
  tag_pos : ∀ field ∈ schema.fields, 0 < field.tag
  tag_lt : ∀ field ∈ schema.fields, field.tag < 2 ^ 29
  layout : ∀ field ∈ schema.fields, ∀ message payload,
    field.payload? message = some payload → payload.wireType = field.wireType

/-- The wire can carry all that is written of the message. -/
def Fits (schema : Schema α) (message : α) : Prop :=
  ∀ field ∈ schema.fields, ∀ payload, field.payload? message = some payload → payload.Fits

/-- The message `base` with all that is written of another message. -/
def carry (schema : Schema α) (message base : α) : Except Fault α :=
  schema.fields.foldlM (fun base field => field.carry message base) base

theorem merge_nil (schema : Schema α) (message : α) : schema.merge message [] = .ok message := by
  rw [merge]

/-- Merging goes on with what the field behind the first key leaves. -/
theorem merge_of_decoded {key : Key} {bytes rest : List UInt8}
    (hkey : Key.decode bytes = .ok (key, rest)) :
    schema.merge base bytes =
      (schema.mergeField base key rest).bind fun read => schema.merge read.1 read.2 := by
  -- Merging looks at the bytes before it reads a key, and no key is read from none.
  rcases bytes with _ | ⟨b, tail⟩
  · exact absurd (Key.decode_shortens hkey) (Nat.not_lt_zero _)
  · rw [merge]
    split
    · simp_all
    · rename_i found after hfound
      obtain ⟨rfl, rfl⟩ : found = key ∧ after = rest := by simpa [hkey] using hfound.symm
      split
      · rename_i error herror
        simp only [herror, Except.bind]
      · rename_i merged left hmerged
        simp only [hmerged, Except.bind]

theorem merge_of_key {key : Key} {bytes rest rest' : List UInt8}
    (hkey : Key.decode bytes = .ok (key, rest))
    (hfield : schema.mergeField base key rest = .ok (merged, rest')) :
    schema.merge base bytes = schema.merge merged rest' := by
  rw [merge_of_decoded hkey, hfield, Except.bind]

/-- One field of a message, merged in front of other bytes. -/
theorem merge_encode_field (hsound : schema.Sound) (hfits : schema.Fits message) {field : Field α}
    (hfield : field ∈ schema.fields) (hcarry : field.carry message base = .ok merged)
    (rest : List UInt8) :
    schema.merge base (field.encode message ++ rest) = schema.merge merged rest := by
  rcases hpayload : field.payload? message with _ | payload
  · obtain rfl : base = merged := by simpa [Field.carry, hpayload] using hcarry
    rw [Field.encode_of_none hpayload, List.nil_append]
  · have hput : field.put base payload = .ok merged := by simpa [Field.carry, hpayload] using hcarry
    have hlayout := hsound.layout field hfield message payload hpayload
    have hspells := Key.spells_encode ⟨field.tag, payload.wireType⟩
      (hsound.tag_pos field hfield) (hsound.tag_lt field hfield)
    have hkey := Key.decode_of_spells hspells (payload.encode ++ rest)
    have hmerge := Field.merge_encode (hfits field hfield payload hpayload) hlayout hput rest
    rw [Field.encode_of_some hpayload, List.append_assoc]
    apply merge_of_key hkey
    simp [mergeField, hsound.found field hfield, hlayout, hmerge, Except.mapError]

/-- Some of the fields of a message, merged in front of other bytes. -/
theorem merge_flatMap_encode (hsound : schema.Sound) (hfits : schema.Fits message)
    {fields : List (Field α)} (hfields : ∀ field ∈ fields, field ∈ schema.fields)
    (hcarry : fields.foldlM (fun base field => field.carry message base) base = .ok merged)
    (rest : List UInt8) :
    schema.merge base (fields.flatMap (·.encode message) ++ rest) = schema.merge merged rest := by
  induction fields generalizing base with
  | nil =>
      cases hcarry
      rfl
  | cons field others ih =>
      simp only [List.foldlM_cons] at hcarry
      rcases hfirst : field.carry message base with fault | carried
      · simp [hfirst, bind, Except.bind] at hcarry
      · rw [List.flatMap_cons, List.append_assoc,
          merge_encode_field hsound hfits (hfields field List.mem_cons_self) hfirst]
        apply ih
        · intro other hother
          exact hfields other (List.mem_cons_of_mem field hother)
        · simpa [hfirst, bind, Except.bind] using hcarry

/-- Merging what was written of a message takes over what was written of it, whatever follows. -/
theorem merge_encode (hsound : schema.Sound) (hfits : schema.Fits message)
    (hcarry : schema.carry message base = .ok merged) (rest : List UInt8) :
    schema.merge base (schema.encode message ++ rest) = schema.merge merged rest :=
  merge_flatMap_encode hsound hfits (fun _ hfield => hfield) hcarry rest

theorem decode_encode (hsound : schema.Sound) (hfits : schema.Fits message)
    (hcarry : schema.carry message schema.blank = .ok merged) :
    schema.decode (schema.encode message) = .ok merged := by
  rw [decode, ← List.append_nil (schema.encode message), merge_encode hsound hfits hcarry, merge_nil]

end Schema

end TaskTail.Wire
