/-
Messages with more in them than one side knows.  The bytes of two messages, one after the other, are read
as the first with all that the second says; a field with a tag that a type of messages does not declare
may stand anywhere between two fields and leaves no trace.  So a newer writer may add fields, and an older
one may leave them out.
-/
import Mathlib.Tactic.Common
import TaskTail.Proofs.Wire.Grammar
import TaskTail.Proofs.Wire.Message

namespace TaskTail.Wire

variable {α : Type}

/-- What a field makes of its payload does not depend on what follows. -/
theorem Field.exists_merge {field : Field α} {payload : List UInt8} {wireType : WireType}
    (hpayload : IsPlain wireType payload ∨ wireType = .startGroup)
    (hlayout : wireType = field.wireType) (base : α) :
    ∃ outcome : Except Fault α, ∀ rest,
      field.merge base (payload ++ rest) = outcome.map (·, rest) := by
  subst hlayout
  rcases hpayload with hplain | hgroup
  · generalize hwire : field.wireType = wireType at hplain
    cases hplain with
    | @varint _ n hspells =>
        refine ⟨field.put base (.number n), fun rest => ?_⟩
        simp only [merge, hwire, readNumber_of_spells hspells]
    | @lengthDelimited length data hspells =>
        refine ⟨field.put base (.bytes data), fun rest => ?_⟩
        simp only [merge, hwire, readRun_of_spells hspells]
    | sixtyFourBit | thirtyTwoBit => exact ⟨.error _, fun rest => by simp only [merge, hwire]; rfl⟩
  · exact ⟨.error _, fun rest => by simp only [merge, hgroup]; rfl⟩

/-- What a field takes for its value is the payload of its layout. -/
theorem Field.exists_isPlain_of_merge {field : Field α} {base merged : α} {bytes rest : List UInt8}
    (hmerge : field.merge base bytes = .ok (merged, rest)) :
    ∃ payload, bytes = payload ++ rest ∧ IsPlain field.wireType payload := by
  rw [merge] at hmerge
  split at hmerge
  · rename_i hwire
    rcases hread : readNumber bytes with fault | ⟨n, after⟩
    · simp [hread] at hmerge
    · simp only [hread] at hmerge
      rcases hput : field.put base (.number n) with fault | put
      · simp [hput, Except.map] at hmerge
      · obtain ⟨-, rfl⟩ : put = merged ∧ after = rest := by simpa [hput, Except.map] using hmerge
        obtain ⟨used, heq, hused⟩ := exists_of_readNumber hread
        exact ⟨used, heq, hwire ▸ .varint hused⟩
  · rename_i hwire
    rcases hread : readRun bytes with fault | ⟨data, after⟩
    · simp [hread] at hmerge
    · simp only [hread] at hmerge
      rcases hput : field.put base (.bytes data) with fault | put
      · simp [hput, Except.map] at hmerge
      · obtain ⟨-, rfl⟩ : put = merged ∧ after = rest := by simpa [hput, Except.map] using hmerge
        obtain ⟨length, heq, hlength⟩ := exists_of_readRun hread
        exact ⟨length ++ data, heq, hwire ▸ .lengthDelimited hlength⟩
  · cases hmerge

namespace Schema

variable {schema : Schema α} {base merged : α} {tag : Nat} {field bytes before after : List UInt8}

theorem exists_mergeField (schema : Schema α) {wireType : WireType} {payload : List UInt8}
    (hpayload : IsPlain wireType payload ∨ wireType = .startGroup)
    (hskip : ∀ rest, skipField ⟨tag, wireType⟩ (payload ++ rest) = .ok rest) (base : α) :
    ∃ outcome : Except DecodeError α, ∀ rest,
      schema.mergeField base ⟨tag, wireType⟩ (payload ++ rest) = outcome.map (·, rest) := by
  rcases hfound : schema.field? tag with _ | known
  · refine ⟨.ok base, fun rest => ?_⟩
    simp only [mergeField, hfound, hskip]
    rfl
  · by_cases hlayout : wireType = known.wireType
    · obtain ⟨outcome, hmerge⟩ := Field.exists_merge hpayload hlayout base
      refine ⟨outcome.mapError (schema.errorIn known), fun rest => ?_⟩
      simp only [mergeField, hfound, if_pos hlayout, hmerge]
      cases outcome <;> rfl
    · refine ⟨.error (schema.errorIn known (.wireTypeMismatch wireType known.wireType)),
        fun rest => ?_⟩
      simp only [mergeField, hfound, if_neg hlayout]
      rfl

/-- What a field does to a message, or the fault in it, does not depend on what follows. -/
theorem exists_merge_field (schema : Schema α) (hfield : IsField maxDepth tag field) (base : α) :
    ∃ outcome : Except DecodeError α, ∀ rest,
      schema.merge base (field ++ rest) = outcome.bind (schema.merge · rest) := by
  obtain ⟨wireType, key, payload, rfl, hkey, hpayload, hskip⟩ := hfield.exists_key
  obtain ⟨outcome, hmerge⟩ := exists_mergeField schema hpayload hskip base
  refine ⟨outcome, fun rest => ?_⟩
  rw [List.append_assoc, merge_of_decoded (Key.decode_of_spells hkey _), hmerge]
  cases outcome <;> rfl

theorem exists_merge_fields (schema : Schema α) (hbytes : AreFields bytes) (base : α) :
    ∃ outcome : Except DecodeError α, ∀ rest,
      schema.merge base (bytes ++ rest) = outcome.bind (schema.merge · rest) := by
  obtain ⟨fields, rfl, hfields⟩ := hbytes
  induction fields generalizing base with
  | nil => exact ⟨.ok base, fun rest => rfl⟩
  | cons first others ih =>
      obtain ⟨hfirst, hothers⟩ := List.forall_mem_cons.mp hfields
      obtain ⟨outcome, hmerge⟩ := exists_merge_field schema hfirst base
      rcases outcome with error | merged
      · refine ⟨.error error, fun rest => ?_⟩
        rw [List.flatMap_cons, List.append_assoc, hmerge]
        rfl
      · obtain ⟨later, hlater⟩ := ih merged hothers
        refine ⟨later, fun rest => ?_⟩
        rw [List.flatMap_cons, List.append_assoc, hmerge, ← hlater]
        rfl

/-- A field that the type does not declare leaves no trace. -/
theorem merge_unknown (hfield : IsField maxDepth tag field) (hunknown : schema.field? tag = none)
    (base : α) (rest : List UInt8) : schema.merge base (field ++ rest) = schema.merge base rest := by
  obtain ⟨wireType, key, payload, rfl, hkey, -, hskip⟩ := hfield.exists_key
  rw [List.append_assoc]
  apply merge_of_key (Key.decode_of_spells hkey _)
  simp only [mergeField, hunknown, hskip]
  rfl

/-- It leaves none between two fields either, whether or not the bytes can be read. -/
theorem decode_insert (hbefore : AreFields before) (hfield : IsField maxDepth tag field)
    (hunknown : schema.field? tag = none) (after : List UInt8) :
    schema.decode (before ++ field ++ after) = schema.decode (before ++ after) := by
  obtain ⟨outcome, hmerge⟩ := exists_merge_fields schema hbefore schema.blank
  simp only [decode, List.append_assoc, hmerge, merge_unknown hfield hunknown]

theorem exists_isField_of_mergeField {key : Key} {spelled rest : List UInt8}
    (hspelled : Key.Spells spelled key)
    (hmerge : schema.mergeField base key bytes = .ok (merged, rest)) :
    ∃ payload, bytes = payload ++ rest ∧ IsField maxDepth key.tag (spelled ++ payload) := by
  rw [mergeField] at hmerge
  split at hmerge
  · rename_i known _
    split at hmerge
    · rename_i hlayout
      rcases hvalue : known.merge base bytes with fault | ⟨value, later⟩
      · rw [hvalue] at hmerge
        cases hmerge
      · rw [hvalue] at hmerge
        cases hmerge
        obtain ⟨payload, heq, hplain⟩ := Field.exists_isPlain_of_merge hvalue
        rw [← hlayout] at hplain
        exact ⟨payload, heq, IsField.plain hspelled hplain⟩
    · cases hmerge
  · rcases hskip : skipField key bytes with fault | later
    · rw [hskip] at hmerge
      cases hmerge
    · rw [hskip] at hmerge
      cases hmerge
      exact exists_isField_of_skipField hspelled hskip

/-- Whatever can be read as a message is whole fields. -/
theorem areFields_of_merge (hmerge : schema.merge base bytes = .ok merged) : AreFields bytes := by
  fun_induction schema.merge base bytes with
  | case1 => exact areFields_nil
  | case4 base b tail key rest hkey _ next later hfield _ ih =>
      obtain ⟨spelled, heq, hspelled⟩ := Key.exists_spells_of_decode hkey
      obtain ⟨payload, rfl, hwhole⟩ := exists_isField_of_mergeField hspelled hfield
      rw [heq, ← List.append_assoc]
      exact (ih hmerge).cons hwhole
  | _ => cases hmerge

/-- The bytes of two messages are read as the first, and then all that is written of the second. -/
theorem decode_encode_append {first second : α} (hsound : schema.Sound)
    (hfirst : schema.Fits first) (hsecond : schema.Fits second)
    (hcarry : schema.carry first schema.blank = .ok base)
    (hcarry' : schema.carry second base = .ok merged) :
    schema.decode (schema.encode first ++ schema.encode second) = .ok merged := by
  rw [decode, merge_encode hsound hfirst hcarry, ← List.append_nil (schema.encode second),
    merge_encode hsound hsecond hcarry', merge_nil]

theorem field?_eq_none_of_notMem (htag : tag ∉ schema.fields.map Field.tag) :
    schema.field? tag = none := by
  rw [field?, List.find?_eq_none]
  intro field hfield
  simpa using fun heq => htag (List.mem_map.mpr ⟨field, hfield, heq⟩)

end Schema

end Wire

open Wire

theorem WireRequest.decode_encode_append {a b : WireRequest}
    (ha : a.task.utf8ByteSize < UInt64.size) (hb : b.task.utf8ByteSize < UInt64.size) :
    decode (a.encode ++ b.encode) = .ok (a.overlay b) := by
  have hblank : schema.carry a schema.blank = .ok a := by rw [carry_schema, overlay_blank]
  exact Schema.decode_encode_append schema_sound (schema_fits ha) (schema_fits hb) hblank
    (carry_schema a b)

theorem WireReply.decode_encode_append {a b : WireReply}
    (ha : a.data.size < UInt64.size) (hb : b.data.size < UInt64.size) :
    decode (a.encode ++ b.encode) = .ok (a.overlay b) := by
  have hblank : schema.carry a schema.blank = .ok a := by rw [carry_schema, overlay_blank]
  exact Schema.decode_encode_append schema_sound (schema_fits ha) (schema_fits hb) hblank
    (carry_schema a b)

/-- Of two messages in a row, the second has the word wherever it is not at a default.  What can be read
is a run of whole fields, and between any two of them, or at either end, another one may be put as long as
its tag is none of those that are declared. -/
theorem Wire.messages_evolve :
    (∀ a b : WireRequest,
      a.task.utf8ByteSize < UInt64.size → b.task.utf8ByteSize < UInt64.size →
      WireRequest.decode (a.encode ++ b.encode) = .ok
        { task := if b.task = "" then a.task else b.task
          size := if b.size = 0 then a.size else b.size
          offset := if b.offset = 0 then a.offset else b.offset }) ∧
    (∀ a b : WireReply, a.data.size < UInt64.size → b.data.size < UInt64.size →
      WireReply.decode (a.encode ++ b.encode) = .ok
        { data := if b.data.size = 0 then a.data else b.data
          endOfFile := if b.endOfFile = false then a.endOfFile else b.endOfFile }) ∧
    (∀ bytes request, WireRequest.decode bytes = .ok request →
      AreFields bytes ∧
      ∀ before after field tag, bytes = before ++ after → AreFields before →
        tag ∉ [1, 2, 3] → IsField maxDepth tag field →
        WireRequest.decode (before ++ field ++ after) = .ok request) ∧
    (∀ bytes reply, WireReply.decode bytes = .ok reply →
      AreFields bytes ∧
      ∀ before after field tag, bytes = before ++ after → AreFields before →
        tag ∉ [1, 2] → IsField maxDepth tag field →
        WireReply.decode (before ++ field ++ after) = .ok reply) := by
  refine ⟨?_, ?_, ?_, ?_⟩
  · intro a b ha hb
    exact WireRequest.decode_encode_append ha hb
  · intro a b ha hb
    exact WireReply.decode_encode_append ha hb
  · intro bytes request hread
    refine ⟨Schema.areFields_of_merge hread, ?_⟩
    rintro before after field tag rfl hbefore htag hfield
    have hunknown : WireRequest.schema.field? tag = none := Schema.field?_eq_none_of_notMem htag
    exact (Schema.decode_insert hbefore hfield hunknown after).trans hread
  · intro bytes reply hread
    refine ⟨Schema.areFields_of_merge hread, ?_⟩
    rintro before after field tag rfl hbefore htag hfield
    have hunknown : WireReply.schema.field? tag = none := Schema.field?_eq_none_of_notMem htag
    exact (Schema.decode_insert hbefore hfield hunknown after).trans hread

/-- A newer request without a name, and a group of unknown fields between the fields of a reply: a run of
four bytes, and an empty group whose key is spelled with one byte more than it needs. -/
theorem Wire.messages_evolve_nested :
    WireRequest.decode (WireRequest.encode ⟨"t", 5, 7⟩ ++ WireRequest.encode ⟨"", 0, -1⟩) =
      .ok ⟨"t", 5, -1⟩ ∧
    WireReply.decode ([0x0A, 1, 0xFF] ++ [0x1B, 0x0D, 1, 2, 3, 4, 0x93, 0, 0x14, 0x1C] ++ [0x10, 1]) =
      .ok ⟨⟨#[0xFF]⟩, true⟩ := by
  obtain ⟨hrequests, -, -, hreply⟩ := messages_evolve
  refine ⟨hrequests ⟨"t", 5, 7⟩ ⟨"", 0, -1⟩ (by decide) (by decide), ?_⟩
  have hread : WireReply.decode [0x0A, 1, 0xFF, 0x10, 1] = .ok ⟨⟨#[0xFF]⟩, true⟩ := by
    decide +kernel
  have hsmall : ∀ b : UInt8, b < 128 → Varint.Spells [b] b.toNat := fun b hb =>
    ⟨.last hb, by simp, Nat.lt_trans b.toNat_lt (by decide)⟩
  have hdataKey : Key.Spells [0x0A] ⟨1, .lengthDelimited⟩ :=
    ⟨hsmall 0x0A (by decide), by decide, by decide⟩
  have hfixedKey : Key.Spells [0x0D] ⟨1, .thirtyTwoBit⟩ :=
    ⟨hsmall 0x0D (by decide), by decide, by decide⟩
  have hlongKey : Key.Spells [0x93, 0] ⟨2, .startGroup⟩ :=
    ⟨⟨.more (by decide) (.last (by decide)), by decide, by decide⟩, by decide, by decide⟩
  have hlongEnd : Key.Spells [0x14] ⟨2, .endGroup⟩ :=
    ⟨hsmall 0x14 (by decide), by decide, by decide⟩
  have hstart : Key.Spells [0x1B] ⟨3, .startGroup⟩ :=
    ⟨hsmall 0x1B (by decide), by decide, by decide⟩
  have hend : Key.Spells [0x1C] ⟨3, .endGroup⟩ := ⟨hsmall 0x1C (by decide), by decide, by decide⟩
  have hrun : IsPlain .lengthDelimited ([1] ++ [0xFF]) :=
    .lengthDelimited (hsmall 1 (by decide))
  have hdata : IsField maxDepth 1 [0x0A, 1, 0xFF] := .plain hdataKey hrun
  have hnone : ∀ field ∈ ([] : List (Nat × List UInt8)), IsField 98 field.1 field.2 := by simp
  have hinner : ∀ field ∈ [(1, [0x0D, 1, 2, 3, 4]), (2, [0x93, 0, 0x14])],
      IsField 99 field.1 field.2 := by
    simp only [List.forall_mem_cons, List.not_mem_nil, false_implies, implies_true, and_true]
    exact ⟨.plain hfixedKey (.thirtyTwoBit rfl), .group hlongKey hnone hlongEnd⟩
  have hgroup : IsField maxDepth 3 [0x1B, 0x0D, 1, 2, 3, 4, 0x93, 0, 0x14, 0x1C] :=
    .group hstart hinner hend
  have hbefore : AreFields [0x0A, 1, 0xFF] := AreFields.cons hdata areFields_nil
  exact (hreply _ _ hread).2 [0x0A, 1, 0xFF] [0x10, 1] _ 3 rfl hbefore (by decide) hgroup

end TaskTail
