/-
Both messages of a remote read come back from the wire, whatever they hold: any name of a task, any
numbers, negative ones included, any bytes and either flag.  The announced length is the number of bytes
that are written, and a field at its default takes none of them.
-/
import Mathlib.Tactic.Common
import TaskTail.Proofs.Wire.Schema
import TaskTail.Wire.Message

namespace TaskTail

open Wire

namespace Wire

theorem ofSigned_lt (value : Int64) : ofSigned value < UInt64.size :=
  value.toUInt64.toNat_lt_size

@[simp] theorem ofNat_ofSigned (value : Int64) : Int64.ofNat (ofSigned value) = value := by
  rw [ofSigned, ← UInt64.toInt64_ofNat', UInt64.ofNat_toNat, Int64.toInt64_toUInt64]

/-- The low half of the sixty-four bits is the number that was widened to them. -/
@[simp] theorem ofNat_ofSigned_toInt64 (value : Int32) :
    Int32.ofNat (ofSigned value.toInt64) = value := by
  have hnarrow : Int32.ofNat (ofSigned value.toInt64) = value.toInt64.toInt32 := by
    apply Int32.toBitVec_inj.mp
    rw [Int64.toBitVec_toInt32, BitVec.signExtend_eq_setWidth_of_le _ (by decide)]
    rfl
  rw [hnarrow, Int32.toInt32_toInt64]

theorem ofSigned_eq_zero_iff (value : Int64) : ofSigned value = 0 ↔ value = 0 := by
  constructor
  · intro hzero
    rw [← ofNat_ofSigned value, hzero]
    rfl
  · rintro rfl
    rfl

theorem ofSigned_toInt64_eq_zero_iff (value : Int32) : ofSigned value.toInt64 = 0 ↔ value = 0 := by
  constructor
  · intro hzero
    rw [← ofNat_ofSigned_toInt64 value, hzero]
    rfl
  · rintro rfl
    rfl

/-- A negative number takes ten bytes, because its sixty-fourth bit is set. -/
theorem length_ofSigned_of_neg {value : Int64} (hneg : value < 0) :
    Varint.length (ofSigned value) = 10 := by
  have hlt : ofSigned value < 128 ^ (9 + 1) := Nat.lt_trans (ofSigned_lt value) (by decide)
  have hge : ¬ ofSigned value < 128 ^ (8 + 1) := by
    rw [Int64.lt_iff_toInt_lt, ← Int64.toInt_toBitVec, BitVec.toInt_eq_toNat_cond] at hneg
    rw [ofSigned, ← UInt64.toNat_toBitVec, Int64.toBitVec_toUInt64]
    simp only [Int64.toInt_zero] at hneg
    split at hneg <;> omega
  rw [← Varint.length_le_iff] at hlt hge
  omega

theorem nonzero_eq_some_iff {value : Nat} {payload : Payload} :
    nonzero value = some payload ↔ value ≠ 0 ∧ payload = .number value := by
  by_cases hzero : value = 0
  · simp [nonzero, hzero]
  · simp [nonzero, hzero, eq_comm]

theorem nonempty_eq_some_iff {data : List UInt8} {payload : Payload} :
    nonempty data = some payload ↔ data ≠ [] ∧ payload = .bytes data := by
  by_cases hempty : data = []
  · simp [nonempty, hempty]
  · rw [nonempty, if_neg (by simpa using hempty)]
    simp [hempty, eq_comm]

theorem length_textBytes (s : String) : (textBytes s).length = s.utf8ByteSize :=
  Array.length_toList

theorem textBytes_eq_nil_iff (s : String) : textBytes s = [] ↔ s = "" := by
  rw [← List.length_eq_zero_iff, length_textBytes, String.utf8ByteSize_eq_zero_iff]

@[simp] theorem text?_textBytes (s : String) : text? (textBytes s) = some s := by
  have hbytes : (⟨(textBytes s).toArray⟩ : ByteArray) = s.toByteArray := by
    simp [textBytes]
  rw [text?, hbytes, String.fromUTF8?, dif_pos s.isValidUTF8]
  rfl

theorem Key.encode_of_lt {key : Key} (hkey : key.tag * 8 + key.wireType.number < 128) :
    key.encode = [UInt8.ofNat (key.tag * 8 + key.wireType.number)] := by
  rw [Key.encode, Varint.encode_of_lt hkey]

end Wire

namespace WireRequest

/-- The request `base` with what another request has that is not a default. -/
def overlay (base r : WireRequest) : WireRequest where
  task := if r.task = "" then base.task else r.task
  size := if r.size = 0 then base.size else r.size
  offset := if r.offset = 0 then base.offset else r.offset

theorem schema_sound : schema.Sound := by
  constructor
  case found => simp [schema, Schema.field?, taskField, sizeField, offsetField]
  case tag_pos => simp [schema, taskField, sizeField, offsetField]
  case tag_lt => simp [schema, taskField, sizeField, offsetField]
  case layout =>
    simp only [schema, List.forall_mem_cons, taskField, sizeField, offsetField,
      nonempty_eq_some_iff, nonzero_eq_some_iff]
    simp [Payload.wireType]

theorem schema_fits {r : WireRequest} (hsize : r.task.utf8ByteSize < UInt64.size) :
    schema.Fits r := by
  simp only [Schema.Fits, schema, List.forall_mem_cons, taskField, sizeField, offsetField,
    nonempty_eq_some_iff, nonzero_eq_some_iff]
  simp [Payload.Fits, length_textBytes, hsize, ofSigned_lt]

theorem payload?_taskField (r : WireRequest) : taskField.payload? r =
    if r.task = "" then none else some (.bytes (textBytes r.task)) := by
  simp only [taskField, nonempty, List.isEmpty_iff, textBytes_eq_nil_iff]

theorem payload?_sizeField (r : WireRequest) : sizeField.payload? r =
    if r.size = 0 then none else some (.number (ofSigned r.size.toInt64)) := by
  simp only [sizeField, nonzero, ofSigned_toInt64_eq_zero_iff]

theorem payload?_offsetField (r : WireRequest) : offsetField.payload? r =
    if r.offset = 0 then none else some (.number (ofSigned r.offset)) := by
  simp only [offsetField, nonzero, ofSigned_eq_zero_iff]

theorem carry_taskField (base r : WireRequest) : taskField.carry r base =
    .ok { base with task := if r.task = "" then base.task else r.task } := by
  rw [Field.carry_of_default (payload?_taskField r)]
  split
  · rfl
  · simp [taskField]

theorem carry_sizeField (base r : WireRequest) : sizeField.carry r base =
    .ok { base with size := if r.size = 0 then base.size else r.size } := by
  rw [Field.carry_of_default (payload?_sizeField r)]
  split
  · rfl
  · simp [sizeField]

theorem carry_offsetField (base r : WireRequest) : offsetField.carry r base =
    .ok { base with offset := if r.offset = 0 then base.offset else r.offset } := by
  rw [Field.carry_of_default (payload?_offsetField r)]
  split
  · rfl
  · simp [offsetField]

theorem carry_schema (base r : WireRequest) : schema.carry r base = .ok (base.overlay r) := by
  simp only [Schema.carry, schema, List.foldlM_cons, List.foldlM_nil, carry_taskField,
    carry_sizeField, carry_offsetField, bind, Except.bind, pure, Except.pure, overlay]

theorem overlay_blank (r : WireRequest) : schema.blank.overlay r = r := by
  have htask : (if r.task = "" then "" else r.task) = r.task := ite_eq_right_iff.mpr Eq.symm
  have hsize : (if r.size = 0 then 0 else r.size) = r.size := ite_eq_right_iff.mpr Eq.symm
  have hoffset : (if r.offset = 0 then 0 else r.offset) = r.offset := ite_eq_right_iff.mpr Eq.symm
  simp only [overlay, schema, htask, hsize, hoffset]

theorem decode_encode (r : WireRequest) (hsize : r.task.utf8ByteSize < UInt64.size) :
    decode r.encode = .ok r := by
  have hcarry : schema.carry r schema.blank = .ok r := by rw [carry_schema, overlay_blank]
  exact Schema.decode_encode schema_sound (schema_fits hsize) hcarry

theorem encode_taskField (r : WireRequest) : taskField.encode r =
    if r.task = "" then []
    else 0x0A :: (Varint.encode r.task.utf8ByteSize ++ textBytes r.task) := by
  have hkey : Key.encode ⟨taskField.tag, .lengthDelimited⟩ = [0x0A] := Key.encode_of_lt (by decide)
  simp only [Field.encode_of_default (payload?_taskField r), Payload.wireType, hkey, Payload.encode,
    length_textBytes, List.singleton_append]

theorem encode_sizeField (r : WireRequest) : sizeField.encode r =
    if r.size = 0 then [] else 0x10 :: Varint.encode (ofSigned r.size.toInt64) := by
  have hkey : Key.encode ⟨sizeField.tag, .varint⟩ = [0x10] := Key.encode_of_lt (by decide)
  simp only [Field.encode_of_default (payload?_sizeField r), Payload.wireType, hkey, Payload.encode,
    List.singleton_append]

theorem encode_offsetField (r : WireRequest) : offsetField.encode r =
    if r.offset = 0 then [] else 0x18 :: Varint.encode (ofSigned r.offset) := by
  have hkey : Key.encode ⟨offsetField.tag, .varint⟩ = [0x18] := Key.encode_of_lt (by decide)
  simp only [Field.encode_of_default (payload?_offsetField r), Payload.wireType, hkey,
    Payload.encode, List.singleton_append]

/-- The bytes of a request, field by field. -/
theorem encode_eq (r : WireRequest) : r.encode =
    (if r.task = "" then []
      else 0x0A :: (Varint.encode r.task.utf8ByteSize ++ textBytes r.task)) ++
    (if r.size = 0 then [] else 0x10 :: Varint.encode (ofSigned r.size.toInt64)) ++
    (if r.offset = 0 then [] else 0x18 :: Varint.encode (ofSigned r.offset)) := by
  rw [← encode_taskField, ← encode_sizeField, ← encode_offsetField]
  simp [encode, Schema.encode, schema, List.append_assoc]

theorem length_encode (r : WireRequest) : r.encode.length = r.encodedLength := by
  have htask : (taskField.encode r).length = if r.task.utf8ByteSize = 0 then 0
      else 1 + Varint.length r.task.utf8ByteSize + r.task.utf8ByteSize := by
    simp only [encode_taskField, String.utf8ByteSize_eq_zero_iff]
    split
    · rfl
    · simp only [List.length_cons, List.length_append, Varint.length_encode, length_textBytes]
      omega
  have hsize : (sizeField.encode r).length = numberLength (ofSigned r.size.toInt64) := by
    simp only [encode_sizeField, numberLength, ofSigned_toInt64_eq_zero_iff]
    split
    · rfl
    · simp [Varint.length_encode, Nat.add_comm]
  have hoffset : (offsetField.encode r).length = numberLength (ofSigned r.offset) := by
    simp only [encode_offsetField, numberLength, ofSigned_eq_zero_iff]
    split
    · rfl
    · simp [Varint.length_encode, Nat.add_comm]
  rw [encodedLength, ← htask, ← hsize, ← hoffset]
  simp [encode, Schema.encode, schema, Nat.add_assoc]

end WireRequest

namespace WireReply

/-- The reply `base` with what another reply has that is not a default. -/
def overlay (base r : WireReply) : WireReply where
  data := if r.data.size = 0 then base.data else r.data
  endOfFile := if r.endOfFile = false then base.endOfFile else r.endOfFile

theorem schema_sound : schema.Sound := by
  constructor
  case found => simp [schema, Schema.field?, dataField, endField]
  case tag_pos => simp [schema, dataField, endField]
  case tag_lt => simp [schema, dataField, endField]
  case layout =>
    simp only [schema, List.forall_mem_cons, dataField, endField, nonempty_eq_some_iff,
      nonzero_eq_some_iff]
    simp [Payload.wireType]

theorem schema_fits {r : WireReply} (hsize : r.data.size < UInt64.size) : schema.Fits r := by
  simp only [Schema.Fits, schema, List.forall_mem_cons, dataField, endField, nonempty_eq_some_iff,
    nonzero_eq_some_iff]
  have hflag : r.endOfFile.toNat < UInt64.size :=
    Nat.lt_of_le_of_lt (Bool.toNat_le r.endOfFile) (by decide)
  simp [Payload.Fits, hsize, hflag]

theorem payload?_dataField (r : WireReply) : dataField.payload? r =
    if r.data.size = 0 then none else some (.bytes r.data.data.toList) := by
  have hempty : r.data.data.toList = [] ↔ r.data.size = 0 := List.length_eq_zero_iff.symm
  simp only [dataField, nonempty, List.isEmpty_iff, hempty]

theorem payload?_endField (r : WireReply) : endField.payload? r =
    if r.endOfFile = false then none else some (.number 1) := by
  rcases hflag : r.endOfFile with _ | _ <;> simp [endField, nonzero, hflag]

theorem carry_dataField (base r : WireReply) : dataField.carry r base =
    .ok { base with data := if r.data.size = 0 then base.data else r.data } := by
  rw [Field.carry_of_default (payload?_dataField r)]
  split
  · rfl
  · simp [dataField]

theorem carry_endField (base r : WireReply) : endField.carry r base =
    .ok { base with endOfFile := if r.endOfFile = false then base.endOfFile else r.endOfFile } := by
  rw [Field.carry_of_default (payload?_endField r)]
  rcases r.endOfFile with _ | _ <;> rfl

theorem carry_schema (base r : WireReply) : schema.carry r base = .ok (base.overlay r) := by
  simp only [Schema.carry, schema, List.foldlM_cons, List.foldlM_nil, carry_dataField,
    carry_endField, bind, Except.bind, pure, Except.pure, overlay]

theorem overlay_blank (r : WireReply) : schema.blank.overlay r = r := by
  have hdata : (if r.data.size = 0 then ByteArray.empty else r.data) = r.data := by
    apply ite_eq_right_iff.mpr
    intro hempty
    exact (ByteArray.ext (Array.eq_empty_of_size_eq_zero hempty)).symm
  have hflag : (if r.endOfFile = false then false else r.endOfFile) = r.endOfFile :=
    ite_eq_right_iff.mpr Eq.symm
  simp only [overlay, schema, hdata, hflag]

theorem decode_encode (r : WireReply) (hsize : r.data.size < UInt64.size) :
    decode r.encode = .ok r := by
  have hcarry : schema.carry r schema.blank = .ok r := by rw [carry_schema, overlay_blank]
  exact Schema.decode_encode schema_sound (schema_fits hsize) hcarry

theorem encode_dataField (r : WireReply) : dataField.encode r =
    if r.data.size = 0 then [] else 0x0A :: (Varint.encode r.data.size ++ r.data.data.toList) := by
  have hlength : r.data.data.toList.length = r.data.size := rfl
  have hkey : Key.encode ⟨dataField.tag, .lengthDelimited⟩ = [0x0A] := Key.encode_of_lt (by decide)
  simp only [Field.encode_of_default (payload?_dataField r), Payload.wireType, hkey, Payload.encode,
    hlength, List.singleton_append]

theorem encode_endField (r : WireReply) :
    endField.encode r = if r.endOfFile = false then [] else [0x10, 0x01] := by
  have hkey : Key.encode ⟨endField.tag, .varint⟩ = [0x10] := Key.encode_of_lt (by decide)
  have hone : Varint.encode 1 = [0x01] := Varint.encode_of_lt (by decide)
  simp only [Field.encode_of_default (payload?_endField r), Payload.wireType, hkey, Payload.encode,
    hone, List.singleton_append]

/-- The bytes of a reply, field by field. -/
theorem encode_eq (r : WireReply) : r.encode =
    (if r.data.size = 0 then [] else 0x0A :: (Varint.encode r.data.size ++ r.data.data.toList)) ++
    (if r.endOfFile = false then [] else [0x10, 0x01]) := by
  rw [← encode_dataField, ← encode_endField]
  simp [encode, Schema.encode, schema]

theorem length_encode (r : WireReply) : r.encode.length =
    (if r.data.size = 0 then 0 else 1 + (Varint.encode r.data.size).length + r.data.size) +
    (if r.endOfFile then 2 else 0) := by
  have hlength : r.data.data.toList.length = r.data.size := rfl
  rw [encode_eq, List.length_append]
  congr 1
  · split
    · rfl
    · simp only [List.length_cons, List.length_append, hlength]
      omega
  · rcases r.endOfFile with _ | _ <;> rfl

theorem length_encode_eq_encodedLength (r : WireReply) : r.encode.length = r.encodedLength := by
  rw [length_encode, encodedLength, Varint.length_encode]
  simp [ByteArray.isEmpty]

end WireReply

/-- A length on the wire has at most sixty-four bits, which is all that is asked of the two messages.
A request takes the name of its task as a tag, the number of its bytes and the bytes, and each of its
numbers as a tag and a spelling that is ten bytes long when the number is negative. -/
theorem Wire.messages_come_back :
    (∀ r : WireRequest,
      (r.task.utf8ByteSize < UInt64.size → WireRequest.decode r.encode = .ok r) ∧
      r.encode.length = r.encodedLength ∧
      r.encode =
        (if r.task = "" then []
          else 0x0A :: (Varint.encode r.task.utf8ByteSize ++ textBytes r.task)) ++
        (if r.size = 0 then [] else 0x10 :: Varint.encode (ofSigned r.size.toInt64)) ++
        (if r.offset = 0 then [] else 0x18 :: Varint.encode (ofSigned r.offset)) ∧
      (r.size < 0 → (Varint.encode (ofSigned r.size.toInt64)).length = 10) ∧
      (r.offset < 0 → (Varint.encode (ofSigned r.offset)).length = 10)) ∧
    (∀ r : WireReply,
      (r.data.size < UInt64.size → WireReply.decode r.encode = .ok r) ∧
      r.encode.length = r.encodedLength ∧
      r.encode =
        (if r.data.size = 0 then []
          else 0x0A :: (Varint.encode r.data.size ++ r.data.data.toList)) ++
        (if r.endOfFile = false then [] else [0x10, 0x01])) := by
  constructor
  · intro r
    refine ⟨r.decode_encode, r.length_encode, r.encode_eq, ?_, ?_⟩
    · intro hneg
      rw [Varint.length_encode, length_ofSigned_of_neg]
      simpa [Int64.lt_iff_toInt_lt, Int32.lt_iff_toInt_lt] using hneg
    · intro hneg
      rw [Varint.length_encode, length_ofSigned_of_neg hneg]
  · intro r
    exact ⟨r.decode_encode, r.length_encode_eq_encodedLength, r.encode_eq⟩

/-- A name that begins with a NUL, numbers that fill all their bits, and bytes that are not a text. -/
theorem Wire.messages_come_back_extreme :
    WireRequest.decode (WireRequest.encode ⟨"\x00é", -1, Int64.minValue⟩) =
      .ok ⟨"\x00é", -1, Int64.minValue⟩ ∧
    (WireRequest.encode ⟨"\x00é", -1, Int64.minValue⟩).length = 5 + 11 + 11 ∧
    WireReply.decode (WireReply.encode ⟨⟨#[0xFF, 0x00]⟩, true⟩) = .ok ⟨⟨#[0xFF, 0x00]⟩, true⟩ := by
  obtain ⟨hrequest, hlength, -⟩ :=
    Wire.messages_come_back.1 ⟨"\x00é", -1, Int64.minValue⟩
  refine ⟨hrequest (by decide), hlength.trans (by decide +kernel), ?_⟩
  exact (Wire.messages_come_back.2 ⟨⟨#[0xFF, 0x00]⟩, true⟩).1 (by decide)

end TaskTail
