/-
The grammar of fields.  A number may be spelled in more than one way, a payload is as long as its layout
says, and a group is a run of whole fields between two keys with its tag.  Skipping passes over exactly
what the grammar calls a field, as long as its groups do not nest too deep, and over nothing else.
-/
import Mathlib.Tactic.Common
import TaskTail.Proofs.Wire.Varint
import TaskTail.Wire.Field

namespace TaskTail.Wire

theorem WireType.number_of_ofNumber? {n : Nat} {wireType : WireType}
    (hread : ofNumber? n = some wireType) : wireType.number = n := by
  unfold ofNumber? at hread
  split at hread <;> cases hread <;> rfl

/-- The bytes spell the number that stands for the key; keys have at most thirty-two bits. -/
structure Key.Spells (bytes : List UInt8) (key : Key) : Prop where
  number : Varint.Spells bytes (key.tag * 8 + key.wireType.number)
  tag_pos : 0 < key.tag
  tag_lt : key.tag < 2 ^ 29

theorem Key.spells_encode (key : Key) (hpos : 0 < key.tag) (hlt : key.tag < 2 ^ 29) :
    Key.Spells key.encode key := by
  have hnumber := key.wireType.number_lt
  have hsize : 2 ^ 32 < UInt64.size := by decide
  exact ⟨Varint.spells_encode (by omega), hpos, hlt⟩

theorem Key.decode_of_spells {bytes : List UInt8} {key : Key} (hspells : Key.Spells bytes key)
    (rest : List UInt8) : Key.decode (bytes ++ rest) = .ok (key, rest) := by
  have hnumber := key.wireType.number_lt
  have htag := hspells.tag_lt
  have hvalue : key.tag * 8 + key.wireType.number < UInt32.size := by
    rw [UInt32.size]
    omega
  have hlow : (key.tag * 8 + key.wireType.number) % 8 = key.wireType.number := by omega
  have hhigh : (key.tag * 8 + key.wireType.number) / 8 = key.tag := by omega
  simp only [Key.decode, Varint.decode?_of_spells hspells.number, if_neg (Nat.not_le.mpr hvalue),
    hlow, WireType.ofNumber?_number, hhigh, if_neg (Nat.pos_iff_ne_zero.mp hspells.tag_pos)]

theorem Key.exists_spells_of_decode {bytes rest : List UInt8} {key : Key}
    (hread : Key.decode bytes = .ok (key, rest)) :
    ∃ used, bytes = used ++ rest ∧ Key.Spells used key := by
  unfold Key.decode at hread
  split at hread
  · cases hread
  · rename_i value after hvalue
    obtain ⟨used, rfl, hused⟩ := Varint.exists_spells_of_decode? hvalue
    split at hread
    · cases hread
    · rename_i hsize
      split at hread
      · cases hread
      · rename_i wireType hlayout
        have hnumber := WireType.number_of_ofNumber? hlayout
        rw [UInt32.size] at hsize
        split at hread
        · cases hread
        · rename_i htag
          cases hread
          have hsum : value / 8 * 8 + wireType.number = value := by omega
          refine ⟨used, rfl, ?_, Nat.pos_of_ne_zero htag, by simp only; omega⟩
          simp only [hsum]
          exact hused

/-- A payload of the given layout that is no group. -/
inductive IsPlain : WireType → List UInt8 → Prop
  | varint {bytes : List UInt8} {n : Nat} : Varint.Spells bytes n → IsPlain .varint bytes
  | sixtyFourBit {bytes : List UInt8} : bytes.length = 8 → IsPlain .sixtyFourBit bytes
  | lengthDelimited {length data : List UInt8} :
      Varint.Spells length data.length → IsPlain .lengthDelimited (length ++ data)
  | thirtyTwoBit {bytes : List UInt8} : bytes.length = 4 → IsPlain .thirtyTwoBit bytes

/-- The bytes of one field.  A field takes one of `depth` levels, and the fields of a group take the
levels below it. -/
inductive IsField : (depth tag : Nat) → List UInt8 → Prop
  | plain {depth tag : Nat} {wireType : WireType} {key payload : List UInt8} :
      Key.Spells key ⟨tag, wireType⟩ → IsPlain wireType payload →
      IsField (depth + 1) tag (key ++ payload)
  | group {depth tag : Nat} {opening closing : List UInt8} {fields : List (Nat × List UInt8)} :
      Key.Spells opening ⟨tag, .startGroup⟩ →
      (∀ field ∈ fields, IsField depth field.1 field.2) →
      Key.Spells closing ⟨tag, .endGroup⟩ →
      IsField (depth + 1) tag (opening ++ fields.flatMap Prod.snd ++ closing)

/-- The bytes are whole fields, one after another. -/
def AreFields (bytes : List UInt8) : Prop :=
  ∃ fields : List (Nat × List UInt8), bytes = fields.flatMap Prod.snd ∧
    ∀ field ∈ fields, IsField maxDepth field.1 field.2

theorem areFields_nil : AreFields [] :=
  ⟨[], rfl, by simp⟩

theorem AreFields.cons {tag : Nat} {field bytes : List UInt8} (hfield : IsField maxDepth tag field)
    (hbytes : AreFields bytes) : AreFields (field ++ bytes) := by
  obtain ⟨fields, rfl, hfields⟩ := hbytes
  exact ⟨(tag, field) :: fields, rfl, List.forall_mem_cons.mpr ⟨hfield, hfields⟩⟩

theorem readNumber_of_spells {bytes : List UInt8} {n : Nat} (hspells : Varint.Spells bytes n)
    (rest : List UInt8) : readNumber (bytes ++ rest) = .ok (n, rest) := by
  simp only [readNumber, Varint.decode?_of_spells hspells]

theorem readRun_of_spells {length data : List UInt8} (hspells : Varint.Spells length data.length)
    (rest : List UInt8) : readRun (length ++ data ++ rest) = .ok (data, rest) := by
  simp [readRun, List.append_assoc, Varint.decode?_of_spells hspells]

theorem dropExactly_append (bytes rest : List UInt8) :
    dropExactly bytes.length (bytes ++ rest) = .ok rest := by
  simp [dropExactly]

theorem exists_of_readNumber {bytes rest : List UInt8} {n : Nat}
    (hread : readNumber bytes = .ok (n, rest)) :
    ∃ used, bytes = used ++ rest ∧ Varint.Spells used n := by
  unfold readNumber at hread
  split at hread
  · cases hread
  · rename_i read hvalue
    cases hread
    exact Varint.exists_spells_of_decode? hvalue

theorem exists_of_readRun {bytes data rest : List UInt8} (hread : readRun bytes = .ok (data, rest)) :
    ∃ length, bytes = length ++ data ++ rest ∧ Varint.Spells length data.length := by
  unfold readRun at hread
  split at hread
  · cases hread
  · rename_i count after hcount
    obtain ⟨length, rfl, hlength⟩ := Varint.exists_spells_of_decode? hcount
    split at hread
    · cases hread
    · rename_i hroom
      cases hread
      have htake : (after.take count).length = count := by
        rw [List.length_take]
        omega
      exact ⟨length, by rw [List.append_assoc, List.take_append_drop], by rwa [htake]⟩

theorem exists_of_dropExactly {count : Nat} {bytes rest : List UInt8}
    (hdrop : dropExactly count bytes = .ok rest) :
    ∃ used, bytes = used ++ rest ∧ used.length = count := by
  unfold dropExactly at hdrop
  split at hdrop
  · cases hdrop
  · cases hdrop
    refine ⟨bytes.take count, (List.take_append_drop count bytes).symm, ?_⟩
    rw [List.length_take]
    omega

theorem skipPayload_of_isPlain {wireType : WireType} {payload : List UInt8}
    (hplain : IsPlain wireType payload) (rest : List UInt8) :
    skipPayload wireType (payload ++ rest) = .ok rest := by
  cases hplain with
  | varint hspells => simp only [skipPayload, readNumber_of_spells hspells, Except.map]
  | lengthDelimited hspells => simp only [skipPayload, readRun_of_spells hspells, Except.map]
  | sixtyFourBit hlength | thirtyTwoBit hlength =>
      rw [skipPayload, ← hlength, dropExactly_append]

theorem exists_isPlain_of_skipPayload {wireType : WireType} {bytes rest : List UInt8}
    (hskip : skipPayload wireType bytes = .ok rest) :
    ∃ payload, bytes = payload ++ rest ∧ IsPlain wireType payload := by
  cases wireType with
  | varint =>
      rcases hread : readNumber bytes with fault | ⟨n, after⟩
      · simp [skipPayload, hread, Except.map] at hskip
      · obtain rfl : after = rest := by simpa [skipPayload, hread, Except.map] using hskip
        obtain ⟨used, heq, hused⟩ := exists_of_readNumber hread
        exact ⟨used, heq, .varint hused⟩
  | lengthDelimited =>
      rcases hread : readRun bytes with fault | ⟨data, after⟩
      · simp [skipPayload, hread, Except.map] at hskip
      · obtain rfl : after = rest := by simpa [skipPayload, hread, Except.map] using hskip
        obtain ⟨length, heq, hlength⟩ := exists_of_readRun hread
        exact ⟨length ++ data, heq, .lengthDelimited hlength⟩
  | sixtyFourBit =>
      obtain ⟨used, heq, hlength⟩ := exists_of_dropExactly hskip
      exact ⟨used, heq, .sixtyFourBit hlength⟩
  | thirtyTwoBit =>
      obtain ⟨used, heq, hlength⟩ := exists_of_dropExactly hskip
      exact ⟨used, heq, .thirtyTwoBit hlength⟩
  | startGroup | endGroup => cases hskip

theorem IsPlain.ne_startGroup {wireType : WireType} {payload : List UInt8}
    (hplain : IsPlain wireType payload) : wireType ≠ .startGroup := by
  rintro rfl
  cases hplain

theorem IsPlain.ne_endGroup {wireType : WireType} {payload : List UInt8}
    (hplain : IsPlain wireType payload) : wireType ≠ .endGroup := by
  rintro rfl
  cases hplain

section Groups

variable {tag : Nat} {outer : List Nat} {bytes rest : List UInt8}

/-- Within a group, what comes next is decided by the key at the front. -/
theorem skipGroups_of_key {key : Key} (hkey : Key.decode bytes = .ok (key, rest)) :
    skipGroups (tag :: outer) bytes =
      if key.wireType = .endGroup then
        if key.tag = tag then skipGroups outer rest else .error .unexpectedEndGroup
      else if maxDepth ≤ (tag :: outer).length then .error .recursionLimit
      else if key.wireType = .startGroup then skipGroups (key.tag :: tag :: outer) rest
      else (skipPayload key.wireType rest).bind (skipGroups (tag :: outer)) := by
  rw [skipGroups]
  split
  · rename_i fault hfault
    rw [hkey] at hfault
    cases hfault
  · rename_i found after hfound
    rw [hkey] at hfound
    cases hfound
    split
    · rfl
    · split
      · rfl
      · split
        · rfl
        · split <;> simp_all [Except.bind]

theorem skipGroups_flatMap {groups : List Nat} {fields : List (Nat × List UInt8)}
    (hfields : ∀ field ∈ fields, ∀ after,
      skipGroups groups (field.2 ++ after) = skipGroups groups after) (rest : List UInt8) :
    skipGroups groups (fields.flatMap Prod.snd ++ rest) = skipGroups groups rest := by
  induction fields with
  | nil => rfl
  | cons field others ih =>
      rw [List.flatMap_cons, List.append_assoc, hfields field List.mem_cons_self]
      exact ih fun other hother => hfields other (List.mem_cons_of_mem field hother)

/-- A field inside groups leaves no trace, as long as there are levels for it. -/
theorem IsField.skipGroups_append {depth : Nat} {field : List UInt8}
    (hfield : IsField depth tag field) {groups : List Nat} (hgroups : groups ≠ [])
    (hdepth : groups.length + depth ≤ maxDepth) (rest : List UInt8) :
    skipGroups groups (field ++ rest) = skipGroups groups rest := by
  induction hfield generalizing groups rest with
  | @plain depth tag wireType key payload hkey hplain =>
      obtain ⟨innermost, outer, rfl⟩ := List.exists_cons_of_ne_nil hgroups
      have hroom : ¬ maxDepth ≤ (innermost :: outer).length := by omega
      rw [List.append_assoc, skipGroups_of_key (Key.decode_of_spells hkey _),
        if_neg hplain.ne_endGroup, if_neg hroom, if_neg hplain.ne_startGroup,
        skipPayload_of_isPlain hplain, Except.bind]
  | @group depth tag opening closing fields hopening _ hclosing ih =>
      obtain ⟨innermost, outer, rfl⟩ := List.exists_cons_of_ne_nil hgroups
      have hroom : ¬ maxDepth ≤ (innermost :: outer).length := by omega
      have hinner : ∀ field ∈ fields, ∀ after, skipGroups (tag :: innermost :: outer)
          (field.2 ++ after) = skipGroups (tag :: innermost :: outer) after := by
        intro field hfield after
        apply ih field hfield (List.cons_ne_nil _ _)
        rw [List.length_cons]
        omega
      rw [List.append_assoc, List.append_assoc, skipGroups_of_key (Key.decode_of_spells hopening _),
        if_neg (by simp), if_neg hroom, if_pos rfl, skipGroups_flatMap hinner,
        skipGroups_of_key (Key.decode_of_spells hclosing _), if_pos rfl, if_pos rfl]

/-- The bytes end the groups with the given tags, the innermost first, and are followed by `rest`. -/
inductive ClosesGroups : (groups : List Nat) → (bytes rest : List UInt8) → Prop
  | done {rest : List UInt8} : ClosesGroups [] rest rest
  | close {tag : Nat} {outer : List Nat} {fields : List (Nat × List UInt8)}
      {closing bytes rest : List UInt8} :
      (∀ field ∈ fields, IsField (maxDepth - (tag :: outer).length) field.1 field.2) →
      Key.Spells closing ⟨tag, .endGroup⟩ → ClosesGroups outer bytes rest →
      ClosesGroups (tag :: outer) (fields.flatMap Prod.snd ++ closing ++ bytes) rest

/-- A field in front of what ends a group. -/
theorem ClosesGroups.cons {depth tag' : Nat} {field : List UInt8}
    (hcloses : ClosesGroups (tag :: outer) bytes rest)
    (hdepth : depth + 1 = maxDepth - (tag :: outer).length)
    (hfield : IsField (depth + 1) tag' field) :
    ClosesGroups (tag :: outer) (field ++ bytes) rest := by
  cases hcloses with
  | @close _ _ fields closing bytes _ hfields hclosing hafter =>
      have hall : ∀ other ∈ (tag', field) :: fields,
          IsField (maxDepth - (tag :: outer).length) other.1 other.2 :=
        List.forall_mem_cons.mpr ⟨hdepth ▸ hfield, hfields⟩
      have hclosed := ClosesGroups.close hall hclosing hafter
      rwa [List.flatMap_cons, List.append_assoc, List.append_assoc, ← List.append_assoc _ closing]
        at hclosed

/-- Skipping ends the groups that it is in, and nothing more. -/
theorem closesGroups_of_skipGroups {groups : List Nat} (hskip : skipGroups groups bytes = .ok rest) :
    ClosesGroups groups bytes rest := by
  fun_induction skipGroups groups bytes generalizing rest with
  | case1 bytes =>
      cases hskip
      exact .done
  | case3 bytes outer key after hkey _ hend ih =>
      obtain ⟨closing, rfl, hclosing⟩ := Key.exists_spells_of_decode hkey
      obtain ⟨tag, wireType⟩ := key
      obtain rfl : wireType = .endGroup := hend
      have hnone : ∀ field ∈ ([] : List (Nat × List UInt8)),
          IsField (maxDepth - (tag :: outer).length) field.1 field.2 := by
        intro field hfield
        cases hfield
      exact ClosesGroups.close hnone hclosing (ih hskip)
  | case6 bytes tag outer key after hkey _ _ hroom hstart ih =>
      obtain ⟨opening, rfl, hopening⟩ := Key.exists_spells_of_decode hkey
      obtain ⟨inner, wireType⟩ := key
      obtain rfl : wireType = .startGroup := hstart
      -- What follows ends the new group first, which makes it a field of the group around it.
      cases ih hskip with
      | close hfields hclosing houter =>
          have hdepth : maxDepth - (inner :: tag :: outer).length + 1 =
              maxDepth - (tag :: outer).length := by
            simp only [List.length_cons] at hroom ⊢
            omega
          have hclosed := houter.cons hdepth (IsField.group hopening hfields hclosing)
          simpa only [List.append_assoc] using hclosed
  | case8 bytes tag outer key after hkey _ _ hroom _ later hpayload _ ih =>
      obtain ⟨spelled, rfl, hspelled⟩ := Key.exists_spells_of_decode hkey
      obtain ⟨payload, rfl, hplain⟩ := exists_isPlain_of_skipPayload hpayload
      have hdepth : maxDepth - (tag :: outer).length - 1 + 1 = maxDepth - (tag :: outer).length := by
        omega
      have hclosed := (ih hskip).cons hdepth (IsField.plain hspelled hplain)
      rwa [List.append_assoc] at hclosed
  | _ => cases hskip

end Groups

/-- A field that is skipped for its unknown tag is a key and a payload that is passed over. -/
theorem IsField.exists_key {tag : Nat} {field : List UInt8} (hfield : IsField maxDepth tag field) :
    ∃ wireType key payload, field = key ++ payload ∧ Key.Spells key ⟨tag, wireType⟩ ∧
      (IsPlain wireType payload ∨ wireType = .startGroup) ∧
      ∀ rest, skipField ⟨tag, wireType⟩ (payload ++ rest) = .ok rest := by
  generalize hmax : maxDepth = depth at hfield
  cases hfield with
  | @plain depth _ wireType key payload hkey hplain =>
      refine ⟨wireType, key, payload, rfl, hkey, Or.inl hplain, ?_⟩
      intro rest
      rw [skipField, if_neg hplain.ne_startGroup, skipPayload_of_isPlain hplain]
  | @group depth _ opening closing fields hopening hfields hclosing =>
      refine ⟨.startGroup, opening, fields.flatMap Prod.snd ++ closing, by rw [List.append_assoc],
        hopening, Or.inr rfl, ?_⟩
      intro rest
      have hinner : ∀ field ∈ fields, ∀ after,
          skipGroups [tag] (field.2 ++ after) = skipGroups [tag] after := by
        intro field hfield after
        apply (hfields field hfield).skipGroups_append (List.cons_ne_nil _ _)
        rw [List.length_singleton]
        omega
      rw [skipField, if_pos rfl, List.append_assoc, skipGroups_flatMap hinner,
        skipGroups_of_key (Key.decode_of_spells hclosing _), if_pos rfl, if_pos rfl, skipGroups]

/-- What is skipped behind a key makes a field with it. -/
theorem exists_isField_of_skipField {key : Key} {spelled bytes rest : List UInt8}
    (hspelled : Key.Spells spelled key) (hskip : skipField key bytes = .ok rest) :
    ∃ payload, bytes = payload ++ rest ∧ IsField maxDepth key.tag (spelled ++ payload) := by
  obtain ⟨tag, wireType⟩ := key
  rw [skipField] at hskip
  split at hskip
  · rename_i hstart
    obtain rfl : wireType = .startGroup := hstart
    cases closesGroups_of_skipGroups hskip with
    | @close _ _ fields closing _ _ hfields hclosing hdone =>
        cases hdone
        refine ⟨fields.flatMap Prod.snd ++ closing, rfl, ?_⟩
        rw [← List.append_assoc]
        exact IsField.group hspelled hfields hclosing
  · obtain ⟨payload, heq, hplain⟩ := exists_isPlain_of_skipPayload hskip
    exact ⟨payload, heq, IsField.plain hspelled hplain⟩

end TaskTail.Wire
