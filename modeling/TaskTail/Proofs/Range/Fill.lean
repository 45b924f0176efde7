/-
What a fill leaves in its buffer.  A file may hold bytes that are still growing, and its reads may be
interrupted, fall short or fail.  Whatever of a content the reads give, the buffer holds without gap or
repetition; and as long as no read fails, the fill ends full or at the end of the content.
-/
import Mathlib.Tactic.Common
import TaskTail.Range.Fill

namespace TaskTail

/-- The bytes that `content` holds from `position` on, at most `room` of them. -/
def IsPart (content : ByteArray) (position room : Nat) (data : ByteArray) : Prop :=
  data.size ≤ room ∧ data = content.extract position (position + data.size)

theorem isEmpty_iff {data : ByteArray} : data.isEmpty = true ↔ data = .empty := by
  rw [ByteArray.isEmpty, beq_iff_eq, ByteArray.size_eq_zero_iff]

/-- Bytes can only be taken up to the end. -/
theorem extract_min (content : ByteArray) (i j : Nat) :
    content.extract i j = content.extract i (min j content.size) := by
  conv_lhs => rw [← ByteArray.extract_zero_size (b := content), ByteArray.extract_extract]
  simp only [Nat.zero_add]

/-- What is appended does not change what was there before. -/
theorem extract_append_of_le {content : ByteArray} {i j : Nat} (hle : j ≤ i ∨ j ≤ content.size)
    (more : ByteArray) : (content ++ more).extract i j = content.extract i j := by
  have hrest : more.extract (i - content.size) (j - content.size) = .empty := by
    rw [ByteArray.extract_eq_empty_iff]
    omega
  rw [ByteArray.extract_append, hrest, ByteArray.append_empty]

/-- Pieces of bytes, one after another. -/
def joined (pieces : List ByteArray) : ByteArray :=
  pieces.foldr (fun piece rest => piece ++ rest) .empty

@[simp] theorem joined_nil : joined [] = .empty := rfl

theorem joined_cons (piece : ByteArray) (rest : List ByteArray) :
    joined (piece :: rest) = piece ++ joined rest := rfl

@[simp] theorem joined_singleton (piece : ByteArray) : joined [piece] = piece :=
  ByteArray.append_empty

theorem isPart_extract (content : ByteArray) (position room : Nat) :
    IsPart content position room (content.extract position (position + room)) := by
  have hsize := ByteArray.size_extract (a := content) (b := position) (e := position + room)
  constructor
  · omega
  · rw [hsize]
    by_cases hle : position ≤ content.size
    · rw [extract_min]
      congr 1
      omega
    · have hend : position + (min (position + room) content.size - position) = position := by
        omega
      rw [hend, ByteArray.extract_same, ByteArray.extract_eq_empty_iff]
      omega

theorem isPart_empty (content : ByteArray) (position room : Nat) :
    IsPart content position room .empty := by
  simp [IsPart]

theorem IsPart.add_size_le {content data : ByteArray} {position room : Nat}
    (hpart : IsPart content position room data) (hpos : 0 < data.size) :
    position + data.size ≤ content.size := by
  have hsize := congrArg ByteArray.size hpart.2
  rw [ByteArray.size_extract] at hsize
  omega

/-- A part that starts at or after the end of the content is empty. -/
theorem IsPart.eq_empty {content data : ByteArray} {position room : Nat}
    (hpart : IsPart content position room data) (hle : content.size ≤ position) :
    data = .empty := by
  rw [← ByteArray.size_eq_zero_iff]
  by_contra hne
  have := hpart.add_size_le (Nat.pos_of_ne_zero hne)
  omega

/-- A part and the part right after it make one part. -/
theorem IsPart.append {content first second : ByteArray} {position room : Nat}
    (hfirst : IsPart content position room first)
    (hsecond : IsPart content (position + first.size) (room - first.size) second) :
    IsPart content position room (first ++ second) := by
  constructor
  · have := hfirst.1
    have := hsecond.1
    rw [ByteArray.size_append]
    omega
  · rw [ByteArray.size_append, ← Nat.add_assoc,
      ByteArray.extract_eq_extract_append_extract (position + first.size) (by omega) (by omega),
      ← hfirst.2, ← hsecond.2]

namespace ReadOutcome

/-- The read gives nothing but part of `content`; it may also be interrupted or fail. -/
def Within (content : ByteArray) (position room : Nat) : ReadOutcome → Prop
  | bytes data => IsPart content position room data
  | interrupted | failed _ => True

/-- The read does not fail, and gives something when `content` goes on at `position`. -/
def Useful (content : ByteArray) (position : Nat) : ReadOutcome → Prop
  | bytes data => position < content.size → data ≠ .empty
  | interrupted => True
  | failed _ => False

/-- The read gives no bytes. -/
def Blank : ReadOutcome → Prop
  | bytes data => data = .empty
  | interrupted | failed _ => True

end ReadOutcome

namespace OpenFile

/-- All reads of the file come out in a way that `allowed` permits at their position and room. -/
structure Reads (file : OpenFile) (allowed : (position room : Nat) → ReadOutcome → Prop) :
    Prop where
  early : ∀ read ∈ file.early, ∀ position room, 0 < room →
    allowed position room (read position room)
  late : ∀ position room, 0 < room →
    allowed position room (Fill.outcome (file.late position room))

theorem reads_any (file : OpenFile) : file.Reads fun _ _ _ => True :=
  ⟨fun _ _ _ _ _ => trivial, fun _ _ _ => trivial⟩

/-- Every read gives part of `content`, unless it is interrupted or fails. -/
def Within (file : OpenFile) (content : ByteArray) : Prop :=
  file.Reads (ReadOutcome.Within content)

/-- The metadata do not report less than `content`, and no read of it fails. -/
structure Readable (file : OpenFile) (content : ByteArray) : Prop where
  length : ∀ n, file.length = some n → content.size ≤ n
  reads : file.Reads fun position _ => ReadOutcome.Useful content position

/-- No read at `bound` or after it gives bytes. -/
def SilentFrom (file : OpenFile) (bound : Nat) : Prop :=
  file.Reads fun position _ outcome => bound ≤ position → outcome.Blank

/-- A regular file gives its content. -/
theorem regular_within (content : ByteArray) : (regular content).Within content := by
  constructor
  · intro read hread
    cases hread
  · intro position room _
    exact isPart_extract content position room

theorem regular_readable (content : ByteArray) : (regular content).Readable content := by
  constructor
  · intro n hn
    cases hn
    exact Nat.le_refl _
  · constructor
    · intro read hread
      cases hread
    · intro position room hroom hlt hempty
      have hle := ByteArray.extract_eq_empty_iff.mp hempty
      omega

theorem directory_silentFrom (bound : Nat) : directory.SilentFrom bound := by
  constructor
  · intro read hread
    cases hread
  · intro position room _ _
    trivial

end OpenFile

namespace Fill

/-- A read that gives bytes goes on or stops the fill; bytes beyond the room are dropped. -/
theorem feed_bytes {f : Fill} {data : ByteArray} (hroom : 0 < f.room) :
    f.feed (.bytes data) =
      if data.size = 0 then { f with state := .stopped }
      else { f with bytes := f.bytes ++ data.extract 0 f.room } := by
  have htaken : (data.extract 0 f.room).isEmpty = true ↔ data.size = 0 := by
    rw [ByteArray.isEmpty, beq_iff_eq, ByteArray.size_extract]
    omega
  by_cases hempty : data.size = 0
  · simp only [feed, htaken.mpr hempty, if_pos hempty, if_true]
  · simp only [feed, mt htaken.mp hempty, if_neg hempty, Bool.false_eq_true, if_false]

theorem offset_feed (f : Fill) (outcome : ReadOutcome) : (f.feed outcome).offset = f.offset := by
  cases outcome with
  | interrupted => rfl
  | bytes data | failed error =>
      simp only [feed]
      split <;> rfl

theorem size_feed (f : Fill) (outcome : ReadOutcome) : (f.feed outcome).size = f.size := by
  cases outcome with
  | interrupted => rfl
  | bytes data | failed error =>
      simp only [feed]
      split <;> rfl

theorem room_pos {f : Fill} {position room : Nat} (hnext : f.next? = some (position, room)) :
    0 < room := by
  obtain ⟨_, hlt, hask⟩ := next?_eq_some hnext
  cases hask
  exact Nat.sub_pos_of_lt hlt

theorem readEarly_of_over {f : Fill} (hnone : f.next? = none)
    (reads : List (PositionedRead ReadOutcome)) : f.readEarly reads = f := by
  cases reads with
  | nil => rfl
  | cons read rest => rw [readEarly, hnone]

theorem readLate_of_over {f : Fill} (hnone : f.next? = none)
    (read : PositionedRead (Except IoError ByteArray)) : f.readLate read = f := by
  rw [readLate]
  split
  · rfl
  · rename_i hsome
    rw [hnone] at hsome
    cases hsome

theorem readLate_of_next {f : Fill} {position room : Nat}
    (hnext : f.next? = some (position, room))
    (read : PositionedRead (Except IoError ByteArray)) :
    f.readLate read = (f.feed (outcome (read position room))).readLate read := by
  rw [readLate]
  split
  · rename_i hnone
    rw [hnext] at hnone
    cases hnone
  · rename_i hsome
    rw [hnext] at hsome
    cases hsome
    rfl

variable {allowed : (position room : Nat) → ReadOutcome → Prop} {P : Fill → Prop}

theorem readEarly_induction {reads : List (PositionedRead ReadOutcome)} {f : Fill}
    (hreads : ∀ read ∈ reads, ∀ position room, 0 < room →
      allowed position room (read position room))
    (hfeed : ∀ g position room outcome, g.next? = some (position, room) →
      allowed position room outcome → P g → P (g.feed outcome))
    (hstart : P f) : P (f.readEarly reads) := by
  induction reads generalizing f with
  | nil => exact hstart
  | cons read rest ih =>
      rw [readEarly]
      split
      · exact hstart
      · rename_i position room hnext
        apply ih
        · intro other hother
          exact hreads other (List.mem_cons_of_mem read hother)
        · exact hfeed f position room _ hnext
            (hreads read List.mem_cons_self position room (room_pos hnext)) hstart

theorem readLate_induction {read : PositionedRead (Except IoError ByteArray)} {f : Fill}
    (hreads : ∀ position room, 0 < room → allowed position room (outcome (read position room)))
    (hfeed : ∀ g position room outcome, g.next? = some (position, room) →
      allowed position room outcome → P g → P (g.feed outcome))
    (hstart : P f) : P (f.readLate read) := by
  induction f using readLate.induct read with
  | case1 f hnone =>
      rw [readLate_of_over hnone]
      exact hstart
  | case2 f position room hnext _ ih =>
      rw [readLate_of_next hnext]
      exact ih (hfeed f position room _ hnext (hreads position room (room_pos hnext)) hstart)

/-- The late reads go on until the fill is over. -/
theorem next?_readLate (read : PositionedRead (Except IoError ByteArray)) (f : Fill) :
    (f.readLate read).next? = none := by
  induction f using readLate.induct read with
  | case1 f hnone =>
      rw [readLate_of_over hnone]
      exact hnone
  | case2 f position room hnext _ ih =>
      rw [readLate_of_next hnext]
      exact ih

/-- The fill after all the reads it makes of a file. -/
def ofFile (file : OpenFile) (offset size : Nat) : Fill :=
  ((start offset size).readEarly file.early).readLate file.late

/-- What one read keeps, all reads of a file keep; offset and size of the buffer stay. -/
theorem ofFile_induction {file : OpenFile} {offset size : Nat} (hreads : file.Reads allowed)
    (hfeed : ∀ g position room outcome, g.offset = offset → g.size = size →
      g.next? = some (position, room) → allowed position room outcome → P g → P (g.feed outcome))
    (hstart : P (start offset size)) : P (ofFile file offset size) := by
  have hall : ∀ g position room outcome, g.next? = some (position, room) →
      allowed position room outcome → (g.offset = offset ∧ g.size = size ∧ P g) →
        (g.feed outcome).offset = offset ∧ (g.feed outcome).size = size ∧ P (g.feed outcome) := by
    intro g position room outcome hnext houtcome ⟨hoffset, hsize, hP⟩
    rw [offset_feed, size_feed]
    exact ⟨hoffset, hsize, hfeed g position room outcome hoffset hsize hnext houtcome hP⟩
  have hstarted : (start offset size).offset = offset ∧ (start offset size).size = size ∧
      P (start offset size) := ⟨rfl, rfl, hstart⟩
  have hearly := readEarly_induction
    (P := fun g => g.offset = offset ∧ g.size = size ∧ P g) hreads.early hall hstarted
  have hlate := readLate_induction
    (P := fun g => g.offset = offset ∧ g.size = size ∧ P g) hreads.late hall hearly
  exact hlate.2.2

theorem bytes_of_result {f : Fill} {data : ByteArray} (hresult : f.result = .ok data) :
    f.bytes = data := by
  unfold result at hresult
  split at hresult <;> cases hresult <;> rfl

/-- A fill that is over without having been stopped is full. -/
theorem size_le_of_over {f : Fill} (hnone : f.next? = none) (hstate : f.state = .reading) :
    f.size ≤ f.bytes.size := by
  by_contra hlt
  simp [next?, hstate, Nat.lt_of_not_le hlt] at hnone

theorem size_ofFile (file : OpenFile) (offset size : Nat) :
    (ofFile file offset size).size = size := by
  apply ofFile_induction (P := fun g => g.size = size) file.reads_any
  · intro g position room outcome _ hsize _ _ _
    rw [size_feed, hsize]
  · rfl

/-- No read can make the buffer longer than it is. -/
theorem size_bytes_le (file : OpenFile) (offset size : Nat) :
    (ofFile file offset size).bytes.size ≤ size := by
  apply ofFile_induction (P := fun g => g.bytes.size ≤ size) file.reads_any
  · intro g position room outcome _ hsize hnext _ hle
    obtain ⟨_, hlt, hask⟩ := next?_eq_some hnext
    cases outcome with
    | interrupted => exact hle
    | bytes data =>
        rw [feed_bytes (Nat.sub_pos_of_lt hlt)]
        split
        · exact hle
        · simp only [ByteArray.size_append, ByteArray.size_extract, Fill.room]
          omega
    | failed error =>
        simp only [feed]
        split <;> exact hle
  · exact Nat.zero_le _

/-- The buffer holds what the content has at the offset.  The positions asked for are cut to the
greatest offset, which no read may reach unless the content ends before it. -/
theorem isPart_bytes {file : OpenFile} {content : ByteArray} {offset size : Nat}
    (hfile : file.Within content) (hreach : content.size ≤ maxOffset ∨ offset + size ≤ maxOffset) :
    IsPart content offset size (ofFile file offset size).bytes := by
  apply ofFile_induction (P := fun g => IsPart content offset size g.bytes) hfile
  · intro g position room outcome hoffset hsize hnext houtcome hpart
    obtain ⟨_, hlt, hask⟩ := next?_eq_some hnext
    cases hask
    cases outcome with
    | interrupted => exact hpart
    | failed error =>
        simp only [feed]
        split <;> exact hpart
    | bytes data =>
        have hdata : IsPart content (offset + g.bytes.size) (size - g.bytes.size) data := by
          rw [ReadOutcome.Within, hoffset, Fill.room, hsize] at houtcome
          by_cases hcut : offset + g.bytes.size ≤ maxOffset
          · rwa [Nat.min_eq_left hcut] at houtcome
          · -- The position was cut to the greatest offset, where the content has ended.
            have hend : content.size ≤ min (offset + g.bytes.size) maxOffset := by omega
            rw [houtcome.eq_empty hend]
            exact isPart_empty content _ _
        have hroom : data.size ≤ g.room := by
          rw [Fill.room, hsize]
          exact hdata.1
        rw [feed_bytes (Nat.sub_pos_of_lt hlt), extract_min, Nat.min_eq_right hroom,
          ByteArray.extract_zero_size]
        split
        · exact hpart
        · exact hpart.append hdata
  · exact isPart_empty content offset size

/-- While no read fails, a fill that stops has reached the end of the content. -/
theorem reading_or_stopped_at_end {file : OpenFile} {content : ByteArray}
    (hfile : file.Readable content) (offset size : Nat) :
    (ofFile file offset size).state = .reading ∨
      (ofFile file offset size).state = .stopped ∧
        content.size ≤ offset + (ofFile file offset size).bytes.size := by
  apply ofFile_induction
    (P := fun g => g.state = .reading ∨
      g.state = .stopped ∧ content.size ≤ offset + g.bytes.size) hfile.reads
  · intro g position room outcome hoffset _ hnext houtcome _
    obtain ⟨hstate, hlt, hask⟩ := next?_eq_some hnext
    cases hask
    cases outcome with
    | interrupted => exact Or.inl hstate
    | failed error => exact False.elim houtcome
    | bytes data =>
        rw [feed_bytes (Nat.sub_pos_of_lt hlt)]
        split
        · rename_i hempty
          have hend : ¬ min (g.offset + g.bytes.size) maxOffset < content.size :=
            fun hgoes => houtcome hgoes (ByteArray.size_eq_zero_iff.mp hempty)
          refine Or.inr ⟨rfl, ?_⟩
          simp only
          omega
        · exact Or.inl hstate
  · exact Or.inl rfl

/-- Where no read gives bytes, the buffer stays empty. -/
theorem bytes_eq_empty {file : OpenFile} {bound offset size : Nat} (hfile : file.SilentFrom bound)
    (hle : bound ≤ offset) (hbound : bound ≤ maxOffset) :
    (ofFile file offset size).bytes = .empty := by
  apply ofFile_induction (P := fun g => g.bytes = .empty) hfile
  · intro g position room outcome hoffset _ hnext houtcome hbytes
    obtain ⟨_, hlt, hask⟩ := next?_eq_some hnext
    cases hask
    cases outcome with
    | interrupted => exact hbytes
    | failed error =>
        simp only [feed]
        split <;> exact hbytes
    | bytes data =>
        have hempty : data = .empty := houtcome (by omega)
        rw [feed_bytes (Nat.sub_pos_of_lt hlt), if_pos (ByteArray.size_eq_zero_iff.mpr hempty)]
        exact hbytes
  · rfl

end Fill

namespace OpenFile

variable {file : OpenFile} {content data : ByteArray} {offset size : Nat}

/-- Nothing is read into a buffer without room. -/
theorem readUpTo_zero (file : OpenFile) (offset : Nat) :
    file.readUpTo offset 0 = .ok .empty := by
  have hover : (Fill.start offset 0).next? = none := rfl
  rw [readUpTo, Fill.readEarly_of_over hover, Fill.readLate_of_over hover]
  rfl

theorem size_readUpTo_le (hread : file.readUpTo offset size = .ok data) : data.size ≤ size := by
  rw [← Fill.bytes_of_result hread]
  exact Fill.size_bytes_le file offset size

theorem isPart_readUpTo (hfile : file.Within content)
    (hreach : content.size ≤ maxOffset ∨ offset + size ≤ maxOffset)
    (hread : file.readUpTo offset size = .ok data) : IsPart content offset size data := by
  rw [← Fill.bytes_of_result hread]
  exact Fill.isPart_bytes hfile hreach

theorem readUpTo_eq_empty {bound : Nat} (hfile : file.SilentFrom bound) (hle : bound ≤ offset)
    (hbound : bound ≤ maxOffset) (hread : file.readUpTo offset size = .ok data) :
    data = .empty := by
  rw [← Fill.bytes_of_result hread]
  exact Fill.bytes_eq_empty hfile hle hbound

/-- A read that meets no failure fills the buffer or comes to the end of the content. -/
theorem readUpTo_of_readable (hfile : file.Readable content) (offset size : Nat) :
    ∃ data, file.readUpTo offset size = .ok data ∧
      (size ≤ data.size ∨ content.size ≤ offset + data.size) := by
  refine ⟨(Fill.ofFile file offset size).bytes, ?_⟩
  have hover : (Fill.ofFile file offset size).next? = none := Fill.next?_readLate _ _
  have hsize : (Fill.ofFile file offset size).size = size :=
    Fill.size_ofFile file offset size
  change (Fill.ofFile file offset size).result = _ ∧ _
  rcases Fill.reading_or_stopped_at_end hfile offset size with
    hreading | ⟨hstopped, hend⟩
  · have hfull := Fill.size_le_of_over hover hreading
    rw [hsize] at hfull
    exact ⟨by simp only [Fill.result, hreading], Or.inl hfull⟩
  · exact ⟨by simp only [Fill.result, hstopped], Or.inr hend⟩

end OpenFile

end TaskTail
