/-
What an open file replies.  A reply has bytes or is at the end, except that a request for no bytes has
neither.  The bytes are those of the content at the offset, the end is only reported where the content
has ended, and a file that stays as it is while it is read gives everything that was asked for.
-/
import Mathlib.Tactic.Common
import TaskTail.Proofs.Range.Fill
import TaskTail.Range.Read

namespace TaskTail

namespace OpenFile

variable {file : OpenFile} {content : ByteArray} {offset size : Nat}

theorem capacity_le (file : OpenFile) (offset size : Nat) : file.capacity offset size ≤ size :=
  Nat.min_le_right _ _

/-- A reply is the end, or else what was read, which is empty only when nothing was asked for. -/
theorem readRange_cases (file : OpenFile) (offset size : Nat) :
    file.readRange offset size = .atEnd ∨
      ∃ data, file.readUpTo offset (file.capacity offset size) = .ok data ∧
        (data = .empty → size = 0) ∧ file.readRange offset size = .ofData data := by
  cases hread : file.readUpTo offset (file.capacity offset size) with
  | error error =>
      left
      simp only [readRange, hread]
  | ok data =>
      by_cases hend : data.isEmpty && 0 < size
      · left
        simp only [readRange, hread, hend, if_true]
      · right
        refine ⟨data, rfl, ?_, ?_⟩
        · intro hempty
          subst hempty
          simpa [ByteArray.isEmpty] using hend
        · simp only [readRange, hread, hend, Bool.false_eq_true, if_false]

/-- The reply has the bytes that were read. -/
theorem data_readRange {data : ByteArray}
    (hread : file.readUpTo offset (file.capacity offset size) = .ok data) :
    (file.readRange offset size).data = data := by
  simp only [readRange, hread]
  split
  · rename_i hend
    rw [Bool.and_eq_true] at hend
    exact (isEmpty_iff.mp hend.1).symm
  · rfl

/-- A request for at least one byte gets bytes or the end, and never both. -/
theorem endOfFile_readRange_iff (file : OpenFile) (offset : Nat) {size : Nat} (hsize : 0 < size) :
    (file.readRange offset size).endOfFile = true ↔
      (file.readRange offset size).data = .empty := by
  rcases file.readRange_cases offset size with hend | ⟨data, _, hempty, hdata⟩
  · rw [hend]
    exact ⟨fun _ => rfl, fun _ => rfl⟩
  · rw [hdata]
    constructor
    · intro hflag
      cases hflag
    · intro hnone
      have := hempty hnone
      omega

theorem size_readRange_le (file : OpenFile) (offset size : Nat) :
    (file.readRange offset size).data.size ≤ size := by
  rcases file.readRange_cases offset size with hend | ⟨data, hread, _, hdata⟩
  · rw [hend]
    exact Nat.zero_le _
  · rw [hdata]
    exact Nat.le_trans (size_readUpTo_le hread) (file.capacity_le offset size)

theorem isPart_readRange (hfile : file.Within content)
    (hreach : content.size ≤ maxOffset ∨ offset + size ≤ maxOffset) :
    IsPart content offset size (file.readRange offset size).data := by
  have hcapacity := file.capacity_le offset size
  rcases file.readRange_cases offset size with hend | ⟨data, hread, _, hdata⟩
  · rw [hend]
    exact isPart_empty content offset size
  · rw [hdata]
    have hpart : IsPart content offset (file.capacity offset size) data :=
      isPart_readUpTo hfile (hreach.imp_right fun _ => by omega) hread
    exact ⟨Nat.le_trans hpart.1 hcapacity, hpart.2⟩

/-- When no read fails, the buffer is as long as the request or reaches the end of the content. -/
theorem size_le_capacity_or (hfile : file.Readable content)
    (hreach : content.size ≤ maxOffset ∨ offset + size ≤ maxOffset) :
    size ≤ file.capacity offset size ∨ content.size ≤ offset + file.capacity offset size := by
  cases hlength : file.length with
  | none =>
      simp only [capacity, hlength, Option.elim_none]
      omega
  | some n =>
      have := hfile.length n hlength
      simp only [capacity, hlength, Option.elim_some]
      omega

/-- When no read fails, the reply has all that was asked for or all that the content has. -/
theorem readRange_of_readable (hfile : file.Readable content)
    (hreach : content.size ≤ maxOffset ∨ offset + size ≤ maxOffset) :
    size ≤ (file.readRange offset size).data.size ∨
      content.size ≤ offset + (file.readRange offset size).data.size := by
  have hcapacity := size_le_capacity_or hfile hreach
  obtain ⟨data, hread, hfull⟩ :=
    readUpTo_of_readable hfile offset (file.capacity offset size)
  rw [data_readRange hread]
  omega

/-- The end is reported only where the content has ended, unless a read failed. -/
theorem size_le_of_endOfFile (hfile : file.Readable content)
    (hreach : content.size ≤ maxOffset ∨ offset + size ≤ maxOffset) (hsize : 0 < size)
    (hend : (file.readRange offset size).endOfFile = true) : content.size ≤ offset := by
  have hempty := (endOfFile_readRange_iff file offset hsize).mp hend
  have hall := readRange_of_readable hfile hreach
  rw [hempty, ByteArray.size_empty] at hall
  omega

/-- The reply of a file that holds `content` all the time, when no read of it fails. -/
theorem readRange_of_content (hwithin : file.Within content) (hreadable : file.Readable content)
    (hreach : content.size ≤ maxOffset ∨ offset + size ≤ maxOffset) (hsize : 0 < size) :
    file.readRange offset size =
      if content.size ≤ offset then .atEnd
      else .ofData (content.extract offset (min (offset + size) content.size)) := by
  have hpart := isPart_readRange hwithin hreach
  have hall := readRange_of_readable hreadable hreach
  rcases file.readRange_cases offset size with hend | ⟨data, _, hempty, hdata⟩
  · rw [if_pos (size_le_of_endOfFile hreadable hreach hsize (by rw [hend]; rfl)), hend]
  · rw [hdata] at hpart hall ⊢
    simp only [RangeReply.ofData] at hpart hall
    have hpos : 0 < data.size := by
      by_contra hzero
      have := hempty (ByteArray.size_eq_zero_iff.mp (Nat.eq_zero_of_not_pos hzero))
      omega
    have hle := hpart.add_size_le hpos
    have hlong := hpart.1
    rw [if_neg (by omega), hpart.2]
    congr 2
    omega

theorem readRange_zero (file : OpenFile) (offset : Nat) :
    file.readRange offset 0 = .ofData .empty := by
  have hcapacity : file.capacity offset 0 = 0 := Nat.min_zero _
  simp only [readRange, hcapacity, readUpTo_zero, Nat.lt_irrefl, decide_false, Bool.and_false,
    Bool.false_eq_true, if_false]

/-- Where a file gives nothing, a request for at least one byte gets the end. -/
theorem readRange_of_no_bytes (hsize : 0 < size)
    (hnone : ∀ data, file.readUpTo offset (file.capacity offset size) = .ok data →
      data = .empty) :
    file.readRange offset size = .atEnd := by
  rcases file.readRange_cases offset size with hend | ⟨data, hread, hempty, _⟩
  · exact hend
  · have := hempty (hnone data hread)
    omega

/-- A file whose reads give nothing is at its end. -/
theorem readRange_of_silentFrom {bound : Nat} (hfile : file.SilentFrom bound)
    (hle : bound ≤ offset) (hbound : bound ≤ maxOffset) (hsize : 0 < size) :
    file.readRange offset size = .atEnd := by
  apply readRange_of_no_bytes hsize
  intro data hread
  exact readUpTo_eq_empty hfile hle hbound hread

/-- Past the length that the metadata report no read is made. -/
theorem readRange_of_length_le {n : Nat} (hlength : file.length = some n) (hle : n ≤ offset)
    (hsize : 0 < size) : file.readRange offset size = .atEnd := by
  have hcapacity : file.capacity offset size = 0 := by
    simp only [capacity, hlength, Option.elim_some]
    omega
  apply readRange_of_no_bytes hsize
  intro data hread
  rw [hcapacity, readUpTo_zero] at hread
  cases hread
  rfl

/-- The file ends at `bound` or before it, as far as its metadata and its reads show. -/
def EndsBy (file : OpenFile) (bound : Nat) : Prop :=
  match file.length with
  | some n => n ≤ bound
  | none => file.SilentFrom bound

theorem readRange_of_endsBy {bound : Nat} (hfile : file.EndsBy bound) (hle : bound ≤ offset)
    (hbound : bound ≤ maxOffset) (hsize : 0 < size) : file.readRange offset size = .atEnd := by
  unfold EndsBy at hfile
  split at hfile
  · rename_i n hlength
    exact readRange_of_length_le hlength (Nat.le_trans hfile hle) hsize
  · exact readRange_of_silentFrom hfile hle hbound hsize

end OpenFile

section ReadRange

variable {registry : Registry} {opening : Opening} {request : RangeRequest} {path : Path}

theorem readRange_of_unknown (hpath : registry.resolve? request.task = none) :
    readRange registry opening request = .error (.unknownTask request.task) := by
  simp only [readRange, hpath]

theorem readRange_of_unopened (hpath : registry.resolve? request.task = some path)
    {source : IoError} (hopening : opening path = .error source) :
    readRange registry opening request = .error (.openFailed request.task path source) := by
  simp only [readRange, hpath, hopening]

theorem readRange_of_opened (hpath : registry.resolve? request.task = some path)
    {file : OpenFile} (hopening : opening path = .ok file) :
    readRange registry opening request = .ok (file.readRange request.offset request.size) := by
  simp only [readRange, hpath, hopening]

/-- A reply is that of the file which the current path of the task opens. -/
theorem exists_file_of_readRange {reply : RangeReply}
    (hread : readRange registry opening request = .ok reply) :
    ∃ path file, registry.resolve? request.task = some path ∧ opening path = .ok file ∧
      reply = file.readRange request.offset request.size := by
  cases hpath : registry.resolve? request.task with
  | none =>
      rw [readRange_of_unknown hpath] at hread
      cases hread
  | some path =>
      cases hopening : opening path with
      | error source =>
          rw [readRange_of_unopened hpath hopening] at hread
          cases hread
      | ok file =>
          rw [readRange_of_opened hpath hopening] at hread
          cases hread
          exact ⟨path, file, rfl, hopening, rfl⟩

end ReadRange

end TaskTail
