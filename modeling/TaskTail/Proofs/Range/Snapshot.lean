/-
A read of a file that grows while it is read.  The length of the buffer comes from one look at the metadata, the
bytes from later reads, and others may append to the file at every moment between them.  What is appended never
changes what was there, so that every read gives part of the content that the file has in the end; and the buffer
ends where the content ended when the metadata were asked for.  The reply is that of the content at this moment.
-/
import TaskTail.Proofs.Range.Reply

namespace TaskTail

/-- What was part of a content is part of it after more was appended. -/
theorem IsPart.append_content {content data : ByteArray} {position room : Nat}
    (hpart : IsPart content position room data) (more : ByteArray) :
    IsPart (content ++ more) position room data := by
  refine ⟨hpart.1, ?_⟩
  rcases Nat.eq_zero_or_pos data.size with hnone | hpos
  · rw [hnone, Nat.add_zero, ByteArray.extract_same]
    exact ByteArray.size_eq_zero_iff.mp hnone
  · rw [extract_append_of_le (Or.inr (hpart.add_size_le hpos))]
    exact hpart.2

namespace ReadOutcome

variable {content : ByteArray} {position room : Nat} {outcome : ReadOutcome}

theorem Within.append_content (houtcome : outcome.Within content position room)
    (more : ByteArray) : outcome.Within (content ++ more) position room := by
  cases outcome with
  | bytes data => exact IsPart.append_content houtcome more
  | interrupted | failed error => trivial

/-- A read that is good for a content is good for what the content was before it grew. -/
theorem Useful.of_append {more : ByteArray} (houtcome : outcome.Useful (content ++ more) position) :
    outcome.Useful content position := by
  cases outcome with
  | bytes data =>
      intro hlt
      apply houtcome
      rw [ByteArray.size_append]
      omega
  | interrupted => trivial
  | failed error => exact houtcome

/-- The read gives part of `content`, at least one byte where there is one, or is interrupted. -/
def Serves (content : ByteArray) (position room : Nat) (outcome : ReadOutcome) : Prop :=
  outcome.Within content position room ∧ outcome.Useful content position

/-- A read of a content that never gives more than `most` bytes. -/
def upTo (content : ByteArray) (most : Nat) : PositionedRead ReadOutcome := fun position room =>
  .bytes (content.extract position (position + min room most))

theorem serves_upTo (content : ByteArray) (position : Nat) {room most : Nat} (hmost : 0 < most)
    (hroom : 0 < room) : (upTo content most position room).Serves content position room := by
  constructor
  · have hpart := isPart_extract content position (min room most)
    exact ⟨Nat.le_trans hpart.1 (Nat.min_le_left _ _), hpart.2⟩
  · intro hlt hempty
    have hle := ByteArray.extract_eq_empty_iff.mp hempty
    omega

end ReadOutcome

/-- What happens to an open file: somebody appends to it, or its reader makes the next read. -/
inductive FileEvent
  | append (more : ByteArray)
  | read (outcome : PositionedRead ReadOutcome)

namespace FileEvent

/-- The content of a file after all of the events. -/
def grown (content : ByteArray) : List FileEvent → ByteArray
  | [] => content
  | append more :: rest => grown (content ++ more) rest
  | read _ :: rest => grown content rest

/-- The reads among the events, in their order. -/
def reads : List FileEvent → List (PositionedRead ReadOutcome)
  | [] => []
  | append _ :: rest => reads rest
  | read outcome :: rest => outcome :: reads rest

/-- Every read among the events is served from the content of its moment. -/
def Served (content : ByteArray) : List FileEvent → Prop
  | [] => True
  | append more :: rest => Served (content ++ more) rest
  | read outcome :: rest =>
    (∀ position room, 0 < room → (outcome position room).Serves content position room) ∧
      Served content rest

/-- A file only grows. -/
theorem exists_grown_eq_append (content : ByteArray) (events : List FileEvent) :
    ∃ more, grown content events = content ++ more := by
  induction events generalizing content with
  | nil => exact ⟨.empty, ByteArray.append_empty.symm⟩
  | cons event rest ih =>
      cases event with
      | read outcome => exact ih content
      | append first =>
          obtain ⟨more, hmore⟩ := ih (content ++ first)
          exact ⟨first ++ more, by rw [grown, hmore, ByteArray.append_assoc]⟩

/-- Whenever a read is made, it gives part of what the file holds in the end, and it is good for what
the file held in the beginning. -/
theorem Served.of_mem {content : ByteArray} {events : List FileEvent} (hserved : Served content events)
    {outcome : PositionedRead ReadOutcome} (hmem : outcome ∈ reads events) {position room : Nat}
    (hroom : 0 < room) :
    (outcome position room).Within (grown content events) position room ∧
      (outcome position room).Useful content position := by
  induction events generalizing content with
  | nil => cases hmem
  | cons event rest ih =>
      cases event with
      | append more =>
          obtain ⟨hwithin, huseful⟩ := ih hserved hmem
          exact ⟨hwithin, huseful.of_append⟩
      | read first =>
          rcases List.mem_cons.mp hmem with rfl | hrest
          · obtain ⟨hwithin, huseful⟩ := hserved.1 position room hroom
            obtain ⟨more, hmore⟩ := exists_grown_eq_append content rest
            rw [grown, hmore]
            exact ⟨hwithin.append_content more, huseful⟩
          · exact ih hserved.2 hrest

end FileEvent

/-- A regular file that others append to while it is read. -/
structure GrowingFile where
  /-- What it holds when it is opened. -/
  opened : ByteArray
  /-- What is appended before the metadata are asked for. -/
  between : ByteArray
  /-- What happens after that. -/
  events : List FileEvent
  /-- The reads after those events, should the reader make any. -/
  late : PositionedRead (Except IoError ByteArray)

namespace GrowingFile

/-- What the file holds when the metadata are asked for. -/
def measured (g : GrowingFile) : ByteArray :=
  g.opened ++ g.between

/-- What the file holds in the end. -/
def final (g : GrowingFile) : ByteArray :=
  FileEvent.grown g.measured g.events

/-- The file as its reader sees it. -/
def file (g : GrowingFile) : OpenFile where
  length := some g.measured.size
  early := FileEvent.reads g.events
  late := g.late

/-- No read fails, each gives part of what is there, and the length that is measured is one that metadata
can report. -/
structure Served (g : GrowingFile) : Prop where
  length_le : g.measured.size ≤ maxOffset
  events : FileEvent.Served g.measured g.events
  late : ∀ position room, 0 < room →
    (Fill.outcome (g.late position room)).Serves g.final position room

variable {g : GrowingFile}

theorem capacity_file (g : GrowingFile) (offset size : Nat) :
    g.file.capacity offset size = min size (g.measured.size - offset) :=
  Nat.min_comm _ _

theorem Served.within_final (hserved : g.Served) : g.file.Within g.final := by
  constructor
  · intro outcome hmem position room hroom
    exact (hserved.events.of_mem hmem hroom).1
  · intro position room hroom
    exact (hserved.late position room hroom).1

theorem Served.readable_measured (hserved : g.Served) : g.file.Readable g.measured := by
  constructor
  · intro n hlength
    cases hlength
    exact Nat.le_refl _
  · constructor
    · intro outcome hmem position room hroom
      exact (hserved.events.of_mem hmem hroom).2
    · intro position room hroom
      have huseful := (hserved.late position room hroom).2
      obtain ⟨more, hmore⟩ := FileEvent.exists_grown_eq_append g.measured g.events
      rw [final, hmore] at huseful
      exact huseful.of_append

/-- The buffer ends no later than the measured content and is filled, so that it holds what this content has. -/
theorem Served.readUpTo_eq (hserved : g.Served) {offset : Nat} (hlt : offset < g.measured.size)
    (size : Nat) :
    g.file.readUpTo offset (g.file.capacity offset size) =
      .ok (g.measured.extract offset (min (offset + size) g.measured.size)) := by
  have hcapacity := capacity_file g offset size
  have hfits := hserved.length_le
  obtain ⟨data, hread, hfull⟩ :=
    OpenFile.readUpTo_of_readable hserved.readable_measured offset (g.file.capacity offset size)
  have hpart : IsPart g.final offset (g.file.capacity offset size) data :=
    OpenFile.isPart_readUpTo hserved.within_final (Or.inr (by omega)) hread
  have hend : offset + data.size = min (offset + size) g.measured.size := by
    have := hpart.1
    omega
  obtain ⟨more, hmore⟩ := FileEvent.exists_grown_eq_append g.measured g.events
  have hdata := hpart.2
  rw [final, hmore, hend, extract_append_of_le (Or.inr (Nat.min_le_right _ _))] at hdata
  rw [hread, hdata]

/-- The reply is the one for the content at the moment of the metadata. -/
theorem Served.readRange_file (hserved : g.Served) (offset size : Nat) :
    g.file.readRange offset size =
      if size = 0 then .ofData .empty
      else if g.measured.size ≤ offset then .atEnd
      else .ofData (g.measured.extract offset (min (offset + size) g.measured.size)) := by
  split
  · rename_i hzero
    rw [hzero, OpenFile.readRange_zero]
  · rename_i hsize
    split
    · rename_i hle
      exact OpenFile.readRange_of_length_le rfl hle (Nat.pos_of_ne_zero hsize)
    · rename_i hlt
      have hread := hserved.readUpTo_eq (Nat.lt_of_not_le hlt) size
      rcases g.file.readRange_cases offset size with hatEnd | ⟨data, hdata, _, hreply⟩
      · have hempty := OpenFile.data_readRange hread
        rw [hatEnd] at hempty
        have hle := ByteArray.extract_eq_empty_iff.mp hempty.symm
        omega
      · rw [hread] at hdata
        cases hdata
        exact hreply

end GrowingFile

section Snapshot

variable {registry : Registry} {opening : Opening} {request : RangeRequest} {path : Path}

/-- However a file grows while a range of it is read, the reply is that of one moment, when its metadata were
asked for, and no more is allocated than the content of this moment has beyond the offset. -/
theorem readRange_eq_snapshot (hpath : registry.resolve? request.task = some path) {g : GrowingFile}
    (hopening : opening path = .ok g.file) (hserved : g.Served) :
    readRange registry opening request =
      .ok (if request.size = 0 then .ofData .empty
        else if g.measured.size ≤ request.offset then .atEnd
        else .ofData (g.measured.extract request.offset
          (min (request.offset + request.size) g.measured.size))) ∧
      g.file.capacity request.offset request.size =
        min request.size (g.measured.size - request.offset) := by
  constructor
  · rw [readRange_of_opened hpath hopening, hserved.readRange_file]
  · exact g.capacity_file request.offset request.size

end Snapshot

/-- Four bytes when they are measured, then seven; a read falls short and the next one is interrupted. -/
def journal : GrowingFile where
  opened := "ab".toUTF8
  between := "cd".toUTF8
  events := [.append "ef".toUTF8, .read (ReadOutcome.upTo "abcdef".toUTF8 1), .read fun _ _ => .interrupted,
    .append "g".toUTF8]
  late position room := .ok ("abcdefg".toUTF8.extract position (position + room))

theorem served_journal : journal.Served := by
  have hsix : journal.measured ++ "ef".toUTF8 = "abcdef".toUTF8 := by decide +kernel
  have hseven : journal.final = "abcdefg".toUTF8 := by decide +kernel
  constructor
  · decide +kernel
  · change FileEvent.Served (journal.measured ++ "ef".toUTF8) _
    rw [hsix]
    refine ⟨?_, ?_, trivial⟩
    · intro position room hroom
      exact ReadOutcome.serves_upTo _ position Nat.one_pos hroom
    · intro position room _
      exact ⟨trivial, trivial⟩
  · intro position room hroom
    rw [hseven]
    have hserves := ReadOutcome.serves_upTo "abcdefg".toUTF8 position hroom hroom
    rwa [ReadOutcome.upTo, Nat.min_self] at hserves

/-- The bytes that come after the metadata are left to the next read. -/
theorem readRange_journal :
    let registry := Registry.empty.register ⟨⟨"t"⟩, ⟨"f"⟩⟩
    let opening : Opening := fun _ => .ok journal.file
    journal.Served ∧ readRange registry opening ⟨⟨"t"⟩, 1, 10⟩ = .ok (.ofData "bcd".toUTF8) ∧
      journal.file.capacity 1 10 = 3 := by
  intro registry opening
  have hpath : registry.resolve? (RangeRequest.mk ⟨"t"⟩ 1 10).task = some ⟨"f"⟩ := rfl
  have hopening : opening ⟨"f"⟩ = .ok journal.file := rfl
  obtain ⟨hreply, hcapacity⟩ := readRange_eq_snapshot hpath hopening served_journal
  have hdata : journal.measured.extract 1 (min (1 + 10) journal.measured.size) = "bcd".toUTF8 := by
    decide +kernel
  have hlt : ¬ journal.measured.size ≤ 1 := by decide +kernel
  refine ⟨served_journal, ?_, ?_⟩
  · rw [hreply, if_neg (by decide), if_neg hlt, hdata]
  · rw [hcapacity]
    decide +kernel

end TaskTail
