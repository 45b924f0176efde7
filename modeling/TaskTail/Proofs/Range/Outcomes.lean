/-
A fill over every way in which reads can come out.  A read may give any part of what it is asked for, nothing,
an interruption or a failure, in any order.  The reads of a fill are recorded with what each asks for, and the
record tells the rest: each read asks for what the reads before it have left, the last one is the first to
fill the buffer, to give nothing or to fail, and the buffer holds what they gave, one after another.
-/
import Mathlib.Tactic.Common
import TaskTail.Proofs.Range.Reply

namespace TaskTail

namespace ReadOutcome

/-- The bytes that the read gives. -/
def given : ReadOutcome → ByteArray
  | bytes data => data
  | interrupted | failed _ => .empty

/-- A read of up to `room` bytes can come out so; a failure that is an interruption is told as one. -/
def Possible (room : Nat) : ReadOutcome → Prop
  | bytes data => data.size ≤ room
  | interrupted => True
  | failed error => error.kind ≠ .interrupted

/-- No read is made after one that came out so. -/
def Ends : ReadOutcome → Prop
  | bytes data => data = .empty
  | interrupted => False
  | failed _ => True

def isInterrupted : ReadOutcome → Bool
  | interrupted => true
  | bytes _ | failed _ => false

end ReadOutcome

/-- A positioned read that was made, and how it came out. -/
structure FillRead where
  position : Nat
  room : Nat
  outcome : ReadOutcome

/-- What reads give, one after another. -/
def gathered (reads : List FillRead) : ByteArray :=
  joined (reads.map fun r => r.outcome.given)

/-- What comes of a buffer of `size` bytes that is filled from `offset` by `reads`, when `outcomes` are the ways
in which reads come out. -/
structure Fills (offset size : Nat) (outcomes : List ReadOutcome) (reads : List FillRead)
    (result : Except IoError ByteArray) : Prop where
  made : reads.map FillRead.outcome <+: outcomes
  /-- Every read asks for the unfilled rest, at the position behind what is filled; and the reads before it
  have left something to ask for, and a reason to ask. -/
  asked : ∀ earlier r later, reads = earlier ++ r :: later →
    r.position = min (offset + (gathered earlier).size) maxOffset ∧
    r.room = size - (gathered earlier).size ∧
    (gathered earlier).size < size ∧ ∀ e ∈ earlier, ¬ e.outcome.Ends
  ended : (gathered reads).size = size ∨ ∃ r ∈ reads, r.outcome.Ends
  size_le : (gathered reads).size ≤ size
  failed_iff : ∀ error, result = .error error ↔
    0 < size ∧ outcomes.find? (fun outcome => !outcome.isInterrupted) = some (.failed error)
  filled : (∀ error, result ≠ .error error) → result = .ok (gathered reads)
  kept : ∀ error, result = .error error → gathered reads = .empty

namespace Fill

/-- The reads that a fill makes when they come out in the given ways. -/
def reads (f : Fill) : List ReadOutcome → List FillRead
  | [] => []
  | outcome :: rest =>
    match f.next? with
    | none => []
    | some (position, room) => ⟨position, room, outcome⟩ :: (f.feed outcome).reads rest

/-- Over the outcomes, `f` makes the reads and becomes `g`. -/
inductive Ran : Fill → List ReadOutcome → List FillRead → Fill → Prop
  | rest {f : Fill} {outcomes : List ReadOutcome} :
      outcomes = [] ∨ f.next? = none → Ran f outcomes [] f
  | read {f g : Fill} {position room : Nat} {outcome : ReadOutcome} {outcomes : List ReadOutcome}
      {reads : List FillRead} :
      f.next? = some (position, room) → Ran (f.feed outcome) outcomes reads g →
      Ran f (outcome :: outcomes) (⟨position, room, outcome⟩ :: reads) g

variable {f g : Fill} {offset size position room : Nat} {outcome : ReadOutcome}
variable {outcomes : List ReadOutcome} {reads : List FillRead}

theorem ran_run (f : Fill) (outcomes : List ReadOutcome) :
    Ran f outcomes (f.reads outcomes) (f.run outcomes) := by
  induction outcomes generalizing f with
  | nil => exact .rest (Or.inl rfl)
  | cons outcome rest ih =>
      rcases hnext : f.next? with _ | ⟨position, room⟩
      · simp only [Fill.reads, run, hnext]
        exact .rest (Or.inr hnext)
      · simp only [Fill.reads, run, hnext]
        exact .read hnext (ih (f.feed outcome))

theorem next?_of_state (hstate : f.state ≠ .reading) : f.next? = none := by
  rw [next?]
  split
  · contradiction
  · rfl
  · rfl

/-- The buffer takes all that a read gives. -/
theorem bytes_feed (hnext : f.next? = some (position, room)) (hpossible : outcome.Possible room) :
    (f.feed outcome).bytes = f.bytes ++ outcome.given := by
  obtain ⟨-, hlt, hask⟩ := next?_eq_some hnext
  obtain ⟨-, rfl⟩ := Prod.mk.inj hask
  rcases outcome with data | _ | error
  · have hwhole : data.extract 0 f.room = data := by
      rw [extract_min, Nat.min_eq_right hpossible, ByteArray.extract_zero_size]
    rw [feed_bytes (Nat.sub_pos_of_lt hlt), hwhole, ReadOutcome.given]
    split
    · rename_i hempty
      rw [ByteArray.size_eq_zero_iff.mp hempty, ByteArray.append_empty]
    · rfl
  · exact ByteArray.append_empty.symm
  · simp only [feed, ReadOutcome.given, ByteArray.append_empty]
    split <;> rfl

/-- A read goes on, or ends the fill; and then it fails the fill only if there are no bytes yet. -/
theorem state_feed (hnext : f.next? = some (position, room)) (outcome : ReadOutcome) :
    (¬ outcome.Ends ∧ (f.feed outcome).state = .reading) ∨
      (outcome.Ends ∧ (f.feed outcome).state = .stopped) ∨
      ∃ error, outcome = .failed error ∧ f.bytes = .empty ∧
        f.feed outcome = { f with state := .failed error } := by
  obtain ⟨hstate, hlt, -⟩ := next?_eq_some hnext
  rcases outcome with data | _ | error
  · rw [feed_bytes (Nat.sub_pos_of_lt hlt)]
    split
    · rename_i hempty
      exact Or.inr (Or.inl ⟨ByteArray.size_eq_zero_iff.mp hempty, rfl⟩)
    · rename_i hbytes
      exact Or.inl ⟨fun hends => hbytes (ByteArray.size_eq_zero_iff.mpr hends), hstate⟩
  · exact Or.inl ⟨fun hends => hends, hstate⟩
  · rw [feed]
    split
    · rename_i hempty
      exact Or.inr (Or.inr ⟨error, rfl, isEmpty_iff.mp hempty, rfl⟩)
    · exact Or.inr (Or.inl ⟨trivial, rfl⟩)

/-- A fill that is over makes no more reads. -/
theorem Ran.of_over (hran : Ran f outcomes reads g) (hover : f.next? = none) :
    reads = [] ∧ g = f := by
  rcases hran with _ | ⟨hnext, -⟩
  · exact ⟨rfl, rfl⟩
  · rw [hover] at hnext
    cases hnext

theorem Ran.offset_eq (hran : Ran f outcomes reads g) : g.offset = f.offset := by
  induction hran with
  | rest => rfl
  | read _ _ ih => rw [ih, offset_feed]

theorem Ran.size_eq (hran : Ran f outcomes reads g) : g.size = f.size := by
  induction hran with
  | rest => rfl
  | read _ _ ih => rw [ih, size_feed]

theorem Ran.bytes_eq (hran : Ran f outcomes reads g)
    (hpossible : ∀ r ∈ reads, r.outcome.Possible r.room) :
    g.bytes = f.bytes ++ gathered reads := by
  induction hran with
  | rest => exact ByteArray.append_empty.symm
  | read hnext _ ih =>
      obtain ⟨hfirst, hlater⟩ := List.forall_mem_cons.mp hpossible
      rw [ih hlater, bytes_feed hnext hfirst, ByteArray.append_assoc]
      rfl

/-- No read can make the buffer longer than it is. -/
theorem Ran.size_bytes_le (hran : Ran f outcomes reads g) (hle : f.bytes.size ≤ f.size)
    (hpossible : ∀ r ∈ reads, r.outcome.Possible r.room) : g.bytes.size ≤ g.size := by
  induction hran with
  | rest => exact hle
  | @read f g position room outcome outcomes reads hnext _ ih =>
      obtain ⟨hfirst, hlater⟩ := List.forall_mem_cons.mp hpossible
      change outcome.Possible room at hfirst
      obtain ⟨-, hlt, hask⟩ := next?_eq_some hnext
      have hroom : room = f.size - f.bytes.size := (Prod.mk.inj hask).2
      have hgiven : outcome.given.size ≤ room := by
        rcases outcome with data | _ | error
        · exact hfirst
        · exact Nat.zero_le _
        · exact Nat.zero_le _
      apply ih _ hlater
      rw [size_feed, bytes_feed hnext hfirst, ByteArray.size_append]
      omega

theorem Ran.made (hran : Ran f outcomes reads g) : reads.map FillRead.outcome <+: outcomes := by
  induction hran with
  | rest => exact List.nil_prefix
  | read _ _ ih => exact List.cons_prefix_cons.mpr ⟨rfl, ih⟩

/-- Each read is what the fill asks for after the reads before it. -/
theorem Ran.split {earlier later : List FillRead} {r : FillRead}
    (hran : Ran f outcomes (earlier ++ r :: later) g) :
    ∃ front h, Ran f front earlier h ∧ h.next? = some (r.position, r.room) := by
  induction earlier generalizing f outcomes with
  | nil =>
      rcases hran with _ | ⟨hnext, -⟩
      exact ⟨[], f, .rest (Or.inl rfl), hnext⟩
  | cons first earlier ih =>
      rcases hran with _ | ⟨hnext, hrest⟩
      obtain ⟨front, h, hfront, hlast⟩ := ih hrest
      exact ⟨_, h, .read hnext hfront, hlast⟩

theorem Ran.room_pos {r : FillRead} (hran : Ran f outcomes reads g) (hr : r ∈ reads) : 0 < r.room := by
  obtain ⟨earlier, later, rfl⟩ := List.append_of_mem hr
  obtain ⟨_, _, -, hnext⟩ := hran.split
  exact Fill.room_pos hnext

/-- A fill is still reading exactly when none of its reads has ended it. -/
theorem Ran.state_eq_reading_iff (hran : Ran f outcomes reads g) (hstate : f.state = .reading) :
    g.state = .reading ↔ ∀ r ∈ reads, ¬ r.outcome.Ends := by
  induction hran with
  | rest => simp [hstate]
  | @read f g position room outcome outcomes reads hnext hlater ih =>
      rw [List.forall_mem_cons]
      rcases state_feed hnext outcome with ⟨hgoes, hfed⟩ | ⟨hends, hfed⟩ | ⟨error, rfl, -, hfed⟩
      · rw [ih hfed, and_iff_right hgoes]
      · obtain ⟨-, rfl⟩ := hlater.of_over (next?_of_state (by simp [hfed]))
        exact iff_of_false (by simp [hfed]) fun hall => hall.1 hends
      · obtain ⟨-, rfl⟩ := hlater.of_over (next?_of_state (by simp [hfed]))
        exact iff_of_false (by simp [hfed]) fun hall => hall.1 trivial

/-- A fill that fails has lost nothing, as there was nothing. -/
theorem Ran.bytes_eq_empty (hran : Ran f outcomes reads g) (hstate : ∀ error, f.state ≠ .failed error)
    {error : IoError} (hfailed : g.state = .failed error) : g.bytes = .empty := by
  induction hran with
  | rest => exact absurd hfailed (hstate error)
  | @read f g position room outcome outcomes reads hnext hlater ih =>
      rcases state_feed hnext outcome with ⟨-, hfed⟩ | ⟨-, hfed⟩ | ⟨source, -, hempty, hfed⟩
      · exact ih (by simp [hfed]) hfailed
      · exact ih (by simp [hfed]) hfailed
      · obtain ⟨-, rfl⟩ := hlater.of_over (next?_of_state (by simp [hfed]))
        rw [hfed]
        exact hempty

/-- A fill that has bytes does not fail. -/
theorem Ran.state_ne_failed (hran : Ran f outcomes reads g) (hstate : ∀ error, f.state ≠ .failed error)
    (hpossible : ∀ r ∈ reads, r.outcome.Possible r.room) (hbytes : f.bytes ≠ .empty) (error : IoError) :
    g.state ≠ .failed error := by
  intro hfailed
  have hempty := hran.bytes_eq_empty hstate hfailed
  rw [hran.bytes_eq hpossible, ByteArray.append_eq_empty_iff] at hempty
  exact hbytes hempty.1

/-- A fill that has no bytes yet fails exactly when nothing but interruptions comes before a failure. -/
theorem Ran.state_eq_failed_iff (hran : Ran f outcomes reads g) (hstate : f.state = .reading)
    (hbytes : f.bytes = .empty) (hsize : 0 < f.size)
    (hpossible : ∀ r ∈ reads, r.outcome.Possible r.room) (error : IoError) :
    g.state = .failed error ↔
      outcomes.find? (fun outcome => !outcome.isInterrupted) = some (.failed error) := by
  have hasks : f.next? = some (min (f.offset + f.bytes.size) maxOffset, f.room) := by
    rw [next?, hstate, hbytes]
    exact if_pos hsize
  induction hran with
  | rest hover =>
      rcases hover with rfl | hnone
      · simp [hstate]
      · rw [hasks] at hnone
        cases hnone
  | @read f g position room outcome outcomes reads hnext hlater ih =>
      obtain ⟨hfirst, hothers⟩ := List.forall_mem_cons.mp hpossible
      rcases outcome with data | _ | source
      · refine iff_of_false ?_ (by simp [ReadOutcome.isInterrupted])
        rcases state_feed hnext (.bytes data) with ⟨hgoes, hfed⟩ | ⟨-, hfed⟩ | ⟨_, hother, -⟩
        · apply hlater.state_ne_failed (by simp [hfed]) hothers
          rw [bytes_feed hnext hfirst, hbytes, ByteArray.empty_append]
          exact hgoes
        · obtain ⟨-, rfl⟩ := hlater.of_over (next?_of_state (by simp [hfed]))
          simp [hfed]
        · cases hother
      · exact ih hstate hbytes hsize hothers hasks
      · have hfed : f.feed (.failed source) = { f with state := .failed source } := by
          rw [feed, if_pos (isEmpty_iff.mpr hbytes)]
        obtain ⟨-, rfl⟩ := hlater.of_over (next?_of_state (by simp [hfed]))
        simp [hfed, ReadOutcome.isInterrupted]

theorem result_eq_error_iff (f : Fill) (error : IoError) :
    f.result = .error error ↔ f.state = .failed error := by
  rw [result]
  split <;> simp_all

theorem result_of_ne_error (hresult : ∀ error, f.result ≠ .error error) : f.result = .ok f.bytes := by
  rcases hfound : f.result with error | data
  · exact absurd hfound (hresult error)
  · rw [bytes_of_result hfound]

/-- What a fill has gathered when it started with an empty buffer. -/
theorem Ran.bytes_of_start (hran : Ran (start offset size) outcomes reads g)
    (hpossible : ∀ r ∈ reads, r.outcome.Possible r.room) : g.bytes = gathered reads := by
  rw [hran.bytes_eq hpossible]
  exact ByteArray.empty_append

theorem Ran.asked {earlier later : List FillRead} {r : FillRead}
    (hran : Ran (start offset size) outcomes (earlier ++ r :: later) g)
    (hpossible : ∀ e ∈ earlier, e.outcome.Possible e.room) :
    r.position = min (offset + (gathered earlier).size) maxOffset ∧
      r.room = size - (gathered earlier).size ∧
      (gathered earlier).size < size ∧ ∀ e ∈ earlier, ¬ e.outcome.Ends := by
  obtain ⟨front, h, hfront, hnext⟩ := hran.split
  obtain ⟨hstate, hlt, hask⟩ := next?_eq_some hnext
  obtain ⟨hposition, hroom⟩ := Prod.mk.inj hask
  rw [hfront.bytes_of_start hpossible, hfront.size_eq] at hlt
  rw [hfront.bytes_of_start hpossible, hfront.offset_eq] at hposition
  rw [room, hfront.bytes_of_start hpossible, hfront.size_eq] at hroom
  exact ⟨hposition, hroom, hlt, (hfront.state_eq_reading_iff rfl).mp hstate⟩

/-- A fill that is over is full, or a read has ended it. -/
theorem Ran.ended (hran : Ran (start offset size) outcomes reads g)
    (hpossible : ∀ r ∈ reads, r.outcome.Possible r.room) (hover : g.next? = none) :
    (gathered reads).size = size ∨ ∃ r ∈ reads, r.outcome.Ends := by
  by_cases hends : ∃ r ∈ reads, r.outcome.Ends
  · exact Or.inr hends
  · left
    have hstate : g.state = .reading := by
      rw [hran.state_eq_reading_iff rfl]
      intro r hr hended
      exact hends ⟨r, hr, hended⟩
    have hfull := size_le_of_over hover hstate
    have hfits := hran.size_bytes_le (Nat.zero_le size) hpossible
    rw [hran.bytes_of_start hpossible, hran.size_eq] at hfull hfits
    exact Nat.le_antisymm hfits hfull

theorem Ran.failed_iff (hran : Ran (start offset size) outcomes reads g)
    (hpossible : ∀ r ∈ reads, r.outcome.Possible r.room) (error : IoError) :
    g.result = .error error ↔
      0 < size ∧ outcomes.find? (fun outcome => !outcome.isInterrupted) = some (.failed error) := by
  rw [result_eq_error_iff]
  rcases Nat.eq_zero_or_pos size with rfl | hsize
  · obtain ⟨-, rfl⟩ := hran.of_over rfl
    simp [start]
  · rw [hran.state_eq_failed_iff rfl rfl hsize hpossible, and_iff_right hsize]

theorem Ran.fills (hran : Ran (start offset size) outcomes reads g)
    (hpossible : ∀ r ∈ reads, r.outcome.Possible r.room) (hover : g.next? = none) :
    Fills offset size outcomes reads g.result := by
  constructor
  case made => exact hran.made
  case asked =>
    rintro earlier r later rfl
    exact hran.asked (List.forall_mem_append.mp hpossible).1
  case ended => exact hran.ended hpossible hover
  case size_le =>
    have hfits := hran.size_bytes_le (Nat.zero_le size) hpossible
    rwa [hran.bytes_of_start hpossible, hran.size_eq] at hfits
  case failed_iff => exact hran.failed_iff hpossible
  case filled =>
    intro hresult
    rw [result_of_ne_error hresult, hran.bytes_of_start hpossible]
  case kept =>
    intro error hresult
    rw [result_eq_error_iff] at hresult
    rw [← hran.bytes_of_start hpossible]
    exact hran.bytes_eq_empty (fun _ hstart => by cases hstart) hresult

/-- The reads of a file whose first reads come out in the given ways, whatever they ask for. -/
theorem readEarly_map (f : Fill) (outcomes : List ReadOutcome) :
    f.readEarly (outcomes.map fun outcome _ _ => outcome) = f.run outcomes := by
  induction outcomes generalizing f with
  | nil => rfl
  | cons outcome rest ih =>
      rcases hnext : f.next? with _ | ⟨position, room⟩
      · simp [readEarly, run, hnext]
      · simp [readEarly, run, hnext, ih]

end Fill

namespace OpenFile

/-- The reads come out as those of a file that has the first reads `early` and then always reads as `late`. -/
def GivesFrom (late : PositionedRead (Except IoError ByteArray)) :
    List (PositionedRead ReadOutcome) → List FillRead → Prop
  | _, [] => True
  | [], r :: rest => r.outcome = Fill.outcome (late r.position r.room) ∧ GivesFrom late [] rest
  | read :: early, r :: rest => r.outcome = read r.position r.room ∧ GivesFrom late early rest

/-- The reads come out as those of the file do. -/
def Gives (file : OpenFile) (reads : List FillRead) : Prop :=
  GivesFrom file.late file.early reads

/-- No read of the file gives more than it is asked for. -/
def Proper (file : OpenFile) : Prop :=
  file.Reads fun _ room outcome => outcome.Possible room

variable {file : OpenFile} {late : PositionedRead (Except IoError ByteArray)}
variable {early : List (PositionedRead ReadOutcome)} {offset size : Nat}
variable {outcomes : List ReadOutcome} {reads : List FillRead}

theorem exists_ran_late (late : PositionedRead (Except IoError ByteArray)) (f : Fill) :
    ∃ outcomes reads, GivesFrom late [] reads ∧ Fill.Ran f outcomes reads (f.readLate late) := by
  induction f using Fill.readLate.induct late with
  | case1 f hnone =>
      rw [Fill.readLate_of_over hnone]
      exact ⟨[], [], trivial, .rest (Or.inr hnone)⟩
  | case2 f position room hnext _ ih =>
      obtain ⟨outcomes, reads, hgives, hran⟩ := ih
      rw [Fill.readLate_of_next hnext]
      exact ⟨_, ⟨position, room, _⟩ :: reads, ⟨rfl, hgives⟩, .read hnext hran⟩

theorem exists_ran (late : PositionedRead (Except IoError ByteArray))
    (early : List (PositionedRead ReadOutcome)) (f : Fill) :
    ∃ outcomes reads, GivesFrom late early reads ∧
      Fill.Ran f outcomes reads ((f.readEarly early).readLate late) := by
  induction early generalizing f with
  | nil => exact exists_ran_late late f
  | cons read rest ih =>
      rcases hnext : f.next? with _ | ⟨position, room⟩
      · rw [Fill.readEarly_of_over hnext, Fill.readLate_of_over hnext]
        exact ⟨[], [], trivial, .rest (Or.inr hnext)⟩
      · obtain ⟨outcomes, reads, hgives, hran⟩ := ih (f.feed (read position room))
        have hearly : f.readEarly (read :: rest) = (f.feed (read position room)).readEarly rest := by
          simp only [Fill.readEarly, hnext]
        rw [hearly]
        exact ⟨_, ⟨position, room, _⟩ :: reads, ⟨rfl, hgives⟩, .read hnext hran⟩

theorem possible_of_givesFrom (hproper : Proper ⟨none, early, late⟩)
    (hroom : ∀ r ∈ reads, 0 < r.room) (hgives : GivesFrom late early reads) :
    ∀ r ∈ reads, r.outcome.Possible r.room := by
  induction reads generalizing early with
  | nil => simp
  | cons r rest ih =>
      rw [List.forall_mem_cons] at hroom ⊢
      rcases early with _ | ⟨read, early⟩
      · obtain ⟨houtcome, hrest⟩ := hgives
        rw [houtcome]
        exact ⟨hproper.late r.position r.room hroom.1, ih hproper hroom.2 hrest⟩
      · obtain ⟨houtcome, hrest⟩ := hgives
        obtain ⟨hread, hothers⟩ := List.forall_mem_cons.mp hproper.early
        rw [houtcome]
        exact ⟨hread r.position r.room hroom.1, ih ⟨hothers, hproper.late⟩ hroom.2 hrest⟩

/-- Every file has outcomes over which it is filled as `Fills` says. -/
theorem exists_fills (hproper : file.Proper) (offset size : Nat) :
    ∃ outcomes reads, file.Gives reads ∧ Fills offset size outcomes reads (file.readUpTo offset size) := by
  obtain ⟨outcomes, reads, hgives, hran⟩ := exists_ran file.late file.early (Fill.start offset size)
  have hpossible : ∀ r ∈ reads, r.outcome.Possible r.room := by
    apply possible_of_givesFrom ⟨hproper.early, hproper.late⟩ _ hgives
    intro r hr
    exact hran.room_pos hr
  exact ⟨outcomes, reads, hgives, hran.fills hpossible (Fill.next?_readLate _ _)⟩

/-- A reply to a request for at least one byte has what the reads gave, or is at the end. -/
theorem readRange_of_fills (hsize : 0 < size)
    (hfills : Fills offset (file.capacity offset size) outcomes reads
      (file.readUpTo offset (file.capacity offset size))) :
    file.readRange offset size =
      if (gathered reads).size = 0 then ⟨.empty, true⟩ else ⟨gathered reads, false⟩ := by
  rcases hread : file.readUpTo offset (file.capacity offset size) with error | data
  · rw [hfills.kept error hread, if_pos ByteArray.size_empty]
    simp only [readRange, hread, RangeReply.atEnd]
  · have hdata : data = gathered reads := by
      have hok := hfills.filled fun error herror => by simp [hread] at herror
      rw [hread] at hok
      exact Except.ok.inj hok
    rw [← hdata]
    rcases file.readRange_cases offset size with hend | ⟨found, hfound, hempty, hreply⟩
    · have hnone := data_readRange hread
      rw [hend] at hnone
      rw [hend, ← hnone]
      rfl
    · obtain rfl : data = found := Except.ok.inj (hread.symm.trans hfound)
      rw [hreply, if_neg]
      · rfl
      · intro hzero
        have := hempty (ByteArray.size_eq_zero_iff.mp hzero)
        omega

end OpenFile

/-- However the reads of a file come out, a fill asks each time for the unfilled rest, ends with the first read
that leaves nothing to ask for, and fails only if there is nothing but interruptions before the failure; so a reply
to a request for at least one byte has all the bytes that were read, or is at the end because there were none. -/
theorem readUpTo_fills :
    (∀ offset size outcomes length late,
      ((Fill.start offset size).run outcomes).next? = none →
      (∀ r ∈ (Fill.start offset size).reads outcomes, r.outcome.Possible r.room) →
      Fills offset size outcomes ((Fill.start offset size).reads outcomes)
        (OpenFile.readUpTo ⟨length, outcomes.map fun outcome _ _ => outcome, late⟩ offset size)) ∧
    ∀ (registry : Registry) (opening : Opening) (request : RangeRequest) (path : Path) (file : OpenFile),
      registry.resolve? request.task = some path → opening path = .ok file → file.Proper →
      0 < request.size →
      ∃ outcomes reads,
        let capacity := file.capacity request.offset request.size
        file.Gives reads ∧
        Fills request.offset capacity outcomes reads (file.readUpTo request.offset capacity) ∧
        readRange registry opening request =
          .ok (if (gathered reads).size = 0 then ⟨.empty, true⟩ else ⟨gathered reads, false⟩) := by
  constructor
  · intro offset size outcomes length late hover hpossible
    rw [OpenFile.readUpTo, Fill.readEarly_map, Fill.readLate_of_over hover]
    exact (Fill.ran_run _ outcomes).fills hpossible hover
  · intro registry opening request path file hpath hopening hproper hsize
    obtain ⟨outcomes, reads, hgives, hfills⟩ :=
      OpenFile.exists_fills hproper request.offset (file.capacity request.offset request.size)
    refine ⟨outcomes, reads, hgives, hfills, ?_⟩
    rw [readRange_of_opened hpath hopening, OpenFile.readRange_of_fills hsize hfills]

/-- Two bytes from the last but one position, one more at the last position, and then a failure: the three bytes
are kept, and the interruptions do not show.  The reply from a file that fails after two bytes has the two. -/
theorem readUpTo_fills_before_failure :
    let outcomes : List ReadOutcome := [.interrupted, .bytes "ab".toUTF8, .interrupted, .bytes "c".toUTF8,
      .failed (.system 5), .bytes "zz".toUTF8]
    let reads := (Fill.start (maxOffset - 1) 5).reads outcomes
    let scripted : OpenFile := ⟨none, outcomes.map fun outcome _ _ => outcome, fun _ _ => .ok .empty⟩
    let failing : OpenFile := ⟨some 9, [fun _ _ => .interrupted,
      fun _ room => .bytes ("ab".toUTF8.extract 0 room), fun _ _ => .failed (.system 5)],
      fun _ _ => .ok .empty⟩
    let registry := Registry.empty.register ⟨⟨"t"⟩, ⟨"f"⟩⟩
    (∀ r ∈ reads, r.outcome.Possible r.room) ∧
      reads.map (fun r => (r.position, r.room)) =
        [(maxOffset - 1, 5), (maxOffset - 1, 5), (maxOffset, 3), (maxOffset, 3), (maxOffset, 2)] ∧
      scripted.readUpTo (maxOffset - 1) 5 = .ok "abc".toUTF8 ∧ failing.Proper ∧
      readRange registry (fun _ => .ok failing) ⟨⟨"t"⟩, 4, 8⟩ = .ok ⟨"ab".toUTF8, false⟩ := by
  intro outcomes reads scripted failing registry
  have hreads : reads =
      [⟨maxOffset - 1, 5, .interrupted⟩, ⟨maxOffset - 1, 5, .bytes "ab".toUTF8⟩,
        ⟨maxOffset, 3, .interrupted⟩, ⟨maxOffset, 3, .bytes "c".toUTF8⟩,
        ⟨maxOffset, 2, .failed (.system 5)⟩] := by
    rfl
  have hover : ((Fill.start (maxOffset - 1) 5).run outcomes).next? = none := by
    rfl
  have hpossible : ∀ r ∈ reads, r.outcome.Possible r.room := by
    rw [hreads]
    simp [ReadOutcome.Possible]
    decide +kernel
  have hproper : failing.Proper := by
    constructor
    · intro read hread position room _
      simp only [failing, List.mem_cons, List.not_mem_nil, or_false] at hread
      rcases hread with rfl | rfl | rfl
      · trivial
      · simp only [ReadOutcome.Possible, ByteArray.size_extract]
        omega
      · simp only [ReadOutcome.Possible]
        decide
    · intro position room _
      exact Nat.zero_le room
  obtain ⟨hfill, hreply⟩ := readUpTo_fills
  have hfills := hfill (maxOffset - 1) 5 outcomes none (fun _ _ => .ok .empty) hover hpossible
  have hgathered : gathered reads = "abc".toUTF8 := by
    rw [hreads]
    decide +kernel
  have hasked : reads.map (fun r => (r.position, r.room)) =
      [(maxOffset - 1, 5), (maxOffset - 1, 5), (maxOffset, 3), (maxOffset, 3), (maxOffset, 2)] := by
    rw [hreads]
    rfl
  refine ⟨hpossible, hasked, ?_, hproper, ?_⟩
  · rw [← hgathered]
    apply hfills.filled
    intro error herror
    obtain ⟨-, hfirst⟩ := (hfills.failed_iff error).mp herror
    simp [outcomes, ReadOutcome.isInterrupted] at hfirst
  · obtain ⟨_, found, -, hfound, hreplied⟩ :=
      hreply registry (fun _ => .ok failing) ⟨⟨"t"⟩, 4, 8⟩ ⟨"f"⟩ failing rfl rfl hproper (by decide)
    have hread : failing.readUpTo 4 5 = .ok "ab".toUTF8 := by
      rw [OpenFile.readUpTo, Fill.readLate_of_over rfl]
      rfl
    have hdata : "ab".toUTF8 = gathered found := by
      have hok := hfound.filled fun error herror => by cases hread.symm.trans herror
      exact Except.ok.inj (hread.symm.trans hok)
    rw [hreplied, ← hdata]
    rfl

end TaskTail
