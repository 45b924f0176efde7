/-
An output that grows while it is read.  Each call of a client finds the monitor and the files at a moment
of their own: what the task wrote since the call before is there, and more may come while the call is
answered.  The file may fail to open or to be read at any of these moments, but whatever is read of it is
part of what was written.
-/
import Mathlib.Tactic.Common
import TaskTail.Proofs.Client.Agreement
import TaskTail.Proofs.Tail.Feed

namespace TaskTail

/-- What a call finds: the tasks and the files, the bytes that were appended to the output since the
call before, and those that are appended while the call is answered. -/
structure Moment where
  registry : Registry
  opening : Opening
  appended : ByteArray
  meanwhile : ByteArray

namespace Moment

/-- The output when the call is made, if it was `content` after the call before. -/
def before (m : Moment) (content : ByteArray) : ByteArray :=
  content ++ m.appended

/-- The output when the call is answered. -/
def after (m : Moment) (content : ByteArray) : ByteArray :=
  m.before content ++ m.meanwhile

/-- What answers a client that accepts replies of up to `limit` bytes, through a monitor with a cap. -/
def respond (cap limit : Nat) (m : Moment) : Responder :=
  clientRead limit (Monitor.server ⟨m.registry, cap⟩ m.opening).delivered

/-- The task is registered with `path` if at all, and what is read from that path is part of an output
that an offset of the wire can reach. -/
structure Shows (task : TaskId) (path : Path) (content : ByteArray) (m : Moment) : Prop where
  registered : ∀ found, m.registry.resolve? task = some found → found = path
  within : ∀ file, m.opening path = .ok file → file.Within (m.after content)
  size_le : (m.after content).size ≤ maxWireOffset

/-- If the file opens, then no read of it fails, and it is at least as long as when the call was made. -/
def Readable (path : Path) (content : ByteArray) (m : Moment) : Prop :=
  ∀ file, m.opening path = .ok file → file.Readable (m.before content)

theorem size_before_le (m : Moment) (content : ByteArray) :
    (m.before content).size ≤ (m.after content).size := by
  rw [after, ByteArray.size_append]
  exact Nat.le_add_right _ _

/-- Bytes are appended to a regular file before the call, and it opens. -/
def appending (registry : Registry) (content appended : ByteArray) : Moment :=
  ⟨registry, fun _ => .ok (.regular (content ++ appended)), appended, .empty⟩

/-- Nothing opens. -/
def unopened (registry : Registry) (source : IoError) : Moment :=
  ⟨registry, fun _ => .error source, .empty, .empty⟩

section Instances

variable {registry : Registry} {task : TaskId} {path : Path} {content : ByteArray}

@[simp] theorem after_appending (registry : Registry) (content appended : ByteArray) :
    (appending registry content appended).after content = content ++ appended :=
  ByteArray.append_empty

@[simp] theorem after_unopened (registry : Registry) (source : IoError) (content : ByteArray) :
    (unopened registry source).after content = content := by
  rw [after, before, unopened, ByteArray.append_empty, ByteArray.append_empty]

theorem shows_appending {appended : ByteArray} (hpath : registry.resolve? task = some path)
    (hsize : content.size + appended.size ≤ maxWireOffset) :
    (appending registry content appended).Shows task path content := by
  refine ⟨?_, ?_, ?_⟩
  · intro found hfound
    exact Option.some.inj (hfound.symm.trans hpath)
  · intro file hfile
    cases hfile
    rw [after_appending]
    exact OpenFile.regular_within (content ++ appended)
  · rw [after_appending, ByteArray.size_append]
    exact hsize

theorem readable_appending (registry : Registry) (path : Path) (content appended : ByteArray) :
    (appending registry content appended).Readable path content := by
  intro file hfile
  cases hfile
  exact OpenFile.regular_readable (content ++ appended)

theorem shows_unopened (source : IoError) (hpath : registry.resolve? task = some path)
    (hsize : content.size ≤ maxWireOffset) :
    (unopened registry source).Shows task path content := by
  refine ⟨?_, ?_, ?_⟩
  · intro found hfound
    exact Option.some.inj (hfound.symm.trans hpath)
  · intro file hfile
    cases hfile
  · rw [after_unopened]
    exact hsize

end Instances

end Moment

/-- The output after some calls. -/
def contentAfter (content : ByteArray) (calls : List Moment) : ByteArray :=
  calls.foldl (fun content m => m.after content) content

/-- Every call finds what was written so far. -/
def Shown (task : TaskId) (path : Path) : ByteArray → List Moment → Prop
  | _, [] => True
  | content, m :: rest => m.Shows task path content ∧ Shown task path (m.after content) rest

section Calls

variable {task : TaskId} {path : Path}

theorem contentAfter_append (content : ByteArray) (first second : List Moment) :
    contentAfter content (first ++ second) = contentAfter (contentAfter content first) second :=
  List.foldl_append

/-- Calls never see the output shrink. -/
theorem exists_contentAfter_eq (content : ByteArray) (calls : List Moment) :
    ∃ more, contentAfter content calls = content ++ more := by
  induction calls generalizing content with
  | nil => exact ⟨.empty, by simp [contentAfter]⟩
  | cons m rest ih =>
      obtain ⟨more, hmore⟩ := ih (m.after content)
      refine ⟨m.appended ++ m.meanwhile ++ more, ?_⟩
      calc contentAfter content (m :: rest) = content ++ m.appended ++ m.meanwhile ++ more := hmore
        _ = content ++ (m.appended ++ m.meanwhile ++ more) := by
          simp only [ByteArray.append_assoc]

theorem shown_append {content : ByteArray} {first second : List Moment} :
    Shown task path content (first ++ second) ↔
      Shown task path content first ∧ Shown task path (contentAfter content first) second := by
  induction first generalizing content with
  | nil =>
      constructor
      · intro hshown
        exact ⟨trivial, hshown⟩
      · intro hshown
        exact hshown.2
  | cons m rest ih =>
      rw [List.cons_append, Shown, ih, Shown, and_assoc]
      rfl

end Calls

namespace Moment

variable {task : TaskId} {path : Path} {content : ByteArray} {m : Moment} {cap limit : Nat}
variable {tail : Tail} {reply : RangeReply}

/-- A reply comes from the file of the task, if there is one. -/
theorem exists_file_of_respond (hshows : m.Shows tail.task path content)
    (hreply : m.respond cap limit tail.request = .ok reply) :
    ∃ file, m.opening path = .ok file ∧
      reply = file.readRange (min tail.offset maxWireOffset)
        (min (min tail.chunkSize maxWireSize) cap) := by
  obtain ⟨found, file, hfound, hfile, heq⟩ := Monitor.exists_file_of_clientRead hreply
  rw [hshows.registered found hfound] at hfile
  exact ⟨file, hfile, heq⟩

/-- An answer brings the next bytes of the output, if any.  An offset that the wire had to cut would
be past the end, so it brings none. -/
theorem isPart_answerBytes (hshows : m.Shows tail.task path content) (cap limit : Nat) :
    IsPart (m.after content) tail.offset tail.chunkSize
      (answerBytes (m.respond cap limit tail.request)) := by
  cases hanswer : m.respond cap limit tail.request with
  | error error => exact isPart_empty _ _ _
  | ok reply =>
      obtain ⟨file, hfile, hreply⟩ := exists_file_of_respond hshows hanswer
      have hsize := hshows.size_le
      have hpart : IsPart (m.after content) (min tail.offset maxWireOffset)
          (min (min tail.chunkSize maxWireSize) cap) reply.data := by
        rw [hreply]
        exact OpenFile.isPart_readRange (hshows.within file hfile)
          (Or.inl (Nat.le_trans hsize maxWireOffset_le_maxOffset))
      rcases Nat.eq_zero_or_pos reply.data.size with hzero | hpos
      · rw [answerBytes, ByteArray.size_eq_zero_iff.mp hzero]
        exact isPart_empty _ _ _
      · -- Bytes that were found lie inside the output, so the wire cannot have cut their offset.
        have hle := hpart.add_size_le hpos
        have huncut : min tail.offset maxWireOffset = tail.offset := by omega
        have hroom := hpart.1
        rw [huncut] at hpart
        exact ⟨by rw [answerBytes]; omega, hpart.2⟩

/-- An empty or final reply is given only at the end of the output, unless a read failed or the cap
lets nothing through. -/
theorem size_before_le_of_respond (hshows : m.Shows tail.task path content)
    (hreadable : m.Readable path content) (hcap : 0 < cap) (hchunk : 0 < tail.chunkSize)
    (hreply : m.respond cap limit tail.request = .ok reply)
    (hend : reply.data = .empty ∨ reply.endOfFile = true) :
    (m.before content).size ≤ tail.offset := by
  obtain ⟨file, hfile, rfl⟩ := exists_file_of_respond hshows hreply
  have hasked : 0 < min (min tail.chunkSize maxWireSize) cap := by
    rw [maxWireSize]
    omega
  have hsize := Nat.le_trans (m.size_before_le content) hshows.size_le
  have hflag := OpenFile.endOfFile_readRange_iff file (min tail.offset maxWireOffset) hasked
  have hle := OpenFile.size_le_of_endOfFile (hreadable file hfile)
    (Or.inl (Nat.le_trans hsize maxWireOffset_le_maxOffset)) hasked (hend.elim hflag.mpr id)
  exact Nat.le_trans hle (Nat.min_le_left _ _)

end Moment

end TaskTail
