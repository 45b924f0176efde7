/-
Which texts are watches.  Reading a watch and writing one are inverse to each other on the entries whose
task has a name without an equals sign and whose path is not empty.  Every other text is refused for one of
three reasons, told apart by where its first equals sign stands.
-/
import Mathlib.Tactic.Common
import TaskTail.Monitor.Watch

namespace TaskTail

section Split

variable {cs left right : List Char}

theorem splitAtEquals?_eq_none_iff : splitAtEquals? cs = none ↔ '=' ∉ cs := by
  induction cs with
  | nil => exact iff_of_true rfl List.not_mem_nil
  | cons c cs ih =>
      rw [splitAtEquals?]
      by_cases hc : c = '='
      · rw [if_pos hc, hc]
        exact iff_of_false (Option.some_ne_none _) fun hnone => hnone List.mem_cons_self
      · rw [if_neg hc, Option.map_eq_none_iff, ih, List.mem_cons, not_or]
        exact (and_iff_right (Ne.symm hc)).symm

theorem splitAtEquals?_append (hleft : '=' ∉ left) (right : List Char) :
    splitAtEquals? (left ++ '=' :: right) = some (left, right) := by
  induction left with
  | nil => rfl
  | cons c left ih =>
      obtain ⟨hc, hrest⟩ := not_or.mp (mt List.mem_cons.mpr hleft)
      rw [List.cons_append, splitAtEquals?, if_neg (Ne.symm hc), ih hrest]
      rfl

theorem eq_append_of_splitAtEquals? (hsplit : splitAtEquals? cs = some (left, right)) :
    cs = left ++ '=' :: right ∧ '=' ∉ left := by
  induction cs generalizing left with
  | nil => cases hsplit
  | cons c cs ih =>
      rw [splitAtEquals?] at hsplit
      by_cases hc : c = '='
      · rw [if_pos hc] at hsplit
        cases hsplit
        exact ⟨by rw [hc, List.nil_append], List.not_mem_nil⟩
      · rw [if_neg hc, Option.map_eq_some_iff] at hsplit
        obtain ⟨⟨rest, right⟩, hrest, hsides⟩ := hsplit
        cases hsides
        obtain ⟨rfl, hnot⟩ := ih hrest
        exact ⟨rfl, List.not_mem_cons_of_ne_of_not_mem (Ne.symm hc) hnot⟩

/-- A text is divided at its first equals sign. -/
theorem splitAtEquals?_eq_some_iff :
    splitAtEquals? cs = some (left, right) ↔ cs = left ++ '=' :: right ∧ '=' ∉ left := by
  constructor
  · exact eq_append_of_splitAtEquals?
  · rintro ⟨rfl, hleft⟩
    exact splitAtEquals?_append hleft right

end Split

/-- The entry can be given as a watch: its task has a name without an equals sign, and its path is not empty. -/
structure TaskEntry.Watchable (entry : TaskEntry) : Prop where
  task_ne_empty : entry.task.text ≠ ""
  equals_not_mem : '=' ∉ entry.task.text.toList
  path_ne_empty : entry.path.text ≠ ""

variable {s : String} {entry : TaskEntry} {outcome : Except WatchError TaskEntry}

theorem TaskEntry.toList_watch (entry : TaskEntry) :
    entry.watch.toList = entry.task.text.toList ++ '=' :: entry.path.text.toList := by
  rw [TaskEntry.watch, String.toList_append, String.toList_append, List.append_assoc]
  rfl

theorem length_toList_watch (entry : TaskEntry) :
    entry.watch.toList.length = entry.task.text.toList.length + 1 + entry.path.text.toList.length := by
  rw [entry.toList_watch, List.length_append, List.length_cons]
  omega

theorem TaskEntry.watch_of_empty_path (hpath : entry.path.text = "") :
    entry.watch = entry.task.text ++ "=" := by
  rw [TaskEntry.watch, hpath, String.append_empty]

theorem splitAtEquals?_watch (hequals : '=' ∉ entry.task.text.toList) :
    splitAtEquals? entry.watch.toList = some (entry.task.text.toList, entry.path.text.toList) :=
  splitAtEquals?_eq_some_iff.mpr ⟨entry.toList_watch, hequals⟩

theorem idxOf_toList_watch (hequals : '=' ∉ entry.task.text.toList) :
    entry.watch.toList.idxOf '=' = entry.task.text.toList.length := by
  rw [entry.toList_watch, List.idxOf_append, if_neg hequals, List.idxOf_cons_self, Nat.zero_add]

theorem head?_toList_watch_iff (hequals : '=' ∉ entry.task.text.toList) :
    entry.watch.toList.head? = some '=' ↔ entry.task.text = "" := by
  rw [← String.toList_eq_nil_iff, entry.toList_watch]
  cases htask : entry.task.text.toList with
  | nil => exact iff_of_true rfl rfl
  | cons first left =>
      refine iff_of_false (fun hhead => ?_) (List.cons_ne_nil first left)
      cases hhead
      rw [htask] at hequals
      exact hequals List.mem_cons_self

/-- A text with an equals sign is the text of an entry, which may be empty on either side. -/
theorem exists_watch_of_mem (hs : '=' ∈ s.toList) :
    ∃ entry : TaskEntry, '=' ∉ entry.task.text.toList ∧ s = entry.watch := by
  cases hsplit : splitAtEquals? s.toList with
  | none => exact absurd hs (splitAtEquals?_eq_none_iff.mp hsplit)
  | some sides =>
      obtain ⟨left, right⟩ := sides
      obtain ⟨htext, hleft⟩ := splitAtEquals?_eq_some_iff.mp hsplit
      refine ⟨⟨⟨.ofList left⟩, ⟨.ofList right⟩⟩, ?_, ?_⟩
      · rwa [String.toList_ofList]
      · rw [← String.toList_inj, TaskEntry.toList_watch, String.toList_ofList, String.toList_ofList]
        exact htext

theorem parseWatch_of_not_mem (hs : '=' ∉ s.toList) : parseWatch s = .error (.noSeparator s) := by
  rw [parseWatch, splitAtEquals?_eq_none_iff.mpr hs]

theorem parseWatch_of_split {left right : List Char}
    (hsplit : splitAtEquals? s.toList = some (left, right)) :
    parseWatch s =
      if left = [] then .error .emptyTask
      else if right = [] then .error (.emptyPath (.ofList left))
      else .ok ⟨⟨.ofList left⟩, ⟨.ofList right⟩⟩ := by
  rw [parseWatch, hsplit]
  cases left with
  | nil => rfl
  | cons => cases right <;> rfl

theorem parseWatch_watch (hequals : '=' ∉ entry.task.text.toList) :
    parseWatch entry.watch =
      if entry.task.text = "" then .error .emptyTask
      else if entry.path.text = "" then .error (.emptyPath entry.task.text)
      else .ok entry := by
  rw [parseWatch_of_split (splitAtEquals?_watch hequals), String.ofList_toList, String.ofList_toList]
  simp only [String.toList_eq_nil_iff]

/-- What a text is read as, said by its form. -/
inductive WatchReading : String → Except WatchError TaskEntry → Prop
  | noSeparator {s : String} (hs : '=' ∉ s.toList) : WatchReading s (.error (.noSeparator s))
  | emptyTask {entry : TaskEntry} (htask : entry.task.text = "") :
      WatchReading entry.watch (.error .emptyTask)
  | emptyPath {entry : TaskEntry} (htask : entry.task.text ≠ "") (hequals : '=' ∉ entry.task.text.toList)
      (hpath : entry.path.text = "") : WatchReading entry.watch (.error (.emptyPath entry.task.text))
  | accepted {entry : TaskEntry} (hentry : entry.Watchable) : WatchReading entry.watch (.ok entry)

/-- Every text has one of the forms, and it has no two of them. -/
theorem parseWatch_eq_iff : parseWatch s = outcome ↔ WatchReading s outcome := by
  constructor
  · rintro rfl
    by_cases hs : '=' ∈ s.toList
    · obtain ⟨entry, hequals, rfl⟩ := exists_watch_of_mem hs
      rw [parseWatch_watch hequals]
      by_cases htask : entry.task.text = ""
      · rw [if_pos htask]
        exact .emptyTask htask
      rw [if_neg htask]
      by_cases hpath : entry.path.text = ""
      · rw [if_pos hpath]
        exact .emptyPath htask hequals hpath
      rw [if_neg hpath]
      exact .accepted ⟨htask, hequals, hpath⟩
    · rw [parseWatch_of_not_mem hs]
      exact .noSeparator hs
  · intro hreading
    cases hreading with
    | noSeparator hs => exact parseWatch_of_not_mem hs
    | emptyTask htask =>
        rw [parseWatch_watch (by simp [htask]), if_pos htask]
    | emptyPath htask hequals hpath => rw [parseWatch_watch hequals, if_neg htask, if_pos hpath]
    | accepted hentry =>
        rw [parseWatch_watch hentry.equals_not_mem, if_neg hentry.task_ne_empty,
          if_neg hentry.path_ne_empty]

theorem parseWatch_eq_ok_iff : parseWatch s = .ok entry ↔ entry.Watchable ∧ s = entry.watch := by
  rw [parseWatch_eq_iff]
  constructor
  · intro hreading
    cases hreading with
    | accepted hentry => exact ⟨hentry, rfl⟩
  · rintro ⟨hentry, rfl⟩
    exact .accepted hentry

theorem parseWatch_eq_noSeparator_iff {text : String} :
    parseWatch s = .error (.noSeparator text) ↔ '=' ∉ s.toList ∧ text = s := by
  rw [parseWatch_eq_iff]
  constructor
  · intro hreading
    cases hreading with
    | noSeparator hs => exact ⟨hs, rfl⟩
  · rintro ⟨hs, rfl⟩
    exact .noSeparator hs

theorem parseWatch_eq_emptyTask_iff : parseWatch s = .error .emptyTask ↔ s.toList.head? = some '=' := by
  rw [parseWatch_eq_iff]
  constructor
  · intro hreading
    cases hreading with
    | emptyTask htask => exact (head?_toList_watch_iff (by simp [htask])).mpr htask
  · intro hhead
    obtain ⟨entry, hequals, rfl⟩ := exists_watch_of_mem (List.mem_of_head? hhead)
    exact .emptyTask ((head?_toList_watch_iff hequals).mp hhead)

theorem parseWatch_eq_emptyPath_iff {task : String} :
    parseWatch s = .error (.emptyPath task) ↔
      s.toList.idxOf '=' ≠ 0 ∧ s.toList.idxOf '=' + 1 = s.toList.length ∧ s = task ++ "=" := by
  rw [parseWatch_eq_iff]
  constructor
  · intro hreading
    cases hreading with
    | emptyPath htask hequals hpath =>
        rw [idxOf_toList_watch hequals, length_toList_watch, hpath]
        refine ⟨?_, rfl, TaskEntry.watch_of_empty_path hpath⟩
        rwa [Ne, List.length_eq_zero_iff, String.toList_eq_nil_iff]
  · rintro ⟨hfirst, hlast, hs⟩
    have hmem : '=' ∈ s.toList := by simp [hs]
    obtain ⟨entry, hequals, rfl⟩ := exists_watch_of_mem hmem
    rw [idxOf_toList_watch hequals, Ne, List.length_eq_zero_iff, String.toList_eq_nil_iff] at hfirst
    rw [idxOf_toList_watch hequals, length_toList_watch] at hlast
    have hpath : entry.path.text = "" := by
      rw [← String.toList_eq_nil_iff, ← List.length_eq_zero_iff]
      omega
    rw [TaskEntry.watch_of_empty_path hpath] at hs
    obtain rfl : entry.task.text = task := (String.append_left_inj _).mp hs
    exact .emptyPath hfirst hequals hpath

/-- A text is read as an entry exactly when it is the watch of that entry, so what is read can be written
back and what is written can be read back, and no text is the watch of two entries.  A text without an equals
sign has no separator; one that begins with an equals sign has no task; and one whose first equals sign is
its end but not its beginning has no path. -/
theorem parseWatch_exact :
    (∀ s entry, parseWatch s = .ok entry ↔ entry.Watchable ∧ s = entry.watch) ∧
      (∀ entry : TaskEntry, entry.Watchable → parseWatch entry.watch = .ok entry) ∧
      (∀ first second : TaskEntry, first.Watchable → second.Watchable → first.watch = second.watch →
        first = second) ∧
      (∀ s text, parseWatch s = .error (.noSeparator text) ↔ '=' ∉ s.toList ∧ text = s) ∧
      (∀ s, parseWatch s = .error .emptyTask ↔ s.toList.head? = some '=') ∧
      (∀ s task, parseWatch s = .error (.emptyPath task) ↔
        s.toList.idxOf '=' ≠ 0 ∧ s.toList.idxOf '=' + 1 = s.toList.length ∧ s = task ++ "=") := by
  refine ⟨fun s entry => parseWatch_eq_ok_iff, ?_, ?_, fun s text => parseWatch_eq_noSeparator_iff,
    fun s => parseWatch_eq_emptyTask_iff, fun s task => parseWatch_eq_emptyPath_iff⟩
  · intro entry hentry
    exact parseWatch_eq_ok_iff.mpr ⟨hentry, rfl⟩
  · intro first second hfirst hsecond hsame
    have hread : parseWatch first.watch = .ok second := parseWatch_eq_ok_iff.mpr ⟨hsecond, hsame⟩
    rw [parseWatch_eq_ok_iff.mpr ⟨hfirst, rfl⟩] at hread
    exact Except.ok.inj hread

example : parseWatch "t1=/tmp/a=b.log" = .ok ⟨⟨"t1"⟩, ⟨"/tmp/a=b.log"⟩⟩ := by
  decide

end TaskTail
