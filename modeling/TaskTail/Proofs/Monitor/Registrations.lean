/-
Who registers what.  Launchers register tasks through handles of one registry or through its monitor, in
whatever order they get their turns, and the monitor registers the tasks of its settings when it is made.
All that counts for a task is the order of its own registrations: the last of them decides.
-/
import Mathlib.Data.Finset.Card
import Mathlib.Logic.Function.Basic
import Mathlib.Tactic.Common
import TaskTail.Monitor.Service
import TaskTail.Proofs.Registry

namespace TaskTail

/-- What a registry tells when the given entries were registered, one after another. -/
structure Registry.Records (r : Registry) (history : List TaskEntry) : Prop where
  path : ∀ id : String, r.resolve? ⟨id⟩ = lastPath? history ⟨id⟩
  none_iff : ∀ id : String, r.resolve? ⟨id⟩ = none ↔ ∀ entry ∈ history, entry.task.text ≠ id
  size : r.size = (history.map TaskEntry.task).toFinset.card
  isEmpty_iff : r.isEmpty = true ↔ history = []

theorem TaskId.eq_mk_iff (task : TaskId) (id : String) : task = ⟨id⟩ ↔ task.text = id := by
  cases task
  rw [TaskId.mk.injEq]

theorem Registry.records_registerAll_empty (history : List TaskEntry) :
    (empty.registerAll history).Records history := by
  refine ⟨?_, ?_, size_registerAll_empty history, isEmpty_registerAll_empty_iff history⟩
  · intro id
    exact resolve?_registerAll_empty history ⟨id⟩
  · intro id
    rw [resolve?_registerAll_empty, lastPath?_eq_none_iff]
    simp only [ne_eq, TaskId.eq_mk_iff]

namespace Registry.Records

variable {r r' : Registry} {history history' : List TaskEntry}

/-- Only the registrations of a task decide on its path. -/
theorem resolve?_eq (hr : r.Records history) (hr' : r'.Records history') {id : String}
    (hown : history'.filter (·.task = ⟨id⟩) = history.filter (·.task = ⟨id⟩)) :
    r'.resolve? ⟨id⟩ = r.resolve? ⟨id⟩ := by
  rw [hr.path, hr'.path, ← lastPath?_filter history', hown, lastPath?_filter]

/-- Which tasks there are does not depend on the order of their registrations. -/
theorem size_eq (hr : r.Records history) (hr' : r'.Records history')
    (hperm : history'.Perm history) : r'.size = r.size := by
  rw [hr.size, hr'.size, List.toFinset_eq_of_perm _ _ (hperm.map TaskEntry.task)]

theorem isEmpty_eq (hr : r.Records history) (hr' : r'.Records history')
    (hperm : history'.Perm history) : r'.isEmpty = r.isEmpty := by
  rw [Bool.eq_iff_iff, hr.isEmpty_iff, hr'.isEmpty_iff, ← List.length_eq_zero_iff,
    ← List.length_eq_zero_iff, hperm.length_eq]

end Registry.Records

/-- Neighbours of different tasks may change places, as far as any one task is concerned. -/
theorem filter_task_swap {a b : TaskEntry} (hne : a.task ≠ b.task) (earlier later : List TaskEntry)
    (task : TaskId) :
    (earlier ++ b :: a :: later).filter (·.task = task) =
      (earlier ++ a :: b :: later).filter (·.task = task) := by
  rw [List.filter_append, List.filter_append]
  by_cases ha : a.task = task
  · have hb : b.task ≠ task := fun hb => hne (ha.trans hb.symm)
    simp [ha, hb]
  · simp [List.filter_cons, ha]

/-- The second list takes turns among the given ones: each of them is in it as a whole and in its order. -/
inductive Interleaving {ι α : Type} [DecidableEq ι] : (ι → List α) → List α → Prop
  | done (sources : ι → List α) (hnone : ∀ i, sources i = []) : Interleaving sources []
  | next (sources : ι → List α) (i : ι) (first : α) (rest mixed : List α)
      (hfirst : sources i = first :: rest)
      (hmixed : Interleaving (Function.update sources i rest) mixed) :
      Interleaving sources (first :: mixed)

/-- Of what all sources but one do not have, the whole has what that one has. -/
theorem Interleaving.filter_eq {ι α : Type} [DecidableEq ι] {sources : ι → List α} {mixed : List α}
    (hmixed : Interleaving sources mixed) (p : α → Bool) (own : ι)
    (hothers : ∀ i, i ≠ own → ∀ a ∈ sources i, p a = false) :
    mixed.filter p = (sources own).filter p := by
  induction hmixed with
  | done sources hnone => rw [hnone own]
  | next sources i first rest mixed hfirst _ ih =>
      by_cases hi : i = own
      · subst hi
        have hrest := ih fun j hj a ha =>
          hothers j hj a (by rwa [Function.update_of_ne hj] at ha)
        rw [Function.update_self] at hrest
        rw [hfirst, List.filter_cons, List.filter_cons, hrest]
      · have hskip : p first = false := hothers i hi first (by rw [hfirst]; exact List.mem_cons_self)
        have hrest := ih (by
          intro j hj a ha
          by_cases hji : j = i
          · subst hji
            rw [Function.update_self] at ha
            exact hothers j hj a (by rw [hfirst]; exact List.mem_cons_of_mem first ha)
          · rw [Function.update_of_ne hji] at ha
            exact hothers j hj a ha)
        rw [Function.update_of_ne (Ne.symm hi)] at hrest
        rw [List.filter_cons, hskip, if_neg Bool.false_ne_true, hrest]

/-- One registration by a launcher. -/
inductive Registration
  /-- Through a shared handle of the registry. -/
  | register (task : TaskId) (path : Path)
  /-- The same, of an entry that was made before. -/
  | registerEntry (entry : TaskEntry)
  /-- Through the monitor. -/
  | startWatching (task : TaskId) (path : Path)

def Registration.entry : Registration → TaskEntry
  | register task path | startWatching task path => ⟨task, path⟩
  | registerEntry entry => entry

namespace Monitor

def accept (m : Monitor) : Registration → Monitor
  | .register task path => { m with registry := m.registry.register ⟨task, path⟩ }
  | .registerEntry entry => { m with registry := m.registry.register entry }
  | .startWatching task path => m.startWatching ⟨task, path⟩

def acceptAll (m : Monitor) (registrations : List Registration) : Monitor :=
  registrations.foldl accept m

/-- A monitor as it is made, and all registrations so far: those that its registry held before, and those
of its settings in their order. -/
inductive MadeHolding : List TaskEntry → Monitor → Prop
  | ofConfig (config : MonitorConfig) : MadeHolding config.watches (ofConfig config)
  | withRegistry (held : List TaskEntry) (config : MonitorConfig) :
      MadeHolding (held ++ config.watches) (withRegistry (Registry.empty.registerAll held) config)
  /-- While the settings are gone through, others that share the registry may take turns. -/
  | meanwhile {ι : Type} [DecidableEq ι] (held : List TaskEntry) (config : MonitorConfig)
      (others : ι → List TaskEntry) (mixed : List TaskEntry)
      (hmixed : Interleaving (fun source : Option ι => source.elim config.watches others) mixed) :
      MadeHolding (held ++ mixed)
        ⟨(Registry.empty.registerAll held).registerAll mixed, config.maxReadSize⟩

theorem registry_accept (m : Monitor) (registration : Registration) :
    (m.accept registration).registry = m.registry.register registration.entry := by
  cases registration <;> rfl

theorem registry_acceptAll (m : Monitor) (registrations : List Registration) :
    (m.acceptAll registrations).registry =
      m.registry.registerAll (registrations.map Registration.entry) := by
  induction registrations generalizing m with
  | nil => rfl
  | cons registration rest ih =>
      have hrest := ih (m.accept registration)
      rw [registry_accept] at hrest
      exact hrest

theorem MadeHolding.registry_eq {first : List TaskEntry} {m : Monitor} (hmade : MadeHolding first m) :
    m.registry = Registry.empty.registerAll first := by
  cases hmade with
  | ofConfig config => rfl
  | withRegistry held config => exact (Registry.registerAll_append _ _ _).symm
  | meanwhile held config others mixed hmixed => exact (Registry.registerAll_append _ _ _).symm

/-- However a monitor was made, its registry is that of all registrations in their order. -/
theorem MadeHolding.registry_acceptAll {first : List TaskEntry} {m : Monitor} (hmade : MadeHolding first m)
    (run : List Registration) :
    (m.acceptAll run).registry = Registry.empty.registerAll (first ++ run.map Registration.entry) := by
  rw [Monitor.registry_acceptAll, hmade.registry_eq, Registry.registerAll_append]

theorem MadeHolding.records {first : List TaskEntry} {m : Monitor} (hmade : MadeHolding first m)
    (run : List Registration) :
    (m.acceptAll run).registry.Records (first ++ run.map Registration.entry) := by
  rw [hmade.registry_acceptAll]
  exact Registry.records_registerAll_empty _

/-- Whoever registered what and in whatever order the launchers got their turns, a task has the path of
its last registration, and every task counts once.  So the path of a task depends on the registrations of
this task alone: neighbouring registrations of different tasks may change places, and where only one
launcher registers a task, the turns of the others do not matter. -/
theorem acceptAll_records {first : List TaskEntry} {m : Monitor} (hmade : MadeHolding first m)
    (run : List Registration) :
    let r := (m.acceptAll run).registry
    r.Records (first ++ run.map Registration.entry) ∧
    (∀ (first' : List TaskEntry) (m' : Monitor) (run' : List Registration) (id : String),
      MadeHolding first' m' →
      (first' ++ run'.map Registration.entry).filter (·.task = ⟨id⟩) =
        (first ++ run.map Registration.entry).filter (·.task = ⟨id⟩) →
      (m'.acceptAll run').registry.resolve? ⟨id⟩ = r.resolve? ⟨id⟩) ∧
    (∀ (earlier later : List Registration) (a b : Registration),
      run = earlier ++ a :: b :: later → a.entry.task ≠ b.entry.task →
        let swapped := (m.acceptAll (earlier ++ b :: a :: later)).registry
        (∀ id : String, swapped.resolve? ⟨id⟩ = r.resolve? ⟨id⟩) ∧
          swapped.size = r.size ∧ swapped.isEmpty = r.isEmpty) ∧
    ∀ (ι : Type) [DecidableEq ι] (launchers : ι → List Registration) (own : ι) (id : String),
      Interleaving launchers run →
      (∀ i, i ≠ own → ∀ a ∈ launchers i, a.entry.task ≠ ⟨id⟩) →
      r.resolve? ⟨id⟩ = (m.acceptAll (launchers own)).registry.resolve? ⟨id⟩ := by
  intro r
  have hrecords := hmade.records run
  refine ⟨hrecords, ?_, ?_, ?_⟩
  · intro first' m' run' id hmade' hown
    exact hrecords.resolve?_eq (hmade'.records run') hown
  · intro earlier later a b hrun hne swapped
    subst hrun
    have hswapped := hmade.records (earlier ++ b :: a :: later)
    have hperm : (first ++ (earlier ++ b :: a :: later).map Registration.entry).Perm
        (first ++ (earlier ++ a :: b :: later).map Registration.entry) :=
      (((List.Perm.swap a b later).append_left earlier).map Registration.entry).append_left first
    refine ⟨fun id => hrecords.resolve?_eq hswapped ?_, hrecords.size_eq hswapped hperm,
      hrecords.isEmpty_eq hswapped hperm⟩
    simp only [List.map_append, List.map_cons, ← List.append_assoc]
    exact filter_task_swap hne _ _ ⟨id⟩
  · intro ι _ launchers own id hmixed hothers
    apply (hmade.records (launchers own)).resolve?_eq hrecords
    have hown := hmixed.filter_eq (fun a => a.entry.task = ⟨id⟩) own
      fun i hi a ha => decide_eq_false (hothers i hi a ha)
    rw [List.filter_append, List.filter_append, List.filter_map, List.filter_map]
    exact congrArg (fun own => first.filter _ ++ own.map Registration.entry) hown

/-- A registry that was in use before, settings that name a task twice, and two launchers that take turns:
the first has the task `t` for itself. -/
theorem acceptAll_records_two_launchers :
    let held : List TaskEntry := [⟨⟨"t"⟩, ⟨"old"⟩⟩, ⟨⟨""⟩, ⟨"x"⟩⟩]
    let config : MonitorConfig := { watches := [⟨⟨"u"⟩, ⟨"a"⟩⟩, ⟨⟨"t"⟩, ⟨"b"⟩⟩, ⟨⟨"u"⟩, ⟨"c"⟩⟩] }
    let m := withRegistry (Registry.empty.registerAll held) config
    let launchers : Bool → List Registration := fun second =>
      if second then [.registerEntry ⟨⟨"T"⟩, ⟨"e"⟩⟩, .register ⟨"u"⟩ ⟨"f"⟩]
      else [.startWatching ⟨"t"⟩ ⟨"g"⟩, .startWatching ⟨"t"⟩ ⟨"h"⟩]
    let run : List Registration := [.registerEntry ⟨⟨"T"⟩, ⟨"e"⟩⟩, .startWatching ⟨"t"⟩ ⟨"g"⟩,
      .startWatching ⟨"t"⟩ ⟨"h"⟩, .register ⟨"u"⟩ ⟨"f"⟩]
    let r := (m.acceptAll run).registry
    MadeHolding (held ++ config.watches) m ∧ Interleaving launchers run ∧
      r.resolve? ⟨"t"⟩ = some ⟨"h"⟩ ∧ r.resolve? ⟨"u"⟩ = some ⟨"f"⟩ ∧ r.resolve? ⟨"v"⟩ = none ∧
      r.size = 4 ∧
      r.resolve? ⟨"t"⟩ = (m.acceptAll (launchers false)).registry.resolve? ⟨"t"⟩ := by
  intro held config m launchers run r
  have hmade : MadeHolding (held ++ config.watches) m := MadeHolding.withRegistry held config
  have hmixed : Interleaving launchers run := by
    refine .next _ true _ _ _ rfl (.next _ false _ _ _ rfl (.next _ false _ _ _ rfl
      (.next _ true _ _ _ rfl (.done _ ?_))))
    intro second
    cases second <;> rfl
  obtain ⟨hrecords, _, _, halone⟩ := acceptAll_records hmade run
  refine ⟨hmade, hmixed, ?_, ?_, ?_, ?_, halone Bool launchers false "t" hmixed ?_⟩
  · rw [hrecords.path]
    rfl
  · rw [hrecords.path]
    rfl
  · rw [hrecords.path]
    rfl
  · rw [hrecords.size]
    decide
  · intro second hsecond
    cases second with
    | false => exact absurd rfl hsecond
    | true => decide

end Monitor

end TaskTail
