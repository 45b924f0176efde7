/-
Tasks that share a monitor.  What a task gets is decided by its own registrations, by its own requests,
and by what its own files are like when it asks.  Whatever else is registered, asked for or changed
meanwhile, it gets what a monitor would give it that serves nothing but this task.
-/
import Mathlib.Data.List.Basic
import Mathlib.Tactic.Common
import TaskTail.Proofs.Monitor.Answer
import TaskTail.Proofs.Monitor.Registrations

namespace TaskTail

/-- What happens while a monitor serves. -/
inductive Event
  | register (registration : Registration)
  /-- The files change in any way, and are like this from now on. -/
  | files (now : Opening)
  | call (request : WireRequest)

/-- A monitor and what its files are like. -/
structure Scene where
  monitor : Monitor
  opening : Opening

namespace Scene

def after (s : Scene) : Event → Scene
  | .register registration => { s with monitor := s.monitor.accept registration }
  | .files now => { s with opening := now }
  | .call _ => s

/-- The answer that the task gets, if the event is a request for it. -/
def answerTo? (s : Scene) (task : TaskId) :
    Event → Option (WireRequest × Except Status WireReply)
  | .register _ | .files _ => none
  | .call request =>
      if ⟨request.task⟩ = task then some (request, s.monitor.readOutput s.opening request) else none

/-- The requests for a task in a run, each with its answer. -/
def answersTo (s : Scene) (task : TaskId) :
    List Event → List (WireRequest × Except Status WireReply)
  | [] => []
  | event :: rest => (s.answerTo? task event).toList ++ (s.after event).answersTo task rest

end Scene

/-- What concerns a task. -/
inductive Concern
  /-- It is registered. -/
  | registered (path : Path)
  /-- It is asked for, while the files that it has been registered with are like this. -/
  | asked (request : WireRequest) (files : List (Path × Except IoError OpenFile))

/-- What concerns a task in a run, in its order.  The task has been registered with `paths` before, the
last of them first, and the files are like `opening` when the run starts. -/
def concerns (task : TaskId) (paths : List Path) (opening : Opening) : List Event → List Concern
  | [] => []
  | .register registration :: rest =>
      if registration.entry.task = task then
        .registered registration.entry.path ::
          concerns task (registration.entry.path :: paths) opening rest
      else concerns task paths opening rest
  | .files now :: rest => concerns task paths now rest
  | .call request :: rest =>
      if ⟨request.task⟩ = task then
        .asked request (paths.map fun path => (path, opening path)) ::
          concerns task paths opening rest
      else concerns task paths opening rest

/-- There are the given files and no others. -/
def openingOf (files : List (Path × Except IoError OpenFile)) : Opening :=
  fun path => (files.lookup path).getD (.error .notFound)

theorem openingOf_map (opening : Opening) {paths : List Path} {path : Path} (hpath : path ∈ paths) :
    openingOf (paths.map fun path => (path, opening path)) path = opening path := by
  rw [openingOf, List.lookup_graph opening hpath, Option.getD_some]

/-- The events that make up a concern, when there are no other tasks and no other files. -/
def Concern.events (task : TaskId) : Concern → List Event
  | registered path => [.register (.register task path)]
  | asked request files => [.files (openingOf files), .call request]

/-- A reply depends on the path of its task and on what that path opens. -/
theorem readRange_congr {registry registry' : Registry} {opening opening' : Opening}
    {request : RangeRequest}
    (hpath : registry'.resolve? request.task = registry.resolve? request.task)
    (hopening : ∀ path, registry.resolve? request.task = some path → opening' path = opening path) :
    readRange registry' opening' request = readRange registry opening request := by
  cases hfound : registry.resolve? request.task with
  | none => rw [readRange_of_unknown hfound, readRange_of_unknown (hpath.trans hfound)]
  | some path => simp only [readRange, hpath, hfound, hopening path hfound]

namespace Monitor

/-- All that a task can tell of a monitor: the cap on its reads, and its current path, which is the last
one that it was registered with. -/
structure Offers (m : Monitor) (task : TaskId) (cap : Nat) (paths : List Path) : Prop where
  cap : m.maxReadSize = cap
  path : m.registry.resolve? task = paths.head?

variable {m m' : Monitor} {task : TaskId} {cap : Nat} {paths : List Path}

theorem offers_empty (task : TaskId) (cap : Nat) : (Monitor.mk .empty cap).Offers task cap [] :=
  ⟨rfl, Registry.resolve?_empty task⟩

theorem maxReadSize_accept (m : Monitor) (registration : Registration) :
    (m.accept registration).maxReadSize = m.maxReadSize := by
  cases registration <;> rfl

theorem Offers.accept_own (hm : m.Offers task cap paths) (registration : Registration)
    (hown : registration.entry.task = task) :
    (m.accept registration).Offers task cap (registration.entry.path :: paths) := by
  constructor
  · rw [maxReadSize_accept, hm.cap]
  · rw [registry_accept, Registry.resolve?_register, if_pos hown]
    rfl

/-- No registration of another task shows. -/
theorem Offers.accept_other (hm : m.Offers task cap paths) (registration : Registration)
    (hother : registration.entry.task ≠ task) : (m.accept registration).Offers task cap paths := by
  constructor
  · rw [maxReadSize_accept, hm.cap]
  · rw [registry_accept, Registry.resolve?_register, if_neg hother, hm.path]

/-- Monitors that offer a task the same answer it alike, as long as its files are alike. -/
theorem Offers.readOutput_eq {request : WireRequest} (hm : m.Offers ⟨request.task⟩ cap paths)
    (hm' : m'.Offers ⟨request.task⟩ cap paths) {opening opening' : Opening}
    (hfiles : ∀ path ∈ paths, opening' path = opening path) :
    m'.readOutput opening' request = m.readOutput opening request := by
  rcases request.accepted_or_negative with haccepted | hnegative
  · rw [readOutput_of_accepted m opening haccepted, readOutput_of_accepted m' opening' haccepted,
      hm.cap, hm'.cap]
    congr 1
    apply readRange_congr
    · exact hm'.path.trans hm.path.symm
    · intro path hpath
      exact hfiles path (List.mem_of_head? (hm.path.symm.trans hpath))
  · obtain ⟨message, hmessage⟩ := WireRequest.toRange_of_negative hnegative
    rw [readOutput, readOutput, hmessage]

end Monitor

namespace Scene

variable {task : TaskId} {cap : Nat} {paths : List Path} {request : WireRequest}

theorem answersTo_register (s : Scene) (task : TaskId) (registration : Registration)
    (rest : List Event) :
    s.answersTo task (.register registration :: rest) =
      answersTo ⟨s.monitor.accept registration, s.opening⟩ task rest :=
  rfl

theorem answersTo_files (s : Scene) (task : TaskId) (now : Opening) (rest : List Event) :
    s.answersTo task (.files now :: rest) = answersTo ⟨s.monitor, now⟩ task rest :=
  rfl

theorem answersTo_own_call (s : Scene) (hown : ⟨request.task⟩ = task) (rest : List Event) :
    s.answersTo task (.call request :: rest) =
      (request, s.monitor.readOutput s.opening request) :: s.answersTo task rest := by
  rw [answersTo, answerTo?, if_pos hown]
  rfl

theorem answersTo_other_call (s : Scene) (hother : ⟨request.task⟩ ≠ task) (rest : List Event) :
    s.answersTo task (.call request :: rest) = s.answersTo task rest := by
  rw [answersTo, answerTo?, if_neg hother]
  rfl

/-- A task gets what it gets from a monitor where nothing else happens than what concerns it. -/
theorem answersTo_concerns (s alone : Scene) (hs : s.monitor.Offers task cap paths)
    (halone : alone.monitor.Offers task cap paths) (run : List Event) :
    alone.answersTo task ((concerns task paths s.opening run).flatMap (Concern.events task)) =
      s.answersTo task run := by
  induction run generalizing s alone paths with
  | nil => rfl
  | cons event rest ih =>
      cases event with
      | files now =>
          -- The task alone is shown its files with every request, so it need not be told of changes.
          exact ih ⟨s.monitor, now⟩ alone hs halone
      | register registration =>
          rw [concerns, answersTo_register]
          by_cases hown : registration.entry.task = task
          · rw [if_pos hown]
            exact ih ⟨_, s.opening⟩ ⟨_, alone.opening⟩ (hs.accept_own registration hown)
              (halone.accept_own (.register task registration.entry.path) rfl)
          · rw [if_neg hown]
            exact ih ⟨_, s.opening⟩ alone (hs.accept_other registration hown) halone
      | call request =>
          rw [concerns]
          by_cases hown : ⟨request.task⟩ = task
          · subst hown
            let files := openingOf (paths.map fun path => (path, s.opening path))
            have hanswer : alone.monitor.readOutput files request =
                s.monitor.readOutput s.opening request :=
              hs.readOutput_eq halone fun path hpath => openingOf_map s.opening hpath
            rw [if_pos rfl, List.flatMap_cons, Concern.events, List.cons_append, answersTo_files,
              List.singleton_append, answersTo_own_call _ rfl, answersTo_own_call _ rfl, hanswer,
              ih s ⟨alone.monitor, files⟩ hs halone]
          · rw [if_neg hown, answersTo_other_call s hown]
            exact ih s alone hs halone

theorem answersTo_append (s : Scene) (task : TaskId) (first second : List Event) :
    s.answersTo task (first ++ second) =
      s.answersTo task first ++ (first.foldl after s).answersTo task second := by
  induction first generalizing s with
  | nil => rfl
  | cons event rest ih =>
      rw [List.cons_append, answersTo, answersTo, ih, List.append_assoc]
      rfl

/-- Registrations get no answers. -/
theorem answersTo_registered (m : Monitor) (opening : Opening) (task : TaskId)
    (registrations : List Registration) (run : List Event) :
    answersTo ⟨m, opening⟩ task (registrations.map .register ++ run) =
      answersTo ⟨m.acceptAll registrations, opening⟩ task run := by
  induction registrations generalizing m with
  | nil => rfl
  | cons registration rest ih => exact ih (m.accept registration)

end Scene

namespace Monitor

theorem acceptAll_registerEntry (r : Registry) (cap : Nat) (entries : List TaskEntry) :
    (Monitor.mk r cap).acceptAll (entries.map .registerEntry) = ⟨r.registerAll entries, cap⟩ := by
  induction entries generalizing r with
  | nil => rfl
  | cons entry rest ih => exact ih (r.register entry)

/-- Making a monitor is nothing but registering. -/
theorem MadeHolding.eq_acceptAll {first : List TaskEntry} {m : Monitor} (hmade : MadeHolding first m) :
    m = (Monitor.mk .empty m.maxReadSize).acceptAll (first.map .registerEntry) := by
  rw [acceptAll_registerEntry, ← hmade.registry_eq]

/-- The run from the making of a monitor on. -/
def wholeRun (first : List TaskEntry) (run : List Event) : List Event :=
  (first.map Registration.registerEntry).map .register ++ run

theorem MadeHolding.answersTo_wholeRun {first : List TaskEntry} {m : Monitor} (hmade : MadeHolding first m)
    (opening : Opening) (task : TaskId) (run : List Event) :
    Scene.answersTo ⟨⟨.empty, m.maxReadSize⟩, opening⟩ task (wholeRun first run) =
      Scene.answersTo ⟨m, opening⟩ task run := by
  rw [wholeRun, Scene.answersTo_registered, ← hmade.eq_acceptAll]

/-- Tasks do not get in each other's way.  Two runs of a monitor may differ in all that is registered
under other names, however close these are, in the requests for other tasks and in the files of other
tasks.  If a task has the same registrations and the same requests in both, in the same order, and its own
files are the same at every request, then every one of its requests gets the same answer in both, be it a
reply or a failure. -/
theorem answersTo_eq_of_concerns {first first' : List TaskEntry} {m m' : Monitor}
    (hmade : MadeHolding first m) (hmade' : MadeHolding first' m')
    (hcap : m'.maxReadSize = m.maxReadSize) {task : TaskId}
    {opening opening' : Opening} {run run' : List Event}
    (hconcerns : concerns task [] opening' (wholeRun first' run') =
      concerns task [] opening (wholeRun first run)) :
    Scene.answersTo ⟨m', opening'⟩ task run' = Scene.answersTo ⟨m, opening⟩ task run := by
  have hoffers := offers_empty task m.maxReadSize
  have halone := Scene.answersTo_concerns ⟨_, opening⟩ ⟨_, opening⟩ hoffers hoffers
    (wholeRun first run)
  have halone' := Scene.answersTo_concerns ⟨_, opening'⟩ ⟨_, opening⟩ hoffers hoffers
    (wholeRun first' run')
  rw [← hmade.answersTo_wholeRun, ← hmade'.answersTo_wholeRun, hcap, ← halone, ← halone', hconcerns]

/-- The task `t` between tasks of similar names, which are there in the second run only; between its
requests `t` moves to another file. -/
theorem answersTo_eq_of_concerns_similar_names :
    let config : MonitorConfig := { watches := [⟨⟨"t"⟩, ⟨"a"⟩⟩] }
    let held : List TaskEntry := [⟨⟨"T"⟩, ⟨"a"⟩⟩, ⟨⟨""⟩, ⟨"a"⟩⟩]
    let m := ofConfig config
    let m' := withRegistry (Registry.empty.registerAll held) config
    let opening : Opening := fun path =>
      if path = ⟨"a"⟩ then .ok (.regular ⟨#[1, 2]⟩) else .error .notFound
    let opening' : Opening := fun path =>
      if path = ⟨"a"⟩ then .ok (.regular ⟨#[1, 2]⟩) else .ok .directory
    let now : Opening := fun path =>
      if path = ⟨"b"⟩ then .ok (.regular ⟨#[3]⟩) else .error .notFound
    let run : List Event := [.call ⟨"t", 5, 0⟩, .files now,
      .register (.startWatching ⟨"t"⟩ ⟨"b"⟩), .call ⟨"t", 5, 0⟩, .call ⟨"t", -1, 0⟩]
    let run' : List Event := [.call ⟨"T", 5, 0⟩, .call ⟨"t", 5, 0⟩,
      .register (.register ⟨"ta"⟩ ⟨"b"⟩), .register (.startWatching ⟨"t"⟩ ⟨"b"⟩), .files now,
      .register (.startWatching ⟨"t "⟩ ⟨"a"⟩), .call ⟨"t", 5, 0⟩, .call ⟨"", 5, 0⟩,
      .call ⟨"t", -1, 0⟩]
    (Scene.answersTo ⟨m, opening⟩ ⟨"t"⟩ run).length = 3 ∧
      Scene.answersTo ⟨m', opening'⟩ ⟨"t"⟩ run' = Scene.answersTo ⟨m, opening⟩ ⟨"t"⟩ run := by
  intro config held m m' opening opening' now run run'
  have hmade : MadeHolding config.watches m := MadeHolding.ofConfig config
  have hmade' : MadeHolding (held ++ config.watches) m' := MadeHolding.withRegistry held config
  exact ⟨rfl, answersTo_eq_of_concerns hmade hmade' rfl rfl⟩

end Monitor

namespace Session

/-- What a step of a session is to the monitor: a change or a request.  What a client does is left out. -/
def events (s : Session) : Step → List Event
  | .change (.files action) => [.files (s.world.apply (.files action)).files.openFile]
  | .change (.register entry) => [.register (.registerEntry entry)]
  | .call request => [.call request]
  | .resolve _ | .count | .read _ | .clientRead .. | .tail .. | .poll .. => []

/-- The whole session as the monitor sees it. -/
def eventsOf (s : Session) : List Step → List Event
  | [] => []
  | step :: rest => s.events step ++ (s.step step).1.eventsOf rest

/-- The request for a task that a step made, and what it showed. -/
def answered? (task : TaskId) : Step × StepResult → Option (WireRequest × Except Status WireReply)
  | (.call request, .called answer) => if ⟨request.task⟩ = task then some (request, answer) else none
  | _ => none

/-- The monitor and the files of a session. -/
def scene (s : Session) : Scene :=
  ⟨s.world.monitor, s.world.files.openFile⟩

theorem scene_step (s : Session) (step : Step) :
    (s.step step).1.scene = (s.events step).foldl Scene.after s.scene := by
  cases step with
  | change change => cases change <;> rfl
  | poll name rule =>
      simp only [Session.step]
      split
      · rfl
      · split <;> rfl
  | resolve | count | read | call | clientRead | tail => rfl

theorem answersTo_events (s : Session) (task : TaskId) (step : Step) :
    s.scene.answersTo task (s.events step) = (answered? task (step, (s.step step).2)).toList := by
  cases step with
  | change change => cases change <;> rfl
  | call request => exact List.append_nil _
  | poll name rule | resolve | count | read | clientRead | tail => rfl

/-- What a session shows of the requests for a task is what its monitor answers, as its files change and
tasks are registered. -/
theorem answersTo_eventsOf (s : Session) (task : TaskId) (steps : List Step) :
    s.scene.answersTo task (s.eventsOf steps) =
      (steps.zip (s.run steps)).filterMap (answered? task) := by
  induction steps generalizing s with
  | nil => rfl
  | cons step rest ih =>
      rw [eventsOf, Scene.answersTo_append, answersTo_events, ← scene_step, ih, run,
        List.zip_cons_cons, List.filterMap_cons]
      cases answered? task (step, (s.step step).2) <;> rfl

end Session

end TaskTail
