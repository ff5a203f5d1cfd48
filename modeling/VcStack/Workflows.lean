import VcStack.Histories
import VcStack.Runs

/-!
The workflow engine of internal/management/workflow: executor.go and
reconciler.go. The first part is the executor as a function of what the steps do
to the world. The second part is the same executor as a process that can crash
between any two of its effects and is started again by ReconcileTasks from the
saved task; there every Execute and Compensate may behave in any way, except
that it changes no other field of the task than the payload. db.Save is atomic
and succeeds. Logging, the audit events and the time of completion are left out.
-/

namespace VcStack.Workflows

open Histories Runs

inductive TaskStatus where
  | pending
  | running
  | completed
  | failed
  | rollingBack
  | rolledBack
  deriving DecidableEq

structure Task where
  type : String := ""
  resourceUUID : String := ""
  status : TaskStatus := .pending
  currentStep : Nat := 0
  payload : String := ""
  error : String := ""

structure Effect (World : Type) where
  world : World
  payload : String
  error : Option String := none

structure Step (World : Type) where
  name : String
  execute : World → Task → Effect World
  compensate : World → Task → Effect World

section Executor

variable {World : Type} (steps : List (Step World))

def compensateBelow : Nat → World → Task → Option (World × Task)
  | 0, world, task => some (world, task)
  | index + 1, world, task =>
    match steps[index]? with
    | none => none
    | some step =>
      -- A failed compensation is only logged.
      let effect := step.compensate world task
      compensateBelow index effect.world {task with payload := effect.payload}

def failureText (failedAt : Option String) (error : String) : String :=
  "workflow failed at step " ++ failedAt.getD "" ++ ": " ++ error

/-- The world, the saved task and the returned error; `none` for a panic. -/
def rollback (world : World) (task : Task) (failedAt : Nat) :
    Option (World × Task × Option String) :=
  (compensateBelow steps (failedAt + 1) world {task with status := .rollingBack}).map fun ended =>
    (ended.1, {ended.2 with status := .rolledBack},
      some (failureText (steps[failedAt]?.map (·.name)) ended.2.error))

def runSteps : List (Step World) → World → Task → Option (World × Task × Option String)
  | [], world, task => some (world, {task with status := .completed}, none)
  | step :: rest, world, task =>
    let effect := step.execute world task
    let task := {task with payload := effect.payload}
    match effect.error with
    | some error => rollback steps effect.world {task with error := error} task.currentStep
    | none => runSteps rest effect.world {task with currentStep := task.currentStep + 1}

def runWorkflow (world : World) (task : Task) : Option (World × Task × Option String) :=
  runSteps steps (steps.drop task.currentStep) world {task with status := .running}

end Executor

/-- `none` for a type without a workflow: RunByType returns an error and touches
nothing. -/
def runByType {World : Type} (registry : String → Option (List (Step World))) (world : World)
    (task : Task) : Option (World × Task × Option String) :=
  match registry task.type with
  | none => some (world, task, some ("no workflow registered for type: " ++ task.type))
  | some steps => runWorkflow steps world task

inductive Control where
  | starting
  | loop (index : Nat)
  | executing (index : Nat)
  | executed (index : Nat)
  | failing (failedAt : Nat)
  /-- rollback has still to compensate the steps below an index -/
  | compensating (failedAt below : Nat)
  | completing
  | returned (error : Option String)
  | panicked

structure Process where
  control : Control
  task : Task

inductive Event where
  | began (index : Nat) (payload : String)
  | succeeded (index : Nat) (payload : String)
  | failed (index : Nat) (error : String)
  | compensated (index : Nat)
  | saved (task : Task)

structure State where
  persisted : Task
  process : Option Process := none
  history : List Event := []

def State.enter (state : State) (task : Task) (control : Control) (events : List Event) : State :=
  {state with
    process := some {control := control, task := task}
    history := state.history ++ events}

def State.save (state : State) (task : Task) (control : Control) : State :=
  {state.enter task control [.saved task] with persisted := task}

inductive Action where
  /-- RunByType on the new task, or ReconcileTasks after a restart -/
  | resume
  | advance
  /-- Execute returns with a payload and an error or nil -/
  | finish (payload : String) (error : Option String)
  /-- Compensate returns with a payload; its error is only logged -/
  | compensate (payload : String)
  | crash

variable {event : Event} {index failedAt : Nat} {payload : String} {process : Process}

section Machine

-- The names of the workflow's steps.
variable (names : List String)

def resume (task : Task) : Option Process :=
  match task.status with
  | .pending | .running => some {control := .starting, task := task}
  | .rollingBack => some {control := .failing task.currentStep, task := task}
  | .completed | .failed | .rolledBack => none

def advance (state : State) (task : Task) : Control → Option State
  | .starting =>
    let task := {task with status := .running}
    some (state.save task (.loop task.currentStep))
  | .loop index =>
    if index < names.length then
      some (state.enter task (.executing index) [.began index task.payload])
    else some (state.enter task .completing [])
  | .executed index => some (state.save {task with currentStep := index + 1} (.loop (index + 1)))
  | .failing failedAt =>
    some (state.save {task with status := .rollingBack} (.compensating failedAt (failedAt + 1)))
  | .compensating failedAt 0 =>
    some (state.save {task with status := .rolledBack}
      (.returned (some (failureText names[failedAt]? task.error))))
  | .compensating _ (index + 1) =>
    if index < names.length then none else some (state.enter task .panicked [])
  | .completing => some (state.save {task with status := .completed} (.returned none))
  | .executing _ | .returned _ | .panicked => none

def step (state : State) : Action → Option State
  | .resume =>
    match state.process with
    | none => (resume state.persisted).map fun process => {state with process := some process}
    | some _ => none
  | .advance => state.process.bind fun process => advance names state process.task process.control
  | .finish payload error =>
    state.process.bind fun process =>
      match process.control with
      | .executing index =>
        let task := {process.task with payload := payload}
        match error with
        | none => some (state.enter task (.executed index) [.succeeded index payload])
        | some error => some (state.enter {task with error := error} (.failing index)
            [.failed index error])
      | _ => none
  | .compensate payload =>
    state.process.bind fun process =>
      match process.control with
      | .compensating failedAt (index + 1) =>
        if index < names.length then
          some (state.enter {process.task with payload := payload}
            (.compensating failedAt index) [.compensated index])
        else none
      | _ => none
  | .crash => some {state with process := none}

def IsSuccess (index : Nat) : Event → Prop
  | .succeeded other _ => other = index
  | _ => False

def Done (history : List Event) (count : Nat) : Prop :=
  ∀ index < count, ∃ payload, Event.succeeded index payload ∈ history

/-- The latest success of the step left the payload, and it was saved with the
progress made by that success. -/
def HandedOver (history : List Event) (index : Nat) (payload : String) : Prop :=
  ∃ after, Latest (IsSuccess index) history (.succeeded index payload) after ∧
    ∃ task, .saved task ∈ after ∧ task.payload = payload ∧ task.currentStep = index + 1

/-- Successes come in step order, and an Execute sees what the step before it
handed over. -/
def Relies (history : List Event) : Event → Prop
  | .succeeded index _ => Done history index
  | .began (index + 1) payload => HandedOver history index payload
  | _ => True

structure Safe (state : State) : Prop where
  completed : state.persisted.status = .completed → Done state.history names.length
  relies : Each Relies state.history
  valid : state.persisted.status = .rollingBack → state.persisted.currentStep < names.length
  inRange : ∀ process, state.process = some process → process.control ≠ .panicked

variable {names}

def Ready (history : List Event) : Nat → String → Prop
  | 0, _ => True
  | index + 1, payload => HandedOver history index payload

structure Recorded (names : List String) (history : List Event) (task : Task) : Prop where
  done : Done history task.currentStep
  bound : task.currentStep ≤ names.length
  ready : task.status = .pending ∨ task.status = .running → Ready history task.currentStep task.payload
  completed : task.status = .completed → task.currentStep = names.length
  valid : task.status = .rollingBack → task.currentStep < names.length

def Fits (names : List String) (state : State) (process : Process) : Prop :=
  match process.control with
  | .starting => process.task = state.persisted ∧
      (state.persisted.status = .pending ∨ state.persisted.status = .running)
  | .loop index => process.task = state.persisted ∧ state.persisted.status = .running ∧
      state.persisted.currentStep = index
  | .executing index => process.task = state.persisted ∧ state.persisted.status = .running ∧
      state.persisted.currentStep = index ∧ index < names.length
  | .executed index => process.task.status = .running ∧ state.persisted.currentStep = index ∧
      index < names.length ∧
      Latest (IsSuccess index) state.history (.succeeded index process.task.payload) []
  | .failing failedAt => process.task.currentStep = failedAt ∧
      state.persisted.currentStep = failedAt ∧ failedAt < names.length
  | .compensating _ below => below ≤ names.length ∧
      process.task.currentStep = state.persisted.currentStep ∧
      state.persisted.currentStep < names.length
  | .completing => process.task = state.persisted ∧ state.persisted.status = .running ∧
      state.persisted.currentStep = names.length
  | .returned _ => True
  | .panicked => False

structure Sound (names : List String) (state : State) : Prop where
  relies : Each Relies state.history
  recorded : Recorded names state.history state.persisted
  fits : ∀ process, state.process = some process → Fits names state process

variable (history : List Event) {state : State} (task : Task)

theorem sound_safe (state : State) (sound : Sound names state) : Safe names state where
  completed finished := by
    rw [← sound.recorded.completed finished]
    exact sound.recorded.done
  relies := sound.relies
  valid := sound.recorded.valid
  inRange process running panicked := by
    have fits := sound.fits process running
    simp [Fits, panicked] at fits

theorem done_snoc {count : Nat} (done : Done history count) :
    Done (history ++ [event]) count := by
  intro index below
  obtain ⟨payload, member⟩ := done index below
  exact ⟨payload, List.mem_append_left _ member⟩

theorem handed_over_snoc
    (handed : HandedOver history index payload) (other : ¬ IsSuccess index event) :
    HandedOver (history ++ [event]) index payload := by
  obtain ⟨after, latest, task, saved, fields⟩ := handed
  exact ⟨after ++ [event], latest_snoc_other latest other, task,
    List.mem_append_left _ saved, fields⟩

theorem recorded_snoc (recorded : Recorded names history task)
    (other : ∀ index, task.currentStep = index + 1 → ¬ IsSuccess index event) :
    Recorded names (history ++ [event]) task where
  done := done_snoc history recorded.done
  bound := recorded.bound
  ready resumable := by
    have before := recorded.ready resumable
    cases count : task.currentStep with
    | zero => trivial
    | succ index =>
      rw [count] at before
      exact handed_over_snoc history before (other index count)
  completed := recorded.completed
  valid := recorded.valid

theorem sound_record {control : Control} (sound : Sound names state)
    (relies : Relies state.history event)
    (other : ∀ index, state.persisted.currentStep = index + 1 → ¬ IsSuccess index event)
    (fits : Fits names (state.enter task control [event]) ⟨control, task⟩) :
    Sound names (state.enter task control [event]) where
  relies := (each_snoc_iff state.history).mpr ⟨sound.relies, relies⟩
  recorded := recorded_snoc state.history state.persisted sound.recorded other
  fits process running := by
    cases running
    exact fits

theorem sound_save {control : Control} (sound : Sound names state)
    (recorded : Recorded names (state.history ++ [Event.saved task]) task)
    (fits : Fits names (state.save task control) ⟨control, task⟩) :
    Sound names (state.save task control) where
  relies := (each_snoc_iff state.history).mpr ⟨sound.relies, trivial⟩
  recorded := recorded
  fits process running := by
    cases running
    exact fits

theorem saved_no_success : ¬ IsSuccess index (.saved task) := id

theorem recorded_save (sound : Sound names state)
    (step : task.currentStep = state.persisted.currentStep)
    (ready : task.status = .pending ∨ task.status = .running →
      task.payload = state.persisted.payload ∧
        (state.persisted.status = .pending ∨ state.persisted.status = .running))
    (completed : task.status = .completed → task.currentStep = names.length)
    (valid : task.status = .rollingBack → task.currentStep < names.length) :
    Recorded names (state.history ++ [Event.saved task]) task := by
  have kept := recorded_snoc state.history state.persisted sound.recorded
    (fun index _ => saved_no_success task)
  constructor
  · rw [step]
    exact kept.done
  · rw [step]
    exact kept.bound
  · intro resumable
    obtain ⟨payload, earlier⟩ := ready resumable
    rw [step, payload]
    exact kept.ready earlier
  · exact completed
  · exact valid

theorem recorded_close (sound : Sound names state)
    (step : task.currentStep = state.persisted.currentStep)
    (closed : ¬ (task.status = .pending ∨ task.status = .running))
    (completed : task.status = .completed → task.currentStep = names.length)
    (valid : task.status = .rollingBack → task.currentStep < names.length) :
    Recorded names (state.history ++ [Event.saved task]) task :=
  recorded_save task sound step (fun resumable => absurd resumable closed) completed valid

theorem recorded_progress (sound : Sound names state)
    (current : state.persisted.currentStep = index) (inside : index < names.length)
    (status : task.status = .running) (step : task.currentStep = index + 1)
    (latest : Latest (IsSuccess index) state.history (.succeeded index task.payload) []) :
    Recorded names (state.history ++ [Event.saved task]) task := by
  constructor
  · intro other below
    rw [step] at below
    rcases Nat.lt_succ_iff_lt_or_eq.mp below with earlier | same
    · rw [← current] at earlier
      exact done_snoc _ sound.recorded.done other earlier
    · obtain ⟨before, shape⟩ := latest.there
      exact ⟨task.payload, by simp [shape, same]⟩
  · rw [step]
    exact inside
  · intro _
    rw [step]
    refine ⟨[.saved task], ?_, task, List.mem_singleton_self _, rfl, step⟩
    exact latest_snoc_other latest (saved_no_success task)
  · intro finished
    rw [status] at finished
    contradiction
  · intro rolling
    rw [status] at rolling
    contradiction

/-- The head of the for loop calls Execute on a valid index and leaves the loop
only with every step done. -/
theorem loop_sound {next : State} {task : Task} (sound : Sound names state)
    (fits : task = state.persisted ∧ state.persisted.status = .running ∧
      state.persisted.currentStep = index)
    (taken : advance names state task (.loop index) = some next) : Sound names next := by
  obtain ⟨same, status, current⟩ := fits
  simp only [advance] at taken
  split at taken
  · rename_i inside
    cases taken
    apply sound_record _ sound
    · have ready := sound.recorded.ready (Or.inr status)
      rw [current] at ready
      rw [same]
      cases index with
      | zero => trivial
      | succ index => exact ready
    · exact fun _ _ => id
    · exact ⟨same, status, current, inside⟩
  · rename_i outside
    cases taken
    refine ⟨by simpa [State.enter] using sound.relies,
      by simpa [State.enter] using sound.recorded, fun _ entered => ?_⟩
    cases entered
    have bound := sound.recorded.bound
    exact ⟨same, status, by simp only [State.enter]; omega⟩

theorem advance_sound {next : State} (sound : Sound names state)
    (running : state.process = some process)
    (taken : advance names state process.task process.control = some next) : Sound names next := by
  have fits := sound.fits process running
  unfold Fits at fits
  cases control : process.control with
  | starting =>
    simp only [control, advance, Option.some.injEq] at fits taken
    obtain ⟨same, resumable⟩ := fits
    subst taken
    rw [same]
    apply sound_save _ sound
    · exact recorded_save _ sound rfl (fun _ => ⟨rfl, resumable⟩)
        (fun finished => by contradiction) (fun rolling => by contradiction)
    · exact ⟨rfl, rfl, rfl⟩
  | loop index =>
    rw [control] at fits taken
    exact loop_sound sound fits taken
  | executing index => simp [control, advance] at taken
  | executed index =>
    simp only [control, advance, Option.some.injEq] at fits taken
    obtain ⟨status, current, inside, latest⟩ := fits
    subst taken
    apply sound_save _ sound
    · exact recorded_progress _ sound current inside status rfl latest
    · exact ⟨rfl, status, rfl⟩
  | failing failedAt =>
    simp only [control, advance, Option.some.injEq] at fits taken
    obtain ⟨step, current, inside⟩ := fits
    subst taken
    apply sound_save _ sound
    · exact recorded_close _ sound (step.trans current.symm) (by simp)
        (fun finished => by contradiction) (fun _ => step ▸ inside)
    · exact ⟨inside, rfl, step ▸ inside⟩
  | compensating failedAt below =>
    simp only [control] at fits taken
    obtain ⟨bound, step, inside⟩ := fits
    cases below with
    | zero =>
      simp only [advance, Option.some.injEq] at taken
      subst taken
      apply sound_save _ sound
      · exact recorded_close _ sound step (by simp)
          (fun finished => by contradiction) (fun rolling => by contradiction)
      · trivial
    | succ index =>
      -- The index is valid, so the process waits for Compensate here.
      have valid : index < names.length := bound
      simp [advance, valid] at taken
  | completing =>
    simp only [control, advance, Option.some.injEq] at fits taken
    obtain ⟨same, status, current⟩ := fits
    subst taken
    rw [same]
    apply sound_save _ sound
    · exact recorded_close _ sound rfl (by simp)
        (fun _ => current) (fun rolling => by contradiction)
    · trivial
  | returned error => simp [control, advance] at taken
  | panicked => simp [control, advance] at taken

theorem finish_sound
    (sound : Sound names state) (running : state.process = some process)
    (control : process.control = .executing index) :
    Sound names (state.enter {process.task with payload := payload} (.executed index)
      [.succeeded index payload]) := by
  have fits := sound.fits process running
  simp only [Fits, control] at fits
  obtain ⟨same, status, current, inside⟩ := fits
  apply sound_record _ sound
  · exact current ▸ sound.recorded.done
  · intro earlier later success
    change index = earlier at success
    omega
  · exact ⟨same ▸ status, current, inside, latest_snoc_self⟩

theorem fail_sound {error : String}
    (sound : Sound names state) (running : state.process = some process)
    (control : process.control = .executing index) :
    Sound names (state.enter {process.task with payload := payload, error := error}
      (.failing index) [.failed index error]) := by
  have fits := sound.fits process running
  simp only [Fits, control] at fits
  obtain ⟨same, status, current, inside⟩ := fits
  apply sound_record _ sound
  · trivial
  · exact fun _ _ => id
  · exact ⟨same ▸ current, current, inside⟩

/-- ReconcileTasks finds the process where the saved task allows it. -/
theorem resume_fits (recorded : Recorded names state.history state.persisted)
    (resumed : resume state.persisted = some process) : Fits names state process := by
  unfold resume at resumed
  split at resumed
  · rename_i status
    cases resumed
    exact ⟨rfl, Or.inl status⟩
  · rename_i status
    cases resumed
    exact ⟨rfl, Or.inr status⟩
  · rename_i status
    cases resumed
    exact ⟨rfl, rfl, recorded.valid status⟩
  all_goals contradiction

theorem step_sound (state : State) (action : Action) (next : State) (sound : Sound names state)
    (taken : step names state action = some next) : Sound names next := by
  cases action with
  | resume =>
    simp only [step] at taken
    split at taken
    · obtain ⟨process, resumed, same⟩ := Option.map_eq_some_iff.mp taken
      subst same
      refine ⟨sound.relies, sound.recorded, fun entered running => ?_⟩
      cases running
      exact resume_fits sound.recorded resumed
    · contradiction
  | advance =>
    obtain ⟨process, running, moved⟩ := Option.bind_eq_some_iff.mp taken
    exact advance_sound sound running moved
  | finish payload error =>
    obtain ⟨process, running, moved⟩ := Option.bind_eq_some_iff.mp taken
    split at moved
    · rename_i index control
      cases error with
      | none =>
        cases moved
        exact finish_sound sound running control
      | some error =>
        cases moved
        exact fail_sound sound running control
    · contradiction
  | compensate payload =>
    obtain ⟨process, running, moved⟩ := Option.bind_eq_some_iff.mp taken
    split at moved
    · rename_i failedAt index control
      split at moved
      · cases moved
        have fits := sound.fits process running
        simp only [Fits, control] at fits
        obtain ⟨bound, step, inside⟩ := fits
        apply sound_record _ sound
        · trivial
        · exact fun _ _ => id
        · exact ⟨by omega, step, inside⟩
      · contradiction
    · contradiction
  | crash =>
    cases taken
    exact ⟨sound.relies, sound.recorded, fun process running => by contradiction⟩

theorem created_sound (status : task.status = .pending) (fresh : task.currentStep = 0) :
    Sound names {persisted := task} := by
  refine ⟨each_nil, ?_, fun process running => by contradiction⟩
  constructor
  · intro index below
    rw [fresh] at below
    contradiction
  · rw [fresh]
    exact Nat.zero_le _
  · intro _
    rw [fresh]
    trivial
  · intro finished
    rw [status] at finished
    contradiction
  · intro rolling
    rw [status] at rolling
    contradiction

/-- The runs of a newly created task, whatever its steps return and wherever the
process crashes. -/
theorem workflow_crash_safe (names : List String) (type resourceUUID payload : String)
    (actions : List Action) :
    Always (step names) (Safe names)
      {persisted := {type := type, resourceUUID := resourceUUID, payload := payload}} actions :=
  always_of_invariant (Sound names) sound_safe step_sound actions _ (created_sound _ rfl rfl)

end Machine

section Agreement

variable {World : Type} (steps : List (Step World))

def names : List String := steps.map (·.name)

def uncrashed (names : List String) (state : State) : Action → Option State
  | .crash => none
  | action => step names state action

theorem uncrashed_run {names : List String} (state last : State)
    (reached : Reaches (uncrashed names) state last) :
    ∃ actions, Action.crash ∉ actions ∧ run (step names) state actions = some last := by
  obtain ⟨actions, ran⟩ := reached
  refine ⟨actions, ?_⟩
  induction actions generalizing state with
  | nil => exact ⟨List.not_mem_nil, ran⟩
  | cons action rest ih =>
    obtain ⟨next, taken, onward⟩ := Option.bind_eq_some_iff.mp ran
    obtain ⟨none, later⟩ := ih next onward
    have steady : action ≠ .crash ∧ step names state action = some next := by
      cases action with
      | crash => contradiction
      | _ => exact ⟨by simp, taken⟩
    refine ⟨by simp [none, steady.1.symm], ?_⟩
    rw [run, steady.2]
    exact later

theorem compensate_reaches {below : Nat} (world : World) (task persisted : Task)
    (history : List Event) (bound : below ≤ steps.length) :
    ∃ ended, compensateBelow steps below world task = some ended ∧
      ∃ later, Reaches (uncrashed (names steps))
        ⟨persisted, some ⟨.compensating failedAt below, task⟩, history⟩
        ⟨persisted, some ⟨.compensating failedAt 0, ended.2⟩, later⟩ := by
  induction below generalizing world task history with
  | zero => exact ⟨(world, task), rfl, history, reaches_refl⟩
  | succ index ih =>
    have inside : index < steps.length := bound
    obtain ⟨ended, compensated, later, onward⟩ := ih (steps[index].compensate world task).world
      {task with payload := (steps[index].compensate world task).payload}
      (history ++ [Event.compensated index]) (by omega)
    refine ⟨ended, ?_, later, ?_⟩
    · rw [compensateBelow, List.getElem?_eq_getElem inside]
      exact compensated
    · apply reaches_step _ (.compensate (steps[index].compensate world task).payload) _ onward
      simp [uncrashed, step, names, inside, State.enter]

variable {world : World} {rest : List (Step World)}

theorem rollback_reaches {task : Task} (persisted : Task)
    (history : List Event) (inside : failedAt < steps.length) :
    ∃ after ended error, rollback steps world task failedAt = some (after, ended, error) ∧
      ∃ later, Reaches (uncrashed (names steps)) ⟨persisted, some ⟨.failing failedAt, task⟩, history⟩
        ⟨ended, some ⟨.returned error, ended⟩, later⟩ := by
  let rolling : Task := {task with status := .rollingBack}
  obtain ⟨ended, compensated, later, onward⟩ := compensate_reaches steps
    world rolling rolling (history ++ [Event.saved rolling]) inside
  have returned : rollback steps world task failedAt = some (ended.1,
      {ended.2 with status := .rolledBack},
      some (failureText (steps[failedAt]?.map (·.name)) ended.2.error)) := by
    simp only [rollback]
    rw [compensated]
    rfl
  refine ⟨_, _, _, returned, later ++ [Event.saved {ended.2 with status := .rolledBack}], ?_⟩
  apply reaches_step _ .advance rfl
  apply reaches_trans _ onward
  apply reaches_step _ .advance _ reaches_refl
  simp [uncrashed, step, advance, names, State.save, State.enter]

theorem rollback_rolls_back {task : Task}
    (inside : failedAt < steps.length) :
    ∃ after ended error, rollback steps world task failedAt = some (after, ended, error) ∧
      ended.status = .rolledBack := by
  obtain ⟨after, ended, error, returned, _⟩ := rollback_reaches steps task [] inside
  refine ⟨after, ended, error, returned, ?_⟩
  obtain ⟨compensated, _, same⟩ := Option.map_eq_some_iff.mp returned
  cases same
  rfl

theorem run_steps_failed {current : Step World}
    {task : Task} (error : String) (failed : (current.execute world task).error = some error)
    (inside : task.currentStep < steps.length) :
    ∃ after ended answer, runSteps steps (current :: rest) world task = some (after, ended, answer) ∧
      ended.status = .rolledBack := by
  simp only [runSteps, failed]
  exact rollback_rolls_back steps inside

theorem run_steps_succeeded {current : Step World}
    {task : Task} (succeeded : (current.execute world task).error = none) :
    runSteps steps (current :: rest) world task =
      runSteps steps rest (current.execute world task).world
        {task with
          payload := (current.execute world task).payload
          currentStep := task.currentStep + 1} := by
  simp only [runSteps, succeeded]

theorem run_steps_reaches (world : World) (task : Task)
    (history : List Event) (remaining : steps.drop task.currentStep = rest)
    (bound : task.currentStep ≤ steps.length) :
    ∃ after ended error, runSteps steps rest world task = some (after, ended, error) ∧
      ∃ later, Reaches (uncrashed (names steps)) ⟨task, some ⟨.loop task.currentStep, task⟩, history⟩
        ⟨ended, some ⟨.returned error, ended⟩, later⟩ := by
  induction rest generalizing world task history with
  | nil =>
    have outside : ¬ task.currentStep < (names steps).length := by
      simpa [names] using List.drop_eq_nil_iff.mp remaining
    refine ⟨_, _, _, rfl, history ++ [] ++ [Event.saved {task with status := .completed}], ?_⟩
    apply reaches_step ⟨task, some ⟨.completing, task⟩, history ++ []⟩ .advance
    · simp [uncrashed, step, advance, outside, State.enter]
    · exact reaches_step _ .advance rfl reaches_refl
  | cons current rest ih =>
    have inside : task.currentStep < steps.length := by
      apply Nat.lt_of_not_le
      intro outside
      rw [List.drop_eq_nil_of_le outside] at remaining
      contradiction
    let effect := current.execute world task
    let begun : List Event := history ++ [Event.began task.currentStep task.payload]
    have enters : uncrashed (names steps)
        ⟨task, some ⟨.loop task.currentStep, task⟩, history⟩ .advance =
          some ⟨task, some ⟨.executing task.currentStep, task⟩, begun⟩ := by
      simp [uncrashed, step, advance, names, inside, State.enter, begun]
    cases outcome : effect.error with
    | some error =>
      obtain ⟨after, ended, answer, rolled, later, onward⟩ := rollback_reaches steps task
        (begun ++ [Event.failed task.currentStep error]) inside
      refine ⟨after, ended, answer, ?_, later, ?_⟩
      · simp only [runSteps, effect] at outcome rolled ⊢
        rw [outcome]
        exact rolled
      · apply reaches_step _ _ enters
        exact reaches_step _ (.finish effect.payload (some error)) rfl onward
    | none =>
      let progressed : Task :=
        {task with payload := effect.payload, currentStep := task.currentStep + 1}
      have after : steps.drop progressed.currentStep = rest := by
        rw [← List.drop_drop, remaining]
        rfl
      obtain ⟨last, ended, answer, ran, later, onward⟩ := ih effect.world progressed
        (begun ++ [Event.succeeded task.currentStep effect.payload] ++
          [Event.saved progressed]) after inside
      refine ⟨last, ended, answer, ?_, later, ?_⟩
      · simp only [runSteps, effect] at outcome ran ⊢
        rw [outcome]
        exact ran
      · apply reaches_step _ _ enters
        apply reaches_step _ (.finish effect.payload none) rfl
        exact reaches_step _ .advance rfl onward

/-- On a task within the workflow the function returns, and without a crash the process
can end with the same saved task and the same answer. -/
theorem run_workflow_reaches {task : Task} {history : List Event}
    (bound : task.currentStep ≤ steps.length)
    (resumable : task.status = .pending ∨ task.status = .running) :
    ∃ after ended error, runWorkflow steps world task = some (after, ended, error) ∧
      ∃ actions later, Action.crash ∉ actions ∧
        run (step (names steps)) ⟨task, none, history⟩ actions =
          some ⟨ended, some ⟨.returned error, ended⟩, later⟩ := by
  let running : Task := {task with status := .running}
  obtain ⟨after, ended, error, ran, later, onward⟩ := run_steps_reaches steps world running
    (history ++ [Event.saved running]) rfl bound
  have reached : Reaches (uncrashed (names steps)) ⟨task, none, history⟩
      ⟨ended, some ⟨.returned error, ended⟩, later⟩ := by
    apply reaches_step ⟨task, some ⟨.starting, task⟩, history⟩ .resume
    · rcases resumable with status | status <;> simp [uncrashed, step, resume, status]
    · exact reaches_step _ .advance rfl onward
  obtain ⟨actions, none, led⟩ := uncrashed_run _ _ reached
  exact ⟨after, ended, error, ran, actions, later, none, led⟩

def broken : Step Unit := ⟨"boot", fun _ _ => ⟨(), "", some "off"⟩, fun _ _ => ⟨(), "", none⟩⟩

theorem broken_reaches : ∃ after ended error,
    runWorkflow [broken] () {} = some (after, ended, error) ∧
      ∃ actions later, Action.crash ∉ actions ∧
        run (step (names [broken])) ⟨{}, none, []⟩ actions =
          some ⟨ended, some ⟨.returned error, ended⟩, later⟩ :=
  run_workflow_reaches [broken] (Nat.zero_le _) (.inl rfl)

variable {property : World → Prop}

theorem compensate_keeps (kept : ∀ step ∈ steps, ∀ world task, property world →
      property (step.compensate world task).world) {below : Nat} (world : World) (task : Task)
    {ended : World × Task} (compensated : compensateBelow steps below world task = some ended)
    (holds : property world) :
    property ended.1 := by
  induction below generalizing world task with
  | zero =>
    cases compensated
    exact holds
  | succ index ih =>
    rw [compensateBelow] at compensated
    split at compensated
    · contradiction
    · rename_i step found
      exact ih _ _ compensated (kept step (List.mem_of_getElem? found) world task holds)

theorem rollback_keeps (kept : ∀ step ∈ steps, ∀ world task, property world →
      property (step.compensate world task).world) {after : World}
    {task ended : Task} {answer : Option String}
    (rolled : rollback steps world task failedAt = some (after, ended, answer))
    (holds : property world) : property after := by
  obtain ⟨last, compensated, same⟩ := Option.map_eq_some_iff.mp rolled
  cases same
  exact compensate_keeps steps kept _ _ compensated holds

theorem run_steps_keeps (kept : ∀ step ∈ steps, ∀ world task, property world →
      property (step.compensate world task).world)
    (executed : ∀ step ∈ rest, ∀ world task, property world →
      property (step.execute world task).world) (world after : World) (task ended : Task)
    {answer : Option String} (ran : runSteps steps rest world task = some (after, ended, answer))
    (holds : property world) : property after := by
  induction rest generalizing world task with
  | nil =>
    cases ran
    exact holds
  | cons current rest ih =>
    have next := executed current List.mem_cons_self world task holds
    rw [runSteps] at ran
    split at ran
    · exact rollback_keeps steps kept ran next
    · exact ih (fun step member => executed step (List.mem_cons_of_mem _ member)) _ _ ran next

theorem run_steps_settles (world : World) (task : Task)
    (inside : task.currentStep + rest.length ≤ steps.length) :
    ∃ after ended answer, runSteps steps rest world task = some (after, ended, answer) ∧
      (ended.status = .completed ∨ ended.status = .rolledBack) := by
  induction rest generalizing world task with
  | nil => exact ⟨world, _, none, rfl, .inl rfl⟩
  | cons current rest ih =>
    rw [List.length_cons] at inside
    cases outcome : (current.execute world task).error with
    | some error =>
      obtain ⟨after, ended, answer, ran, status⟩ := run_steps_failed steps error outcome (by omega)
      exact ⟨after, ended, answer, ran, .inr status⟩
    | none =>
      rw [run_steps_succeeded steps outcome]
      apply ih
      change task.currentStep + 1 + rest.length ≤ steps.length
      omega

theorem run_workflow_settles {task : Task} (fresh : task.currentStep = 0) :
    ∃ after ended answer, runWorkflow steps world task = some (after, ended, answer) ∧
      (ended.status = .completed ∨ ended.status = .rolledBack) := by
  apply run_steps_settles
  change task.currentStep + (steps.drop task.currentStep).length ≤ steps.length
  simp only [fresh, List.drop_zero, Nat.zero_add, Nat.le_refl]

end Agreement

end VcStack.Workflows
