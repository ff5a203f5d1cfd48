import VcStack.Workflows

/-!
Which steps a rollback compensates. The loop of rollback starts at the step that
failed, and after a crash it starts there again.
-/

namespace VcStack.WorkflowRollbacks

open Histories Runs Workflows

def compensates : Event → Option Nat
  | .compensated index => some index
  | _ => none

def fails : Event → Option Nat
  | .failed index _ => some index
  | _ => none

def invocations (history : List Event) : List Nat := history.filterMap compensates

def Failed (history : List Event) (index : Nat) : Prop :=
  (history.filterMap fails).getLast? = some index

def LastDescending (steps : List Nat) : Prop :=
  ∀ lower upper, lower < upper → lower ∈ steps → upper ∈ steps →
    ∃ front back, steps = front ++ back ∧ upper ∉ back ∧ lower ∈ back

def descending (count : Nat) : List Nat := (List.range count).reverse

variable {count index failedAt : Nat} {event : Event} {process : Process}

theorem descending_succ : descending (count + 1) = count :: descending count := by
  simp [descending, List.range_succ]

theorem mem_descending : index ∈ descending count ↔ index < count := by
  simp [descending]

theorem descending_split {lower : Nat} (below : lower < count) :
    ∃ front, descending count = front ++ descending (lower + 1) := by
  induction count with
  | zero => omega
  | succ count ih =>
    rcases Nat.lt_succ_iff_lt_or_eq.mp below with smaller | same
    · obtain ⟨front, shape⟩ := ih smaller
      exact ⟨count :: front, by rw [descending_succ, shape, List.cons_append]⟩
    · subst same
      exact ⟨[], rfl⟩

theorem last_descending {front : List Nat}
    (within : ∀ index ∈ front, index < count) : LastDescending (front ++ descending count) := by
  intro lower upper less lowers uppers
  have bounded : ∀ index ∈ front ++ descending count, index < count := by
    intro index member
    rcases List.mem_append.mp member with earlier | last
    · exact within index earlier
    · exact mem_descending.mp last
  obtain ⟨passed, shape⟩ := descending_split (bounded lower lowers)
  refine ⟨front ++ passed, descending (lower + 1), by rw [shape, List.append_assoc], ?_, ?_⟩
  · rw [mem_descending]
    omega
  · rw [mem_descending]
    omega

variable (history : List Event)

theorem invocations_snoc :
    invocations (history ++ [event]) = invocations history ++ (compensates event).toList := by
  rw [invocations, List.filterMap_append]
  cases found : compensates event <;> simp [invocations, found]

theorem invocations_quiet (quiet : compensates event = none) :
    invocations (history ++ [event]) = invocations history := by
  rw [invocations_snoc, quiet]
  exact List.append_nil _

theorem failed_snoc (other : fails event = none)
    (failed : Failed history index) : Failed (history ++ [event]) index := by
  simpa [Failed, List.filterMap_append, List.filterMap_cons, other] using failed

theorem failed_snoc_self {error : String} :
    Failed (history ++ [Event.failed index error]) index := by
  simp [Failed, List.filterMap_append, fails]

def Unwinding (state : State) : Control → Prop
  | .failing failedAt => Failed state.history failedAt ∧
      (state.persisted.status = .running ∨ state.persisted.status = .rollingBack)
  | .compensating failedAt below => state.persisted.status = .rollingBack ∧
      state.persisted.currentStep = failedAt ∧
      ∃ front passed, invocations state.history = front ++ passed ∧
        passed ++ descending below = descending (failedAt + 1)
  | .executed _ => state.persisted.status = .running
  | _ => True

structure Compensated (state : State) : Prop where
  untouched : state.persisted.status ≠ .rollingBack → state.persisted.status ≠ .rolledBack →
    invocations state.history = []
  failed : state.persisted.status = .rollingBack ∨ state.persisted.status = .rolledBack →
    Failed state.history state.persisted.currentStep
  within : ∀ index ∈ invocations state.history, index ≤ state.persisted.currentStep
  complete : state.persisted.status = .rolledBack →
    ∃ front, invocations state.history = front ++ descending (state.persisted.currentStep + 1)
  process : ∀ process, state.process = some process → Unwinding state process.control

section Steps

variable {names : List String}

variable {state : State} (task : Task) (control : Control)

theorem compensated_process {process : Option Process} (compensated : Compensated state)
    (unwinding : ∀ running, process = some running → Unwinding state running.control) :
    Compensated {state with process := process} where
  untouched := compensated.untouched
  failed := compensated.failed
  within := compensated.within
  complete := compensated.complete
  process := unwinding

theorem enter_silent :
    state.enter task control [] = {state with process := some ⟨control, task⟩} := by
  simp [State.enter]

theorem compensated_enter (compensated : Compensated state)
    (quiet : compensates event = none)
    (steady : fails event = none ∨ state.persisted.status = .running)
    (unwinding : Unwinding (state.enter task control [event]) control) :
    Compensated (state.enter task control [event]) := by
  have same : invocations (state.history ++ [event]) = invocations state.history :=
    invocations_quiet state.history quiet
  constructor
  · intro rolling rolled
    exact same.trans (compensated.untouched rolling rolled)
  · intro status
    rcases steady with other | running
    · exact failed_snoc _ other (compensated.failed status)
    · change state.persisted.status = .rollingBack ∨ state.persisted.status = .rolledBack at status
      rw [running] at status
      simp at status
  · intro index member
    exact compensated.within index (same ▸ member)
  · intro rolled
    obtain ⟨front, shape⟩ := compensated.complete rolled
    exact ⟨front, same.trans shape⟩
  · intro process running
    cases running
    exact unwinding

theorem compensated_save (untouched : task.status ≠ .rollingBack → task.status ≠ .rolledBack →
      invocations state.history = [])
    (failed : task.status = .rollingBack ∨ task.status = .rolledBack →
      Failed state.history task.currentStep)
    (within : ∀ index ∈ invocations state.history, index ≤ task.currentStep)
    (complete : task.status = .rolledBack →
      ∃ front, invocations state.history = front ++ descending (task.currentStep + 1))
    (unwinding : Unwinding (state.save task control) control) :
    Compensated (state.save task control) := by
  have same : invocations (state.history ++ [.saved task]) = invocations state.history :=
    invocations_quiet state.history rfl
  constructor
  · intro rolling rolled
    exact same.trans (untouched rolling rolled)
  · intro status
    exact failed_snoc _ rfl (failed status)
  · intro index member
    exact within index (same ▸ member)
  · intro rolled
    obtain ⟨front, shape⟩ := complete rolled
    exact ⟨front, same.trans shape⟩
  · intro process running
    cases running
    exact unwinding

theorem compensated_forward (compensated : Compensated state)
    (before : state.persisted.status ≠ .rollingBack ∧ state.persisted.status ≠ .rolledBack)
    (after : task.status ≠ .rollingBack ∧ task.status ≠ .rolledBack)
    (unwinding : Unwinding (state.save task control) control) :
    Compensated (state.save task control) := by
  have nothing := compensated.untouched before.1 before.2
  apply compensated_save task control (fun _ _ => nothing) _ _ _ unwinding
  · intro status
    exact absurd status (not_or.mpr after)
  · rw [nothing]
    exact fun _ member => absurd member List.not_mem_nil
  · intro rolled
    exact absurd rolled after.2

theorem resumable_forward (status : task.status = .pending ∨ task.status = .running) :
    task.status ≠ .rollingBack ∧ task.status ≠ .rolledBack := by
  rcases status with status | status <;> simp [status]

theorem compensated_begin (compensated : Compensated state)
    (status : task.status = .rollingBack) (step : task.currentStep = failedAt)
    (current : state.persisted.currentStep = failedAt) (failed : Failed state.history failedAt) :
    Compensated (state.save task (.compensating failedAt (failedAt + 1))) := by
  apply compensated_save
  · intro rolling
    exact absurd status rolling
  · intro _
    rw [step]
    exact failed
  · rw [step, ← current]
    exact compensated.within
  · intro rolled
    rw [status] at rolled
    contradiction
  · -- The pass starts here, whatever earlier ones have done.
    exact ⟨status, step, invocations (state.save _ _).history, [], (List.append_nil _).symm, rfl⟩

theorem compensated_end (compensated : Compensated state)
    (before : state.persisted.status = .rollingBack) (after : task.status = .rolledBack)
    (step : task.currentStep = state.persisted.currentStep)
    (current : state.persisted.currentStep = failedAt) {front : List Nat}
    (shape : invocations state.history = front ++ descending (failedAt + 1))
    (unwinding : Unwinding (state.save task control) control) :
    Compensated (state.save task control) := by
  apply compensated_save task control _ _ _ _ unwinding
  · intro _ rolled
    exact absurd after rolled
  · intro _
    rw [step]
    exact compensated.failed (.inl before)
  · rw [step]
    exact compensated.within
  · intro _
    rw [step, current]
    exact ⟨front, shape⟩

theorem advance_compensated {next : State} (sound : Sound names state)
    (compensated : Compensated state) (running : state.process = some process)
    (taken : advance names state process.task process.control = some next) : Compensated next := by
  have fits := sound.fits process running
  have unwinding := compensated.process process running
  unfold Fits at fits
  cases control : process.control with
  | starting =>
    simp only [control, advance, Option.some.injEq] at fits taken
    subst taken
    exact compensated_forward _ _ compensated (resumable_forward _ fits.2) (by simp) trivial
  | loop index =>
    simp only [control, advance] at fits taken
    split at taken
    · cases taken
      exact compensated_enter _ _ compensated rfl (.inl rfl) trivial
    · cases taken
      rw [enter_silent]
      apply compensated_process compensated
      intro entered same
      cases same
      trivial
  | executing index => simp [control, advance] at taken
  | executed index =>
    simp only [control, advance, Option.some.injEq, Unwinding] at fits taken unwinding
    subst taken
    exact compensated_forward _ _ compensated (resumable_forward _ (.inr unwinding))
      (by simp [fits.1]) trivial
  | failing failedAt =>
    simp only [control, advance, Option.some.injEq, Unwinding] at fits taken unwinding
    obtain ⟨step, current, _⟩ := fits
    subst taken
    exact compensated_begin _ compensated rfl step current unwinding.1
  | compensating failedAt below =>
    simp only [control, Unwinding] at fits taken unwinding
    obtain ⟨status, current, front, passed, shape, whole⟩ := unwinding
    cases below with
    | zero =>
      simp only [advance, Option.some.injEq] at taken
      subst taken
      have ended : passed = descending (failedAt + 1) := by simpa [descending] using whole
      rw [ended] at shape
      exact compensated_end _ _ compensated status rfl fits.2.1 current shape trivial
    | succ index =>
      -- The index is valid, so the process waits for Compensate here.
      have valid : index < names.length := fits.1
      simp [advance, valid] at taken
  | completing =>
    simp only [control, advance, Option.some.injEq] at fits taken
    subst taken
    exact compensated_forward _ _ compensated (resumable_forward _ (.inr fits.2.1)) (by simp)
      trivial
  | returned error => simp [control, advance] at taken
  | panicked => simp [control, advance] at taken

theorem compensate_compensated {payload : String}
    (compensated : Compensated state) (running : state.process = some process)
    (control : process.control = .compensating failedAt (index + 1)) :
    Compensated (state.enter {process.task with payload := payload} (.compensating failedAt index)
      [.compensated index]) := by
  have unwinding := compensated.process process running
  rw [control] at unwinding
  obtain ⟨status, current, front, passed, shape, whole⟩ := unwinding
  have added : invocations (state.history ++ [.compensated index]) =
      front ++ (passed ++ [index]) := by
    rw [invocations_snoc, shape, List.append_assoc]
    rfl
  rw [descending_succ, List.append_cons] at whole
  constructor
  · intro rolling
    exact absurd status rolling
  · intro _
    exact failed_snoc _ rfl (compensated.failed (.inl status))
  · intro other member
    change other ≤ state.persisted.currentStep
    change other ∈ invocations (state.history ++ [.compensated index]) at member
    rw [added] at member
    rcases List.mem_append.mp member with earlier | last
    · exact compensated.within other (shape ▸ List.mem_append_left _ earlier)
    · have below := mem_descending.mp (whole ▸ List.mem_append_left _ last)
      omega
  · intro rolled
    change state.persisted.status = .rolledBack at rolled
    rw [status] at rolled
    contradiction
  · intro entered same
    cases same
    exact ⟨status, current, front, passed ++ [index], added, whole⟩

theorem resume_compensated (compensated : Compensated state)
    (resumed : resume state.persisted = some process) : Unwinding state process.control := by
  unfold resume at resumed
  split at resumed
  · cases resumed
    trivial
  · cases resumed
    trivial
  · rename_i status
    cases resumed
    exact ⟨compensated.failed (.inl status), .inr status⟩
  all_goals contradiction

theorem step_compensated {action : Action} {next : State} (sound : Sound names state)
    (compensated : Compensated state) (taken : step names state action = some next) :
    Compensated next := by
  cases action with
  | resume =>
    simp only [step] at taken
    split at taken
    · obtain ⟨process, resumed, same⟩ := Option.map_eq_some_iff.mp taken
      subst same
      apply compensated_process compensated
      intro running entered
      cases entered
      exact resume_compensated compensated resumed
    · contradiction
  | advance =>
    obtain ⟨process, running, moved⟩ := Option.bind_eq_some_iff.mp taken
    exact advance_compensated sound compensated running moved
  | finish payload error =>
    obtain ⟨process, running, moved⟩ := Option.bind_eq_some_iff.mp taken
    split at moved
    · rename_i index control
      have fits := sound.fits process running
      simp only [Fits, control] at fits
      obtain ⟨_, status, _⟩ := fits
      cases error with
      | none =>
        cases moved
        exact compensated_enter _ _ compensated rfl (.inl rfl) status
      | some error =>
        cases moved
        exact compensated_enter _ _ compensated rfl (.inr status) ⟨failed_snoc_self _, .inl status⟩
    · contradiction
  | compensate payload =>
    obtain ⟨process, running, moved⟩ := Option.bind_eq_some_iff.mp taken
    split at moved
    · rename_i failedAt index control
      split at moved
      · cases moved
        exact compensate_compensated compensated running control
      · contradiction
    · contradiction
  | crash =>
    cases taken
    apply compensated_process compensated
    intro running entered
    contradiction

end Steps

/-- Compensate was invoked for the steps that completed and for no other, and for
the last time in descending order. -/
def CompensatedExactly (state : State) : Prop :=
  state.persisted.status = .rolledBack →
    ∃ failedAt, Failed state.history failedAt ∧
      (∀ index, index ∈ invocations state.history ↔ index < failedAt) ∧
      LastDescending (invocations state.history)

def CompensatedThroughFailed (state : State) : Prop :=
  state.persisted.status = .rolledBack →
    ∃ failedAt, Failed state.history failedAt ∧
      (∀ index, index ∈ invocations state.history ↔ index ≤ failedAt) ∧
      LastDescending (invocations state.history)

theorem compensated_through {state : State} (compensated : Compensated state) :
    CompensatedThroughFailed state := by
  intro rolled
  obtain ⟨front, shape⟩ := compensated.complete rolled
  refine ⟨state.persisted.currentStep, compensated.failed (.inr rolled), fun index => ?_, ?_⟩
  · constructor
    · exact compensated.within index
    · intro below
      rw [shape, List.mem_append, mem_descending]
      exact .inr (by omega)
  · rw [shape]
    apply last_descending
    intro index member
    have bound := compensated.within index (shape ▸ List.mem_append_left _ member)
    omega

theorem created_compensated (task : Task) (status : task.status = .pending) :
    Compensated {persisted := task} := by
  constructor
  · exact fun _ _ => rfl
  · intro rolled
    simp [status] at rolled
  · exact fun _ member => absurd member List.not_mem_nil
  · intro rolled
    simp [status] at rolled
  · intro process running
    contradiction

/-- A newly created task, whatever its steps return and wherever the process
crashes: when it is rolled back, every step up to the failed one was compensated,
the failed one included. -/
theorem rollback_exact_iff (names : List String) (type resourceUUID payload : String)
    (actions : List Action) (last : State)
    (ran : run (step names)
      {persisted := {type := type, resourceUUID := resourceUUID, payload := payload}} actions =
        some last) :
    CompensatedThroughFailed last ∧
      (CompensatedExactly last ↔ last.persisted.status ≠ .rolledBack) := by
  have holds := always_of_invariant (fun state => Sound names state ∧ Compensated state) (fun state both => both.2)
    (fun state action next both taken => ⟨step_sound state action next both.1 taken,
      step_compensated both.1 both.2 taken⟩) actions _
    ⟨created_sound _ rfl rfl,
      created_compensated {type := type, resourceUUID := resourceUUID, payload := payload} rfl⟩
  have through := compensated_through (always_last _ last holds ran)
  refine ⟨through, fun exactly rolled => ?_, fun unrolled rolled => absurd rolled unrolled⟩
  obtain ⟨failedAt, failed, reached, _⟩ := through rolled
  obtain ⟨other, again, only, _⟩ := exactly rolled
  cases failed.symm.trans again
  exact absurd ((only failedAt).mp ((reached failedAt).mpr (Nat.le_refl _))) (Nat.lt_irrefl _)

def secondFails : List Action :=
  [.resume, .advance, .advance, .finish "" none, .advance, .advance,
    .finish "" (some "no host"), .advance]

def interrupted : List Action :=
  secondFails ++ [Action.compensate "", Action.crash, Action.resume, Action.advance,
    Action.compensate "", Action.compensate "", Action.advance]

/-- The pass is repeated from its start. -/
theorem crashed_rollback_repeated :
    ∃ last, run (step ["allocate", "attach"]) {persisted := {}} interrupted = some last ∧
      last.persisted.status = .rolledBack ∧ invocations last.history = [1, 1, 0] ∧
      CompensatedThroughFailed last :=
  ⟨_, rfl, by decide, by decide,
    (rollback_exact_iff ["allocate", "attach"] "" "" "" interrupted _ rfl).1⟩

/-- The step that failed is compensated first. -/
theorem failed_step_compensated :
    ∃ last, run (step ["allocate", "attach"]) {persisted := {}}
        (secondFails ++ [.compensate "", .compensate "", .advance]) = some last ∧
      last.persisted.status = .rolledBack ∧ Failed last.history 1 ∧
      invocations last.history = [1, 0] :=
  ⟨_, rfl, by decide, rfl, by decide⟩

end VcStack.WorkflowRollbacks
