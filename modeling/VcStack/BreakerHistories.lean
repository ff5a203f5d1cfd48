import VcStack.CircuitBreaker

/-!
The circuit breaker against the history of its calls. Execute has three steps:
beforeRequest under the mutex, the start of fn outside of it, and afterRequest
under the mutex when fn has returned. The history notes completions and state
changes; a call that is admitted and has not started notes how many changes there
were when it was admitted.
-/

namespace VcStack.BreakerHistories

open Runs CircuitBreaker

inductive Event where
  | failed (time : Int)
  | succeeded
  | changed (state : State)

structure History where
  breaker : Breaker := {}
  now : Int := 0
  events : List Event := []
  /-- for every admitted call whose fn has not begun, the changes before its admission -/
  admitted : List Nat := []
  running : Nat := 0

def Event.isChange : Event → Bool
  | .changed _ => true
  | _ => false

def Event.failedAt : Event → Option Int
  | .failed time => some time
  | _ => none

def History.changes (history : History) : Nat := history.events.countP Event.isChange

def recentFailures : List Event → Nat
  | .failed _ :: rest => recentFailures rest + 1
  | _ => 0

def lastFailure (events : List Event) : Option Int := events.findSome? Event.failedAt

def History.settle (history : History) (breaker : Breaker) (completion : List Event) : History :=
  {history with
    breaker := breaker
    events := (if history.breaker.state = breaker.state then [] else [.changed breaker.state]) ++
      completion ++ history.events}

inductive Action where
  | beforeRequest
  /-- fn begins, for some call admitted after so many changes -/
  | start (admission : Nat)
  | afterRequest (failed : Bool)
  | advance (elapsed : Nat)
  | readState
  | readMetrics

variable {failed : Bool} {now : Int}

section Steps

variable (opts : Options)

def History.completion (history : History) (failed : Bool) : Event :=
  if failed then .failed history.now else .succeeded

def History.complete (history : History) (failed : Bool) : History :=
  history.settle (afterRequest opts history.breaker history.now failed) [history.completion failed]

def step (history : History) : Action → Option History
  | .beforeRequest =>
    let answer := beforeRequest opts history.breaker history.now
    let settled := history.settle answer.2 []
    match answer.1 with
    | none => some {settled with admitted := settled.changes :: settled.admitted}
    | some _ => some settled
  | .start admission =>
    if admission ∈ history.admitted then
      some {history with
        admitted := history.admitted.erase admission, running := history.running + 1}
    else none
  | .afterRequest failed =>
    if history.running = 0 then none
    else some {history.complete opts failed with running := history.running - 1}
  | .advance elapsed => some {history with now := history.now + elapsed}
  | .readState => some (history.settle (checkAutoTransition opts history.breaker history.now) [])
  | .readMetrics => some history

def InWindow (history : History) : Prop :=
  history.breaker.state = .opened ∧
    ∃ time, lastFailure history.events = some time ∧ history.now - time < opts.resetTimeout

structure Recorded (history : History) : Prop where
  /-- a closed breaker counts the run of failures, which is short of the threshold -/
  counted : history.breaker.state = .closed →
    history.breaker.failures = recentFailures history.events ∧
      history.breaker.failures < opts.failureThreshold
  timed : history.breaker.state = .opened →
    lastFailure history.events = some history.breaker.lastFailureTime
  /-- an open breaker has admitted none of the calls that wait to start -/
  earlier : history.breaker.state = .opened →
    ∀ admission ∈ history.admitted, admission < history.changes
  past : ∀ admission ∈ history.admitted, admission ≤ history.changes

variable {opts} (history : History) {breaker : Breaker} {completion : List Event}

theorem settle_same (same : breaker.state = history.breaker.state) :
    history.settle breaker completion =
      {history with breaker := breaker, events := completion ++ history.events} := by
  simp [History.settle, same]

theorem settle_changed (other : breaker.state ≠ history.breaker.state) :
    history.settle breaker completion =
      {history with
        breaker := breaker
        events := .changed breaker.state :: (completion ++ history.events)} := by
  simp [History.settle, Ne.symm other]

theorem settle_changes (quiet : completion.countP Event.isChange = 0) :
    (history.settle breaker completion).changes =
      history.changes + if history.breaker.state = breaker.state then 0 else 1 := by
  simp only [History.changes, History.settle, List.countP_append, quiet]
  split
  · simp
  · simp [Event.isChange, Nat.add_comm]

section Settling

variable {history : History} (recorded : Recorded opts history)
include recorded

theorem settle_recorded (quiet : completion.countP Event.isChange = 0)
    (counted : breaker.state = .closed →
      breaker.failures = recentFailures (history.settle breaker completion).events ∧
        breaker.failures < opts.failureThreshold)
    (timed : breaker.state = .opened →
      lastFailure (history.settle breaker completion).events = some breaker.lastFailureTime) :
    Recorded opts (history.settle breaker completion) where
  counted := counted
  timed := timed
  earlier opened := by
    intro admission member
    rw [settle_changes history quiet]
    have bound := recorded.past admission member
    split
    · rename_i same
      exact recorded.earlier (same.trans opened) admission member
    · omega
  past := by
    intro admission member
    rw [settle_changes history quiet]
    have bound := recorded.past admission member
    omega

theorem unchanged_recorded (state : breaker.state = history.breaker.state)
    (failures : breaker.failures = history.breaker.failures)
    (time : breaker.lastFailureTime = history.breaker.lastFailureTime) :
    Recorded opts (history.settle breaker []) := by
  apply settle_recorded recorded rfl
  · intro closed
    rw [settle_same history state, failures]
    exact recorded.counted (state.symm.trans closed)
  · intro opened
    rw [settle_same history state, time]
    exact recorded.timed (state.symm.trans opened)

theorem entering_recorded (quiet : completion.countP Event.isChange = 0)
    (after : breaker.state = .halfOpen) : Recorded opts (history.settle breaker completion) := by
  apply settle_recorded recorded quiet
  · intro closed
    rw [after] at closed
    contradiction
  · intro opened
    rw [after] at opened
    contradiction

theorem launch_recorded (elsewhere : history.breaker.state ≠ .opened) :
    Recorded opts {history with admitted := history.changes :: history.admitted} where
  counted := recorded.counted
  timed := recorded.timed
  earlier opened := absurd opened elsewhere
  past := by
    intro admission member
    rcases List.mem_cons.mp member with now | before
    · exact Nat.le_of_eq now
    · exact recorded.past admission before

theorem before_recorded {next : History} (positive : 0 < opts.maxHalfOpenRequests)
    (taken : step opts history .beforeRequest = some next) : Recorded opts next := by
  obtain ⟨state, answer⟩ | ⟨state, answer⟩ | ⟨state, answer⟩ | ⟨state, _, answer⟩ |
      ⟨state, _, answer⟩ :=
    before_request_cases positive history.breaker history.now
  all_goals
    simp only [step, answer] at taken
    cases taken
  · apply launch_recorded (unchanged_recorded recorded rfl rfl rfl)
    simp [History.settle, state]
  · exact unchanged_recorded recorded rfl rfl rfl
  · exact launch_recorded (entering_recorded recorded rfl rfl) (by simp [History.settle])
  · exact unchanged_recorded recorded rfl rfl rfl
  · refine launch_recorded (unchanged_recorded recorded rfl rfl rfl) ?_
    simp [History.settle, state]

end Settling

theorem completion_quiet :
    [history.completion failed].countP Event.isChange = 0 := by
  cases failed <;> rfl

theorem closed_failure (closed : breaker.state = .closed) :
    (opts.failureThreshold ≤ breaker.failures + 1 ∧
      afterRequest opts breaker now true =
        {breaker with
          state := .opened, failures := 0, successes := 0, halfOpenRequests := 0
          lastFailureTime := now}) ∨
    (breaker.failures + 1 < opts.failureThreshold ∧
      afterRequest opts breaker now true =
        {breaker with failures := breaker.failures + 1, successes := 0, lastFailureTime := now}) := by
  by_cases due : opts.failureThreshold ≤ breaker.failures + 1
  · left
    simp [afterRequest, onFailure, closed, due, transition]
  · right
    have short : breaker.failures + 1 < opts.failureThreshold := by omega
    simp [afterRequest, onFailure, closed, short, Int.not_le.mpr short]

theorem closed_success (closed : breaker.state = .closed) :
    afterRequest opts breaker now false = {breaker with failures := 0, successes := 0} := by
  simp [afterRequest, onSuccess, closed]

theorem opened_completion (opened : breaker.state = .opened) :
    (afterRequest opts breaker now failed).state = .opened ∧
      (afterRequest opts breaker now failed).lastFailureTime =
        if failed then now else breaker.lastFailureTime := by
  cases failed <;> simp [afterRequest, onFailure, onSuccess, opened]

theorem half_open_failure (halfOpen : breaker.state = .halfOpen) :
    afterRequest opts breaker now true =
      {breaker with
        state := .opened, failures := 0, successes := 0, halfOpenRequests := 0
        lastFailureTime := now} := by
  simp [afterRequest, onFailure, halfOpen, transition]

theorem half_open_success (halfOpen : breaker.state = .halfOpen) :
    (afterRequest opts breaker now false).state = .halfOpen ∨
      afterRequest opts breaker now false =
        {breaker with state := .closed, failures := 0, successes := 0, halfOpenRequests := 0} := by
  by_cases last : opts.successThreshold ≤ breaker.successes + 1
  · right
    simp [afterRequest, onSuccess, halfOpen, last, transition]
  · left
    have below : breaker.successes + 1 < opts.successThreshold := by omega
    rw [after_request_counts breaker halfOpen below]
    exact halfOpen

section Completing

variable {history : History} (recorded : Recorded opts history)
include recorded

theorem opening_recorded (before : history.breaker.state ≠ .opened) (after : breaker.state = .opened)
    (time : breaker.lastFailureTime = history.now) :
    Recorded opts (history.settle breaker [history.completion true]) := by
  have other : breaker.state ≠ history.breaker.state := by
    rw [after]
    exact before.symm
  apply settle_recorded recorded (completion_quiet history)
  · intro closed
    rw [after] at closed
    contradiction
  · intro _
    rw [settle_changed history other, time]
    rfl

theorem closing_recorded (positive : 0 < opts.failureThreshold)
    (after : breaker.state = .closed) (none_left : breaker.failures = 0) :
    Recorded opts (history.settle breaker [history.completion false]) := by
  apply settle_recorded recorded (completion_quiet history)
  · intro _
    have run : recentFailures (history.settle breaker [history.completion false]).events = 0 := by
      simp only [History.settle, History.completion]
      split <;> rfl
    rw [run, none_left]
    exact ⟨rfl, positive⟩
  · intro opened
    rw [after] at opened
    contradiction

theorem lengthening_recorded (closed : history.breaker.state = .closed)
    (same : breaker.state = history.breaker.state)
    (longer : breaker.failures = history.breaker.failures + 1)
    (short : breaker.failures < opts.failureThreshold) :
    Recorded opts (history.settle breaker [history.completion true]) := by
  apply settle_recorded recorded (completion_quiet history)
  · intro _
    have counts := (recorded.counted closed).1
    rw [settle_same history same]
    refine ⟨?_, short⟩
    change breaker.failures = ((recentFailures history.events + 1 : Nat) : Int)
    omega
  · intro opened
    rw [same, closed] at opened
    contradiction

theorem closed_recorded (positive : 0 < opts.failureThreshold)
    (closed : history.breaker.state = .closed) : Recorded opts (history.complete opts failed) := by
  unfold History.complete
  cases failed with
  | true =>
    rcases closed_failure closed with ⟨_, after⟩ | ⟨short, after⟩
    · rw [after]
      exact opening_recorded recorded (by simp [closed]) rfl rfl
    · rw [after]
      exact lengthening_recorded recorded closed rfl rfl short
  | false =>
    rw [closed_success closed]
    exact closing_recorded recorded positive closed rfl

theorem opened_recorded (opened : history.breaker.state = .opened) :
    Recorded opts (history.complete opts failed) := by
  obtain ⟨stays, time⟩ := opened_completion opened
  apply settle_recorded recorded (completion_quiet history)
  · intro closed
    rw [stays] at closed
    contradiction
  · intro _
    rw [settle_same history (stays.trans opened.symm), time]
    cases failed with
    | true => rfl
    | false => exact recorded.timed opened

theorem half_open_recorded (positive : 0 < opts.failureThreshold)
    (halfOpen : history.breaker.state = .halfOpen) :
    Recorded opts (history.complete opts failed) := by
  unfold History.complete
  cases failed with
  | true =>
    rw [half_open_failure halfOpen]
    exact opening_recorded recorded (by simp [halfOpen]) rfl rfl
  | false =>
    rcases half_open_success halfOpen with still | after
    · exact entering_recorded recorded (completion_quiet history) still
    · rw [after]
      exact closing_recorded recorded positive rfl rfl

theorem after_recorded (failed : Bool) (positive : 0 < opts.failureThreshold) :
    Recorded opts (history.complete opts failed) := by
  cases state : history.breaker.state with
  | closed => exact closed_recorded recorded positive state
  | opened => exact opened_recorded recorded state
  | halfOpen => exact half_open_recorded recorded positive state

end Completing

theorem step_recorded (action : Action) (next : History)
    (positive : 0 < opts.failureThreshold) (room : 0 < opts.maxHalfOpenRequests)
    (recorded : Recorded opts history) (taken : step opts history action = some next) :
    Recorded opts next := by
  cases action with
  | beforeRequest => exact before_recorded recorded room taken
  | start admission =>
    simp only [step] at taken
    split at taken <;> cases taken
    -- fewer calls wait; the breaker and the events are as they were
    exact {
      counted := recorded.counted
      timed := recorded.timed
      earlier := fun opened other member =>
        recorded.earlier opened other (List.mem_of_mem_erase member)
      past := fun other member => recorded.past other (List.mem_of_mem_erase member)}
  | afterRequest failed =>
    simp only [step] at taken
    split at taken <;> cases taken
    have settled := after_recorded recorded failed positive
    exact ⟨settled.counted, settled.timed, settled.earlier, settled.past⟩
  | advance elapsed =>
    cases taken
    exact ⟨recorded.counted, recorded.timed, recorded.earlier, recorded.past⟩
  | readState =>
    cases taken
    rcases check_auto_transition_cases opts history.breaker history.now with same | ⟨_, entered⟩
    · rw [same]
      exact unchanged_recorded recorded rfl rfl rfl
    · rw [entered]
      exact entering_recorded recorded rfl rfl
  | readMetrics =>
    cases taken
    exact recorded

/-- A step from Closed leads to Open exactly when it is a failed completion that
makes the run of failures as long as the threshold. -/
def OpensOnRun (opts : Options) (history : History) (action : Action) : Prop :=
  history.breaker.state = .closed → ∀ next, step opts history action = some next →
    (next.breaker.state = .opened ↔
      action = .afterRequest true ∧
        (recentFailures history.events : Int) + 1 = opts.failureThreshold)

def RefusesInWindow (opts : Options) (history : History) (action : Action) : Prop :=
  action = .beforeRequest → InWindow opts history →
    (beforeRequest opts history.breaker history.now).1 = some .circuitOpen

/-- A fn that begins in the window belongs to a call that was admitted before the
breaker opened. -/
def StartsAdmitted (opts : Options) (history : History) (action : Action) : Prop :=
  ∀ admission, action = .start admission → InWindow opts history →
    ∀ next, step opts history action = some next → admission < history.changes

theorem failure_opens_iff (recorded : Recorded opts history)
    (closed : history.breaker.state = .closed) :
    (afterRequest opts history.breaker history.now true).state = .opened ↔
      (recentFailures history.events : Int) + 1 = opts.failureThreshold := by
  obtain ⟨counts, short⟩ := recorded.counted closed
  rcases closed_failure closed with ⟨due, after⟩ | ⟨below, after⟩
  · rw [after]
    exact iff_of_true rfl (by omega)
  · rw [after]
    exact iff_of_false (by simp [closed]) (by omega)

theorem step_opens_on_run (action : Action) (recorded : Recorded opts history) :
    OpensOnRun opts history action := by
  intro closed next taken
  cases action with
  | afterRequest failed =>
    simp only [step] at taken
    split at taken <;> cases taken
    cases failed with
    | true =>
      have opens := failure_opens_iff history recorded closed
      simpa [History.complete, History.settle] using opens
    | false =>
      simp [History.complete, History.settle, closed_success closed, closed]
  | beforeRequest =>
    have answer : beforeRequest opts history.breaker history.now = (none, history.breaker) := by
      simp [beforeRequest, checkAutoTransition, closed]
    simp only [step, answer] at taken
    cases taken
    simp [History.settle, closed]
  | start admission =>
    simp only [step] at taken
    split at taken <;> cases taken
    simp [closed]
  | readState =>
    cases taken
    simp [History.settle, checkAutoTransition, closed]
  | advance elapsed =>
    cases taken
    simp [closed]
  | readMetrics =>
    cases taken
    simp [closed]

theorem in_window_refused (recorded : Recorded opts history) (window : InWindow opts history) :
    beforeRequest opts history.breaker history.now = (some .circuitOpen, history.breaker) := by
  obtain ⟨opened, time, last, recent⟩ := window
  have known := recorded.timed opened
  rw [last] at known
  cases known
  have waiting : ¬ history.now - history.breaker.lastFailureTime ≥ opts.resetTimeout := by omega
  simp [beforeRequest, checkAutoTransition, opened, waiting]

theorem step_starts_admitted (action : Action) (recorded : Recorded opts history) :
    StartsAdmitted opts history action := by
  rintro admission rfl window next taken
  simp only [step] at taken
  split at taken
  · rename_i member
    exact recorded.earlier window.1 admission member
  · contradiction

end Steps

theorem initial_recorded {opts : Options} (positive : 0 < opts.failureThreshold) :
    Recorded opts {} where
  counted _ := ⟨rfl, positive⟩
  timed opened := nomatch opened
  earlier opened := nomatch opened
  past _ member := absurd member List.not_mem_nil

/-- Along any interleaving the breaker opens exactly on a run of failures and admits
no call in the window after it. An admitted call begins outside of the mutex, and one
that begins in the window was admitted before the breaker opened. -/
theorem opens_on_run_and_refuses_in_window (opts : Options) (actions : List Action) :
    Guarded (step opts.defaults) (OpensOnRun opts.defaults) {} actions ∧
      Guarded (step opts.defaults) (RefusesInWindow opts.defaults) {} actions ∧
      Guarded (step opts.defaults) (StartsAdmitted opts.defaults) {} actions := by
  obtain ⟨threshold, _, _, room⟩ := defaults_positive opts
  have initial := initial_recorded threshold
  have kept (history : History) (action : Action) (next : History) :=
    step_recorded history action next threshold room
  refine ⟨?_, ?_, ?_⟩
  · exact guarded_of_invariant step_opens_on_run kept initial
  · apply guarded_of_invariant _ kept initial
    intro history action recorded _ window
    rw [in_window_refused history recorded window]
  · exact guarded_of_invariant step_starts_admitted kept initial

/-- Three calls are admitted; two of them fail, which opens the breaker; then the
third begins, no time after the last failed completion. -/
theorem third_call_begins_in_window :
    ∃ waiting begun : History,
      run (step testOptions.defaults) {}
        [Action.beforeRequest, Action.beforeRequest, Action.beforeRequest, Action.start 0,
          Action.start 0, Action.afterRequest true, Action.afterRequest true] = some waiting ∧
      waiting.breaker.state = State.opened ∧ lastFailure waiting.events = some waiting.now ∧
      InWindow testOptions.defaults waiting ∧
      step testOptions.defaults waiting (Action.start 0) = some begun ∧ begun.running = 1 := by
  refine ⟨_, _, rfl, rfl, rfl, ⟨rfl, _, rfl, ?_⟩, rfl, rfl⟩
  decide

end VcStack.BreakerHistories
