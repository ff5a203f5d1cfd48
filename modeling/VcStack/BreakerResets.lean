import VcStack.BreakerCalls

/-!
Reset forces the breaker back to closed. It does so by a transition, and a
transition to the state the breaker is in does nothing: the failures counted
while the breaker was closed are still there.
-/

namespace VcStack.BreakerResets

open Runs CircuitBreaker BreakerCalls

variable {calls : Calls} {call : Call} {breaker : Breaker} {now : Int}

section Effects

variable (opts : Options)

def effect (breaker : Breaker) (now : Int) : Call → Breaker
  | .beforeRequest => (beforeRequest opts breaker now).2
  | .afterRequest _ failed => afterRequest opts breaker now failed
  | .readState => checkAutoTransition opts breaker now
  | .reset => transition breaker .closed
  | .enter | .reject | .panic _ | .advance _ => breaker

variable {opts}

theorem step_effect {next : Calls}
    (taken : callStep opts calls call = some next) :
    next.system.breaker = effect opts calls.system.breaker calls.system.now call := by
  cases call with
  | enter =>
    cases taken
    rfl
  | beforeRequest =>
    obtain ⟨_, moved⟩ := Option.ite_none_left_eq_some.mp taken
    obtain ⟨system, stepped, same⟩ := Option.map_eq_some_iff.mp moved
    subst same
    simp only [step] at stepped
    split at stepped <;> cases stepped <;> rfl
  | reject =>
    obtain ⟨_, same⟩ := Option.ite_none_left_eq_some.mp taken
    cases same
    rfl
  | afterRequest admitted failed =>
    obtain ⟨system, stepped, same⟩ := Option.map_eq_some_iff.mp taken
    obtain ⟨_, settled⟩ := Option.ite_none_right_eq_some.mp stepped
    cases settled
    cases failed <;> cases same <;> rfl
  | panic admitted =>
    obtain ⟨_, same⟩ := Option.ite_none_right_eq_some.mp taken
    cases same
    rfl
  | advance elapsed =>
    cases taken
    rfl
  | readState =>
    cases taken
    rfl
  | reset =>
    cases taken
    rfl

def Counting (opts : Options) (breaker : Breaker) : Prop :=
  breaker.state = .closed → 0 ≤ breaker.failures ∧ breaker.failures < opts.failureThreshold

theorem counting_elsewhere (elsewhere : breaker.state ≠ .closed) :
    Counting opts breaker := fun closed => absurd closed elsewhere

theorem counting_zero (positive : 0 < opts.failureThreshold)
    (zero : breaker.failures = 0) : Counting opts breaker := by
  intro _
  omega

variable (opts) in
theorem check_closed (breaker : Breaker) (now : Int)
    (closed : (checkAutoTransition opts breaker now).state = .closed) :
    checkAutoTransition opts breaker now = breaker := by
  rcases check_auto_transition_cases opts breaker now with same | ⟨_, entering⟩
  · exact same
  · rw [entering] at closed
    contradiction

theorem before_closed
    (closed : (beforeRequest opts breaker now).2.state = .closed) :
    (beforeRequest opts breaker now).2 = breaker := by
  have checked := check_closed opts breaker now
  unfold beforeRequest at closed ⊢
  generalize checkAutoTransition opts breaker now = current at checked closed ⊢
  cases state : current.state with
  | closed =>
    simp only [state]
    exact checked state
  | opened => simp [state] at closed
  | halfOpen =>
    simp only [state] at closed
    split at closed <;> simp [state] at closed

theorem after_counting (positive : 0 < opts.failureThreshold)
    {failed : Bool} (counting : Counting opts breaker) :
    Counting opts (afterRequest opts breaker now failed) := by
  cases state : breaker.state with
  | closed =>
    obtain ⟨lower, upper⟩ := counting state
    cases failed with
    | true =>
      simp only [afterRequest, onFailure, state, reduceCtorEq, if_false, if_true]
      split
      · apply counting_elsewhere
        rw [transition_state]
        decide
      · rename_i below
        intro _
        dsimp only at below ⊢
        omega
    | false =>
      apply counting_zero positive
      simp [afterRequest, onSuccess, state]
  | opened =>
    apply counting_elsewhere
    cases failed <;> simp [afterRequest, onFailure, onSuccess, state]
  | halfOpen =>
    cases failed with
    | true =>
      apply counting_elsewhere
      simp only [afterRequest, onFailure, state, if_true]
      rw [transition_state]
      decide
    | false =>
      simp only [afterRequest, onSuccess, state, if_true, Bool.false_eq_true, if_false]
      split
      · apply counting_zero positive
        simp [transition]
      · apply counting_elsewhere
        simp

theorem effect_counting (positive : 0 < opts.failureThreshold) (counting : Counting opts breaker) :
    Counting opts (effect opts breaker now call) := by
  cases call with
  | beforeRequest =>
    intro closed
    have same : effect opts breaker now .beforeRequest = breaker := before_closed closed
    rw [same] at closed ⊢
    exact counting closed
  | afterRequest admitted failed => exact after_counting positive counting
  | readState =>
    intro closed
    have same : effect opts breaker now .readState = breaker := check_closed opts breaker now closed
    rw [same] at closed ⊢
    exact counting closed
  | reset =>
    by_cases closed : breaker.state = .closed
    · rw [effect, transition, if_pos closed]
      exact counting
    · apply counting_zero positive
      simp [effect, transition, closed]
  | enter | reject | panic _ | advance _ => exact counting

theorem run_counting (positive : 0 < opts.failureThreshold) {history : List Call}
    (calls last : Calls) (counting : Counting opts calls.system.breaker)
    (ran : run (callStep opts) calls history = some last) :
    Counting opts last.system.breaker := by
  induction history generalizing calls with
  | nil =>
    cases ran
    exact counting
  | cons call rest ih =>
    obtain ⟨next, taken, onward⟩ := Option.bind_eq_some_iff.mp ran
    apply ih next _ onward
    rw [step_effect taken]
    exact effect_counting positive counting

def Failing : Call → Prop
  | .afterRequest _ failed => failed = true
  | .panic _ | .reset => False
  | .enter | .beforeRequest | .reject | .advance _ | .readState => True

def Call.completes : Call → Bool
  | .afterRequest _ _ => true
  | _ => false

def completions (calls : List Call) : Nat := calls.countP Call.completes

theorem completions_append (front back : List Call) :
    completions (front ++ back) = completions front + completions back :=
  List.countP_append

theorem completions_cons {rest : List Call} :
    completions (call :: rest) = completions [call] + completions rest :=
  completions_append [call] rest

theorem failing_effect
    (closed : breaker.state = .closed) (failing : Failing call)
    (few : breaker.failures + completions [call] < opts.failureThreshold) :
    (effect opts breaker now call).state = .closed ∧
      (effect opts breaker now call).failures = breaker.failures + completions [call] := by
  cases call with
  | beforeRequest => simp [effect, beforeRequest, checkAutoTransition, closed, completions, Call.completes]
  | afterRequest admitted failed =>
    cases (failing : failed = true)
    have short : ¬ opts.failureThreshold ≤ breaker.failures + 1 := by
      simp [completions, Call.completes] at few
      omega
    simp [effect, afterRequest, onFailure, closed, short, completions, Call.completes]
  | readState => simp [effect, checkAutoTransition, closed, completions, Call.completes]
  | panic _ | reset => exact absurd failing id
  | enter | reject | advance _ => simp [effect, closed, completions, Call.completes]

theorem last_failure (closed : breaker.state = .closed)
    (enough : opts.failureThreshold ≤ breaker.failures + 1) :
    (afterRequest opts breaker now true).state = .opened := by
  simp only [afterRequest, onFailure, closed, reduceCtorEq, if_false, if_true, ge_iff_le, enough]
  exact transition_state

theorem failing_run (later : List Call) {last : Calls} (calls : Calls)
    (closed : calls.system.breaker.state = .closed) (failing : ∀ call ∈ later, Failing call)
    (few : calls.system.breaker.failures + completions later < opts.failureThreshold)
    (ran : run (callStep opts) calls later = some last) :
    last.system.breaker.state = .closed ∧
      last.system.breaker.failures = calls.system.breaker.failures + completions later := by
  induction later generalizing calls with
  | nil =>
    cases ran
    exact ⟨closed, by simp [completions]⟩
  | cons call rest ih =>
    obtain ⟨next, taken, onward⟩ := Option.bind_eq_some_iff.mp ran
    rw [completions_cons] at few ⊢
    have room : calls.system.breaker.failures + completions [call] < opts.failureThreshold := by
      omega
    obtain ⟨still, counted⟩ := failing_effect closed (failing call List.mem_cons_self) room
    rw [← step_effect taken] at still counted
    obtain ⟨ended, total⟩ := ih next still
      (fun other member => failing other (List.mem_cons_of_mem call member)) (by omega) onward
    exact ⟨ended, by omega⟩

def execute (admitted : Nat) : List Call := [.enter, .beforeRequest, .afterRequest admitted true]

def executes (admitted : Nat) : Nat → List Call
  | 0 => []
  | count + 1 => execute admitted ++ executes admitted count

theorem executes_failing (admitted count : Nat) : ∀ call ∈ executes admitted count, Failing call := by
  induction count with
  | zero => simp [executes]
  | succ count ih => simpa [executes, execute, Failing] using ih

theorem completions_executes (admitted count : Nat) :
    completions (executes admitted count) = count := by
  induction count with
  | zero => rfl
  | succ count ih =>
    rw [executes, completions_append, ih]
    have one : completions (execute admitted) = 1 := rfl
    omega

variable (opts) in
theorem execute_runs (calls : Calls) (idle : Idle calls)
    (closed : calls.system.breaker.state = .closed) :
    ∃ next, run (callStep opts) calls (execute calls.system.entered) = some next ∧ Idle next ∧
      next.system.entered = calls.system.entered ∧
      next.system.breaker = afterRequest opts calls.system.breaker calls.system.now true := by
  obtain ⟨entering, rejecting, landed⟩ := idle
  have admits : beforeRequest opts calls.system.breaker calls.system.now =
      (none, calls.system.breaker) := by
    simp [beforeRequest, checkAutoTransition, closed]
  have elsewhere : (afterRequest opts calls.system.breaker calls.system.now true).state ≠
      .halfOpen := by
    intro still
    have before := (after_request_half_open _ still).1
    rw [closed] at before
    contradiction
  refine ⟨{calls with
      system := {calls.system with
        breaker := afterRequest opts calls.system.breaker calls.system.now true}
      totalRequests := calls.totalRequests + 1
      totalFailures := calls.totalFailures + 1}, ?_, ⟨entering, rejecting, landed⟩, rfl, rfl⟩
  simp [execute, run, callStep, beforeCall, afterCall, step, admits, System.settle, System.launch,
    System.complete, elsewhere]

variable (opts) in
theorem executes_run (count : Nat) (calls : Calls) (idle : Idle calls)
    (closed : calls.system.breaker.state = .closed)
    (few : calls.system.breaker.failures + count < opts.failureThreshold) :
    ∃ next, run (callStep opts) calls (executes calls.system.entered count) = some next ∧
      Idle next ∧ next.system.entered = calls.system.entered := by
  induction count generalizing calls with
  | zero => exact ⟨calls, rfl, idle, rfl⟩
  | succ count ih =>
    obtain ⟨middle, ran, still, entered, _⟩ := execute_runs opts calls idle closed
    have one : completions (execute calls.system.entered) = 1 := rfl
    obtain ⟨closes, counted⟩ := failing_run (execute calls.system.entered) calls closed
      (executes_failing calls.system.entered 1) (by omega) ran
    obtain ⟨last, onward, ended, same⟩ := ih middle still closes (by omega)
    refine ⟨last, ?_, ended, same.trans entered⟩
    rw [executes, run_append, ran]
    rw [entered] at onward
    exact onward

/-- Closed, and open again after as many failures as the threshold says and no
fewer, however the calls overlap. -/
def FreshStart (opts : Options) (calls : Calls) : Prop :=
  calls.system.breaker.state = .closed ∧
  (∀ later last, (∀ call ∈ later, Failing call) → run (callStep opts) calls later = some last →
    (completions later : Int) < opts.failureThreshold → last.system.breaker.state = .closed) ∧
  ∀ later admitted last, (∀ call ∈ later, Failing call) →
    run (callStep opts) calls (later ++ [Call.afterRequest admitted true]) = some last →
    (completions later : Int) + 1 = opts.failureThreshold → last.system.breaker.state = .opened

theorem fresh_start_of_zero (closed : calls.system.breaker.state = .closed)
    (zero : calls.system.breaker.failures = 0) : FreshStart opts calls := by
  refine ⟨closed, fun later last failing ran few => ?_, fun later admitted last failing ran reached => ?_⟩
  · exact (failing_run later calls closed failing (by omega) ran).1
  · rw [run_append] at ran
    obtain ⟨middle, before, after⟩ := Option.bind_eq_some_iff.mp ran
    obtain ⟨still, counted⟩ := failing_run later calls closed failing (by omega) before
    obtain ⟨final, taken, ended⟩ := Option.bind_eq_some_iff.mp after
    cases ended
    rw [step_effect taken]
    exact last_failure still (by omega)

theorem stale_failures_open (idle : Idle calls)
    (closed : calls.system.breaker.state = .closed) (stale : 0 < calls.system.breaker.failures)
    (below : calls.system.breaker.failures < opts.failureThreshold) : ¬ FreshStart opts calls := by
  rintro ⟨_, stays, _⟩
  obtain ⟨missing, total⟩ : ∃ missing : Nat,
      calls.system.breaker.failures + missing + 1 = opts.failureThreshold :=
    ⟨(opts.failureThreshold - calls.system.breaker.failures - 1).toNat, by omega⟩
  have counts := completions_executes calls.system.entered missing
  have failing := executes_failing calls.system.entered missing
  obtain ⟨middle, ran, still, entered⟩ := executes_run opts missing calls idle closed (by omega)
  obtain ⟨before, counted⟩ := failing_run _ calls closed failing (by omega) ran
  obtain ⟨last, taken, _, _, left⟩ := execute_runs opts middle still before
  rw [entered] at taken
  -- One failure more opens the breaker, and the threshold is not reached yet.
  have early := stays (executes calls.system.entered missing ++ execute calls.system.entered) last
    (fun call member => (List.mem_append.mp member).elim (failing call)
      (executes_failing calls.system.entered 1 call))
    (by rw [run_append, ran]; exact taken)
    (by
      have one : completions (execute calls.system.entered) = 1 := rfl
      rw [completions_append]
      omega)
  rw [left, last_failure before (by omega)] at early
  contradiction

end Effects

/-- After any history without a call in flight, Reset gives a fresh start exactly
when it does not find the breaker closed with failures counted. -/
theorem reset_fresh_iff (opts : Options) (history : List Call) (calls reset : Calls)
    (reached : run (callStep opts.defaults) {} history = some calls) (idle : Idle calls)
    (taken : callStep opts.defaults calls .reset = some reset) :
    FreshStart opts.defaults reset ↔
      (calls.system.breaker.state = .closed → calls.system.breaker.failures = 0) := by
  have positive := (defaults_positive opts).1
  have counting := run_counting positive {} calls (counting_zero positive rfl) reached
  have left := step_effect taken
  have closed : reset.system.breaker.state = .closed := by
    rw [left]
    exact transition_state
  have still : Idle reset := by
    cases taken
    exact idle
  by_cases before : calls.system.breaker.state = .closed
  · -- The transition to the same state changes nothing.
    rw [effect, transition, if_pos before] at left
    obtain ⟨lower, upper⟩ := counting before
    constructor
    · intro fresh _
      by_contra counted
      refine stale_failures_open still closed ?_ ?_ fresh
      · rw [left]
        omega
      · rw [left]
        exact upper
    · intro zero
      apply fresh_start_of_zero closed
      rw [left]
      exact zero before
  · refine iff_of_true ?_ fun again => absurd again before
    apply fresh_start_of_zero closed
    rw [left, effect, transition, if_neg before]

/-- Two failures open the breaker, and Reset closes it with nothing counted. -/
theorem open_breaker_reset :
    ∃ calls reset, run (callStep testOptions.defaults) {} (executes 0 2) = some calls ∧
      calls.system.breaker.state = .opened ∧
      callStep testOptions.defaults calls .reset = some reset ∧
      FreshStart testOptions.defaults reset := by
  refine ⟨_, _, rfl, by decide, rfl, ?_⟩
  exact (reset_fresh_iff testOptions (executes 0 2) _ _ rfl (by decide) rfl).mpr (by decide)

/-- With a threshold of two: one failure, a reset, and the next failure opens the
breaker. -/
theorem first_failure_after_reset_opens :
    testOptions.defaults.failureThreshold = 2 ∧
      ∃ calls reset last, run (callStep testOptions.defaults) {} (executes 0 1) = some calls ∧
        Idle calls ∧ callStep testOptions.defaults calls .reset = some reset ∧
        reset.system.breaker.state = .closed ∧
        run (callStep testOptions.defaults) reset (execute 0) = some last ∧
        last.system.breaker.state = .opened :=
  ⟨by decide, _, _, _, rfl, by decide, rfl, by decide, rfl, by decide⟩

end VcStack.BreakerResets
