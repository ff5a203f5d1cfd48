import Mathlib.Algebra.Group.Nat.Defs
import Mathlib.Data.List.Basic
import VcStack.Runs

/-!
The circuit breaker of pkg/circuitbreaker/breaker.go with any number of
concurrent Execute calls. beforeRequest and afterRequest run under the breaker's
mutex, so each is one step; between them a call is in flight while fn runs, and
any other call may move. Times are nanoseconds. Logging and the state change
callback are left out; the request totals, and an fn that panics and so skips
afterRequest, are added by BreakerCalls.
-/

namespace VcStack.CircuitBreaker

open Runs

inductive State where
  | closed
  | opened
  | halfOpen
  deriving DecidableEq

structure Options where
  failureThreshold : Int := 0
  successThreshold : Int := 0
  resetTimeout : Int := 0
  maxHalfOpenRequests : Int := 0

def Options.defaults (opts : Options) : Options where
  failureThreshold := if opts.failureThreshold ≤ 0 then 5 else opts.failureThreshold
  successThreshold := if opts.successThreshold ≤ 0 then 2 else opts.successThreshold
  resetTimeout := if opts.resetTimeout ≤ 0 then 30 * 1000000000 else opts.resetTimeout
  maxHalfOpenRequests := if opts.maxHalfOpenRequests ≤ 0 then 1 else opts.maxHalfOpenRequests

theorem defaults_positive (opts : Options) :
    0 < opts.defaults.failureThreshold ∧ 0 < opts.defaults.successThreshold ∧
      0 < opts.defaults.resetTimeout ∧ 0 < opts.defaults.maxHalfOpenRequests := by
  simp only [Options.defaults]
  refine ⟨?_, ?_, ?_, ?_⟩ <;> split <;> omega

structure Breaker where
  state : State := .closed
  failures : Int := 0
  successes : Int := 0
  halfOpenRequests : Int32 := 0
  lastFailureTime : Int := 0

inductive Error where
  | circuitOpen
  | tooManyRequests

def Error.text : Error → String
  | .circuitOpen => "circuit breaker is open"
  | .tooManyRequests => "circuit breaker: too many requests in half-open state"

def transition (breaker : Breaker) (target : State) : Breaker :=
  if breaker.state = target then breaker
  else {breaker with state := target, failures := 0, successes := 0, halfOpenRequests := 0}

theorem transition_state {breaker : Breaker} {target : State} :
    (transition breaker target).state = target := by
  unfold transition
  split
  · assumption
  · rfl

section Steps

variable (opts : Options)

def checkAutoTransition (breaker : Breaker) (now : Int) : Breaker :=
  if breaker.state = .opened ∧ now - breaker.lastFailureTime ≥ opts.resetTimeout then
    transition breaker .halfOpen
  else breaker

def beforeRequest (breaker : Breaker) (now : Int) : Option Error × Breaker :=
  let breaker := checkAutoTransition opts breaker now
  match breaker.state with
  | .closed => (none, breaker)
  | .opened => (some .circuitOpen, breaker)
  | .halfOpen =>
    if breaker.halfOpenRequests.toInt ≥ opts.maxHalfOpenRequests then
      (some .tooManyRequests, breaker)
    else (none, {breaker with halfOpenRequests := breaker.halfOpenRequests + 1})

def onFailure (breaker : Breaker) (now : Int) : Breaker :=
  let breaker := {breaker with
    failures := breaker.failures + 1, successes := 0, lastFailureTime := now}
  match breaker.state with
  | .closed =>
    if breaker.failures ≥ opts.failureThreshold then transition breaker .opened else breaker
  | .opened => breaker
  | .halfOpen => transition breaker .opened

def onSuccess (breaker : Breaker) : Breaker :=
  match breaker.state with
  | .closed => {breaker with failures := 0, successes := 0}
  | .opened => breaker
  | .halfOpen =>
    let breaker := {breaker with successes := breaker.successes + 1}
    if breaker.successes ≥ opts.successThreshold then transition breaker .closed else breaker

def afterRequest (breaker : Breaker) (now : Int) (failed : Bool) : Breaker :=
  -- The state now decides, not the state the request was admitted in.
  let breaker :=
    if breaker.state = .halfOpen then
      {breaker with halfOpenRequests := breaker.halfOpenRequests - 1}
    else breaker
  if failed then onFailure opts breaker now else onSuccess opts breaker

structure System where
  breaker : Breaker := {}
  now : Int := 0
  /-- how often the breaker has entered the half-open state -/
  entered : Nat := 0
  /-- for every call in flight, the value of `entered` when it was admitted -/
  inFlight : List Nat := []

def System.settle (system : System) (breaker : Breaker) : System :=
  {system with
    breaker := breaker
    entered := if system.breaker.state ≠ .halfOpen ∧ breaker.state = .halfOpen
      then system.entered + 1 else system.entered}

def System.launch (system : System) : System :=
  {system with inFlight := system.entered :: system.inFlight}

def System.complete (system : System) (admitted : Nat) : System :=
  {system with inFlight := system.inFlight.erase admitted}

inductive Action where
  | beforeRequest
  /-- fn has returned for some call admitted at this value of `entered` -/
  | afterRequest (admitted : Nat) (failed : Bool)
  | advance (elapsed : Nat)
  | readState
  | reset

def step (system : System) : Action → Option System
  | .beforeRequest =>
    let answer := beforeRequest opts system.breaker system.now
    let settled := system.settle answer.2
    match answer.1 with
    | none => some settled.launch
    | some _ => some settled
  | .afterRequest admitted failed =>
    if admitted ∈ system.inFlight then
      let settled := system.settle (afterRequest opts system.breaker system.now failed)
      some (settled.complete admitted)
    else none
  | .advance elapsed => some {system with now := system.now + elapsed}
  | .readState => some (system.settle (checkAutoTransition opts system.breaker system.now))
  | .reset => some (system.settle (transition system.breaker .closed))

def System.probes (system : System) : Nat := system.inFlight.count system.entered

def ProbesLimited (system : System) : Prop :=
  system.breaker.state = .halfOpen →
    (system.probes : Int) ≤ opts.maxHalfOpenRequests ∧
      system.breaker.halfOpenRequests.toInt = system.probes

/-- No call from before the half-open state completes in it with a success that
does not close the breaker, and the counter is not at its largest value when
another probe is admitted. -/
def CountsOwnProbes (system : System) : Action → Prop
  | .afterRequest admitted failed =>
    system.breaker.state = .halfOpen → admitted ∈ system.inFlight → admitted ≠ system.entered →
      failed = true ∨ opts.successThreshold ≤ system.breaker.successes + 1
  | .beforeRequest =>
    system.breaker.state = .halfOpen → (system.probes : Int) < opts.maxHalfOpenRequests →
      system.probes < 2 ^ 31 - 1
  | _ => True

end Steps

section Counting

variable {opts : Options} {system : System} {breaker : Breaker} {now : Int} {failed : Bool}
  {counter : Int32} {count : Nat} {next : System}

theorem half_open_admits (breaker : Breaker) (state : breaker.state = .halfOpen)
    (room : breaker.halfOpenRequests.toInt < opts.maxHalfOpenRequests) :
    beforeRequest opts breaker now =
      (none, {breaker with halfOpenRequests := breaker.halfOpenRequests + 1}) := by
  simp [beforeRequest, checkAutoTransition, state, room]

/-- What beforeRequest can do. Entering the half-open state admits the request
that noticed the time. -/
theorem before_request_cases (positive : 0 < opts.maxHalfOpenRequests) (breaker : Breaker)
    (now : Int) :
    (breaker.state = .closed ∧ beforeRequest opts breaker now = (none, breaker)) ∨
    (breaker.state = .opened ∧ beforeRequest opts breaker now = (some .circuitOpen, breaker)) ∨
    (breaker.state = .opened ∧ beforeRequest opts breaker now =
      (none, {breaker with
        state := .halfOpen, failures := 0, successes := 0, halfOpenRequests := 1})) ∨
    (breaker.state = .halfOpen ∧
      opts.maxHalfOpenRequests ≤ breaker.halfOpenRequests.toInt ∧
      beforeRequest opts breaker now = (some .tooManyRequests, breaker)) ∨
    (breaker.state = .halfOpen ∧
      breaker.halfOpenRequests.toInt < opts.maxHalfOpenRequests ∧
      beforeRequest opts breaker now =
        (none, {breaker with halfOpenRequests := breaker.halfOpenRequests + 1})) := by
  cases state : breaker.state with
  | closed => simp [beforeRequest, checkAutoTransition, state]
  | opened =>
    by_cases elapsed : now - breaker.lastFailureTime ≥ opts.resetTimeout
    · have first : ¬ opts.maxHalfOpenRequests ≤ 0 := by omega
      simp [beforeRequest, checkAutoTransition, state, elapsed, transition, first]
    · simp [beforeRequest, checkAutoTransition, state, elapsed]
  | halfOpen =>
    by_cases full : opts.maxHalfOpenRequests ≤ breaker.halfOpenRequests.toInt
    · simp [beforeRequest, checkAutoTransition, state, full]
    · have room : breaker.halfOpenRequests.toInt < opts.maxHalfOpenRequests := by omega
      simp [beforeRequest, checkAutoTransition, state, room]

/-- The one way to be half-open after a completion: a success that is not the
last one needed. -/
theorem after_request_half_open (breaker : Breaker)
    (still : (afterRequest opts breaker now failed).state = .halfOpen) :
    breaker.state = .halfOpen ∧ failed = false ∧ breaker.successes + 1 < opts.successThreshold := by
  cases state : breaker.state with
  | closed =>
    cases failed with
    | true =>
      simp only [afterRequest, onFailure, state, reduceCtorEq, if_false, if_true] at still
      split at still
      · rw [transition_state] at still
        contradiction
      · simp at still
    | false => simp [afterRequest, onSuccess, state] at still
  | opened => cases failed <;> simp [afterRequest, onSuccess, onFailure, state] at still
  | halfOpen =>
    cases failed with
    | true =>
      simp only [afterRequest, onFailure, state, if_true] at still
      rw [transition_state] at still
      contradiction
    | false =>
      simp only [afterRequest, onSuccess, state, if_true, Bool.false_eq_true, if_false] at still
      split at still
      · rw [transition_state] at still
        contradiction
      · rename_i below
        exact ⟨rfl, rfl, by omega⟩

theorem after_request_counts (breaker : Breaker) (state : breaker.state = .halfOpen)
    (below : breaker.successes + 1 < opts.successThreshold) :
    afterRequest opts breaker now false =
      {breaker with
        successes := breaker.successes + 1
        halfOpenRequests := breaker.halfOpenRequests - 1} := by
  have notLast : ¬ opts.successThreshold ≤ breaker.successes + 1 := by omega
  simp [afterRequest, onSuccess, state, notLast]

theorem check_auto_transition_cases (opts : Options) (breaker : Breaker) (now : Int) :
    checkAutoTransition opts breaker now = breaker ∨
      (breaker.state = .opened ∧
        checkAutoTransition opts breaker now =
          {breaker with state := .halfOpen, failures := 0, successes := 0, halfOpenRequests := 0}) := by
  unfold checkAutoTransition
  split
  · rename_i due
    right
    simp [transition, due.1]
  · exact Or.inl rfl

structure Counted (opts : Options) (system : System) : Prop where
  limited : ProbesLimited opts system
  past : ∀ admitted ∈ system.inFlight, admitted ≤ system.entered

theorem fresh_probes (past : ∀ admitted ∈ system.inFlight, admitted ≤ system.entered) :
    system.inFlight.count (system.entered + 1) = 0 := by
  apply List.count_eq_zero.mpr
  intro member
  have bound := past _ member
  omega

theorem counted_elsewhere (counted : Counted opts system) (elsewhere : breaker.state ≠ .halfOpen) :
    Counted opts (system.settle breaker) where
  limited halfOpen := absurd halfOpen elsewhere
  past admitted member := by
    have bound := counted.past admitted member
    simpa [System.settle, elsewhere] using bound

theorem settle_same_state (same : breaker.state = system.breaker.state) :
    system.settle breaker = {system with breaker := breaker} := by
  simp [System.settle, same]

theorem settle_entering (before : system.breaker.state = .opened)
    (after : breaker.state = .halfOpen) :
    system.settle breaker = {system with breaker := breaker, entered := system.entered + 1} := by
  simp [System.settle, before, after]

theorem counted_launch_elsewhere (counted : Counted opts system)
    (elsewhere : system.breaker.state ≠ .halfOpen) : Counted opts system.launch where
  limited halfOpen := absurd halfOpen elsewhere
  past := by simpa [System.launch] using counted.past

theorem counter_successor (counts : counter.toInt = count)
    (room : count < 2 ^ 31 - 1) : (counter + 1).toInt = (count : Int) + 1 := by
  rw [Int32.toInt_add, counts]
  have one : (1 : Int32).toInt = 1 := rfl
  rw [one, Int.bmod_eq_of_le] <;> omega

theorem counter_predecessor (counts : counter.toInt = count)
    (bound : count ≤ 2 ^ 31 - 1) : (counter - 1).toInt = (count : Int) - 1 := by
  rw [Int32.toInt_sub, counts]
  have one : (1 : Int32).toInt = 1 := rfl
  rw [one, Int.bmod_eq_of_le] <;> omega

theorem counter_bound (counts : counter.toInt = count) :
    count ≤ 2 ^ 31 - 1 := by
  have largest := counter.toInt_lt
  omega

theorem counted_enter (positive : 0 < opts.maxHalfOpenRequests) {system : System}
    {breaker : Breaker} (counted : Counted opts system) (before : system.breaker.state = .opened)
    (after : breaker.state = .halfOpen) (counter : breaker.halfOpenRequests = 0) :
    Counted opts (system.settle breaker) := by
  rw [settle_entering before after]
  constructor
  · intro _
    simp only [System.probes, fresh_probes counted.past, counter]
    constructor
    · omega
    · rfl
  · intro admitted member
    have bound := counted.past admitted member
    simp only
    omega

theorem counted_first_probe (positive : 0 < opts.maxHalfOpenRequests) {system : System}
    {breaker : Breaker} (counted : Counted opts system) (before : system.breaker.state = .opened)
    (after : breaker.state = .halfOpen) (counter : breaker.halfOpenRequests = 1) :
    Counted opts (system.settle breaker).launch := by
  rw [settle_entering before after]
  constructor
  · intro _
    simp only [System.probes, System.launch, List.count_cons_self,
      fresh_probes counted.past, counter]
    constructor
    · omega
    · rfl
  · intro admitted member
    rcases List.mem_cons.mp member with same | earlier
    · exact Nat.le_of_eq same
    · have bound := counted.past admitted earlier
      simp only [System.launch]
      omega

theorem counted_probe (counted : Counted opts system) (before : system.breaker.state = .halfOpen)
    (after : breaker.state = .halfOpen)
    (counter : breaker.halfOpenRequests = system.breaker.halfOpenRequests + 1)
    (room : (system.probes : Int) < opts.maxHalfOpenRequests)
    (representable : system.probes < 2 ^ 31 - 1) :
    Counted opts (system.settle breaker).launch := by
  obtain ⟨_, counts⟩ := counted.limited before
  rw [settle_same_state (after.trans before.symm)]
  constructor
  · intro _
    simp only [System.launch, counter, counter_successor counts representable]
    simp only [System.probes, List.count_cons_self] at room ⊢
    omega
  · simpa [System.launch] using counted.past

theorem counted_completion (counted : Counted opts system)
    (before : system.breaker.state = .halfOpen) (after : breaker.state = .halfOpen)
    (counter : breaker.halfOpenRequests = system.breaker.halfOpenRequests - 1)
    (flying : system.entered ∈ system.inFlight) :
    Counted opts ((system.settle breaker).complete system.entered) := by
  obtain ⟨limit, counts⟩ := counted.limited before
  have present : 0 < system.inFlight.count system.entered := List.count_pos_iff.mpr flying
  rw [settle_same_state (after.trans before.symm)]
  constructor
  · intro _
    simp only [System.complete, counter, counter_predecessor counts (counter_bound counts)]
    simp only [System.probes, List.count_erase_self] at limit ⊢
    omega
  · intro admitted member
    exact counted.past admitted (List.mem_of_mem_erase member)

theorem before_request_counted (positive : 0 < opts.maxHalfOpenRequests) {system : System}
    (counted : Counted opts system) (admitted : CountsOwnProbes opts system .beforeRequest)
    (taken : step opts system .beforeRequest = some next) : Counted opts next := by
  obtain ⟨state, answer⟩ | ⟨state, answer⟩ | ⟨state, answer⟩ | ⟨state, _, answer⟩ |
      ⟨state, room, answer⟩ :=
    before_request_cases positive system.breaker system.now
  all_goals
    simp only [step, answer] at taken
    cases taken
  · rw [settle_same_state rfl]
    exact counted_launch_elsewhere counted (by simp [state])
  · rw [settle_same_state rfl]
    exact counted
  · exact counted_first_probe positive counted state rfl rfl
  · rw [settle_same_state rfl]
    exact counted
  · rw [(counted.limited state).2] at room
    exact counted_probe counted state state rfl room (admitted state room)

theorem after_request_counted {call : Nat}
    (counted : Counted opts system)
    (admitted : CountsOwnProbes opts system (.afterRequest call failed))
    (taken : step opts system (.afterRequest call failed) = some next) : Counted opts next := by
  simp only [step] at taken
  split at taken
  · rename_i flying
    cases taken
    by_cases still : (afterRequest opts system.breaker system.now failed).state = .halfOpen
    · obtain ⟨state, succeeded, below⟩ := after_request_half_open _ still
      subst succeeded
      -- A call from before would make the counter lose a probe.
      have own : call = system.entered := by
        by_contra stale
        rcases admitted state flying stale with failed | last
        · contradiction
        · omega
      subst own
      rw [after_request_counts _ state below]
      exact counted_completion counted state state rfl flying
    · have settled := counted_elsewhere counted still
      constructor
      · intro halfOpen
        exact absurd halfOpen still
      · intro other member
        exact settled.past other (List.mem_of_mem_erase member)
  · contradiction

theorem step_counted (positive : 0 < opts.maxHalfOpenRequests) (system : System) (action : Action)
    (next : System) (counted : Counted opts system)
    (admitted : CountsOwnProbes opts system action) (taken : step opts system action = some next) :
    Counted opts next := by
  cases action with
  | beforeRequest => exact before_request_counted positive counted admitted taken
  | afterRequest call failed =>
    exact after_request_counted counted admitted taken
  | advance elapsed =>
    cases taken
    exact ⟨counted.limited, counted.past⟩
  | readState =>
    cases taken
    rcases check_auto_transition_cases opts system.breaker system.now with
      same | ⟨state, entering⟩
    · rw [same, settle_same_state rfl]
      exact counted
    · rw [entering]
      exact counted_enter positive counted state rfl rfl
  | reset =>
    cases taken
    apply counted_elsewhere counted
    rw [transition_state]
    decide

theorem overflow_miscounts (before : system.breaker.state = .halfOpen)
    (after : breaker.state = .halfOpen) (largest : system.probes = 2 ^ 31 - 1) :
    ¬ ProbesLimited opts (system.settle breaker).launch := by
  rw [settle_same_state (after.trans before.symm)]
  intro limited
  have counts := (limited after).2
  have bound := breaker.halfOpenRequests.toInt_lt
  simp only [System.launch, System.probes, List.count_cons_self] at counts largest
  omega

theorem stale_completion_miscounts {call : Nat} (counted : Counted opts system)
    (before : system.breaker.state = .halfOpen) (after : breaker.state = .halfOpen)
    (counter : breaker.halfOpenRequests = system.breaker.halfOpenRequests - 1)
    (stale : call ≠ system.entered) :
    ¬ ProbesLimited opts ((system.settle breaker).complete call) := by
  obtain ⟨_, counts⟩ := counted.limited before
  have decreased := counter_predecessor counts (counter_bound counts)
  rw [settle_same_state (after.trans before.symm)]
  intro limited
  have lost := (limited after).2
  simp only [System.complete, System.probes, List.count_erase_of_ne (Ne.symm stale),
    counter] at lost decreased
  omega

theorem miscounted_step (system : System) (action : Action) (counted : Counted opts system)
    (outside : ¬ CountsOwnProbes opts system action) :
    ∃ next, step opts system action = some next ∧ ¬ ProbesLimited opts next := by
  cases action with
  | beforeRequest =>
    simp only [CountsOwnProbes, not_forall] at outside
    obtain ⟨state, room, overflow⟩ := outside
    obtain ⟨_, counts⟩ := counted.limited state
    have bound := counter_bound counts
    have answer : beforeRequest opts system.breaker system.now = _ :=
      half_open_admits system.breaker state (by omega)
    refine ⟨_, by simp only [step, answer]; rfl, ?_⟩
    exact overflow_miscounts state state (by omega)
  | afterRequest call failed =>
    simp only [CountsOwnProbes, not_forall, not_or, Bool.not_eq_true] at outside
    obtain ⟨state, flying, stale, succeeded, below⟩ := outside
    subst succeeded
    refine ⟨_, by simp only [step, flying, if_true]; rfl, ?_⟩
    rw [after_request_counts _ state (by omega)]
    exact stale_completion_miscounts counted state state rfl stale
  | _ => exact absurd trivial outside

end Counting

/-- With any options, in any interleaving of calls and clock advances, the limit
holds in every state reached exactly when every step meets the condition. -/
theorem half_open_limit_iff (opts : Options) (actions : List Action) :
    Always (step opts.defaults) (ProbesLimited opts.defaults) {} actions ↔
      Guarded (step opts.defaults) (CountsOwnProbes opts.defaults) {} actions := by
  have positive := (defaults_positive opts).2.2.2
  apply always_iff_guarded (Counted opts.defaults)
    (ProbesLimited opts.defaults) (fun system counted => counted.limited) (step_counted positive)
    miscounted_step actions {}
  exact ⟨fun halfOpen => by contradiction, fun admitted member => absurd member List.not_mem_nil⟩

def testOptions : Options where
  failureThreshold := 2
  successThreshold := 2
  resetTimeout := 50 * 1000000

/-- A call admitted before the breaker opened succeeds while the first probe
runs; its completion makes room for a second probe beside a limit of one. -/
theorem old_success_admits_second_probe :
    testOptions.defaults.maxHalfOpenRequests = 1 ∧
      ∃ final, run (step testOptions.defaults) {}
          [.beforeRequest, .beforeRequest, .beforeRequest, .afterRequest 0 true,
            .afterRequest 0 true, .advance (60 * 1000000), .beforeRequest, .afterRequest 0 false,
            .beforeRequest] = some final ∧
        final.breaker.state = .halfOpen ∧ final.probes = 2 ∧ final.breaker.halfOpenRequests = 1 :=
  ⟨by decide, _, rfl, by decide, by decide, by decide⟩

/-- A breaker and the calls that completed since it last entered the half-open
state: the value of `entered` at their admission, and whether they failed. -/
structure Recovery where
  system : System := {}
  completed : List (Nat × Bool) := []

section Evidence

variable (opts : Options)

def Recovery.completing (recovery : Recovery) : Action → List (Nat × Bool)
  | .afterRequest admitted failed => (admitted, failed) :: recovery.completed
  | _ => recovery.completed

def recoveryStep (recovery : Recovery) (action : Action) : Option Recovery :=
  (step opts recovery.system action).map fun next => {
    system := next
    completed := if next.entered = recovery.system.entered then recovery.completing action else [] }

/-- A step from half-open to closed, other than a reset, has behind it the
needed number of successes of calls admitted since, and no failure. -/
def ClosesOnEvidence (recovery : Recovery) (action : Action) : Prop :=
  ∀ next, recoveryStep opts recovery action = some next →
    recovery.system.breaker.state = .halfOpen → next.system.breaker.state = .closed →
      action ≠ .reset →
        opts.successThreshold ≤ (next.completed.count (recovery.system.entered, false) : Int) ∧
          ∀ call ∈ next.completed, call.2 = false

/-- The success that closes the breaker and every completion it adds to are of
calls admitted since the breaker became half-open. -/
def ClosedByProbes (recovery : Recovery) : Action → Prop
  | .afterRequest admitted failed =>
    recovery.system.breaker.state = .halfOpen → admitted ∈ recovery.system.inFlight →
      failed = false → opts.successThreshold ≤ recovery.system.breaker.successes + 1 →
        ∀ call ∈ (admitted, failed) :: recovery.completed, call.1 = recovery.system.entered
  | _ => True

def Tallied (recovery : Recovery) : Prop :=
  recovery.system.breaker.state = .halfOpen →
    (recovery.completed.length : Int) = recovery.system.breaker.successes ∧
      recovery.system.breaker.successes < opts.successThreshold ∧
        ∀ call ∈ recovery.completed, call.2 = false

variable {opts} {failed : Bool} {next : System}

theorem after_request_closes {breaker : Breaker} (now : Int)
    (state : breaker.state = .halfOpen) :
    (afterRequest opts breaker now failed).state = .closed ↔
      failed = false ∧ opts.successThreshold ≤ breaker.successes + 1 := by
  cases failed with
  | true =>
    simp only [afterRequest, onFailure, state, if_true]
    rw [transition_state]
    simp
  | false =>
    simp only [afterRequest, onSuccess, state, if_true, Bool.false_eq_true, if_false]
    split
    · rename_i enough
      rw [transition_state]
      simpa using enough
    · rename_i short
      simpa using short

/-- What a step does when it ends half-open: the state was entered, a success
was counted, or the successes and the completions are as they were. -/
theorem half_open_cases (positive : 0 < opts.maxHalfOpenRequests) {system : System}
    {action : Action} (taken : step opts system action = some next)
    (halfOpen : next.breaker.state = .halfOpen) :
    (next.entered ≠ system.entered ∧ next.breaker.successes = 0) ∨
      (system.breaker.state = .halfOpen ∧ next.entered = system.entered ∧
        ((next.breaker.successes = system.breaker.successes ∧ ∀ admitted failed,
            action ≠ .afterRequest admitted failed) ∨
          (next.breaker.successes = system.breaker.successes + 1 ∧
            next.breaker.successes < opts.successThreshold ∧
              ∃ admitted, action = .afterRequest admitted false))) := by
  cases action with
  | beforeRequest =>
    obtain ⟨state, answer⟩ | ⟨state, answer⟩ | ⟨state, answer⟩ | ⟨state, _, answer⟩ |
        ⟨state, _, answer⟩ :=
      before_request_cases positive system.breaker system.now
    all_goals
      simp only [step, answer] at taken
      cases taken
      simp_all [System.settle, System.launch]
  | afterRequest admitted failed =>
    simp only [step] at taken
    split at taken
    · cases taken
      obtain ⟨state, succeeded, below⟩ := after_request_half_open _ halfOpen
      subst succeeded
      right
      refine ⟨state, ?_, Or.inr ⟨?_, ?_, admitted, rfl⟩⟩
      all_goals
        simp only [after_request_counts _ state below]
        simp [System.settle, System.complete, state, below]
    · contradiction
  | advance elapsed =>
    cases taken
    exact Or.inr ⟨halfOpen, rfl, Or.inl ⟨rfl, by simp⟩⟩
  | readState =>
    cases taken
    rcases check_auto_transition_cases opts system.breaker system.now with
      same | ⟨state, entering⟩
    · rw [same] at halfOpen ⊢
      right
      exact ⟨halfOpen, by simp [System.settle], Or.inl ⟨rfl, by simp⟩⟩
    · rw [entering]
      left
      simp [System.settle, state]
  | reset =>
    cases taken
    have closed : (transition system.breaker .closed).state = .closed := transition_state
    rw [show (system.settle (transition system.breaker .closed)).breaker.state =
      (transition system.breaker .closed).state from rfl, closed] at halfOpen
    contradiction

theorem step_tallied (positive : 0 < opts.maxHalfOpenRequests) (needed : 0 < opts.successThreshold)
    (recovery : Recovery) (action : Action) (next : Recovery) (tallied : Tallied opts recovery)
    (taken : recoveryStep opts recovery action = some next) : Tallied opts next := by
  obtain ⟨system, stepped, same⟩ := Option.map_eq_some_iff.mp taken
  subst same
  intro halfOpen
  rcases half_open_cases positive stepped halfOpen with
    ⟨entered, zero⟩ | ⟨before, still, ⟨kept, quiet⟩ | ⟨counted, below, admitted, success⟩⟩
  · simp [entered, zero, needed]
  · obtain ⟨length, short, clean⟩ := tallied before
    have unchanged : recovery.completing action = recovery.completed := by
      cases action with
      | afterRequest admitted failed => exact absurd rfl (quiet admitted failed)
      | _ => rfl
    simp only [still, if_true, unchanged, kept]
    exact ⟨length, short, clean⟩
  · obtain ⟨length, short, clean⟩ := tallied before
    subst success
    simp only [still, if_true, Recovery.completing, List.length_cons]
    refine ⟨by omega, by omega, ?_⟩
    simpa using clean

theorem evidence_iff {completed : List (Nat × Bool)} {entered : Nat} {threshold : Int}
    (clean : ∀ call ∈ completed, call.2 = false) (length : (completed.length : Int) ≤ threshold)
    (reached : threshold ≤ completed.length) :
    threshold ≤ (completed.count (entered, false) : Int) ↔
      ∀ call ∈ completed, call.1 = entered := by
  have bound : completed.count (entered, false) ≤ completed.length := List.count_le_length
  have full : threshold ≤ (completed.count (entered, false) : Int) ↔
      completed.count (entered, false) = completed.length := by omega
  rw [full, List.count_eq_length]
  constructor
  · intro all call member
    rw [← all call member]
  · intro all call member
    exact Prod.ext (all call member).symm (clean call member).symm

theorem closing_step (positive : 0 < opts.maxHalfOpenRequests) {system : System}
    {action : Action} (taken : step opts system action = some next)
    (before : system.breaker.state = .halfOpen) (after : next.breaker.state = .closed)
    (unforced : action ≠ .reset) :
    ∃ admitted, action = .afterRequest admitted false ∧ admitted ∈ system.inFlight ∧
      opts.successThreshold ≤ system.breaker.successes + 1 ∧ next.entered = system.entered := by
  cases action with
  | beforeRequest =>
    obtain ⟨state, _⟩ | ⟨state, _⟩ | ⟨state, _⟩ | ⟨state, _, answer⟩ | ⟨state, _, answer⟩ :=
      before_request_cases positive system.breaker system.now
    · exact absurd (before.symm.trans state) (by decide)
    · exact absurd (before.symm.trans state) (by decide)
    · exact absurd (before.symm.trans state) (by decide)
    all_goals
      simp only [step, answer] at taken
      cases taken
      exact absurd (before.symm.trans after) (by decide)
  | afterRequest admitted failed =>
    simp only [step] at taken
    split at taken
    · rename_i flying
      cases taken
      obtain ⟨succeeded, enough⟩ := (after_request_closes _ before).mp after
      subst succeeded
      exact ⟨admitted, rfl, flying, enough, by simp [System.settle, System.complete, before]⟩
    · contradiction
  | advance elapsed =>
    cases taken
    exact absurd (before.symm.trans after) (by decide)
  | readState =>
    cases taken
    rcases check_auto_transition_cases opts system.breaker system.now with same | ⟨state, _⟩
    · rw [same] at after
      exact absurd (before.symm.trans after) (by decide)
    · exact absurd (before.symm.trans state) (by decide)
  | reset => contradiction

theorem closes_on_evidence_iff (positive : 0 < opts.maxHalfOpenRequests) (recovery : Recovery)
    (action : Action) (tallied : Tallied opts recovery) :
    ClosesOnEvidence opts recovery action ↔ ClosedByProbes opts recovery action := by
  constructor
  · intro evidence
    cases action with
    | afterRequest admitted failed =>
      intro state flying succeeded enough
      obtain ⟨length, short, clean⟩ := tallied state
      subst succeeded
      have closed := (after_request_closes recovery.system.now state).mpr ⟨rfl, enough⟩
      obtain ⟨threshold, unfailed⟩ := evidence _
        (by simp only [recoveryStep, step, flying, if_true]; rfl) state closed (by simp)
      have entered : ((recovery.system.settle (afterRequest opts recovery.system.breaker
          recovery.system.now false)).complete admitted).entered = recovery.system.entered := by
        simp [System.settle, System.complete, state]
      simp only [entered, if_true, Recovery.completing] at threshold unfailed
      exact (evidence_iff unfailed (by simp only [List.length_cons]; omega)
        (by simp only [List.length_cons]; omega)).mp threshold
    | _ => trivial
  · intro probes next taken state closed unforced
    obtain ⟨system, stepped, same⟩ := Option.map_eq_some_iff.mp taken
    subst same
    obtain ⟨admitted, shape, flying, enough, entered⟩ :=
      closing_step positive stepped state closed unforced
    subst shape
    obtain ⟨length, short, clean⟩ := tallied state
    have own := probes state flying rfl enough
    simp only [entered, if_true, Recovery.completing]
    have unfailed : ∀ call ∈ (admitted, false) :: recovery.completed, call.2 = false := by
      simpa using clean
    refine ⟨?_, unfailed⟩
    exact (evidence_iff unfailed (by simp only [List.length_cons]; omega)
      (by simp only [List.length_cons]; omega)).mpr own

end Evidence

/-- With any options, in any interleaving of calls and clock advances: the
breaker closes on evidence alone exactly when no success of an earlier call is
among those that close it. -/
theorem closes_on_own_evidence_iff (opts : Options) (actions : List Action) :
    Guarded (recoveryStep opts.defaults) (ClosesOnEvidence opts.defaults) {} actions ↔
      Guarded (recoveryStep opts.defaults) (ClosedByProbes opts.defaults) {} actions := by
  obtain ⟨_, needed, _, positive⟩ := defaults_positive opts
  apply guarded_iff (closes_on_evidence_iff positive) (step_tallied positive needed)
  intro halfOpen
  contradiction

/-- Two calls admitted before the breaker opened close it: no call was admitted
since, and nothing has been probed. -/
theorem old_successes_close :
    testOptions.defaults.successThreshold = 2 ∧
      ∃ recovery next, run (recoveryStep testOptions.defaults) {}
          [.beforeRequest, .beforeRequest, .beforeRequest, .beforeRequest, .afterRequest 0 true,
            .afterRequest 0 true, .advance (60 * 1000000), .readState, .afterRequest 0 false] =
              some recovery ∧
        recoveryStep testOptions.defaults recovery (.afterRequest 0 false) = some next ∧
        recovery.system.breaker.state = .halfOpen ∧ next.system.breaker.state = .closed ∧
        next.completed = [(0, false), (0, false)] ∧ recovery.system.entered = 1 ∧
        ¬ ClosesOnEvidence testOptions.defaults recovery (.afterRequest 0 false) := by
  refine ⟨by decide, _, _, rfl, rfl, by decide, by decide, by decide, by decide, fun evidence => ?_⟩
  have counted := (evidence _ rfl (by decide) (by decide) (by simp)).1
  exact absurd counted (by decide)

end VcStack.CircuitBreaker
