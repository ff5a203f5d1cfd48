import Mathlib.Algebra.Group.Int.Defs
import VcStack.CircuitBreaker

/-!
Whole Execute calls of the circuit breaker, with the request totals and with an fn
that may panic. A panic unwinds Execute: what the caller recovers is a call that
was admitted and that afterRequest never sees. The totals are atomic counters,
each changed by a step of its own.
-/

namespace VcStack.BreakerCalls

open Runs CircuitBreaker

structure Calls where
  system : System := {}
  totalRequests : Int64 := 0
  totalSuccesses : Int64 := 0
  totalFailures : Int64 := 0
  totalRejected : Int64 := 0
  /-- calls between the first count and beforeRequest -/
  entering : Nat := 0
  /-- calls that beforeRequest refused and that are not yet counted -/
  rejecting : Nat := 0
  panicked : Nat := 0

inductive Call where
  | enter
  | beforeRequest
  | reject
  | afterRequest (admitted : Nat) (failed : Bool)
  | panic (admitted : Nat)
  | advance (elapsed : Nat)
  | readState
  | reset

variable {next : System} {calls : Calls}

section Calls

variable (opts : Options)

def beforeCall (calls : Calls) : Option Calls :=
  if calls.entering = 0 then none
  else (step opts calls.system .beforeRequest).map fun system =>
    {calls with
      system := system, entering := calls.entering - 1,
      rejecting :=
        if (beforeRequest opts calls.system.breaker calls.system.now).1.isSome
          then calls.rejecting + 1 else calls.rejecting}

def afterCall (calls : Calls) (admitted : Nat) (failed : Bool) : Option Calls :=
  (step opts calls.system (.afterRequest admitted failed)).map fun system =>
    if failed then {calls with system := system, totalFailures := calls.totalFailures + 1}
    else {calls with system := system, totalSuccesses := calls.totalSuccesses + 1}

def panicCall (calls : Calls) (admitted : Nat) : Option Calls :=
  if admitted ∈ calls.system.inFlight then
    some {calls with
      system := calls.system.complete admitted, panicked := calls.panicked + 1}
  else none

def otherStep (calls : Calls) (action : Action) : Option Calls :=
  (step opts calls.system action).map fun system => {calls with system := system}

def callStep (calls : Calls) : Call → Option Calls
  | .enter => some {calls with
      totalRequests := calls.totalRequests + 1, entering := calls.entering + 1}
  | .beforeRequest => beforeCall opts calls
  | .reject =>
    if calls.rejecting = 0 then none
    else some {calls with
      totalRejected := calls.totalRejected + 1, rejecting := calls.rejecting - 1}
  | .afterRequest admitted failed => afterCall opts calls admitted failed
  | .panic admitted => panicCall calls admitted
  | .advance elapsed => otherStep opts calls (.advance elapsed)
  | .readState => otherStep opts calls .readState
  | .reset => otherStep opts calls .reset

def Idle (calls : Calls) : Prop :=
  calls.entering = 0 ∧ calls.rejecting = 0 ∧ calls.system.inFlight = []

instance (calls : Calls) : Decidable (Idle calls) := by
  unfold Idle
  infer_instance

def Balanced (calls : Calls) : Prop :=
  calls.totalRequests = calls.totalSuccesses + calls.totalFailures + calls.totalRejected

/-- With no call in flight the totals add up, and a half-open breaker admits the
next call. -/
def Survives (calls : Calls) : Prop :=
  Idle calls → Balanced calls ∧
    (calls.system.breaker.state = .halfOpen →
      (beforeRequest opts calls.system.breaker calls.system.now).1 = none)

/-- No fn panics, and no more than 2^31 calls succeed in one half-open period. -/
def Calm (calls : Calls) : Call → Prop
  | .panic admitted => admitted ∉ calls.system.inFlight
  | .afterRequest _ _ =>
    calls.system.breaker.state = .halfOpen → calls.system.breaker.successes < 2 ^ 31
  | _ => True

instance (calls : Calls) (call : Call) : Decidable (Calm calls call) := by
  cases call <;> unfold Calm <;> infer_instance

def Calls.unfinished (calls : Calls) : Nat :=
  calls.entering + calls.rejecting + calls.system.inFlight.length + calls.panicked

def Accounted (calls : Calls) : Prop :=
  calls.totalRequests =
    calls.totalSuccesses + calls.totalFailures + calls.totalRejected + Int64.ofNat calls.unfinished

variable {opts}

variable (system : System)

theorem before_in_flight (taken : step opts system .beforeRequest = some next) :
    next.inFlight.length = system.inFlight.length +
      if (beforeRequest opts system.breaker system.now).1.isSome then 0 else 1 := by
  simp only [step] at taken
  split at taken <;> rename_i answer <;> cases taken <;> simp [answer, System.launch, System.settle]

theorem after_in_flight {admitted : Nat} {failed : Bool}
    (taken : step opts system (.afterRequest admitted failed) = some next) :
    next.inFlight.length + 1 = system.inFlight.length := by
  obtain ⟨flying, same⟩ := Option.ite_none_right_eq_some.mp taken
  cases same
  have present := List.length_pos_of_mem flying
  simp only [System.complete, System.settle, List.length_erase_of_mem flying]
  omega

theorem other_in_flight {action : Action}
    (outside : action ≠ .beforeRequest ∧ ∀ admitted failed, action ≠ .afterRequest admitted failed)
    (taken : step opts system action = some next) : next.inFlight = system.inFlight := by
  cases action with
  | beforeRequest => exact absurd rfl outside.1
  | afterRequest admitted failed => exact absurd rfl (outside.2 admitted failed)
  | advance elapsed => cases taken; rfl
  | readState => cases taken; rfl
  | reset => cases taken; rfl

theorem step_accounted {next : Calls} {call : Call} (accounted : Accounted calls)
    (taken : callStep opts calls call = some next) : Accounted next := by
  have one : Int64.ofNat 1 = 1 := rfl
  -- A step that leaves the totals keeps the number of unfinished calls.
  have kept : ∀ after : Calls, after.totalRequests = calls.totalRequests →
      after.totalSuccesses = calls.totalSuccesses → after.totalFailures = calls.totalFailures →
      after.totalRejected = calls.totalRejected → after.unfinished = calls.unfinished →
      Accounted after := by
    intro after requests successes failures rejected same
    rw [Accounted, requests, successes, failures, rejected, same]
    exact accounted
  have others : ∀ action, (action ≠ .beforeRequest ∧
      ∀ admitted failed, action ≠ .afterRequest admitted failed) →
      otherStep opts calls action = some next → Accounted next := by
    intro action outside moved
    obtain ⟨system, stepped, same⟩ := Option.map_eq_some_iff.mp moved
    subst same
    refine kept _ rfl rfl rfl rfl ?_
    simp only [Calls.unfinished, other_in_flight _ outside stepped]
  cases call with
  | enter =>
    cases taken
    have more : calls.entering + 1 + calls.rejecting + calls.system.inFlight.length +
        calls.panicked = calls.unfinished + 1 := by
      simp only [Calls.unfinished]
      omega
    simp only [Accounted, Calls.unfinished, more, Int64.ofNat_add, one] at accounted ⊢
    grind
  | beforeRequest =>
    obtain ⟨waiting, moved⟩ := Option.ite_none_left_eq_some.mp taken
    obtain ⟨system, stepped, same⟩ := Option.map_eq_some_iff.mp moved
    subst same
    refine kept _ rfl rfl rfl rfl ?_
    simp only [Calls.unfinished, before_in_flight _ stepped]
    split_ifs <;> omega
  | reject =>
    obtain ⟨waiting, same⟩ := Option.ite_none_left_eq_some.mp taken
    cases same
    have fewer : calls.unfinished = calls.entering + (calls.rejecting - 1) +
        calls.system.inFlight.length + calls.panicked + 1 := by
      simp only [Calls.unfinished]
      omega
    rw [Accounted, fewer, Int64.ofNat_add, one] at accounted
    simp only [Accounted, Calls.unfinished]
    grind
  | afterRequest admitted failed =>
    obtain ⟨system, stepped, same⟩ := Option.map_eq_some_iff.mp taken
    subst same
    have shorter := after_in_flight _ stepped
    have fewer : calls.unfinished = calls.entering + calls.rejecting + system.inFlight.length +
        calls.panicked + 1 := by
      simp only [Calls.unfinished]
      omega
    rw [Accounted, fewer, Int64.ofNat_add, one] at accounted
    cases failed with
    | true =>
      simp only [if_true, Accounted, Calls.unfinished]
      grind
    | false =>
      simp only [Bool.false_eq_true, if_false, Accounted, Calls.unfinished]
      grind
  | panic admitted =>
    obtain ⟨flying, same⟩ := Option.ite_none_right_eq_some.mp taken
    cases same
    refine kept _ rfl rfl rfl rfl ?_
    have present := List.length_pos_of_mem flying
    simp only [Calls.unfinished, System.complete, List.length_erase_of_mem flying]
    omega
  | advance elapsed => exact others (.advance elapsed) (by simp) taken
  | readState => exact others .readState (by simp) taken
  | reset => exact others .reset (by simp) taken

theorem run_accounted {actions : List Call} {last : Calls} (accounted : Accounted calls)
    (ran : run (callStep opts) calls actions = some last) : Accounted last := by
  have always : Always (callStep opts) Accounted calls actions :=
    always_of_invariant Accounted (fun _ holds => holds)
      (fun calls call next holds taken => step_accounted holds taken)
      actions calls accounted
  exact always_last calls last always ran

theorem count_zero_iff {count : Nat} : Int64.ofNat count = 0 ↔ count % 2 ^ 64 = 0 := by
  rw [← Int64.toBitVec_inj, Int64.toBitVec_ofNat']
  simp [BitVec.toNat_eq]

theorem balanced_iff (accounted : Accounted calls) (idle : Idle calls) :
    Balanced calls ↔ calls.panicked % 2 ^ 64 = 0 := by
  obtain ⟨entered, rejected, landed⟩ := idle
  have left : calls.unfinished = calls.panicked := by
    simp [Calls.unfinished, entered, rejected, landed]
  rw [Accounted, left] at accounted
  rw [Balanced, ← count_zero_iff, accounted]
  constructor
  · intro same
    grind
  · intro zero
    rw [zero]
    grind

/-- In the half-open state the counter is the probes in flight less the calls
from before that have succeeded since, as far as 32 bits go. -/
structure Slots (system : System) : Prop where
  past : ∀ admitted ∈ system.inFlight, admitted ≤ system.entered
  counter : system.breaker.state = .halfOpen → ∃ stale : Nat,
    (stale : Int) ≤ system.breaker.successes ∧ system.breaker.successes ≤ 2 ^ 31 ∧
      system.breaker.halfOpenRequests = Int32.ofInt (system.probes - stale)

theorem counter_up {value : Int} : Int32.ofInt (value + 1) = Int32.ofInt value + 1 :=
  Int32.ofInt_add value 1

theorem counter_down {value : Int} : Int32.ofInt (value - 1) = Int32.ofInt value - 1 :=
  Int32.ofInt_sub value 1

theorem slots_elsewhere {breaker : Breaker} (slots : Slots system)
    (elsewhere : breaker.state ≠ .halfOpen) : Slots (system.settle breaker) where
  past := by simpa [System.settle, elsewhere] using slots.past
  counter halfOpen := absurd halfOpen elsewhere

theorem slots_launch_elsewhere (slots : Slots system) (elsewhere : system.breaker.state ≠ .halfOpen) :
    Slots system.launch where
  past := by simpa [System.launch] using slots.past
  counter halfOpen := absurd halfOpen elsewhere

theorem slots_before (positive : 0 < opts.maxHalfOpenRequests) {system : System}
    (slots : Slots system) (taken : step opts system .beforeRequest = some next) :
    Slots next := by
  obtain ⟨state, answer⟩ | ⟨state, answer⟩ | ⟨state, answer⟩ | ⟨state, _, answer⟩ |
      ⟨state, _, answer⟩ :=
    before_request_cases positive system.breaker system.now
  all_goals
    simp only [step, answer] at taken
    cases taken
  · rw [settle_same_state rfl]
    exact slots_launch_elsewhere system slots (by simp [state])
  · rw [settle_same_state rfl]
    exact slots
  · rw [settle_entering state rfl]
    constructor
    · intro admitted member
      rcases List.mem_cons.mp member with same | earlier
      · exact Nat.le_of_eq same
      · have bound := slots.past admitted earlier
        simp only [System.launch]
        omega
    · intro _
      refine ⟨0, by simp [System.launch], by simp [System.launch], ?_⟩
      simp only [System.launch, System.probes, List.count_cons_self, fresh_probes slots.past]
      rfl
  · rw [settle_same_state rfl]
    exact slots
  · rw [settle_same_state (by rfl)]
    constructor
    · simpa [System.launch] using slots.past
    · intro _
      obtain ⟨stale, few, bound, counts⟩ := slots.counter state
      refine ⟨stale, few, bound, ?_⟩
      have more : ((system.inFlight.count system.entered + 1 : Nat) : Int) - stale =
          (system.inFlight.count system.entered : Int) - stale + 1 := by omega
      simp only [System.launch, System.probes, List.count_cons_self] at counts ⊢
      rw [counts, more, counter_up]

theorem slots_after {call : Nat} {failed : Bool} (slots : Slots system)
    (calm : system.breaker.state = .halfOpen → system.breaker.successes < 2 ^ 31)
    (taken : step opts system (.afterRequest call failed) = some next) : Slots next := by
  obtain ⟨flying, same⟩ := Option.ite_none_right_eq_some.mp taken
  cases same
  by_cases still : (afterRequest opts system.breaker system.now failed).state = .halfOpen
  · obtain ⟨state, succeeded, below⟩ := after_request_half_open _ still
    subst succeeded
    have successes := calm state
    obtain ⟨stale, few, bound, counts⟩ := slots.counter state
    rw [after_request_counts _ state below, settle_same_state (by rfl)]
    constructor
    · intro admitted member
      exact slots.past admitted (List.mem_of_mem_erase member)
    · intro _
      simp only [System.complete, System.probes] at counts ⊢
      rw [counts]
      by_cases own : call = system.entered
      · -- A probe leaves, and the counter with it.
        subst own
        have present : 0 < system.inFlight.count system.entered := List.count_pos_iff.mpr flying
        refine ⟨stale, by omega, by omega, ?_⟩
        have fewer : ((system.inFlight.count system.entered - 1 : Nat) : Int) - stale =
            (system.inFlight.count system.entered : Int) - stale - 1 := by omega
        rw [List.count_erase_self, fewer, counter_down]
      · refine ⟨stale + 1, by omega, by omega, ?_⟩
        have fewer : (system.inFlight.count system.entered : Int) - (stale + 1 : Nat) =
            (system.inFlight.count system.entered : Int) - stale - 1 := by omega
        rw [List.count_erase_of_ne (Ne.symm own), fewer, counter_down]
  · have settled := slots_elsewhere system slots still
    constructor
    · intro admitted member
      exact settled.past admitted (List.mem_of_mem_erase member)
    · intro halfOpen
      exact absurd halfOpen still

theorem slots_other {action : Action} (slots : Slots system)
    (outside : action ≠ .beforeRequest ∧ ∀ admitted failed, action ≠ .afterRequest admitted failed)
    (taken : step opts system action = some next) : Slots next := by
  cases action with
  | beforeRequest => exact absurd rfl outside.1
  | afterRequest admitted failed => exact absurd rfl (outside.2 admitted failed)
  | advance elapsed =>
    cases taken
    exact ⟨slots.past, slots.counter⟩
  | readState =>
    cases taken
    rcases check_auto_transition_cases opts system.breaker system.now with
      same | ⟨state, entering⟩
    · rw [same, settle_same_state rfl]
      exact slots
    · rw [entering, settle_entering state rfl]
      constructor
      · intro admitted member
        have bound := slots.past admitted member
        simp only
        omega
      · intro _
        refine ⟨0, by simp, by simp, ?_⟩
        simp only [System.probes, fresh_probes slots.past]
        rfl
  | reset =>
    cases taken
    apply slots_elsewhere system slots
    rw [transition_state]
    decide

theorem idle_admits (positive : 0 < opts.maxHalfOpenRequests) {system : System}
    (slots : Slots system) (landed : system.inFlight = [])
    (state : system.breaker.state = .halfOpen) :
    (beforeRequest opts system.breaker system.now).1 = none := by
  obtain ⟨stale, few, bound, counts⟩ := slots.counter state
  have value : system.breaker.halfOpenRequests.toInt = -(stale : Int) := by
    rw [counts, System.probes, landed, Int32.toInt_ofInt_of_le]
    all_goals
      simp only [List.count_nil]
      omega
  rw [half_open_admits system.breaker state (by omega)]

structure Surviving (calls : Calls) : Prop where
  accounted : Accounted calls
  slots : Slots calls.system
  calm : calls.panicked = 0

theorem surviving_survives (positive : 0 < opts.maxHalfOpenRequests) (calls : Calls)
    (surviving : Surviving calls) : Survives opts calls := by
  intro idle
  constructor
  · rw [balanced_iff surviving.accounted idle, surviving.calm, Nat.zero_mod]
  · exact idle_admits positive surviving.slots idle.2.2

theorem step_surviving (positive : 0 < opts.maxHalfOpenRequests) (calls : Calls) (call : Call)
    (next : Calls) (surviving : Surviving calls) (calm : Calm calls call)
    (taken : callStep opts calls call = some next) : Surviving next := by
  have accounted := step_accounted surviving.accounted taken
  have others : ∀ action, (action ≠ .beforeRequest ∧
      ∀ admitted failed, action ≠ .afterRequest admitted failed) →
      otherStep opts calls action = some next → Surviving next := by
    intro action outside moved
    obtain ⟨system, stepped, same⟩ := Option.map_eq_some_iff.mp moved
    subst same
    exact ⟨accounted, slots_other _ surviving.slots outside stepped, surviving.calm⟩
  cases call with
  | enter =>
    cases taken
    exact ⟨accounted, surviving.slots, surviving.calm⟩
  | beforeRequest =>
    obtain ⟨_, moved⟩ := Option.ite_none_left_eq_some.mp taken
    obtain ⟨system, stepped, same⟩ := Option.map_eq_some_iff.mp moved
    subst same
    exact ⟨accounted, slots_before positive surviving.slots stepped, surviving.calm⟩
  | reject =>
    obtain ⟨_, same⟩ := Option.ite_none_left_eq_some.mp taken
    cases same
    exact ⟨accounted, surviving.slots, surviving.calm⟩
  | afterRequest admitted failed =>
    obtain ⟨system, stepped, same⟩ := Option.map_eq_some_iff.mp taken
    have slots := slots_after _ surviving.slots calm stepped
    subst same
    cases failed with
    | true => exact ⟨accounted, slots, surviving.calm⟩
    | false => exact ⟨accounted, slots, surviving.calm⟩
  | panic admitted =>
    obtain ⟨flying, _⟩ := Option.ite_none_right_eq_some.mp taken
    exact absurd flying calm
  | advance elapsed => exact others (.advance elapsed) (by simp) taken
  | readState => exact others .readState (by simp) taken
  | reset => exact others .reset (by simp) taken

theorem initial_accounted : Accounted {} := rfl

theorem initial_surviving : Surviving {} where
  accounted := initial_accounted
  slots := ⟨fun _ member => absurd member List.not_mem_nil, fun halfOpen => by contradiction⟩
  calm := rfl

end Calls

/-- With any options, in any interleaving of calls and clock advances in which no
fn panics and no half-open period sees more than 2^31 successes, the breaker
survives in every state reached; and whenever no call is in flight, the totals
add up exactly when no call panicked, counting modulo 2^64. -/
theorem breaker_survives_calm_calls (opts : Options) (actions : List Call) :
    (Guarded (callStep opts.defaults) Calm {} actions →
      Always (callStep opts.defaults) (Survives opts.defaults) {} actions) ∧
    ∀ last, run (callStep opts.defaults) {} actions = some last → Idle last →
      (Balanced last ↔ last.panicked % 2 ^ 64 = 0) := by
  have positive := (defaults_positive opts).2.2.2
  constructor
  · exact always_of_guarded (surviving_survives positive)
      (step_surviving positive) {} initial_surviving
  · intro last ran idle
    exact balanced_iff (run_accounted initial_accounted ran) idle

def recovery : List Call :=
  [.enter, .beforeRequest, .afterRequest 0 true, .enter, .beforeRequest, .afterRequest 0 true,
    .enter, .beforeRequest, .reject, .advance (60 * 1000000),
    .enter, .beforeRequest, .afterRequest 1 false, .enter, .beforeRequest, .afterRequest 1 false]

theorem recovery_survived :
    Always (callStep testOptions.defaults) (Survives testOptions.defaults) {} recovery :=
  (breaker_survives_calm_calls testOptions recovery).1 (by decide)

/-- The only probe of the half-open breaker panics: its slot is lost, so that
every later call is refused, and it is missing from the totals. -/
theorem panicking_probe_blocks :
    testOptions.defaults.maxHalfOpenRequests = 1 ∧
      ∃ last, run (callStep testOptions.defaults) {}
          [.enter, .beforeRequest, .afterRequest 0 true, .enter, .beforeRequest,
            .afterRequest 0 true, .advance (60 * 1000000), .enter, .beforeRequest, .panic 1] =
              some last ∧
        Idle last ∧ last.system.breaker.state = .halfOpen ∧
        ((beforeRequest testOptions.defaults last.system.breaker last.system.now).1.map
          Error.text) = some "circuit breaker: too many requests in half-open state" ∧
        last.totalRequests = 3 ∧ last.totalFailures = 2 ∧ last.totalSuccesses = 0 ∧
        last.totalRejected = 0 :=
  ⟨by decide, _, rfl, by decide, by decide, by decide, by decide, by decide, by decide, by decide⟩

end VcStack.BreakerCalls
