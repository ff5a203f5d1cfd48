import VcStack.LeaseLocks
import VcStack.Runs

/-!
The operations startInstance, stopInstance and deleteInstance on one instance
(internal/management/compute/handler_instance.go) and the Redis lock of
internal/management/workflow/engine.go that is to keep them apart. Each request
is cut into the steps between which others can act. Redis answers every command,
times are in milliseconds, and a workflow may take any time. What the workflows
do to the instance is left out.
-/

namespace VcStack.InstanceLocks

open LeaseLocks Runs

inductive Kind where
  | start
  | stop
  | delete
  deriving DecidableEq

def Kind.taskType : Kind → String
  | .start => "instance.start"
  | .stop => "instance.stop"
  | .delete => "instance.delete"

def registered (taskType : String) : Bool :=
  taskType ∈ ["instance.create", "instance.stop", "instance.delete"]

def lockTTL : Nat := 5 * 60 * 1000

inductive Phase where
  | arrived
  /-- 404 -/
  | notFound
  | found
  /-- 409 -/
  | refused
  /-- the lock is set, the task is created and its goroutine is started -/
  | locked
  | running
  /-- RunByType has returned and the row is to be deleted -/
  | deleting
  /-- the deferred ReleaseLock is due -/
  | leaving
  | released
  deriving DecidableEq

structure State where
  now : Nat := 0
  row : Bool := true
  lock : Option (Lease Nat) := none
  phase : Nat → Phase := fun _ => .arrived
  since : Nat → Nat := fun _ => 0
  /-- the releases that found a key, each with the owner of the key -/
  removed : List (Nat × Nat) := []

def State.enter (state : State) (request : Nat) (phase : Phase) : State :=
  {state with phase := fun other => if other = request then phase else state.phase other}

inductive Action where
  | find (request : Nat)
  | acquire (request : Nat)
  | run (request : Nat)
  | finish (request : Nat)
  | deleteRow (request : Nat)
  | release (request : Nat)
  | elapse (time : Nat)

variable {request : Nat}

section Handlers

-- What every request asks for.
variable (kindOf : Nat → Kind)

def afterRun (request : Nat) : Phase :=
  if kindOf request = .delete then .deleting else .leaving

def step (state : State) : Action → Option State
  | .find request =>
    if state.phase request = .arrived then
      some (state.enter request (if state.row then .found else .notFound))
    else none
  | .acquire request =>
    if state.phase request = .found then
      let attempt := setNX state.lock state.now lockTTL request
      if attempt.1 then
        some ({state with
          lock := attempt.2
          since := fun other => if other = request then state.now else state.since other}.enter
            request .locked)
      else some (state.enter request .refused)
    else none
  | .run request =>
    if state.phase request = .locked then
      -- RunByType returns an error at once when no workflow is registered.
      some (state.enter request
        (if registered (kindOf request).taskType then .running else afterRun kindOf request))
    else none
  | .finish request =>
    if state.phase request = .running then some (state.enter request (afterRun kindOf request))
    else none
  | .deleteRow request =>
    if state.phase request = .deleting then
      some ({state with row := false}.enter request .leaving)
    else none
  | .release request =>
    if state.phase request = .leaving then
      some ({state with
        lock := none
        removed := state.removed ++
          ((live state.now state.lock).map fun owner => (request, owner)).toList}.enter
            request .released)
    else none
  | .elapse time => some {state with now := state.now + time}

def Phase.Working : Phase → Prop
  | .locked | .running | .deleting | .leaving => True
  | _ => False

structure Exclusive (state : State) : Prop where
  alone : ∀ left right, state.phase left = .running → state.phase right = .running → left = right
  own : ∀ pair ∈ state.removed, pair.2 = pair.1

def AcquiresVacant (state : State) : Action → Prop
  | .acquire request => state.phase request = .found → live state.now state.lock = none →
      ∀ other, ¬ (state.phase other).Working
  | _ => True

def ReleasesInTime (state : State) : Action → Prop
  | .elapse time => ∀ request, (state.phase request).Working →
      state.now + time < state.since request + lockTTL
  | _ => True

def State.working (state : State) (request : Nat) : Prop := (state.phase request).Working

structure Sound (state : State) : Prop where
  single : Single state.working state.now state.lock
  own : ∀ pair ∈ state.removed, pair.2 = pair.1

variable {kindOf}

variable (state : State)

theorem sound_exclusive (sound : Sound state) : Exclusive state where
  alone left right first second := by
    apply sound.single.alone left right
    · simp [State.working, first, Phase.Working]
    · simp [State.working, second, Phase.Working]
  own := sound.own

theorem working_enter_same {phase : Phase}
    (same : phase.Working ↔ state.working request) (other : Nat) :
    (state.enter request phase).working other ↔ state.working other := by
  unfold State.working State.enter at *
  by_cases here : other = request
  · subst here
    simpa using same
  · simp [here]

theorem working_enter_joined (phase : Phase) (joins : phase.Working) (other : Nat) :
    (state.enter request phase).working other ↔ other = request ∨ state.working other := by
  unfold State.working State.enter
  by_cases here : other = request
  · simp [here, joins]
  · simp [here]

theorem working_enter_left {phase : Phase} (leaves : ¬ phase.Working) (other : Nat)
    (there : (state.enter request phase).working other) :
    other ≠ request ∧ state.working other := by
  unfold State.working State.enter at there
  by_cases here : other = request
  · simp [here, leaves] at there
  · simp only [here, if_false] at there
    exact ⟨here, there⟩

def State.acquired (state : State) (request : Nat) : State :=
  {state with
    lock := some {owner := request, expires := state.now + lockTTL}
    since := fun other => if other = request then state.now else state.since other}.enter
      request .locked

def State.released (state : State) (request : Nat) : State :=
  {state with
    lock := none
    removed := state.removed ++
      ((live state.now state.lock).map fun owner => (request, owner)).toList}.enter request .released

theorem after_run_working : (afterRun kindOf request).Working := by
  unfold afterRun
  split <;> trivial

inductive Effect (state : State) : Action → State → Prop where
  | moved (action : Action) (request : Nat) (phase : Phase) (row : Bool)
      (same : phase.Working ↔ state.working request) :
      Effect state action ({state with row := row}.enter request phase)
  | acquired (request : Nat) (found : state.phase request = .found)
      (free : live state.now state.lock = none) :
      Effect state (.acquire request) (state.acquired request)
  | released (request : Nat) (held : state.working request) :
      Effect state (.release request) (state.released request)
  | elapsed (time : Nat) : Effect state (.elapse time) {state with now := state.now + time}

theorem step_effect {next : State} {action : Action} (taken : step kindOf state action = some next) :
    Effect state action next := by
  cases action with
  | find request =>
    obtain ⟨phase, moved⟩ := Option.ite_none_right_eq_some.mp taken
    cases moved
    apply Effect.moved (.find request) request _ state.row
    cases state.row <;> simp [State.working, phase, Phase.Working]
  | acquire request =>
    obtain ⟨phase, moved⟩ := Option.ite_none_right_eq_some.mp taken
    unfold setNX at moved
    cases owner : live state.now state.lock with
    | none =>
      simp only [owner, ↓reduceIte, Option.some.injEq] at moved
      rw [← moved]
      exact Effect.acquired request phase owner
    | some other =>
      simp only [owner, Bool.false_eq_true, ↓reduceIte, Option.some.injEq] at moved
      rw [← moved]
      apply Effect.moved (.acquire request) request _ state.row
      simp [State.working, phase, Phase.Working]
  | run request =>
    obtain ⟨phase, moved⟩ := Option.ite_none_right_eq_some.mp taken
    cases moved
    apply Effect.moved (.run request) request _ state.row
    apply iff_of_true
    · split
      · trivial
      · exact after_run_working
    · simp [State.working, phase, Phase.Working]
  | finish request =>
    obtain ⟨phase, moved⟩ := Option.ite_none_right_eq_some.mp taken
    cases moved
    apply Effect.moved (.finish request) request _ state.row
    apply iff_of_true after_run_working
    simp [State.working, phase, Phase.Working]
  | deleteRow request =>
    obtain ⟨phase, moved⟩ := Option.ite_none_right_eq_some.mp taken
    cases moved
    apply Effect.moved (.deleteRow request) request _ false
    simp [State.working, phase, Phase.Working]
  | release request =>
    obtain ⟨phase, moved⟩ := Option.ite_none_right_eq_some.mp taken
    cases moved
    apply Effect.released request
    simp [State.working, phase, Phase.Working]
  | elapse time =>
    cases taken
    exact Effect.elapsed time

theorem step_sound (action : Action) (next : State) (sound : Sound state)
    (vacant : AcquiresVacant state action) (taken : step kindOf state action = some next) :
    Sound next := by
  cases step_effect state taken with
  | moved _ request phase row same =>
    exact ⟨single_same sound.single (working_enter_same _ same), sound.own⟩
  | acquired request found free =>
    refine ⟨single_acquire (vacant found free) ?_, sound.own⟩
    exact working_enter_joined _ .locked trivial
  | released request held =>
    constructor
    · exact single_release sound.single held (working_enter_left _ id)
    · intro pair member
      rcases List.mem_append.mp member with old | new
      · exact sound.own pair old
      · -- The owner of a key that still exists is at work, as the releaser is.
        obtain ⟨owner, there, rfl⟩ := Option.map_eq_some_iff.mp (Option.mem_toList.mp new)
        exact sound.single.alone owner request (sound.single.owned owner there) held
  | elapsed time => exact ⟨single_later sound.single (Nat.le_add_right _ _), sound.own⟩

theorem operations_exclusive (kindOf : Nat → Kind) (actions : List Action)
    (vacant : Guarded (step kindOf) AcquiresVacant {} actions) :
    Always (step kindOf) Exclusive {} actions := by
  apply always_of_guarded sound_exclusive step_sound {} _ vacant
  exact ⟨⟨fun _ _ first => first.elim, fun _ there => by contradiction⟩, fun _ member => by contradiction⟩

def Covers (state : State) : Prop :=
  Covered state.working state.since lockTTL state.now state.lock

theorem step_covers (action : Action) (next : State) (covers : Covers state)
    (inTime : ReleasesInTime state action) (taken : step kindOf state action = some next) :
    Covers next := by
  cases step_effect state taken with
  | moved _ request phase row same =>
    exact covered_same covers (working_enter_same _ same)
  | acquired request found free =>
    intro other there
    rcases (working_enter_joined _ .locked trivial other).mp there with same | before
    · subst same
      simp [State.acquired, State.enter, lockTTL]
    · exact absurd before (covered_vacant covers free other)
  | released request held =>
    exact covered_release covers held (working_enter_left _ id)
  | elapsed time => exact covered_later covers inTime

theorem in_time_vacant {kindOf : Nat → Kind} {actions : List Action}
    (inTime : Guarded (step kindOf) ReleasesInTime {} actions) :
    Guarded (step kindOf) AcquiresVacant {} actions := by
  apply guarded_weaken Covers _ step_covers {} _ inTime
  · intro state action covers _
    cases action with
    | acquire request => exact fun _ free => covered_vacant covers free
    | find | run | finish | deleteRow | release | elapse => trivial
  · exact fun _ there => there.elim

end Handlers

def stopThenDelete : Nat → Kind
  | 0 => .stop
  | _ => .delete

/-- A deletion is refused while the stop is at work, and the next one is not. -/
theorem deletion_waits_for_stop :
    Guarded (step stopThenDelete) AcquiresVacant {}
        [.find 0, .acquire 0, .run 0, .elapse 60000, .find 1, .acquire 1, .finish 0, .release 0,
          .find 2, .acquire 2, .run 2] ∧
      Always (step stopThenDelete) Exclusive {}
        [.find 0, .acquire 0, .run 0, .elapse 60000, .find 1, .acquire 1, .finish 0, .release 0,
          .find 2, .acquire 2, .run 2] := by
  have inTime : Guarded (step stopThenDelete) ReleasesInTime {}
      [.find 0, .acquire 0, .run 0, .elapse 60000, .find 1, .acquire 1, .finish 0, .release 0,
        .find 2, .acquire 2, .run 2] := by
    have enough : 60000 < lockTTL := by
      unfold lockTTL
      omega
    simp [Guarded, step, ReleasesInTime, State.enter, setNX, live, enough]
  exact ⟨in_time_vacant inTime, operations_exclusive stopThenDelete _ (in_time_vacant inTime)⟩

/-- A stop that takes five minutes: a deletion runs beside it, or loses its lock
to the release of the stop. -/
theorem expired_lock_shared :
    ¬ Always (step stopThenDelete) Exclusive {}
        [.find 0, .acquire 0, .run 0, .elapse 300000, .find 1, .acquire 1, .run 1] ∧
      ¬ Always (step stopThenDelete) Exclusive {}
        [.find 0, .acquire 0, .run 0, .elapse 300000, .finish 0, .find 1, .acquire 1,
          .release 0] := by
  constructor
  · intro always
    have last := always_last _ _ always rfl
    exact absurd (last.alone 0 1 rfl rfl) (by decide)
  · intro always
    have last := always_last _ _ always rfl
    exact absurd (last.own (0, 1) (by decide)) (by decide)

end VcStack.InstanceLocks
