import Mathlib.Data.List.Basic
import Mathlib.Logic.Basic

/-!
Runs of a step function over an action list, for systems whose steps may be
refused. A guard restricts the steps of a run by the state they are taken in;
the rule below tells which guard a property of all reached states needs. A pass
over a list is a run whose steps are never refused.
-/

namespace VcStack.Runs

universe u v
variable {State : Type u} {Action : Type v} (step : State → Action → Option State)

def run : State → List Action → Option State
  | state, [] => some state
  | state, action :: rest => (step state action).bind fun next => run next rest

def Reaches (state last : State) : Prop :=
  ∃ actions, run step state actions = some last

def Guarded (guard : State → Action → Prop) : State → List Action → Prop
  | _, [] => True
  | state, action :: rest =>
    guard state action ∧ ∀ next, step state action = some next → Guarded guard next rest

def Always (property : State → Prop) : State → List Action → Prop
  | state, [] => property state
  | state, action :: rest =>
    property state ∧ ∀ next, step state action = some next → Always property next rest

instance decidableGuarded (guard : State → Action → Prop)
    [∀ state action, Decidable (guard state action)] (state : State) (actions : List Action) :
    Decidable (Guarded step guard state actions) :=
  match actions with
  | [] => inferInstanceAs (Decidable True)
  | action :: rest =>
    have onward : Decidable (∀ next, step state action = some next →
        Guarded step guard next rest) :=
      match step state action with
      | none => isTrue (by simp)
      | some next =>
        have := decidableGuarded guard next rest
        decidable_of_iff (Guarded step guard next rest) (by simp)
    inferInstanceAs (Decidable (_ ∧ _))

instance decidableAlways (property : State → Prop) [DecidablePred property] (state : State)
    (actions : List Action) : Decidable (Always step property state actions) :=
  match actions with
  | [] => inferInstanceAs (Decidable (property state))
  | action :: rest =>
    have onward : Decidable (∀ next, step state action = some next →
        Always step property next rest) :=
      match step state action with
      | none => isTrue (by simp)
      | some next =>
        have := decidableAlways property next rest
        decidable_of_iff (Always step property next rest) (by simp)
    inferInstanceAs (Decidable (_ ∧ _))

variable {step}

theorem run_append {front back : List Action} (state : State) :
    run step state (front ++ back) =
      (run step state front).bind fun middle => run step middle back := by
  induction front generalizing state with
  | nil => rfl
  | cons action rest ih =>
    rw [List.cons_append, run, run]
    cases step state action with
    | none => rfl
    | some next => exact ih next

variable {state last : State} {actions : List Action} {guard assumed : State → Action → Prop}
  {invariant property : State → Prop}

theorem reaches_refl : Reaches step state state := ⟨[], rfl⟩

theorem reaches_step (next : State) (action : Action)
    (taken : step state action = some next) (onward : Reaches step next last) :
    Reaches step state last := by
  obtain ⟨actions, ran⟩ := onward
  refine ⟨action :: actions, ?_⟩
  rw [run, taken]
  exact ran

theorem reaches_trans {middle : State} (state : State) (first : Reaches step state middle)
    (second : Reaches step middle last) : Reaches step state last := by
  obtain ⟨actions, ran⟩ := first
  induction actions generalizing state with
  | nil =>
    cases ran
    exact second
  | cons action rest ih =>
    obtain ⟨next, taken, onward⟩ := Option.bind_eq_some_iff.mp ran
    exact reaches_step next action taken (ih next onward)

theorem always_last (state last : State)
    (always : Always step property state actions) (ran : run step state actions = some last) :
    property last := by
  induction actions generalizing state with
  | nil =>
    cases ran
    exact always
  | cons action rest ih =>
    obtain ⟨next, taken, onward⟩ := Option.bind_eq_some_iff.mp ran
    exact ih next (always.2 next taken) onward

theorem always_of_last
    (inherited : ∀ state action next, step state action = some next → property next →
      property state) (state last : State)
    (ran : run step state actions = some last) (holds : property last) :
    Always step property state actions := by
  have first (actions : List Action) (state : State)
      (ran : run step state actions = some last) : property state := by
    induction actions generalizing state with
    | nil =>
      cases ran
      exact holds
    | cons action rest ih =>
      obtain ⟨next, taken, onward⟩ := Option.bind_eq_some_iff.mp ran
      exact inherited state action next taken (ih next onward)
  induction actions generalizing state with
  | nil => exact first [] state ran
  | cons action rest ih =>
    refine ⟨first (action :: rest) state ran, fun next taken => ?_⟩
    rw [run, taken] at ran
    exact ih next ran

theorem guarded_weaken {weaker : State → Action → Prop} (invariant : State → Prop)
    (enough : ∀ state action, invariant state → guard state action → weaker state action)
    (kept : ∀ state action next, invariant state → guard state action →
      step state action = some next → invariant next) (state : State)
    (initial : invariant state) (guarded : Guarded step guard state actions) :
    Guarded step weaker state actions := by
  induction actions generalizing state with
  | nil => trivial
  | cons action rest ih =>
    obtain ⟨granted, onward⟩ := guarded
    refine ⟨enough state action initial granted, fun next taken => ?_⟩
    exact ih next (kept state action next initial granted taken) (onward next taken)

theorem guarded_true (state : State) :
    Guarded step (fun _ _ => True) state actions := by
  induction actions generalizing state with
  | nil => trivial
  | cons action rest ih => exact ⟨trivial, fun next _ => ih next⟩

/-- In runs that meet the assumptions: guards that agree in the states of an invariant,
which the steps that meet them keep. -/
theorem guarded_iff_assuming {left right : State → Action → Prop} (invariant : State → Prop)
    (agree : ∀ state action, invariant state → assumed state action →
      (left state action ↔ right state action))
    (kept : ∀ state action next, invariant state → assumed state action → left state action →
      step state action = some next → invariant next) (state : State) (initial : invariant state)
    (assuming : Guarded step assumed state actions) :
    Guarded step left state actions ↔ Guarded step right state actions := by
  induction actions generalizing state with
  | nil => exact Iff.rfl
  | cons action rest ih =>
    obtain ⟨here, later⟩ := assuming
    have same := agree state action initial here
    rw [Guarded, Guarded, ← same]
    apply and_congr_right
    intro granted
    refine forall_congr' fun next => imp_congr_right fun taken => ?_
    exact ih next (kept state action next initial here granted taken) (later next taken)

theorem guarded_iff {left right : State → Action → Prop} {invariant : State → Prop}
    (agree : ∀ state action, invariant state → (left state action ↔ right state action))
    (kept : ∀ state action next, invariant state → step state action = some next → invariant next)
    (initial : invariant state) :
    Guarded step left state actions ↔ Guarded step right state actions :=
  guarded_iff_assuming invariant
    (fun state action holds _ => agree state action holds)
    (fun state action next holds _ _ => kept state action next holds) state initial
    (guarded_true state)

theorem guarded_iff_splits (state : State) :
    Guarded step guard state actions ↔ ∀ front action back middle,
      actions = front ++ action :: back → run step state front = some middle →
        guard middle action := by
  induction actions generalizing state with
  | nil =>
    refine iff_of_true trivial ?_
    intro front action back middle shape
    cases front <;> cases shape
  | cons first rest ih =>
    constructor
    · rintro ⟨granted, onward⟩ front action back middle shape ran
      cases front with
      | nil =>
        cases shape
        cases ran
        exact granted
      | cons earlier front =>
        cases shape
        obtain ⟨next, taken, later⟩ := Option.bind_eq_some_iff.mp ran
        exact (ih next).mp (onward next taken) front action back middle rfl later
    · intro every
      refine ⟨every [] first rest state rfl rfl, fun next taken => ?_⟩
      apply (ih next).mpr
      intro front action back middle shape ran
      refine every (first :: front) action back middle ?_ ?_
      · rw [shape, List.cons_append]
      · rw [run, taken]
        exact ran

theorem always_of_guarded (explains : ∀ state, invariant state → property state)
    (kept : ∀ state action next, invariant state → guard state action →
      step state action = some next → invariant next) (state : State)
    (initial : invariant state) (guarded : Guarded step guard state actions) :
    Always step property state actions := by
  induction actions generalizing state with
  | nil => exact explains state initial
  | cons action rest ih =>
    obtain ⟨granted, onward⟩ := guarded
    refine ⟨explains state initial, fun next taken => ?_⟩
    exact ih next (kept state action next initial granted taken) (onward next taken)

/-- In runs that meet the assumptions: when an invariant explains the property,
and every step outside the guard leads out of the property, the guard is exactly
what the property needs. -/
theorem always_iff_guarded_assuming
    (explains : ∀ state, invariant state → property state)
    (kept : ∀ state action next, invariant state → assumed state action → guard state action →
      step state action = some next → invariant next)
    (needed : ∀ state action, invariant state → assumed state action → ¬ guard state action →
      ∃ next, step state action = some next ∧ ¬ property next)
    (state : State) (initial : invariant state)
    (assuming : Guarded step assumed state actions) :
    Always step property state actions ↔ Guarded step guard state actions := by
  induction actions generalizing state with
  | nil => exact iff_of_true (explains state initial) trivial
  | cons action rest ih =>
    obtain ⟨here, later⟩ := assuming
    constructor
    · rintro ⟨_, onward⟩
      -- A step outside the guard would break the property one state later.
      have admitted : guard state action := by
        apply Classical.byContradiction
        intro outside
        obtain ⟨next, taken, broken⟩ := needed state action initial here outside
        have there := onward next taken
        cases rest with
        | nil => exact broken there
        | cons => exact broken there.1
      refine ⟨admitted, fun next taken => ?_⟩
      have invariantNext := kept state action next initial here admitted taken
      exact (ih next invariantNext (later next taken)).mp (onward next taken)
    · rintro ⟨admitted, onward⟩
      refine ⟨explains state initial, fun next taken => ?_⟩
      have invariantNext := kept state action next initial here admitted taken
      exact (ih next invariantNext (later next taken)).mpr (onward next taken)

theorem guarded_of_invariant (holds : ∀ state action, invariant state → guard state action)
    (kept : ∀ state action next, invariant state → step state action = some next → invariant next)
    (initial : invariant state) :
    Guarded step guard state actions :=
  guarded_weaken invariant
    (fun state action granted _ => holds state action granted)
    (fun state action next granted _ => kept state action next granted) state initial
    (guarded_true state)

theorem always_of_invariant (invariant : State → Prop)
    (explains : ∀ state, invariant state → property state)
    (kept : ∀ state action next, invariant state → step state action = some next → invariant next)
    (actions : List Action) (state : State) (initial : invariant state) :
    Always step property state actions :=
  always_of_guarded explains
    (fun state action next holds _ => kept state action next holds) state initial
    (guarded_true state)

/-- When every step outside the guard leaves a mark that no step takes away, a run
that ends without it was guarded. -/
theorem guarded_of_unmarked (invariant marked : State → Prop)
    (kept : ∀ state action next, invariant state → guard state action →
      step state action = some next → invariant next)
    (outside : ∀ state action next, invariant state → ¬ guard state action →
      step state action = some next → marked next)
    (stays : ∀ state action next, marked state → step state action = some next → marked next)
    (state last : State) (initial : invariant state)
    (ran : run step state actions = some last) (unmarked : ¬ marked last) :
    Guarded step guard state actions := by
  induction actions generalizing state with
  | nil => trivial
  | cons action rest ih =>
    obtain ⟨next, taken, onward⟩ := Option.bind_eq_some_iff.mp ran
    have admitted : guard state action := by
      apply Classical.byContradiction
      intro refused
      have left := outside state action next initial refused taken
      have always := always_of_invariant marked (fun _ => id) stays rest next left
      exact unmarked (always_last next last always onward)
    refine ⟨admitted, fun after same => ?_⟩
    cases taken.symm.trans same
    exact ih next (kept state action next initial admitted taken) onward

theorem always_iff_guarded (invariant property : State → Prop)
    (explains : ∀ state, invariant state → property state)
    (kept : ∀ state action next, invariant state → guard state action →
      step state action = some next → invariant next)
    (needed : ∀ state action, invariant state → ¬ guard state action →
      ∃ next, step state action = some next ∧ ¬ property next) (actions : List Action)
    (state : State) (initial : invariant state) :
    Always step property state actions ↔ Guarded step guard state actions :=
  always_iff_guarded_assuming explains
    (fun state action next holds _ => kept state action next holds)
    (fun state action holds _ => needed state action holds) state initial
    (guarded_true state)

/-- A relation between the items passed and the state, kept by every item, holds at
the end of the pass. -/
theorem pass_rule {Item : Type v} {step : State → Item → State}
    (invariant : List Item → State → Prop)
    (kept : ∀ passed state item, invariant passed state →
      invariant (passed ++ [item]) (step state item)) {items : List Item} (start : State)
    (initial : invariant [] start) : invariant items (items.foldl step start) := by
  have onward (items passed : List Item) (state : State) (holds : invariant passed state) :
      invariant (passed ++ items) (items.foldl step state) := by
    induction items generalizing passed state with
    | nil =>
      rw [List.append_nil]
      exact holds
    | cons item rest ih =>
      rw [List.append_cons, List.foldl_cons]
      exact ih (passed ++ [item]) (step state item) (kept passed state item holds)
  exact onward items [] start initial

end VcStack.Runs
