import Mathlib.Algebra.GroupWithZero.Nat
import Mathlib.Data.List.Basic
import VcStack.Runs

/-!
Tasks that share a state. A task begins with a request and then takes its steps
one at a time, in any order with the steps of the others; the input of a step
settles what the task leaves open.
-/

namespace VcStack.Pools

open Runs

universe u v w x
variable {Shared : Type u} {Task : Type v} {Request : Type w} {Input : Type x}

structure Pool (Shared : Type u) (Task : Type v) where
  shared : Shared
  tasks : List Task := []

inductive Turn (Request : Type w) (Input : Type x) where
  | enter (request : Request)
  | advance (place : Nat) (input : Input)
deriving DecidableEq

structure Program (Shared : Type u) (Task : Type v) (Request : Type w) (Input : Type x) where
  enter : Shared → Request → Task
  /-- `none` for a task that has nothing left to do -/
  proceed : Shared → Task → Input → Option (Shared × Task)

def Program.step (program : Program Shared Task Request Input) (pool : Pool Shared Task) :
    Turn Request Input → Option (Pool Shared Task)
  | .enter request =>
    some {pool with tasks := pool.tasks ++ [program.enter pool.shared request]}
  | .advance place input =>
    (pool.tasks[place]?).bind fun task =>
      (program.proceed pool.shared task input).map fun after =>
        {shared := after.1, tasks := pool.tasks.set place after.2}

variable {program : Program Shared Task Request Input}

inductive Taken (program : Program Shared Task Request Input) (pool : Pool Shared Task) :
    Turn Request Input → Pool Shared Task → Prop
  | enter (request : Request) :
      Taken program pool (.enter request)
        {pool with tasks := pool.tasks ++ [program.enter pool.shared request]}
  | advance (input : Input) (front back : List Task) (task after : Task) (shared : Shared)
      (split : pool.tasks = front ++ task :: back)
      (moved : program.proceed pool.shared task input = some (shared, after)) :
      Taken program pool (.advance front.length input)
        {shared := shared, tasks := front ++ after :: back}

variable {pool next : Pool Shared Task} {turn : Turn Request Input} {front back : List Task}
  {task : Task} {weight : Task → Nat}

theorem taken_of_step
    (stepped : program.step pool turn = some next) : Taken program pool turn next := by
  cases turn with
  | enter request =>
    cases stepped
    exact .enter request
  | advance place input =>
    obtain ⟨task, found, onward⟩ := Option.bind_eq_some_iff.mp stepped
    obtain ⟨⟨shared, after⟩, moved, rfl⟩ := Option.map_eq_some_iff.mp onward
    obtain ⟨inside, rfl⟩ := List.getElem?_eq_some_iff.mp found
    have size : (pool.tasks.take place).length = place :=
      List.length_take_of_le (Nat.le_of_lt inside)
    have split : pool.tasks =
        pool.tasks.take place ++ pool.tasks[place] :: pool.tasks.drop (place + 1) := by
      rw [← List.drop_eq_getElem_cons inside, List.take_append_drop]
    have turned : Taken program pool (.advance (pool.tasks.take place).length input) _ :=
      .advance input _ _ _ after shared split moved
    rw [size] at turned
    rw [List.set_eq_take_append_cons_drop, if_pos inside]
    exact turned

theorem task_at
    (split : pool.tasks = front ++ task :: back) : pool.tasks[front.length]? = some task := by
  rw [split, List.getElem?_append_right (Nat.le_refl _), Nat.sub_self]
  rfl

theorem forall_replaced {before : Task → Prop} (after : Task → Prop) {moved : Task}
    (all : ∀ other ∈ front ++ task :: back, before other)
    (kept : ∀ other, before other → after other) (own : after moved) :
    ∀ other ∈ front ++ moved :: back, after other := by
  intro other member
  rcases List.mem_append.mp member with earlier | later
  · exact kept other (all other (List.mem_append_left _ earlier))
  · rcases List.mem_cons.mp later with same | behind
    · rw [same]
      exact own
    · exact kept other (all other (List.mem_append_right _ (List.mem_cons_of_mem _ behind)))

structure Holds (invariant : Shared → Prop) (assertion : Shared → Task → Prop)
    (pool : Pool Shared Task) : Prop where
  shared : invariant pool.shared
  task : ∀ task ∈ pool.tasks, assertion pool.shared task

def Quiescent (finished : Task → Prop) (pool : Pool Shared Task) : Prop :=
  ∀ task ∈ pool.tasks, finished task

def Steps (guard : Shared → Task → Input → Prop) (pool : Pool Shared Task) :
    Turn Request Input → Prop
  | .enter _ => True
  | .advance place input => ∀ task, pool.tasks[place]? = some task → guard pool.shared task input

instance (guard : Shared → Task → Input → Prop)
    [∀ shared task input, Decidable (guard shared task input)] (pool : Pool Shared Task)
    (turn : Turn Request Input) : Decidable (Steps guard pool turn) :=
  match turn with
  | .enter _ => inferInstanceAs (Decidable True)
  | .advance place input =>
    match found : pool.tasks[place]? with
    | none => isTrue (by simp [Steps, found])
    | some task => decidable_of_iff (guard pool.shared task input) (by simp [Steps, found])

/-- Tasks that do not disturb one another: a step keeps the invariant and the
task's own assertion, and the assertions of all others. -/
theorem holds_step {guard : Shared → Task → Input → Prop} {invariant : Shared → Prop}
    {assertion : Shared → Task → Prop}
    (entering : ∀ shared request, invariant shared → assertion shared (program.enter shared request))
    (own : ∀ shared task input next after, invariant shared → assertion shared task →
      guard shared task input → program.proceed shared task input = some (next, after) →
      invariant next ∧ assertion next after)
    (others : ∀ shared task input next after other, invariant shared → assertion shared task →
      guard shared task input → program.proceed shared task input = some (next, after) →
      assertion shared other → assertion next other)
    (holds : Holds invariant assertion pool) (guarded : Steps guard pool turn)
    (stepped : program.step pool turn = some next) : Holds invariant assertion next := by
  cases taken_of_step stepped with
  | enter request =>
    refine ⟨holds.shared, ?_⟩
    intro task member
    rcases List.mem_append.mp member with old | new
    · exact holds.task task old
    · rw [List.mem_singleton.mp new]
      exact entering pool.shared request holds.shared
  | advance input front back task after shared split moved =>
    have present : task ∈ pool.tasks := by
      rw [split]
      exact List.mem_append_right _ List.mem_cons_self
    have granted : guard pool.shared task input := guarded task (task_at split)
    have asserted := holds.task task present
    obtain ⟨kept, moves⟩ := own _ _ _ _ _ holds.shared asserted granted moved
    have all := holds.task
    rw [split] at all
    exact ⟨kept, forall_replaced _ all
      (fun other => others _ _ _ _ _ other holds.shared asserted granted moved) moves⟩

theorem steps_true :
    Steps (fun _ _ _ => True) pool turn := by
  cases turn with
  | enter request => trivial
  | advance place input => exact fun _ _ => trivial

theorem holds_step_free {invariant : Shared → Prop} {assertion : Shared → Task → Prop}
    (entering : ∀ shared request, invariant shared → assertion shared (program.enter shared request))
    (own : ∀ shared task input next after, invariant shared → assertion shared task →
      program.proceed shared task input = some (next, after) →
      invariant next ∧ assertion next after)
    (others : ∀ shared task input next after other, invariant shared → assertion shared task →
      program.proceed shared task input = some (next, after) →
      assertion shared other → assertion next other)
    (holds : Holds invariant assertion pool) (stepped : program.step pool turn = some next) :
    Holds invariant assertion next :=
  holds_step entering
    (fun shared task input next after kept asserted _ =>
      own shared task input next after kept asserted)
    (fun shared task input next after other kept asserted _ =>
      others shared task input next after other kept asserted) holds steps_true stepped

theorem steps_advance_iff {guard : Shared → Task → Input → Prop} {input : Input}
    (split : pool.tasks = front ++ task :: back) :
    Steps guard pool (.advance front.length input : Turn Request Input) ↔
      guard pool.shared task input := by
  simp only [Steps, task_at split, Option.some.injEq, forall_eq']

theorem not_steps_iff {guard : Shared → Task → Input → Prop} :
    ¬ Steps guard pool turn ↔ ∃ front task back input, pool.tasks = front ++ task :: back ∧
      turn = .advance front.length input ∧ ¬ guard pool.shared task input := by
  constructor
  · intro outside
    cases turn with
    | enter request => exact absurd trivial outside
    | advance place input =>
      simp only [Steps, not_forall] at outside
      obtain ⟨task, found, refused⟩ := outside
      obtain ⟨inside, rfl⟩ := List.getElem?_eq_some_iff.mp found
      refine ⟨pool.tasks.take place, pool.tasks[place], pool.tasks.drop (place + 1), input, ?_,
        ?_, refused⟩
      · rw [← List.drop_eq_getElem_cons inside, List.take_append_drop]
      · rw [List.length_take_of_le (Nat.le_of_lt inside)]
  · rintro ⟨front, task, back, input, split, rfl, refused⟩ every
    exact refused (every task (task_at split))

theorem step_advance {after : Task}
    {input : Input} {shared : Shared} (split : pool.tasks = front ++ task :: back)
    (moved : program.proceed pool.shared task input = some (shared, after)) :
    program.step pool (.advance front.length input) =
      some {shared := shared, tasks := front ++ after :: back} := by
  have put : pool.tasks.set front.length after = front ++ after :: back := by
    rw [split, List.set_append_right _ _ (Nat.le_refl _), Nat.sub_self]
    rfl
  rw [Program.step, task_at split, Option.bind_some, moved, Option.map_some, put]

def total (weight : Task → Nat) (tasks : List Task) : Nat := (tasks.map weight).sum

theorem total_append :
    total weight (front ++ back) = total weight front + total weight back := by
  rw [total, List.map_append, List.sum_append_nat]
  rfl

theorem total_cons {rest : List Task} :
    total weight (task :: rest) = weight task + total weight rest := by
  rw [total, List.map_cons, List.sum_cons]
  rfl

theorem weight_le_total (weight : Task → Nat) {tasks : List Task}
    (member : task ∈ tasks) : weight task ≤ total weight tasks := by
  obtain ⟨front, back, rfl⟩ := List.append_of_mem member
  rw [total_append, total_cons]
  omega

theorem total_le_total {heavier : Task → Nat} {tasks : List Task}
    (lighter : ∀ task, weight task ≤ heavier task) : total weight tasks ≤ total heavier tasks := by
  induction tasks with
  | nil => exact Nat.le_refl _
  | cons task rest ih =>
    rw [total_cons, total_cons]
    exact Nat.add_le_add (lighter task) ih

def Program.alone (program : Program Shared Task Request Input) (running : Shared × Task)
    (input : Input) : Option (Shared × Task) :=
  program.proceed running.1 running.2 input

end VcStack.Pools
