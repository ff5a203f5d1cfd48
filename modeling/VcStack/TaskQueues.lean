import VcStack.Pools

/-!
The task queue of internal/compute/resources.go: its workers, the Submit calls and the
one Stop call as goroutines that share two channels and a wait group. A select with
several ready cases takes any of them.
-/

namespace VcStack.TaskQueues

open Runs Pools

universe u
variable {Task : Type u}

structure TaskQueue (Task : Type u) where
  called : Bool := false
  /-- stopCh is closed -/
  closed : Bool := false
  taskCh : List (Option Task) := []
  wg : Nat
  executed : List Task := []

def capacity : Nat := 100

/-- What Submit returns. For nil it panics, once nil is in the channel. -/
inductive Reply where
  | accepted
  | error (message : String)
  | panicked
deriving DecidableEq, Repr

/-- Where a goroutine stands: a Submit call, a worker, or the Stop call. A Submit call
is late when it starts after Stop was called. -/
inductive Routine (Task : Type u) where
  | submitting (task : Option Task) (late : Bool)
  | submitted (task : Option Task) (late : Bool) (reply : Reply)
  | selecting
  | executing (task : Task)
  | exited
  | calling
  | closing
  | waiting
  | stopped
  | interrupted
deriving DecidableEq

inductive Case where
  | send
  | receive
  | stop
  | full
  | done
  | cancelled
  | next
deriving DecidableEq, Repr

/-- `task.GetID()` panics on nil. -/
def submitReply : Option Task → Reply
  | none => .panicked
  | some _ => .accepted

def proceed (tq : TaskQueue Task) : Routine Task → Case → Option (TaskQueue Task × Routine Task)
  | .submitting task late, .send =>
    if tq.taskCh.length < capacity then
      some ({tq with taskCh := tq.taskCh ++ [task]}, .submitted task late (submitReply task))
    else none
  | .submitting task late, .stop =>
    if tq.closed then some (tq, .submitted task late (.error "queue is closed")) else none
  | .submitting task late, .full =>
    -- default: neither of the others is ready
    if tq.taskCh.length < capacity ∨ tq.closed then none
    else some (tq, .submitted task late (.error "queue is full"))
  | .selecting, .receive =>
    match tq.taskCh with
    | [] => none
    | none :: rest => some ({tq with taskCh := rest}, .selecting)
    | some task :: rest => some ({tq with taskCh := rest}, .executing task)
  | .selecting, .stop => if tq.closed then some ({tq with wg := tq.wg - 1}, .exited) else none
  | .executing task, .next => some ({tq with executed := tq.executed ++ [task]}, .selecting)
  | .calling, .next => some ({tq with called := true}, .closing)
  | .closing, .next => some ({tq with closed := true}, .waiting)
  | .waiting, .done => if tq.wg = 0 then some (tq, .stopped) else none
  | .waiting, .cancelled => some (tq, .interrupted)
  | _, _ => none

def program : Program (TaskQueue Task) (Routine Task) (Option Task) Case where
  enter tq task := .submitting task tq.called
  proceed := proceed

abbrev Queue (Task : Type u) := Pool (TaskQueue Task) (Routine Task)

def newTaskQueue (workers : Int) : Queue Task :=
  let workers := if workers ≤ 0 then 5 else workers.toNat
  {shared := {wg := workers}, tasks := List.replicate workers .selecting ++ [.calling]}

inductive Moves (tq : TaskQueue Task) :
    Routine Task → Case → TaskQueue Task → Routine Task → Prop
  | send (task : Option Task) (late : Bool) (room : tq.taskCh.length < capacity) :
      Moves tq (.submitting task late) .send {tq with taskCh := tq.taskCh ++ [task]}
        (.submitted task late (submitReply task))
  | refuse (task : Option Task) (late : Bool) (choice : Case) (message : String)
      (other : choice ≠ .send) :
      Moves tq (.submitting task late) choice tq (.submitted task late (.error message))
  | skip (rest : List (Option Task)) (queued : tq.taskCh = none :: rest) :
      Moves tq .selecting .receive {tq with taskCh := rest} .selecting
  | receive (task : Task) (rest : List (Option Task)) (queued : tq.taskCh = some task :: rest) :
      Moves tq .selecting .receive {tq with taskCh := rest} (.executing task)
  | exit : Moves tq .selecting .stop {tq with wg := tq.wg - 1} .exited
  | execute (task : Task) :
      Moves tq (.executing task) .next {tq with executed := tq.executed ++ [task]} .selecting
  | call : Moves tq .calling .next {tq with called := true} .closing
  | close : Moves tq .closing .next {tq with closed := true} .waiting
  | done (gone : tq.wg = 0) : Moves tq .waiting .done tq .stopped
  | cancel : Moves tq .waiting .cancelled tq .interrupted

theorem moves_of_proceed (tq next : TaskQueue Task) (routine after : Routine Task) (choice : Case)
    (moved : proceed tq routine choice = some (next, after)) :
    Moves tq routine choice next after := by
  revert moved
  fun_cases proceed tq routine choice <;> intro moved <;> cases moved
  case case1 task late room => exact .send task late room
  case case3 task late closed => exact .refuse task late .stop _ (by decide)
  case case6 task late neither => exact .refuse task late .full _ (by decide)
  case case8 rest queued => exact .skip rest queued
  case case9 task rest queued => exact .receive task rest queued
  case case10 => exact .exit
  case case12 task => exact .execute task
  case case13 => exact .call
  case case14 => exact .close
  case case15 gone => exact .done gone
  case case17 => exact .cancel

variable [DecidableEq Task]

def accepting (task : Task) : Routine Task → Nat
  | .submitted (some other) _ .accepted => if other = task then 1 else 0
  | _ => 0

/-- Once Stop has returned nil, every task was executed as often as it was accepted;
and late Submit calls return errors. -/
structure Honoured (queue : Queue Task) : Prop where
  executed : .stopped ∈ queue.tasks → ∀ task,
    total (accepting task) queue.tasks ≤ queue.shared.executed.count task
  refused : ∀ task reply, .submitted task true reply ∈ queue.tasks → ∃ message, reply = .error message

/-- No late call sends and no task is sent when the workers have gone, and the last
worker stays while there are tasks. -/
def Patient (tq : TaskQueue Task) : Routine Task → Case → Prop
  | .submitting task late, .send => late = false ∧ (tq.wg = 0 → task = none)
  | .selecting, .stop => tq.wg = 1 → ∀ task, some task ∉ tq.taskCh
  | _, _ => True

def executingOne (task : Task) : Routine Task → Nat
  | .executing other => if other = task then 1 else 0
  | _ => 0

def active : Routine Task → Nat
  | .selecting => 1
  | .executing _ => 1
  | _ => 0

structure Counted (queue : Queue Task) : Prop where
  balance : ∀ task, total (accepting task) queue.tasks =
    queue.shared.executed.count task + queue.shared.taskCh.count (some task) +
      total (executingOne task) queue.tasks
  workers : total active queue.tasks = queue.shared.wg
  stopped : .stopped ∈ queue.tasks → queue.shared.wg = 0

structure Sound (queue : Queue Task) : Prop where
  drained : queue.shared.wg = 0 → ∀ task, some task ∉ queue.shared.taskCh
  refused : ∀ task reply, .submitted task true reply ∈ queue.tasks → ∃ message, reply = .error message

theorem counted_initial {workers : Int} : Counted (newTaskQueue workers : Queue Task) := by
  constructor
  · intro task
    simp [newTaskQueue, total, accepting, executingOne]
  · simp [newTaskQueue, total, active]
  · simp [newTaskQueue]

omit [DecidableEq Task] in
theorem sound_initial (workers : Int) : Sound (newTaskQueue workers : Queue Task) := by
  constructor
  · simp [newTaskQueue]
  · simp [newTaskQueue]

variable {routine : Routine Task} {queue next : Queue Task} {turn : Turn (Option Task) Case}

theorem moves_balance {tq next : TaskQueue Task} {after : Routine Task} {choice : Case}
    (moves : Moves tq routine choice next after) (task : Task) :
    accepting task after + tq.executed.count task + tq.taskCh.count (some task) +
        executingOne task routine =
      accepting task routine + next.executed.count task + next.taskCh.count (some task) +
        executingOne task after := by
  cases moves with
  | send sent late room =>
    cases sent with
    | none => simp [accepting, executingOne, List.count_append]
    | some own =>
      simp [accepting, executingOne, submitReply, List.count_append, List.count_singleton]
      omega
  | skip rest queued => simp [accepting, executingOne, queued]
  | receive own rest queued =>
    simp [accepting, executingOne, queued, List.count_cons]
    omega
  | execute own =>
    simp [accepting, executingOne, List.count_append, List.count_singleton]
    omega
  | _ => simp [accepting, executingOne]

omit [DecidableEq Task] in
theorem moves_workers (tq next : TaskQueue Task) (routine after : Routine Task) (choice : Case)
    (moves : Moves tq routine choice next after) (counted : active routine ≤ tq.wg) :
    active after + tq.wg = active routine + next.wg := by
  cases moves with
  | exit =>
    change 1 ≤ tq.wg at counted
    change 0 + tq.wg = 1 + (tq.wg - 1)
    omega
  | _ => rfl

omit [DecidableEq Task] in
theorem moves_gone (tq next : TaskQueue Task) (routine after : Routine Task) (choice : Case)
    (moves : Moves tq routine choice next after) (gone : tq.wg = 0) : next.wg = 0 := by
  cases moves with
  | exit => simp [gone]
  | _ => exact gone

omit [DecidableEq Task] in
theorem moves_stopped (tq next : TaskQueue Task) (routine : Routine Task) (choice : Case)
    (moves : Moves tq routine choice next .stopped) : next.wg = 0 := by
  cases moves with
  | done gone => exact gone

theorem counted_advance {front back : List (Routine Task)}
    {after : Routine Task} {choice : Case} {next : TaskQueue Task}
    (split : queue.tasks = front ++ routine :: back) (counted : Counted queue)
    (moves : Moves queue.shared routine choice next after) :
    Counted {shared := next, tasks := front ++ after :: back} := by
  have workers := counted.workers
  rw [split, total_append, total_cons] at workers
  constructor
  · intro task
    have before := counted.balance task
    have moved := moves_balance moves task
    rw [split, total_append, total_append, total_cons, total_cons] at before
    simp only [total_append, total_cons]
    omega
  · have moved := moves_workers _ _ _ _ _ moves (by omega)
    rw [total_append, total_cons]
    change _ = next.wg
    omega
  · intro member
    rcases List.mem_append.mp member with earlier | later
    · exact moves_gone _ _ _ _ _ moves (counted.stopped (split ▸ List.mem_append_left _ earlier))
    · rcases List.mem_cons.mp later with same | behind
      · subst same
        exact moves_stopped _ _ _ _ moves
      · refine moves_gone _ _ _ _ _ moves (counted.stopped ?_)
        rw [split]
        exact List.mem_append_right _ (List.mem_cons_of_mem _ behind)

theorem counted_step
    (counted : Counted queue) (stepped : program.step queue turn = some next) : Counted next := by
  cases taken_of_step stepped with
  | enter task =>
    constructor
    · intro task
      simpa [total_append, total, program, accepting, executingOne] using counted.balance task
    · simpa [total_append, total, program, active] using counted.workers
    · simpa [program] using counted.stopped
  | advance choice front back routine after shared split moved =>
    exact counted_advance split counted (moves_of_proceed _ _ _ _ _ moved)

theorem none_active (counted : Counted queue) (gone : queue.shared.wg = 0) (member : routine ∈ queue.tasks) :
    active routine = 0 := by
  have weight := weight_le_total active member
  rw [counted.workers, gone] at weight
  exact Nat.le_zero.mp weight

theorem honoured_of_sound (counted : Counted queue) (sound : Sound queue) :
    Honoured queue := by
  refine ⟨?_, sound.refused⟩
  intro stopped task
  have gone := counted.stopped stopped
  have queued : queue.shared.taskCh.count (some task) = 0 :=
    List.count_eq_zero.mpr (sound.drained gone task)
  have executing : total (executingOne task) queue.tasks ≤ total active queue.tasks := by
    apply total_le_total
    intro routine
    cases routine with
    | executing other =>
      change (if other = task then 1 else 0) ≤ 1
      split <;> decide
    | _ => exact Nat.zero_le _
  have balance := counted.balance task
  rw [counted.workers, gone] at executing
  omega

theorem sound_of_honoured (counted : Counted queue)
    (stopped : .stopped ∈ queue.tasks) (honoured : Honoured queue) : Sound queue := by
  refine ⟨?_, honoured.refused⟩
  intro _ task queued
  have waiting := List.count_pos_iff.mpr queued
  have executed := honoured.executed stopped task
  have balance := counted.balance task
  omega

omit [DecidableEq Task] in
theorem moves_refused (tq next : TaskQueue Task) (routine : Routine Task) (choice : Case)
    (task : Option Task) (reply : Reply)
    (moves : Moves tq routine choice next (.submitted task true reply)) :
    (∃ message, reply = .error message) ∨ routine = .submitting task true ∧ choice = .send := by
  cases moves with
  | send => exact Or.inr ⟨rfl, rfl⟩
  | refuse task late choice message other => exact Or.inl ⟨message, rfl⟩

omit [DecidableEq Task] in
/-- A task in the channel of a queue without workers was there before, was sent, or
was left by the last worker. -/
theorem moves_left (tq next : TaskQueue Task) (routine after : Routine Task) (choice : Case)
    (moves : Moves tq routine choice next after) (gone : next.wg = 0) (task : Task)
    (queued : some task ∈ next.taskCh) (counted : active routine ≤ tq.wg) :
    tq.wg = 0 ∧ some task ∈ tq.taskCh ∨ ¬ Patient tq routine choice := by
  cases moves with
  | send sent late room =>
    rcases List.mem_append.mp queued with before | new
    · exact Or.inl ⟨gone, before⟩
    · cases List.mem_singleton.mp new
      exact Or.inr fun patient => Option.some_ne_none _ (patient.2 gone)
  | skip rest shape =>
    refine Or.inl ⟨gone, ?_⟩
    rw [shape]
    exact List.mem_cons_of_mem _ queued
  | receive own rest shape =>
    refine Or.inl ⟨gone, ?_⟩
    rw [shape]
    exact List.mem_cons_of_mem _ queued
  | exit =>
    have last : tq.wg = 1 := by
      change 1 ≤ tq.wg at counted
      change tq.wg - 1 = 0 at gone
      omega
    exact Or.inr fun patient => patient last task queued
  | _ => exact Or.inl ⟨gone, queued⟩

theorem sound_step
    (counted : Counted queue) (sound : Sound queue) (patient : Steps Patient queue turn)
    (stepped : program.step queue turn = some next) : Sound next := by
  cases taken_of_step stepped with
  | enter task =>
    refine ⟨sound.drained, ?_⟩
    simpa [program] using sound.refused
  | advance choice front back routine after shared split moved =>
    have moves := moves_of_proceed _ _ _ _ _ moved
    have granted := (steps_advance_iff split).mp patient
    constructor
    · intro gone task queued
      have counts := counted.workers
      rw [split, total_append, total_cons] at counts
      rcases moves_left _ _ _ _ _ moves gone task queued (by omega) with ⟨before, there⟩ | outside
      · exact sound.drained before task there
      · exact outside granted
    · have refused := sound.refused
      intro task reply member
      simp only [split, List.mem_append, List.mem_cons] at refused
      rcases List.mem_append.mp member with earlier | later
      · exact refused task reply (Or.inl earlier)
      · rcases List.mem_cons.mp later with same | behind
        · subst same
          rcases moves_refused _ _ _ _ _ _ moves with error | ⟨rfl, rfl⟩
          · exact error
          · cases granted.1
        · exact refused task reply (Or.inr (Or.inr behind))

theorem unsound_step
    (counted : Counted queue) (stepped : program.step queue turn = some next) (sound : Sound next) :
    Sound queue := by
  cases taken_of_step stepped with
  | enter task =>
    refine ⟨sound.drained, fun task reply member => ?_⟩
    exact sound.refused task reply (List.mem_append_left _ member)
  | advance choice front back routine after shared split moved =>
    have moves := moves_of_proceed _ _ _ _ _ moved
    have present : routine ∈ queue.tasks := by
      rw [split]
      exact List.mem_append_right _ List.mem_cons_self
    constructor
    · intro gone task queued
      apply sound.drained (moves_gone _ _ _ _ _ moves gone) task
      have idle := none_active counted gone present
      cases moves with
      | send => exact List.mem_append_left _ queued
      | skip => cases idle
      | receive => cases idle
      | exit => cases idle
      | _ => exact queued
    · intro task reply member
      apply sound.refused task reply
      rw [split] at member
      rcases List.mem_append.mp member with earlier | later
      · exact List.mem_append_left _ earlier
      · rcases List.mem_cons.mp later with same | behind
        · subst same
          cases moves
        · exact List.mem_append_right _ (List.mem_cons_of_mem _ behind)

omit [DecidableEq Task] in
theorem impatient_unsound (queue next : Queue Task) (turn : Turn (Option Task) Case)
    (impatient : ¬ Steps Patient queue turn) (stepped : program.step queue turn = some next) :
    ¬ Sound next := by
  intro sound
  cases taken_of_step stepped with
  | enter task => exact impatient trivial
  | advance choice front back routine after shared split moved =>
    rw [steps_advance_iff split] at impatient
    cases moves_of_proceed _ _ _ _ _ moved with
    | send sent late room =>
      apply impatient
      constructor
      · cases late with
        | false => rfl
        | true =>
          obtain ⟨message, error⟩ := sound.refused sent _
            (List.mem_append_right _ List.mem_cons_self)
          cases sent <;> cases error
      · intro gone
        cases sent with
        | none => rfl
        | some task =>
          exact absurd (List.mem_append_right _ List.mem_cons_self) (sound.drained gone task)
    | exit =>
      apply impatient
      intro last task queued
      exact sound.drained (Nat.sub_eq_zero_of_le (Nat.le_of_eq last)) task queued
    | refuse task late choice message other =>
      cases choice <;> first | exact other rfl | exact impatient trivial
    | _ => exact impatient trivial

/-- For all numbers of workers and all interleavings: when no late call sends, no task is
sent after the workers have gone and the last worker stays while there are tasks, accepted
tasks are executed and late ones refused. A run in which Stop returns nil honours
its tasks in no other case. -/
theorem tasks_honoured_iff (workers : Int) (turns : List (Turn (Option Task) Case)) :
    (Guarded program.step (Steps Patient) (newTaskQueue workers) turns →
        Always program.step Honoured (newTaskQueue workers) turns) ∧
      ∀ last, run program.step (newTaskQueue workers) turns = some last → .stopped ∈ last.tasks →
        (Honoured last ↔ Guarded program.step (Steps Patient) (newTaskQueue workers) turns) := by
  have initial : Counted (newTaskQueue workers : Queue Task) ∧
      Sound (newTaskQueue workers : Queue Task) :=
    ⟨counted_initial, sound_initial workers⟩
  have kept (queue : Queue Task) (turn : Turn (Option Task) Case) (next : Queue Task)
      (holds : Counted queue ∧ Sound queue) (patient : Steps Patient queue turn)
      (stepped : program.step queue turn = some next) : Counted next ∧ Sound next :=
    ⟨counted_step holds.1 stepped, sound_step holds.1 holds.2 patient stepped⟩
  have enough : Guarded program.step (Steps Patient) (newTaskQueue workers) turns →
      Always program.step Honoured (newTaskQueue workers) turns :=
    always_of_guarded (fun queue holds => honoured_of_sound holds.1 holds.2) kept _ initial
  refine ⟨enough, fun last ran stopped => ⟨fun honoured => ?_, fun patient => ?_⟩⟩
  · -- Whatever is lost on the way is missing at the end.
    refine guarded_of_unmarked (fun queue => Counted queue ∧ Sound queue)
      (fun queue => Counted queue ∧ ¬ Sound queue) kept ?_ ?_ _ last initial ran ?_
    · intro queue turn next holds impatient stepped
      exact ⟨counted_step holds.1 stepped, impatient_unsound queue next turn impatient stepped⟩
    · intro queue turn next holds stepped
      exact ⟨counted_step holds.1 stepped,
        fun sound => holds.2 (unsound_step holds.1 stepped sound)⟩
    · rintro ⟨counted, unsound⟩
      exact unsound (sound_of_honoured counted stopped honoured)
  · exact always_last _ last (enough patient) ran

/-- The only worker stops although a task is queued, and Stop returns nil; and a call
that starts when Stop has been called is accepted. -/
theorem accepted_task_lost :
    (∃ last : Queue String,
      run program.step (newTaskQueue 1) [.enter (some "snapshot"), .advance 2 .send,
        .advance 1 .next, .advance 1 .next, .advance 0 .stop, .advance 1 .done] = some last ∧
      last.shared.executed = [] ∧
      last.tasks = [.exited, .stopped, .submitted (some "snapshot") false .accepted] ∧
      ¬ Honoured last) ∧
    ∃ last : Queue String,
      run program.step (newTaskQueue 1) [.advance 1 .next, .advance 1 .next,
        .enter (some "snapshot"), .advance 2 .send] = some last ∧
      last.tasks = [.selecting, .waiting, .submitted (some "snapshot") true .accepted] ∧
      ¬ Honoured last := by
  refine ⟨⟨_, rfl, rfl, rfl, fun honoured => ?_⟩, ⟨_, rfl, rfl, fun honoured => ?_⟩⟩
  · exact absurd (honoured.executed (by decide) "snapshot") (by decide)
  · obtain ⟨message, error⟩ := honoured.refused (some "snapshot") .accepted (by decide)
    cases error

end VcStack.TaskQueues
