import Mathlib.Algebra.Ring.Int.Defs
import Mathlib.Logic.Function.Basic
import VcStack.Runs

/-!
The pool of idle VMs of internal/compute/firecracker/pool.go. The calls hold the lock
of the pool and take place one after another; VMs may exit in between. A VM is
a pointer, as its flag and its process are seen by all who hold it.
-/

namespace VcStack.VmPools

open Runs

abbrev Pointer := Nat

structure PooledVM where
  createdAt : Int
  inUse : Bool := false
  running : Bool := true
  /-- The client started the process itself; one that attached to it has no `cmd`. -/
  cmd : Bool := true
deriving DecidableEq, Repr

def PooledVM.kill (vm : PooledVM) (works : Bool) : PooledVM :=
  if !vm.running || !vm.cmd then vm
  else if works then {vm with running := false} else vm

structure PoolConfig where
  maxSize : Int
  minIdle : Int
  idleTimeout : Int
deriving DecidableEq, Repr

structure Limits where
  maxSize : Nat
  minIdle : Nat
  idleTimeout : Int
  room : 0 < maxSize

def PoolConfig.limits (cfg : PoolConfig) : Limits where
  maxSize := if cfg.maxSize ≤ 0 then 10 else cfg.maxSize.toNat
  minIdle := if cfg.minIdle ≤ 0 then 2 else cfg.minIdle.toNat
  idleTimeout := if cfg.idleTimeout ≤ 0 then 300000000000 else cfg.idleTimeout
  room := by
    split
    case isTrue => decide
    case isFalse positive => omega

structure Pool where
  idle : List Pointer := []
  vms : Pointer → PooledVM
  /-- stopCh is closed -/
  closed : Bool := false

def kill (vms : Pointer → PooledVM) (vm : Pointer) (works : Bool) : Pointer → PooledVM :=
  Function.update vms vm ((vms vm).kill works)

def Pool.ready (p : Pool) (vm : Pointer) : Bool := !(p.vms vm).inUse && (p.vms vm).running

def Pool.claim (p : Pool) : Pool × Option Pointer :=
  match p.idle.find? p.ready with
  | none => (p, none)
  | some vm =>
    ({p with
      vms := Function.update p.vms vm {p.vms vm with inUse := true}
      idle := p.idle.eraseP p.ready}, some vm)

def Pool.release (limits : Limits) (p : Pool) (vm : Pointer) (works : Bool) : Pool :=
  let vms := Function.update p.vms vm {p.vms vm with inUse := false}
  if limits.maxSize ≤ p.idle.length then {p with vms := kill vms vm works}
  else {p with vms := vms, idle := p.idle ++ [vm]}

def Pool.stop (p : Pool) (works : Pointer → Bool) : Pool where
  idle := []
  vms := p.idle.foldl (fun vms vm => kill vms vm (works vm)) p.vms
  closed := true

/-- `now.Sub`, which stays within the range of a duration -/
def sub (now earlier : Int) : Int := max (-2 ^ 63) (min (2 ^ 63 - 1) (now - earlier))

def maintainOne (limits : Limits) (now : Int) (works : Pointer → Bool)
    (seen : (Pointer → PooledVM) × List Pointer) (vm : Pointer) :
    (Pointer → PooledVM) × List Pointer :=
  if limits.minIdle ≤ seen.2.length ∧ limits.idleTimeout < sub now (seen.1 vm).createdAt then
    (kill seen.1 vm (works vm), seen.2)
  else if (seen.1 vm).running then (seen.1, seen.2 ++ [vm])
  else seen

def Pool.maintain (limits : Limits) (p : Pool) (now : Int) (works : Pointer → Bool) : Pool :=
  let seen := p.idle.foldl (maintainOne limits now works) (p.vms, [])
  {p with vms := seen.1, idle := seen.2}

def Pool.exit (p : Pool) (vm : Pointer) : Pool :=
  {p with vms := Function.update p.vms vm {p.vms vm with running := false}}

structure State where
  pool : Pool
  pooled : List Pointer := []
  since : Pointer → Int := fun _ => 0
  /-- the VMs of the InvokeFunction calls in progress -/
  invocations : List Pointer := []

inductive Call where
  | claim
  | release (vm : Pointer) (now : Int) (works : Bool)
  /-- InvokeFunction, up to the end of Claim -/
  | invoke
  /-- InvokeFunction returns: the deferred Release -/
  | finish (vm : Pointer) (now : Int) (works : Bool)
  | maintain (now : Int) (works : Pointer → Bool)
  /-- called once: to close stopCh again would panic -/
  | stop (works : Pointer → Bool)
  | exit (vm : Pointer)

section Steps

variable (limits : Limits)

def State.put (s : State) (vm : Pointer) (now : Int) (works : Bool) : State :=
  if limits.maxSize ≤ s.pool.idle.length then {s with pool := s.pool.release limits vm works}
  else {s with
    pool := s.pool.release limits vm works
    pooled := vm :: s.pooled
    since := Function.update s.since vm now}

def State.next (s : State) : Call → State
  | .claim => {s with pool := s.pool.claim.1}
  | .release vm now works => s.put limits vm now works
  | .invoke => {s with pool := s.pool.claim.1, invocations := s.pool.claim.2.toList ++ s.invocations}
  | .finish vm now works =>
    {s.put limits vm now works with invocations := s.invocations.erase vm}
  | .maintain now works => {s with pool := s.pool.maintain limits now works}
  | .stop works => {s with pool := s.pool.stop works}
  | .exit vm => {s with pool := s.pool.exit vm}

def step (s : State) (call : Call) : Option State := some (s.next limits call)

def start (vms : Pointer → PooledVM) : State := {pool := {vms := vms}}

end Steps

/-- After Stop, when all InvokeFunction calls have returned: the idle list is empty,
and no VM that was ever in the pool runs. -/
def LeakFree (s : State) : Prop :=
  s.pool.closed = true → s.invocations = [] →
    s.pool.idle = [] ∧ ∀ vm ∈ s.pooled, (s.pool.vms vm).running = false

def Contained (s : State) : Prop :=
  s.pool.closed = true →
    s.pool.idle = [] ∧ ∀ vm ∈ s.pooled, (s.pool.vms vm).running = true → vm ∈ s.invocations

/-- No VM comes back after Stop; and Stop finds every running VM in the idle list, and
can kill it, or in the hands of an InvokeFunction call. -/
def Clean (s : State) : Call → Prop
  | .release _ _ _ => s.pool.closed = false
  | .finish _ _ _ => s.pool.closed = false
  | .stop works => ∀ vm ∈ s.pooled, (s.pool.vms vm).running = true →
      vm ∈ s.invocations ∨ vm ∈ s.pool.idle ∧ (s.pool.vms vm).cmd = true ∧ works vm = true
  | _ => True

theorem leak_free_of_contained (s : State) (contained : Contained s) : LeakFree s := by
  intro closed returned
  obtain ⟨empty, held⟩ := contained closed
  refine ⟨empty, fun vm member => ?_⟩
  apply Bool.eq_false_iff.mpr
  intro running
  have inside := held vm member running
  rw [returned] at inside
  cases inside

theorem kill_running_iff {vm : PooledVM} {works : Bool} :
    (vm.kill works).running = true ↔ vm.running = true ∧ ¬ (vm.cmd = true ∧ works = true) := by
  unfold PooledVM.kill
  cases running : vm.running <;> cases cmd : vm.cmd <;> cases works <;> simp [running]

theorem kill_twice {vm : PooledVM} {works : Bool} : (vm.kill works).kill works = vm.kill works := by
  unfold PooledVM.kill
  cases running : vm.running <;> cases cmd : vm.cmd <;> cases works <;> simp [running, cmd]

variable {vm : Pointer} {works : Pointer → Bool} {p : Pool} {now : Int} {s : State} {call : Call}

theorem kill_apply {vms : Pointer → PooledVM} {other : Pointer} {works : Bool} :
    kill vms vm works other = if other = vm then (vms vm).kill works else vms other := by
  unfold kill
  rw [Function.update_apply]

theorem stop_vms :
    (p.stop works).vms vm = if vm ∈ p.idle then (p.vms vm).kill (works vm) else p.vms vm := by
  refine pass_rule (fun passed (vms : Pointer → PooledVM) =>
    ∀ vm, vms vm = if vm ∈ passed then (p.vms vm).kill (works vm) else p.vms vm) ?_ p.vms
    ?_ vm
  · intro passed vms own before vm
    rw [kill_apply, before, before]
    by_cases same : vm = own
    · subst same
      by_cases earlier : vm ∈ passed <;> simp [earlier, kill_twice]
    · simp [same]
  · intro vm
    simp

theorem stop_running_iff :
    ((p.stop works).vms vm).running = true ↔ (p.vms vm).running = true ∧
      ¬ (vm ∈ p.idle ∧ (p.vms vm).cmd = true ∧ works vm = true) := by
  rw [stop_vms]
  by_cases member : vm ∈ p.idle
  · rw [if_pos member, kill_running_iff]
    simp only [member, true_and]
  · rw [if_neg member]
    simp only [member, false_and, not_false_eq_true, and_true]

theorem claim_empty (empty : p.idle = []) : p.claim = (p, none) := by
  rw [Pool.claim, empty]
  rfl

theorem claim_closed : p.claim.1.closed = p.closed := by
  unfold Pool.claim
  split <;> rfl

theorem maintain_empty {limits : Limits}
    (empty : p.idle = []) : p.maintain limits now works = p := by
  rw [Pool.maintain, empty]
  cases p
  cases empty
  rfl

theorem exit_running {other : Pointer}
    (running : ((p.exit vm).vms other).running = true) : (p.vms other).running = true := by
  by_cases same : other = vm
  · subst same
    simp [Pool.exit] at running
  · simpa [Pool.exit, Function.update_of_ne same] using running

theorem put_closed {limits : Limits} {works : Bool} :
    (s.put limits vm now works).pool.closed = s.pool.closed := by
  unfold State.put Pool.release
  split <;> rfl

theorem put_empty {limits : Limits} {works : Bool}
    (empty : s.pool.idle = []) : (s.put limits vm now works).pool.idle = [vm] := by
  have room := limits.room
  have free : ¬ limits.maxSize ≤ s.pool.idle.length := by
    rw [empty, List.length_nil]
    omega
  rw [State.put, if_neg free, Pool.release, if_neg free, empty]
  rfl

theorem contained_stop_iff {limits : Limits} :
    Contained (s.next limits (.stop works)) ↔ Clean s (.stop works) := by
  constructor
  · intro contained vm member running
    obtain ⟨_, held⟩ := contained rfl
    by_contra outside
    rw [not_or] at outside
    exact outside.1 (held vm member (stop_running_iff.mpr ⟨running, outside.2⟩))
  · intro clean _
    refine ⟨rfl, fun vm member running => ?_⟩
    obtain ⟨before, survived⟩ := stop_running_iff.mp running
    exact (clean vm member before).resolve_right survived

theorem contained_other {limits : Limits} (contained : Contained s)
    (clean : Clean s call) (other : ∀ works, call ≠ .stop works) :
    Contained (s.next limits call) := by
  intro closed
  cases call with
  | claim =>
    rw [State.next, claim_closed] at closed
    rw [State.next, claim_empty (contained closed).1]
    exact contained closed
  | invoke =>
    rw [State.next, claim_closed] at closed
    rw [State.next, claim_empty (contained closed).1]
    exact contained closed
  | release vm now works =>
    rw [State.next, put_closed] at closed
    exact absurd closed (Bool.eq_false_iff.mp clean)
  | finish vm now works =>
    rw [State.next, put_closed] at closed
    exact absurd closed (Bool.eq_false_iff.mp clean)
  | maintain now works =>
    rw [State.next, maintain_empty (contained closed).1]
    exact contained closed
  | stop works => exact absurd rfl (other works)
  | exit vm =>
    obtain ⟨empty, held⟩ := contained closed
    exact ⟨empty, fun other member running =>
      held other member (exit_running running)⟩

theorem contained_of_clean {limits : Limits} (contained : Contained s)
    (clean : Clean s call) : Contained (s.next limits call) := by
  cases call with
  | stop works => exact contained_stop_iff.mpr clean
  | _ => exact contained_other contained clean nofun

theorem clean_of_contained {limits : Limits} (contained : Contained s)
    (after : Contained (s.next limits call)) : Clean s call := by
  cases call with
  | stop works => exact contained_stop_iff.mp after
  | release vm now works =>
    apply Bool.eq_false_iff.mpr
    intro closed
    have empty := (after (put_closed.trans closed)).1
    rw [State.next, put_empty (contained closed).1] at empty
    cases empty
  | finish vm now works =>
    apply Bool.eq_false_iff.mpr
    intro closed
    have empty := (after (put_closed.trans closed)).1
    rw [State.next, put_empty (contained closed).1] at empty
    cases empty
  | _ => trivial

/-- For all interleavings: when no VM comes back after Stop, and Stop finds and kills
every VM that no InvokeFunction call holds, nothing leaks. That VMs which run after
Stop are held by such calls needs just this. -/
theorem stop_leaks_nothing_iff (limits : Limits) (vms : Pointer → PooledVM) (calls : List Call) :
    (Always (step limits) Contained (start vms) calls ↔
        Guarded (step limits) Clean (start vms) calls) ∧
      (Guarded (step limits) Clean (start vms) calls →
        Always (step limits) LeakFree (start vms) calls) := by
  have initial : Contained (start vms) := nofun
  have kept (s : State) (call : Call) (next : State) (contained : Contained s)
      (clean : Clean s call) (stepped : step limits s call = some next) : Contained next := by
    cases stepped
    exact contained_of_clean contained clean
  constructor
  · apply always_iff_guarded Contained Contained (fun _ => id) kept ?_ calls _ initial
    intro s call contained unclean
    exact ⟨_, rfl, fun after => unclean (clean_of_contained contained after)⟩
  · exact always_of_guarded leak_free_of_contained kept _ initial

/-- A VM in use when Stop is called is put back afterwards and runs on. -/
theorem released_after_stop :
    ∃ last, run (step (PoolConfig.limits ⟨0, 0, 0⟩)) (start fun _ => {createdAt := 0})
        [.release 7 0 true, .invoke, .stop fun _ => true, .finish 7 1000000000 true] = some last ∧
      last.pool.closed = true ∧ last.invocations = [] ∧ last.pool.idle = [7] ∧
      (last.pool.vms 7).running = true ∧ ¬ LeakFree last := by
  refine ⟨_, rfl, rfl, rfl, rfl, rfl, fun free => ?_⟩
  have empty := (free rfl rfl).1
  cases empty

end VcStack.VmPools
