import Mathlib.Data.List.Nodup
import VcStack.Histories
import VcStack.VmPools

/-!
What maintain does to the idle VMs of a pool: which it kills, which it keeps, and how
long those it kills have been idle.
-/

namespace VcStack.VmRecycling

open Histories Runs VmPools

def Fair (s : State) : Call → Prop
  | .release vm _ _ => vm ∉ s.pool.idle ∧ vm ∉ s.invocations
  | .finish vm _ _ => vm ∈ s.invocations
  | _ => True

variable {vm : Pointer} {call : Call}

section Maintenance

variable (limits : Limits)

/-- Maintain kills only VMs that have been idle for longer than the timeout, leaves
enough of them, and drops no running VM alive. -/
structure Recycles (s : State) (now : Int) (works : Pointer → Bool) : Prop where
  idle : ∀ vm, (s.pool.vms vm).running = true →
    ((s.pool.maintain limits now works).vms vm).running = false →
      vm ∈ s.pool.idle ∧ limits.idleTimeout < now - s.since vm
  remain : ∀ vm, (s.pool.vms vm).running = true →
    ((s.pool.maintain limits now works).vms vm).running = false →
      limits.minIdle ≤ ((s.pool.maintain limits now works).idle.filter fun other =>
        ((s.pool.maintain limits now works).vms other).running).length
  dropped : ∀ vm ∈ s.pool.idle, (s.pool.vms vm).running = true →
    vm ∉ (s.pool.maintain limits now works).idle →
      ((s.pool.maintain limits now works).vms vm).running = false

def Proper (s : State) : Call → Prop
  | .maintain now works => Recycles limits s now works
  | _ => True

def Recycled (p : Pool) (now : Int) (front : List Pointer) (vm : Pointer) : Prop :=
  limits.minIdle ≤ (front.filter fun other => (p.vms other).running).length ∧
    limits.idleTimeout < sub now (p.vms vm).createdAt

/-- Every running VM that is old and stands behind as many as have to stay was also put
in the pool longer ago than the timeout, and can be killed. -/
def Aged (s : State) : Call → Prop
  | .maintain now works => Each (fun front vm =>
    (s.pool.vms vm).running = true → Recycled limits s.pool now front vm →
    limits.idleTimeout < now - s.since vm ∧ (s.pool.vms vm).cmd = true ∧ works vm = true)
    s.pool.idle
  | _ => True

section Loop

variable (p : Pool) (now : Int) (works : Pointer → Bool)

def running (vms : List Pointer) : Nat := (vms.filter fun vm => (p.vms vm).running).length

structure Fate (vms : Pointer → PooledVM) (kept front : List Pointer) (vm : Pointer) : Prop where
  recycled : Recycled limits p now front vm → vms vm = (p.vms vm).kill (works vm) ∧ vm ∉ kept
  spared : ¬ Recycled limits p now front vm →
    vms vm = p.vms vm ∧ (vm ∈ kept ↔ (p.vms vm).running = true)

structure Walked (passed : List Pointer) (vms : Pointer → PooledVM) (kept : List Pointer) :
    Prop where
  outside : ∀ vm, vm ∉ passed → vms vm = p.vms vm
  fate : Each (Fate limits p now works vms kept) passed
  inside : kept.Sublist passed
  few : running p passed < limits.minIdle → kept.length = running p passed
  many : limits.minIdle ≤ running p passed → limits.minIdle ≤ kept.length

theorem walked_initial : Walked limits p now works [] p.vms [] where
  outside _ _ := rfl
  fate := each_nil
  inside := .slnil
  few _ := rfl
  many enough := enough

theorem running_snoc (passed : List Pointer) (vm : Pointer) :
    running p (passed ++ [vm]) = running p passed + if (p.vms vm).running then 1 else 0 := by
  rw [running, List.filter_append, List.length_append]
  cases alive : (p.vms vm).running <;> simp [alive, running]

variable {limits p now works} (passed : List Pointer) (vms : Pointer → PooledVM)
  (kept : List Pointer)

theorem walked_enough_iff (walked : Walked limits p now works passed vms kept) :
    limits.minIdle ≤ kept.length ↔ limits.minIdle ≤ running p passed := by
  refine ⟨fun enough => ?_, walked.many⟩
  by_contra less
  have same := walked.few (Nat.lt_of_not_le less)
  omega

theorem walked_fates (fresh : vm ∉ passed)
    (walked : Walked limits p now works passed vms kept) {vmsAfter : Pointer → PooledVM}
    {keptAfter : List Pointer} (sameVMs : ∀ other, other ≠ vm → vmsAfter other = vms other)
    (sameKept : ∀ other, other ≠ vm → (other ∈ keptAfter ↔ other ∈ kept)) :
    Each (Fate limits p now works vmsAfter keptAfter) passed := by
  refine each_weaken _ walked.fate ?_
  intro front other member fate
  have apart : other ≠ vm := fun same => fresh (same ▸ member)
  constructor
  · intro recycled
    rw [sameVMs other apart, sameKept other apart]
    exact fate.recycled recycled
  · intro spared
    rw [sameVMs other apart, sameKept other apart]
    exact fate.spared spared

theorem walked_recycle (fresh : vm ∉ passed)
    (walked : Walked limits p now works passed vms kept)
    (recycled : Recycled limits p now passed vm) :
    Walked limits p now works (passed ++ [vm]) (kill vms vm (works vm)) kept := by
  have enough := (walked_enough_iff passed vms kept walked).mpr recycled.1
  have others (other : Pointer) (apart : other ≠ vm) : kill vms vm (works vm) other = vms other := by
    rw [kill_apply, if_neg apart]
  refine ⟨?_, ?_, walked.inside.trans (List.sublist_append_left _ _), ?_, fun _ => enough⟩
  · intro other missing
    rw [List.mem_append, not_or, List.mem_singleton] at missing
    rw [others other missing.2, walked.outside other missing.1]
  · rw [each_snoc_iff]
    refine ⟨walked_fates passed vms kept fresh walked others fun _ _ => Iff.rfl, ?_, ?_⟩
    · intro _
      rw [kill_apply, if_pos rfl, walked.outside vm fresh]
      exact ⟨rfl, fun member => fresh (walked.inside.subset member)⟩
    · intro spared
      exact absurd recycled spared
  · intro less
    have before := recycled.1
    have more := running_snoc p passed vm
    change limits.minIdle ≤ running p passed at before
    omega

theorem walked_spare (fresh : vm ∉ passed)
    (walked : Walked limits p now works passed vms kept)
    (spared : ¬ Recycled limits p now passed vm) :
    Walked limits p now works (passed ++ [vm]) vms
      (if (p.vms vm).running then kept ++ [vm] else kept) := by
  have more := running_snoc p passed vm
  have few := walked.few
  have many := walked.many
  have absent : vm ∉ kept := fun member => fresh (walked.inside.subset member)
  have outside (other : Pointer) (missing : other ∉ passed ++ [vm]) : vms other = p.vms other :=
    walked.outside other fun member => missing (List.mem_append_left _ member)
  cases alive : (p.vms vm).running with
  | true =>
    rw [alive, if_pos rfl] at more
    rw [if_pos rfl]
    refine ⟨outside, ?_, walked.inside.append (List.Sublist.refl _), ?_, ?_⟩
    · rw [each_snoc_iff]
      refine ⟨walked_fates passed vms kept fresh walked (fun _ _ => rfl) ?_, ?_, ?_⟩
      · intro other apart
        simp [apart]
      · intro recycled
        exact absurd recycled spared
      · intro _
        exact ⟨walked.outside vm fresh, iff_of_true List.mem_concat_self alive⟩
    · rw [List.length_append, List.length_singleton]
      omega
    · rw [List.length_append, List.length_singleton]
      omega
  | false =>
    rw [alive, if_neg Bool.false_ne_true] at more
    rw [if_neg Bool.false_ne_true]
    refine ⟨outside, ?_, walked.inside.trans (List.sublist_append_left _ _), ?_, ?_⟩
    · rw [each_snoc_iff]
      refine ⟨walked.fate, ?_, ?_⟩
      · intro recycled
        exact absurd recycled spared
      · intro _
        exact ⟨walked.outside vm fresh, iff_of_false absent (Bool.eq_false_iff.mp alive)⟩
    · omega
    · omega

theorem walked_step (fresh : vm ∉ passed)
    (walked : Walked limits p now works passed vms kept) :
    Walked limits p now works (passed ++ [vm]) (maintainOne limits now works (vms, kept) vm).1
      (maintainOne limits now works (vms, kept) vm).2 := by
  have same := walked.outside vm fresh
  have enough := walked_enough_iff passed vms kept walked
  by_cases recycled : Recycled limits p now passed vm
  · have branch : maintainOne limits now works (vms, kept) vm = (kill vms vm (works vm), kept) := by
      simp only [maintainOne, same]
      exact if_pos ⟨enough.mpr recycled.1, recycled.2⟩
    rw [branch]
    exact walked_recycle passed vms kept fresh walked recycled
  · have branch : maintainOne limits now works (vms, kept) vm =
        (vms, if (p.vms vm).running then kept ++ [vm] else kept) := by
      simp only [maintainOne, same]
      rw [if_neg fun taken => recycled ⟨enough.mp taken.1, taken.2⟩]
      split <;> rfl
    rw [branch]
    exact walked_spare passed vms kept fresh walked recycled

theorem maintain_walked (distinct : p.idle.Nodup) :
    Walked limits p now works p.idle (p.maintain limits now works).vms
      (p.maintain limits now works).idle := by
  refine pass_rule
    (fun passed seen => passed.Nodup → Walked limits p now works passed seen.1 seen.2) ?_
    (p.vms, []) (fun _ => walked_initial limits p now works) distinct
  intro passed seen vm walked distinct
  obtain ⟨before, _, apart⟩ := List.nodup_append.mp distinct
  exact walked_step passed seen.1 seen.2
    (fun member => apart vm member vm List.mem_cons_self rfl) (walked before)

end Loop

section Recycling

variable {limits} (s : State) (now : Int) (works : Pointer → Bool)

theorem recycled_of_killed (distinct : s.pool.idle.Nodup)
    (before : (s.pool.vms vm).running = true)
    (after : ((s.pool.maintain limits now works).vms vm).running = false) :
    ∃ front back, s.pool.idle = front ++ vm :: back ∧ Recycled limits s.pool now front vm := by
  have walked : Walked limits s.pool now works _ _ _ := maintain_walked distinct
  have changed : (s.pool.maintain limits now works).vms vm ≠ s.pool.vms vm := by
    intro same
    rw [same, before] at after
    contradiction
  have member : vm ∈ s.pool.idle := by
    by_contra missing
    exact changed (walked.outside vm missing)
  obtain ⟨front, back, shape⟩ := List.append_of_mem member
  refine ⟨front, back, shape, ?_⟩
  by_contra spared
  exact changed ((walked.fate front vm back shape).spared spared).1

theorem kept_running (distinct : s.pool.idle.Nodup)
    (kept : vm ∈ (s.pool.maintain limits now works).idle) :
    ((s.pool.maintain limits now works).vms vm).running = true := by
  have walked : Walked limits s.pool now works _ _ _ := maintain_walked distinct
  obtain ⟨front, back, shape⟩ := List.append_of_mem (walked.inside.subset kept)
  have fate := walked.fate front vm back shape
  have spared : ¬ Recycled limits s.pool now front vm :=
    fun recycled => (fate.recycled recycled).2 kept
  rw [(fate.spared spared).1]
  exact (fate.spared spared).2.mp kept

theorem enough_remain (distinct : s.pool.idle.Nodup) {front back : List Pointer}
    (shape : s.pool.idle = front ++ vm :: back) (recycled : Recycled limits s.pool now front vm) :
    limits.minIdle ≤ ((s.pool.maintain limits now works).idle.filter fun other =>
      ((s.pool.maintain limits now works).vms other).running).length := by
  have walked : Walked limits s.pool now works _ _ _ := maintain_walked distinct
  rw [List.filter_eq_self.mpr fun other => kept_running s now works distinct]
  apply walked.many
  have more : front.Sublist s.pool.idle := by
    rw [shape]
    exact List.sublist_append_left _ _
  exact Nat.le_trans recycled.1 (more.filter _).length_le

theorem recycles_iff (distinct : s.pool.idle.Nodup) :
    Recycles limits s now works ↔ Aged limits s (.maintain now works) := by
  have walked : Walked limits s.pool now works _ _ _ := maintain_walked distinct
  constructor
  · intro recycles front vm back shape alive recycled
    obtain ⟨killed, gone⟩ := (walked.fate front vm back shape).recycled recycled
    have member : vm ∈ s.pool.idle := by
      rw [shape]
      exact List.mem_append_right _ List.mem_cons_self
    have dead := recycles.dropped vm member alive gone
    refine ⟨(recycles.idle vm alive dead).2, ?_⟩
    by_contra survives
    have still := kill_running_iff.mpr ⟨alive, survives⟩
    rw [← killed] at still
    rw [still] at dead
    contradiction
  · intro aged
    constructor
    · intro vm alive dead
      obtain ⟨front, back, shape, recycled⟩ := recycled_of_killed s now works distinct alive dead
      refine ⟨?_, (aged front vm back shape alive recycled).1⟩
      rw [shape]
      exact List.mem_append_right _ List.mem_cons_self
    · intro vm alive dead
      obtain ⟨front, back, shape, recycled⟩ := recycled_of_killed s now works distinct alive dead
      exact enough_remain s now works distinct shape recycled
    · intro vm member alive gone
      obtain ⟨front, back, shape⟩ := List.append_of_mem member
      have fate := walked.fate front vm back shape
      have recycled : Recycled limits s.pool now front vm := by
        by_contra spared
        exact gone ((fate.spared spared).2.mpr alive)
      apply Bool.eq_false_iff.mpr
      intro still
      have killed := (fate.recycled recycled).1
      rw [killed, kill_running_iff] at still
      exact still.2 (aged front vm back shape alive recycled).2

end Recycling

def Apart (s : State) : Prop := (s.pool.idle ++ s.invocations).Nodup

theorem claim_idle {p : Pool} : (p.claim.2.toList ++ p.claim.1.idle).Perm p.idle := by
  unfold Pool.claim
  split
  case h_1 => exact List.Perm.refl _
  case h_2 vm found =>
      obtain ⟨ready, front, back, shape, earlier⟩ := List.find?_eq_some_iff_append.mp found
      have rest : p.idle.eraseP p.ready = front ++ back := by
        rw [shape, List.eraseP_append_right _ fun other member => by simpa using earlier other member]
        simp [ready]
      change (vm :: p.idle.eraseP p.ready).Perm p.idle
      rw [rest, shape]
      exact List.perm_middle.symm

theorem put_idle {s : State} {now : Int} {works : Bool} :
    (s.put limits vm now works).pool.idle.Sublist (s.pool.idle ++ [vm]) := by
  unfold State.put Pool.release
  split
  case isTrue => exact List.sublist_append_left _ _
  case isFalse => exact List.Sublist.refl _

theorem put_invocations {s : State} {now : Int} {works : Bool} :
    (s.put limits vm now works).invocations = s.invocations := by
  unfold State.put
  split <;> rfl

theorem apart_step {s : State} (apart : Apart s) (fair : Fair s call) :
    Apart (s.next limits call) := by
  have claimed : (s.pool.claim.2.toList ++ s.pool.claim.1.idle ++ s.invocations).Nodup :=
    (List.Perm.nodup_iff (claim_idle.append_right _)).mpr apart
  unfold Apart at apart ⊢
  cases call with
  | claim =>
    rw [List.append_assoc] at claimed
    exact List.Nodup.of_append_right claimed
  | invoke =>
    change (s.pool.claim.1.idle ++ (s.pool.claim.2.toList ++ s.invocations)).Nodup
    rw [← List.append_assoc]
    exact (List.Perm.nodup_iff (List.perm_append_comm.append_right _)).mp claimed
  | release vm now works =>
    change ((s.put limits vm now works).pool.idle ++ (s.put limits vm now works).invocations).Nodup
    rw [put_invocations]
    apply List.Nodup.sublist ((put_idle limits).append (List.Sublist.refl _))
    rw [List.append_assoc, List.singleton_append, List.nodup_middle, List.nodup_cons]
    exact ⟨by simp [fair.1, fair.2], apart⟩
  | finish vm now works =>
    change ((s.put limits vm now works).pool.idle ++ s.invocations.erase vm).Nodup
    apply List.Nodup.sublist ((put_idle limits).append (List.Sublist.refl _))
    rw [List.append_assoc, List.singleton_append]
    exact (List.Perm.nodup_iff ((List.perm_cons_erase fair).append_left _)).mp apart
  | maintain now works =>
    have walked : Walked limits s.pool now works _ _ _ :=
      maintain_walked (List.Nodup.of_append_left apart)
    exact apart.sublist (walked.inside.append (List.Sublist.refl _))
  | stop works => exact List.Nodup.of_append_right apart
  | exit vm => exact apart

def PutAt (vm : Pointer) (time : Int) : Call → Prop
  | .release other now _ => other = vm ∧ now = time
  | .finish other now _ => other = vm ∧ now = time
  | _ => False

theorem put_since {s : State} {own : Pointer} {now : Int} {works : Bool}
    (idle : vm ∈ (s.put limits own now works).pool.idle) :
    vm ∈ s.pool.idle ∧ (s.put limits own now works).since vm = s.since vm ∨
      own = vm ∧ now = (s.put limits own now works).since vm := by
  unfold State.put Pool.release at *
  split at idle
  case isTrue full =>
      rw [if_pos full]
      exact Or.inl ⟨idle, rfl⟩
  case isFalse free =>
      rw [if_neg free]
      by_cases same : own = vm
      · subst same
        exact Or.inr ⟨rfl, (Function.update_self own now s.since).symm⟩
      · refine Or.inl ⟨?_, Function.update_of_ne (Ne.symm same) _ _⟩
        rcases List.mem_append.mp idle with before | new
        · exact before
        · exact absurd (List.mem_singleton.mp new).symm same

theorem maintain_subset {p : Pool} {now : Int} {works : Pointer → Bool}
    (idle : vm ∈ (p.maintain limits now works).idle) : vm ∈ p.idle := by
  revert idle
  refine pass_rule (fun passed (seen : (Pointer → PooledVM) × List Pointer) =>
    vm ∈ seen.2 → vm ∈ passed) ?_ (p.vms, []) (fun absent => absent)
  intro passed seen own before inside
  unfold maintainOne at inside
  rw [List.mem_append]
  split at inside
  case isTrue => exact Or.inl (before inside)
  case isFalse =>
      split at inside
      case isTrue => exact (List.mem_append.mp inside).imp_left before
      case isFalse => exact Or.inl (before inside)

theorem idle_since_step {s : State} (idle : vm ∈ (s.next limits call).pool.idle) :
    vm ∈ s.pool.idle ∧ (s.next limits call).since vm = s.since vm ∨
      PutAt vm ((s.next limits call).since vm) call := by
  cases call with
  | claim | invoke => exact Or.inl ⟨claim_idle.subset (List.mem_append_right _ idle), rfl⟩
  | release own now works => exact put_since limits idle
  | finish own now works => exact put_since limits idle
  | maintain now works => exact Or.inl ⟨maintain_subset limits idle, rfl⟩
  | stop works => cases idle
  | exit own => exact Or.inl ⟨idle, rfl⟩

/-- A VM in the idle list has been there in every state since the call that put it
there, at the time recorded. -/
theorem idle_since (vms : Pointer → PooledVM) (calls : List Call) (last : State)
    (ran : run (step limits) (start vms) calls = some last) (idle : vm ∈ last.pool.idle) :
    ∃ front call back, calls = front ++ call :: back ∧ PutAt vm (last.since vm) call ∧
      ∀ more, more <+: back → ∃ middle,
        run (step limits) (start vms) (front ++ call :: more) = some middle ∧
          vm ∈ middle.pool.idle := by
  induction calls using List.reverseRecOn generalizing last with
  | nil =>
    cases ran
    cases idle
  | append_singleton calls call ih =>
    have whole := ran
    rw [run_append] at ran
    obtain ⟨before, earlier, stepped⟩ := Option.bind_eq_some_iff.mp ran
    cases stepped
    rcases idle_since_step limits idle with ⟨there, same⟩ | put
    · obtain ⟨front, putting, back, shape, at_, throughout⟩ := ih before earlier there
      refine ⟨front, putting, back ++ [call], ?_, ?_, ?_⟩
      · rw [shape, List.append_assoc, List.cons_append]
      · rw [same]
        exact at_
      · intro more part
        rcases List.prefix_concat_iff.mp part with all | part
        · refine ⟨_, ?_, idle⟩
          rw [all, ← whole, shape, List.append_assoc, List.cons_append]
        · exact throughout more part
    · refine ⟨calls, call, [], rfl, put, ?_⟩
      intro more part
      rw [List.prefix_nil.mp part]
      exact ⟨_, whole, idle⟩

/-- In the runs in which VMs are put in the pool by their holders, maintain recycles
only VMs that were idle long enough, and properly, exactly when those it finds old
were put in the pool long ago. -/
theorem only_idle_recycled_iff (vms : Pointer → PooledVM) (calls : List Call) :
    Guarded (step limits) Fair (start vms) calls ∧
        Guarded (step limits) (Proper limits) (start vms) calls ↔
      Guarded (step limits) Fair (start vms) calls ∧
        Guarded (step limits) (Aged limits) (start vms) calls := by
  refine and_congr_right fun fair => ?_
  refine guarded_iff_assuming Apart ?_ ?_ (start vms) List.nodup_nil fair
  · intro s call apart _
    cases call with
    | maintain now works => exact recycles_iff s now works (List.Nodup.of_append_left apart)
    | _ => exact Iff.rfl
  · intro s call next apart fair _ stepped
    cases stepped
    exact apart_step limits apart fair

end Maintenance

def standard : Limits := PoolConfig.limits ⟨0, 0, 0⟩

def filled : List Call := [.release 1 0 true, .release 2 0 true, .release 3 0 true]

theorem guarded_cons_iff {guard : State → Call → Prop} {s : State} {rest : List Call} :
    Guarded (step standard) guard s (call :: rest) ↔
      guard s call ∧ Guarded (step standard) guard (s.next standard call) rest := by
  refine and_congr_right fun _ => ⟨fun every => every _ rfl, fun onward next stepped => ?_⟩
  cases stepped
  exact onward

theorem filled_idle_since : ∃ front call back, filled = front ++ call :: back ∧ PutAt 1 0 call ∧
    ∀ more, more <+: back → ∃ middle, run (step standard) (start fun _ => {createdAt := 0})
      (front ++ call :: more) = some middle ∧ 1 ∈ middle.pool.idle :=
  idle_since standard _ filled _ rfl (by decide)

theorem filled_fair :
    Guarded (step standard) Fair (start fun _ => {createdAt := 0})
      (filled ++ [.maintain 301000000000 fun _ => true]) := by
  simp only [filled, List.cons_append, List.nil_append, guarded_cons_iff]
  exact ⟨⟨by decide, by decide⟩, ⟨by decide, by decide⟩, ⟨by decide, by decide⟩, trivial, trivial⟩

theorem filled_aged :
    Guarded (step standard) (Aged standard) (start fun _ => {createdAt := 0})
      (filled ++ [.maintain 301000000000 fun _ => true]) := by
  simp only [filled, List.cons_append, List.nil_append, guarded_cons_iff]
  refine ⟨trivial, trivial, trivial, ?_, trivial⟩
  intro front vm back shape _ _
  have member : vm ∈ [1, 2, 3] := by
    change [1, 2, 3] = front ++ vm :: back at shape
    rw [shape]
    exact List.mem_append_right _ List.mem_cons_self
  simp only [List.mem_cons, List.not_mem_nil, or_false] at member
  rcases member with rfl | rfl | rfl <;> exact ⟨by decide, rfl, rfl⟩

/-- Maintenance after 301 seconds recycles the last of the three. -/
theorem idle_recycled :
    Guarded (step standard) (Proper standard) (start fun _ => {createdAt := 0})
        (filled ++ [.maintain 301000000000 fun _ => true]) ∧
      ∃ s, run (step standard) (start fun _ => {createdAt := 0})
          (filled ++ [.maintain 301000000000 fun _ => true]) = some s ∧
        s.pool.idle = [1, 2] ∧ (s.pool.vms 3).running = false :=
  ⟨((only_idle_recycled_iff standard (fun _ => {createdAt := 0}) _).mpr
    ⟨filled_fair, filled_aged⟩).2, _, rfl, rfl, rfl⟩

/-- A VM that was in use for 400 seconds is killed a second after its release. -/
theorem busy_recycled :
    ∃ s, run (step standard) (start fun _ => {createdAt := 0})
        (filled ++ [.invoke, .finish 1 400000000000 true]) = some s ∧
      s.pool.idle = [2, 3, 1] ∧ s.since 1 = 400000000000 ∧ (s.pool.vms 1).running = true ∧
      ((s.pool.maintain standard 401000000000 fun _ => true).vms 1).running = false ∧
      ¬ Recycles standard s 401000000000 fun _ => true := by
  refine ⟨_, rfl, rfl, rfl, rfl, rfl, fun recycles => ?_⟩
  exact absurd (recycles.idle 1 rfl rfl).2 (by decide)

end VcStack.VmRecycling
