import VcStack.KeyedTables
import VcStack.Runs
import VcStack.TextEncodings

/-!
The instance groups of internal/management/autoscale and their bounds. The error
of a database write that the source ignores is part of the request.
-/

namespace VcStack.ScalingGroups

open KeyedTables Runs TextEncodings

structure AutoScaleVMGroup where
  id : Nat
  name : String
  flavorID : Nat
  imageID : Nat := 0
  networkID : String := ""
  minInstances : Int := 1
  maxInstances : Int := 10
  current : Int := 0
  desiredCount : Int := 1
  cooldownSec : Int := 300
  state : String := "enabled"
  projectID : Nat := 0
deriving DecidableEq, Repr

structure AutoScaleActivity where
  groupID : Nat
  policyID : Option Nat := none
  action : String
  fromCount : Int
  toCount : Int
  status : String := "completed"
  reason : String
  completedAt : Option Int
deriving DecidableEq, Repr

structure State where
  groups : Table AutoScaleVMGroup.id := ⟨[], List.nodup_nil⟩
  activities : List AutoScaleActivity := []

structure CreateRequest where
  name : String
  flavorID : Nat
  imageID : Nat := 0
  networkID : String := ""
  minInstances : Int := 0
  maxInstances : Int := 0
  cooldownSec : Int := 0
  projectID : Nat := 0
deriving DecidableEq, Repr

structure UpdateRequest where
  minInstances : Option Int := none
  maxInstances : Option Int := none
  cooldownSec : Option Int := none
  state : Option String := none
deriving DecidableEq, Repr

inductive Failure where
  | unbound
  | answer (status : Nat) (error : String)
deriving DecidableEq, Repr

def newGroup (req : CreateRequest) (id : Nat) : AutoScaleVMGroup :=
  let minInstances := if req.minInstances ≤ 0 then 1 else req.minInstances
  let maxInstances := if req.maxInstances ≤ 0 then 10 else req.maxInstances
  { id := id, name := req.name, flavorID := req.flavorID, imageID := req.imageID,
    networkID := req.networkID
    minInstances := minInstances
    maxInstances := if maxInstances < minInstances then minInstances else maxInstances
    desiredCount := if req.minInstances < minInstances then minInstances else req.minInstances
    cooldownSec := if req.cooldownSec ≤ 0 then 300 else req.cooldownSec
    state := "enabled", projectID := req.projectID }

/-- The primary key and the unique index on the name may refuse the row. -/
def createGroup (state : State) (req : CreateRequest) (id : Nat) :
    Except Failure AutoScaleVMGroup × State :=
  if req.name = "" ∨ req.flavorID = 0 then (.error .unbound, state)
  else
    let group := newGroup req id
    if fresh : group.id ∉ state.groups.rows.map AutoScaleVMGroup.id then
      if group.name ∈ state.groups.rows.map AutoScaleVMGroup.name then
        (.error (.answer 500 "failed to create group"), state)
      else (.ok group, {state with groups := state.groups.insert group fresh})
    else (.error (.answer 500 "failed to create group"), state)

def maxUint32 : Nat := 4294967295

def UpdateRequest.apply (req : UpdateRequest) (group : AutoScaleVMGroup) : AutoScaleVMGroup :=
  {group with
    minInstances := req.minInstances.getD group.minInstances
    maxInstances := req.maxInstances.getD group.maxInstances
    cooldownSec := req.cooldownSec.getD group.cooldownSec
    state := req.state.getD group.state}

def setColumns (state : State) (id : Nat) (req : UpdateRequest) : State :=
  {state with groups := state.groups.update id req.apply fun _ => rfl}

/-- `writes` tells whether the update is carried out. An update of no column is
not sent; it would change nothing. -/
def updateGroup (state : State) (idStr : String) (req : UpdateRequest) (writes : Bool) :
    Except Failure AutoScaleVMGroup × State :=
  match parseUint maxUint32 idStr with
  | .error _ => (.error (.answer 400 "invalid id"), state)
  | .ok id =>
    match state.groups.find id with
    | none => (.error (.answer 404 "group not found"), state)
    | some group =>
      let newMin := req.minInstances.getD group.minInstances
      let newMax := req.maxInstances.getD group.maxInstances
      if req ≠ {} ∧ newMin > newMax then
        (.error (.answer 400 "min_instances cannot exceed max_instances"), state)
      else
        let next := if req ≠ {} ∧ writes then setColumns state group.id req else state
        (.ok ((next.groups.find id).getD group), next)

def scaledTo (desiredCount : Int) (group : AutoScaleVMGroup) : AutoScaleVMGroup :=
  {group with desiredCount := desiredCount, current := desiredCount}

def setDesired (state : State) (id : Nat) (desiredCount : Int) : State :=
  {state with groups := state.groups.update id (scaledTo desiredCount) fun _ => rfl}

/-- `records` and `writes` tell whether the two writes are carried out. -/
def manualScale (state : State) (idStr : String) (desiredCount : Int) (now : Int)
    (records writes : Bool) : Except Failure AutoScaleVMGroup × State :=
  match parseUint maxUint32 idStr with
  | .error _ => (.error (.answer 400 "invalid id"), state)
  | .ok groupID =>
    if desiredCount = 0 then (.error .unbound, state)
    else match state.groups.find groupID with
      | none => (.error (.answer 404 "group not found"), state)
      | some group =>
        if desiredCount < group.minInstances ∨ desiredCount > group.maxInstances then
          (.error (.answer 400 "desired count must be within min/max range"), state)
        else
          let act : AutoScaleActivity := {
            groupID := groupID, action := "manual_scale", fromCount := group.current,
            toCount := desiredCount, reason := "manual scale", completedAt := some now }
          let recorded := if records then
            {state with activities := state.activities ++ [act]} else state
          let next := if writes then setDesired recorded group.id desiredCount else recorded
          (.ok ((next.groups.find groupID).getD group), next)

inductive Request where
  | createGroup (req : CreateRequest) (id : Nat)
  | updateGroup (idStr : String) (req : UpdateRequest) (writes : Bool)
  | manualScale (idStr : String) (desiredCount now : Int) (records writes : Bool)

def step (state : State) : Request → Option State
  | .createGroup req id => some (createGroup state req id).2
  | .updateGroup idStr req writes => some (updateGroup state idStr req writes).2
  | .manualScale idStr desiredCount now records writes =>
    some (manualScale state idStr desiredCount now records writes).2

def Bounded (group : AutoScaleVMGroup) : Prop :=
  1 ≤ group.minInstances ∧ group.minInstances ≤ group.desiredCount ∧
    group.desiredCount ≤ group.maxInstances

instance (group : AutoScaleVMGroup) : Decidable (Bounded group) :=
  inferInstanceAs (Decidable (_ ∧ _))

def AllBounded (state : State) : Prop := ∀ group ∈ state.groups.rows, Bounded group

instance (state : State) : Decidable (AllBounded state) :=
  inferInstanceAs (Decidable (∀ group ∈ state.groups.rows, _))

def groupAt (state : State) (idStr : String) : Option AutoScaleVMGroup :=
  match parseUint maxUint32 idStr with
  | .error _ => none
  | .ok id => state.groups.find id

/-- An update that passes the check asks for a smallest size from one to the desired
count of the group, and for a largest size not below it. -/
def KeepsDesired (state : State) : Request → Prop
  | .updateGroup idStr req writes => ∀ group ∈ groupAt state idStr, writes = true →
      req.minInstances.getD group.minInstances ≤ req.maxInstances.getD group.maxInstances →
      (∀ size ∈ req.minInstances, 1 ≤ size ∧ size ≤ group.desiredCount) ∧
        ∀ size ∈ req.maxInstances, group.desiredCount ≤ size
  | _ => True

theorem apply_bounded_iff {req : UpdateRequest} {group : AutoScaleVMGroup}
    (bounded : Bounded group) :
    Bounded (req.apply group) ↔
      (∀ size ∈ req.minInstances, 1 ≤ size ∧ size ≤ group.desiredCount) ∧
        ∀ size ∈ req.maxInstances, group.desiredCount ≤ size := by
  obtain ⟨positive, low, high⟩ := bounded
  unfold Bounded UpdateRequest.apply
  cases req.minInstances <;> cases req.maxInstances <;>
    simp only [Option.getD_some, Option.getD_none, Option.mem_def, Option.some.injEq, forall_eq',
      reduceCtorEq, false_implies, implies_true, and_true, true_and, positive, low, high, and_assoc]

theorem new_group_bounded {req : CreateRequest} {id : Nat} : Bounded (newGroup req id) := by
  simp only [Bounded, newGroup]
  refine ⟨?_, ?_, ?_⟩ <;> split_ifs <;> omega

variable {state : State}

theorem update_bounded_iff {id : Nat} {group : AutoScaleVMGroup}
    (write : AutoScaleVMGroup → AutoScaleVMGroup) (keeps : ∀ group, (write group).id = group.id)
    {activities : List AutoScaleActivity} (found : state.groups.find id = some group)
    (bounded : AllBounded state) :
    AllBounded ⟨state.groups.update id write keeps, activities⟩ ↔ Bounded (write group) := by
  constructor
  · intro all
    apply all
    have changed := (find_update_same state.groups id write keeps).trans (congrArg _ found)
    exact ((find_iff _).mp changed).1
  · intro kept row member
    obtain ⟨before, listed, rfl⟩ := List.mem_map.mp member
    split_ifs with chosen
    · have same := (find_iff _).mpr ⟨listed, chosen⟩
      rw [found] at same
      cases same
      exact kept
    · exact bounded before listed

theorem create_bounded {req : CreateRequest} {id : Nat}
    (bounded : AllBounded state) : AllBounded (createGroup state req id).2 := by
  unfold createGroup
  dsimp only
  split_ifs with unbound taken fresh
  · exact bounded
  · exact bounded
  · exact bounded
  · intro group member
    rcases List.mem_append.mp member with old | new
    · exact bounded group old
    · rw [List.mem_singleton.mp new]
      exact new_group_bounded

theorem set_desired_bounded {group : AutoScaleVMGroup} {desiredCount : Int}
    (listed : group ∈ state.groups.rows) (bounded : AllBounded state)
    (inside : ¬ (desiredCount < group.minInstances ∨ desiredCount > group.maxInstances)) :
    AllBounded (setDesired state group.id desiredCount) := by
  have found := find_of_mem _ _ listed
  apply (update_bounded_iff (scaledTo desiredCount) (fun _ => rfl) found bounded).mpr
  have before := bounded group listed
  simp only [Bounded, scaledTo] at before ⊢
  omega

theorem scale_bounded {idStr : String} {desiredCount now : Int}
    {records writes : Bool} (bounded : AllBounded state) :
    AllBounded (manualScale state idStr desiredCount now records writes).2 := by
  unfold manualScale
  split
  · exact bounded
  · rename_i groupID parsed
    by_cases zero : desiredCount = 0
    · rw [if_pos zero]
      exact bounded
    · rw [if_neg zero]
      split
      · exact bounded
      · rename_i group found
        by_cases outside : desiredCount < group.minInstances ∨ desiredCount > group.maxInstances
        · rw [if_pos outside]
          exact bounded
        · rw [if_neg outside]
          have listed := ((find_iff _).mp found).1
          cases writes with
          | false => cases records <;> exact bounded
          | true =>
            cases records <;> exact set_desired_bounded listed bounded outside

theorem update_group_bounded_iff {idStr : String} {req : UpdateRequest}
    {writes : Bool} (bounded : AllBounded state) :
    AllBounded (updateGroup state idStr req writes).2 ↔
      KeepsDesired state (.updateGroup idStr req writes) := by
  simp only [updateGroup, KeepsDesired, groupAt]
  cases parseUint maxUint32 idStr with
  | error value => simpa using bounded
  | ok id =>
    dsimp only
    cases found : state.groups.find id with
    | none => simpa using bounded
    | some group =>
      simp only [Option.mem_some_iff, forall_eq']
      obtain ⟨listed, rfl⟩ := (find_iff _).mp found
      by_cases nothing : req = {}
      · subst nothing
        simp only [ne_eq, not_true_eq_false, false_and, if_false]
        exact iff_of_true bounded fun _ _ => ⟨nofun, nofun⟩
      · simp only [nothing, ne_eq, not_false_eq_true, true_and]
        by_cases crossed : req.minInstances.getD group.minInstances >
            req.maxInstances.getD group.maxInstances
        · rw [if_pos crossed]
          exact iff_of_true bounded fun _ ordered => absurd crossed (Int.not_lt.mpr ordered)
        · rw [if_neg crossed]
          cases writes with
          | false => exact iff_of_true bounded fun refused => absurd refused Bool.false_ne_true
          | true =>
            simp only [if_true, forall_const]
            rw [setColumns, update_bounded_iff req.apply (fun _ => rfl) found bounded,
              apply_bounded_iff (bounded group listed)]
            constructor
            · exact fun kept _ => kept
            · exact fun kept => kept (Int.not_lt.mp crossed)

theorem step_bounded_iff {next : State} {request : Request} (bounded : AllBounded state)
    (taken : step state request = some next) : AllBounded next ↔ KeepsDesired state request := by
  cases request with
  | createGroup req id =>
    cases taken
    exact iff_of_true (create_bounded bounded) trivial
  | updateGroup idStr req writes =>
    cases taken
    exact update_group_bounded_iff bounded
  | manualScale idStr desiredCount now records writes =>
    cases taken
    exact iff_of_true (scale_bounded bounded) trivial

/-- In any sequence of requests the bounds of every group hold after each of them
exactly when every update asks for bounds around the desired count. -/
theorem scaling_bounds_iff (requests : List Request) :
    Always step AllBounded {} requests ↔ Guarded step KeepsDesired {} requests := by
  apply always_iff_guarded AllBounded AllBounded (fun _ bounded => bounded)
  · intro state request next bounded keeps taken
    exact (step_bounded_iff bounded taken).mpr keeps
  · intro state request bounded breaks
    have taken : ∃ next, step state request = some next := by
      cases request <;> exact ⟨_, rfl⟩
    obtain ⟨next, taken⟩ := taken
    exact ⟨next, taken, fun kept => breaks ((step_bounded_iff bounded taken).mp kept)⟩
  · exact fun _ member => absurd member List.not_mem_nil

/-- The smallest size is raised above the desired count, and another time to zero. -/
theorem update_breaks_bounds :
    ¬ Always step AllBounded {}
      [.createGroup {name := "web", flavorID := 1, minInstances := 2, maxInstances := 5} 1,
        .updateGroup "1" {minInstances := some 4} true] ∧
    ¬ Always step AllBounded {}
      [.createGroup {name := "web", flavorID := 1, minInstances := 2, maxInstances := 5} 1,
        .updateGroup "1" {minInstances := some 0} true] := by
  decide +kernel

end VcStack.ScalingGroups
