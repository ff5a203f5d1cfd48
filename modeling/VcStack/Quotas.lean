import Mathlib.Algebra.BigOperators.Group.Finset.Basic
import Mathlib.Algebra.Order.BigOperators.Group.List
import Mathlib.Algebra.Ring.Int.Defs
import Mathlib.Data.Int.Basic
import VcStack.Runs

/-!
The quotas of internal/management/quota/service.go. Both tables have one row a
tenant. A Go int and its column have 64 bits: Go's sum wraps around, the sum of
an UPDATE that does not fit is refused by the database. Resource types are the
eleven that UpdateUsage knows. The FOR UPDATE of CheckQuota, even where it takes
a lock, is over when CheckQuota returns, so the check is one step.
-/

namespace VcStack.Quotas

open Runs

inductive Resource where
  | instances
  | vcpus
  | ramMB
  | diskGB
  | volumes
  | snapshots
  | floatingIPs
  | networks
  | subnets
  | routers
  | securityGroups
  deriving DecidableEq

def Resource.name : Resource → String
  | .instances => "instances"
  | .vcpus => "vcpus"
  | .ramMB => "ram_mb"
  | .diskGB => "disk_gb"
  | .volumes => "volumes"
  | .snapshots => "snapshots"
  | .floatingIPs => "floating_ips"
  | .networks => "networks"
  | .subnets => "subnets"
  | .routers => "routers"
  | .securityGroups => "security_groups"

def Resource.checked : Resource → Bool
  | .instances | .vcpus | .ramMB | .diskGB => true
  | _ => false

structure Database where
  quotaSets : String → Option (Resource → Int64) := fun _ => none
  quotaUsage : String → Option (Resource → Int64) := fun _ => none

def hardCodedQuota : Resource → Int64
  | .vcpus => 20
  | .ramMB => 51200
  | .diskGB => 1000
  | _ => 10

def getDefaultQuota (db : Database) : Resource → Int64 :=
  (db.quotaSets "default").getD hardCodedQuota

def quotaOf (db : Database) (tenantID : String) : Resource → Int64 :=
  (db.quotaSets tenantID).getD (getDefaultQuota db)

def usageOf (db : Database) (tenantID : String) : Resource → Int64 :=
  (db.quotaUsage tenantID).getD fun _ => 0

structure QuotaExceededError where
  resource : String
  limit : Int64
  current : Int64

def QuotaExceededError.text (error : QuotaExceededError) : String :=
  "quota exceeded for " ++ error.resource

def checkQuota (db : Database) (tenantID : String) (resource : Resource) (delta : Int64) :
    Except QuotaExceededError Unit :=
  let limit := quotaOf db tenantID resource
  let current := usageOf db tenantID resource
  if resource.checked ∧ 0 ≤ limit ∧ limit < current + delta then
    .error {resource := resource.name, limit := limit, current := current}
  else .ok ()

def Rejected (db : Database) (tenantID : String) (resource : Resource) (delta : Int64) : Prop :=
  (checkQuota db tenantID resource delta).isOk = false

variable {delta : Int64}

theorem rejected_iff {db : Database} {tenantID : String} {resource : Resource} :
    Rejected db tenantID resource delta ↔ resource.checked = true ∧
      0 ≤ quotaOf db tenantID resource ∧
        quotaOf db tenantID resource < usageOf db tenantID resource + delta := by
  unfold Rejected checkQuota
  dsimp only
  split
  · rename_i exceeds
    exact iff_of_true rfl exceeds
  · rename_i under
    exact iff_of_false (by simp [Except.isOk, Except.toBool]) under

def Database.setQuota (db : Database) (tenantID : String) (limits : Resource → Int64) : Database :=
  {db with quotaSets := fun other => if other = tenantID then some limits else db.quotaSets other}

def updateQuota (db : Database) (tenantID : String) (request : Resource → Int64) : Database :=
  match db.quotaSets tenantID with
  | none =>
    -- Create: a zero gives way to the default of the column.
    db.setQuota tenantID fun resource => if request resource = 0 then -1 else request resource
  | some existing =>
    -- Updates: a zero leaves the column alone.
    db.setQuota tenantID fun resource =>
      if request resource = 0 then existing resource else request resource

def zeroLimit (db : Database) (tenantID : String) (resource : Resource) : Int64 :=
  match db.quotaSets tenantID with
  | none => -1
  | some existing => existing resource

theorem quota_of_update {db : Database} {tenantID : String} {request : Resource → Int64}
    {resource : Resource} :
    quotaOf (updateQuota db tenantID request) tenantID resource =
      if request resource = 0 then zeroLimit db tenantID resource else request resource := by
  unfold updateQuota zeroLimit
  split <;> simp [quotaOf, Database.setQuota]

theorem usage_of_update {db : Database} {tenantID : String} {request : Resource → Int64} :
    usageOf (updateQuota db tenantID request) tenantID = usageOf db tenantID := by
  unfold updateQuota
  split <;> rfl

def Exceeds (limit usage delta : Int64) : Prop :=
  0 ≤ limit.toInt ∧ limit.toInt < usage.toInt + delta.toInt

/-- Which limits asked for are the ones enforced: beside a zero, which leaves the
stored limit in place, it is the sum of usage and demand that may not fit 64 bits. -/
structure Enforceable (asked stored : Int64) (total : Int) : Prop where
  above : 2 ^ 63 ≤ total → asked.toInt < 0
  below : total < -2 ^ 63 → stored.toInt < 0 ∨ total + 2 ^ 64 ≤ stored.toInt
  fitting : -2 ^ 63 ≤ total → total < 2 ^ 63 → asked.toInt = 0 → 0 < total →
    0 ≤ stored.toInt ∧ stored.toInt < total

theorem sum_wraps (usage delta : Int64) :
    (2 ^ 63 ≤ usage.toInt + delta.toInt →
        (usage + delta).toInt = usage.toInt + delta.toInt - 2 ^ 64) ∧
      (usage.toInt + delta.toInt < -2 ^ 63 →
        (usage + delta).toInt = usage.toInt + delta.toInt + 2 ^ 64) ∧
      (-2 ^ 63 ≤ usage.toInt + delta.toInt → usage.toInt + delta.toInt < 2 ^ 63 →
        (usage + delta).toInt = usage.toInt + delta.toInt) := by
  have lower := usage.le_toInt
  have upper := usage.toInt_lt
  have deltaLower := delta.le_toInt
  have deltaUpper := delta.toInt_lt
  rw [Int64.toInt_add, Int.bmod_def]
  refine ⟨fun _ => ?_, fun _ => ?_, fun _ _ => ?_⟩ <;> split <;> omega

/-- For every tenant, row, request and demand, CheckQuota applies the limit asked
for to the sum of usage and demand exactly when they are enforceable. -/
theorem set_limit_enforced_iff (db : Database) (tenantID : String) (request : Resource → Int64)
    (resource : Resource) (delta : Int64) (checked : resource.checked = true) :
    (Rejected (updateQuota db tenantID request) tenantID resource delta ↔
        Exceeds (request resource) (usageOf db tenantID resource) delta) ↔
      Enforceable (request resource)
        (if request resource = 0 then zeroLimit db tenantID resource else request resource)
        ((usageOf db tenantID resource).toInt + delta.toInt) := by
  rw [rejected_iff, quota_of_update, usage_of_update, and_iff_right checked,
    Int64.le_iff_toInt_le, Int64.lt_iff_toInt_lt]
  obtain ⟨above, below, fitting⟩ := sum_wraps (usageOf db tenantID resource) delta
  have upper := (request resource).toInt_lt
  have lower := (request resource).le_toInt
  have usageUpper := (usageOf db tenantID resource).toInt_lt
  have deltaUpper := delta.toInt_lt
  have zero : (0 : Int64).toInt = 0 := rfl
  have same : (request resource).toInt ≠ 0 →
      (if request resource = 0 then zeroLimit db tenantID resource else request resource) =
        request resource := by
    intro nonzero
    rw [if_neg]
    intro asked
    exact nonzero (asked ▸ zero)
  generalize (if request resource = 0 then _ else _ : Int64) = stored at same ⊢
  replace same := fun nonzero => congrArg Int64.toInt (same nonzero)
  rw [zero]
  unfold Exceeds
  constructor
  · intro agree
    constructor
    · intro large
      have wrapped := above large
      omega
    · intro small
      have wrapped := below small
      omega
    · intro low high
      have sum := fitting low high
      omega
  · rintro ⟨large, small, within⟩
    omega

def zeroRequest : Resource → Int64
  | .instances => 0
  | _ => 100

theorem positive_limit_enforced :
    Resource.vcpus.checked = true ∧
      (Rejected (updateQuota {} "tenant-1" zeroRequest) "tenant-1" .vcpus 101 ↔
        Exceeds 100 0 101) :=
  ⟨rfl, (set_limit_enforced_iff {} "tenant-1" zeroRequest .vcpus 101 rfl).mpr
    ⟨by decide, by decide, by decide⟩⟩

/-- A tenant without a row is to have no instances, and may have any number; and a
demand that takes the sum out of 64 bits passes any limit. -/
theorem zero_limit_unlimited :
    (zeroRequest .instances = 0 ∧
      quotaOf (updateQuota {} "tenant-1" zeroRequest) "tenant-1" .instances = -1 ∧
      ¬ Rejected (updateQuota {} "tenant-1" zeroRequest) "tenant-1" .instances 1000 ∧
      Exceeds (zeroRequest .instances) 0 1000) ∧
    let db : Database := {quotaUsage := fun _ => some fun _ => 1}
    ¬ Rejected (updateQuota db "tenant-1" zeroRequest) "tenant-1" .vcpus 9223372036854775807 ∧
      Exceeds (zeroRequest .vcpus) 1 9223372036854775807 := by
  unfold Rejected Exceeds
  decide

structure Request where
  tenantID : String
  resource : Resource
  delta : Int64
  positive : 0 < delta

/-- Where a caller stands: before CheckQuota, before the read of UpdateUsage,
before its Create, before its Updates, or done with or without an error. -/
inductive Phase where
  | idle
  | passed
  | missing
  | located
  | finished
  deriving DecidableEq

section Callers

variable {Caller : Type} [DecidableEq Caller] (callers : Caller → Request) {request : Request}
  {phase : Phase}

structure State (Caller : Type) where
  db : Database
  phase : Caller → Phase := fun _ => .idle

def State.enter (state : State Caller) (caller : Caller) (phase : Phase) : State Caller :=
  {state with phase := fun other => if other = caller then phase else state.phase other}

def Database.setUsage (db : Database) (tenantID : String) (used : Resource → Int64) : Database :=
  {db with quotaUsage := fun other => if other = tenantID then some used else db.quotaUsage other}

def overflows (used delta : Int64) : Prop := 2 ^ 63 ≤ used.toInt + delta.toInt

instance (used delta : Int64) : Decidable (overflows used delta) :=
  inferInstanceAs (Decidable (_ ≤ _))

inductive Action (Caller : Type) where
  | checkQuota (caller : Caller)
  | find (caller : Caller)
  | create (caller : Caller)
  | update (caller : Caller)

def addUsage (db : Database) (request : Request) : Database :=
  match db.quotaUsage request.tenantID with
  | none => db
  | some used =>
    if overflows (used request.resource) request.delta then db
    else db.setUsage request.tenantID fun resource =>
      if resource = request.resource then used resource + request.delta else used resource

def step (state : State Caller) : Action Caller → Option (State Caller)
  | .checkQuota caller =>
    let request := callers caller
    if state.phase caller = .idle then
      match checkQuota state.db request.tenantID request.resource request.delta with
      | .ok () => some (state.enter caller .passed)
      | .error _ => some (state.enter caller .finished)
    else none
  | .find caller =>
    if state.phase caller = .passed then
      match state.db.quotaUsage (callers caller).tenantID with
      | some _ => some (state.enter caller .located)
      | none => some (state.enter caller .missing)
    else none
  | .create caller =>
    if state.phase caller = .missing then
      match state.db.quotaUsage (callers caller).tenantID with
      -- The tenant has a row by now; the unique index refuses another.
      | some _ => some (state.enter caller .finished)
      | none => some ({state with
          db := state.db.setUsage (callers caller).tenantID fun _ => 0}.enter caller .located)
    else none
  | .update caller =>
    if state.phase caller = .located then
      some ({state with db := addUsage state.db (callers caller)}.enter caller .finished)
    else none

def Within (tenantID : String) (resource : Resource) (state : State Caller) : Prop :=
  usageOf state.db tenantID resource ≤ quotaOf state.db tenantID resource

def Targets (tenantID : String) (resource : Resource) (request : Request) : Prop :=
  request.tenantID = tenantID ∧ request.resource = resource

def Fits (db : Database) (request : Request) : Prop :=
  request.resource.checked = true →
    (usageOf db request.tenantID request.resource).toInt + request.delta.toInt ≤
      (quotaOf db request.tenantID request.resource).toInt

def FitTogether (db : Database) (tenantID : String) (resource : Resource) : Prop :=
  ∀ group : Finset Caller, (∀ caller ∈ group, Targets tenantID resource (callers caller) ∧
      Fits db (callers caller)) →
    (usageOf db tenantID resource).toInt + ∑ caller ∈ group, (callers caller).delta.toInt ≤
        (quotaOf db tenantID resource).toInt ∨
      2 ^ 63 ≤ (usageOf db tenantID resource).toInt + ∑ caller ∈ group, (callers caller).delta.toInt

theorem sum_exact {used : Int64} (positive : 0 < delta) (exact : ¬ overflows used delta) :
    (used + delta).toInt = used.toInt + delta.toInt := by
  rw [Int64.lt_iff_toInt_lt] at positive
  have zero : (0 : Int64).toInt = 0 := rfl
  have lower := used.le_toInt
  unfold overflows at exact
  exact (sum_wraps used delta).2.2 (by omega) (by omega)

theorem passed_fits {used limit : Int64} (positive : 0 < delta)
    (passes : used + delta ≤ limit) :
    used.toInt + delta.toInt ≤ limit.toInt ∨ overflows used delta := by
  by_cases wrapped : overflows used delta
  · exact Or.inr wrapped
  · left
    rw [Int64.le_iff_toInt_le, sum_exact positive wrapped] at passes
    exact passes

def Pending : Phase → Prop
  | .passed | .missing | .located => True
  | .idle | .finished => False

inductive Effect (state : State Caller) : State Caller → Prop where
  | passed (caller : Caller) (idle : state.phase caller = .idle)
      (accepted : ¬ Rejected state.db (callers caller).tenantID (callers caller).resource
        (callers caller).delta) : Effect state (state.enter caller .passed)
  | moved (caller : Caller) (phase : Phase) (pending : Pending (state.phase caller)) :
      Effect state (state.enter caller phase)
  | refused (caller : Caller) (idle : state.phase caller = .idle) :
      Effect state (state.enter caller .finished)
  | created (caller : Caller) (pending : Pending (state.phase caller))
      (absent : state.db.quotaUsage (callers caller).tenantID = none) :
      Effect state ({state with
        db := state.db.setUsage (callers caller).tenantID fun _ => 0}.enter caller .located)
  | updated (caller : Caller) (pending : Pending (state.phase caller)) :
      Effect state ({state with db := addUsage state.db (callers caller)}.enter caller .finished)

theorem step_effect {state next : State Caller} {action : Action Caller}
    (taken : step callers state action = some next) : Effect callers state next := by
  cases action with
  | checkQuota caller =>
    simp only [step] at taken
    split at taken
    · rename_i idle
      split at taken
      · rename_i answer
        cases taken
        apply Effect.passed caller idle
        rw [Rejected, answer]
        simp [Except.isOk, Except.toBool]
      · cases taken
        exact Effect.refused caller idle
    · contradiction
  | find caller =>
    simp only [step] at taken
    split at taken
    · rename_i passed
      have pending : Pending (state.phase caller) := by
        rw [passed]
        trivial
      split at taken <;> cases taken <;> exact Effect.moved caller _ pending
    · contradiction
  | create caller =>
    simp only [step] at taken
    split at taken
    · rename_i missing
      have pending : Pending (state.phase caller) := by
        rw [missing]
        trivial
      split at taken
      · cases taken
        exact Effect.moved caller _ pending
      · rename_i absent
        cases taken
        exact Effect.created caller pending absent
    · contradiction
  | update caller =>
    simp only [step] at taken
    split at taken
    · rename_i located
      cases taken
      apply Effect.updated caller
      rw [located]
      trivial
    · contradiction

theorem usage_of_create {db : Database} {created : String} (tenantID : String)
    (absent : db.quotaUsage created = none) :
    usageOf (db.setUsage created fun _ => 0) tenantID = usageOf db tenantID := by
  by_cases same : tenantID = created
  · simp [usageOf, Database.setUsage, same, absent]
  · simp [usageOf, Database.setUsage, same]

theorem usage_of_add {db : Database} {tenantID : String}
    {resource : Resource} :
    usageOf (addUsage db request) tenantID resource = usageOf db tenantID resource ∨
      Targets tenantID resource request ∧ ¬ overflows (usageOf db tenantID resource) request.delta ∧
        usageOf (addUsage db request) tenantID resource =
          usageOf db tenantID resource + request.delta := by
  unfold addUsage
  split
  · exact Or.inl rfl
  · rename_i used found
    split
    · exact Or.inl rfl
    · rename_i room
      by_cases tenant : tenantID = request.tenantID
      · by_cases same : resource = request.resource
        · right
          subst tenant same
          have current : usageOf db request.tenantID = used := by simp [usageOf, found]
          refine ⟨⟨rfl, rfl⟩, ?_, ?_⟩
          · rw [current]
            exact room
          · simp [usageOf, Database.setUsage, found]
        · left
          simp [usageOf, Database.setUsage, tenant, found, same]
      · left
        simp [usageOf, Database.setUsage, tenant]

theorem quota_sets_add {db : Database} :
    (addUsage db request).quotaSets = db.quotaSets := by
  unfold addUsage
  split
  · rfl
  · split <;> rfl

theorem quota_of_sets {left right : Database} (same : left.quotaSets = right.quotaSets)
    {tenantID : String} : quotaOf left tenantID = quotaOf right tenantID := by
  unfold quotaOf getDefaultQuota
  rw [same]

structure Accounted (db : Database) (tenantID : String) (resource : Resource)
    (state : State Caller) : Prop where
  limits : state.db.quotaSets = db.quotaSets
  pending : ∀ caller, Pending (state.phase caller) → Targets tenantID resource (callers caller) →
    Fits db (callers caller) ∨
      overflows (usageOf state.db tenantID resource) (callers caller).delta
  grown : (usageOf db tenantID resource).toInt ≤ (usageOf state.db tenantID resource).toInt
  added : ∃ group : Finset Caller,
    (∀ caller ∈ group, (Targets tenantID resource (callers caller) ∧ Fits db (callers caller)) ∧
      state.phase caller = .finished) ∧
    (usageOf state.db tenantID resource).toInt =
      (usageOf db tenantID resource).toInt + ∑ caller ∈ group, (callers caller).delta.toInt

variable {callers} {db : Database} {tenantID : String} {resource : Resource}

variable (state : State Caller) (caller : Caller)

theorem accounted_enter {after : Database} {caller : Caller}
    (accounted : Accounted callers db tenantID resource state)
    (limits : after.quotaSets = state.db.quotaSets)
    (usage : usageOf after tenantID resource = usageOf state.db tenantID resource)
    (unfinished : state.phase caller ≠ .finished)
    (entitled : Pending phase → Targets tenantID resource (callers caller) →
      Fits db (callers caller) ∨
        overflows (usageOf state.db tenantID resource) (callers caller).delta) :
    Accounted callers db tenantID resource ({state with db := after}.enter caller phase) := by
  constructor
  · exact limits.trans accounted.limits
  · intro other there target
    simp only [State.enter] at there ⊢
    rw [usage]
    split at there
    · rename_i same
      subst same
      exact entitled there target
    · exact accounted.pending other there target
  · simp only [State.enter, usage]
    exact accounted.grown
  · obtain ⟨group, members, total⟩ := accounted.added
    refine ⟨group, ?_, ?_⟩
    · intro other member
      obtain ⟨fits, finished⟩ := members other member
      have apart : other ≠ caller := by
        intro same
        subst same
        exact unfinished finished
      exact ⟨fits, by simp [State.enter, apart, finished]⟩
    · simp only [State.enter, usage]
      exact total

theorem pending_unfinished (pending : Pending phase) : phase ≠ .finished := by
  intro finished
  rw [finished] at pending
  exact pending

omit [DecidableEq Caller] in
theorem accounted_passed (limited : 0 ≤ quotaOf db tenantID resource) (state : State Caller)
    (caller : Caller) (accounted : Accounted callers db tenantID resource state)
    (accepted : ¬ Rejected state.db (callers caller).tenantID (callers caller).resource
      (callers caller).delta)
    (target : Targets tenantID resource (callers caller)) :
    Fits db (callers caller) ∨
      overflows (usageOf state.db tenantID resource) (callers caller).delta := by
  obtain ⟨tenant, type⟩ := target
  by_cases checked : resource.checked = true
  · rw [rejected_iff, tenant, type, quota_of_sets accounted.limits] at accepted
    have passes : usageOf state.db tenantID resource + (callers caller).delta ≤
        quotaOf db tenantID resource := by
      apply Int64.not_lt.mp
      intro exceeds
      exact accepted ⟨checked, limited, exceeds⟩
    refine (passed_fits (callers caller).positive passes).imp_left fun fits _ => ?_
    have grown := accounted.grown
    rw [tenant, type]
    omega
  · left
    intro looked
    rw [type] at looked
    exact absurd looked checked

theorem accounted_updated (accounted : Accounted callers db tenantID resource state)
    (pending : Pending (state.phase caller)) :
    Accounted callers db tenantID resource
      ({state with db := addUsage state.db (callers caller)}.enter caller .finished) := by
  have unfinished := pending_unfinished pending
  rcases usage_of_add with
    same | ⟨target, room, more⟩
  · exact accounted_enter state accounted quota_sets_add same unfinished False.elim
  · have sum := sum_exact (callers caller).positive room
    have positive := Int64.lt_iff_toInt_lt.mp (callers caller).positive
    have zero : (0 : Int64).toInt = 0 := rfl
    have fits : Fits db (callers caller) := by
      rcases accounted.pending caller pending target with fits | wrapped
      · exact fits
      · exact absurd wrapped room
    have grown := accounted.grown
    constructor
    · exact quota_sets_add.trans accounted.limits
    · intro other there targets
      simp only [State.enter] at there ⊢
      split at there
      · exact there.elim
      · refine (accounted.pending other there targets).imp_right fun wrapped => ?_
        unfold overflows at wrapped ⊢
        rw [more]
        omega
    · simp only [State.enter, more]
      omega
    · obtain ⟨group, members, total⟩ := accounted.added
      have new : caller ∉ group := fun member => unfinished (members caller member).2
      refine ⟨insert caller group, ?_, ?_⟩
      · intro other member
        by_cases same : other = caller
        · subst same
          exact ⟨⟨target, fits⟩, by simp [State.enter]⟩
        · obtain ⟨fitted, finished⟩ := members other (Finset.mem_of_mem_insert_of_ne member same)
          exact ⟨fitted, by simp [State.enter, same, finished]⟩
      · rw [Finset.sum_insert new]
        simp only [State.enter, more]
        omega

theorem step_accounted (limited : 0 ≤ quotaOf db tenantID resource) (state : State Caller)
    (action : Action Caller) (next : State Caller)
    (accounted : Accounted callers db tenantID resource state)
    (taken : step callers state action = some next) :
    Accounted callers db tenantID resource next := by
  cases step_effect callers taken with
  | passed caller idle accepted =>
    exact accounted_enter state accounted rfl rfl (by simp [idle])
      fun _ => accounted_passed limited state caller accounted accepted
  | moved caller phase pending =>
    exact accounted_enter state accounted rfl rfl
      (pending_unfinished pending) fun _ => accounted.pending caller pending
  | refused caller idle =>
    exact accounted_enter state accounted rfl rfl (by simp [idle]) False.elim
  | created caller pending absent =>
    exact accounted_enter state accounted rfl
      (congrFun (usage_of_create _ absent) resource) (pending_unfinished pending)
      fun _ => accounted.pending caller pending
  | updated caller pending => exact accounted_updated state caller accounted pending

omit [DecidableEq Caller] in
theorem accounted_within (together : FitTogether callers db tenantID resource)
    (state : State Caller) (accounted : Accounted callers db tenantID resource state) :
    Within tenantID resource state := by
  obtain ⟨group, members, total⟩ := accounted.added
  have bound := (usageOf state.db tenantID resource).toInt_lt
  unfold Within
  rw [Int64.le_iff_toInt_le, quota_of_sets accounted.limits]
  rcases together group fun caller member => (members caller member).1 with fits | large
  · omega
  · omega

omit [DecidableEq Caller] in
theorem initial_accounted : Accounted callers db tenantID resource {db := db} := by
  constructor
  · rfl
  · intro caller pending
    exact pending.elim
  · exact Int.le_refl _
  · exact ⟨∅, by simp, by simp⟩

theorem enter_same :
    (state.enter caller phase).phase caller = phase := by
  simp [State.enter]

theorem enter_other {other : Caller} (apart : other ≠ caller) :
    (state.enter caller phase).phase other = state.phase other := by
  simp [State.enter, apart]

theorem all_pass {group : List Caller} (distinct : group.Nodup) (state : State Caller)
    (idle : ∀ caller ∈ group, state.phase caller = .idle)
    (accepted : ∀ caller ∈ group, ¬ Rejected state.db (callers caller).tenantID
      (callers caller).resource (callers caller).delta) :
    ∃ after, Reaches (step callers) state after ∧ after.db = state.db ∧
      (∀ caller ∈ group, after.phase caller = .passed) ∧
        ∀ caller, caller ∉ group → after.phase caller = state.phase caller := by
  induction group generalizing state with
  | nil => exact ⟨state, reaches_refl, rfl, by simp, fun _ _ => rfl⟩
  | cons caller rest ih =>
    obtain ⟨unlisted, restDistinct⟩ := List.nodup_cons.mp distinct
    have apart : ∀ other ∈ rest, other ≠ caller := by
      intro other member same
      exact unlisted (same ▸ member)
    have taken : step callers state (.checkQuota caller) =
        some (state.enter caller .passed) := by
      have passes := accepted caller List.mem_cons_self
      simp only [step, idle caller List.mem_cons_self, if_true]
      split
      · rfl
      · rename_i error answer
        rw [Rejected, answer] at passes
        exact absurd rfl passes
    obtain ⟨after, reached, kept, passed, frame⟩ := ih restDistinct (state.enter caller .passed)
      (fun other member => by
        rw [enter_other _ _ (apart other member)]
        exact idle other (List.mem_cons_of_mem _ member))
      (fun other member => accepted other (List.mem_cons_of_mem _ member))
    refine ⟨after, reaches_step _ _ taken reached, kept, ?_, ?_⟩
    · intro other member
      rcases List.mem_cons.mp member with same | later
      · rw [same, frame caller unlisted, enter_same]
      · exact passed other later
    · intro other outside
      rw [List.mem_cons, not_or] at outside
      obtain ⟨different, elsewhere⟩ := outside
      rw [frame other elsewhere, enter_other _ _ different]

theorem usage_of_add_row {db : Database} (used : Resource → Int64)
    (found : db.quotaUsage request.tenantID = some used)
    (room : ¬ overflows (usageOf db request.tenantID request.resource) request.delta) :
    usageOf (addUsage db request) request.tenantID request.resource =
      usageOf db request.tenantID request.resource + request.delta := by
  have current : usageOf db request.tenantID = used := by simp [usageOf, found]
  rw [current] at room ⊢
  simp [addUsage, found, room, usageOf, Database.setUsage]

/-- UpdateUsage of a caller that is not interrupted. -/
theorem update_adds (passed : state.phase caller = .passed)
    (target : Targets tenantID resource (callers caller))
    (room : ¬ overflows (usageOf state.db tenantID resource) (callers caller).delta) :
    ∃ after, Reaches (step callers) state after ∧
      usageOf after.db tenantID resource =
        usageOf state.db tenantID resource + (callers caller).delta ∧
      after.db.quotaSets = state.db.quotaSets ∧
      ∀ other, other ≠ caller → after.phase other = state.phase other := by
  obtain ⟨tenant, type⟩ := target
  subst tenant type
  cases found : state.db.quotaUsage (callers caller).tenantID with
  | some used =>
    refine ⟨{state with db := addUsage state.db (callers caller)}.enter caller .finished, ?_,
      usage_of_add_row used found room, quota_sets_add, ?_⟩
    · refine ⟨[.find caller, .update caller], ?_⟩
      simp [run, step, passed, found, State.enter]
      funext other
      split <;> rfl
    · intro other apart
      simp [State.enter, apart]
  | none =>
    have empty := congrFun (usage_of_create
      (callers caller).tenantID found) (callers caller).resource
    let created := state.db.setUsage (callers caller).tenantID fun _ => 0
    refine ⟨{state with db := addUsage created (callers caller)}.enter caller .finished, ?_, ?_,
      quota_sets_add, ?_⟩
    · refine ⟨[.find caller, .create caller, .update caller], ?_⟩
      simp [run, step, passed, found, State.enter, created]
      funext other
      split <;> rfl
    · rw [← empty] at room ⊢
      exact usage_of_add_row (fun _ => 0) (by simp [created, Database.setUsage]) room
    · intro other apart
      simp [State.enter, apart]

theorem all_add {group : List Caller} (distinct : group.Nodup) (state : State Caller)
    (passed : ∀ caller ∈ group, state.phase caller = .passed)
    (targets : ∀ caller ∈ group, Targets tenantID resource (callers caller))
    (room : (usageOf state.db tenantID resource).toInt +
      (group.map fun caller => (callers caller).delta.toInt).sum < 2 ^ 63) :
    ∃ after, Reaches (step callers) state after ∧
      (usageOf after.db tenantID resource).toInt = (usageOf state.db tenantID resource).toInt +
        (group.map fun caller => (callers caller).delta.toInt).sum ∧
      after.db.quotaSets = state.db.quotaSets := by
  induction group generalizing state with
  | nil => exact ⟨state, reaches_refl, by simp, rfl⟩
  | cons caller rest ih =>
    obtain ⟨unlisted, restDistinct⟩ := List.nodup_cons.mp distinct
    have later : 0 ≤ (rest.map fun caller => (callers caller).delta.toInt).sum := by
      apply List.sum_nonneg
      intro amount member
      obtain ⟨other, _, same⟩ := List.mem_map.mp member
      have positive := Int64.lt_iff_toInt_lt.mp (callers other).positive
      have zero : (0 : Int64).toInt = 0 := rfl
      omega
    rw [List.map_cons, List.sum_cons] at room
    have fits : ¬ overflows (usageOf state.db tenantID resource) (callers caller).delta := by
      unfold overflows
      omega
    obtain ⟨middle, first, more, limits, frame⟩ := update_adds state caller
      (passed caller List.mem_cons_self) (targets caller List.mem_cons_self) fits
    have sum : (usageOf middle.db tenantID resource).toInt =
        (usageOf state.db tenantID resource).toInt + (callers caller).delta.toInt := by
      rw [more, sum_exact (callers caller).positive fits]
    obtain ⟨after, second, total, same⟩ := ih restDistinct middle
      (fun other member => by
        rw [frame other (fun equal => unlisted (equal ▸ member))]
        exact passed other (List.mem_cons_of_mem _ member))
      (fun other member => targets other (List.mem_cons_of_mem _ member))
      (by omega)
    refine ⟨after, reaches_trans state first second, ?_, same.trans limits⟩
    rw [List.map_cons, List.sum_cons]
    omega

theorem overcommitted {group : Finset Caller}
    (members : ∀ caller ∈ group, Targets tenantID resource (callers caller) ∧
      Fits db (callers caller))
    (excess : (quotaOf db tenantID resource).toInt <
      (usageOf db tenantID resource).toInt + ∑ caller ∈ group, (callers caller).delta.toInt)
    (room : (usageOf db tenantID resource).toInt +
      ∑ caller ∈ group, (callers caller).delta.toInt < 2 ^ 63) :
    ∃ after, Reaches (step callers) {db := db} after ∧ ¬ Within tenantID resource after := by
  have total : (group.toList.map fun caller => (callers caller).delta.toInt).sum =
      ∑ caller ∈ group, (callers caller).delta.toInt := Finset.sum_map_toList _ _
  have accepted : ∀ caller ∈ group.toList, ¬ Rejected db (callers caller).tenantID
      (callers caller).resource (callers caller).delta := by
    intro caller member rejected
    obtain ⟨looked, limited, exceeds⟩ := rejected_iff.mp rejected
    have fits := (members caller (Finset.mem_toList.mp member)).2 looked
    have bound := (quotaOf db (callers caller).tenantID (callers caller).resource).toInt_lt
    rw [Int64.lt_iff_toInt_lt, sum_exact (callers caller).positive (by
      unfold overflows
      omega)] at exceeds
    omega
  obtain ⟨middle, checked, kept, passed, _⟩ := all_pass group.nodup_toList
    {db := db} (fun _ _ => rfl) accepted
  have targets : ∀ caller ∈ group.toList, Targets tenantID resource (callers caller) :=
    fun caller member => (members caller (Finset.mem_toList.mp member)).1
  obtain ⟨after, added, usage, limits⟩ := all_add group.nodup_toList middle passed
    targets (by rw [kept, total]; exact room)
  refine ⟨after, reaches_trans _ checked added, fun within => ?_⟩
  unfold Within at within
  rw [kept] at usage limits
  dsimp only at usage limits
  rw [Int64.le_iff_toInt_le, quota_of_sets limits, usage, total] at within
  omega

/-- Over all interleavings of the callers, the usage of a resource stays within
its limit exactly when the requests that fit one by one fit together. -/
theorem quota_kept_iff (callers : Caller → Request) (db : Database) (tenantID : String)
    (resource : Resource) (limited : 0 ≤ quotaOf db tenantID resource) :
    (∀ actions, Always (step callers) (Within tenantID resource) {db := db} actions) ↔
      FitTogether callers db tenantID resource := by
  constructor
  · intro kept group members
    by_contra excess
    rw [not_or] at excess
    obtain ⟨after, ⟨actions, ran⟩, exceeded⟩ := overcommitted members
      (Int.not_le.mp excess.1) (Int.not_le.mp excess.2)
    exact exceeded (always_last _ after (kept actions) ran)
  · intro together actions
    exact always_of_invariant (Accounted callers db tenantID resource)
      (accounted_within together) (step_accounted limited) actions _ initial_accounted

end Callers

def tenantOf (resource : Resource) (delta : Int64) (positive : 0 < delta) : Request where
  tenantID := "tenant-1"
  resource := resource
  delta := delta
  positive := positive

def singleInstance : Database where
  quotaSets _ := some fun _ => 1

/-- A caller alone cannot exceed the limit of one instance. -/
theorem single_caller_kept :
    0 ≤ quotaOf singleInstance "tenant-1" .instances ∧
      ∀ actions, Always (step fun _ : Unit => tenantOf .instances 1 (by decide))
        (Within "tenant-1" .instances) {db := singleInstance} actions := by
  have limited : 0 ≤ quotaOf singleInstance "tenant-1" .instances := by decide
  refine ⟨limited, (quota_kept_iff _ singleInstance "tenant-1" .instances limited).mpr ?_⟩
  intro group _
  left
  have few : (group.card : Int) ≤ 1 := by
    have bound : group.card ≤ 1 := Finset.card_le_one.mpr fun _ _ _ _ => rfl
    omega
  have one : (1 : Int64).toInt = 1 := rfl
  have zero : (0 : Int64).toInt = 0 := rfl
  simpa [tenantOf, usageOf, quotaOf, singleInstance, one, zero] using few

/-- Two callers pass the check of the last instance before either updates, and
the check lets any number of volumes pass. -/
theorem last_instance_taken_twice :
    quotaOf singleInstance "tenant-1" .instances = 1 ∧
      quotaOf singleInstance "tenant-1" .volumes = 1 ∧
      (∃ final, run (step fun _ : Bool => tenantOf .instances 1 (by decide)) {db := singleInstance}
          [.checkQuota true, .checkQuota false, .find true, .create true, .update true,
            .find false, .update false] = some final ∧
        usageOf final.db "tenant-1" .instances = 2) ∧
      ∃ final, run (step fun _ : Unit => tenantOf .volumes 11 (by decide)) {db := singleInstance}
          [.checkQuota (), .find (), .create (), .update ()] = some final ∧
        usageOf final.db "tenant-1" .volumes = 11 :=
  ⟨by decide, by decide, ⟨_, rfl, by decide⟩, _, rfl, by decide⟩

end VcStack.Quotas
