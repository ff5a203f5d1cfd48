import Mathlib.Algebra.GroupWithZero.Nat
import VcStack.Idempotency
import VcStack.Runs

/-!
The users of a Slurm cluster, from internal/management/hpc. A plan is built from
the mappings of the cluster in one pass with three look-up sets, and then carried
out action by action.
-/

namespace VcStack.SlurmUsers

open Runs
open Idempotency (trimSpace)

structure SlurmCluster where
  id : String
  name : String
deriving DecidableEq, Repr

structure SlurmUserMapping where
  slurmUser : String
  slurmAccount : String
  slurmPartitions : String := ""
  qos : String := "normal"
  maxGPUs : Int := 0
  status : String := "active"
deriving DecidableEq, Repr

structure SlurmRestAccount where
  name : String
  description : String
  organization : String
  coordinators : List String := []
deriving DecidableEq, Repr

structure SlurmAssoc where
  account : String
  cluster : String
  partition : String
  qos : List String
  maxTres : String := ""
  grpTres : String := ""
  maxJobs : Nat
  priority : Nat := 0
deriving DecidableEq, Repr

structure SlurmRestUser where
  name : String
  defaultAccount : String
  adminLevel : String
  associations : List SlurmAssoc
deriving DecidableEq, Repr

structure UserSyncPlan where
  clusterID : String
  accountsToAdd : List SlurmRestAccount := []
  usersToAdd : List SlurmRestUser := []
  usersToUpdate : List SlurmRestUser := []
  usersToRemove : List String := []
  assocChanges : Nat := 0
  timestamp : Int
deriving DecidableEq, Repr

def accountOf (m : SlurmUserMapping) : SlurmRestAccount where
  name := m.slurmAccount
  description := "VC Stack project " ++ m.slurmAccount
  organization := "vc-stack"

def qosList (m : SlurmUserMapping) : List String :=
  if m.qos ≠ "" ∧ m.qos ≠ "normal" then ["normal", m.qos] else ["normal"]

def partitions (m : SlurmUserMapping) : List String :=
  (m.slurmPartitions.toList.splitOn ',').map String.ofList

def association (cluster : SlurmCluster) (m : SlurmUserMapping) (p : String) : SlurmAssoc where
  account := m.slurmAccount
  cluster := cluster.name
  partition := trimSpace p
  qos := qosList m
  maxJobs := 100
  grpTres := if m.maxGPUs > 0 then "gres/gpu=" ++ toString m.maxGPUs else ""

def userOf (cluster : SlurmCluster) (m : SlurmUserMapping) : SlurmRestUser where
  name := m.slurmUser
  defaultAccount := m.slurmAccount
  adminLevel := "None"
  associations := (partitions m).map (association cluster m)

structure Progress where
  plan : UserSyncPlan
  accountsNeeded : String → Bool := fun _ => false
  wantedUsers : String → Bool := fun _ => false

def Progress.needAccount (progress : Progress) (m : SlurmUserMapping) : Progress :=
  if progress.accountsNeeded m.slurmAccount then progress
  else {progress with
    accountsNeeded := Function.update progress.accountsNeeded m.slurmAccount true
    plan.accountsToAdd := progress.plan.accountsToAdd ++ [accountOf m]}

def Progress.wantUser (progress : Progress) (cluster : SlurmCluster) (existingSet : String → Bool)
    (m : SlurmUserMapping) : Progress :=
  let user := userOf cluster m
  let plan := progress.plan
  {progress with
    wantedUsers := Function.update progress.wantedUsers m.slurmUser true
    plan := {plan with
      usersToAdd := if existingSet m.slurmUser then plan.usersToAdd else plan.usersToAdd ++ [user]
      usersToUpdate :=
        if existingSet m.slurmUser then plan.usersToUpdate ++ [user] else plan.usersToUpdate
      assocChanges := plan.assocChanges + user.associations.length}}

def processMapping (cluster : SlurmCluster) (existingSet : String → Bool) (progress : Progress)
    (m : SlurmUserMapping) : Progress :=
  if m.status ≠ "active" then progress
  else (progress.needAccount m).wantUser cluster existingSet m

def existingUsers (existingSlurmUsers : List String) (name : String) : Bool :=
  existingSlurmUsers.contains name

def buildUserSyncPlan (cluster : SlurmCluster) (mappings : List SlurmUserMapping)
    (existingSlurmUsers : List String) (now : Int) : UserSyncPlan :=
  let progress := mappings.foldl (processMapping cluster (existingUsers existingSlurmUsers))
    {plan := {clusterID := cluster.id, timestamp := now}}
  {progress.plan with
    usersToRemove := existingSlurmUsers.filter fun name => !progress.wantedUsers name}

inductive ActionType where
  | createAccount | createUser | updateUser | removeUser
deriving DecidableEq, Repr

structure SyncAction where
  type : ActionType
  target : String
  status : String := "success"
  message : String
deriving DecidableEq, Repr

structure UserSyncResult where
  clusterID : String
  overallStatus : String
  accountsCreated : Nat
  usersCreated : Nat
  usersUpdated : Nat
  usersRemoved : Nat
  actions : List SyncAction
  timestamp : Int
deriving DecidableEq, Repr

def createAccount (account : SlurmRestAccount) : SyncAction where
  type := .createAccount
  target := account.name
  message := "Account " ++ account.name ++ " created in Slurm accounting"

def createUser (user : SlurmRestUser) : SyncAction where
  type := .createUser
  target := user.name
  message := "User " ++ user.name ++ " added with " ++ toString user.associations.length ++
    " associations"

def updateUser (user : SlurmRestUser) : SyncAction where
  type := .updateUser
  target := user.name
  message := "User " ++ user.name ++ " associations updated (" ++
    toString user.associations.length ++ " total)"

def removeUser (username : String) : SyncAction where
  type := .removeUser
  target := username
  message := "User " ++ username ++ " removed from Slurm accounting"

def executeUserSync (plan : UserSyncPlan) (now : Int) : UserSyncResult where
  clusterID := plan.clusterID
  overallStatus :=
    if plan.usersToAdd.length + plan.usersToUpdate.length + plan.usersToRemove.length +
        plan.accountsToAdd.length = 0 then "no_changes" else "success"
  accountsCreated := plan.accountsToAdd.length
  usersCreated := plan.usersToAdd.length
  usersUpdated := plan.usersToUpdate.length
  usersRemoved := plan.usersToRemove.length
  actions := plan.accountsToAdd.map createAccount ++ plan.usersToAdd.map createUser ++
    plan.usersToUpdate.map updateUser ++ plan.usersToRemove.map removeUser
  timestamp := now

def SyncAction.apply (users : List String) (action : SyncAction) : List String :=
  match action.type with
  | .createUser => users ++ [action.target]
  | .removeUser => users.filter (· != action.target)
  | _ => users

def resultingUsers (existing : List String) (result : UserSyncResult) : List String :=
  result.actions.foldl SyncAction.apply existing

def active (mappings : List SlurmUserMapping) : List SlurmUserMapping :=
  mappings.filter fun m => m.status = "active"

def Wanted (mappings : List SlurmUserMapping) (name : String) : Prop :=
  ∃ m ∈ mappings, m.status = "active" ∧ m.slurmUser = name

def Charged (mappings : List SlurmUserMapping) (account : String) : Prop :=
  ∃ m ∈ mappings, m.status = "active" ∧ m.slurmAccount = account

variable {m : SlurmUserMapping} {name : String} {progress : Progress}

section Pass

variable (cluster : SlurmCluster) (existingSet : String → Bool)

structure Passed (mappings : List SlurmUserMapping) (progress : Progress) : Prop where
  needed : ∀ account, progress.accountsNeeded account = true ↔ Charged mappings account
  wanted : ∀ name, progress.wantedUsers name = true ↔ Wanted mappings name
  once : (progress.plan.accountsToAdd.map SlurmRestAccount.name).Nodup
  listed : ∀ account, account ∈ progress.plan.accountsToAdd.map SlurmRestAccount.name ↔
    Charged mappings account
  added : progress.plan.usersToAdd =
    ((active mappings).filter fun m => !existingSet m.slurmUser).map (userOf cluster)
  updated : progress.plan.usersToUpdate =
    ((active mappings).filter fun m => existingSet m.slurmUser).map (userOf cluster)
  changes : progress.plan.assocChanges =
    ((active mappings).map fun m => (userOf cluster m).associations.length).sum

theorem active_snoc_active {mappings : List SlurmUserMapping}
    (is : m.status = "active") : active (mappings ++ [m]) = active mappings ++ [m] := by
  simp [active, is]

theorem wanted_snoc_iff {mappings : List SlurmUserMapping} :
    Wanted (mappings ++ [m]) name ↔
      Wanted mappings name ∨ m.status = "active" ∧ m.slurmUser = name := by
  simp [Wanted, or_and_right, exists_or]

theorem charged_snoc_iff {mappings : List SlurmUserMapping}
    {account : String} :
    Charged (mappings ++ [m]) account ↔
      Charged mappings account ∨ m.status = "active" ∧ m.slurmAccount = account := by
  simp [Charged, or_and_right, exists_or]

theorem passed_inactive {mappings : List SlurmUserMapping} (other : m.status ≠ "active")
    (passed : Passed cluster existingSet mappings progress) :
    Passed cluster existingSet (mappings ++ [m]) progress := by
  have same : active (mappings ++ [m]) = active mappings := by simp [active, other]
  constructor
  · intro account
    rw [passed.needed, charged_snoc_iff, or_iff_left fun charged => other charged.1]
  · intro name
    rw [passed.wanted, wanted_snoc_iff, or_iff_left fun wanted => other wanted.1]
  · exact passed.once
  · intro account
    rw [passed.listed, charged_snoc_iff, or_iff_left fun charged => other charged.1]
  · rw [same, passed.added]
  · rw [same, passed.updated]
  · rw [same, passed.changes]

theorem update_true_iff {set : String → Bool} {key other : String} :
    Function.update set key true other = true ↔ set other = true ∨ key = other := by
  by_cases same : other = key
  · subst same
    simp
  · rw [Function.update_of_ne same, or_iff_left (Ne.symm same)]

theorem need_account {mappings : List SlurmUserMapping} (is : m.status = "active")
    (passed : Passed cluster existingSet mappings progress) :
    (∀ account, (progress.needAccount m).accountsNeeded account = true ↔
        Charged (mappings ++ [m]) account) ∧
      ((progress.needAccount m).plan.accountsToAdd.map SlurmRestAccount.name).Nodup ∧
      ∀ account, account ∈ (progress.needAccount m).plan.accountsToAdd.map SlurmRestAccount.name ↔
        Charged (mappings ++ [m]) account := by
  have charged (account : String) : Charged (mappings ++ [m]) account ↔
      Charged mappings account ∨ m.slurmAccount = account := by
    rw [charged_snoc_iff, and_iff_right is]
  unfold Progress.needAccount
  cases met : progress.accountsNeeded m.slurmAccount with
  | true =>
    have again (account : String) : Charged (mappings ++ [m]) account ↔
        Charged mappings account := by
      rw [charged, or_iff_left_of_imp]
      rintro rfl
      exact (passed.needed _).mp met
    simp only [↓reduceIte, again]
    exact ⟨passed.needed, passed.once, passed.listed⟩
  | false =>
    have fresh : m.slurmAccount ∉ progress.plan.accountsToAdd.map SlurmRestAccount.name := by
      rw [passed.listed, ← passed.needed, met]
      exact Bool.false_ne_true
    simp only [Bool.false_eq_true, ↓reduceIte, List.map_append, List.map_singleton]
    refine ⟨?_, ?_, ?_⟩
    · intro account
      rw [update_true_iff, passed.needed, charged]
    · exact List.nodup_append.mpr ⟨passed.once, List.pairwise_singleton _ _, by
        rintro name member _ only rfl
        rw [List.mem_singleton.mp only] at member
        exact fresh member⟩
    · intro account
      rw [List.mem_append, passed.listed, charged, List.mem_singleton]
      exact or_congr_right eq_comm

theorem passed_active {mappings : List SlurmUserMapping} (is : m.status = "active")
    (passed : Passed cluster existingSet mappings progress) :
    Passed cluster existingSet (mappings ++ [m])
      ((progress.needAccount m).wantUser cluster existingSet m) := by
  obtain ⟨needed, once, listed⟩ := need_account cluster existingSet is passed
  -- What needAccount leaves alone.
  have users : (progress.needAccount m).wantedUsers = progress.wantedUsers ∧
      (progress.needAccount m).plan.usersToAdd = progress.plan.usersToAdd ∧
      (progress.needAccount m).plan.usersToUpdate = progress.plan.usersToUpdate ∧
      (progress.needAccount m).plan.assocChanges = progress.plan.assocChanges := by
    unfold Progress.needAccount
    split <;> exact ⟨rfl, rfl, rfl, rfl⟩
  obtain ⟨wantedSame, addedSame, updatedSame, changesSame⟩ := users
  refine ⟨needed, ?_, once, listed, ?_, ?_, ?_⟩
  · intro name
    simp only [Progress.wantUser]
    rw [update_true_iff, wantedSame, passed.wanted, wanted_snoc_iff, and_iff_right is]
  · simp only [Progress.wantUser]
    rw [addedSame, passed.added, active_snoc_active is, List.filter_append]
    cases known : existingSet m.slurmUser <;> simp [known]
  · simp only [Progress.wantUser]
    rw [updatedSame, passed.updated, active_snoc_active is, List.filter_append]
    cases known : existingSet m.slurmUser <;> simp [known]
  · simp only [Progress.wantUser]
    rw [changesSame, passed.changes, active_snoc_active is]
    simp

theorem passed_step (mappings : List SlurmUserMapping) (progress : Progress)
    (m : SlurmUserMapping) (passed : Passed cluster existingSet mappings progress) :
    Passed cluster existingSet (mappings ++ [m])
      (processMapping cluster existingSet progress m) := by
  unfold processMapping
  split
  case isTrue other => exact passed_inactive cluster existingSet other passed
  case isFalse is =>
      exact passed_active cluster existingSet (not_not.mp is) passed

theorem passed_all (mappings : List SlurmUserMapping) (now : Int) :
    Passed cluster existingSet mappings
      (mappings.foldl (processMapping cluster existingSet)
        {plan := {clusterID := cluster.id, timestamp := now}}) := by
  apply pass_rule (Passed cluster existingSet) (passed_step cluster existingSet)
  constructor <;> simp [Charged, Wanted, active]

end Pass

section Plan

variable (cluster : SlurmCluster) (mappings : List SlurmUserMapping)
  (existingSlurmUsers : List String) (now : Int)

def UserSyncPlan.changed (plan : UserSyncPlan) : List SlurmRestUser :=
  plan.usersToAdd ++ plan.usersToUpdate

structure Exact (plan : UserSyncPlan) : Prop where
  added : ∀ name, name ∈ plan.usersToAdd.map SlurmRestUser.name ↔
    Wanted mappings name ∧ name ∉ existingSlurmUsers
  updated : ∀ name, name ∈ plan.usersToUpdate.map SlurmRestUser.name ↔
    Wanted mappings name ∧ name ∈ existingSlurmUsers
  removed : ∀ name, name ∈ plan.usersToRemove ↔
    name ∈ existingSlurmUsers ∧ ¬ Wanted mappings name
  once : (plan.accountsToAdd.map SlurmRestAccount.name).Nodup
  accounts : ∀ account, account ∈ plan.accountsToAdd.map SlurmRestAccount.name ↔
    Charged mappings account
  refers : ∀ user ∈ plan.changed, ∀ assoc ∈ user.associations,
    assoc.account ∈ plan.accountsToAdd.map SlurmRestAccount.name
  changes : plan.assocChanges = (plan.changed.map fun user => user.associations.length).sum

theorem mem_active_iff :
    m ∈ active mappings ↔ m ∈ mappings ∧ m.status = "active" := by
  simp [active]

theorem names_picked_iff (picks : String → Bool) :
    name ∈ (((active mappings).filter fun m => picks m.slurmUser).map (userOf cluster)).map
        SlurmRestUser.name ↔
      Wanted mappings name ∧ picks name = true := by
  simp only [List.map_map, List.mem_map, List.mem_filter, mem_active_iff, Wanted]
  constructor
  · rintro ⟨m, ⟨⟨member, is⟩, picked⟩, rfl⟩
    exact ⟨⟨m, member, is, rfl⟩, picked⟩
  · rintro ⟨⟨m, member, is, rfl⟩, picked⟩
    exact ⟨m, ⟨⟨member, is⟩, picked⟩, rfl⟩

theorem plan_exact :
    Exact mappings existingSlurmUsers (buildUserSyncPlan cluster mappings existingSlurmUsers now) := by
  have passed := passed_all cluster (existingUsers existingSlurmUsers) mappings now
  unfold buildUserSyncPlan
  generalize mappings.foldl (processMapping cluster (existingUsers existingSlurmUsers))
    {plan := {clusterID := cluster.id, timestamp := now}} = progress at passed ⊢
  constructor
  · intro name
    simp only
    rw [passed.added, names_picked_iff cluster mappings (!existingUsers existingSlurmUsers ·)]
    simp [existingUsers]
  · intro name
    simp only
    rw [passed.updated, names_picked_iff cluster mappings (existingUsers existingSlurmUsers)]
    simp [existingUsers]
  · intro name
    simp [← passed.wanted]
  · exact passed.once
  · exact passed.listed
  · -- Both lists of users are made of active mappings, whose accounts are listed.
    intro user changed assoc associated
    simp only
    rw [passed.listed]
    have made : ∃ m ∈ active mappings, userOf cluster m = user := by
      simp only [UserSyncPlan.changed, passed.added, passed.updated, List.mem_append,
        List.mem_map, List.mem_filter] at changed
      obtain ⟨m, ⟨member, _⟩, made⟩ | ⟨m, ⟨member, _⟩, made⟩ := changed
      · exact ⟨m, member, made⟩
      · exact ⟨m, member, made⟩
    obtain ⟨m, member, rfl⟩ := made
    obtain ⟨p, _, rfl⟩ := List.mem_map.mp associated
    rw [mem_active_iff] at member
    exact ⟨m, member.1, member.2, rfl⟩
  · simp only [UserSyncPlan.changed, passed.added, passed.updated, passed.changes]
    rw [← List.map_append, List.map_map]
    have split := List.filter_append_perm (fun m : SlurmUserMapping =>
      !existingUsers existingSlurmUsers m.slurmUser) (active mappings)
    simp only [Bool.not_not] at split
    exact ((split.map _).sum_nat).symm

/-- Users after a list of actions: those created and those there before, less those
removed. -/
theorem mem_users_created {users : List SlurmRestUser} (existing : List String) :
    name ∈ (users.map createUser).foldl SyncAction.apply existing ↔
      name ∈ existing ∨ name ∈ users.map SlurmRestUser.name := by
  induction users generalizing existing with
  | nil => simp
  | cons user rest ih =>
    rw [List.map_cons, List.foldl_cons, ih]
    simp [SyncAction.apply, createUser, or_assoc, eq_comm]

theorem mem_users_removed (names existing : List String) :
    name ∈ (names.map removeUser).foldl SyncAction.apply existing ↔
      name ∈ existing ∧ name ∉ names := by
  induction names generalizing existing with
  | nil => simp
  | cons first rest ih =>
    rw [List.map_cons, List.foldl_cons, ih]
    simp [SyncAction.apply, removeUser, and_assoc]

theorem users_kept {actions : List SyncAction} {existing : List String}
    (other : ∀ action ∈ actions, action.type = .createAccount ∨ action.type = .updateUser) :
    actions.foldl SyncAction.apply existing = existing := by
  induction actions with
  | nil => rfl
  | cons action rest ih =>
    rw [List.forall_mem_cons] at other
    have same : action.apply existing = existing := by
      rcases other.1 with kind | kind <;> simp [SyncAction.apply, kind]
    rw [List.foldl_cons, same]
    exact ih other.2

theorem mem_resulting_iff {plan : UserSyncPlan} {existing : List String} :
    name ∈ resultingUsers existing (executeUserSync plan now) ↔
      (name ∈ existing ∨ name ∈ plan.usersToAdd.map SlurmRestUser.name) ∧
        name ∉ plan.usersToRemove := by
  simp only [resultingUsers, executeUserSync, List.foldl_append]
  rw [mem_users_removed, users_kept, mem_users_created,
    users_kept]
  · intro action listed
    obtain ⟨account, _, rfl⟩ := List.mem_map.mp listed
    exact Or.inl rfl
  · intro action listed
    obtain ⟨user, _, rfl⟩ := List.mem_map.mp listed
    exact Or.inr rfl

def syncedUsers : List String :=
  resultingUsers existingSlurmUsers
    (executeUserSync (buildUserSyncPlan cluster mappings existingSlurmUsers now) now)

theorem synced_wanted_iff :
    name ∈ syncedUsers cluster mappings existingSlurmUsers now ↔ Wanted mappings name := by
  have exact := plan_exact cluster mappings existingSlurmUsers now
  rw [syncedUsers, mem_resulting_iff, exact.added, exact.removed]
  tauto

/-- For all mappings and all existing users the plan is exact, and planning again
once it is carried out adds and removes nobody. -/
theorem sync_plan_exact (later : Int) :
    Exact mappings existingSlurmUsers
        (buildUserSyncPlan cluster mappings existingSlurmUsers now) ∧
      (buildUserSyncPlan cluster mappings
        (syncedUsers cluster mappings existingSlurmUsers now) later).usersToAdd = [] ∧
      (buildUserSyncPlan cluster mappings
        (syncedUsers cluster mappings existingSlurmUsers now) later).usersToRemove = [] := by
  have exact := plan_exact cluster mappings (syncedUsers cluster mappings existingSlurmUsers now) later
  refine ⟨plan_exact cluster mappings existingSlurmUsers now, ?_, ?_⟩
  · apply List.eq_nil_iff_forall_not_mem.mpr
    intro user member
    have named := (exact.added user.name).mp (List.mem_map_of_mem member)
    exact named.2 ((synced_wanted_iff cluster mappings existingSlurmUsers now).mpr named.1)
  · apply List.eq_nil_iff_forall_not_mem.mpr
    intro name member
    have named := (exact.removed name).mp member
    exact named.2 ((synced_wanted_iff cluster mappings existingSlurmUsers now).mp named.1)

end Plan

end VcStack.SlurmUsers
