import Mathlib.Data.List.Nodup
import Mathlib.Tactic.Push
import VcStack.Runs

/-!
The security group handlers of internal/management/network/handlers_security.go
with the compiler of security_compiler.go and the port groups that driver_ovn.go
keeps in the OVN northbound database. Requests are well formed, and database
writes and driver commands succeed. The rules of a group are read in the order
of their table. The ports of the port groups are the subject of PortGroupMembers.
-/

namespace VcStack.SecurityGroups

open Runs

structure SecurityGroupRule where
  id : String := ""
  securityGroupID : String := ""
  direction : String := ""
  etherType : String := ""
  protocol : String := ""
  portRangeMin : Int := 0
  portRangeMax : Int := 0
  remoteIPPrefix : String := ""
  deriving DecidableEq

structure SecurityGroup where
  id : String
  name : String
  description : String := ""
  deriving DecidableEq

structure ACLRule where
  priority : Int
  direction : String
  condition : String
  action : String
  log : Bool := false
  deriving DecidableEq

def remoteField (rule : SecurityGroupRule) : String :=
  let field := if rule.direction = "egress" then "ip4.dst" else "ip4.src"
  if rule.etherType = "IPv6" then "ip6" ++ String.ofList (field.toList.drop 3) else field

def portParts (rule : SecurityGroupRule) : List String :=
  if rule.portRangeMin = 0 then []
  else if rule.portRangeMin = rule.portRangeMax then
    [rule.protocol ++ ".dst == " ++ toString rule.portRangeMin]
  else
    [rule.protocol ++ ".dst >= " ++ toString rule.portRangeMin ++ " && " ++
      rule.protocol ++ ".dst <= " ++ toString rule.portRangeMax]

def matchParts (rule : SecurityGroupRule) : List String :=
  [if rule.etherType = "IPv6" then "ip6" else "ip4"] ++
    (if rule.protocol = "" then [] else [rule.protocol]) ++
    (if rule.remoteIPPrefix = "" then []
      else [remoteField rule ++ " == " ++ rule.remoteIPPrefix]) ++
    portParts rule

def compileRule (rule : SecurityGroupRule) : ACLRule where
  priority := 1000
  direction := if rule.direction = "egress" then "from-lport" else "to-lport"
  condition := " && ".intercalate (matchParts rule)
  action := "allow-related"

def compileGroup (rules : List SecurityGroupRule) : List ACLRule :=
  [{priority := 0, direction := "to-lport", condition := "ip", action := "drop"},
    {priority := 0, direction := "from-lport", condition := "ip", action := "allow-related"}] ++
    rules.map compileRule

abbrev PortGroups := String → Option (List ACLRule)

def setGroup (ovn : PortGroups) (pgName : String) (acls : List ACLRule) : PortGroups :=
  fun other => if other = pgName then some acls else ovn other

def ensurePortGroup (ovn : PortGroups) (name : String) : PortGroups :=
  match ovn ("pg-" ++ name) with
  | none => setGroup ovn ("pg-" ++ name) []
  | some _ => ovn

def aclAdd (ovn : PortGroups) (pgName : String) (rule : ACLRule) : PortGroups :=
  match ovn pgName with
  | none => ovn
  | some acls => setGroup ovn pgName (acls ++ [rule])

def pgAclDel (ovn : PortGroups) (pgName : String) : PortGroups :=
  match ovn pgName with
  | none => ovn
  | some _ => setGroup ovn pgName []

def setPortGroupACLs (ovn : PortGroups) (name : String) (rules : List ACLRule) : PortGroups :=
  rules.foldl (fun ovn rule => aclAdd ovn ("pg-" ++ name) rule) (pgAclDel ovn ("pg-" ++ name))

structure State where
  groups : List SecurityGroup := []
  rules : List SecurityGroupRule := []
  ovn : PortGroups := fun _ => none

def rulesOf (rules : List SecurityGroupRule) (groupID : String) : List SecurityGroupRule :=
  rules.filter (·.securityGroupID == groupID)

/-- How GORM saves a rule of a new group: a row that has its id already only
gets the new foreign key. -/
def upsertRule (groupID : String) (rules : List SecurityGroupRule) (rule : SecurityGroupRule) :
    List SecurityGroupRule :=
  if rules.any (·.id == rule.id) then
    rules.map fun row => if row.id == rule.id then {row with securityGroupID := groupID} else row
  else rules ++ [{rule with securityGroupID := groupID}]

structure GroupRequest where
  name : String
  description : String := ""
  rules : List SecurityGroupRule := []

def createSecurityGroup (state : State) (request : GroupRequest) (id : String) : State :=
  {state with
    groups := state.groups ++ [{id := id, name := request.name, description := request.description}]
    rules := request.rules.foldl (upsertRule id) state.rules}

def syncSecurityGroup (state : State) (id : String) : State :=
  match state.groups.find? (·.id == id) with
  | none => state
  | some group =>
    let ovn := ensurePortGroup state.ovn group.name
    let aclRules := compileGroup (rulesOf state.rules group.id)
    {state with ovn := setPortGroupACLs ovn group.name aclRules}

def addSecurityGroupRule (state : State) (sgID : String) (rule : SecurityGroupRule) (id : String) :
    State :=
  let rule := {rule with id := id, securityGroupID := sgID}
  syncSecurityGroup {state with rules := state.rules ++ [rule]} sgID

def removeSecurityGroupRule (state : State) (ruleID : String) : State :=
  {state with rules := state.rules.filter (·.id != ruleID)}

inductive Action where
  | create (request : GroupRequest) (id : String)
  | addRule (sgID : String) (rule : SecurityGroupRule) (id : String)
  | removeRule (ruleID : String)

def step (state : State) : Action → Option State
  | .create request id => some (createSecurityGroup state request id)
  | .addRule sgID rule id => some (addSecurityGroupRule state sgID rule id)
  | .removeRule ruleID => some (removeSecurityGroupRule state ruleID)

variable {other groupID : String} {rule : SecurityGroupRule} {next : State} {action : Action}
  {group : SecurityGroup}

theorem acl_add_all (rules acls : List ACLRule) (ovn : PortGroups) {pgName : String}
    (there : ovn pgName = some acls) :
    rules.foldl (fun ovn rule => aclAdd ovn pgName rule) ovn other =
      if other = pgName then some (acls ++ rules) else ovn other := by
  induction rules generalizing ovn acls with
  | nil =>
    by_cases same : other = pgName
    · simp [same, there]
    · simp [same]
  | cons rule rest ih =>
    have added : aclAdd ovn pgName rule = setGroup ovn pgName (acls ++ [rule]) := by
      rw [aclAdd, there]
    rw [List.foldl_cons, ih (acls ++ [rule])]
    · rw [added]
      by_cases same : other = pgName
      · simp [same]
      · simp [same, setGroup]
    · simp [added, setGroup]

theorem set_port_group_acls {ovn : PortGroups} {name : String} {rules : List ACLRule} :
    setPortGroupACLs (ensurePortGroup ovn name) name rules = setGroup ovn ("pg-" ++ name) rules := by
  obtain ⟨acls, there, elsewhere⟩ : ∃ acls, ensurePortGroup ovn name ("pg-" ++ name) = some acls ∧
      ∀ other, other ≠ "pg-" ++ name → ensurePortGroup ovn name other = ovn other := by
    unfold ensurePortGroup
    cases present : ovn ("pg-" ++ name) with
    | none => exact ⟨[], by simp [setGroup], fun other apart => by simp [setGroup, apart]⟩
    | some acls => exact ⟨acls, present, fun other _ => rfl⟩
  have cleared : pgAclDel (ensurePortGroup ovn name) ("pg-" ++ name) =
      setGroup (ensurePortGroup ovn name) ("pg-" ++ name) [] := by
    rw [pgAclDel, there]
  funext other
  rw [setPortGroupACLs, cleared, acl_add_all rules []]
  · by_cases same : other = "pg-" ++ name
    · simp [same, setGroup]
    · simp [same, setGroup, elsewhere other same]
  · simp [setGroup]

theorem port_group_name_inj {left right : String} (same : "pg-" ++ left = "pg-" ++ right) :
    left = right := by
  rw [← String.toList_inj] at same ⊢
  simpa using same

theorem rules_of_upsert {rules : List SecurityGroupRule} (apart : other ≠ groupID) :
    rulesOf (upsertRule groupID rules rule) other =
      (rulesOf rules other).filter fun row => row.id ≠ rule.id := by
  unfold upsertRule rulesOf
  by_cases present : rules.any (·.id == rule.id) = true
  · rw [if_pos present, List.filter_filter]
    clear present
    -- Rows with the id leave the other group; the rest is untouched.
    induction rules with
    | nil => rfl
    | cons row rest ih =>
      rw [List.map_cons, List.filter_cons, List.filter_cons, ih]
      by_cases same : row.id = rule.id
      · simp [same, Ne.symm apart]
      · simp [same]
  · have missing : ∀ row ∈ rules, row.id ≠ rule.id := by simpa using present
    have away : (groupID == other) = false := beq_eq_false_iff_ne.mpr (Ne.symm apart)
    rw [if_neg present, List.filter_append, List.filter_filter]
    simp only [List.filter_cons, away, Bool.false_eq_true, ↓reduceIte, List.filter_nil,
      List.append_nil]
    apply List.filter_congr
    intro row member
    simp [missing row member]

theorem rules_of_save (saved rules : List SecurityGroupRule)
    (apart : other ≠ groupID) :
    rulesOf (saved.foldl (upsertRule groupID) rules) other =
      (rulesOf rules other).filter fun row => row.id ∉ saved.map (·.id) := by
  induction saved generalizing rules with
  | nil => simp [rulesOf]
  | cons rule rest ih =>
    rw [List.foldl_cons, ih, rules_of_upsert apart, List.filter_filter]
    apply List.filter_congr
    intro row _
    simp [Bool.and_comm]

def takenIDs : Action → List String
  | .create request _ => request.rules.map (·.id)
  | .addRule _ _ _ => []
  | .removeRule ruleID => [ruleID]

def target : Action → Option String
  | .create _ id => some id
  | .addRule sgID _ _ => some sgID
  | .removeRule _ => none

variable (state : State)

theorem sync_rules {id : String} : (syncSecurityGroup state id).rules = state.rules := by
  unfold syncSecurityGroup
  split <;> rfl

theorem step_rules_of
    (taken : step state action = some next) (apart : target action ≠ some groupID) :
    rulesOf next.rules groupID =
      (rulesOf state.rules groupID).filter fun row => row.id ∉ takenIDs action := by
  cases action with
  | create request id =>
    cases taken
    exact rules_of_save request.rules state.rules fun same => apart (congrArg some same.symm)
  | addRule sgID rule id =>
    cases taken
    have away : (sgID == groupID) = false :=
      beq_eq_false_iff_ne.mpr fun same => apart (congrArg some same)
    simp [addSecurityGroupRule, sync_rules, rulesOf, takenIDs, away]
  | removeRule ruleID =>
    cases taken
    simp only [removeSecurityGroupRule, rulesOf, takenIDs, List.filter_filter]
    apply List.filter_congr
    intro row _
    simp [Bool.and_comm, bne, Bool.beq_eq_decide_eq]

def Follows (state : State) : Prop :=
  ∀ group ∈ state.groups, ∀ acls, state.ovn ("pg-" ++ group.name) = some acls →
    acls = compileGroup (rulesOf state.rules group.id)

def NewGroups (state : State) : Action → Prop
  | .create request id => ∀ group ∈ state.groups, group.id ≠ id ∧ group.name ≠ request.name
  | _ => True

def Synced (state : State) (groupID : String) : Prop :=
  ∃ group ∈ state.groups, group.id = groupID ∧ (state.ovn ("pg-" ++ group.name)).isSome

/-- No rule of a synced group is removed, or named by its id in the body of a
createSecurityGroup. -/
def KeepsSynced (state : State) (action : Action) : Prop :=
  ∀ rule ∈ state.rules, rule.id ∈ takenIDs action → ¬ Synced state rule.securityGroupID

instance (state : State) : (action : Action) → Decidable (NewGroups state action)
  | .create request id =>
    inferInstanceAs (Decidable (∀ group ∈ state.groups, group.id ≠ id ∧ group.name ≠ request.name))
  | .addRule _ _ _ | .removeRule _ => inferInstanceAs (Decidable True)

instance (state : State) (groupID : String) : Decidable (Synced state groupID) :=
  inferInstanceAs (Decidable (∃ group ∈ state.groups, _ ∧ _))

instance (state : State) (action : Action) : Decidable (KeepsSynced state action) :=
  inferInstanceAs (Decidable (∀ rule ∈ state.rules, _ → _))

structure Sound (state : State) : Prop where
  ids : (state.groups.map (·.id)).Nodup
  names : (state.groups.map (·.name)).Nodup
  owned : ∀ pgName acls, state.ovn pgName = some acls →
    ∃ group ∈ state.groups, "pg-" ++ group.name = pgName
  follows : Follows state

/-- A synced group that a kept step is not about keeps the rules its ACLs were
compiled from. -/
theorem kept_follows {acls : List ACLRule}
    (sound : Sound state) (kept : KeepsSynced state action) (taken : step state action = some next)
    (apart : target action ≠ some group.id) (member : group ∈ state.groups)
    (present : state.ovn ("pg-" ++ group.name) = some acls) :
    acls = compileGroup (rulesOf next.rules group.id) := by
  have untouched : ∀ rule ∈ rulesOf state.rules group.id, rule.id ∉ takenIDs action := by
    intro rule owned hit
    obtain ⟨stored, owner⟩ := List.mem_filter.mp owned
    have same : rule.securityGroupID = group.id := by simpa using owner
    apply kept rule stored hit
    exact ⟨group, member, same.symm, Option.isSome_of_eq_some present⟩
  rw [step_rules_of state taken apart, List.filter_eq_self.mpr]
  · exact sound.follows group member acls present
  · simpa using untouched

theorem distinct_snoc {Key : Type} {key : SecurityGroup → Key} {groups : List SecurityGroup}
    (distinct : (groups.map key).Nodup)
    (fresh : ∀ other ∈ groups, key other ≠ key group) : ((groups ++ [group]).map key).Nodup := by
  rw [List.map_append, List.nodup_append]
  refine ⟨distinct, List.nodup_singleton _, ?_⟩
  intro left member right last
  obtain ⟨other, there, rfl⟩ := List.mem_map.mp member
  rw [List.mem_singleton.mp last]
  exact fresh other there

theorem create_sound {request : GroupRequest} {id : String} (sound : Sound state)
    (new : NewGroups state (.create request id)) (kept : KeepsSynced state (.create request id)) :
    Sound (createSecurityGroup state request id) := by
  constructor
  · exact distinct_snoc sound.ids fun group member => (new group member).1
  · exact distinct_snoc sound.names fun group member => (new group member).2
  · intro pgName acls present
    obtain ⟨group, member, same⟩ := sound.owned pgName acls present
    exact ⟨group, List.mem_append_left _ member, same⟩
  · intro group member acls present
    rcases List.mem_append.mp member with old | last
    · apply kept_follows state sound kept rfl _ old present
      intro same
      exact (new group old).1 (Option.some.inj same).symm
    · -- Nothing was synced under the new name.
      obtain ⟨other, there, same⟩ := sound.owned _ acls present
      rw [List.mem_singleton.mp last] at same
      exact absurd (port_group_name_inj same) (new other there).2

theorem add_rule_sound {sgID : String} {id : String}
    (sound : Sound state) : Sound (addSecurityGroupRule state sgID rule id) := by
  have kept : KeepsSynced state (.addRule sgID rule id) := fun _ _ hit => by contradiction
  -- The groups that the request is not about.
  have others : ∀ group ∈ state.groups, group.id ≠ sgID → ∀ acls,
      state.ovn ("pg-" ++ group.name) = some acls →
      acls = compileGroup (rulesOf (addSecurityGroupRule state sgID rule id).rules group.id) := by
    intro group member away acls present
    apply kept_follows state sound kept rfl _ member present
    intro same
    exact away (Option.some.inj same).symm
  unfold addSecurityGroupRule syncSecurityGroup at *
  dsimp only at *
  cases found : state.groups.find? (·.id == sgID) with
  | none =>
    simp only [found] at others ⊢
    refine ⟨sound.ids, sound.names, sound.owned, ?_⟩
    intro group member
    have away : group.id ≠ sgID := by simpa using List.find?_eq_none.mp found group member
    exact others group member away
  | some target =>
    simp only [found, set_port_group_acls] at others ⊢
    have there := List.mem_of_find?_eq_some found
    have same : target.id = sgID := by simpa using List.find?_some found
    refine ⟨sound.ids, sound.names, ?_, ?_⟩
    · intro pgName acls present
      by_cases hit : pgName = "pg-" ++ target.name
      · exact ⟨target, there, hit.symm⟩
      · simp only [setGroup, hit, ↓reduceIte] at present
        exact sound.owned pgName acls present
    · intro group member acls present
      by_cases hit : group.id = sgID
      · cases List.inj_on_of_nodup_map sound.ids member there (hit.trans same.symm)
        simp only [setGroup, ↓reduceIte, Option.some.injEq] at present
        exact present.symm
      · have apart : "pg-" ++ group.name ≠ "pg-" ++ target.name := by
          intro shared
          apply hit
          rw [List.inj_on_of_nodup_map sound.names member there (port_group_name_inj shared)]
          exact same
        simp only [setGroup, apart, ↓reduceIte] at present
        exact others group member hit acls present

theorem remove_rule_sound {ruleID : String} (sound : Sound state)
    (kept : KeepsSynced state (.removeRule ruleID)) :
    Sound (removeSecurityGroupRule state ruleID) := by
  refine ⟨sound.ids, sound.names, sound.owned, ?_⟩
  intro group member acls present
  exact kept_follows state sound kept rfl (by simp [target]) member present

theorem step_sound (action : Action) (next : State) (sound : Sound state)
    (new : NewGroups state action) (kept : KeepsSynced state action)
    (taken : step state action = some next) : Sound next := by
  cases action with
  | create request id =>
    cases taken
    exact create_sound state sound new kept
  | addRule sgID rule id =>
    cases taken
    exact add_rule_sound state sound
  | removeRule ruleID =>
    cases taken
    exact remove_rule_sound state sound kept

theorem lost_rule_breaks (follows : Follows state) (taken : step state action = some next)
    (apart : target action ≠ some group.id) (stored : rule ∈ state.rules)
    (hit : rule.id ∈ takenIDs action) (owner : group.id = rule.securityGroupID)
    (before : group ∈ state.groups) (after : group ∈ next.groups)
    (synced : (state.ovn ("pg-" ++ group.name)).isSome) (unsynced : next.ovn = state.ovn) :
    ¬ Follows next := by
  intro still
  obtain ⟨acls, present⟩ := Option.isSome_iff_exists.mp synced
  have old := follows group before acls present
  rw [← unsynced] at present
  have new := still group after acls present
  rw [step_rules_of state taken apart] at new
  have shorter : ((rulesOf state.rules group.id).filter fun row => row.id ∉ takenIDs action).length <
      (rulesOf state.rules group.id).length := by
    apply List.length_filter_lt_length_iff_exists.mpr
    exact ⟨rule, List.mem_filter.mpr ⟨stored, by simp [owner]⟩, by simpa using hit⟩
  have lengths := congrArg List.length (old.symm.trans new)
  simp only [compileGroup, List.length_append, List.length_map] at lengths
  omega

theorem unguarded_breaks (action : Action) (sound : Sound state) (new : NewGroups state action)
    (loses : ¬ KeepsSynced state action) :
    ∃ next, step state action = some next ∧ ¬ Follows next := by
  unfold KeepsSynced at loses
  push Not at loses
  obtain ⟨rule, stored, hit, group, member, owner, synced⟩ := loses
  cases action with
  | create request id =>
    refine ⟨_, rfl, lost_rule_breaks state sound.follows rfl ?_ stored hit owner
      member (List.mem_append_left _ member) synced rfl⟩
    intro same
    exact (new group member).1 (Option.some.inj same).symm
  | addRule sgID added id => contradiction
  | removeRule ruleID =>
    exact ⟨_, rfl, lost_rule_breaks state sound.follows rfl
      (by simp [target]) stored hit owner member member synced rfl⟩

theorem port_groups_follow_iff (actions : List Action)
    (new : Guarded step NewGroups {} actions) :
    Always step Follows {} actions ↔ Guarded step KeepsSynced {} actions :=
  always_iff_guarded_assuming (fun _ sound => sound.follows)
    step_sound unguarded_breaks {}
    ⟨List.nodup_nil, List.nodup_nil, fun _ _ present => by contradiction,
      fun _ member => by contradiction⟩ new

def sshRule : SecurityGroupRule where
  direction := "ingress"
  etherType := "IPv4"
  protocol := "tcp"
  portRangeMin := 22
  portRangeMax := 22
  remoteIPPrefix := "10.0.0.0/8"

/-- A rule may leave a group that was never synced. -/
theorem unsynced_removal_followed :
    (Guarded step NewGroups {}
        [.create {name := "web", rules := [{sshRule with id := "rule-1"}]} "sg-1", .removeRule "rule-1",
          .addRule "sg-1" sshRule "rule-2"] ∧
      Guarded step KeepsSynced {}
        [.create {name := "web", rules := [{sshRule with id := "rule-1"}]} "sg-1", .removeRule "rule-1",
          .addRule "sg-1" sshRule "rule-2"]) ∧
      Always step Follows {}
        [.create {name := "web", rules := [{sshRule with id := "rule-1"}]} "sg-1", .removeRule "rule-1",
          .addRule "sg-1" sshRule "rule-2"] :=
  ⟨⟨by decide, by decide⟩, (port_groups_follow_iff _ (by decide)).mpr (by decide)⟩

/-- The revoked rule stays in force. -/
theorem revoked_rule_enforced :
    Guarded step NewGroups {}
        [.create {name := "web"} "sg-1", .addRule "sg-1" sshRule "rule-1", .removeRule "rule-1"] ∧
      ¬ Always step Follows {}
        [.create {name := "web"} "sg-1", .addRule "sg-1" sshRule "rule-1", .removeRule "rule-1"] := by
  refine ⟨by decide, fun always => ?_⟩
  have last := always_last _ _ always rfl
  have stale := last {id := "sg-1", name := "web"} (by decide) (compileGroup [sshRule]) (by decide)
  revert stale
  decide

end VcStack.SecurityGroups
