import VcStack.NetworkPorts
import VcStack.SecurityGroups

/-!
The ports of the OVN port groups: createPort puts a new port into the port group
of each of its security groups, and deletePort takes it out by deleting the
logical port. All commands succeed, `pg-set-ports` on any group name included:
it sets the group's ports to exactly the given ones.
-/

namespace VcStack.PortGroupMembers

open Runs NetworkPorts SecurityGroups

abbrev Members := String → List String

def pgSetPorts (members : Members) (pgName : String) (portIDs : List String) : Members :=
  fun other => if other = pgName then portIDs else members other

def addPortToPortGroup (members : Members) (portID groupName : String) : Members :=
  pgSetPorts members ("pg-" ++ groupName) [portID]

def lspDel (members : Members) (portID : String) : Members :=
  fun pgName => (members pgName).filter (· ≠ portID)

structure State where
  db : Database
  security : SecurityGroups.State := {}
  members : Members := fun _ => []

def findGroup (groups : List SecurityGroup) (id : String) : Option SecurityGroup :=
  groups.find? (·.id == id)

def syncMembership (groups : List SecurityGroup) (portID : String) (members : Members)
    (sgIDs : List String) : Members :=
  sgIDs.foldl (fun members sgID =>
    match findGroup groups sgID with
    | none => members
    | some sg => addPortToPortGroup members portID sg.name) members

inductive Action where
  | createSecurityGroup (request : GroupRequest) (id : String)
  | createPort (request : PortRequest) (drawn : Drawn)
  | deletePort (id : String)

def step (state : State) : Action → Option State
  | .createSecurityGroup request id =>
    some {state with security := createSecurityGroup state.security request id}
  | .createPort request drawn =>
    match createPort state.db request drawn with
    | .error _ => some state
    | .ok (db, port) =>
      some {state with
        db := db,
        members := syncMembership state.security.groups port.id state.members
          request.securityGroups}
  | .deletePort id =>
    match state.db.ports.find? (·.id == id) with
    | none => some state
    | some port =>
      some {state with
        db := deletePort state.db id, members := lspDel state.members port.id}

def portGroups (groups : List SecurityGroup) (sgIDs : List String) : List String :=
  sgIDs.filterMap fun sgID => (findGroup groups sgID).map fun sg => "pg-" ++ sg.name

def Assumed (state : State) : Action → Prop
  | .createSecurityGroup _ id => ∀ group ∈ state.security.groups, group.id ≠ id
  | .createPort request drawn =>
    (∀ port ∈ state.db.ports, port.id ≠ drawn.portID) ∧
      ∀ sgID ∈ request.securityGroups, (findGroup state.security.groups sgID).isSome
  | .deletePort _ => True

def Protected (state : State) : Prop :=
  ∀ port ∈ state.db.ports, ∀ pgName ∈ portGroups state.security.groups port.securityGroups,
    port.id ∈ state.members pgName

def Accepted (state : State) (request : PortRequest) (drawn : Drawn) : Prop :=
  (createPort state.db request drawn).isOk = true

def Unshared (state : State) : Action → Prop
  | .createPort request drawn => Accepted state request drawn →
      ∀ pgName ∈ portGroups state.security.groups request.securityGroups,
        ∀ port ∈ state.db.ports, pgName ∉ portGroups state.security.groups port.securityGroups
  | _ => True

instance (state : State) : (action : Action) → Decidable (Assumed state action)
  | .createSecurityGroup _ _ => inferInstanceAs (Decidable (∀ group ∈ _, _))
  | .createPort _ _ => inferInstanceAs (Decidable (_ ∧ _))
  | .deletePort _ => inferInstanceAs (Decidable True)

instance (state : State) : (action : Action) → Decidable (Unshared state action)
  | .createPort _ _ => inferInstanceAs (Decidable (_ = true → _))
  | .createSecurityGroup _ _ | .deletePort _ => inferInstanceAs (Decidable True)

instance (state : State) : Decidable (Protected state) :=
  inferInstanceAs (Decidable (∀ port ∈ state.db.ports, _))

variable {groups : List SecurityGroup} {port : NetworkPort}

theorem sync_membership_eq {portID : String} (members : Members)
    {sgIDs : List String} {pgName : String} :
    syncMembership groups portID members sgIDs pgName =
      if pgName ∈ portGroups groups sgIDs then [portID] else members pgName := by
  induction sgIDs generalizing members with
  | nil => simp [syncMembership, portGroups]
  | cons sgID rest ih =>
    have onward := ih (match findGroup groups sgID with
      | none => members
      | some sg => addPortToPortGroup members portID sg.name)
    rw [syncMembership, List.foldl_cons]
    rw [syncMembership] at onward
    rw [onward]
    cases found : findGroup groups sgID with
    | none => simp [portGroups, found]
    | some sg =>
      have more : portGroups groups (sgID :: rest) =
          ("pg-" ++ sg.name) :: portGroups groups rest := by
        simp [portGroups, found]
      simp only [more, List.mem_cons, addPortToPortGroup, pgSetPorts]
      by_cases same : pgName = "pg-" ++ sg.name
      · simp [same]
      · simp [same]

theorem find_group_more {group : SecurityGroup} {sgID : String}
    (there : (findGroup groups sgID).isSome) :
    findGroup (groups ++ [group]) sgID = findGroup groups sgID := by
  obtain ⟨first, found⟩ := Option.isSome_iff_exists.mp there
  unfold findGroup at found ⊢
  rw [List.find?_append, found]
  rfl

theorem port_groups_more {group : SecurityGroup}
    {sgIDs : List String} (there : ∀ sgID ∈ sgIDs, (findGroup groups sgID).isSome) :
    portGroups (groups ++ [group]) sgIDs = portGroups groups sgIDs := by
  apply List.filterMap_congr
  intro sgID member
  rw [find_group_more (there sgID member)]

structure Kept (state : State) : Prop where
  members : Protected state
  existing : ∀ port ∈ state.db.ports, ∀ sgID ∈ port.securityGroups,
    (findGroup state.security.groups sgID).isSome

theorem create_port_ports {db after : Database} {request : PortRequest} {drawn : Drawn}
    (created : createPort db request drawn = .ok (after, port)) :
    port.id = drawn.portID ∧ port.securityGroups = request.securityGroups ∧
      ∀ other, other ∈ after.ports ↔ other = port ∨ other ∈ db.ports := by
  unfold createPort at created
  split at created
  · contradiction
  · dsimp only at created
    split at created
    · contradiction
    · cases created
      refine ⟨rfl, rfl, fun other => ?_⟩
      simp [insertPort]

theorem delete_port_ports {db : Database} {id : String} {other : NetworkPort}
    (found : db.ports.find? (·.id == id) = some port)
    (member : other ∈ (deletePort db id).ports) : other ∈ db.ports ∧ other.id ≠ port.id := by
  rw [deletePort, found] at member
  obtain ⟨listed, apart⟩ := List.mem_filter.mp member
  exact ⟨listed, by simpa using apart⟩

theorem create_port_kept {state : State} {request : PortRequest} {drawn : Drawn}
    {after : Database} (kept : Kept state)
    (assumed : Assumed state (.createPort request drawn))
    (unshared : Unshared state (.createPort request drawn))
    (created : createPort state.db request drawn = .ok (after, port)) :
    Kept {state with
      db := after,
      members := syncMembership state.security.groups port.id state.members
        request.securityGroups} := by
  obtain ⟨identified, grouped, ports⟩ := create_port_ports created
  have accepted : Accepted state request drawn := by
    rw [Accepted, created]
    rfl
  constructor
  · intro other member pgName listed
    simp only [sync_membership_eq]
    rcases (ports other).mp member with rfl | old
    · dsimp only at listed
      rw [grouped] at listed
      simp [listed]
    · -- An older port is in none of the groups that were set.
      have apart : pgName ∉ portGroups state.security.groups request.securityGroups := by
        intro joined
        exact unshared accepted pgName joined other old listed
      rw [if_neg apart]
      exact kept.members other old pgName listed
  · intro other member sgID listed
    rcases (ports other).mp member with rfl | old
    · exact assumed.2 sgID (grouped ▸ listed)
    · exact kept.existing other old sgID listed

theorem step_kept (state : State) (action : Action) (next : State) (kept : Kept state)
    (assumed : Assumed state action) (unshared : Unshared state action)
    (taken : step state action = some next) : Kept next := by
  cases action with
  | createSecurityGroup request id =>
    cases taken
    constructor
    · intro port member pgName listed
      refine kept.members port member pgName ?_
      rw [← port_groups_more (kept.existing port member)]
      exact listed
    · intro port member sgID listed
      have there := kept.existing port member sgID listed
      exact (find_group_more there).symm ▸ there
  | createPort request drawn =>
    simp only [step] at taken
    split at taken
    · cases taken
      exact kept
    · rename_i after port created
      cases taken
      exact create_port_kept kept assumed unshared created
  | deletePort id =>
    simp only [step] at taken
    split at taken
    · cases taken
      exact kept
    · rename_i port found
      cases taken
      constructor
      · intro other member pgName listed
        obtain ⟨old, apart⟩ := delete_port_ports found member
        exact List.mem_filter.mpr ⟨kept.members other old pgName listed, decide_eq_true apart⟩
      · intro other member
        exact kept.existing other (delete_port_ports found member).1

theorem shared_group_loses {state : State} {action : Action} (assumed : Assumed state action)
    (shared : ¬ Unshared state action) :
    ∃ next, step state action = some next ∧ ¬ Protected next := by
  cases action with
  | createSecurityGroup request id => exact absurd trivial shared
  | deletePort id => exact absurd trivial shared
  | createPort request drawn =>
    simp only [Unshared, not_forall, not_not] at shared
    obtain ⟨accepted, pgName, joined, other, old, listed⟩ := shared
    cases created : createPort state.db request drawn with
    | error refusal =>
      rw [Accepted, created] at accepted
      contradiction
    | ok answer =>
      obtain ⟨after, port⟩ := answer
      obtain ⟨identified, _, ports⟩ := create_port_ports created
      refine ⟨_, by simp only [step, created]; rfl, fun members => ?_⟩
      have inside := members other ((ports other).mpr (Or.inr old)) pgName listed
      simp only [sync_membership_eq, if_pos joined, List.mem_singleton] at inside
      exact assumed.1 other old (inside.trans identified)

/-- From an empty network, every port is in the port group of each of its
security groups after each request, exactly when no port is created in the port
group of another. -/
theorem ports_in_their_groups_iff (subnets : Ipam.Subnets) (actions : List Action)
    (assuming : Guarded step Assumed {db := {subnets := subnets}} actions) :
    Always step Protected {db := {subnets := subnets}} actions ↔
      Guarded step Unshared {db := {subnets := subnets}} actions :=
  always_iff_guarded_assuming (fun _ kept => kept.members)
    step_kept (fun _ _ _ => shared_group_loses) _
    ⟨fun _ member => absurd member List.not_mem_nil,
      fun _ member => absurd member List.not_mem_nil⟩ assuming

def webPort (deviceID portID : String) (draw : Nat) (sgIDs : List String) : Action :=
  .createPort {networkID := "net-1", deviceID := deviceID, securityGroups := sgIDs}
    {draw := draw, portID := portID, macAddress := "02:00:00:00:00:01"}

def webSubnets : Ipam.Subnets where
  rows := [{id := "subnet-1", networkID := "net-1", cidr := "192.168.1.0/29", gateway := "192.168.1.1"}]
  distinct := by decide

theorem separate_groups_kept :
    let actions := [.createSecurityGroup {name := "web"} "sg-1",
      .createSecurityGroup {name := "db"} "sg-2", webPort "vm-1" "port-1" 0 ["sg-1"],
      webPort "vm-2" "port-2" 1 ["sg-2"], .deletePort "port-1",
      webPort "vm-3" "port-3" 2 ["sg-1"]]
    Guarded step Unshared {db := {subnets := webSubnets}} actions ∧
      Always step Protected {db := {subnets := webSubnets}} actions := by
  intro actions
  have unshared : Guarded step Unshared {db := {subnets := webSubnets}} actions := by
    decide +kernel
  exact ⟨unshared, (ports_in_their_groups_iff webSubnets actions (by decide +kernel)).mpr unshared⟩

/-- The second port of a group leaves the first without its rules. -/
theorem second_port_displaces_first :
    ∃ last, run step {db := {subnets := webSubnets}}
        [.createSecurityGroup {name := "web"} "sg-1", webPort "vm-1" "port-1" 0 ["sg-1"],
          webPort "vm-2" "port-2" 1 ["sg-1"]] = some last ∧
      last.db.ports.map (fun port => (port.id, port.securityGroups)) =
        [("port-1", ["sg-1"]), ("port-2", ["sg-1"])] ∧
      last.members "pg-web" = ["port-2"] ∧ ¬ Protected last := by
  refine ⟨_, rfl, ?_⟩
  decide +kernel

end VcStack.PortGroupMembers
