import Mathlib.Algebra.Ring.Int.Defs
import VcStack.HostMonitors

/-!
The accounting of allocations. A host row carries what its instances are taken
to use of each resource; evacuations and the heartbeats of the agents write it.
-/

namespace VcStack.HostAllocations

open KeyedTables Runs HostEvacuation
open HostMonitors (HeartbeatRequest beat)

inductive Resource where
  | cpu | ram | disk
deriving DecidableEq, Repr

instance (property : Resource → Prop) [DecidablePred property] :
    Decidable (∀ resource, property resource) :=
  decidable_of_iff (property .cpu ∧ property .ram ∧ property .disk) (by
    constructor
    · rintro ⟨cpu, ram, disk⟩ (_ | _ | _)
      · exact cpu
      · exact ram
      · exact disk
    · intro all
      exact ⟨all .cpu, all .ram, all .disk⟩)

def capacity (host : Host) : Resource → Int
  | .cpu => host.cpuCores
  | .ram => host.ramMB
  | .disk => host.diskGB

def allocated (host : Host) : Resource → Int
  | .cpu => host.cpuAllocated
  | .ram => host.ramAllocatedMB
  | .disk => host.diskAllocatedGB

def need (fi : FlavorInfo) : Resource → Int
  | .cpu => fi.vcpus
  | .ram => fi.ramMB
  | .disk => fi.diskGB

def demand (inst : Instance) : Resource → Int
  | .cpu => inst.vcpus
  | .ram => inst.ramMB
  | .disk => inst.diskGB

def LivesOn (hostUUID : String) (inst : Instance) : Prop :=
  inst.hostID = hostUUID ∧ inst.deleted = false

instance (hostUUID : String) (inst : Instance) : Decidable (LivesOn hostUUID inst) := by
  unfold LivesOn
  infer_instance

def share (hostUUID : String) (resource : Resource) (inst : Instance) : Int :=
  if LivesOn hostUUID inst then demand inst resource else 0

def used (db : Database) (hostUUID : String) (resource : Resource) : Int :=
  (db.instances.rows.map (share hostUUID resource)).sum

def Accounted (db : Database) : Prop :=
  ∀ host ∈ db.hosts.rows, ∀ resource, allocated host resource = used db host.uuid resource

instance (db : Database) : Decidable (Accounted db) := by
  unfold Accounted
  infer_instance

theorem suitable_room {excludeHostUUID : String} {fi : FlavorInfo} {host : Host}
    (suitable : Suitable excludeHostUUID fi host) (resource : Resource)
    (needed : 0 < need fi resource) :
    allocated host resource + need fi resource ≤ capacity host resource := by
  obtain ⟨_, _, _, cpu, ram, disk⟩ := suitable
  cases resource with
  | cpu => exact Int.add_le_of_le_sub_left (cpu needed)
  | ram => exact Int.add_le_of_le_sub_left (ram needed)
  | disk => exact Int.add_le_of_le_sub_left (disk needed)

/-- The payload, which has no measured usage in it; an agent that is not
registered sends none. -/
def sendHeartbeat (uuid : String) : Option HeartbeatRequest :=
  if uuid = "" then none
  else some {uuid := uuid, cpuAllocated := 0, ramAllocatedMB := 0, diskAllocatedGB := 0}

variable {now : Int} {inst : Instance} {after : Database}

theorem beat_uuid {req : HeartbeatRequest} (host : Host) :
    (beat now req host).uuid = host.uuid := by
  unfold beat
  split <;> rfl

def heartbeat (db : Database) (now : Int) (req : HeartbeatRequest) : Database :=
  {db with hosts := db.hosts.update req.uuid (beat now req) beat_uuid}

inductive Action where
  | evacuate (env : Environment) (hostUUID hostName trigger : String)
  /-- Of the agent that registered under the identifier. -/
  | heartbeat (now : Int) (uuid : String)

def step (db : Database) : Action → Option Database
  | .evacuate env hostUUID hostName trigger =>
    some (evacuateHostInternal env db hostUUID hostName trigger).1
  | .heartbeat now uuid =>
    match sendHeartbeat uuid with
    | none => some db
    | some req => some (heartbeat db now req)

section Writes

variable (db : Database) (id : Nat) (destHost : Host) (hostUUID : String) (resource : Resource)

theorem flavor_nothing (found : db.instances.find id = some inst)
    (nothing : ∀ resource, demand inst resource = 0) : flavorInfo db id = {} := by
  have ram : inst.ramMB = 0 := nothing .ram
  have disk : inst.diskGB = 0 := nothing .disk
  rw [flavorInfo, found]
  dsimp only
  rw [ram, disk]

theorem flavor_sized (sizes : ∀ inst ∈ db.instances.rows, ∀ resource, 0 ≤ demand inst resource) :
    0 ≤ need (flavorInfo db id) resource := by
  cases found : db.instances.find id with
  | none =>
    rw [flavorInfo, found]
    cases resource <;> exact Int.le_refl 0
  | some inst =>
    have sized := sizes inst ((find_iff _).mp found).1 resource
    rw [flavorInfo, found]
    cases resource with
    | cpu => exact Int.le_refl 0
    | _ => exact sized

theorem flavor_update {change : Instance → Instance} (keeps : ∀ inst, (change inst).id = inst.id)
    (sizes : ∀ inst, (change inst).ramMB = inst.ramMB ∧ (change inst).diskGB = inst.diskGB)
    (other : Nat) :
    flavorInfo {db with instances := db.instances.update id change keeps} other =
      flavorInfo db other := by
  unfold flavorInfo
  dsimp only
  by_cases same : other = id
  · subst same
    rw [find_update_same]
    cases db.instances.find other with
    | none => rfl
    | some inst =>
      obtain ⟨ramMB, diskGB⟩ := sizes inst
      rw [Option.map_some]
      dsimp only
      rw [ramMB, diskGB]
  · rw [find_update_other _ _ _ _ same]

theorem flavor_mark {status : InstanceStatus} {powerState : PowerState} (other : Nat) :
    flavorInfo (markInstance db id status powerState) other = flavorInfo db other := by
  apply flavor_update
  intro inst
  exact ⟨rfl, rfl⟩

theorem flavor_move (other : Nat) :
    flavorInfo (moveInstance db id destHost) other = flavorInfo db other := by
  apply flavor_update
  intro inst
  exact ⟨rfl, rfl⟩

theorem used_mark {status : InstanceStatus} {powerState : PowerState} :
    used (markInstance db id status powerState) hostUUID resource = used db hostUUID resource := by
  unfold used markInstance
  rw [sum_update_same]
  intro inst
  cases resource <;> rfl

theorem used_move (found : db.instances.find id = some inst)
    (nothing : ∀ resource, demand inst resource = 0) :
    used (moveInstance db id destHost) hostUUID resource = used db hostUUID resource := by
  have moved := sum_update (share hostUUID resource)
    (fun inst => {inst with
      hostID := destHost.uuid, status := .rebuilding, powerState := .rebuilding})
    (fun _ => rfl) found
  have before : share hostUUID resource inst = 0 := by
    rw [share, nothing, ite_self]
  have after : share hostUUID resource {inst with
      hostID := destHost.uuid, status := .rebuilding, powerState := .rebuilding} = 0 := by
    have same : demand {inst with
        hostID := destHost.uuid, status := .rebuilding, powerState := .rebuilding} resource =
          demand inst resource := by
      cases resource <;> rfl
    rw [share, same, nothing, ite_self]
  rw [before, after, add_zero, add_zero] at moved
  exact moved

theorem allocate_nothing : allocate db destHost {} = db := by
  unfold allocate
  rw [update_unchanged]
  intro host
  simp only [add_zero]

end Writes

section Rounds

variable (env : Environment) (source : String)

inductive RoundWrites (db : Database) (target : EvacuationTarget) : Database → Prop
  | nothing : RoundWrites db target db
  | mark (status : InstanceStatus) :
      RoundWrites db target (markInstance db target.instanceID status .hostDown)
  | move (destHost : Host) (now : Int) (on : target.haEnabled = true)
      (chosen : findBestHost env db source target.instanceID = .ok destHost) :
      RoundWrites db target
        (countRestart (allocate (moveInstance db target.instanceID destHost) destHost
          (flavorInfo db target.instanceID)) target.instanceID now)

theorem round_writes (progress : Progress) (target : EvacuationTarget) :
    RoundWrites env source progress.db target (evacuateTarget env source progress target).db := by
  have round := round_cases env source progress target
  generalize evacuateTarget env source progress target = after at round
  cases round with
  | unprotected => exact .mark _
  | limited => exact .nothing
  | homeless => exact .mark _
  | unwritten => exact .nothing
  | moved destHost on _ chosen =>
    rw [flavor_move]
    exact .move destHost _ (Bool.not_eq_false _ ▸ on) chosen

variable {env source}

theorem writes_flavor {db : Database} {target : EvacuationTarget}
    (writes : RoundWrites env source db target after) {other : Nat} :
    flavorInfo after other = flavorInfo db other := by
  cases writes with
  | nothing => rfl
  | mark status => exact flavor_mark db target.instanceID other
  | move destHost now on chosen => exact flavor_move db target.instanceID destHost other

def Movable (db : Database) (source : String) (inst : Instance) : Prop :=
  (targetOf db inst).haEnabled = true ∧
    ∃ host ∈ db.hosts.rows, Suitable source (flavorInfo db inst.id) host

instance (db : Database) (source : String) (inst : Instance) :
    Decidable (Movable db source inst) :=
  inferInstanceAs (Decidable (_ ∧ _))

structure Unmoved (db after : Database) : Prop where
  hosts : after.hosts = db.hosts
  used : ∀ hostUUID resource, used after hostUUID resource = used db hostUUID resource
  flavors : ∀ id, flavorInfo after id = flavorInfo db id

theorem writes_unmoved {db before : Database} {target : EvacuationTarget}
    (writes : RoundWrites env source before target after) (unmoved : Unmoved db before)
    (found : before.instances.find target.instanceID = some inst)
    (named : target = targetOf db inst)
    (unladen : Movable db source inst → ∀ resource, demand inst resource = 0) :
    Unmoved db after := by
  have flavors (id : Nat) : flavorInfo after id = flavorInfo db id :=
    (writes_flavor writes).trans (unmoved.flavors id)
  cases writes with
  | nothing => exact unmoved
  | mark status =>
    refine ⟨unmoved.hosts, fun hostUUID resource => ?_, flavors⟩
    rw [used_mark, unmoved.used]
  | move destHost now on chosen =>
    obtain ⟨listed, suitable⟩ := best_host_suitable env source before chosen
    rw [unmoved.hosts] at listed
    rw [unmoved.flavors, named, target_of_id] at suitable
    have nothing := unladen ⟨named ▸ on, destHost, listed, suitable⟩
    rw [flavor_nothing before _ found nothing, allocate_nothing] at *
    refine ⟨unmoved.hosts, fun hostUUID resource => ?_, flavors⟩
    exact (used_move before _ destHost hostUUID resource found nothing).trans
      (unmoved.used hostUUID resource)

theorem rounds_unmoved {db : Database} (targets : List EvacuationTarget) (progress : Progress)
    (distinct : (targets.map EvacuationTarget.instanceID).Nodup)
    (unmoved : Unmoved db progress.db)
    (unladen : ∀ target ∈ targets, ∃ inst,
      progress.db.instances.find target.instanceID = some inst ∧ target = targetOf db inst ∧
        (Movable db source inst → ∀ resource, demand inst resource = 0)) :
    Unmoved db (targets.foldl (evacuateTarget env source) progress).db := by
  induction targets generalizing progress with
  | nil => exact unmoved
  | cons target rest ih =>
    obtain ⟨fresh, onward⟩ := List.nodup_cons.mp distinct
    obtain ⟨inst, found, named, nothing⟩ := unladen target List.mem_cons_self
    have writes := round_writes env source progress target
    refine ih _ onward (writes_unmoved writes unmoved found named nothing) ?_
    -- The instances of the later targets are as they were.
    intro other member
    have different : other.instanceID ≠ target.instanceID := by
      intro same
      exact fresh (same ▸ List.mem_map_of_mem member)
    have frame := round_frame env source progress target other.instanceID different
    rw [show (evacuateTarget env source progress target).db.instances.find other.instanceID =
      progress.db.instances.find other.instanceID from congrArg View.inst frame]
    exact unladen other (List.mem_cons_of_mem _ member)

end Rounds

section Whole

variable (env : Environment) (db : Database) (source hostName trigger : String)

theorem evacuation_progress :
    (evacuateHostInternal env db source hostName trigger).1 =
        (evacuateTargets env db source).db ∧
      (evacuateHostInternal env db source hostName trigger).2.instances =
        (evacuateTargets env db source).records := by
  unfold evacuateHostInternal
  dsimp only
  split_ifs with empty
  · rw [evacuateTargets, empty]
    exact ⟨rfl, rfl⟩
  · exact ⟨rfl, rfl⟩

def Unladen (db : Database) (source : String) : Prop :=
  ∀ inst ∈ db.instances.rows, RunsOn source inst → Movable db source inst →
    ∀ resource, demand inst resource = 0

instance : Decidable (Unladen db source) := by
  unfold Unladen
  infer_instance

theorem evacuation_accounted (accounted : Accounted db) (unladen : Unladen db source) :
    Accounted (evacuateHostInternal env db source hostName trigger).1 := by
  have unmoved : Unmoved db (evacuateHostInternal env db source hostName trigger).1 := by
    rw [(evacuation_progress env db source hostName trigger).1]
    refine rounds_unmoved _ {db := db} targets_distinct
      ⟨rfl, fun _ _ => rfl, fun _ => rfl⟩ fun target member => ?_
    obtain ⟨inst, listed, running, rfl⟩ := target_listed.mp member
    refine ⟨inst, ?_, rfl, unladen inst listed running⟩
    rw [target_of_id]
    exact find_of_mem db.instances inst listed
  intro host listed resource
  rw [unmoved.hosts] at listed
  rw [unmoved.used]
  exact accounted host listed resource

end Whole

theorem heartbeat_accounted {db : Database} {uuid : String} (accounted : Accounted db)
    (idle : ∀ host ∈ db.hosts.rows, host.uuid = uuid → ∀ resource, used db uuid resource = 0) :
    Accounted (heartbeat db now {uuid := uuid}) := by
  intro host listed resource
  change allocated host resource = used db host.uuid resource
  obtain ⟨before, member, rfl⟩ := List.mem_map.mp listed
  split_ifs with own
  · rw [beat_uuid, own, idle before member own]
    unfold beat
    split_ifs <;> cases resource <;> rfl
  · exact accounted before member resource

/-- An evacuation has no instance with resources that it may move, and the agent that
reports has no instance with resources on its host. -/
def Unburdened (db : Database) : Action → Prop
  | .evacuate _ hostUUID _ _ => Unladen db hostUUID
  | .heartbeat _ uuid => ∀ host ∈ db.hosts.rows, host.uuid = uuid → uuid ≠ "" →
      ∀ resource, used db uuid resource = 0

instance (db : Database) (action : Action) : Decidable (Unburdened db action) := by
  unfold Unburdened
  split <;> infer_instance

theorem step_accounted (db : Database) (action : Action) (next : Database)
    (accounted : Accounted db) (unburdened : Unburdened db action)
    (taken : step db action = some next) : Accounted next := by
  cases action with
  | evacuate env hostUUID hostName trigger =>
    cases taken
    exact evacuation_accounted env db hostUUID hostName trigger accounted unburdened
  | heartbeat now uuid =>
    by_cases unregistered : uuid = ""
    · rw [step, sendHeartbeat, if_pos unregistered] at taken
      cases taken
      exact accounted
    · rw [step, sendHeartbeat, if_neg unregistered] at taken
      cases taken
      exact heartbeat_accounted accounted fun host listed own =>
        unburdened host listed own unregistered

/-- From a table in which every host has allocated what its instances take, it
stays so as long as no evacuation and no heartbeat is burdened. -/
theorem unburdened_accounted (db : Database) (actions : List Action)
    (accounted : Accounted db) (guarded : Guarded step Unburdened db actions) :
    Always step Accounted db actions :=
  always_of_guarded (fun _ holds => holds) step_accounted db accounted guarded

def accountedDatabase (haEnabled : Bool) : Database where
  instances := Table.single
    {id := 1, name := "web", hostID := "a", status := .active, ramMB := 1024, diskGB := 20}
  hosts := {
    rows := [
      {uuid := "a", ramMB := 4096, diskGB := 100, ramAllocatedMB := 1024, diskAllocatedGB := 20},
      {uuid := "b", status := .up, resourceState := .enabled, ramMB := 4096, diskGB := 100}]
    distinct := by decide }
  configs := Table.single {instanceID := 1, haEnabled := haEnabled}
  policies := Table.single {id := 1}

/-- The instance is stopped where it is. -/
theorem unprotected_evacuation_accounted :
    Always step Accounted (accountedDatabase false)
      [.evacuate (environmentAt 0) "a" "a" "manual", .heartbeat 0 "b"] := by
  apply unburdened_accounted (accountedDatabase false) _ (by decide +kernel)
  decide +kernel

/-- The source keeps the allocation of an instance that was moved away, and the
heartbeat of a host with an instance on it clears its allocation. -/
theorem moved_instance_counted_twice :
    Accounted (accountedDatabase true) ∧
      (∃ after, step (accountedDatabase true) (.evacuate (environmentAt 0) "a" "a" "manual") =
          some after ∧ ¬ Accounted after ∧
        after.hosts.rows.map (fun host => (host.uuid, host.ramAllocatedMB)) =
          [("a", 1024), ("b", 1024)] ∧
        used after "a" .ram = 0 ∧ used after "b" .ram = 1024) ∧
      ∃ after, step (accountedDatabase true) (.heartbeat 0 "a") = some after ∧
        ¬ Accounted after ∧ used after "a" .ram = 1024 ∧
        after.hosts.rows.map (fun host => (host.uuid, host.ramAllocatedMB)) =
          [("a", 0), ("b", 0)] := by
  refine ⟨by decide +kernel, ⟨_, rfl, ?_⟩, _, rfl, ?_⟩
  · decide +kernel
  · decide +kernel

end VcStack.HostAllocations
