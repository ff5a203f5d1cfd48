import VcStack.NetworkPorts
import VcStack.Workflows

/-!
The workflow steps of internal/management/compute/workflow_steps.go, the
workflows that RegisterWorkflows of service.go puts together, and the goroutine
of deleteInstance (handler_instance.go). Calls to agents and to the storage
driver answer as the environment says; the database and JSON encoding succeed.
The fields of an instance that no step reads are left out.
-/

namespace VcStack.InstanceWorkflows

open Ipam NetworkPorts Workflows

structure Instance where
  id : Nat := 0
  name : String := ""
  uuid : String := ""
  rootDiskGB : Int := 0
  userID : Nat := 0
  projectID : Nat := 0
  hostID : String := ""
  ipAddress : String := ""
  rootRBDImage : String := ""
  /-- the UUIDs of Networks, which is not stored in the database -/
  networks : List String := []
  deriving DecidableEq

structure Volume where
  name : String
  sizeGB : Int
  rbdPool : String
  rbdImage : String
  userID : Nat
  projectID : Nat
  status : String
  bootable : Bool

structure Codec where
  encode : Instance → String
  decode : String → Except String Instance

structure Environment where
  /-- `resolveNodeAddress`, empty for an unknown host -/
  resolve : String → String
  /-- the error of the call with that number to an agent or to the storage driver -/
  reply : Nat → Option String
  /-- the random bytes of the allocation with that number -/
  draw : Nat → Nat

structure World where
  network : Database
  volumes : List Volume := []
  calls : Nat := 0

section Steps

variable (env : Environment) (codec : Codec)

def call (world : World) (payload : String) : Effect World where
  world := {world with calls := world.calls + 1}
  payload := payload
  error := env.reply world.calls

def stepAllocateIP : Step World where
  name := "AllocateIP"
  execute world task :=
    match codec.decode task.payload with
    | .error error =>
      {world := world, payload := task.payload, error := some ("invalid task payload: " ++ error)}
    | .ok inst =>
      if inst.ipAddress ≠ "" then {world := world, payload := task.payload}
      else
        let networkID := inst.networks.head?.getD "default"
        match allocateIP world.network inst.uuid networkID (env.draw world.calls) with
        | .error error =>
          {world := world, payload := task.payload
           error := some ("failed to allocate IP: " ++ error)}
        | .ok (ip, network) =>
          {world := {world with network := network, calls := world.calls + 1}
           payload := codec.encode {inst with ipAddress := ip}}
  compensate world task :=
    {world := {world with network := releaseIP world.network task.resourceUUID}
     payload := task.payload}

def stepCreateVolume : Step World where
  name := "CreateVolume"
  execute world task :=
    match codec.decode task.payload with
    | .error error => {world := world, payload := task.payload, error := some error}
    | .ok inst =>
      let vol : Volume := {
        name := inst.name ++ "-root"
        sizeGB := inst.rootDiskGB
        rbdPool := "vcstack-volumes"
        rbdImage := "vol-" ++ inst.uuid
        userID := inst.userID
        projectID := inst.projectID
        status := "creating"
        bootable := true }
      -- The row is created before the driver is called.
      let called := call env {world with volumes := world.volumes ++ [vol]} task.payload
      match called.error with
      | some error => {called with error := some ("failed to create volume: " ++ error)}
      | none => {called with
          payload := codec.encode {inst with rootRBDImage := vol.rbdPool ++ "/" ++ vol.rbdImage}}
  compensate world task := {world := world, payload := task.payload}

def stepStartInstance : Step World where
  name := "StartInstance"
  execute world task :=
    match codec.decode task.payload with
    | .error error => {world := world, payload := task.payload, error := some error}
    | .ok inst =>
      if env.resolve inst.hostID = "" then
        {world := world, payload := task.payload
         error := some ("could not resolve address for host: " ++ inst.hostID)}
      else call env world task.payload
  compensate world task :=
    let inst : Instance := match codec.decode task.payload with
      | .error _ => {}
      | .ok inst => inst
    if env.resolve inst.hostID = "" then {world := world, payload := task.payload}
    else call env world task.payload

def haltStep (name : String) : Step World where
  name := name
  execute world task :=
    match codec.decode task.payload with
    | .error error => {world := world, payload := task.payload, error := some error}
    | .ok inst =>
      if env.resolve inst.hostID = "" then
        {world := world, payload := task.payload, error := some "host unreachable"}
      else call env world task.payload
  compensate world task := {world := world, payload := task.payload}

def stepStopInstance : Step World := haltStep env codec "StopInstance"

def stepDeleteInstance : Step World := haltStep env codec "DeleteInstance"

def createSteps : List (Step World) :=
  [stepAllocateIP env codec, stepCreateVolume env codec, stepStartInstance env codec]

def stopSteps : List (Step World) := [stepStopInstance env codec]

def deleteSteps : List (Step World) :=
  [stepStopInstance env codec, stepDeleteInstance env codec, stepAllocateIP env codec]

def registry : String → Option (List (Step World))
  | "instance.create" => some (createSteps env codec)
  | "instance.stop" => some (stopSteps env codec)
  | "instance.delete" => some (deleteSteps env codec)
  | _ => none

structure Deletion where
  world : World
  task : Task
  instances : List Instance

def deletionTask (inst : Instance) : Task where
  type := "instance.delete"
  resourceUUID := inst.uuid
  payload := codec.encode inst

/-- `none` if the goroutine panics. The answer of RunByType is not read. -/
def deleteInstance (instances : List Instance) (world : World) (inst : Instance) : Option Deletion :=
  (runByType (registry env codec) world (deletionTask codec inst)).map fun ran =>
    {world := ran.1, task := ran.2.1, instances := instances.filter (·.id != inst.id)}

/-- The row is removed only by a completed workflow, and a completed workflow
leaves no new allocation for the instance. -/
structure Kept (instances : List Instance) (world : World) (inst : Instance) (deletion : Deletion) :
    Prop where
  removed : inst ∈ instances → inst ∉ deletion.instances → deletion.task.status = .completed
  released : deletion.task.status = .completed →
    ∀ row ∈ deletion.world.network.allocations, row.portID = inst.uuid →
      row ∈ world.network.allocations

variable {env codec}

theorem halt_continues {steps rest : List (Step World)} {name : String} {world : World} {task : Task}
    {inst : Instance} (payload : codec.decode task.payload = .ok inst)
    (reachable : env.resolve inst.hostID ≠ "") (answered : env.reply world.calls = none) :
    runSteps steps (haltStep env codec name :: rest) world task =
      runSteps steps rest {world with calls := world.calls + 1}
        {task with currentStep := task.currentStep + 1} := by
  have executed : (haltStep env codec name).execute world task =
      {world := {world with calls := world.calls + 1}, payload := task.payload} := by
    simp [haltStep, payload, reachable, call, answered]
  rw [run_steps_succeeded]
  · rw [executed]
  · rw [executed]

theorem halt_rolls_back {steps rest : List (Step World)} {name : String} {world : World}
    {task : Task} {inst : Instance} (payload : codec.decode task.payload = .ok inst)
    (fails : ¬ (env.resolve inst.hostID ≠ "" ∧ env.reply world.calls = none))
    (inside : task.currentStep < steps.length) :
    ∃ after ended answer,
      runSteps steps (haltStep env codec name :: rest) world task = some (after, ended, answer) ∧
        ended.status = .rolledBack := by
  by_cases reachable : env.resolve inst.hostID = ""
  · apply run_steps_failed steps "host unreachable" _ inside
    simp [haltStep, payload, reachable]
  · obtain ⟨error, answered⟩ := Option.ne_none_iff_exists'.mp fun none => fails ⟨reachable, none⟩
    apply run_steps_failed steps error _ inside
    simp [haltStep, payload, reachable, call, answered]

def startedTask (codec : Codec) (inst : Instance) : Task :=
  {deletionTask codec inst with status := .running}

theorem delete_runs {world : World} {inst : Instance} :
    runByType (registry env codec) world (deletionTask codec inst) =
      runSteps (deleteSteps env codec) (deleteSteps env codec) world (startedTask codec inst) := rfl

section Outcomes

variable {instances : List Instance} {world : World} {inst : Instance}

theorem rolled_back_unkept (stored : inst ∈ instances)
    (rolled : ∃ after ended answer,
      runByType (registry env codec) world (deletionTask codec inst) = some (after, ended, answer) ∧
        ended.status = .rolledBack) :
    ¬ ∃ deletion, deleteInstance env codec instances world inst = some deletion ∧
      Kept instances world inst deletion := by
  rintro ⟨deletion, deleted, kept⟩
  obtain ⟨after, ended, answer, ran, status⟩ := rolled
  rw [deleteInstance, ran] at deleted
  cases deleted
  have completed := kept.removed stored (by simp)
  rw [status] at completed
  contradiction

theorem halted_runs (readable : codec.decode (codec.encode inst) = .ok inst)
    (reachable : env.resolve inst.hostID ≠ "") (first : env.reply world.calls = none)
    (second : env.reply (world.calls + 1) = none) :
    runByType (registry env codec) world (deletionTask codec inst) =
      runSteps (deleteSteps env codec) [stepAllocateIP env codec]
        {world with calls := world.calls + 2} {startedTask codec inst with currentStep := 2} := by
  rw [delete_runs]
  calc runSteps (deleteSteps env codec) (deleteSteps env codec) world (startedTask codec inst)
      = runSteps (deleteSteps env codec) [stepDeleteInstance env codec, stepAllocateIP env codec]
          {world with calls := world.calls + 1} {startedTask codec inst with currentStep := 1} :=
        halt_continues readable reachable first
    _ = runSteps (deleteSteps env codec) [stepAllocateIP env codec]
          {world with calls := world.calls + 2} {startedTask codec inst with currentStep := 2} :=
        halt_continues readable reachable second

theorem unhalted_rolls_back (readable : codec.decode (codec.encode inst) = .ok inst)
    (fails : ¬ (env.resolve inst.hostID ≠ "" ∧ env.reply world.calls = none ∧
      env.reply (world.calls + 1) = none)) :
    ∃ after ended answer,
      runByType (registry env codec) world (deletionTask codec inst) = some (after, ended, answer) ∧
        ended.status = .rolledBack := by
  rw [delete_runs, deleteSteps]
  by_cases stops : env.resolve inst.hostID ≠ "" ∧ env.reply world.calls = none
  · obtain ⟨reachable, first⟩ := stops
    rw [stepStopInstance, halt_continues readable reachable first]
    apply halt_rolls_back readable
    · exact fun second => fails ⟨reachable, first, second.2⟩
    · simp [startedTask, deletionTask]
  · exact halt_rolls_back readable stops (by simp [startedTask, deletionTask])

theorem allocation_completes (world after : World) (payload : String)
    (executed : (stepAllocateIP env codec).execute world
      {startedTask codec inst with currentStep := 2} = {world := after, payload := payload}) :
    runSteps (deleteSteps env codec) [stepAllocateIP env codec] world
        {startedTask codec inst with currentStep := 2} =
      some (after, {startedTask codec inst with
        status := .completed, currentStep := 3, payload := payload}, none) := by
  rw [run_steps_succeeded]
  · rw [executed]
    rfl
  · rw [executed]

theorem addressed_kept (readable : codec.decode (codec.encode inst) = .ok inst)
    (reachable : env.resolve inst.hostID ≠ "") (first : env.reply world.calls = none)
    (second : env.reply (world.calls + 1) = none) (addressed : inst.ipAddress ≠ "") :
    ∃ deletion, deleteInstance env codec instances world inst = some deletion ∧
      Kept instances world inst deletion := by
  have payload : (startedTask codec inst).payload = codec.encode inst := rfl
  have ran := halted_runs readable reachable first second
  rw [allocation_completes _ {world with calls := world.calls + 2} (codec.encode inst)] at ran
  · refine ⟨_, by rw [deleteInstance, ran]; rfl, fun _ _ => rfl, ?_⟩
    exact fun _ row member _ => member
  · simp [stepAllocateIP, payload, readable, addressed]

theorem unaddressed_unkept (readable : codec.decode (codec.encode inst) = .ok inst)
    (stored : inst ∈ instances) (reachable : env.resolve inst.hostID ≠ "")
    (first : env.reply world.calls = none) (second : env.reply (world.calls + 1) = none)
    (unaddressed : inst.ipAddress = "") :
    ¬ ∃ deletion, deleteInstance env codec instances world inst = some deletion ∧
      Kept instances world inst deletion := by
  have payload : (startedTask codec inst).payload = codec.encode inst := rfl
  have ran := halted_runs readable reachable first second
  cases answer : allocateIP world.network inst.uuid (inst.networks.head?.getD "default")
      (env.draw (world.calls + 2)) with
  | error error =>
    apply rolled_back_unkept stored
    rw [ran]
    apply run_steps_failed _ ("failed to allocate IP: " ++ error)
    · simp [stepAllocateIP, payload, readable, unaddressed, answer]
    · simp [deleteSteps]
  | ok result =>
    obtain ⟨ip, network⟩ := result
    rw [allocation_completes _ {world with network := network, calls := world.calls + 3}
      (codec.encode {inst with ipAddress := ip})] at ran
    · rintro ⟨deletion, deleted, kept⟩
      rw [deleteInstance, ran] at deleted
      cases deleted
      obtain ⟨subnet, _, free, shape⟩ := (allocate_ip_ok_iff _).mp answer
      have old := kept.released rfl {subnetID := subnet.id, ip := ip, portID := inst.uuid}
        (by simp [shape]) rfl
      have held := allocated_iff.mpr ⟨_, old, rfl, rfl⟩
      rw [first_free_address_untaken free] at held
      contradiction
    · simp [stepAllocateIP, payload, readable, unaddressed, answer]

end Outcomes

end Steps

theorem deletion_kept_iff (env : Environment) (codec : Codec) (instances : List Instance)
    (world : World) (inst : Instance) (readable : codec.decode (codec.encode inst) = .ok inst)
    (stored : inst ∈ instances) :
    (∃ deletion, deleteInstance env codec instances world inst = some deletion ∧
        Kept instances world inst deletion) ↔
      env.resolve inst.hostID ≠ "" ∧ env.reply world.calls = none ∧
        env.reply (world.calls + 1) = none ∧ inst.ipAddress ≠ "" := by
  by_cases halts : env.resolve inst.hostID ≠ "" ∧ env.reply world.calls = none ∧
      env.reply (world.calls + 1) = none
  · obtain ⟨reachable, first, second⟩ := halts
    by_cases addressed : inst.ipAddress = ""
    · apply iff_of_false (unaddressed_unkept readable stored reachable first second addressed)
      rintro ⟨_, _, _, present⟩
      exact present addressed
    · exact iff_of_true (addressed_kept readable reachable first second addressed)
        ⟨reachable, first, second, addressed⟩
  · apply iff_of_false (rolled_back_unkept stored (unhalted_rolls_back readable halts))
    rintro ⟨reachable, first, second, _⟩
    exact halts ⟨reachable, first, second⟩

def webServer (ipAddress : String) : Instance where
  id := 7
  name := "web"
  uuid := "vm-7"
  hostID := "node-1"
  ipAddress := ipAddress

def webServerCodec (ipAddress : String) : Codec where
  encode inst := "\x7b\"id\":7,\"name\":\"web\",\"uuid\":\"vm-7\",\"host_id\":\"node-1\"," ++
    "\"ip_address\":\"" ++ inst.ipAddress ++ "\",\"networks\":null\x7d"
  decode text :=
    if text = "\x7b\"id\":7,\"name\":\"web\",\"uuid\":\"vm-7\",\"host_id\":\"node-1\"," ++
      "\"ip_address\":\"" ++ ipAddress ++ "\",\"networks\":null\x7d"
    then .ok (webServer ipAddress)
    else .error "unexpected end of JSON input"

def oneNode (reply : Nat → Option String) : Environment where
  resolve hostID := if hostID = "node-1" then "http://10.0.0.1:8081" else ""
  reply := reply
  draw _ := 0

def emptyNetwork : World where
  network := {
    subnets := {
      rows := [{id := "subnet-1", networkID := "default", cidr := "192.168.1.0/30"}]
      distinct := by decide } }

/-- A machine with an address on a node that answers. -/
theorem addressed_deletion_kept :
    ∃ deletion, deleteInstance (oneNode fun _ => none) (webServerCodec "192.168.1.2")
        [webServer "192.168.1.2"] emptyNetwork (webServer "192.168.1.2") = some deletion ∧
      Kept [webServer "192.168.1.2"] emptyNetwork (webServer "192.168.1.2") deletion :=
  (deletion_kept_iff (oneNode fun _ => none) (webServerCodec "192.168.1.2") [webServer "192.168.1.2"]
    emptyNetwork (webServer "192.168.1.2") (by decide) (by simp)).mpr (by decide)

/-- The row is lost when the agent refuses, and a machine without an address
leaves an allocation behind. -/
theorem deletion_lost :
    (¬ ∃ deletion, deleteInstance (oneNode fun _ => some "agent error: 500 Internal Server Error")
        (webServerCodec "192.168.1.2") [webServer "192.168.1.2"] emptyNetwork
        (webServer "192.168.1.2") = some deletion ∧
      Kept [webServer "192.168.1.2"] emptyNetwork (webServer "192.168.1.2") deletion) ∧
    ¬ ∃ deletion, deleteInstance (oneNode fun _ => none) (webServerCodec "") [webServer ""]
        emptyNetwork (webServer "") = some deletion ∧
      Kept [webServer ""] emptyNetwork (webServer "") deletion :=
  ⟨rolled_back_unkept (by simp) (unhalted_rolls_back (by decide) (by decide)),
    unaddressed_unkept (by decide) (by simp) (by decide) rfl rfl rfl⟩

end VcStack.InstanceWorkflows
