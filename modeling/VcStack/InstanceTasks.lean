import VcStack.InstanceWorkflows

/-!
The workflow tasks that createInstance, startInstance, stopInstance and
deleteInstance store and hand to a goroutine (handler_instance.go in
internal/management/compute): how each task ends, and what a creation that is
rolled back leaves of the instance.
-/

namespace VcStack.InstanceTasks

open Ipam NetworkPorts Workflows InstanceWorkflows

inductive Operation where
  | createInstance
  | startInstance
  | stopInstance
  | deleteInstance
  deriving DecidableEq

def Operation.taskType : Operation → String
  | .createInstance => "instance.create"
  | .startInstance => "instance.start"
  | .stopInstance => "instance.stop"
  | .deleteInstance => "instance.delete"

def operationTask (codec : Codec) (operation : Operation) (inst : Instance) : Task where
  type := operation.taskType
  resourceUUID := inst.uuid
  payload := codec.encode inst
  status := .pending

variable {task : Task}

section Endings

variable {World : Type}

def registerWorkflows (create stop delete : List (Step World)) : String → Option (List (Step World))
  | "instance.create" => some create
  | "instance.stop" => some stop
  | "instance.delete" => some delete
  | _ => none

def Settles (workflows : String → Option (List (Step World))) (world : World) (task : Task) : Prop :=
  ∃ after ended answer, runByType workflows world task = some (after, ended, answer) ∧
    (ended.status = .completed ∨ ended.status = .rolledBack)

theorem registered_settles {workflows : String → Option (List (Step World))}
    {steps : List (Step World)} {world : World} (fresh : task.currentStep = 0)
    (found : workflows task.type = some steps) : Settles workflows world task := by
  unfold Settles runByType
  rw [found]
  exact run_workflow_settles steps fresh

theorem unregistered_unsettled {workflows : String → Option (List (Step World))} {world : World}
    (pending : task.status = .pending) (missing : workflows task.type = none) :
    ¬ Settles workflows world task := by
  rintro ⟨after, ended, answer, ran, status⟩
  rw [runByType, missing] at ran
  cases ran
  rw [pending] at status
  rcases status with completed | rolled
  · contradiction
  · contradiction

/-- Whatever the steps do, the tasks of all operations but startInstance end. -/
theorem task_settles_iff (create stop delete : List (Step World)) (world : World) (codec : Codec)
    (operation : Operation) (inst : Instance) :
    Settles (registerWorkflows create stop delete) world (operationTask codec operation inst) ↔
      operation ≠ .startInstance := by
  cases operation with
  | createInstance =>
    exact iff_of_true (registered_settles rfl rfl) (by decide)
  | startInstance =>
    exact iff_of_false (unregistered_unsettled rfl rfl) (by decide)
  | stopInstance =>
    exact iff_of_true (registered_settles rfl rfl) (by decide)
  | deleteInstance =>
    exact iff_of_true (registered_settles rfl rfl) (by decide)

end Endings

/-- Starting a machine on a node that answers stores a task that stays pending. -/
theorem start_task_stays_pending :
    ∃ after ended answer,
      runByType (registry (oneNode fun _ => none) (webServerCodec "192.168.1.2")) emptyNetwork
        (operationTask (webServerCodec "192.168.1.2") .startInstance (webServer "192.168.1.2")) =
          some (after, ended, answer) ∧ ended.status = .pending ∧
      answer = some "no workflow registered for type: instance.start" :=
  ⟨_, _, _, rfl, rfl, by decide⟩

def allocationsOf (world : World) (uuid : String) : List IPAllocation :=
  world.network.allocations.filter fun row => row.portID == uuid

def volumesOf (world : World) (uuid : String) : List Volume :=
  world.volumes.filter fun volume => volume.rbdImage == "vol-" ++ uuid

structure NothingLeft (before after : World) (uuid : String) : Prop where
  addresses : allocationsOf after uuid = allocationsOf before uuid
  volumes : volumesOf after uuid = volumesOf before uuid

def NoAddress (world : World) (inst : Instance) (draw : Nat) : Prop :=
  ∀ subnet ip, world.network.subnets.byNetwork (inst.networks.head?.getD "default") = some subnet →
    ¬ FirstFreeAddress subnet (allocated world.network.allocations subnet.id) draw ip

def PortUnrelated (world : World) (uuid : String) : Prop :=
  ∀ port, devicePort world.network uuid = some port →
    ∀ row ∈ world.network.allocations, row.portID = uuid → ¬ Releases port row

section Creation

variable {env : Environment} {codec : Codec}

theorem compensations_keep_volumes {volumes : List Volume} :
    ∀ step ∈ createSteps env codec, ∀ (world : World) (task : Task), world.volumes = volumes →
      (step.compensate world task).world.volumes = volumes := by
  intro step member world task same
  simp only [createSteps, List.mem_cons, List.not_mem_nil, or_false] at member
  rcases member with rfl | rfl | rfl
  · exact same
  · exact same
  · simp only [stepStartInstance]
    split
    · split <;> exact same
    · split <;> exact same

theorem start_keeps_volumes {volumes : List Volume} (world : World) (task : Task)
    (same : world.volumes = volumes) :
    ((stepStartInstance env codec).execute world task).world.volumes = volumes := by
  simp only [stepStartInstance]
  split
  · exact same
  · split <;> exact same

variable (world : World) (inst : Instance)

theorem created_volume_stays {after : World} {ended : Task} {answer : Option String}
    {inst : Instance} (readable : codec.decode task.payload = .ok inst)
    (ran : runSteps (createSteps env codec) [stepCreateVolume env codec, stepStartInstance env codec]
      world task = some (after, ended, answer)) :
    ∃ volume : Volume, volume.rbdImage = "vol-" ++ inst.uuid ∧
      after.volumes = world.volumes ++ [volume] := by
  have created : ∃ volume : Volume, volume.rbdImage = "vol-" ++ inst.uuid ∧
      ((stepCreateVolume env codec).execute world task).world.volumes =
        world.volumes ++ [volume] := by
    simp only [stepCreateVolume, readable]
    split <;> exact ⟨_, rfl, rfl⟩
  obtain ⟨volume, image, added⟩ := created
  refine ⟨volume, image, ?_⟩
  rw [runSteps] at ran
  split at ran
  · exact rollback_keeps _ compensations_keep_volumes ran added
  · refine run_steps_keeps _ compensations_keep_volumes ?_ _
      _ _ _ ran added
    intro step member
    cases List.mem_singleton.mp member
    exact start_keeps_volumes

theorem added_volume_left {before after : World} {uuid : String} {volume : Volume}
    (image : volume.rbdImage = "vol-" ++ uuid)
    (added : after.volumes = before.volumes ++ [volume]) : ¬ NothingLeft before after uuid := by
  rintro ⟨_, same⟩
  have lengths := congrArg List.length same
  simp [volumesOf, added, List.filter_append, image] at lengths

theorem release_keeps_iff {uuid : String} :
    allocationsOf {world with network := releaseIP world.network uuid} uuid =
      allocationsOf world uuid ↔ PortUnrelated world uuid := by
  unfold allocationsOf releaseIP PortUnrelated
  cases devicePort world.network uuid with
  | none => simp
  | some port =>
    simp only [Option.some.injEq, forall_eq', release_fixed_filter]
    rw [List.filter_comm, List.filter_eq_self]
    simp only [List.mem_filter, beq_iff_eq, and_imp, Releases, Bool.not_eq_true',
      Bool.and_eq_false_imp, List.any_eq_false, not_and, not_exists]

def startedCreation (codec : Codec) (inst : Instance) : Task :=
  {operationTask codec .createInstance inst with status := .running}

theorem create_runs :
    runByType (registry env codec) world (operationTask codec .createInstance inst) =
      runSteps (createSteps env codec) (createSteps env codec) world (startedCreation codec inst) :=
  rfl

theorem unallocated_runs {error : String} (readable : codec.decode (codec.encode inst) = .ok inst)
    (unaddressed : inst.ipAddress = "")
    (refused : allocateIP world.network inst.uuid (inst.networks.head?.getD "default")
      (env.draw world.calls) = .error error) :
    ∃ ended answer,
      runByType (registry env codec) world (operationTask codec .createInstance inst) =
        some ({world with network := releaseIP world.network inst.uuid}, ended, answer) := by
  have executed : (stepAllocateIP env codec).execute world (startedCreation codec inst) =
      {world := world, payload := codec.encode inst
       error := some ("failed to allocate IP: " ++ error)} := by
    have payload : (startedCreation codec inst).payload = codec.encode inst := rfl
    simp only [stepAllocateIP, payload, readable, unaddressed, refused, ne_eq, not_true, if_false]
  rw [create_runs, createSteps, runSteps, executed]
  exact ⟨_, _, rfl⟩

theorem allocated_runs (readable : ∀ ip, codec.decode (codec.encode {inst with ipAddress := ip}) =
      .ok {inst with ipAddress := ip})
    (allocates : inst.ipAddress = "" → ∃ ip network, allocateIP world.network inst.uuid
      (inst.networks.head?.getD "default") (env.draw world.calls) = .ok (ip, network)) :
    ∃ allocatedWorld task named,
      runByType (registry env codec) world (operationTask codec .createInstance inst) =
        runSteps (createSteps env codec) [stepCreateVolume env codec, stepStartInstance env codec]
          allocatedWorld task ∧
      allocatedWorld.volumes = world.volumes ∧ codec.decode task.payload = .ok named ∧
      named.uuid = inst.uuid := by
  have payload : (startedCreation codec inst).payload = codec.encode inst := rfl
  have own : codec.decode (codec.encode inst) = .ok inst := readable inst.ipAddress
  rw [create_runs, createSteps]
  by_cases unaddressed : inst.ipAddress = ""
  · obtain ⟨ip, network, answer⟩ := allocates unaddressed
    have executed : (stepAllocateIP env codec).execute world (startedCreation codec inst) =
        {world := {world with network := network, calls := world.calls + 1}
         payload := codec.encode {inst with ipAddress := ip}} := by
      simp only [stepAllocateIP, payload, own, unaddressed, answer, ne_eq, not_true, if_false]
    rw [run_steps_succeeded _ (by rw [executed]), executed]
    exact ⟨_, _, _, rfl, rfl, readable ip, rfl⟩
  · have executed : (stepAllocateIP env codec).execute world (startedCreation codec inst) =
        {world := world, payload := codec.encode inst} := by
      simp only [stepAllocateIP, payload, own, unaddressed, ne_eq, not_false_eq_true, if_true]
    rw [run_steps_succeeded _ (by rw [executed]), executed]
    exact ⟨_, _, _, rfl, rfl, own, rfl⟩

theorem no_address_iff {draw : Nat} :
    NoAddress world inst draw ↔ ∃ error, allocateIP world.network inst.uuid
      (inst.networks.head?.getD "default") draw = .error error := by
  cases answer : allocateIP world.network inst.uuid (inst.networks.head?.getD "default") draw with
  | error error =>
    refine iff_of_true ?_ ⟨error, rfl⟩
    intro subnet ip found first
    rw [(allocate_ip_ok_iff _).mpr ⟨subnet, found, first, rfl⟩] at answer
    contradiction
  | ok result =>
    obtain ⟨ip, network⟩ := result
    obtain ⟨subnet, found, first, _⟩ := (allocate_ip_ok_iff _).mp answer
    apply iff_of_false
    · exact fun none => none subnet ip found first
    · rintro ⟨_, same⟩
      contradiction

/-- However a creation ends, rolled back with every compensation or not, it leaves
nothing exactly when the allocation is what failed and the release does not touch
the instance's own addresses. -/
theorem creation_undone_iff (world after : World) (inst : Instance) (ended : Task)
    (answer : Option String)
    (readable : ∀ ip, codec.decode (codec.encode {inst with ipAddress := ip}) =
      .ok {inst with ipAddress := ip})
    (ran : runByType (registry env codec) world (operationTask codec .createInstance inst) =
      some (after, ended, answer)) :
    NothingLeft world after inst.uuid ↔
      inst.ipAddress = "" ∧ NoAddress world inst (env.draw world.calls) ∧
        PortUnrelated world inst.uuid := by
  by_cases fails : inst.ipAddress = "" ∧ NoAddress world inst (env.draw world.calls)
  · obtain ⟨unaddressed, none⟩ := fails
    obtain ⟨error, refused⟩ := (no_address_iff world inst).mp none
    obtain ⟨_, _, released⟩ :=
      unallocated_runs world inst (readable inst.ipAddress) unaddressed refused
    rw [released] at ran
    cases ran
    rw [← release_keeps_iff]
    constructor
    · exact fun left => ⟨unaddressed, none, left.addresses⟩
    · exact fun kept => ⟨kept.2.2, rfl⟩
  · have allocates : inst.ipAddress = "" → ∃ ip network, allocateIP world.network inst.uuid
        (inst.networks.head?.getD "default") (env.draw world.calls) = .ok (ip, network) := by
      intro unaddressed
      cases answer : allocateIP world.network inst.uuid (inst.networks.head?.getD "default")
          (env.draw world.calls) with
      | error error =>
        exact absurd ⟨unaddressed, (no_address_iff _ _).mpr ⟨error, answer⟩⟩ fails
      | ok result => exact ⟨result.1, result.2, rfl⟩
    obtain ⟨allocatedWorld, task, named, onward, volumes, payload, uuid⟩ :=
      allocated_runs world inst readable allocates
    rw [onward] at ran
    obtain ⟨volume, image, added⟩ := created_volume_stays _ payload ran
    rw [uuid] at image
    rw [volumes] at added
    apply iff_of_false (added_volume_left image added)
    exact fun both => fails ⟨both.1, both.2.1⟩

end Creation

def addressCodec (inst : Instance) : Codec where
  encode other := other.ipAddress
  decode text := .ok {inst with ipAddress := text}

def strayServer : Instance := {webServer "" with networks := ["net-9"]}

theorem stray_creation_undone :
    ∃ after ended answer, runByType (registry (oneNode fun _ => none) (addressCodec strayServer))
        emptyNetwork (operationTask (addressCodec strayServer) .createInstance strayServer) =
          some (after, ended, answer) ∧ ended.status = .rolledBack ∧
      NothingLeft emptyNetwork after "vm-7" := by
  obtain ⟨after, ended, answer, ran, rolled⟩ : ∃ after ended answer,
      runByType (registry (oneNode fun _ => none) (addressCodec strayServer)) emptyNetwork
        (operationTask (addressCodec strayServer) .createInstance strayServer) =
          some (after, ended, answer) ∧ ended.status = .rolledBack :=
    ⟨_, _, _, rfl, rfl⟩
  refine ⟨after, ended, answer, ran, rolled, (creation_undone_iff emptyNetwork after strayServer
    ended answer (fun _ => rfl) ran).mpr ⟨rfl, ?_, ?_⟩⟩
  · intro subnet ip found
    contradiction
  · intro port found
    contradiction

/-- The node refuses to start the machine and stops it when asked to. The address
and the volume stay. -/
theorem refused_start_leaves_resources :
    let reply := fun call => if call = 2 then some "agent error: 500 Internal Server Error" else none
    allocationsOf emptyNetwork "vm-7" = [] ∧ volumesOf emptyNetwork "vm-7" = [] ∧ reply 3 = none ∧
      (runByType (registry (oneNode reply) (addressCodec (webServer ""))) emptyNetwork
        (operationTask (addressCodec (webServer "")) .createInstance (webServer ""))).map
        (fun ran => (ran.1.calls, ran.2.1.status, (allocationsOf ran.1 "vm-7").map (·.ip),
          (volumesOf ran.1 "vm-7").map (·.rbdImage))) =
        some (4, .rolledBack, ["192.168.1.1"], ["vol-vm-7"]) := by
  refine ⟨rfl, rfl, rfl, ?_⟩
  decide +kernel

end VcStack.InstanceTasks
