import Mathlib.Data.List.Sort
import VcStack.ExchangeSort
import VcStack.KeyedTables
import VcStack.Runs
import VcStack.Windows

/-!
The evacuation of a host that is down: the instances running on it, in order of
priority, are skipped, given up or moved to another host. Times are nanoseconds.
-/

namespace VcStack.HostEvacuation

open KeyedTables Runs Windows

inductive HostStatus where
  | up | down | error | maintenance | disabled | connecting | disconnected
deriving DecidableEq, Repr

inductive HostResourceState where
  | enabled | disabled | maintenance | error
deriving DecidableEq, Repr

/-- The columns of a host that its registration, its monitors and the evacuation
use; soft-deleted hosts are not among the rows. -/
structure Host where
  uuid : String
  name : String := ""
  status : HostStatus := .connecting
  resourceState : HostResourceState := .disabled
  ipAddress : String := ""
  managementPort : Int := 8081
  cpuCores : Int := 0
  ramMB : Int := 0
  diskGB : Int := 0
  cpuAllocated : Int := 0
  ramAllocatedMB : Int := 0
  diskAllocatedGB : Int := 0
  lastHeartbeat : Option Int := none
  disconnectedAt : Option Int := none
deriving DecidableEq, Repr

inductive InstanceStatus where
  | active | building | stopped | error | rebuilding
  | other (name : String)
deriving DecidableEq, Repr

inductive PowerState where
  | hostDown | rebuilding
  | other (name : String)
deriving DecidableEq, Repr

structure Instance where
  id : Nat
  name : String
  hostID : String
  status : InstanceStatus
  powerState : PowerState := .other "running"
  vcpus : Int := 0
  ramMB : Int := 0
  diskGB : Int := 0
  /-- Whether `deleted_at` is set. -/
  deleted : Bool := false
deriving DecidableEq, Repr

structure HAPolicy where
  id : Nat
  restartWindow : Int := 3600
deriving DecidableEq, Repr

structure InstanceHAConfig where
  instanceID : Nat
  policyID : Option Nat := none
  haEnabled : Bool := true
  priority : Int := 0
  maxRestarts : Int64 := 3
  restartCount : Int := 0
  lastRestart : Option Int := none
deriving DecidableEq, Repr

structure Database where
  instances : Table Instance.id
  hosts : Table Host.uuid
  configs : Table InstanceHAConfig.instanceID
  policies : Table HAPolicy.id

inductive RecordStatus where
  | pending | migrating | completed | failed | skipped
deriving DecidableEq, Repr

structure EvacuationInstance where
  instanceID : Nat
  instanceName : String
  sourceHostID : String
  destHostID : String := ""
  destHostName : String := ""
  status : RecordStatus := .pending
  errorMessage : String := ""
deriving DecidableEq, Repr

inductive EventStatus where
  | running | completed | partly | failed
deriving DecidableEq, Repr

structure EvacuationEvent where
  sourceHostID : String
  sourceHostName : String
  trigger : String
  status : EventStatus := .running
  totalInstances : Nat := 0
  evacuated : Nat := 0
  failed : Nat := 0
  skipped : Nat := 0
  instances : List EvacuationInstance := []
deriving DecidableEq, Repr

def NoHeavier (first second : Host) : Prop :=
  first.cpuAllocated < second.cpuAllocated ∨
    first.cpuAllocated = second.cpuAllocated ∧ first.ramAllocatedMB ≤ second.ramAllocatedMB

/-- What the query for hosts makes of the rows that match: an error, or those
rows, the least loaded first and in any order among equals. -/
structure HostQuery where
  answer : List Host → Except String (List Host)
  permuted : ∀ matching hosts, answer matching = .ok hosts → hosts.Perm matching
  ordered : ∀ matching hosts, answer matching = .ok hosts → hosts.Pairwise NoHeavier

/-- What an evacuation meets outside the tables it reads, for each instance: the
host query, the clock at the limit check and at the restart, and the error of
the write that moves the instance. -/
structure Environment where
  hostQuery : Nat → HostQuery
  checkedAt : Nat → Int
  restartedAt : Nat → Int
  rescheduleError : Nat → Option String

structure EvacuationTarget where
  instanceID : Nat
  instanceName : String
  priority : Int
  haEnabled : Bool
deriving DecidableEq, Repr

def RunsOn (hostUUID : String) (inst : Instance) : Prop :=
  inst.hostID = hostUUID ∧ (inst.status = .active ∨ inst.status = .building) ∧ inst.deleted = false

instance (hostUUID : String) (inst : Instance) : Decidable (RunsOn hostUUID inst) := by
  unfold RunsOn
  infer_instance

/-- An instance without a configuration counts as protected. -/
def targetOf (db : Database) (inst : Instance) : EvacuationTarget :=
  match db.configs.find inst.id with
  | none => {instanceID := inst.id, instanceName := inst.name, priority := 0, haEnabled := true}
  | some config =>
    { instanceID := inst.id, instanceName := inst.name,
      priority := config.priority, haEnabled := config.haEnabled }

def targetsOf (db : Database) (hostUUID : String) : List EvacuationTarget :=
  (db.instances.rows.filter fun inst => RunsOn hostUUID inst).map (targetOf db)

def sortTargets (targets : List EvacuationTarget) : List EvacuationTarget :=
  ExchangeSort.exchangeSort (fun target other => other.priority > target.priority)
    targets.length targets

/-- `time.Duration(MaxRestarts) * time.Second`, which wraps around. -/
def restartSpan (maxRestarts : Int64) : Int := (maxRestarts * 1000000000).toInt

/-- The restart limit is reached and its window is not over. The counter that the
source resets when the window is over is a local copy, which nothing reads. -/
def restartLimited (config : InstanceHAConfig) (now : Int) : Bool :=
  config.maxRestarts.toInt ≤ config.restartCount &&
    config.lastRestart.any fun last => now < last + restartSpan config.maxRestarts

def InstanceHAConfig.counted (config : InstanceHAConfig) (now : Int) : InstanceHAConfig :=
  {config with restartCount := config.restartCount + 1, lastRestart := some now}

theorem InstanceHAConfig.counted_instance (config : InstanceHAConfig) (now : Int) :
    (config.counted now).instanceID = config.instanceID := rfl

structure FlavorInfo where
  vcpus : Int := 0
  ramMB : Int := 0
  diskGB : Int := 0

/-- The column vcpus of the query has no field to scan into: the field VCPUs has the
column name v_cpus, and stays zero. -/
def flavorInfo (db : Database) (instanceID : Nat) : FlavorInfo :=
  match db.instances.find instanceID with
  | none => {}
  | some inst => {ramMB := inst.ramMB, diskGB := inst.diskGB}

def Suitable (excludeHostUUID : String) (fi : FlavorInfo) (host : Host) : Prop :=
  host.status = .up ∧ host.resourceState = .enabled ∧ host.uuid ≠ excludeHostUUID ∧
    (fi.vcpus > 0 → host.cpuCores - host.cpuAllocated ≥ fi.vcpus) ∧
    (fi.ramMB > 0 → host.ramMB - host.ramAllocatedMB ≥ fi.ramMB) ∧
    (fi.diskGB > 0 → host.diskGB - host.diskAllocatedGB ≥ fi.diskGB)

instance (excludeHostUUID : String) (fi : FlavorInfo) (host : Host) :
    Decidable (Suitable excludeHostUUID fi host) := by
  unfold Suitable
  infer_instance

section Evacuation

variable (env : Environment)

def findBestHost (db : Database) (excludeHostUUID : String) (instanceID : Nat) :
    Except String Host :=
  let fi := flavorInfo db instanceID
  match (env.hostQuery instanceID).answer
      (db.hosts.rows.filter fun host => Suitable excludeHostUUID fi host) with
  | .error reason => .error ("query hosts: " ++ reason)
  | .ok [] => .error "no healthy hosts with sufficient resources"
  | .ok (host :: _) => .ok host

def markInstance (db : Database) (instanceID : Nat) (status : InstanceStatus)
    (powerState : PowerState) : Database :=
  {db with
    instances := db.instances.update instanceID
      (fun inst => {inst with status := status, powerState := powerState}) fun _ => rfl}

def moveInstance (db : Database) (instanceID : Nat) (destHost : Host) : Database :=
  {db with
    instances := db.instances.update instanceID
      (fun inst => {inst with
        hostID := destHost.uuid, status := .rebuilding, powerState := .rebuilding}) fun _ => rfl}

def allocate (db : Database) (destHost : Host) (fi : FlavorInfo) : Database :=
  {db with
    hosts := db.hosts.update destHost.uuid
      (fun host => {host with
        cpuAllocated := host.cpuAllocated + fi.vcpus,
        ramAllocatedMB := host.ramAllocatedMB + fi.ramMB,
        diskAllocatedGB := host.diskAllocatedGB + fi.diskGB}) fun _ => rfl}

def rescheduleInstance (db : Database) (instanceID : Nat) (destHost : Host) :
    Except String Database :=
  match env.rescheduleError instanceID with
  | some reason => .error ("update instance host: " ++ reason)
  | none =>
    let moved := moveInstance db instanceID destHost
    .ok (allocate moved destHost (flavorInfo moved instanceID))

def countRestart (db : Database) (instanceID : Nat) (now : Int) : Database :=
  {db with
    configs := db.configs.update instanceID (·.counted now) (·.counted_instance now)}

structure Progress where
  db : Database
  evacuated : Nat := 0
  failed : Nat := 0
  skipped : Nat := 0
  records : List EvacuationInstance := []

def evacuateTarget (hostUUID : String) (progress : Progress) (target : EvacuationTarget) :
    Progress :=
  let evInst : EvacuationInstance :=
    { instanceID := target.instanceID, instanceName := target.instanceName,
      sourceHostID := hostUUID }
  let haCfg := progress.db.configs.find target.instanceID
  if target.haEnabled = false then
    {progress with
      db := markInstance progress.db target.instanceID .stopped .hostDown,
      skipped := progress.skipped + 1,
      records := progress.records ++ [{evInst with status := .skipped}]}
  else if haCfg.any fun config => restartLimited config (env.checkedAt target.instanceID) then
    let maxRestarts := haCfg.elim 0 fun config => config.maxRestarts.toInt
    {progress with
      skipped := progress.skipped + 1,
      records := progress.records ++ [{evInst with
        status := .skipped,
        errorMessage := "max restarts (" ++ toString maxRestarts ++ ") exceeded within window"}]}
  else
    match findBestHost env progress.db hostUUID target.instanceID with
    | .error reason =>
      {progress with
        db := markInstance progress.db target.instanceID .error .hostDown,
        failed := progress.failed + 1,
        records := progress.records ++ [{evInst with
          status := .failed, errorMessage := "no suitable host: " ++ reason}]}
    | .ok destHost =>
      let placed := {evInst with destHostID := destHost.uuid, destHostName := destHost.name}
      match rescheduleInstance env progress.db target.instanceID destHost with
      | .error reason =>
        {progress with
          failed := progress.failed + 1,
          records := progress.records ++ [{placed with
            status := .failed, errorMessage := reason}]}
      | .ok db =>
        {progress with
          db := countRestart db target.instanceID (env.restartedAt target.instanceID),
          evacuated := progress.evacuated + 1,
          records := progress.records ++ [{placed with status := .completed}]}

def evacuateTargets (db : Database) (hostUUID : String) : Progress :=
  (sortTargets (targetsOf db hostUUID)).foldl (evacuateTarget env hostUUID) {db := db}

def finalStatus (progress : Progress) : EventStatus :=
  if progress.failed = 0 then .completed
  else if progress.evacuated > 0 then .partly
  else .failed

def evacuateHostInternal (db : Database) (hostUUID hostName trigger : String) :
    Database × EvacuationEvent :=
  let evt : EvacuationEvent :=
    { sourceHostID := hostUUID, sourceHostName := hostName, trigger := trigger,
      totalInstances := (targetsOf db hostUUID).length }
  if targetsOf db hostUUID = [] then
    (db, {evt with status := .completed})
  else
    let progress := evacuateTargets env db hostUUID
    (progress.db, {evt with
      status := finalStatus progress,
      evacuated := progress.evacuated, failed := progress.failed, skipped := progress.skipped,
      instances := progress.records})

end Evacuation

variable {inst : Instance} {target : EvacuationTarget}

theorem target_of_id {db : Database} :
    (targetOf db inst).instanceID = inst.id := by
  unfold targetOf
  split <;> rfl

theorem sort_targets_perm {targets : List EvacuationTarget} :
    (sortTargets targets).Perm targets := ExchangeSort.exchange_sort_perm _ _

theorem sort_targets_sorted {targets : List EvacuationTarget} :
    (sortTargets targets).Pairwise fun first second => second.priority ≤ first.priority := by
  have sorted := ExchangeSort.exchange_sort_sorted
    (fun target other : EvacuationTarget => other.priority > target.priority)
    (fun _ _ above below => by omega) (fun _ _ _ first second => by omega) targets (Nat.le_refl _)
  exact sorted.imp fun notAbove => Int.not_lt.mp notAbove

theorem targets_ids {db : Database} {hostUUID : String} :
    ((sortTargets (targetsOf db hostUUID)).map EvacuationTarget.instanceID).Perm
      ((db.instances.rows.filter fun inst => RunsOn hostUUID inst).map Instance.id) := by
  have ids : (targetsOf db hostUUID).map EvacuationTarget.instanceID =
      (db.instances.rows.filter fun inst => RunsOn hostUUID inst).map Instance.id := by
    rw [targetsOf, List.map_map]
    exact List.map_congr_left fun inst _ => target_of_id
  rw [← ids]
  exact sort_targets_perm.map _

theorem targets_distinct {db : Database} {hostUUID : String} :
    ((sortTargets (targetsOf db hostUUID)).map EvacuationTarget.instanceID).Nodup := by
  rw [targets_ids.nodup_iff]
  exact db.instances.distinct.sublist (List.filter_sublist.map _)

theorem target_listed {db : Database} {hostUUID : String} :
    target ∈ sortTargets (targetsOf db hostUUID) ↔
      ∃ inst ∈ db.instances.rows, RunsOn hostUUID inst ∧ targetOf db inst = target := by
  rw [sort_targets_perm.mem_iff]
  simp [targetsOf, and_assoc]

structure View where
  inst : Option Instance
  config : Option InstanceHAConfig
  records : List EvacuationInstance

def viewOf (db : Database) (records : List EvacuationInstance) (id : Nat) : View where
  inst := db.instances.find id
  config := db.configs.find id
  records := records.filter fun record => record.instanceID = id

def Progress.view (progress : Progress) (id : Nat) : View :=
  viewOf progress.db progress.records id

def View.mark (view : View) (status : InstanceStatus) : View :=
  {view with inst := view.inst.map fun inst =>
    {inst with status := status, powerState := .hostDown}}

def View.note (view : View) (record : EvacuationInstance) : View :=
  {view with records := view.records ++ [record]}

def View.move (view : View) (destHost : Host) (now : Int) : View :=
  {view with
    inst := view.inst.map fun inst =>
      {inst with hostID := destHost.uuid, status := .rebuilding, powerState := .rebuilding},
    config := view.config.map (·.counted now)}

section Rounds

variable (env : Environment) (hostUUID : String)

def Blocked (config : Option InstanceHAConfig) (now : Int) : Prop :=
  config.any (restartLimited · now) = true

def newRecord (target : EvacuationTarget) : EvacuationInstance :=
  { instanceID := target.instanceID, instanceName := target.instanceName, sourceHostID := hostUUID }

inductive Round (progress : Progress) (target : EvacuationTarget) : Progress → Prop
  | unprotected (off : target.haEnabled = false) :
      Round progress target {progress with
        db := markInstance progress.db target.instanceID .stopped .hostDown,
        skipped := progress.skipped + 1,
        records := progress.records ++ [{newRecord hostUUID target with status := .skipped}]}
  | limited (errorMessage : String) (on : target.haEnabled ≠ false)
      (blocked : Blocked (progress.db.configs.find target.instanceID)
        (env.checkedAt target.instanceID)) :
      Round progress target {progress with
        skipped := progress.skipped + 1,
        records := progress.records ++ [{newRecord hostUUID target with
          status := .skipped, errorMessage := errorMessage}]}
  | homeless (reason : String) (on : target.haEnabled ≠ false)
      (free : ¬ Blocked (progress.db.configs.find target.instanceID)
        (env.checkedAt target.instanceID))
      (absent : findBestHost env progress.db hostUUID target.instanceID = .error reason) :
      Round progress target {progress with
        db := markInstance progress.db target.instanceID .error .hostDown,
        failed := progress.failed + 1,
        records := progress.records ++ [{newRecord hostUUID target with
          status := .failed, errorMessage := "no suitable host: " ++ reason}]}
  | unwritten (reason : String) (destHost : Host) (on : target.haEnabled ≠ false)
      (free : ¬ Blocked (progress.db.configs.find target.instanceID)
        (env.checkedAt target.instanceID))
      (refused : env.rescheduleError target.instanceID = some reason) :
      Round progress target {progress with
        failed := progress.failed + 1,
        records := progress.records ++ [{newRecord hostUUID target with
          destHostID := destHost.uuid, destHostName := destHost.name,
          status := .failed, errorMessage := "update instance host: " ++ reason}]}
  | moved (destHost : Host) (on : target.haEnabled ≠ false)
      (free : ¬ Blocked (progress.db.configs.find target.instanceID)
        (env.checkedAt target.instanceID))
      (chosen : findBestHost env progress.db hostUUID target.instanceID = .ok destHost) :
      Round progress target {progress with
        db := countRestart
          (allocate (moveInstance progress.db target.instanceID destHost) destHost
            (flavorInfo (moveInstance progress.db target.instanceID destHost) target.instanceID))
          target.instanceID (env.restartedAt target.instanceID),
        evacuated := progress.evacuated + 1,
        records := progress.records ++ [{newRecord hostUUID target with
          destHostID := destHost.uuid, destHostName := destHost.name, status := .completed}]}

theorem round_cases (progress : Progress) (target : EvacuationTarget) :
    Round env hostUUID progress target (evacuateTarget env hostUUID progress target) := by
  unfold evacuateTarget
  dsimp only
  split_ifs with off blocked
  · exact .unprotected off
  · exact .limited _ off blocked
  · cases chosen : findBestHost env progress.db hostUUID target.instanceID with
    | error reason => exact .homeless reason off blocked chosen
    | ok destHost =>
      dsimp only
      unfold rescheduleInstance
      cases refused : env.rescheduleError target.instanceID with
      | some reason => exact .unwritten reason destHost off blocked refused
      | none => exact .moved destHost off blocked chosen

inductive Settled (target : EvacuationTarget) (before after : View) : Prop
  | unprotected (record : EvacuationInstance) (off : target.haEnabled = false)
      (noted : record.status = .skipped)
      (left : after = (before.mark .stopped).note record)
  | limited (record : EvacuationInstance) (on : target.haEnabled ≠ false)
      (blocked : Blocked before.config (env.checkedAt target.instanceID))
      (noted : record.status = .skipped)
      (left : after = before.note record)
  | homeless (record : EvacuationInstance) (on : target.haEnabled ≠ false)
      (free : ¬ Blocked before.config (env.checkedAt target.instanceID))
      (noted : record.status = .failed)
      (left : after = (before.mark .error).note record)
  | unwritten (record : EvacuationInstance) (on : target.haEnabled ≠ false)
      (free : ¬ Blocked before.config (env.checkedAt target.instanceID))
      (refused : env.rescheduleError target.instanceID ≠ none)
      (noted : record.status = .failed)
      (left : after = before.note record)
  | moved (record : EvacuationInstance) (destHost : Host) (on : target.haEnabled ≠ false)
      (free : ¬ Blocked before.config (env.checkedAt target.instanceID))
      (elsewhere : destHost.uuid ≠ hostUUID)
      (noted : record.status = .completed)
      (left : after = (before.move destHost (env.restartedAt target.instanceID)).note record)

variable (db : Database) (records : List EvacuationInstance) (record : EvacuationInstance)

theorem best_host_suitable {instanceID : Nat} {host : Host}
    (found : findBestHost env db hostUUID instanceID = .ok host) :
    host ∈ db.hosts.rows ∧ Suitable hostUUID (flavorInfo db instanceID) host := by
  unfold findBestHost at found
  dsimp only at found
  split at found
  · contradiction
  · contradiction
  · rename_i first others answered
    cases found
    have among := ((env.hostQuery instanceID).permuted _ _ answered).mem_iff.mp List.mem_cons_self
    rw [List.mem_filter] at among
    exact ⟨among.1, of_decide_eq_true among.2⟩

theorem view_note {id : Nat} (about : record.instanceID = id) :
    viewOf db (records ++ [record]) id = (viewOf db records id).note record := by
  simp [viewOf, View.note, about]

theorem view_mark {id : Nat} (about : record.instanceID = id) {status : InstanceStatus} :
    viewOf (markInstance db id status .hostDown) (records ++ [record]) id =
      ((viewOf db records id).mark status).note record := by
  rw [view_note _ _ record about]
  simp only [viewOf, View.mark, markInstance, find_update_same]

theorem view_move {id : Nat} (about : record.instanceID = id) {destHost : Host} {fi : FlavorInfo}
    {now : Int} :
    viewOf (countRestart (allocate (moveInstance db id destHost) destHost fi) id now)
        (records ++ [record]) id =
      ((viewOf db records id).move destHost now).note record := by
  rw [view_note _ _ record about]
  simp only [viewOf, View.move, countRestart, allocate, moveInstance, find_update_same]

theorem round_settled (progress : Progress) (target : EvacuationTarget) :
    Settled env hostUUID target (progress.view target.instanceID)
      ((evacuateTarget env hostUUID progress target).view target.instanceID) := by
  have round := round_cases env hostUUID progress target
  generalize evacuateTarget env hostUUID progress target = after at round
  cases round with
  | unprotected off => exact .unprotected _ off (by rfl) (view_mark _ _ _ (by rfl))
  | limited _ on blocked => exact .limited _ on blocked (by rfl) (view_note _ _ _ (by rfl))
  | homeless reason on free _ =>
    exact .homeless _ on free (by rfl) (view_mark _ _ _ (by rfl))
  | unwritten reason destHost on free refused =>
    exact .unwritten _ on free (by simp [refused]) (by rfl) (view_note _ _ _ (by rfl))
  | moved destHost on free chosen =>
    have suitable := (best_host_suitable env hostUUID _ chosen).2
    exact .moved _ destHost on free suitable.2.2.1 (by rfl) (view_move _ _ _ (by rfl))

theorem view_other {id : Nat} (different : id ≠ record.instanceID) :
    viewOf db (records ++ [record]) id = viewOf db records id := by
  simp [viewOf, different.symm]

theorem mark_other {id other : Nat} {status : InstanceStatus} {powerState : PowerState}
    (different : other ≠ id) :
    (markInstance db id status powerState).instances.find other = db.instances.find other := by
  rw [markInstance, find_update_other _ _ _ _ different]

theorem move_other {db : Database} {id other : Nat} {destHost : Host} {fi : FlavorInfo}
    {now : Int} (different : other ≠ id) :
    let moved := countRestart (allocate (moveInstance db id destHost) destHost fi) id now
    moved.instances.find other = db.instances.find other ∧
      moved.configs.find other = db.configs.find other := by
  dsimp only [countRestart, allocate, moveInstance]
  constructor
  · rw [find_update_other _ _ _ _ different]
  · rw [find_update_other _ _ _ _ different]

theorem round_frame (progress : Progress) (target : EvacuationTarget) (id : Nat)
    (different : id ≠ target.instanceID) :
    (evacuateTarget env hostUUID progress target).view id = progress.view id := by
  have kept : ∀ (record : EvacuationInstance) (db : Database),
      record.instanceID = target.instanceID →
      db.instances.find id = progress.db.instances.find id →
      db.configs.find id = progress.db.configs.find id →
      viewOf db (progress.records ++ [record]) id = progress.view id := by
    intro record db about inst config
    rw [view_other _ _ _ (about ▸ different)]
    simp only [Progress.view, viewOf, inst, config]
  have round := round_cases env hostUUID progress target
  generalize evacuateTarget env hostUUID progress target = after at round
  cases round with
  | unprotected => exact kept _ _ rfl (mark_other _ different) rfl
  | limited => exact kept _ _ rfl rfl rfl
  | homeless => exact kept _ _ rfl (mark_other _ different) rfl
  | unwritten => exact kept _ _ rfl rfl rfl
  | moved destHost =>
    obtain ⟨inst, config⟩ := move_other different
    exact kept _ _ rfl inst config

def Progress.counted (progress : Progress) : Nat :=
  progress.evacuated + progress.failed + progress.skipped

theorem round_counted {progress : Progress} :
    (evacuateTarget env hostUUID progress target).counted = progress.counted + 1 := by
  have round := round_cases env hostUUID progress target
  generalize evacuateTarget env hostUUID progress target = after at round
  unfold Progress.counted
  cases round with
  | unprotected | limited | homeless | unwritten | moved =>
    dsimp only
    omega

theorem rounds_counted (targets : List EvacuationTarget) (progress : Progress) :
    (targets.foldl (evacuateTarget env hostUUID) progress).counted =
      progress.counted + targets.length := by
  induction targets generalizing progress with
  | nil => rfl
  | cons target rest ih =>
    rw [List.foldl_cons, ih, round_counted, List.length_cons]
    omega

end Rounds

section Whole

variable (env : Environment) (db : Database) (hostUUID hostName trigger : String)

def outcome (id : Nat) : View :=
  let finished := evacuateHostInternal env db hostUUID hostName trigger
  viewOf finished.1 finished.2.instances id

theorem outcome_eq {id : Nat} :
    outcome env db hostUUID hostName trigger id = (evacuateTargets env db hostUUID).view id := by
  unfold outcome evacuateHostInternal
  dsimp only
  split_ifs with empty
  · rw [evacuateTargets, empty]
    rfl
  · rfl

theorem running_settled (listed : inst ∈ db.instances.rows)
    (running : RunsOn hostUUID inst) :
    Settled env hostUUID (targetOf db inst)
      {inst := some inst, config := db.configs.find inst.id, records := []}
      (outcome env db hostUUID hostName trigger inst.id) := by
  have member := target_listed.mpr ⟨inst, listed, running, rfl⟩
  obtain ⟨before, unchanged, ended⟩ := loop_once (evacuateTarget env hostUUID)
    EvacuationTarget.instanceID Progress.view (round_frame env hostUUID) _ {db := db} _ member
    targets_distinct
  have settled := round_settled env hostUUID before (targetOf db inst)
  have start : ({db := db} : Progress).view inst.id =
      {inst := some inst, config := db.configs.find inst.id, records := []} := by
    simp only [Progress.view, viewOf, find_of_mem db.instances inst listed, List.filter_nil]
  rw [unchanged, ← ended, target_of_id, start] at settled
  rw [outcome_eq]
  exact settled

theorem others_kept {id : Nat}
    (idle : ∀ inst ∈ db.instances.rows, RunsOn hostUUID inst → inst.id ≠ id) :
    outcome env db hostUUID hostName trigger id =
      {inst := db.instances.find id, config := db.configs.find id, records := []} := by
  rw [outcome_eq]
  apply loop_absent (evacuateTarget env hostUUID) EvacuationTarget.instanceID Progress.view
    (round_frame env hostUUID)
  intro member
  obtain ⟨target, among, same⟩ := List.mem_map.mp member
  obtain ⟨inst, listed, running, rfl⟩ := target_listed.mp among
  exact idle inst listed running (target_of_id.symm.trans same)

theorem event_adds_up :
    let evt := (evacuateHostInternal env db hostUUID hostName trigger).2
    evt.totalInstances = evt.evacuated + evt.failed + evt.skipped := by
  unfold evacuateHostInternal
  dsimp only
  split_ifs with empty
  · simp [empty]
  · have counted := rounds_counted env hostUUID (sortTargets (targetsOf db hostUUID)) {db := db}
    rw [sort_targets_perm.length_eq] at counted
    simp only [Progress.counted, Nat.zero_add] at counted
    exact counted.symm

end Whole

section Stranded

variable (env : Environment) (db : Database) (hostUUID hostName trigger : String)

def Running (hostUUID : String) (inst : Instance) : Prop :=
  inst.hostID = hostUUID ∧ (inst.status = .active ∨ inst.status = .building)

instance (inst : Instance) : Decidable (Running hostUUID inst) := by
  unfold Running
  infer_instance

/-- Only the exit for the restart limit, and the one for a failed write, leave an
instance as it was. -/
theorem settled_running
    {config : Option InstanceHAConfig} {records : List EvacuationInstance} {after : View}
    (running : RunsOn hostUUID inst)
    (written : env.rescheduleError target.instanceID = none)
    (settled : Settled env hostUUID target
      {inst := some inst, config := config, records := records} after) :
    ∃ last, after.inst = some last ∧ (Running hostUUID last ↔
      target.haEnabled ≠ false ∧ Blocked config (env.checkedAt target.instanceID)) := by
  cases settled with
  | unprotected record off _ left =>
    refine ⟨_, congrArg View.inst left, ?_⟩
    simp [Running, off]
  | limited record on blocked _ left =>
    refine ⟨inst, congrArg View.inst left, ?_⟩
    exact iff_of_true ⟨running.1, running.2.1⟩ ⟨on, blocked⟩
  | homeless record on free _ left =>
    refine ⟨_, congrArg View.inst left, iff_of_false ?_ fun both => free both.2⟩
    simp [Running]
  | unwritten record on free refused => exact absurd written refused
  | moved record destHost on free elsewhere _ left =>
    refine ⟨_, congrArg View.inst left, iff_of_false ?_ fun both => free both.2⟩
    rintro ⟨same, _⟩
    exact elsewhere same

theorem target_enabled {config : InstanceHAConfig}
    (found : db.configs.find inst.id = some config) :
    (targetOf db inst).haEnabled = config.haEnabled := by
  rw [targetOf, found]

def Limited (inst : Instance) : Prop :=
  ∃ config, db.configs.find inst.id = some config ∧ config.haEnabled = true ∧
    restartLimited config (env.checkedAt inst.id) = true

theorem limited_iff :
    (targetOf db inst).haEnabled ≠ false ∧
        Blocked (db.configs.find inst.id) (env.checkedAt inst.id) ↔ Limited env db inst := by
  unfold Limited Blocked
  cases found : db.configs.find inst.id with
  | none => simp
  | some config =>
    rw [target_enabled db found]
    simp

theorem stays_iff_limited (writes : ∀ id, env.rescheduleError id = none)
    (listed : inst ∈ db.instances.rows) (running : RunsOn hostUUID inst) :
    (∃ after ∈ (evacuateHostInternal env db hostUUID hostName trigger).1.instances.rows,
      after.id = inst.id ∧ Running hostUUID after) ↔ Limited env db inst := by
  have settled := running_settled env db hostUUID hostName trigger listed running
  obtain ⟨last, found, stays⟩ := settled_running env hostUUID running (writes _) settled
  rw [target_of_id, limited_iff] at stays
  rw [← stays]
  have place := (find_iff _).mp found
  constructor
  · rintro ⟨after, member, same, still⟩
    have equal : some after = some last := ((find_iff _).mpr ⟨member, same⟩).symm.trans found
    cases equal
    exact still
  · intro still
    exact ⟨last, place.1, place.2, still⟩

/-- With all writes succeeding, no instance that ran on the host is left running
there, and the counts add up, exactly when no such instance is limited. -/
theorem no_instance_stranded_iff (env : Environment) (db : Database)
    (hostUUID hostName trigger : String) (writes : ∀ id, env.rescheduleError id = none) :
    let finished := evacuateHostInternal env db hostUUID hostName trigger
    ((∀ inst ∈ db.instances.rows, RunsOn hostUUID inst →
        ∀ after ∈ finished.1.instances.rows, after.id = inst.id → ¬ Running hostUUID after) ∧
      finished.2.totalInstances = finished.2.evacuated + finished.2.failed + finished.2.skipped) ↔
    ∀ inst ∈ db.instances.rows, RunsOn hostUUID inst → ¬ Limited env db inst := by
  intro finished
  have counts := event_adds_up env db hostUUID hostName trigger
  constructor
  · rintro ⟨cleared, _⟩ inst listed running limited
    obtain ⟨after, member, same, still⟩ :=
      (stays_iff_limited env db hostUUID hostName trigger writes listed running).mpr limited
    exact cleared inst listed running after member same still
  · intro free
    refine ⟨?_, counts⟩
    intro inst listed running after member same still
    exact free inst listed running
      ((stays_iff_limited env db hostUUID hostName trigger writes listed running).mp
        ⟨after, member, same, still⟩)

end Stranded

instance : DecidableRel NoHeavier := by
  intro first second
  unfold NoHeavier
  infer_instance

instance : Std.Total NoHeavier where
  total first second := by
    unfold NoHeavier
    omega

instance : IsTrans Host NoHeavier where
  trans first second third := by
    unfold NoHeavier
    omega

def byLoad : HostQuery where
  answer matching := .ok (matching.insertionSort NoHeavier)
  permuted matching hosts answered := by
    cases answered
    exact List.perm_insertionSort NoHeavier matching
  ordered matching hosts answered := by
    cases answered
    exact List.pairwise_insertionSort NoHeavier matching

def environmentAt (now : Int) : Environment where
  hostQuery _ := byLoad
  checkedAt _ := now
  restartedAt _ := now
  rescheduleError _ := none

def protectedDatabase (config : InstanceHAConfig) (window : Int) : Database where
  instances := Table.single
    {id := 1, name := "web", hostID := "a", status := .active, vcpus := 2}
  hosts := Table.single
    {uuid := "b", name := "b", status := .up, resourceState := .enabled, cpuCores := 8}
  configs := Table.single config
  policies := Table.single {id := 1, restartWindow := window}

theorem unlimited_instance_cleared :
    let finished := evacuateHostInternal (environmentAt 0)
      (protectedDatabase {instanceID := 1, policyID := some 1} 3600) "a" "a" "heartbeat_timeout"
    (∀ inst ∈ (protectedDatabase {instanceID := 1, policyID := some 1} 3600).instances.rows,
        RunsOn "a" inst → ∀ after ∈ finished.1.instances.rows, after.id = inst.id →
          ¬ Running "a" after) ∧
      finished.2.totalInstances =
        finished.2.evacuated + finished.2.failed + finished.2.skipped := by
  apply (no_instance_stranded_iff (environmentAt 0) _ "a" "a" "heartbeat_timeout" fun _ => rfl).mpr
  rintro inst listed _ ⟨config, found, _, limited⟩
  cases List.mem_singleton.mp listed
  cases found
  revert limited
  decide

/-- A fourth evacuation within three seconds of the third counts the instance as
skipped and leaves it active on the host that is down. -/
theorem limited_instance_stranded :
    let db := protectedDatabase
      {instanceID := 1, policyID := some 1, restartCount := 3, lastRestart := some 0} 3600
    let finished := evacuateHostInternal (environmentAt 1000000000) db "a" "a" "heartbeat_timeout"
    finished.2.skipped = 1 ∧ ∃ inst ∈ db.instances.rows, RunsOn "a" inst ∧
      ∃ after ∈ finished.1.instances.rows, after.id = inst.id ∧ Running "a" after := by
  decide

structure Ledger where
  db : Database
  now : Int
  restarts : List Int := []

inductive Action where
  | evacuate (env : Environment) (hostUUID hostName trigger : String) (finished : Int)
  | change (instances : Table Instance.id) (hosts : Table Host.uuid)

def restartWindow (db : Database) (config : InstanceHAConfig) : Int :=
  ((config.policyID.bind db.policies.find).map HAPolicy.restartWindow).getD 0

section Restarts

variable (id : Nat)

def Restarted (evt : EvacuationEvent) : Prop :=
  ∃ record ∈ evt.instances, record.instanceID = id ∧ record.status = .completed

instance (evt : EvacuationEvent) : Decidable (Restarted id evt) := by
  unfold Restarted
  infer_instance

def step (ledger : Ledger) : Action → Option Ledger
  | .evacuate env hostUUID hostName trigger finished =>
    if ledger.now ≤ env.checkedAt id ∧ env.checkedAt id ≤ env.restartedAt id ∧
        env.restartedAt id ≤ finished then
      let ended := evacuateHostInternal env ledger.db hostUUID hostName trigger
      some {
        db := ended.1,
        now := finished,
        restarts :=
          if Restarted id ended.2 then env.restartedAt id :: ledger.restarts
          else ledger.restarts }
    else none
  | .change instances hosts =>
    some {ledger with db := {ledger.db with instances := instances, hosts := hosts}}

theorem restarted_iff {env : Environment} {db : Database} {hostUUID hostName trigger : String} :
    Restarted id (evacuateHostInternal env db hostUUID hostName trigger).2 ↔
      ∃ record ∈ (outcome env db hostUUID hostName trigger id).records,
        record.status = .completed := by
  simp only [Restarted, outcome, viewOf, List.mem_filter, decide_eq_true_eq, and_assoc]

theorem restart_cases (env : Environment) {db : Database} (hostUUID hostName trigger : String)
    {config : InstanceHAConfig} (found : db.configs.find id = some config) :
    let ended := evacuateHostInternal env db hostUUID hostName trigger
    (Restarted id ended.2 ∧ config.haEnabled = true ∧
        restartLimited config (env.checkedAt id) = false ∧
        ended.1.configs.find id = some (config.counted (env.restartedAt id))) ∨
      (¬ Restarted id ended.2 ∧ ended.1.configs.find id = some config) := by
  intro ended
  have stored : ended.1.configs.find id = (outcome env db hostUUID hostName trigger id).config := rfl
  rw [restarted_iff, stored]
  by_cases running : ∃ inst ∈ db.instances.rows, RunsOn hostUUID inst ∧ inst.id = id
  · obtain ⟨inst, listed, runs, rfl⟩ := running
    have settled := running_settled env db hostUUID hostName trigger listed runs
    rw [found] at settled
    have enabled := target_enabled db found
    cases settled with
    | unprotected record _ noted left
    | limited record _ _ noted left
    | homeless record _ _ noted left
    | unwritten record _ _ _ noted left =>
      right
      simp [left, View.note, View.mark, noted]
    | moved record destHost on free _ noted left =>
      left
      rw [enabled, Bool.ne_false_iff] at on
      rw [target_of_id] at free left
      have spared : restartLimited config (env.checkedAt inst.id) = false := by
        simpa [Blocked] using free
      simpa [left, View.note, View.move, noted] using ⟨on, spared⟩
  · right
    have kept := others_kept env db hostUUID hostName trigger
      (fun inst listed runs same => running ⟨inst, listed, runs, same⟩)
    rw [kept, found]
    simp

structure Tallied (config : InstanceHAConfig) (ledger : Ledger) : Prop where
  stored : ledger.db.configs.find id = some {config with
    restartCount := ledger.restarts.length, lastRestart := ledger.restarts.head?}
  past : ∀ time ∈ ledger.restarts, time ≤ ledger.now
  latest : ∀ last ∈ ledger.restarts.head?, ∀ time ∈ ledger.restarts, time ≤ last

variable {config : InstanceHAConfig} {ledger : Ledger}

theorem step_tallied {next : Ledger} {action : Action} (tallied : Tallied id config ledger)
    (taken : step id ledger action = some next) :
    Tallied id config next ∧
      (next.restarts = ledger.restarts ∨
        ∃ time, next.restarts = time :: ledger.restarts ∧ config.haEnabled = true ∧
          (config.maxRestarts.toInt ≤ ledger.restarts.length →
            ∀ last ∈ ledger.restarts.head?, last + restartSpan config.maxRestarts ≤ time)) := by
  cases action with
  | change instances hosts =>
    cases taken
    exact ⟨⟨tallied.stored, tallied.past, tallied.latest⟩, Or.inl rfl⟩
  | evacuate env hostUUID hostName trigger finished =>
    obtain ⟨⟨checked, restarted, ended⟩, became⟩ := Option.ite_none_right_eq_some.mp taken
    cases became
    rcases restart_cases id env hostUUID hostName trigger tallied.stored with
      ⟨moved, on, free, stored⟩ | ⟨unmoved, stored⟩
    · have earlier : ∀ time ∈ ledger.restarts, time ≤ env.restartedAt id := by
        intro time member
        have bound := tallied.past time member
        omega
      constructor
      · constructor
        · simpa [moved, InstanceHAConfig.counted] using stored
        · simp only [moved, if_true]
          intro time member
          rcases List.mem_cons.mp member with rfl | before
          · exact ended
          · exact (earlier time before).trans ended
        · simp only [moved, if_true, List.head?_cons]
          intro last head time member
          cases head
          rcases List.mem_cons.mp member with rfl | before
          · exact Int.le_refl _
          · exact earlier time before
      · right
        refine ⟨env.restartedAt id, by simp only [moved, if_true], on, ?_⟩
        intro reached last head
        have lapsed : ¬ env.checkedAt id < last + restartSpan config.maxRestarts := by
          have head' : ledger.restarts.head? = some last := head
          simpa [restartLimited, reached, head'] using free
        omega
    · constructor
      · constructor
        · simpa only [if_neg unmoved] using stored
        · simp only [if_neg unmoved]
          intro time member
          have bound := tallied.past time member
          omega
        · simpa only [if_neg unmoved] using tallied.latest
      · left
        simp only [if_neg unmoved]

theorem limit_kept {width : Int} (positive : 0 < config.maxRestarts.toInt)
    (enough : config.haEnabled = false ∨ width ≤ restartSpan config.maxRestarts)
    {next : Ledger} {action : Action} (tallied : Tallied id config ledger)
    (bounded : AtMost config.maxRestarts.toInt.toNat width ledger.restarts)
    (taken : step id ledger action = some next) :
    AtMost config.maxRestarts.toInt.toNat width next.restarts := by
  rcases (step_tallied id tallied taken).2 with
    same | ⟨time, added, on, waited⟩
  · rw [same]
    exact bounded
  rw [added]
  by_cases reached : config.maxRestarts.toInt ≤ ledger.restarts.length
  · have span : width ≤ restartSpan config.maxRestarts := by
      rcases enough with off | span
      · rw [on] at off
        contradiction
      · exact span
    apply at_most_apart _ _ (by omega) bounded
    intro earlier member
    cases head : ledger.restarts.head? with
    | none =>
      rw [List.head?_eq_none_iff.mp head] at member
      contradiction
    | some last =>
      have order := tallied.latest last head earlier member
      have apart := waited reached last head
      omega
  · apply at_most_short
    rw [List.length_cons]
    omega

def exposed (db : Database) : Database where
  instances := Table.single {id := id, name := "web", hostID := "a", status := .active}
  hosts := Table.single {uuid := "b", name := "b", status := .up, resourceState := .enabled}
  configs := db.configs
  policies := db.policies

theorem exposed_restarts {db : Database} {config : InstanceHAConfig} {time : Int}
    (found : db.configs.find id = some config) (on : config.haEnabled = true)
    (free : restartLimited config time = false) :
    Restarted id (evacuateHostInternal (environmentAt time) (exposed id db) "a" "a" "manual").2 := by
  have targets : targetsOf (exposed id db) "a" =
      [{instanceID := id, instanceName := "web", priority := config.priority, haEnabled := true}] := by
    simp [targetsOf, exposed, Table.single, targetOf, found, on, RunsOn]
  have best : findBestHost (environmentAt time) (exposed id db) "a" id =
      .ok {uuid := "b", name := "b", status := .up, resourceState := .enabled} := by
    simp [findBestHost, exposed, environmentAt, byLoad, flavorInfo, Table.single, Table.find, Suitable]
  have stored : (exposed id db).configs.find id = some config := found
  have clear : restartLimited config ((environmentAt time).checkedAt id) = false := free
  have written : ∀ db destHost, ∃ moved,
      rescheduleInstance (environmentAt time) db id destHost = .ok moved :=
    fun _ _ => ⟨_, rfl⟩
  obtain ⟨moved, done⟩ := written (exposed id db)
    {uuid := "b", name := "b", status := .up, resourceState := .enabled}
  simp [Restarted, evacuateHostInternal, targets, evacuateTargets, sortTargets,
    ExchangeSort.exchangeSort, ExchangeSort.exchange, evacuateTarget, stored, clear, best, done]

theorem one_restart (time : Int) (tallied : Tallied id config ledger)
    (on : config.haEnabled = true) (later : ledger.now ≤ time)
    (free : config.maxRestarts.toInt ≤ ledger.restarts.length →
      ∀ last ∈ ledger.restarts.head?, last + restartSpan config.maxRestarts ≤ time) :
    ∃ after, Reaches (step id) ledger after ∧ Tallied id config after ∧
      after.now = time ∧ after.restarts = time :: ledger.restarts := by
  have moved := exposed_restarts id tallied.stored on (by
    simp only [restartLimited, Bool.and_eq_false_imp, decide_eq_true_eq]
    intro reached
    cases head : ledger.restarts.head? with
    | none => rfl
    | some last => simpa using free reached last head)
  let changed : Ledger := {ledger with db := exposed id ledger.db}
  let after : Ledger :=
    { db := (evacuateHostInternal (environmentAt time) (exposed id ledger.db) "a" "a" "manual").1,
      now := time, restarts := time :: ledger.restarts }
  have first : step id ledger (.change (exposed id ledger.db).instances
      (exposed id ledger.db).hosts) = some changed := rfl
  have second : step id changed (.evacuate (environmentAt time) "a" "a" "manual" time) =
      some after := by
    have ordered : changed.now ≤ (environmentAt time).checkedAt id ∧
        (environmentAt time).checkedAt id ≤ (environmentAt time).restartedAt id ∧
        (environmentAt time).restartedAt id ≤ time :=
      ⟨later, Int.le_refl _, Int.le_refl _⟩
    simp only [step, if_pos ordered, changed, if_pos moved]
    rfl
  have middle := (step_tallied id tallied first).1
  refine ⟨after, ?_, (step_tallied id middle second).1, rfl, rfl⟩
  exact reaches_step _ _ first (reaches_step _ _ second reaches_refl)

theorem restarts_at_once (tallied : Tallied id config ledger)
    (none : ledger.restarts = []) (on : config.haEnabled = true) (count : Nat)
    (within : count ≤ config.maxRestarts.toInt) :
    ∃ after, Reaches (step id) ledger after ∧ Tallied id config after ∧
      after.now = ledger.now ∧ after.restarts = List.replicate count ledger.now := by
  induction count with
  | zero => exact ⟨ledger, reaches_refl, tallied, rfl, none⟩
  | succ count ih =>
    obtain ⟨middle, reached, kept, now, restarts⟩ := ih (by omega)
    obtain ⟨after, onward, ended, same, added⟩ := one_restart id ledger.now kept on
      (by omega) (by
        intro full
        rw [restarts, List.length_replicate] at full
        omega)
    refine ⟨after, reaches_trans _ reached onward, ended, same, ?_⟩
    rw [added, restarts, List.replicate_succ]

theorem limit_broken {width : Int} (tallied : Tallied id config ledger)
    (none : ledger.restarts = []) (positive : 0 < config.maxRestarts.toInt)
    (on : config.haEnabled = true) (wide : 0 < width)
    (short : restartSpan config.maxRestarts < width) :
    ∃ after, Reaches (step id) ledger after ∧
      ¬ AtMost config.maxRestarts.toInt.toNat width after.restarts := by
  obtain ⟨middle, reached, kept, now, restarts⟩ := restarts_at_once id tallied none on
    config.maxRestarts.toInt.toNat (by omega)
  let time := ledger.now + max 0 (restartSpan config.maxRestarts)
  obtain ⟨after, onward, _, _, added⟩ := one_restart id time kept on
    (by omega) (by
      intro _ last head
      have same : last = ledger.now := by
        have member := List.mem_of_mem_head? head
        rw [restarts] at member
        exact List.eq_of_mem_replicate member
      omega)
  refine ⟨after, reaches_trans _ reached onward, fun bounded => ?_⟩
  have count := bounded ledger.now
  have all : within ledger.now width after.restarts = after.restarts.length := by
    apply List.countP_eq_length.mpr
    intro other member
    rw [added, restarts] at member
    have place : other = time ∨ other = ledger.now := by
      rcases List.mem_cons.mp member with same | early
      · exact Or.inl same
      · exact Or.inr (List.eq_of_mem_replicate early)
    apply decide_eq_true
    omega
  rw [all, added, restarts, List.length_cons, List.length_replicate] at count
  omega

/-- A protected instance with a fresh counter is restarted at most as often in
its policy's window as it may be exactly when the window is no longer than the
span the code waits for, which is a second for each restart allowed. -/
theorem restart_limit_iff (db : Database) (now : Int) (id : Nat) (config : InstanceHAConfig)
    (found : db.configs.find id = some config)
    (fresh : config.restartCount = 0 ∧ config.lastRestart = none)
    (positive : 0 < config.maxRestarts.toInt) :
    (∀ actions, Always (step id)
      (fun ledger => AtMost config.maxRestarts.toInt.toNat
        (restartWindow db config * 1000000000) ledger.restarts)
      {db := db, now := now} actions) ↔
    config.haEnabled = false ∨ restartWindow db config ≤ 0 ∨
      restartWindow db config * 1000000000 ≤ restartSpan config.maxRestarts := by
  have tallied : Tallied id config {db := db, now := now} := by
    constructor
    · rw [found]
      obtain ⟨count, last⟩ := fresh
      cases config
      simp_all
    · simp
    · simp
  constructor
  · intro kept
    by_contra excess
    simp only [not_or, Bool.not_eq_false, Int.not_le] at excess
    obtain ⟨on, wide, short⟩ := excess
    obtain ⟨after, ⟨actions, ran⟩, broken⟩ := limit_broken id tallied rfl positive on
      (by omega) short
    exact broken (always_last _ after (kept actions) ran)
  · intro enough actions
    by_cases empty : restartWindow db config * 1000000000 ≤ 0
    · exact always_of_invariant (fun _ => True)
        (fun _ _ => at_most_empty _ _ empty) (fun _ _ _ _ _ => trivial) actions _ trivial
    · apply always_of_invariant (fun ledger => Tallied id config ledger ∧
        AtMost config.maxRestarts.toInt.toNat (restartWindow db config * 1000000000)
          ledger.restarts) (fun _ holds => holds.2)
      · rintro ledger action next ⟨holds, bounded⟩ taken
        refine ⟨(step_tallied id holds taken).1, ?_⟩
        apply limit_kept id positive _ holds bounded taken
        rcases enough with off | short | span
        · exact Or.inl off
        · exact absurd (by omega) empty
        · exact Or.inr span
      · exact ⟨tallied, at_most_short _ _ (Nat.zero_le _)⟩

theorem three_restarts_in_three_seconds :
    restartWindow (protectedDatabase {instanceID := 1, policyID := some 1} 3)
        {instanceID := 1, policyID := some 1} = 3 ∧
      ∀ actions, Always (step 1) (fun ledger => AtMost 3 3000000000 ledger.restarts)
        {db := protectedDatabase {instanceID := 1, policyID := some 1} 3, now := 0} actions :=
  ⟨by decide, (restart_limit_iff (protectedDatabase {instanceID := 1, policyID := some 1} 3) 0 1
    {instanceID := 1, policyID := some 1} rfl ⟨rfl, rfl⟩ (by decide)).mpr (by decide)⟩

/-- One restart an hour is allowed, and a second one follows after a second: the
instance is rebuilt on host `b`, which goes down in turn. -/
theorem restarted_twice_in_an_hour :
    let config : InstanceHAConfig := {instanceID := 1, policyID := some 1, maxRestarts := 1}
    let db := protectedDatabase config 3600
    ¬ Always (step 1)
      (fun ledger => AtMost 1 (restartWindow db config * 1000000000) ledger.restarts)
      {db := db, now := 0}
      [.evacuate (environmentAt 0) "a" "a" "heartbeat_timeout" 0,
        .change (Table.single {id := 1, name := "web", hostID := "b", status := .active})
          (Table.single {uuid := "a", name := "a", status := .up, resourceState := .enabled}),
        .evacuate (environmentAt 1000000000) "b" "b" "heartbeat_timeout" 1000000000] := by
  intro config db always
  have bounded := ((always.2 _ rfl).2 _ rfl).2 _ rfl
  have count := bounded 0
  revert count
  decide

end Restarts

end VcStack.HostEvacuation
