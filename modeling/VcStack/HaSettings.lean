import VcStack.HostEvacuation
import VcStack.TextEncodings

/-!
The requests that write the protection settings of an instance, and what the
evacuations after them make of those settings.
-/

namespace VcStack.HaSettings

open KeyedTables Runs HostEvacuation TextEncodings

inductive Refusal where
  | invalidInstanceID
  | instanceNotFound
  | invalidBody (reason : String)
deriving DecidableEq, Repr

def Refusal.response : Refusal → Nat × String
  | .invalidInstanceID => (400, "invalid instance ID")
  | .instanceNotFound => (404, "instance not found")
  | .invalidBody reason => (400, reason)

/-- What an insertion writes of a field whose column has a default: the default in
place of the zero value. -/
def orDefault {Value : Type} [DecidableEq Value] (zero default value : Value) : Value :=
  if value = zero then default else value

def createdRow (cfg : InstanceHAConfig) : InstanceHAConfig :=
  {cfg with
    -- No insertion can store false here.
    haEnabled := orDefault false true cfg.haEnabled,
    priority := orDefault 0 0 cfg.priority,
    maxRestarts := orDefault 0 3 cfg.maxRestarts,
    restartCount := orDefault 0 0 cfg.restartCount}

/-- An insertion. The unique index on `instance_id` refuses a second row, with an
error that nothing reads. -/
def createConfig (db : Database) (cfg : InstanceHAConfig) : Database :=
  if fresh : cfg.instanceID ∉ db.configs.rows.map InstanceHAConfig.instanceID then
    {db with configs := db.configs.insert (createdRow cfg) fresh}
  else db

def setEnabled (db : Database) (instanceID : Nat) (enabled : Bool) : Database :=
  {db with
    configs := db.configs.update instanceID (fun cfg => {cfg with haEnabled := enabled})
      fun _ => rfl}

def parseInstanceID (param : String) : Option Nat :=
  (parseUint 4294967295 param).toOption

def setInstanceHAState (db : Database) (param : String) (enabled : Bool) :
    Database × Except Refusal Bool :=
  match parseInstanceID param with
  | none => (db, .error .invalidInstanceID)
  | some instanceID =>
    match db.configs.find instanceID with
    | none =>
      -- The response carries the flag of the request, not the one that is stored.
      (createConfig db
        {instanceID := instanceID, haEnabled := enabled, priority := 0, maxRestarts := 3},
        .ok enabled)
    | some _ => (setEnabled db instanceID enabled, .ok enabled)

structure HARequest where
  haEnabled : Option Bool := none
  priority : Option Int := none
  policyID : Option Nat := none
  maxRestarts : Option Int64 := none
deriving DecidableEq

def HARequest.applied (req : HARequest) (cfg : InstanceHAConfig) : InstanceHAConfig :=
  {cfg with
    haEnabled := req.haEnabled.getD cfg.haEnabled,
    priority := req.priority.getD cfg.priority,
    policyID := req.policyID.or cfg.policyID,
    maxRestarts := req.maxRestarts.getD cfg.maxRestarts}

def updateConfig (db : Database) (instanceID : Nat) (req : HARequest) : Database :=
  {db with configs := db.configs.update instanceID req.applied fun _ => rfl}

def findOrCreate (db : Database) (instanceID : Nat) : Database :=
  match db.configs.find instanceID with
  | none =>
    createConfig db {instanceID := instanceID, haEnabled := true, priority := 0, maxRestarts := 3}
  | some _ => db

def updateInstanceHA (db : Database) (param : String) (body : Except String HARequest) :
    Database × Except Refusal (Option InstanceHAConfig) :=
  match parseInstanceID param with
  | none => (db, .error .invalidInstanceID)
  | some instanceID =>
    if (db.instances.find instanceID).any (fun inst => !inst.deleted) = false then
      (db, .error .instanceNotFound)
    else
      match body with
      | .error reason => (db, .error (.invalidBody reason))
      | .ok req =>
        let updated := updateConfig (findOrCreate db instanceID) instanceID req
        (updated, .ok (updated.configs.find instanceID))

section Writes

variable (db : Database) (id : Nat)

theorem created_found {cfg : InstanceHAConfig} (missing : db.configs.find cfg.instanceID = none) :
    (createConfig db cfg).configs.find cfg.instanceID = some (createdRow cfg) := by
  have fresh := (find_none_iff _).mp missing
  rw [createConfig, dif_pos fresh]
  exact find_of_mem (db.configs.insert (createdRow cfg) fresh) (createdRow cfg)
    (List.mem_append_right _ (List.mem_singleton_self _))

theorem create_other {cfg : InstanceHAConfig} (different : id ≠ cfg.instanceID) :
    (createConfig db cfg).configs.find id = db.configs.find id := by
  unfold createConfig
  split_ifs with taken
  · rfl
  · exact find_insert_other db.configs (createdRow cfg) taken different

theorem find_or_create_other {other : Nat} (different : id ≠ other) :
    (findOrCreate db other).configs.find id = db.configs.find id := by
  unfold findOrCreate
  cases db.configs.find other with
  | none => exact create_other db id different
  | some config => rfl

/-- An update is refused and writes nothing, or is applied to the row of its
instance. -/
theorem update_cases {param : String} {body : Except String HARequest} :
    (updateInstanceHA db param body).1 = db ∨
      ∃ target req, parseInstanceID param = some target ∧ body = .ok req ∧
        (updateInstanceHA db param body).2.isOk = true ∧
        (updateInstanceHA db param body).1 = updateConfig (findOrCreate db target) target req := by
  unfold updateInstanceHA
  cases parseInstanceID param with
  | none => exact Or.inl rfl
  | some target =>
    dsimp only
    split_ifs with missing
    · exact Or.inl rfl
    · cases body with
      | error reason => exact Or.inl rfl
      | ok req => exact Or.inr ⟨target, req, rfl, rfl, rfl, rfl⟩

theorem update_config_other {req : HARequest} {other : Nat} (different : id ≠ other) :
    (updateConfig db other req).configs.find id = db.configs.find id := by
  rw [updateConfig]
  exact find_update_other db.configs other req.applied (fun _ => rfl) different

theorem update_config_found {req : HARequest} :
    (updateConfig db id req).configs.find id = (db.configs.find id).map req.applied := by
  rw [updateConfig]
  exact find_update_same db.configs id req.applied fun _ => rfl

theorem find_or_create_found {config : InstanceHAConfig}
    (found : db.configs.find id = some config) : findOrCreate db id = db := by
  rw [findOrCreate, found]

end Writes

inductive Action where
  | setInstanceHAState (param : String) (enabled : Bool)
  | updateInstanceHA (param : String) (body : Except String HARequest)
  | evacuate (env : Environment) (hostUUID hostName trigger : String)
  | change (instances : Table Instance.id) (hosts : Table Host.uuid)
      (policies : Table HAPolicy.id)

def step (db : Database) : Action → Option Database
  | .setInstanceHAState param enabled => some (setInstanceHAState db param enabled).1
  | .updateInstanceHA param body => some (updateInstanceHA db param body).1
  | .evacuate env hostUUID hostName trigger =>
    some (evacuateHostInternal env db hostUUID hostName trigger).1
  | .change instances hosts policies =>
    some {db with instances := instances, hosts := hosts, policies := policies}

section OptOut

variable (id : Nat)

def Enables (db : Database) : Action → Prop
  | .setInstanceHAState param enabled => parseInstanceID param = some id ∧ enabled = true
  | .updateInstanceHA param body =>
    parseInstanceID param = some id ∧ (updateInstanceHA db param body).2.isOk = true ∧
      ∃ req, body = .ok req ∧ req.haEnabled = some true
  | .evacuate _ _ _ _ => False
  | .change _ _ _ => False

structure SkippedBy (env : Environment) (db : Database) (hostUUID hostName trigger : String) :
    Prop where
  recorded : ∀ record ∈ (evacuateHostInternal env db hostUUID hostName trigger).2.instances,
    record.instanceID = id → record.status = .skipped
  listed : ∀ inst ∈ db.instances.rows, inst.id = id → RunsOn hostUUID inst →
    ∃ record ∈ (evacuateHostInternal env db hostUUID hostName trigger).2.instances,
      record.instanceID = id
  stays : ((evacuateHostInternal env db hostUUID hostName trigger).1.instances.find id).map
    Instance.hostID = (db.instances.find id).map Instance.hostID

def Skipped (db : Database) : Prop :=
  ∀ env hostUUID hostName trigger, SkippedBy id env db hostUUID hostName trigger

def OptedOut (db : Database) : Prop :=
  ∃ config, db.configs.find id = some config ∧ config.haEnabled = false

theorem opted_out_settled {env : Environment} {db : Database} {hostUUID hostName trigger : String}
    {inst : Instance} (listed : inst ∈ db.instances.rows) (running : RunsOn hostUUID inst)
    (out : OptedOut inst.id db) :
    ∃ record, record.status = .skipped ∧
      outcome env db hostUUID hostName trigger inst.id =
        (View.mark ⟨some inst, db.configs.find inst.id, []⟩ .stopped).note record := by
  obtain ⟨config, found, off⟩ := out
  have unprotected : (targetOf db inst).haEnabled = false := (target_enabled db found).trans off
  have settled := running_settled env db hostUUID hostName trigger listed running
  cases settled with
  | unprotected record _ noted left => exact ⟨record, noted, left⟩
  | limited record on => exact absurd unprotected on
  | homeless record on => exact absurd unprotected on
  | unwritten record on => exact absurd unprotected on
  | moved record destHost on => exact absurd unprotected on

variable {id} in
theorem opted_out_skipped (db : Database) (out : OptedOut id db) : Skipped id db := by
  intro env hostUUID hostName trigger
  -- What the evacuation leaves of the instance, whether it runs on the host or not.
  have view (view : View) (left : outcome env db hostUUID hostName trigger id = view) :
      (evacuateHostInternal env db hostUUID hostName trigger).1.instances.find id = view.inst ∧
      (evacuateHostInternal env db hostUUID hostName trigger).2.instances.filter
        (fun record => record.instanceID = id) = view.records := by
    subst left
    exact ⟨rfl, rfl⟩
  by_cases running : ∃ inst ∈ db.instances.rows, RunsOn hostUUID inst ∧ inst.id = id
  · obtain ⟨inst, listed, runs, rfl⟩ := running
    obtain ⟨record, noted, left⟩ := opted_out_settled listed runs out
    obtain ⟨stored, records⟩ := view _ left
    have only : ∀ other, other ∈ (evacuateHostInternal env db hostUUID hostName
        trigger).2.instances ∧ other.instanceID = inst.id ↔ other = record := by
      intro other
      have member := congrArg (other ∈ ·) records
      simpa [View.note, View.mark] using member
    refine ⟨?_, ?_, ?_⟩
    · intro other among about
      rw [(only other).mp ⟨among, about⟩]
      exact noted
    · intro _ _ _ _
      exact ⟨record, (only record).mpr rfl⟩
    · rw [stored, find_of_mem db.instances inst listed]
      rfl
  · have kept := others_kept env db hostUUID hostName trigger
      (fun inst listed runs same => running ⟨inst, listed, runs, same⟩)
    obtain ⟨stored, records⟩ := view _ kept
    refine ⟨?_, ?_, ?_⟩
    · intro record among about
      have other := List.filter_eq_nil_iff.mp records record among
      exact absurd (decide_eq_true about) other
    · intro inst listed same runs
      exact absurd ⟨inst, listed, runs, same⟩ running
    · rw [stored]

variable {id} in
theorem set_state_kept (db : Database) (param : String) (enabled : Bool) (out : OptedOut id db)
    (other : ¬ (parseInstanceID param = some id ∧ enabled = true)) :
    OptedOut id (setInstanceHAState db param enabled).1 := by
  obtain ⟨config, found, off⟩ := out
  unfold setInstanceHAState
  cases parsed : parseInstanceID param with
  | none => exact ⟨config, found, off⟩
  | some target =>
    dsimp only
    -- A request for another instance writes another row, or creates it.
    by_cases same : id = target
    · subst same
      have disabled : enabled = false := by
        rw [← Bool.not_eq_true]
        exact fun on => other ⟨parsed, on⟩
      rw [found]
      refine ⟨{config with haEnabled := enabled}, ?_, disabled⟩
      rw [setEnabled, find_update_same, found]
      rfl
    · cases db.configs.find target with
      | none => exact ⟨config, (create_other db id same).trans found, off⟩
      | some row =>
        refine ⟨config, ?_, off⟩
        rw [setEnabled, find_update_other _ _ _ _ same]
        exact found

variable {id} in
theorem update_kept (db : Database) (param : String) (body : Except String HARequest)
    (out : OptedOut id db) (other : ¬ Enables id db (.updateInstanceHA param body)) :
    OptedOut id (updateInstanceHA db param body).1 := by
  obtain ⟨config, found, off⟩ := out
  rcases update_cases db with refused | ⟨target, req, parsed, given, answered, written⟩
  · rw [refused]
    exact ⟨config, found, off⟩
  · rw [written]
    by_cases same : id = target
    · subst same
      have silent : req.haEnabled ≠ some true := fun on => other ⟨parsed, answered, req, given, on⟩
      rw [find_or_create_found db id found]
      refine ⟨req.applied config, ?_, ?_⟩
      · rw [update_config_found, found]
        rfl
      · -- A request that is silent on the flag leaves it as it is.
        cases flag : req.haEnabled with
        | none => simp [HARequest.applied, flag, off]
        | some enabled =>
          cases enabled with
          | false => simp [HARequest.applied, flag]
          | true => exact absurd flag silent
    · refine ⟨config, ?_, off⟩
      rw [update_config_other _ _ same, find_or_create_other db id same]
      exact found

variable {id} in
theorem evacuation_kept (env : Environment) (db : Database) (hostUUID hostName trigger : String)
    (out : OptedOut id db) :
    OptedOut id (evacuateHostInternal env db hostUUID hostName trigger).1 := by
  obtain ⟨config, found, off⟩ := out
  rcases restart_cases id env hostUUID hostName trigger found with
    ⟨_, on, _⟩ | ⟨_, kept⟩
  · rw [off] at on
    contradiction
  · exact ⟨config, kept, off⟩

theorem step_kept (db : Database) (action : Action) (next : Database) (out : OptedOut id db)
    (other : ¬ Enables id db action) (taken : step db action = some next) : OptedOut id next := by
  cases action with
  | setInstanceHAState param enabled =>
    cases taken
    exact set_state_kept db param enabled out other
  | updateInstanceHA param body =>
    cases taken
    exact update_kept db param body out other
  | evacuate env hostUUID hostName trigger =>
    cases taken
    exact evacuation_kept env db hostUUID hostName trigger out
  | change instances hosts policies =>
    cases taken
    exact out

end OptOut

section Disable

variable (db : Database) (id : Nat) (param : String) (parsed : parseInstanceID param = some id)

include parsed

theorem disable_found {config : InstanceHAConfig} (found : db.configs.find id = some config) :
    OptedOut id (setInstanceHAState db param false).1 := by
  simp only [setInstanceHAState, parsed, found]
  refine ⟨{config with haEnabled := false}, ?_, rfl⟩
  rw [setEnabled, find_update_same, found]
  rfl

theorem disable_answered : (setInstanceHAState db param false).2 = .ok false := by
  simp only [setInstanceHAState, parsed]
  cases db.configs.find id <;> rfl

theorem disable_missing (missing : db.configs.find id = none) :
    (setInstanceHAState db param false).1.configs.find id = some {instanceID := id} := by
  simp only [setInstanceHAState, parsed, missing]
  exact created_found db missing

end Disable

def onlyInstance (id : Nat) : Table Instance.id :=
  Table.single {id := id, name := "web", hostID := "a", status := .active}

theorem protected_not_skipped {db : Database} {id : Nat}
    (found : db.configs.find id = some {instanceID := id}) :
    ¬ Skipped id {db with instances := onlyInstance id} := by
  intro skipped
  have recorded := (skipped (environmentAt 0) "a" "a" "heartbeat_timeout").recorded
  have settled := running_settled (environmentAt 0) {db with instances := onlyInstance id}
    "a" "a" "heartbeat_timeout" (List.mem_singleton_self _) ⟨rfl, Or.inl rfl, rfl⟩
  dsimp only at settled
  -- The record of any other exit is not a skip.
  have refuted (view : View) (record : EvacuationInstance)
      (left : outcome (environmentAt 0) {db with instances := onlyInstance id} "a" "a"
        "heartbeat_timeout" id = view.note record) (noted : record.status ≠ .skipped) : False := by
    have member : record ∈ (outcome (environmentAt 0) {db with instances := onlyInstance id}
        "a" "a" "heartbeat_timeout" id).records := by
      rw [left]
      exact List.mem_append_right _ (List.mem_singleton_self _)
    obtain ⟨among, about⟩ := List.mem_filter.mp member
    exact noted (recorded record among (of_decide_eq_true about))
  cases settled with
  | unprotected record off => simp [targetOf, found] at off
  | limited record on blocked => simp [Blocked, found, restartLimited] at blocked
  | homeless record _ _ noted left => exact refuted _ record left (by simp [noted])
  | unwritten record _ _ _ noted left => exact refuted _ record left (by simp [noted])
  | moved record destHost _ _ _ noted left => exact refuted _ record left (by simp [noted])

/-- A disable request is answered with success. It is honoured by all evacuations
until the protection is enabled again, whatever happens in between, exactly when
the instance had a row. -/
theorem opt_out_honoured_iff (db : Database) (id : Nat) (param : String)
    (parsed : parseInstanceID param = some id) :
    let ended := setInstanceHAState db param false
    ended.2 = .ok false ∧
      ((∀ actions, Guarded step (fun db action => ¬ Enables id db action) ended.1 actions →
          Always step (Skipped id) ended.1 actions) ↔
        db.configs.find id ≠ none) := by
  intro ended
  refine ⟨disable_answered db id param parsed, ?_⟩
  constructor
  · intro honoured missing
    have found := disable_missing db id param parsed missing
    -- The instance is active on a host that fails.
    have always := honoured [.change (onlyInstance id) ended.1.hosts ended.1.policies]
      ⟨fun enables => enables, fun _ _ => trivial⟩
    exact protected_not_skipped found (always.2 _ rfl)
  · intro present actions quiet
    obtain ⟨config, found⟩ := Option.ne_none_iff_exists'.mp present
    exact always_of_guarded opted_out_skipped (step_kept id)
      ended.1 (disable_found db id param parsed found) quiet

def unconfiguredDatabase : Database where
  instances := Table.single
    {id := 1, name := "web", hostID := "a", status := .active, vcpus := 2}
  hosts := Table.single
    {uuid := "b", name := "b", status := .up, resourceState := .enabled, cpuCores := 8}
  configs := {rows := [], distinct := by decide}
  policies := {rows := [], distinct := by decide}

theorem configured_opt_out_honoured :
    let ended := setInstanceHAState (protectedDatabase {instanceID := 1} 3600) "1" false
    ended.2 = .ok false ∧
      ∀ actions, Guarded step (fun db action => ¬ Enables 1 db action) ended.1 actions →
        Always step (Skipped 1) ended.1 actions := by
  have honoured := opt_out_honoured_iff (protectedDatabase {instanceID := 1} 3600) 1 "1" (by decide)
  exact ⟨honoured.1, honoured.2.mpr (by decide)⟩

/-- The disable request succeeds and the next evacuation moves the instance. -/
theorem unconfigured_instance_moved :
    let ended := setInstanceHAState unconfiguredDatabase "1" false
    let finished := evacuateHostInternal (environmentAt 0) ended.1 "a" "a" "heartbeat_timeout"
    ended.2 = .ok false ∧
      (∃ record ∈ finished.2.instances, record.instanceID = 1 ∧ record.status = .completed) ∧
      (finished.1.instances.find 1).map Instance.hostID = some "b" := by
  decide

end VcStack.HaSettings
