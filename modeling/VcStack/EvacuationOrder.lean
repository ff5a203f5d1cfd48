import VcStack.Admissions
import VcStack.HostAllocations

/-!
The order of an evacuation. The instances of a host are served by descending
priority from the room left on the other hosts, which only shrinks as they are
placed.
-/

namespace VcStack.EvacuationOrder

open KeyedTables HostEvacuation HostAllocations Admissions

def NoLarger (small large : FlavorInfo) : Prop :=
  ∀ resource, need small resource ≤ need large resource

theorem suitable_smaller {source : String} {small large : FlavorInfo} {host : Host}
    (noLarger : NoLarger small large) (suitable : Suitable source large host) :
    Suitable source small host := by
  obtain ⟨up, enabled, other, cpu, ram, disk⟩ := suitable
  -- A limit that the smaller one meets at all is one that the larger one meets.
  refine ⟨up, enabled, other, ?_, ?_, ?_⟩
  · intro asked
    have grows : small.vcpus ≤ large.vcpus := noLarger .cpu
    have room := cpu (by omega)
    omega
  · intro asked
    have grows : small.ramMB ≤ large.ramMB := noLarger .ram
    have room := ram (by omega)
    omega
  · intro asked
    have grows : small.diskGB ≤ large.diskGB := noLarger .disk
    have room := disk (by omega)
    omega

def HasRoom (source : String) (hosts : Table Host.uuid) (fi : FlavorInfo) : Prop :=
  ∃ host ∈ hosts.rows, Suitable source fi host

variable {fi : FlavorInfo} {hosts : Table Host.uuid} {record : EvacuationInstance}
  {target : EvacuationTarget}

theorem allocate_room {source : String} {db : Database} {destHost : Host} {taken : FlavorInfo}
    (sized : ∀ resource, 0 ≤ need taken resource)
    (room : HasRoom source (allocate db destHost taken).hosts fi) :
    HasRoom source db.hosts fi := by
  obtain ⟨host, listed, up, enabled, other, cpu, ram, disk⟩ := room
  have vcpus : 0 ≤ taken.vcpus := sized .cpu
  have ramMB : 0 ≤ taken.ramMB := sized .ram
  have diskGB : 0 ≤ taken.diskGB := sized .disk
  obtain ⟨before, known, rfl⟩ := List.mem_map.mp listed
  refine ⟨before, known, ?_⟩
  split_ifs at up enabled other cpu ram disk with chosen
  · dsimp only at up enabled other cpu ram disk
    refine ⟨up, enabled, other, ?_, ?_, ?_⟩
    · intro asked
      have room := cpu asked
      omega
    · intro asked
      have room := ram asked
      omega
    · intro asked
      have room := disk asked
      omega
  · exact ⟨up, enabled, other, cpu, ram, disk⟩

section Rounds

variable (env : Environment) (source : String)

def Homeless (record : EvacuationInstance) : Prop :=
  record.status = .failed ∧
    record.errorMessage = "no suitable host: no healthy hosts with sufficient resources"

instance (record : EvacuationInstance) : Decidable (Homeless record) := by
  unfold Homeless
  infer_instance

theorem best_host_absent {db : Database} {id : Nat}
    (absent : findBestHost env db source id = .error "no healthy hosts with sufficient resources") :
    ¬ HasRoom source db.hosts (flavorInfo db id) := by
  rintro ⟨host, listed, suitable⟩
  unfold findBestHost at absent
  dsimp only at absent
  split at absent
  · -- The errors of the query have a beginning of their own.
    rename_i reason _
    have message := Except.error.inj absent
    have heads := congrArg (fun text : String => text.toList.head?) message
    simp at heads
  · rename_i answered
    have nobody := (env.hostQuery id).permuted _ _ answered
    apply List.not_mem_nil (a := host)
    rw [nobody.mem_iff, List.mem_filter]
    exact ⟨listed, decide_eq_true suitable⟩
  · contradiction

structure Truthful (hosts : Table Host.uuid) (fi : FlavorInfo) (record : EvacuationInstance) :
    Prop where
  refused : Homeless record → ¬ HasRoom source hosts fi
  granted : record.status = .completed → HasRoom source hosts fi

theorem skipped_truthful
    (noted : record.status = .skipped) : Truthful source hosts fi record := by
  constructor
  · rintro ⟨failed, _⟩
    rw [noted] at failed
    contradiction
  · intro placed
    rw [noted] at placed
    contradiction

theorem failed_truthful
    (noted : record.status = .failed) (refused : Homeless record → ¬ HasRoom source hosts fi) :
    Truthful source hosts fi record := by
  refine ⟨refused, ?_⟩
  intro placed
  rw [noted] at placed
  contradiction

theorem placed_truthful
    (noted : record.status = .completed) (room : HasRoom source hosts fi) :
    Truthful source hosts fi record := by
  refine ⟨?_, fun _ => room⟩
  rintro ⟨failed, _⟩
  rw [noted] at failed
  contradiction

theorem round_answer {progress : Progress} :
    ∃ record : EvacuationInstance,
      (evacuateTarget env source progress target).records = progress.records ++ [record] ∧
      record.instanceID = target.instanceID ∧
      Truthful source progress.db.hosts (flavorInfo progress.db target.instanceID) record := by
  have round := round_cases env source progress target
  generalize evacuateTarget env source progress target = after at round
  cases round with
  | unprotected => exact ⟨_, rfl, rfl, skipped_truthful source rfl⟩
  | limited => exact ⟨_, rfl, rfl, skipped_truthful source rfl⟩
  | homeless reason _ _ absent =>
    refine ⟨_, rfl, rfl, failed_truthful source rfl ?_⟩
    rintro ⟨_, message⟩
    have same : reason = "no healthy hosts with sufficient resources" :=
      (String.append_right_inj "no suitable host: ").mp message
    exact best_host_absent env source (same ▸ absent)
  | unwritten reason =>
    -- The message of a failed write begins with another letter.
    refine ⟨_, rfl, rfl, failed_truthful source rfl ?_⟩
    rintro ⟨_, message⟩
    have heads := congrArg (fun text : String => text.toList.head?) message
    simp at heads
  | moved destHost _ _ chosen =>
    have suitable := best_host_suitable env source _ chosen
    exact ⟨_, rfl, rfl, placed_truthful source rfl ⟨destHost, suitable⟩⟩

theorem round_room {progress : Progress}
    (sized : ∀ resource, 0 ≤ need (flavorInfo progress.db target.instanceID) resource)
    (room : HasRoom source (evacuateTarget env source progress target).db.hosts fi) :
    HasRoom source progress.db.hosts fi := by
  have writes := round_writes env source progress target
  generalize (evacuateTarget env source progress target).db = after at writes room
  cases writes with
  | nothing => exact room
  | mark => exact room
  | move destHost now on chosen => exact allocate_room sized room

end Rounds

section Whole

variable (env : Environment) (db : Database) (source hostName trigger : String)

def Sized (db : Database) : Prop :=
  ∀ inst ∈ db.instances.rows, ∀ resource, 0 ≤ demand inst resource

instance (db : Database) : Decidable (Sized db) := by
  unfold Sized
  infer_instance

/-- An evacuation as a service: the room is what the hosts have left for the
instances, whose sizes stay the same. -/
def evacuation (sized : Sized db) : Service Progress EvacuationTarget EvacuationInstance where
  serve := evacuateTarget env source
  log := Progress.records
  Sound progress := ∀ id, flavorInfo progress.db id = flavorInfo db id
  Room progress record := HasRoom source progress.db.hosts (flavorInfo db record.instanceID)
  Refused := Homeless
  Granted record := record.status = .completed
  Answers target record := record.instanceID = target.instanceID
  kept := by
    intro progress target sound id
    rw [writes_flavor (round_writes env source progress target), sound]
  shrinks := by
    intro progress target record sound room
    refine round_room env source ?_ room
    intro resource
    rw [sound]
    exact flavor_sized db _ resource sized
  answered := by
    intro progress target sound
    obtain ⟨record, noted, about, truthful⟩ := round_answer env source
    rw [sound, ← about] at truthful
    exact ⟨record, noted, about, truthful.refused, truthful.granted⟩

def priorityOf (db : Database) (id : Nat) : Int :=
  (db.configs.find id).elim 0 InstanceHAConfig.priority

theorem target_priority
    (listed : target ∈ sortTargets (targetsOf db source)) :
    priorityOf db target.instanceID = target.priority := by
  obtain ⟨inst, _, _, rfl⟩ := target_listed.mp listed
  rw [target_of_id, priorityOf, targetOf]
  cases db.configs.find inst.id <;> rfl

theorem answers_ids {targets : List EvacuationTarget} {records : List EvacuationInstance}
    (answers : List.Forall₂ (fun target record => record.instanceID = target.instanceID)
      targets records) :
    records.map EvacuationInstance.instanceID = targets.map EvacuationTarget.instanceID := by
  induction answers with
  | nil => rfl
  | cons about _ ih => rw [List.map_cons, List.map_cons, about, ih]

theorem records_ids (sized : Sized db) :
    (evacuateTargets env db source).records.map EvacuationInstance.instanceID =
      (sortTargets (targetsOf db source)).map EvacuationTarget.instanceID := by
  obtain ⟨records, noted, answers⟩ := @run_answers _ _ _ (evacuation env db source sized)
    (sortTargets (targetsOf db source)) {db := db} (fun _ => rfl)
  have all : (evacuateTargets env db source).records = records := noted
  rw [all]
  exact answers_ids answers

theorem records_sorted (sized : Sized db) :
    (evacuateTargets env db source).records.Pairwise fun first second =>
      priorityOf db second.instanceID ≤ priorityOf db first.instanceID := by
  have sorted : ((sortTargets (targetsOf db source)).map EvacuationTarget.instanceID).Pairwise
      fun first second => priorityOf db second ≤ priorityOf db first := by
    rw [List.pairwise_map]
    apply sort_targets_sorted.imp_of_mem
    intro first second firstListed secondListed descends
    rw [target_priority db source firstListed, target_priority db source secondListed]
    exact descends
  rw [← records_ids env db source sized] at sorted
  exact List.pairwise_map.mp sorted

end Whole

/-- The instances of the host are served once each, by descending priority. Where
one fails because no host is suitable, no instance of a lower priority that is
at least as large in all three sizes is placed. -/
theorem no_priority_inversion (env : Environment) (db : Database)
    (hostUUID hostName trigger : String) (sized : Sized db) :
    let evt := (evacuateHostInternal env db hostUUID hostName trigger).2
    (evt.instances.map EvacuationInstance.instanceID).Perm
        ((db.instances.rows.filter fun inst => RunsOn hostUUID inst).map Instance.id) ∧
      (evt.instances.Pairwise fun first second =>
        priorityOf db second.instanceID ≤ priorityOf db first.instanceID) ∧
      ∀ failed ∈ evt.instances, Homeless failed →
        ∀ placed ∈ evt.instances, placed.status = .completed →
          priorityOf db placed.instanceID < priorityOf db failed.instanceID →
          ¬ NoLarger (flavorInfo db failed.instanceID) (flavorInfo db placed.instanceID) := by
  intro evt
  have noted := (evacuation_progress env db hostUUID hostName trigger).2
  rw [show evt.instances = (evacuateTargets env db hostUUID).records from noted]
  have sorted := records_sorted env db hostUUID sized
  refine ⟨?_, sorted, ?_⟩
  · rw [records_ids env db hostUUID sized]
    exact targets_ids
  · intro failed failedListed homeless placed placedListed completed lower noLarger
    -- The run starts with an empty log, so nothing was refused yet.
    have fair : (evacuation env db hostUUID sized).Fair (evacuateTargets env db hostUUID) :=
      run_fair _ ⟨fun _ => rfl, fun _ listed => absurd listed List.not_mem_nil, .nil⟩
    refine no_inversion fair sorted failedListed placedListed homeless completed lower ?_
    rintro progress ⟨host, listed, suitable⟩
    exact ⟨host, listed, suitable_smaller noLarger suitable⟩

def crowdedDatabase : Database where
  instances := {
    rows := [{id := 1, name := "web", hostID := "a", status := .active, ramMB := 2},
      {id := 2, name := "db", hostID := "a", status := .active, ramMB := 4}],
    distinct := by decide }
  hosts := Table.single
    {uuid := "b", name := "b", status := .up, resourceState := .enabled, ramMB := 3}
  configs := Table.single {instanceID := 2, priority := 5}
  policies := Table.single {id := 1}

theorem small_instance_placed :
    let evt := (evacuateHostInternal (environmentAt 0) crowdedDatabase "a" "a"
      "heartbeat_timeout").2
    ∃ failed ∈ evt.instances, Homeless failed ∧
      ∃ placed ∈ evt.instances, placed.status = .completed ∧
        priorityOf crowdedDatabase placed.instanceID <
          priorityOf crowdedDatabase failed.instanceID ∧
        ¬ NoLarger (flavorInfo crowdedDatabase failed.instanceID)
          (flavorInfo crowdedDatabase placed.instanceID) := by
  intro evt
  have served : ∃ failed ∈ evt.instances, Homeless failed ∧
      ∃ placed ∈ evt.instances, placed.status = .completed ∧
        priorityOf crowdedDatabase placed.instanceID <
          priorityOf crowdedDatabase failed.instanceID := by decide
  obtain ⟨failed, failedListed, homeless, placed, placedListed, completed, lower⟩ := served
  have inverted := (no_priority_inversion (environmentAt 0) crowdedDatabase "a" "a"
    "heartbeat_timeout" (by decide)).2.2
  exact ⟨failed, failedListed, homeless, placed, placedListed, completed, lower,
    inverted failed failedListed homeless placed placedListed completed lower⟩

end VcStack.EvacuationOrder
