import VcStack.HostMonitors

/-!
Fencing. A fenced host is disabled, so that nothing is placed on it, while it may
still be alive: its heartbeats, its registration and the health check read its
row and write it later, in any order. A registration writes the whole row that it
read.
-/

namespace VcStack.HostFencing

open KeyedTables Runs HostEvacuation
open HostMonitors (Settings RegisterRequest HeartbeatRequest Recovering HealthListed registerAgain
  newHost beat markDown)

structure Registration where
  req : RegisterRequest
  now : Int
  existing : Option Host
deriving DecidableEq, Repr

structure Report where
  req : HeartbeatRequest
  now : Int
  host : Host
deriving DecidableEq, Repr

structure State where
  hosts : Table Host.uuid
  now : Int := 0
  registrations : List Registration := []
  reports : List Report := []
  /-- What the health check has read and not yet marked. -/
  silent : List Host := []
  /-- The hosts that were fenced, and since then neither unfenced nor changed by
  an administrator. -/
  fenced : List String := []

inductive Action where
  | readRegistration (req : RegisterRequest)
  | saveRegistration (registration : Registration) (uuid : String)
  | readHeartbeat (req : HeartbeatRequest)
  | writeHeartbeat (report : Report)
  | readHealth
  | writeHealth
  | fenceHost (uuid : String)
  | unfenceHost (uuid : String)
  | updateHostState (uuid : String) (resourceState : HostResourceState) (status : HostStatus)
  | updateHost (uuid : String) (resourceState : HostResourceState)
  | advance (duration : Nat)

def existingHost (hosts : Table Host.uuid) (req : RegisterRequest) : Option Host :=
  hosts.rows.find? fun host =>
    host.ipAddress = req.ipAddress ∧ host.managementPort = req.managementPort

def savedRow (registration : Registration) (existing host : Host) : Host :=
  {registerAgain registration.now registration.req existing with uuid := host.uuid}

variable (state : State) (hosts : Table Host.uuid) (registration : Registration) (uuid : String)

variable {existing : Host}

theorem saved_uuid (host : Host) : (savedRow registration existing host).uuid = host.uuid := rfl

def saveHost (hosts : Table Host.uuid) (registration : Registration) (uuid : String) :
    Table Host.uuid :=
  match registration.existing with
  | some existing =>
    hosts.update existing.uuid (savedRow registration existing) (saved_uuid registration)
  | none =>
    -- The insertion fails when the identifier is taken.
    if taken : uuid ∈ hosts.rows.map Host.uuid then hosts
    else hosts.insert (newHost registration.now registration.req uuid)
      (show (newHost registration.now registration.req uuid).uuid ∉ _ from taken)

def reportedRow (report : Report) (host : Host) : Host :=
  let updated := {host with
    lastHeartbeat := some report.now, cpuAllocated := report.req.cpuAllocated,
    ramAllocatedMB := report.req.ramAllocatedMB, diskAllocatedGB := report.req.diskAllocatedGB}
  if Recovering report.host then {updated with status := .up, disconnectedAt := none} else updated

theorem reported_kept {report : Report} {host : Host} :
    (reportedRow report host).uuid = host.uuid ∧
      (reportedRow report host).resourceState = host.resourceState := by
  unfold reportedRow
  split <;> exact ⟨rfl, rfl⟩

def downRow (now : Int) (read host : Host) : Host :=
  {host with
    status := .down,
    disconnectedAt := if read.disconnectedAt = none then some now else host.disconnectedAt}

def fenceHostInternal (hosts : Table Host.uuid) (uuid : String) : Table Host.uuid :=
  hosts.update uuid (fun host => {host with resourceState := .disabled}) fun _ => rfl

def updateHostState (hosts : Table Host.uuid) (uuid : String) (resourceState : HostResourceState)
    (status : HostStatus) : Table Host.uuid :=
  hosts.update uuid (fun host => {host with resourceState := resourceState, status := status})
    fun _ => rfl

def unfenceHost (hosts : Table Host.uuid) (uuid : String) : Table Host.uuid :=
  updateHostState hosts uuid .enabled .up

def updateHost (hosts : Table Host.uuid) (uuid : String) (resourceState : HostResourceState) :
    Table Host.uuid :=
  hosts.update uuid (fun host => {host with resourceState := resourceState}) fun _ => rfl

theorem down_at_once (now : Int) (host : Host) : downRow now host host = markDown now host := by
  unfold downRow markDown
  cases host.disconnectedAt <;> rfl

def State.release (state : State) (uuid : String) (hosts : Table Host.uuid) : State :=
  {state with hosts := hosts, fenced := state.fenced.filter (· ≠ uuid)}

def step (settings : Settings) (state : State) : Action → Option State
  | .readRegistration req =>
    let registration : Registration :=
      {req := req, now := state.now, existing := existingHost state.hosts req}
    some {state with registrations := registration :: state.registrations}
  | .saveRegistration registration uuid =>
    if registration ∈ state.registrations then
      some {state with
        hosts := saveHost state.hosts registration uuid,
        registrations := state.registrations.erase registration}
    else none
  | .readHeartbeat req =>
    match state.hosts.find req.uuid with
    | none => some state
    | some host =>
      some {state with reports := {req := req, now := state.now, host := host} :: state.reports}
  | .writeHeartbeat report =>
    if report ∈ state.reports then
      some {state with
        hosts := state.hosts.update report.host.uuid (reportedRow report) fun _ => reported_kept.1,
        reports := state.reports.erase report}
    else none
  | .readHealth =>
    if state.silent = [] then
      some {state with
        silent := state.hosts.rows.filter fun host => HealthListed settings state.now host}
    else none
  | .writeHealth =>
    match state.silent with
    | [] => none
    | host :: rest =>
      some {state with
        hosts := state.hosts.update host.uuid (downRow state.now host) fun _ => rfl,
        silent := rest}
  | .fenceHost uuid =>
    if uuid ∈ state.hosts.rows.map Host.uuid then
      some {state with
        hosts := fenceHostInternal state.hosts uuid, fenced := uuid :: state.fenced}
    else some state
  | .unfenceHost uuid => some (state.release uuid (unfenceHost state.hosts uuid))
  | .updateHostState uuid resourceState status =>
    some (state.release uuid (updateHostState state.hosts uuid resourceState status))
  | .updateHost uuid resourceState =>
    some (state.release uuid (updateHost state.hosts uuid resourceState))
  | .advance duration => some {state with now := state.now + duration}

def Schedulable (host : Host) : Prop := host.status = .up ∧ host.resourceState = .enabled

instance (host : Host) : Decidable (Schedulable host) := by
  unfold Schedulable
  infer_instance

def getAvailableHosts (query : HostQuery) (hosts : Table Host.uuid) : Except String (List Host) :=
  query.answer (hosts.rows.filter fun host => Schedulable host)

def StaysOut (state : State) : Prop :=
  ∀ uuid ∈ state.fenced,
    (∀ host ∈ state.hosts.rows, host.uuid = uuid → ¬ Schedulable host) ∧
    (∀ query available, getAvailableHosts query state.hosts = .ok available →
      uuid ∉ available.map Host.uuid) ∧
    ∀ (env : Environment) (db : Database) (excludeHostUUID : String) (instanceID : Nat)
      (destHost : Host), db.hosts = state.hosts →
        findBestHost env db excludeHostUUID instanceID = .ok destHost → destHost.uuid ≠ uuid

theorem available_schedulable {query : HostQuery} {hosts : Table Host.uuid} {available : List Host}
    (answered : getAvailableHosts query hosts = .ok available) {host : Host}
    (member : host ∈ available) : host ∈ hosts.rows ∧ Schedulable host := by
  have among := (query.permuted _ _ answered).mem_iff.mp member
  rw [List.mem_filter] at among
  exact ⟨among.1, of_decide_eq_true among.2⟩

theorem stays_out_iff :
    StaysOut state ↔ ∀ host ∈ state.hosts.rows, host.uuid ∈ state.fenced → ¬ Schedulable host := by
  constructor
  · intro out host listed fenced
    exact (out host.uuid fenced).1 host listed rfl
  · intro barred uuid fenced
    refine ⟨?_, ?_, ?_⟩
    · rintro host listed rfl
      exact barred host listed fenced
    · intro query available answered member
      obtain ⟨host, chosen, rfl⟩ := List.mem_map.mp member
      obtain ⟨listed, schedulable⟩ := available_schedulable answered chosen
      exact barred host listed fenced schedulable
    · rintro env db excludeHostUUID instanceID destHost hosts chosen rfl
      obtain ⟨listed, up, enabled, _⟩ := best_host_suitable env excludeHostUUID db chosen
      exact barred destHost (hosts ▸ listed) fenced ⟨up, enabled⟩

def Disabled (hosts : Table Host.uuid) (fenced : List String) : Prop :=
  ∀ host ∈ hosts.rows, host.uuid ∈ fenced → host.resourceState ≠ .enabled

structure Sound (state : State) : Prop where
  disabled : Disabled state.hosts state.fenced
  present : ∀ uuid ∈ state.fenced, uuid ∈ state.hosts.rows.map Host.uuid
  registered : ∀ registration ∈ state.registrations, ∀ existing,
    registration.existing = some existing → existing.uuid ∈ state.hosts.rows.map Host.uuid

def ReadFenced (state : State) : Action → Prop
  | .saveRegistration registration _ => registration ∈ state.registrations →
      ∀ existing, registration.existing = some existing → existing.uuid ∈ state.fenced →
        existing.resourceState ≠ .enabled
  | _ => True

theorem disabled_update {fenced left : List String} {uuid : String} (change : Host → Host)
    (keeps : ∀ host, (change host).uuid = host.uuid) (disabled : Disabled hosts fenced)
    (others : ∀ other ∈ left, other ≠ uuid → other ∈ fenced)
    (changed : ∀ host ∈ hosts.rows, host.uuid = uuid → uuid ∈ left →
      (change host).resourceState ≠ .enabled) :
    Disabled (hosts.update uuid change keeps) left := by
  intro host listed remains
  obtain ⟨before, member, rfl⟩ := List.mem_map.mp listed
  split_ifs at remains ⊢ with own
  · rw [keeps, own] at remains
    exact changed before member own remains
  · exact disabled before member (others before.uuid remains own)

theorem fence_disabled {fenced : List String} {uuid : String} (disabled : Disabled hosts fenced) :
    Disabled (fenceHostInternal hosts uuid) (uuid :: fenced) := by
  refine disabled_update hosts (fun host => {host with resourceState := .disabled})
    (fun _ => rfl) disabled ?_ ?_
  · intro other member different
    exact (List.mem_cons.mp member).resolve_left different
  · intro host _ _ _ enabled
    cases enabled

theorem sound_kept {uuid : String} (change : Host → Host)
    (keeps : ∀ host, (change host).uuid = host.uuid)
    (leaves : ∀ host, (change host).resourceState = host.resourceState) {reports : List Report}
    {silent : List Host} (sound : Sound state) :
    Sound {state with
      hosts := state.hosts.update uuid change keeps, reports := reports, silent := silent} := by
  refine ⟨?_, ?_, ?_⟩
  · refine disabled_update _ _ keeps sound.disabled (fun _ member _ => member) ?_
    intro host listed own fenced
    rw [leaves]
    exact sound.disabled host listed (own ▸ fenced)
  · dsimp only
    rw [keys_update]
    exact sound.present
  · dsimp only
    rw [keys_update]
    exact sound.registered

theorem sound_released {change : Host → Host} (keeps : ∀ host, (change host).uuid = host.uuid)
    (sound : Sound state) :
    Sound (state.release uuid (state.hosts.update uuid change keeps)) := by
  have among (other : String) (member : other ∈ state.fenced.filter (· ≠ uuid)) :
      other ∈ state.fenced ∧ other ≠ uuid := by
    rw [List.mem_filter] at member
    exact ⟨member.1, of_decide_eq_true member.2⟩
  refine ⟨?_, ?_, ?_⟩
  · refine disabled_update _ _ keeps sound.disabled
      (fun other member _ => (among other member).1) ?_
    intro host listed own member
    exact absurd rfl (among uuid member).2
  · intro other member
    rw [State.release, keys_update]
    exact sound.present other (among other member).1
  · rw [State.release]
    dsimp only
    rw [keys_update]
    exact sound.registered

theorem save_keys {other : String} (listed : other ∈ hosts.rows.map Host.uuid) :
    other ∈ (saveHost hosts registration uuid).rows.map Host.uuid := by
  unfold saveHost
  split
  · rw [keys_update]
    exact listed
  · split_ifs
    · exact listed
    · rw [Table.insert, List.map_append]
      exact List.mem_append_left _ listed

theorem save_disabled (sound : Sound state)
    (barred : ∀ existing, registration.existing = some existing →
      existing.uuid ∈ state.fenced → existing.resourceState ≠ .enabled) :
    Disabled (saveHost state.hosts registration uuid) state.fenced := by
  unfold saveHost
  split
  · rename_i existing read
    refine disabled_update _ _ _ sound.disabled (fun _ member _ => member) ?_
    intro host listed own fenced
    exact barred existing read fenced
  · split_ifs with taken
    · exact sound.disabled
    · intro host listed fenced
      rcases List.mem_append.mp listed with old | new
      · exact sound.disabled host old fenced
      · -- A new host has an identifier that was never fenced.
        rw [List.mem_singleton.mp new] at fenced
        exact absurd (sound.present _ fenced) taken

theorem read_known {req : RegisterRequest}
    (found : existingHost hosts req = some existing) :
    existing.uuid ∈ hosts.rows.map Host.uuid :=
  List.mem_map_of_mem (List.mem_of_find?_eq_some found)

theorem step_sound {settings : Settings} (state : State) (action : Action) (next : State)
    (sound : Sound state) (fresh : ReadFenced state action)
    (taken : step settings state action = some next) : Sound next := by
  cases action with
  | readRegistration req =>
    cases taken
    refine ⟨sound.disabled, sound.present, ?_⟩
    intro registration member existing read
    rcases List.mem_cons.mp member with rfl | old
    · exact read_known state.hosts read
    · exact sound.registered registration old existing read
  | saveRegistration registration uuid =>
    obtain ⟨pending, ended⟩ := Option.ite_none_right_eq_some.mp taken
    cases ended
    refine ⟨save_disabled state registration uuid sound (fresh pending), ?_, ?_⟩
    · intro other fenced
      exact save_keys _ _ _ (sound.present other fenced)
    · intro other member existing read
      exact save_keys _ _ _ (sound.registered other (List.mem_of_mem_erase member) existing read)
  | readHeartbeat req =>
    rw [step] at taken
    split at taken
    · cases taken
      exact sound
    · cases taken
      exact ⟨sound.disabled, sound.present, sound.registered⟩
  | writeHeartbeat report =>
    obtain ⟨_, ended⟩ := Option.ite_none_right_eq_some.mp taken
    cases ended
    exact sound_kept state _ _ (fun host => reported_kept.2) sound
  | readHealth =>
    obtain ⟨_, ended⟩ := Option.ite_none_right_eq_some.mp taken
    cases ended
    exact ⟨sound.disabled, sound.present, sound.registered⟩
  | writeHealth =>
    rw [step] at taken
    split at taken
    · cases taken
    · cases taken
      rename_i host rest _
      exact sound_kept state (downRow state.now host) (fun _ => rfl) (fun _ => rfl) sound
  | fenceHost uuid =>
    rw [step] at taken
    split_ifs at taken with known
    · cases taken
      refine ⟨fence_disabled state.hosts sound.disabled, ?_, ?_⟩
      · intro other member
        rw [fenceHostInternal, keys_update]
        rcases List.mem_cons.mp member with rfl | old
        · exact known
        · exact sound.present other old
      · rw [fenceHostInternal]
        dsimp only
        rw [keys_update]
        exact sound.registered
    · cases taken
      exact sound
  | unfenceHost uuid =>
    cases taken
    refine sound_released state uuid ?_ sound
    exact fun _ => rfl
  | updateHostState uuid resourceState status =>
    cases taken
    exact sound_released state uuid _ sound
  | updateHost uuid resourceState =>
    cases taken
    exact sound_released state uuid _ sound
  | advance duration =>
    cases taken
    exact ⟨sound.disabled, sound.present, sound.registered⟩

theorem stale_save_schedulable (sound : Sound state)
    (pending : registration ∈ state.registrations) (read : registration.existing = some existing)
    (fenced : existing.uuid ∈ state.fenced) (enabled : existing.resourceState = .enabled) :
    ∃ host ∈ (saveHost state.hosts registration uuid).rows,
      host.uuid ∈ state.fenced ∧ Schedulable host := by
  obtain ⟨row, listed, named⟩ := List.mem_map.mp
    (sound.registered registration pending existing read)
  refine ⟨savedRow registration existing row, ?_, ?_, rfl, enabled⟩
  · rw [saveHost, read]
    refine List.mem_map.mpr ⟨row, listed, ?_⟩
    rw [if_pos named]
  · exact named ▸ fenced

/-- In any interleaving, fenced hosts stay out until they are unfenced or changed
by an administrator exactly when no registration is saved for a fenced host with a
row that was read as enabled. -/
theorem fenced_stays_out_iff (settings : Settings) (hosts : Table Host.uuid)
    (actions : List Action) :
    Always (step settings) StaysOut {hosts := hosts} actions ↔
      Guarded (step settings) ReadFenced {hosts := hosts} actions := by
  apply always_iff_guarded Sound StaysOut
  · intro state sound
    rw [stays_out_iff]
    intro host listed fenced schedulable
    exact sound.disabled host listed fenced schedulable.2
  · exact step_sound
  · intro state action sound stale
    cases action with
    | saveRegistration registration uuid =>
      simp only [ReadFenced, not_forall, not_not] at stale
      obtain ⟨pending, existing, read, fenced, enabled⟩ := stale
      refine ⟨_, if_pos pending, ?_⟩
      rw [stays_out_iff]
      intro out
      obtain ⟨host, listed, barred, schedulable⟩ :=
        stale_save_schedulable state registration uuid sound pending read fenced enabled
      exact out host listed barred schedulable
    | _ => exact absurd trivial stale
  · exact ⟨fun _ _ fenced => absurd fenced List.not_mem_nil,
      fun _ fenced => absurd fenced List.not_mem_nil,
      fun _ pending => absurd pending List.not_mem_nil⟩

def liveHost : Host where
  uuid := "h"
  status := .up
  resourceState := .enabled
  ipAddress := "10.0.0.5"
  managementPort := 8081
  cpuCores := 8
  ramMB := 4096
  diskGB := 100
  lastHeartbeat := some 0

def liveRequest : RegisterRequest where
  name := "h"
  ipAddress := "10.0.0.5"
  managementPort := 8081
  cpuCores := 8
  ramMB := 4096
  diskGB := 100

/-- The host registers again while it is fenced. -/
theorem fence_overwritten :
    ∃ state, run (step {}) {hosts := Table.single liveHost}
        [.readRegistration liveRequest, .fenceHost "h",
          .saveRegistration {req := liveRequest, now := 0, existing := some liveHost} "new"] =
          some state ∧
      state.fenced = ["h"] ∧
      state.hosts.rows.map (fun host => (host.uuid, host.status, host.resourceState)) =
        [("h", .up, .enabled)] ∧
      (getAvailableHosts byLoad state.hosts).toOption.map (List.map Host.uuid) = some ["h"] := by
  refine ⟨_, rfl, ?_⟩
  decide +kernel

end VcStack.HostFencing
