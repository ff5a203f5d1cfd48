import VcStack.HostFencing

/-!
One pass of the health monitor over any table, with hosts among the rows that
never sent a heartbeat. Each host is marked first and logged afterwards, and the
log line dereferences the heartbeat.
-/

namespace VcStack.HostHealth

open KeyedTables HostEvacuation
open HostMonitors (Settings HealthListed Sustained markDown fiveMinutes)
open HostFencing (downRow down_at_once)

structure Tick where
  queriedAt : Int
  roundAt : String → Int
  queryError : Option String := none
  writeError : String → Option String := fun _ => none

structure Sweep where
  hosts : Table Host.uuid
  evacuations : List String := []
  crashed : Bool := false

variable {host : Host} {hosts : Table Host.uuid}

section Pass

variable (settings : Settings) (tick : Tick)

def selected (hosts : Table Host.uuid) : List Host :=
  match tick.queryError with
  | some _ => []
  | none => hosts.rows.filter fun host => HealthListed settings tick.queriedAt host

def Written (host : Host) : Prop := tick.writeError host.uuid = none

instance (host : Host) : Decidable (Written tick host) :=
  inferInstanceAs (Decidable (_ = _))

theorem down_uuid {now : Int} (read host : Host) : (downRow now read host).uuid = host.uuid := rfl

def mark (hosts : Table Host.uuid) (host : Host) : Table Host.uuid :=
  if Written tick host then
    hosts.update host.uuid (downRow (tick.roundAt host.uuid) host) (down_uuid host)
  else hosts

def visit : Sweep → List Host → Sweep
  | sweep, [] => sweep
  | sweep, host :: rest =>
    if Written tick host then
      let marked := {sweep with hosts := mark tick sweep.hosts host}
      match host.lastHeartbeat with
      -- The dereference of the log line, after the write.
      | none => {marked with crashed := true}
      | some _ =>
        if Sustained (tick.roundAt host.uuid) host then
          visit {marked with evacuations := marked.evacuations ++ [host.uuid]} rest
        else visit marked rest
    else visit sweep rest

def checkHostHealth (hosts : Table Host.uuid) : Sweep :=
  visit tick {hosts := hosts} (selected settings tick hosts)

variable {tick}

theorem visit_onward {sweep : Sweep} {rest : List Host}
    (logged : Written tick host → host.lastHeartbeat ≠ none) :
    ∃ evacuations, visit tick sweep (host :: rest) =
      visit tick {sweep with
        hosts := mark tick sweep.hosts host, evacuations := evacuations} rest := by
  by_cases written : Written tick host
  · obtain ⟨last, heard⟩ := Option.ne_none_iff_exists'.mp (logged written)
    simp only [visit, if_pos written, heard]
    split_ifs with sustained
    · exact ⟨_, rfl⟩
    · exact ⟨_, rfl⟩
  · refine ⟨sweep.evacuations, ?_⟩
    rw [visit, if_neg written, mark, if_neg written]

theorem visit_finishes {listed : List Host} (sweep : Sweep)
    (logged : ∀ host ∈ listed, Written tick host → host.lastHeartbeat ≠ none) :
    (visit tick sweep listed).crashed = sweep.crashed ∧
      (visit tick sweep listed).hosts = listed.foldl (mark tick) sweep.hosts := by
  induction listed generalizing sweep with
  | nil => exact ⟨rfl, rfl⟩
  | cons host rest ih =>
    obtain ⟨evacuations, onward⟩ := visit_onward (logged host List.mem_cons_self)
    rw [onward]
    exact ih _ fun other member => logged other (List.mem_cons_of_mem _ member)

theorem visit_crashes {listed : List Host} (sweep : Sweep) {silent : Host}
    (member : silent ∈ listed) (written : Written tick silent)
    (never : silent.lastHeartbeat = none) : (visit tick sweep listed).crashed = true := by
  induction listed generalizing sweep with
  | nil => exact absurd member List.not_mem_nil
  | cons host rest ih =>
    by_cases logged : Written tick host → host.lastHeartbeat ≠ none
    · have later : silent ∈ rest := by
        rcases List.mem_cons.mp member with rfl | later
        · exact absurd never (logged written)
        · exact later
      obtain ⟨evacuations, onward⟩ := visit_onward logged
      rw [onward]
      exact ih _ later
    · obtain ⟨marked, empty⟩ := Classical.not_imp.mp logged
      rw [visit, if_pos marked, not_not.mp empty]

theorem mark_frame (hosts : Table Host.uuid) (host : Host) (uuid : String)
    (different : uuid ≠ host.uuid) : (mark tick hosts host).find uuid = hosts.find uuid := by
  unfold mark
  split_ifs with written
  · exact find_update_other hosts host.uuid _ _ different
  · rfl

theorem selected_listed
    (member : host ∈ selected settings tick hosts) : host ∈ hosts.rows := by
  unfold selected at member
  split at member
  · exact absurd member List.not_mem_nil
  · exact (List.mem_filter.mp member).1

theorem selected_distinct :
    ((selected settings tick hosts).map Host.uuid).Nodup := by
  unfold selected
  split
  · exact List.nodup_nil
  · exact hosts.distinct.sublist (List.filter_sublist.map _)

theorem marked_selected
    (member : host ∈ selected settings tick hosts) (written : Written tick host) :
    ((selected settings tick hosts).foldl (mark tick) hosts).find host.uuid =
      some (markDown (tick.roundAt host.uuid) host) := by
  -- Only the round of the host itself touches its row.
  obtain ⟨before, unchanged, ended⟩ := loop_once (mark tick) Host.uuid Table.find
    mark_frame _ hosts host member (selected_distinct settings)
  have found := find_of_mem hosts host (selected_listed settings member)
  rw [ended, mark, if_pos written, find_update_same, unchanged, found, ← down_at_once]
  rfl

end Pass

def steadyTick (now : Int) : Tick where
  queriedAt := now
  roundAt _ := now

/-- With a heartbeat in every row, no errors and one reading of the clock, a pass is
the tick of the monitors. -/
theorem pass_is_tick (settings : Settings) (now : Int) (hosts : HostMonitors.Hosts)
    (uuid : String) :
    (checkHostHealth settings (steadyTick now) hosts.table).crashed = false ∧
      (checkHostHealth settings (steadyTick now) hosts.table).hosts.find uuid =
        (HostMonitors.checkHostHealth settings now hosts).table.find uuid := by
  have listed (host : Host) (member : host ∈ selected settings (steadyTick now) hosts.table) :
      host ∈ hosts.table.rows ∧ HealthListed settings now host := by
    obtain ⟨among, timed⟩ := List.mem_filter.mp member
    exact ⟨among, of_decide_eq_true timed⟩
  obtain ⟨returned, left⟩ := visit_finishes {hosts := hosts.table}
    fun host member _ => hosts.heard host (listed host member).1
  refine ⟨returned, ?_⟩
  rw [checkHostHealth, left, HostMonitors.checkHostHealth, HostMonitors.Hosts.change, find_change]
  by_cases chosen : uuid ∈ (selected settings (steadyTick now) hosts.table).map Host.uuid
  · obtain ⟨host, member, rfl⟩ := List.mem_map.mp chosen
    obtain ⟨among, timed⟩ := listed host member
    rw [marked_selected settings member rfl,
      find_of_mem hosts.table host among, Option.map_some, if_pos timed]
    rfl
  · rw [loop_absent (mark (steadyTick now)) Host.uuid Table.find mark_frame _ _ _ chosen]
    cases found : hosts.table.find uuid with
    | none => rfl
    | some host =>
      obtain ⟨among, rfl⟩ := (find_iff _).mp found
      have passed : ¬ HealthListed settings now host := by
        intro timed
        exact chosen (List.mem_map_of_mem (List.mem_filter.mpr ⟨among, decide_eq_true timed⟩))
      rw [Option.map_some, if_neg passed]

/-- A pass returns, and every host that it selected and wrote is down, exactly when
each of these hosts has a heartbeat. -/
theorem health_check_returns_iff (settings : Settings) (tick : Tick) (hosts : Table Host.uuid) :
    let sweep := checkHostHealth settings tick hosts
    (sweep.crashed = false ∧
        ∀ host ∈ selected settings tick hosts, Written tick host →
          ∃ row, sweep.hosts.find host.uuid = some row ∧ row.status = .down) ↔
      ∀ host ∈ selected settings tick hosts, Written tick host → host.lastHeartbeat ≠ none := by
  intro sweep
  constructor
  · rintro ⟨returned, _⟩ host member written never
    have crashed := visit_crashes {hosts := hosts} member written never
    rw [show sweep.crashed = true from crashed] at returned
    contradiction
  · intro logged
    obtain ⟨returned, left⟩ := visit_finishes {hosts := hosts} logged
    refine ⟨returned, ?_⟩
    intro host member written
    refine ⟨markDown (tick.roundAt host.uuid) host, ?_, rfl⟩
    rw [show sweep.hosts = _ from left]
    exact marked_selected settings member written

def silentHosts : Table Host.uuid where
  rows := [{uuid := "new", status := .connecting},
    {uuid := "old", status := .up, lastHeartbeat := some 0}]
  distinct := by decide

/-- The pass crashes on the first of two hosts and leaves the second one up. -/
theorem silent_host_crashes :
    let tick := steadyTick fiveMinutes
    let sweep := checkHostHealth {} tick silentHosts
    (∃ host ∈ selected {} tick silentHosts, Written tick host ∧ host.lastHeartbeat = none) ∧
      sweep.crashed = true ∧
      ∃ host ∈ selected {} tick silentHosts, Written tick host ∧
        (sweep.hosts.find host.uuid).map Host.status = some .up := by
  decide

end VcStack.HostHealth
