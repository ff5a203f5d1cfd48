import VcStack.HostEvacuation

/-!
The two monitors of the host table. The host service and the high-availability
service both mark hosts down that have not been heard from, and both start
evacuations; hosts report by registration and by heartbeat. The clock stands
still during a request and during a tick.
-/

namespace VcStack.HostMonitors

open KeyedTables Runs HostEvacuation

/-- A host table in which every host has been heard from, so that the host
service, which prints the time of the last heartbeat, never follows a null
pointer. -/
structure Hosts where
  table : Table Host.uuid
  heard : ∀ host ∈ table.rows, host.lastHeartbeat ≠ none

def Hosts.change (hosts : Hosts) (change : Host → Host)
    (keeps : ∀ host, (change host).uuid = host.uuid)
    (hears : ∀ host, host.lastHeartbeat ≠ none → (change host).lastHeartbeat ≠ none) : Hosts where
  table := hosts.table.change change keeps
  heard := by
    intro host member
    obtain ⟨before, listed, rfl⟩ := List.mem_map.mp member
    exact hears before (hosts.heard before listed)

structure Settings where
  heartbeatTimeout : Int := 120000000000
  haTimeout : Int := 120000000000
  autoFence : Bool := true
  autoEvacuate : Bool := true

inductive Event where
  | down (uuid : String)
  | evacuate (uuid : String)
  | up (uuid : String)
deriving DecidableEq, Repr

def TimedOut (now timeout : Int) (host : Host) : Prop :=
  host.lastHeartbeat.all (fun last => last < now - timeout) = true

instance (now timeout : Int) (host : Host) : Decidable (TimedOut now timeout host) :=
  inferInstanceAs (Decidable (_ = true))

def fiveMinutes : Int := 300000000000

/-- The fields of the request that reach the modelled columns, the address
already resolved. -/
structure RegisterRequest where
  name : String
  ipAddress : String
  managementPort : Int
  cpuCores : Int
  ramMB : Int
  diskGB : Int
deriving DecidableEq, Repr

/-- The row of a host that registers again; `disconnected_at` stays. -/
def registerAgain (now : Int) (req : RegisterRequest) (host : Host) : Host :=
  {host with
    name := req.name, cpuCores := req.cpuCores, ramMB := req.ramMB, diskGB := req.diskGB,
    lastHeartbeat := some now, status := .up}

def newHost (now : Int) (req : RegisterRequest) (uuid : String) : Host where
  uuid := uuid
  name := req.name
  status := .connecting
  resourceState := .enabled
  ipAddress := req.ipAddress
  managementPort := if req.managementPort > 0 then req.managementPort else 8081
  cpuCores := req.cpuCores
  ramMB := req.ramMB
  diskGB := req.diskGB
  lastHeartbeat := some now

def registered (hosts : Hosts) (req : RegisterRequest) : Option Host :=
  hosts.table.rows.find? fun host =>
    host.ipAddress = req.ipAddress ∧ host.managementPort = req.managementPort

structure HeartbeatRequest where
  uuid : String
  cpuAllocated : Int := 0
  ramAllocatedMB : Int := 0
  diskAllocatedGB : Int := 0
deriving DecidableEq, Repr

def Recovering (host : Host) : Prop :=
  host.status = .down ∨ host.status = .disconnected ∨ host.status = .connecting

instance (host : Host) : Decidable (Recovering host) := by
  unfold Recovering
  infer_instance

def beat (now : Int) (req : HeartbeatRequest) (host : Host) : Host :=
  let updated := {host with
    lastHeartbeat := some now, cpuAllocated := req.cpuAllocated,
    ramAllocatedMB := req.ramAllocatedMB, diskAllocatedGB := req.diskAllocatedGB}
  if Recovering host then {updated with status := .up, disconnectedAt := none} else updated

section Ticks

variable (settings : Settings) (now : Int)

def HealthListed (host : Host) : Prop :=
  (host.status = .up ∨ host.status = .connecting) ∧ TimedOut now settings.heartbeatTimeout host

instance (host : Host) : Decidable (HealthListed settings now host) := by
  unfold HealthListed
  infer_instance

/-- Only the first transition to down sets `disconnected_at`. -/
def markDown (host : Host) : Host :=
  {host with status := .down, disconnectedAt := some (host.disconnectedAt.getD now)}

def Sustained (host : Host) : Prop := now - host.disconnectedAt.getD now > fiveMinutes

instance (host : Host) : Decidable (Sustained now host) :=
  inferInstanceAs (Decidable (_ > _))

def HAListed (host : Host) : Prop :=
  host.status = .up ∧ host.resourceState = .enabled ∧ TimedOut now settings.haTimeout host

instance (host : Host) : Decidable (HAListed settings now host) := by
  unfold HAListed
  infer_instance

def failOver (host : Host) : Host :=
  {host with
    status := .down, disconnectedAt := some now,
    resourceState := if settings.autoFence then .disabled else host.resourceState}

def downEvents (host : Host) : List Event :=
  if host.status = .up ∧ host.resourceState = .enabled then [.down host.uuid] else []

def tickEvents (listed evacuates : Host → Prop) [DecidablePred listed] [DecidablePred evacuates]
    (host : Host) : List Event :=
  if listed host then
    (if evacuates host then [.evacuate host.uuid] else []) ++ downEvents host
  else []

def healthEvents : Host → List Event :=
  tickEvents (HealthListed settings now) (Sustained now)

def haEvents : Host → List Event :=
  tickEvents (HAListed settings now) fun _ => settings.autoEvacuate = true

def checkHostHealth (hosts : Hosts) : Hosts :=
  hosts.change (fun host => if HealthListed settings now host then markDown now host else host)
    (by intro host; split <;> rfl) (by intro host heard; split <;> exact heard)

def checkAndEvacuate (hosts : Hosts) : Hosts :=
  hosts.change (fun host => if HAListed settings now host then failOver settings now host else host)
    (by intro host; split <;> rfl) (by intro host heard; split <;> exact heard)

end Ticks

/-- The table and the clock, with the record of events, the latest first, and
the last contact of each host. -/
structure State where
  hosts : Hosts
  now : Int
  history : List Event := []
  contacts : String → Option Int

inductive Action where
  | registerHost (req : RegisterRequest) (uuid : String)
  | heartbeat (req : HeartbeatRequest)
  | checkHostHealth
  | checkAndEvacuate
  | advance (duration : Nat)

def contacted (state : State) (uuid : String) : String → Option Int :=
  fun other => if other = uuid then some state.now else state.contacts other

def loop (events : Host → List Event) (state : State) : List Event :=
  state.hosts.table.rows.foldl (fun history host => events host ++ history) state.history

def registerHost (state : State) (req : RegisterRequest) (uuid : String) : State :=
  match registered state.hosts req with
  | some existing =>
    {state with
      hosts := state.hosts.change
        (fun host => if host.uuid = existing.uuid then registerAgain state.now req host else host)
        (by intro host; split <;> rfl)
        (by intro host heard; split; exacts [Option.some_ne_none _, heard]),
      history := .up existing.uuid :: state.history,
      contacts := contacted state existing.uuid}
  | none =>
    -- The insertion fails when the identifier is taken.
    if taken : uuid ∈ state.hosts.table.rows.map Host.uuid then state
    else
      {state with
        hosts := {
          table := state.hosts.table.insert (newHost state.now req uuid)
            (show (newHost state.now req uuid).uuid ∉ _ from taken),
          heard := by
            intro host member
            rcases List.mem_append.mp member with old | new
            · exact state.hosts.heard host old
            · rw [List.mem_singleton.mp new]
              exact Option.some_ne_none _ },
        contacts := contacted state uuid}

def heartbeat (state : State) (req : HeartbeatRequest) : State :=
  match state.hosts.table.find req.uuid with
  | none => state
  | some host =>
    {state with
      hosts := state.hosts.change
        (fun other => if other.uuid = req.uuid then beat state.now req other else other)
        (by intro other; split; exacts [by unfold beat; split <;> rfl, rfl])
        (by
          intro other heard
          split
          · unfold beat
            split <;> exact Option.some_ne_none _
          · exact heard),
      history := if Recovering host then .up req.uuid :: state.history else state.history,
      contacts := contacted state req.uuid}

def step (settings : Settings) (state : State) : Action → Option State
  | .registerHost req uuid => some (registerHost state req uuid)
  | .heartbeat req => some (heartbeat state req)
  | .checkHostHealth =>
    some {state with
      hosts := checkHostHealth settings state.now state.hosts,
      history := loop (healthEvents settings state.now) state}
  | .checkAndEvacuate =>
    some {state with
      hosts := checkAndEvacuate settings state.now state.hosts,
      history := loop (haEvents settings state.now) state}
  | .advance duration => some {state with now := state.now + duration}

def start (hosts : Hosts) (now : Int) : State where
  hosts := hosts
  now := now
  contacts := fun uuid => (hosts.table.find uuid).bind Host.lastHeartbeat

def Waiting (uuid : String) : List Event → Prop
  | [] => False
  | .down other :: rest => other = uuid ∨ Waiting uuid rest
  | .evacuate other :: rest => other ≠ uuid ∧ Waiting uuid rest
  | .up other :: rest => other ≠ uuid ∧ Waiting uuid rest

def Accompanied : List Event → Prop
  | [] => True
  | .down _ :: rest => Accompanied rest
  | .evacuate _ :: rest => Accompanied rest
  | .up uuid :: rest => ¬ Waiting uuid rest ∧ Accompanied rest

instance decidableWaiting (uuid : String) : (history : List Event) → Decidable (Waiting uuid history)
  | [] => inferInstanceAs (Decidable False)
  | .down _ :: rest =>
    have := decidableWaiting uuid rest
    inferInstanceAs (Decidable (_ ∨ _))
  | .evacuate _ :: rest =>
    have := decidableWaiting uuid rest
    inferInstanceAs (Decidable (_ ∧ _))
  | .up _ :: rest =>
    have := decidableWaiting uuid rest
    inferInstanceAs (Decidable (_ ∧ _))

instance decidableAccompanied : (history : List Event) → Decidable (Accompanied history)
  | [] => inferInstanceAs (Decidable True)
  | .down _ :: rest => decidableAccompanied rest
  | .evacuate _ :: rest => decidableAccompanied rest
  | .up _ :: rest =>
    have := decidableAccompanied rest
    inferInstanceAs (Decidable (_ ∧ _))

variable {host : Host} {uuid : String} {history : List Event} {hosts : Hosts} {next : State}
  {action : Action}

section Events

variable (listed evacuates : Host → Prop) [DecidablePred listed] [DecidablePred evacuates]

theorem tick_waiting_other
    (different : uuid ≠ host.uuid) :
    Waiting uuid (tickEvents listed evacuates host ++ history) ↔ Waiting uuid history := by
  unfold tickEvents downEvents
  split_ifs <;> simp [Waiting, different.symm]

theorem tick_waiting_own :
    Waiting host.uuid (tickEvents listed evacuates host ++ history) ↔
      if listed host then
        ¬ evacuates host ∧ (host.status = .up ∧ host.resourceState = .enabled ∨
          Waiting host.uuid history)
      else Waiting host.uuid history := by
  unfold tickEvents downEvents
  split_ifs with chosen started enabled enabled
  · simp [Waiting, started]
  · simp [Waiting, started]
  · simp [Waiting, started, enabled]
  · simp [started, enabled]
  · simp

theorem tick_accompanied :
    Accompanied (tickEvents listed evacuates host ++ history) ↔ Accompanied history := by
  unfold tickEvents downEvents
  split_ifs <;> simp [Accompanied]

theorem loop_waiting {state : State} (member : host ∈ state.hosts.table.rows) :
    Waiting host.uuid (loop (tickEvents listed evacuates) state) ↔
      if listed host then
        ¬ evacuates host ∧ (host.status = .up ∧ host.resourceState = .enabled ∨
          Waiting host.uuid state.history)
      else Waiting host.uuid state.history := by
  obtain ⟨before, unchanged, ended⟩ := loop_once
    (fun history host => tickEvents listed evacuates host ++ history) Host.uuid
    (fun history uuid => Waiting uuid history)
    (fun history host uuid different =>
      propext (tick_waiting_other listed evacuates different))
    state.hosts.table.rows state.history host member state.hosts.table.distinct
  rw [loop, ended, tick_waiting_own, unchanged]

theorem loop_waiting_unknown {state : State}
    (unknown : uuid ∉ state.hosts.table.rows.map Host.uuid) :
    Waiting uuid (loop (tickEvents listed evacuates) state) ↔ Waiting uuid state.history := by
  have same := loop_absent (fun history host => tickEvents listed evacuates host ++ history)
    Host.uuid (fun history uuid => Waiting uuid history)
    (fun history host uuid different =>
      propext (tick_waiting_other listed evacuates different))
    state.hosts.table.rows state.history uuid unknown
  exact iff_of_eq same

theorem loop_accompanied {hosts : List Host} (history : List Event) :
    Accompanied (hosts.foldl (fun history host => tickEvents listed evacuates host ++ history)
      history) ↔ Accompanied history := by
  induction hosts generalizing history with
  | nil => exact Iff.rfl
  | cons host rest ih =>
    rw [List.foldl_cons, ih]
    exact tick_accompanied listed evacuates

end Events

section Failover

variable (settings : Settings)

def WaitingDown (state : State) : Prop :=
  ∀ uuid, Waiting uuid state.history →
    ∃ host, state.hosts.table.find uuid = some host ∧ host.status = .down

variable (actions : List Action) {state : State} (req : HeartbeatRequest) (other : String)

theorem register_find {req : RegisterRequest} {other : String}
    (found : state.hosts.table.find other = some host) :
    (registerHost state req uuid).hosts.table.find other =
      if (registered state.hosts req).any (fun existing => other = existing.uuid) then
        some (registerAgain state.now req host)
      else some host := by
  have key : host.uuid = other := ((find_iff _).mp found).2
  unfold registerHost
  cases known : registered state.hosts req with
  | some existing =>
    simp only [Hosts.change, find_change, found, Option.map_some, key, Option.any_some,
      decide_eq_true_eq]
    split_ifs <;> rfl
  | none =>
    simp only [Option.any_none, Bool.false_eq_true, if_false]
    split_ifs with taken
    · exact found
    · have different : other ≠ (newHost state.now req uuid).uuid := by
        intro same
        have listed := ((find_iff _).mp found).1
        have equal : host.uuid = uuid := key.trans same
        exact taken (equal ▸ List.mem_map_of_mem listed)
      exact (find_insert_other _ _ taken different).trans found

theorem heartbeat_find (found : state.hosts.table.find other = some host) :
    (heartbeat state req).hosts.table.find other =
      if other = req.uuid then some (beat state.now req host) else some host := by
  have key : host.uuid = other := ((find_iff _).mp found).2
  unfold heartbeat
  cases known : state.hosts.table.find req.uuid with
  | none =>
    have different : other ≠ req.uuid := by
      rintro rfl
      rw [known] at found
      contradiction
    rw [if_neg different]
    exact found
  | some beating =>
    simp only [Hosts.change, find_change, found, Option.map_some, key]
    split_ifs <;> rfl

theorem heartbeat_reports (found : state.hosts.table.find req.uuid = some host)
    (recovering : Recovering host) :
    (heartbeat state req).history = .up req.uuid :: state.history := by
  unfold heartbeat
  rw [found]
  exact if_pos recovering

theorem health_find (host : Host) (found : state.hosts.table.find other = some host) :
    (checkHostHealth settings state.now state.hosts).table.find other =
      some (if HealthListed settings state.now host then markDown state.now host else host) := by
  simp only [checkHostHealth, Hosts.change, find_change, found, Option.map_some]

theorem ha_find (host : Host) (found : state.hosts.table.find other = some host) :
    (checkAndEvacuate settings state.now state.hosts).table.find other =
      some (if HAListed settings state.now host then failOver settings state.now host else host) := by
  simp only [checkAndEvacuate, Hosts.change, find_change, found, Option.map_some]

theorem register_waiting {req : RegisterRequest} {other : String} :
    Waiting other (registerHost state req uuid).history ↔
      (registered state.hosts req).all (fun existing => other ≠ existing.uuid) = true ∧
        Waiting other state.history := by
  unfold registerHost
  cases registered state.hosts req with
  | some existing =>
    simp only [Option.all_some, decide_eq_true_eq]
    exact and_congr_left' ne_comm
  | none => split_ifs <;> simp

theorem heartbeat_waiting (down : WaitingDown state) :
    Waiting other (heartbeat state req).history ↔ other ≠ req.uuid ∧ Waiting other state.history := by
  unfold heartbeat
  cases known : state.hosts.table.find req.uuid with
  | none =>
    refine ⟨fun waiting => ⟨?_, waiting⟩, fun both => both.2⟩
    rintro rfl
    obtain ⟨host, found, _⟩ := down req.uuid waiting
    rw [known] at found
    contradiction
  | some host =>
    dsimp only
    split_ifs with recovering
    · exact and_congr_left' ne_comm
    · refine ⟨fun waiting => ⟨?_, waiting⟩, fun both => both.2⟩
      rintro rfl
      obtain ⟨same, found, isDown⟩ := down req.uuid waiting
      rw [known] at found
      cases found
      exact recovering (Or.inl isDown)

theorem tick_waiting_down {listed evacuates : Host → Prop} [DecidablePred listed]
    [DecidablePred evacuates] {mark : Host → Host}
    (marked : ∀ host, (mark host).status = .down)
    (rows : ∀ uuid host, state.hosts.table.find uuid = some host →
      hosts.table.find uuid = some (if listed host then mark host else host))
    (down : WaitingDown state) (uuid : String)
    (waiting : Waiting uuid (loop (tickEvents listed evacuates) state)) :
    ∃ host, hosts.table.find uuid = some host ∧ host.status = .down := by
  cases found : state.hosts.table.find uuid with
  | none =>
    rw [loop_waiting_unknown _ _ ((find_none_iff _).mp found)] at waiting
    obtain ⟨host, known, _⟩ := down uuid waiting
    rw [found] at known
    contradiction
  | some host =>
    obtain ⟨member, key⟩ := (find_iff _).mp found
    refine ⟨_, rows uuid host found, ?_⟩
    subst key
    rw [loop_waiting _ _ member] at waiting
    split_ifs with chosen
    · exact marked host
    · rw [if_neg chosen] at waiting
      obtain ⟨same, known, isDown⟩ := down host.uuid waiting
      rw [found] at known
      cases known
      exact isDown

theorem step_waiting_down (down : WaitingDown state)
    (taken : step settings state action = some next) : WaitingDown next := by
  cases action with
  | registerHost req uuid =>
    cases taken
    intro other waiting
    obtain ⟨apart, before⟩ := register_waiting.mp waiting
    obtain ⟨host, found, isDown⟩ := down other before
    refine ⟨host, ?_, isDown⟩
    rw [register_find found]
    cases known : registered state.hosts req with
    | none => simp
    | some existing =>
      have different : ¬ other = existing.uuid := by simpa [known] using apart
      simp [different]
  | heartbeat req =>
    cases taken
    intro other waiting
    obtain ⟨different, before⟩ := (heartbeat_waiting req other down).mp waiting
    obtain ⟨host, found, isDown⟩ := down other before
    refine ⟨host, ?_, isDown⟩
    rw [heartbeat_find req other found, if_neg different]
  | checkHostHealth =>
    cases taken
    exact tick_waiting_down (fun _ => rfl) (health_find settings) down
  | checkAndEvacuate =>
    cases taken
    exact tick_waiting_down (fun _ => rfl) (ha_find settings) down
  | advance duration =>
    cases taken
    exact down

variable (state)

def Quiet (state : State) : Prop := ∀ uuid, ¬ Waiting uuid state.history

theorem sustained_iff {now : Int} :
    Sustained now host ↔ ∃ since, host.disconnectedAt = some since ∧ now - since > fiveMinutes := by
  unfold Sustained
  cases host.disconnectedAt with
  | none =>
    simp only [Option.getD_none, Int.sub_self, reduceCtorEq, false_and, exists_false, iff_false]
    decide
  | some since => simp

/-- When the host service finds an enabled host that is up and has not been heard
from, the host already carries a disconnection more than five minutes old. -/
def Covered (state : State) : Action → Prop
  | .checkHostHealth => ∀ host ∈ state.hosts.table.rows,
      host.status = .up → host.resourceState = .enabled →
      TimedOut state.now settings.heartbeatTimeout host →
      ∃ since, host.disconnectedAt = some since ∧ state.now - since > fiveMinutes
  | _ => True

theorem tick_quiet {listed evacuates : Host → Prop} [DecidablePred listed] [DecidablePred evacuates]
    (quiet : Quiet state)
    (covered : ∀ host ∈ state.hosts.table.rows, listed host → host.status = .up →
      host.resourceState = .enabled → evacuates host) (uuid : String) :
    ¬ Waiting uuid (loop (tickEvents listed evacuates) state) := by
  intro waiting
  by_cases known : uuid ∈ state.hosts.table.rows.map Host.uuid
  · obtain ⟨host, member, rfl⟩ := List.mem_map.mp known
    rw [loop_waiting _ _ member] at waiting
    split_ifs at waiting with chosen
    · rcases waiting with ⟨spared, ⟨up, enabled⟩ | before⟩
      · exact spared (covered host member chosen up enabled)
      · exact quiet host.uuid before
    · exact quiet host.uuid waiting
  · rw [loop_waiting_unknown _ _ known] at waiting
    exact quiet uuid waiting

variable {settings}

theorem step_quiet (auto : settings.autoEvacuate = true) (state : State) (action : Action)
    (next : State) (quiet : Quiet state) (covered : Covered settings state action)
    (taken : step settings state action = some next) : Quiet next := by
  have down : WaitingDown state := fun uuid waiting => absurd waiting (quiet uuid)
  cases action with
  | registerHost req uuid =>
    cases taken
    intro other waiting
    exact quiet other (register_waiting.mp waiting).2
  | heartbeat req =>
    cases taken
    intro other waiting
    exact quiet other ((heartbeat_waiting req other down).mp waiting).2
  | checkHostHealth =>
    cases taken
    apply tick_quiet state quiet
    intro host member chosen up enabled
    exact sustained_iff.mpr (covered host member up enabled chosen.2)
  | checkAndEvacuate =>
    cases taken
    exact tick_quiet state quiet fun _ _ _ _ _ => auto
  | advance duration =>
    cases taken
    exact quiet

theorem uncovered_waits (uncovered : ¬ Covered settings state action) :
    ∃ next, step settings state action = some next ∧ ¬ Quiet next := by
  cases action with
  | checkHostHealth =>
    simp only [Covered, not_forall] at uncovered
    obtain ⟨host, member, up, enabled, silent, fresh⟩ := uncovered
    refine ⟨_, rfl, fun quiet => quiet host.uuid ?_⟩
    refine (loop_waiting _ _ member).mpr ?_
    rw [if_pos ⟨Or.inl up, silent⟩]
    exact ⟨fun sustained => fresh (sustained_iff.mp sustained), Or.inl ⟨up, enabled⟩⟩
  | registerHost | heartbeat | checkAndEvacuate | advance => exact absurd trivial uncovered

theorem quiet_iff (auto : settings.autoEvacuate = true) {now : Int}
    {actions : List Action} :
    Always (step settings) Quiet (start hosts now) actions ↔
      Guarded (step settings) (Covered settings) (start hosts now) actions :=
  always_iff_guarded Quiet Quiet (fun _ quiet => quiet)
    (step_quiet auto) (fun state _ _ => uncovered_waits state)
    actions (start hosts now) fun _ waiting => waiting

theorem step_accompanied (quiet : Quiet state)
    (accompanied : Accompanied state.history) (taken : step settings state action = some next) :
    Accompanied next.history := by
  cases action with
  | registerHost req uuid =>
    cases taken
    unfold registerHost
    cases registered state.hosts req with
    | some existing => exact ⟨quiet existing.uuid, accompanied⟩
    | none => split_ifs <;> exact accompanied
  | heartbeat req =>
    cases taken
    unfold heartbeat
    cases state.hosts.table.find req.uuid with
    | none => exact accompanied
    | some host =>
      dsimp only
      split_ifs
      · exact ⟨quiet req.uuid, accompanied⟩
      · exact accompanied
  | checkHostHealth =>
    cases taken
    exact (loop_accompanied _ _ _).mpr accompanied
  | checkAndEvacuate =>
    cases taken
    exact (loop_accompanied _ _ _).mpr accompanied
  | advance duration =>
    cases taken
    exact accompanied

/-- A host that waits goes on waiting until it is reported up: no monitor looks
at a host that is down. -/
theorem waits_until_up (down : WaitingDown state)
    (waiting : Waiting uuid state.history) (taken : step settings state action = some next)
    (kept : Accompanied next.history) :
    Waiting uuid next.history := by
  obtain ⟨host, found, isDown⟩ := down uuid waiting
  obtain ⟨member, key⟩ := (find_iff _).mp found
  subst key
  cases action with
  | registerHost req other =>
    cases taken
    refine register_waiting.mpr ⟨?_, waiting⟩
    unfold registerHost at kept
    cases known : registered state.hosts req with
    | none => rfl
    | some existing =>
      rw [known] at kept
      apply decide_eq_true
      intro same
      exact kept.1 (same ▸ waiting)
  | heartbeat req =>
    cases taken
    refine (heartbeat_waiting req host.uuid down).mpr ⟨?_, waiting⟩
    intro same
    rw [same] at found waiting
    rw [heartbeat_reports req found (Or.inl isDown)] at kept
    exact kept.1 waiting
  | checkHostHealth =>
    cases taken
    refine (loop_waiting _ _ member).mpr ?_
    rw [if_neg (by simp [HealthListed, isDown])]
    exact waiting
  | checkAndEvacuate =>
    cases taken
    refine (loop_waiting _ _ member).mpr ?_
    rw [if_neg (by simp [HAListed, isDown])]
    exact waiting
  | advance duration =>
    cases taken
    exact waiting

theorem heartbeat_breaks (down : WaitingDown state)
    (waiting : Waiting uuid state.history) :
    ¬ Accompanied (heartbeat state {uuid := uuid}).history := by
  obtain ⟨host, found, isDown⟩ := down uuid waiting
  rw [heartbeat_reports {uuid := uuid} found (Or.inl isDown)]
  exact fun kept => kept.1 waiting

theorem waiting_breaks (down : WaitingDown state)
    (waiting : Waiting uuid state.history) :
    ¬ Always (step settings) (fun state => Accompanied state.history) state
      (actions ++ [Action.heartbeat {uuid := uuid}]) := by
  induction actions generalizing state with
  | nil =>
    rintro ⟨_, onward⟩
    exact heartbeat_breaks state down waiting (onward _ rfl)
  | cons action rest ih =>
    rintro ⟨_, onward⟩
    obtain ⟨next, taken⟩ : ∃ next, step settings state action = some next := by
      cases action <;> exact ⟨_, rfl⟩
    have always := onward next taken
    have kept : Accompanied next.history := by
      cases rest <;> exact always.1
    exact ih next (step_waiting_down settings down taken)
      (waits_until_up state down waiting taken kept) always

theorem quiet_of_accompanied (down : WaitingDown state)
    (always : ∀ req, Always (step settings) (fun state => Accompanied state.history) state
      (actions ++ [Action.heartbeat req])) :
    Always (step settings) Quiet state actions := by
  have quiet : Quiet state := by
    intro uuid waiting
    exact waiting_breaks actions state down waiting (always {uuid := uuid})
  induction actions generalizing state with
  | nil => exact quiet
  | cons action rest ih =>
    refine ⟨quiet, fun next taken => ?_⟩
    have nextDown := step_waiting_down settings down taken
    have onward := fun req => (always req).2 next taken
    refine ih next nextDown onward ?_
    intro uuid waiting
    exact waiting_breaks rest next nextDown waiting (onward {uuid := uuid})

theorem accompanied_of_quiet (accompanied : Accompanied state.history)
    (quiet : Always (step settings) Quiet state actions) (req : HeartbeatRequest) :
    Always (step settings) (fun state => Accompanied state.history) state
      (actions ++ [Action.heartbeat req]) := by
  induction actions generalizing state with
  | nil =>
    refine ⟨accompanied, fun next taken => ?_⟩
    exact step_accompanied state quiet accompanied taken
  | cons action rest ih =>
    refine ⟨accompanied, fun next taken => ?_⟩
    exact ih next (step_accompanied state quiet.1 accompanied taken) (quiet.2 next taken)

variable (settings)

/-- Whichever host reports next, every host that went down was evacuated before it
is reported up, exactly when no tick of the host service comes first. -/
theorem failover_accompanied_iff (settings : Settings) (auto : settings.autoEvacuate = true)
    (hosts : Hosts) (now : Int) (actions : List Action) :
    (∀ req, Always (step settings) (fun state => Accompanied state.history) (start hosts now)
        (actions ++ [.heartbeat req])) ↔
      Guarded (step settings) (Covered settings) (start hosts now) actions := by
  rw [← quiet_iff auto]
  constructor
  · exact quiet_of_accompanied actions (start hosts now) fun _ waiting => waiting.elim
  · exact accompanied_of_quiet actions (start hosts now) trivial

end Failover

def oneHost (status : HostStatus) (disconnectedAt : Option Int) (heard : Int) : Hosts where
  table := Table.single
    { uuid := "h", name := "node", status := status, resourceState := .enabled,
      ipAddress := "10.0.0.1", lastHeartbeat := some heard, disconnectedAt := disconnectedAt }
  heard := by
    intro host member
    rw [List.mem_singleton.mp member]
    exact Option.some_ne_none _

def oneHostAgain : RegisterRequest where
  name := "node"
  ipAddress := "10.0.0.1"
  managementPort := 8081
  cpuCores := 8
  ramMB := 1024
  diskGB := 10

theorem ha_first_accompanied :
    Always (step {}) (fun state => Accompanied state.history) (start (oneHost .up none 0) 0)
      ([.advance 180000000000, .checkAndEvacuate, .checkHostHealth] ++
        [.heartbeat {uuid := "h"}]) := by
  refine (failover_accompanied_iff {} rfl (oneHost .up none 0) 0 _).mpr ?_ {uuid := "h"}
  refine ⟨trivial, fun next taken => ?_⟩
  cases taken
  refine ⟨trivial, fun next taken => ?_⟩
  cases taken
  refine ⟨?_, fun _ _ => trivial⟩
  intro host member up
  cases List.mem_singleton.mp member
  contradiction

/-- The host service marks the host down, the other monitor no longer looks at
it, and the host comes back without an evacuation. -/
theorem host_service_first_loses :
    ¬ Always (step {}) (fun state => Accompanied state.history) (start (oneHost .up none 0) 0)
      [.advance 180000000000, .checkHostHealth, .checkAndEvacuate, .heartbeat {uuid := "h"}] := by
  decide

section Grace

variable (settings : Settings)

/-- The host service starts an evacuation only of a host whose last registration
or heartbeat is more than five minutes ago. -/
def GraceKept (state : State) : Action → Prop
  | .checkHostHealth => ∀ uuid,
      .evacuate uuid ∈ state.hosts.table.rows.flatMap (healthEvents settings state.now) →
      ∃ last, state.contacts uuid = some last ∧ state.now - last > fiveMinutes
  | _ => True

/-- No host that is up or connecting still carries a disconnection more than five
minutes old when it has been silent for longer than the timeout, but not for
longer than five minutes. -/
def NoneStale (state : State) : Action → Prop
  | .checkHostHealth => ∀ host ∈ state.hosts.table.rows,
      host.status = .up ∨ host.status = .connecting →
      ∀ since, host.disconnectedAt = some since → state.now - since > fiveMinutes →
      ∀ last, host.lastHeartbeat = some last → state.now - last > settings.heartbeatTimeout →
        state.now - last > fiveMinutes
  | _ => True

def Recorded (state : State) : Prop :=
  ∀ host ∈ state.hosts.table.rows, state.contacts host.uuid = host.lastHeartbeat

variable (state : State)

theorem evacuates_iff :
    .evacuate uuid ∈ state.hosts.table.rows.flatMap (healthEvents settings state.now) ↔
      ∃ host ∈ state.hosts.table.rows, host.uuid = uuid ∧
        HealthListed settings state.now host ∧ Sustained state.now host := by
  rw [List.mem_flatMap]
  constructor
  · rintro ⟨host, member, among⟩
    refine ⟨host, member, ?_⟩
    unfold healthEvents tickEvents downEvents at among
    split_ifs at among with listed sustained <;> simp_all
  · rintro ⟨host, member, rfl, listed, sustained⟩
    refine ⟨host, member, ?_⟩
    simp [healthEvents, tickEvents, listed, sustained]

theorem grace_kept_iff (action : Action) (recorded : Recorded state) :
    GraceKept settings state action ↔ NoneStale settings state action := by
  cases action with
  | registerHost | heartbeat | checkAndEvacuate | advance => exact Iff.rfl
  | checkHostHealth =>
    simp only [GraceKept, evacuates_iff]
    constructor
    · intro kept host member listed since disconnected old last heard silent
      have sustained := sustained_iff.mpr ⟨since, disconnected, old⟩
      have timedOut : TimedOut state.now settings.heartbeatTimeout host := by
        simp only [TimedOut, heard, Option.all_some, decide_eq_true_eq]
        omega
      obtain ⟨contact, known, long⟩ := kept host.uuid
        ⟨host, member, rfl, ⟨listed, timedOut⟩, sustained⟩
      rw [recorded host member, heard] at known
      cases known
      exact long
    · rintro fresh uuid ⟨host, member, rfl, ⟨listed, timedOut⟩, sustained⟩
      obtain ⟨since, disconnected, old⟩ := sustained_iff.mp sustained
      obtain ⟨last, heard⟩ := Option.ne_none_iff_exists'.mp (state.hosts.heard host member)
      refine ⟨last, (recorded host member).trans heard, ?_⟩
      apply fresh host member listed since disconnected old last heard
      simp only [TimedOut, heard, Option.all_some, decide_eq_true_eq] at timedOut
      omega

theorem contacted_self : contacted state uuid uuid = some state.now := if_pos rfl

theorem contacted_other {other : String} (different : other ≠ uuid) :
    contacted state uuid other = state.contacts other := if_neg different

theorem changed_recorded {change : Host → Host} (keeps : ∀ host, (change host).uuid = host.uuid)
    (hears : ∀ host, host.lastHeartbeat ≠ none → (change host).lastHeartbeat ≠ none)
    {contacts : String → Option Int} (recorded : Recorded state)
    (follows : ∀ host, state.contacts host.uuid = host.lastHeartbeat →
      contacts host.uuid = (change host).lastHeartbeat) :
    Recorded {state with
      hosts := state.hosts.change change keeps hears, history := history, contacts := contacts} := by
  intro host member
  obtain ⟨before, listed, rfl⟩ := List.mem_map.mp member
  rw [keeps]
  exact follows before (recorded before listed)

theorem step_recorded (action : Action) (next : State) (recorded : Recorded state)
    (taken : step settings state action = some next) : Recorded next := by
  cases action with
  | registerHost req uuid =>
    cases taken
    unfold registerHost
    cases registered state.hosts req with
    | some existing =>
      apply changed_recorded _ _ _ recorded
      intro host before
      split_ifs with same
      · rw [same, contacted_self]
        rfl
      · rw [contacted_other _ same]
        exact before
    | none =>
      dsimp only
      split_ifs with known
      · exact recorded
      · intro host member
        rcases List.mem_append.mp member with old | new
        · have different : host.uuid ≠ uuid := fun same => known (same ▸ List.mem_map_of_mem old)
          exact (contacted_other _ different).trans (recorded host old)
        · rw [List.mem_singleton.mp new]
          exact contacted_self state
  | heartbeat req =>
    cases taken
    unfold heartbeat
    cases state.hosts.table.find req.uuid with
    | none => exact recorded
    | some beating =>
      apply changed_recorded _ _ _ recorded
      intro host before
      split_ifs with same
      · rw [same, contacted_self]
        unfold beat
        split <;> rfl
      · rw [contacted_other _ same]
        exact before
  | checkHostHealth =>
    cases taken
    apply changed_recorded _ _ _ recorded
    intro host before
    split_ifs <;> exact before
  | checkAndEvacuate =>
    cases taken
    apply changed_recorded _ _ _ recorded
    intro host before
    split_ifs <;> exact before
  | advance duration =>
    cases taken
    exact recorded

theorem start_recorded {now : Int} : Recorded (start hosts now) := by
  intro host member
  simp only [start, find_of_mem hosts.table host member, Option.bind_some]

/-- The grace period is kept along a run exactly when no tick of the host service
finds a stale disconnection. -/
theorem no_premature_evacuation_iff (settings : Settings) (hosts : Hosts) (now : Int)
    (actions : List Action) :
    Guarded (step settings) (GraceKept settings) (start hosts now) actions ↔
      Guarded (step settings) (NoneStale settings) (start hosts now) actions :=
  guarded_iff (grace_kept_iff settings) (step_recorded settings) start_recorded

/-- A host that went down and registered again ten minutes later is evacuated
three minutes after that. -/
theorem evacuated_after_registration :
    ¬ Guarded (step {}) (GraceKept {}) (start (oneHost .up none 0) 0)
      [.advance 180000000000, .checkHostHealth, .advance 600000000000,
        .registerHost oneHostAgain "unused", .advance 180000000000, .checkHostHealth] := by
  intro kept
  have tick := (((((kept.2 _ rfl).2 _ rfl).2 _ rfl).2 _ rfl).2 _ rfl).1
  obtain ⟨last, contact, long⟩ := tick "h" (by decide)
  cases contact
  revert long
  decide

end Grace

end VcStack.HostMonitors
