import VcStack.HostAllocations

/-!
Evacuations of several hosts at once, one statement on the tables of instances,
hosts and configurations at a time. The capacity of a host is tested when it is
chosen and taken up two statements later.
-/

namespace VcStack.EvacuationSteps

open KeyedTables Runs HostEvacuation HostAllocations

inductive Stage where
  | idle
  | configuring (instances : List Instance) (targets : List EvacuationTarget)
  | visiting (targets : List EvacuationTarget)
  | sizing (target : EvacuationTarget) (rest : List EvacuationTarget)
  | choosing (target : EvacuationTarget) (rest : List EvacuationTarget) (fi : FlavorInfo)
  | failing (target : EvacuationTarget) (rest : List EvacuationTarget)
  | moving (target : EvacuationTarget) (rest : List EvacuationTarget) (destHost : Host)
  | measuring (target : EvacuationTarget) (rest : List EvacuationTarget) (destHost : Host)
  | charging (target : EvacuationTarget) (rest : List EvacuationTarget) (destHost : Host)
      (fi : FlavorInfo)
  | counting (target : EvacuationTarget) (rest : List EvacuationTarget)

def chooseHost (env : Environment) (db : Database) (excludeHostUUID : String) (instanceID : Nat)
    (fi : FlavorInfo) : Except String Host :=
  match (env.hostQuery instanceID).answer
      (db.hosts.rows.filter fun host => Suitable excludeHostUUID fi host) with
  | .error reason => .error ("query hosts: " ++ reason)
  | .ok [] => .error "no healthy hosts with sufficient resources"
  | .ok (host :: _) => .ok host

def advance (env : Environment) (hostUUID : String) (db : Database) : Stage → Database × Stage
  | .idle => (db, .configuring (db.instances.rows.filter fun inst => RunsOn hostUUID inst) [])
  | .configuring [] targets => (db, .visiting (sortTargets targets))
  | .configuring (inst :: rest) targets => (db, .configuring rest (targets ++ [targetOf db inst]))
  | .visiting [] => (db, .idle)
  | .visiting (target :: rest) =>
    if target.haEnabled = false then
      (markInstance db target.instanceID .stopped .hostDown, .visiting rest)
    else if (db.configs.find target.instanceID).any fun config =>
        restartLimited config (env.checkedAt target.instanceID) then
      (db, .visiting rest)
    else (db, .sizing target rest)
  | .sizing target rest => (db, .choosing target rest (flavorInfo db target.instanceID))
  | .choosing target rest fi =>
    match chooseHost env db hostUUID target.instanceID fi with
    | .error _ => (db, .failing target rest)
    | .ok destHost => (db, .moving target rest destHost)
  | .failing target rest => (markInstance db target.instanceID .error .hostDown, .visiting rest)
  | .moving target rest destHost =>
    match env.rescheduleError target.instanceID with
    | some _ => (db, .visiting rest)
    | none => (moveInstance db target.instanceID destHost, .measuring target rest destHost)
  | .measuring target rest destHost =>
    (db, .charging target rest destHost (flavorInfo db target.instanceID))
  | .charging target rest destHost fi => (allocate db destHost fi, .counting target rest)
  | .counting target rest =>
    (countRestart db target.instanceID (env.restartedAt target.instanceID), .visiting rest)

structure State where
  db : Database
  stages : String → Stage := fun _ => .idle

structure Action where
  env : Environment
  hostUUID : String

def step (state : State) (action : Action) : Option State :=
  let (db, stage) := advance action.env action.hostUUID state.db (state.stages action.hostUUID)
  some {db := db, stages := Function.update state.stages action.hostUUID stage}

variable {stage : Stage} {after : Database} {destHost : Host}

section Alone

variable (env : Environment) (hostUUID : String)

def alone (running : Database × Stage) (_ : Unit) : Option (Database × Stage) :=
  some (advance env hostUUID running.1 running.2)

variable {env hostUUID}

theorem alone_step {db : Database} {last : Database × Stage}
    (onward : Reaches (alone env hostUUID) (advance env hostUUID db stage) last) :
    Reaches (alone env hostUUID) (db, stage) last :=
  reaches_step (advance env hostUUID db stage) () rfl onward

theorem configured {db : Database} {instances : List Instance} (targets : List EvacuationTarget) :
    Reaches (alone env hostUUID) (db, .configuring instances targets)
      (db, .visiting (sortTargets (targets ++ instances.map (targetOf db)))) := by
  induction instances generalizing targets with
  | nil =>
    apply alone_step
    rw [List.map_nil, List.append_nil]
    exact reaches_refl
  | cons inst rest ih =>
    apply alone_step
    rw [List.map_cons, List.append_cons]
    exact ih (targets ++ [targetOf db inst])

theorem visited {progress : Progress} {target : EvacuationTarget} {rest : List EvacuationTarget} :
    Reaches (alone env hostUUID) (progress.db, .visiting (target :: rest))
      ((evacuateTarget env hostUUID progress target).db, .visiting rest) := by
  apply alone_step
  unfold evacuateTarget advance
  dsimp only
  split_ifs with off blocked
  · exact reaches_refl
  · exact reaches_refl
  · apply alone_step
    rw [advance]
    apply alone_step
    have best : findBestHost env progress.db hostUUID target.instanceID = chooseHost env progress.db
        hostUUID target.instanceID (flavorInfo progress.db target.instanceID) := rfl
    rw [advance, best]
    cases chooseHost env progress.db hostUUID target.instanceID
        (flavorInfo progress.db target.instanceID) with
    | error reason =>
      apply alone_step
      exact reaches_refl
    | ok destHost =>
      apply alone_step
      dsimp only
      rw [advance, rescheduleInstance]
      cases env.rescheduleError target.instanceID with
      | some reason => exact reaches_refl
      | none =>
        apply alone_step
        apply alone_step
        apply alone_step
        exact reaches_refl

theorem all_visited {targets : List EvacuationTarget} (progress : Progress) :
    Reaches (alone env hostUUID) (progress.db, .visiting targets)
      ((targets.foldl (evacuateTarget env hostUUID) progress).db, .visiting []) := by
  induction targets generalizing progress with
  | nil => exact reaches_refl
  | cons target rest ih => exact reaches_trans _ visited (ih _)

theorem evacuated_alone (db : Database) (hostName trigger : String) :
    Reaches (alone env hostUUID) (db, .idle)
      ((evacuateHostInternal env db hostUUID hostName trigger).1, .idle) := by
  rw [(evacuation_progress env db hostUUID hostName trigger).1]
  apply alone_step
  apply reaches_trans _ (configured [])
  apply reaches_trans _ (all_visited {db := db})
  apply alone_step
  exact reaches_refl

theorem run_alone {turns : List Unit} (state : State) {last : Database × Stage}
    (ran : run (alone env hostUUID) (state.db, state.stages hostUUID) turns = some last) :
    run step state (turns.map fun _ => {env := env, hostUUID := hostUUID}) =
      some {db := last.1, stages := Function.update state.stages hostUUID last.2} := by
  induction turns generalizing state with
  | nil =>
    cases ran
    rw [Function.update_eq_self]
    rfl
  | cons turn rest ih =>
    obtain ⟨next, taken, onward⟩ := Option.bind_eq_some_iff.mp ran
    cases taken
    rw [List.map_cons, run, step, Option.bind_some, ih]
    · rw [Function.update_idem]
    · dsimp only
      rw [Function.update_self]
      exact onward

/-- A run of the statements of one evacuation does what `evacuateHostInternal`
does, and leaves the other evacuations where they are. -/
theorem evacuation_in_steps (env : Environment) (db : Database) (stages : String → Stage)
    (hostUUID hostName trigger : String) :
    ∃ count, run step {db := db, stages := Function.update stages hostUUID .idle}
        (List.replicate count {env := env, hostUUID := hostUUID}) =
      some {db := (evacuateHostInternal env db hostUUID hostName trigger).1
            stages := Function.update stages hostUUID .idle} := by
  obtain ⟨turns, ran⟩ := @evacuated_alone env hostUUID db hostName trigger
  refine ⟨turns.length, ?_⟩
  rw [← Function.update_self hostUUID Stage.idle stages] at ran
  have steps := run_alone {db := db, stages := Function.update stages hostUUID .idle} ran
  rw [List.map_const', Function.update_eq_self] at steps
  exact steps

end Alone

def WithinCapacity (db : Database) : Prop :=
  ∀ host ∈ db.hosts.rows, ∀ resource, allocated host resource ≤ capacity host resource

instance (db : Database) : Decidable (WithinCapacity db) := by
  unfold WithinCapacity
  infer_instance

def NoneSince (db : Database) (destHost : Host) : Prop :=
  ∀ host ∈ db.hosts.rows, host.uuid = destHost.uuid → ∀ resource,
    allocated host resource ≤ allocated destHost resource

instance (db : Database) (destHost : Host) : Decidable (NoneSince db destHost) := by
  unfold NoneSince
  infer_instance

def Undisturbed (state : State) (action : Action) : Prop :=
  match state.stages action.hostUUID with
  | .charging _ _ destHost _ => NoneSince state.db destHost
  | _ => True

instance (state : State) (action : Action) : Decidable (Undisturbed state action) := by
  unfold Undisturbed
  split <;> infer_instance

structure Fits (db : Database) (destHost : Host) (fi : FlavorInfo) : Prop where
  room : ∀ resource, 0 < need fi resource →
    allocated destHost resource + need fi resource ≤ capacity destHost resource
  size : ∀ host ∈ db.hosts.rows, host.uuid = destHost.uuid → capacity host = capacity destHost

def Prepared (db : Database) : Stage → Prop
  | .choosing target _ fi => fi = flavorInfo db target.instanceID
  | .moving target _ destHost => Fits db destHost (flavorInfo db target.instanceID)
  | .measuring target _ destHost => Fits db destHost (flavorInfo db target.instanceID)
  | .charging target _ destHost fi => fi = flavorInfo db target.instanceID ∧ Fits db destHost fi
  | _ => True

structure Kept (db after : Database) : Prop where
  flavors : ∀ id, flavorInfo after id = flavorInfo db id
  sizes : ∀ host ∈ after.hosts.rows, ∃ before ∈ db.hosts.rows,
    before.uuid = host.uuid ∧ capacity before = capacity host

variable (env : Environment) (hostUUID : String) (db : Database)

theorem kept_hosts (flavors : ∀ id, flavorInfo after id = flavorInfo db id)
    (hosts : after.hosts = db.hosts) : Kept db after :=
  ⟨flavors, fun host listed => ⟨host, hosts ▸ listed, rfl, rfl⟩⟩

theorem kept_refl : Kept db db := kept_hosts db (fun _ => rfl) rfl

theorem allocated_rows {host : Host} {fi : FlavorInfo}
    (listed : host ∈ (allocate db destHost fi).hosts.rows) :
    ∃ before ∈ db.hosts.rows, before.uuid = host.uuid ∧ capacity before = capacity host ∧
      ∀ resource, allocated host resource = allocated before resource +
        if before.uuid = destHost.uuid then need fi resource else 0 := by
  obtain ⟨before, member, rfl⟩ := List.mem_map.mp listed
  refine ⟨before, member, ?_⟩
  split_ifs
  · refine ⟨rfl, funext fun resource => ?_, fun resource => ?_⟩
    · cases resource <;> rfl
    · cases resource <;> rfl
  · exact ⟨rfl, rfl, fun resource => (Int.add_zero _).symm⟩

theorem advance_kept (stage : Stage) :
    Kept db (advance env hostUUID db stage).1 := by
  fun_cases advance env hostUUID db stage
  all_goals first
    | exact kept_refl _
    | exact kept_hosts _ (flavor_mark _ _) rfl
    | exact kept_hosts _ (flavor_move _ _ _) rfl
    | exact kept_hosts _ (fun _ => rfl) rfl
    | refine ⟨fun _ => rfl, fun host listed => ?_⟩
  obtain ⟨before, member, same, size, _⟩ := allocated_rows db listed
  exact ⟨before, member, same, size⟩

theorem fits_kept {fi : FlavorInfo} (kept : Kept db after)
    (fits : Fits db destHost fi) : Fits after destHost fi := by
  refine ⟨fits.room, ?_⟩
  intro host listed same
  obtain ⟨before, member, named, sized⟩ := kept.sizes host listed
  rw [← sized]
  exact fits.size before member (named.trans same)

theorem prepared_kept (kept : Kept db after)
    (prepared : Prepared db stage) : Prepared after stage := by
  cases stage with
  | choosing target rest fi => exact prepared.trans (kept.flavors _).symm
  | moving target rest destHost =>
    rw [Prepared, kept.flavors]
    exact fits_kept db kept prepared
  | measuring target rest destHost =>
    rw [Prepared, kept.flavors]
    exact fits_kept db kept prepared
  | charging target rest destHost fi =>
    exact ⟨prepared.1.trans (kept.flavors _).symm, fits_kept db kept prepared.2⟩
  | _ => trivial

theorem chosen_fits {hostUUID : String} {instanceID : Nat}
    (chosen : chooseHost env db hostUUID instanceID (flavorInfo db instanceID) = .ok destHost) :
    Fits db destHost (flavorInfo db instanceID) := by
  obtain ⟨listed, suitable⟩ := best_host_suitable env hostUUID db chosen
  refine ⟨suitable_room suitable, ?_⟩
  intro host member same
  rw [List.inj_on_of_nodup_map db.hosts.distinct member listed same]

theorem advance_prepared (prepared : Prepared db stage) :
    Prepared (advance env hostUUID db stage).1 (advance env hostUUID db stage).2 := by
  cases stage with
  | configuring instances targets => cases instances <;> trivial
  | visiting targets =>
    cases targets with
    | nil => trivial
    | cons target rest =>
      rw [advance]
      split_ifs <;> trivial
  | sizing target rest => rfl
  | choosing target rest fi =>
    cases prepared
    rw [advance]
    split
    · trivial
    · rename_i destHost chosen
      exact chosen_fits env db chosen
  | moving target rest destHost =>
    rw [advance]
    split
    · trivial
    · exact prepared_kept db (kept_hosts _ (flavor_move _ _ _) rfl) prepared
  | measuring target rest destHost => exact ⟨rfl, prepared⟩
  | _ => trivial

theorem advance_within (within : WithinCapacity db)
    (sizes : ∀ id resource, 0 ≤ need (flavorInfo db id) resource) (prepared : Prepared db stage)
    (undisturbed : ∀ target rest destHost fi, stage = .charging target rest destHost fi →
      NoneSince db destHost) : WithinCapacity (advance env hostUUID db stage).1 := by
  cases stage with
  | configuring instances targets => cases instances <;> exact within
  | visiting targets =>
    cases targets with
    | nil => exact within
    | cons target rest =>
      rw [advance]
      split_ifs <;> exact within
  | choosing target rest fi =>
    rw [advance]
    split <;> exact within
  | moving target rest destHost =>
    rw [advance]
    split <;> exact within
  | charging target rest destHost fi =>
    obtain ⟨read, fits⟩ := prepared
    intro host listed resource
    obtain ⟨before, member, _, size, charged⟩ := allocated_rows db listed
    have bounded := within before member resource
    rw [charged, ← size]
    split_ifs with destination
    · have fresh := undisturbed _ _ _ _ rfl before member destination resource
      have known := sizes target.instanceID resource
      rw [← read] at known
      rcases Int.le_iff_lt_or_eq.mp known with needed | nothing
      · have room := fits.room resource needed
        rw [fits.size before member destination]
        omega
      · omega
    · omega
  | _ => exact within

structure Sound (state : State) : Prop where
  within : WithinCapacity state.db
  sizes : ∀ id resource, 0 ≤ need (flavorInfo state.db id) resource
  prepared : ∀ hostUUID, Prepared state.db (state.stages hostUUID)

theorem step_sound (state : State) (action : Action) (next : State) (sound : Sound state)
    (undisturbed : Undisturbed state action) (taken : step state action = some next) :
    Sound next := by
  have kept := advance_kept action.env action.hostUUID state.db (state.stages action.hostUUID)
  have sizes (id : Nat) := kept.flavors id ▸ sound.sizes id
  cases taken
  refine ⟨?_, sizes, ?_⟩
  · apply advance_within _ _ _ sound.within sound.sizes (sound.prepared action.hostUUID)
    intro target rest destHost fi charging
    rw [Undisturbed, charging] at undisturbed
    exact undisturbed
  · intro hostUUID
    dsimp only
    by_cases own : hostUUID = action.hostUUID
    · subst own
      rw [Function.update_self]
      exact advance_prepared _ _ _ (sound.prepared action.hostUUID)
    · rw [Function.update_of_ne own]
      exact prepared_kept _ kept (sound.prepared hostUUID)

/-- From a table within capacity, in any interleaving of evacuations in which each
charges its destination before another one does: every host stays within capacity. -/
theorem undisturbed_within_capacity (db : Database) (actions : List Action)
    (within : WithinCapacity db)
    (sizes : ∀ inst ∈ db.instances.rows, ∀ resource, 0 ≤ demand inst resource)
    (undisturbed : Guarded step Undisturbed {db := db} actions) :
    Always step (fun state => WithinCapacity state.db) {db := db} actions := by
  apply always_of_guarded (fun _ sound => sound.within) step_sound {db := db} _ undisturbed
  exact ⟨within, fun id resource => flavor_sized db id resource sizes, fun _ => trivial⟩

def crowdedDatabase : Database where
  instances := {
    rows := [
      {id := 1, name := "web", hostID := "a", status := .active, ramMB := 2048},
      {id := 2, name := "mail", hostID := "b", status := .active, ramMB := 2048}]
    distinct := by decide }
  hosts := {
    rows := [
      {uuid := "a", status := .down, ramMB := 4096, ramAllocatedMB := 2048},
      {uuid := "b", status := .down, ramMB := 4096, ramAllocatedMB := 2048},
      {uuid := "c", status := .up, resourceState := .enabled, ramMB := 3072}]
    distinct := by decide }
  configs := ⟨[], List.nodup_nil⟩
  policies := ⟨[], List.nodup_nil⟩

def turns (count : Nat) (hostUUID : String) : List Action :=
  List.replicate count {env := environmentAt 0, hostUUID := hostUUID}

theorem evacuations_in_turn :
    Always step (fun state => WithinCapacity state.db) {db := crowdedDatabase}
      (turns 11 "a" ++ turns 11 "b") :=
  undisturbed_within_capacity crowdedDatabase (turns 11 "a" ++ turns 11 "b")
    (by decide +kernel) (by decide +kernel) (by decide +kernel)

/-- Both evacuations choose the third host before either has charged it. -/
theorem both_choose_one_host :
    WithinCapacity crowdedDatabase ∧
      (∀ inst ∈ crowdedDatabase.instances.rows, ∀ resource, 0 ≤ demand inst resource) ∧
      ∃ state, run step {db := crowdedDatabase}
          (turns 6 "a" ++ turns 6 "b" ++ turns 3 "a" ++ turns 3 "b") = some state ∧
        ¬ WithinCapacity state.db ∧
        state.db.hosts.rows.map (fun host => (host.uuid, host.ramMB, host.ramAllocatedMB)) =
          [("a", 4096, 2048), ("b", 4096, 2048), ("c", 3072, 4096)] := by
  refine ⟨by decide +kernel, by decide +kernel, _, rfl, ?_⟩
  decide +kernel

end VcStack.EvacuationSteps
