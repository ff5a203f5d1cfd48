import Mathlib.Logic.Function.Basic
import VcStack.Runs
import VcStack.VmCreation

/-!
The life of a virtual machine under the QEMU driver: creation, stops, restarts
and deletion, and what each leaves on the host. Commands and system calls are
taken to succeed; an error of the driver itself refuses the step.
-/

namespace VcStack.QemuLifecycles

open FilePaths QemuConfigs VmCreation Function

/-- What the driver leaves on a host. Processes are known by the PID file that names them. -/
structure Host where
  saved : String → Option VMConfig := fun _ => none
  files : String → Bool := fun _ => false
  stateDirs : String → Bool := fun _ => false
  taps : String → Bool := fun _ => false
  qemu : String → Bool := fun _ => false
  swtpm : String → Bool := fun _ => false
  /-- every start of QEMU: the configuration file and the arguments, the newest first -/
  launches : List (String × List String) := []

def devices (c : VMConfig) : List String :=
  (c.nics.filter fun nic => nic.type = "tap" && nic.tapDev ≠ "").map NICConfig.tapDev

def setTaps (c : VMConfig) (up : Bool) (h : Host) : Host :=
  { h with taps := fun tap => if tap ∈ devices c then up else h.taps tap }

def setFile (path : String) (there : Bool) (h : Host) : Host :=
  { h with files := update h.files path there }

variable (d : Driver) (slice : String → String) (m : Machine)

def cleanupNetworking (c : VMConfig) (h : Host) : Host := setTaps c false h

def stopTPM (c : VMConfig) (h : Host) : Host :=
  if c.tpm ∧ h.files (swtpmPID d c.id) then
    setFile (swtpmSock d c.id) false (setFile (swtpmPID d c.id) false
      { h with swtpm := update h.swtpm (swtpmPID d c.id) false })
  else h

def setupTPM (c : VMConfig) (h : Host) : Host :=
  if c.tpm then
    let h := stopTPM d c { h with stateDirs := update h.stateDirs (tpmDir d c.id) true }
    setFile (swtpmSock d c.id) true (setFile (swtpmPID d c.id) true
      { h with swtpm := update h.swtpm (swtpmPID d c.id) true })
  else h

def cleanupTPM (c : VMConfig) (h : Host) : Host :=
  if c.tpm then
    let h := stopTPM d c h
    { h with stateDirs := update h.stateDirs (tpmDir d c.id) false }
  else h

def isoMade (c : VMConfig) (h : Host) : Host :=
  if c.cloudInit.enabled then setFile (isoPath d c.id) true h else h

/-- QEMU writes its PID file and, for a unix socket, the socket of its monitor. -/
def launch (c : VMConfig) (h : Host) : Host :=
  let h := if c.qmp.enabled ∧ c.qmp.type = "unix" then setFile c.qmp.path true h else h
  { setFile c.pidFile true h with
    qemu := update h.qemu c.pidFile true
    launches := (c.configFile, c.buildArgs m) :: h.launches }

def createVM (h : Host) (cfg : VMConfig) : Option Host :=
  (setup d slice cfg).map fun c =>
    let h := setupTPM d c (isoMade d c (setTaps c true h))
    launch m c { h with saved := update h.saved c.configFile (some c) }

/-- The path comes from Join and is clean already. -/
def loadConfig (path : String) (h : Host) : Option VMConfig :=
  if ['.', '.'] <:+: path.toList then none else h.saved path

def isRunning (id : String) (h : Host) : Bool := h.files (pidPath d id) && h.qemu (pidPath d id)

/-- Without force the process is gone in the end in any case; a kill needs it alive. -/
def stopVM (h : Host) (id : String) (force : Bool) : Option Host :=
  match validateVMID id with
  | .error _ => none
  | .ok id =>
    (loadConfig (configPath d id) h).bind fun c =>
      if h.files (pidPath d id) = false ∨ (force ∧ h.qemu (pidPath d id) = false) then none
      else some (stopTPM d c (cleanupNetworking c
        { h with qemu := update h.qemu (pidPath d id) false }))

def startVM (h : Host) (id : String) : Option Host :=
  match validateVMID id with
  | .error _ => none
  | .ok id =>
    (loadConfig (configPath d id) h).bind fun c =>
      if isRunning d id h then none else createVM d slice m h c

def deleteVM (h : Host) (id : String) (force : Bool) : Option Host :=
  match validateVMID id with
  | .error _ => none
  | .ok id =>
    (if isRunning d id h then stopVM d h id force else some h).map fun h =>
      let h := { h with saved := update h.saved (configPath d id) none }
      let h := setFile (isoPath d id) false (setFile (logPath d id) false
        (setFile (qmpPath d id) false (setFile (pidPath d id) false h)))
      match loadConfig (configPath d id) h with
      | some c => cleanupTPM d c h
      | none => h

inductive VmAction where
  | stop (force : Bool)
  | start
  /-- the process ends by itself -/
  | exit
  deriving DecidableEq

def vmStep (id : String) (h : Host) : VmAction → Option Host
  | .stop force => stopVM d h id force
  | .start => startVM d slice m h id
  | .exit => if isRunning d id h then
      some { h with qemu := update h.qemu (pidPath d id) false } else none

inductive Action where
  | create (cfg : VMConfig)
  | delete (id : String) (force : Bool)
  | vm (id : String) (action : VmAction)

def step (h : Host) : Action → Option Host
  | .create cfg => createVM d slice m h cfg
  | .delete id force => deleteVM d h id force
  | .vm id action => vmStep d slice m id h action

variable {d slice m} {h next : Host} {c cfg : VMConfig} {id : String} {force : Bool}

theorem stop_tpm_frame : (stopTPM d c h).saved = h.saved ∧ (stopTPM d c h).launches = h.launches ∧
    (stopTPM d c h).taps = h.taps ∧ (stopTPM d c h).qemu = h.qemu ∧
    (stopTPM d c h).stateDirs = h.stateDirs := by
  unfold stopTPM
  split <;> simp [setFile]

theorem setup_tpm_frame : (setupTPM d c h).saved = h.saved ∧
    (setupTPM d c h).launches = h.launches ∧ (setupTPM d c h).taps = h.taps ∧
    (setupTPM d c h).qemu = h.qemu ∧
    (c.tpm → (setupTPM d c h).stateDirs (tpmDir d c.id) = true) := by
  unfold setupTPM
  split <;> simp_all [setFile, stop_tpm_frame]

theorem iso_made_frame : (isoMade d c h).saved = h.saved ∧ (isoMade d c h).launches = h.launches ∧
    (isoMade d c h).taps = h.taps ∧ (isoMade d c h).qemu = h.qemu := by
  unfold isoMade
  split <;> simp [setFile]

structure Created (d : Driver) (m : Machine) (c : VMConfig) (h next : Host) : Prop where
  saved : next.saved = update h.saved c.configFile (some c)
  launches : next.launches = (c.configFile, c.buildArgs m) :: h.launches
  taps : next.taps = (setTaps c true h).taps
  qemu : next.qemu = update h.qemu c.pidFile true
  pidFile : next.files c.pidFile = true
  tpm : c.tpm → next.stateDirs (tpmDir d c.id) = true

theorem create_spec (created : createVM d slice m h cfg = some next) :
    ∃ c, setup d slice cfg = some c ∧ Created d m c h next := by
  obtain ⟨c, filled, rfl⟩ := Option.map_eq_some_iff.mp created
  refine ⟨c, filled, ?_⟩
  unfold launch
  constructor <;> split <;> simp +contextual [setFile, setup_tpm_frame, iso_made_frame, setTaps]

structure Stopped (c : VMConfig) (pidFile : String) (h next : Host) : Prop where
  saved : next.saved = h.saved
  launches : next.launches = h.launches
  taps : next.taps = (setTaps c false h).taps
  qemu : next.qemu = update h.qemu pidFile false
  stateDirs : next.stateDirs = h.stateDirs

theorem stop_spec (stopped : stopVM d h id force = some next) :
    ∃ own c, validateVMID id = .ok own ∧ h.saved (configPath d own) = some c ∧
      Stopped c (pidPath d own) h next := by
  unfold stopVM at stopped
  split at stopped
  · cases stopped
  · rename_i own valid
    obtain ⟨c, loaded, rest⟩ := Option.bind_eq_some_iff.mp stopped
    unfold loadConfig at loaded
    split at loaded <;> split at rest <;> cases rest
    · cases loaded
    · refine ⟨own, c, valid, loaded, ?_⟩
      constructor <;> simp [stop_tpm_frame, cleanupNetworking, setTaps]

theorem start_spec (started : startVM d slice m h id = some next) :
    ∃ own c, validateVMID id = .ok own ∧ h.saved (configPath d own) = some c ∧
      createVM d slice m h c = some next := by
  unfold startVM at started
  split at started
  · cases started
  · rename_i own valid
    obtain ⟨c, loaded, rest⟩ := Option.bind_eq_some_iff.mp started
    unfold loadConfig at loaded
    split at loaded <;> split at rest
    · cases loaded
    · cases loaded
    · cases rest
    · exact ⟨own, c, valid, loaded, rest⟩

/-- What a deletion leaves of the host it found, or of the one its stop left: the configuration is
removed before it is loaded for the TPM. -/
theorem delete_spec (deleted : deleteVM d h id force = some next) :
    ∃ own middle, validateVMID id = .ok own ∧
      (if isRunning d own h then stopVM d h own force else some h) = some middle ∧
      next = setFile (isoPath d own) false (setFile (logPath d own) false (setFile (qmpPath d own) false
        (setFile (pidPath d own) false
          { middle with saved := update middle.saved (configPath d own) none }))) := by
  unfold deleteVM at deleted
  split at deleted
  · cases deleted
  · rename_i own valid
    obtain ⟨middle, stopped, rfl⟩ := Option.map_eq_some_iff.mp deleted
    refine ⟨own, middle, valid, stopped, ?_⟩
    simp [loadConfig, setFile]

/-- Every saved configuration is complete, in its own file, and QEMU was started with it. -/
def Normal (d : Driver) (slice : String → String) (m : Machine) (h : Host) : Prop :=
  ∀ file c, h.saved file = some c → c.configFile = file ∧ setup d slice c = some c ∧
    (file, c.buildArgs m) ∈ h.launches

theorem start_same (normal : Normal d slice m h) (started : startVM d slice m h id = some next) :
    next.saved = h.saved ∧ ∃ file c, h.saved file = some c ∧
      next.launches = (file, c.buildArgs m) :: h.launches := by
  obtain ⟨own, c, -, loaded, created⟩ := start_spec started
  obtain ⟨filled, again, made⟩ := create_spec created
  obtain ⟨file, fixed, -⟩ := normal _ c loaded
  obtain rfl : c = filled := Option.some.inj (fixed.symm.trans again)
  refine ⟨?_, _, c, loaded, file ▸ made.launches⟩
  rw [made.saved, file, update_eq_self_iff]
  exact loaded.symm

theorem vm_step_same (normal : Normal d slice m h) {action : VmAction}
    (moved : vmStep d slice m id h action = some next) :
    next.saved = h.saved ∧ ∃ new, next.launches = new ++ h.launches ∧
      ∀ launch ∈ new, ∃ c, h.saved launch.1 = some c ∧ launch.2 = c.buildArgs m := by
  cases action with
  | stop force =>
    obtain ⟨own, c, -, -, stopped⟩ := stop_spec moved
    exact ⟨stopped.saved, [], stopped.launches, by simp⟩
  | start =>
    obtain ⟨saved, file, c, loaded, launches⟩ := start_same normal moved
    exact ⟨saved, [_], launches, by simp [loaded]⟩
  | exit =>
    simp only [vmStep] at moved
    split at moved <;> cases moved
    exact ⟨rfl, [], rfl, by simp⟩

theorem delete_frame (deleted : deleteVM d h id force = some next) :
    (∀ file c, next.saved file = some c → h.saved file = some c) ∧ next.launches = h.launches := by
  obtain ⟨own, middle, -, stopped, rfl⟩ := delete_spec deleted
  have frame : middle.saved = h.saved ∧ middle.launches = h.launches := by
    split at stopped
    · obtain ⟨_, _, -, -, frame⟩ := stop_spec stopped
      exact ⟨frame.saved, frame.launches⟩
    · cases stopped
      exact ⟨rfl, rfl⟩
  refine ⟨fun file c loaded => ?_, frame.2⟩
  simp only [setFile, frame.1, update_apply] at loaded
  split at loaded
  · cases loaded
  · exact loaded

theorem normal_step {action : Action} (normal : Normal d slice m h)
    (moved : step d slice m h action = some next) : Normal d slice m next := by
  intro file c loaded
  cases action with
  | create cfg =>
    obtain ⟨filled, first, made⟩ := create_spec moved
    rw [made.saved, update_apply] at loaded
    rw [made.launches]
    split at loaded
    · cases loaded
      exact ⟨.symm ‹_›, setup_again d first, by simp [*]⟩
    · obtain ⟨own, fixed, launched⟩ := normal file c loaded
      exact ⟨own, fixed, List.mem_cons_of_mem _ launched⟩
  | delete id force =>
    obtain ⟨kept, launches⟩ := delete_frame moved
    exact launches ▸ normal file c (kept file c loaded)
  | vm id action =>
    obtain ⟨saved, new, launches, -⟩ := vm_step_same normal moved
    obtain ⟨own, fixed, launched⟩ := normal file c (saved ▸ loaded)
    exact ⟨own, fixed, launches ▸ List.mem_append_right _ launched⟩

def cycleStep (d : Driver) (slice : String → String) (m : Machine) (h : Host)
    (action : String × VmAction) : Option Host :=
  vmStep d slice m action.1 h action.2

def whole (text : String) : String := text

def sampleMachine : Machine := { arm64 := false, stat := fun _ => true }

def webConfig : VMConfig :=
  { defaultConfig "web" with id := "web", nics := [{ type := "tap", tapDev := "tap0" }] }

structure NothingLeft (d : Driver) (c : VMConfig) (h : Host) : Prop where
  config : h.saved c.configFile = none
  pid : h.files c.pidFile = false
  qmp : c.qmp.enabled ∧ c.qmp.type = "unix" → h.files c.qmp.path = false
  log : h.files c.logFile = false
  iso : h.files (isoPath d c.id) = false
  tpm : c.tpm → h.stateDirs (tpmDir d c.id) = false ∧ h.swtpm (swtpmPID d c.id) = false
  taps : ∀ tap ∈ devices c, h.taps tap = false

inductive Phase where
  | running
  | stopped
  /-- the process ended by itself -/
  | died
  deriving DecidableEq

def enter : VmAction → Phase
  | .stop _ => .stopped
  | .start => .running
  | .exit => .died

def phaseAfter (actions : List VmAction) : Phase :=
  actions.foldl (fun _ action => enter action) .running

structure Holds (d : Driver) (slice : String → String) (c : VMConfig) (phase : Phase) (h : Host) :
    Prop where
  fixed : setup d slice c = some c
  saved : h.saved (configPath d c.id) = some c
  tpm : c.tpm → h.stateDirs (tpmDir d c.id) = true
  qemu : h.qemu (pidPath d c.id) = decide (phase = .running)
  pid : phase = .running → h.files (pidPath d c.id) = true
  taps : ∀ tap ∈ devices c, h.taps tap = decide (phase ≠ .stopped)

theorem setup_paths (first : setup d slice cfg = some c) :
    c.configFile = configPath d c.id ∧ c.pidFile = pidPath d c.id ∧ c.logFile = logPath d c.id ∧
    c.id = cfg.id ∧ (cfg.qmp.path = "" → c.qmp.enabled ∧ c.qmp.type = "unix" →
      c.qmp.path = qmpPath d c.id) := by
  unfold setup at first
  split at first
  · cases first
  · obtain rfl := Option.some.inj first
    refine ⟨rfl, rfl, rfl, rfl, fun none unix => ?_⟩
    simp only [filled] at unix ⊢
    split at unix <;> simp_all

theorem created_holds (first : setup d slice cfg = some c) (made : Created d m c h next) :
    Holds d slice c .running next := by
  obtain ⟨config, pid, -⟩ := setup_paths first
  exact
    { fixed := setup_again d first
      saved := by simp [made.saved, config]
      tpm := made.tpm
      qemu := by simp [made.qemu, pid]
      pid := fun _ => pid ▸ made.pidFile
      taps := fun tap member => by simp [made.taps, setTaps, member] }

theorem holds_step {phase : Phase} (valid : validateVMID c.id = .ok c.id)
    (holds : Holds d slice c phase h) {action : VmAction}
    (moved : vmStep d slice m c.id h action = some next) :
    Holds d slice c (enter action) next := by
  cases action with
  | stop force =>
    obtain ⟨own, loaded, named, saved, stopped⟩ := stop_spec moved
    cases valid.symm.trans named
    cases holds.saved.symm.trans saved
    exact
      { fixed := holds.fixed
        saved := stopped.saved ▸ saved
        tpm := stopped.stateDirs ▸ holds.tpm
        qemu := by simp [stopped.qemu, enter]
        pid := fun none => by cases none
        taps := fun tap member => by simp [stopped.taps, setTaps, member, enter] }
  | start =>
    obtain ⟨own, loaded, named, saved, created⟩ := start_spec moved
    cases valid.symm.trans named
    cases holds.saved.symm.trans saved
    obtain ⟨c, first, made⟩ := create_spec created
    cases holds.fixed.symm.trans first
    exact created_holds first made
  | exit =>
    simp only [vmStep] at moved
    split at moved <;> cases moved
    rename_i running
    have up : phase = .running := by
      simpa [isRunning, holds.qemu] using (Bool.and_eq_true_iff.mp running).2
    exact
      { holds with
        qemu := by simp [enter]
        pid := fun none => by cases none
        taps := fun tap member => by simp [holds.taps tap member, up, enter] }

theorem holds_run (valid : validateVMID c.id = .ok c.id) {phase : Phase} {actions : List VmAction}
    (holds : Holds d slice c phase h)
    (ran : Runs.run (vmStep d slice m c.id) h actions = some next) :
    Holds d slice c (actions.foldl (fun _ action => enter action) phase) next := by
  induction actions generalizing h phase with
  | nil =>
    cases ran
    exact holds
  | cons action rest ih =>
    obtain ⟨middle, taken, onward⟩ := Option.bind_eq_some_iff.mp ran
    exact ih (holds_step valid holds taken) onward

theorem delete_leaves_nothing_iff (d : Driver) (slice : String → String) (m : Machine)
    (h made later last : Host) (cfg c : VMConfig) (actions : List VmAction) (force : Bool)
    (created : createVM d slice m h cfg = some made) (first : setup d slice cfg = some c)
    (valid : validateVMID cfg.id = .ok cfg.id) (qmp : cfg.qmp.path = "")
    (ran : Runs.run (vmStep d slice m cfg.id) made actions = some later)
    (deleted : deleteVM d later cfg.id force = some last) :
    NothingLeft d c last ↔
      c.tpm = false ∧ (phaseAfter actions = .died → devices c = []) := by
  obtain ⟨config, pid, log, same, socket⟩ := setup_paths first
  rw [← same] at valid ran deleted
  obtain ⟨own, again, making⟩ := create_spec created
  cases first.symm.trans again
  have holds : Holds d slice c (phaseAfter actions) later :=
    holds_run valid (created_holds first making) ran
  obtain ⟨named, middle, validated, stopped, rfl⟩ := delete_spec deleted
  cases valid.symm.trans validated
  have left : (c.tpm → middle.stateDirs (tpmDir d c.id) = true) ∧
      ∀ tap ∈ devices c, middle.taps tap = decide (phaseAfter actions = .died) := by
    split at stopped
    · rename_i running
      have up : phaseAfter actions = .running := by
        simpa [isRunning, holds.qemu] using (Bool.and_eq_true_iff.mp running).2
      obtain ⟨_, _, named, saved, frame⟩ := stop_spec stopped
      cases valid.symm.trans named
      cases holds.saved.symm.trans saved
      exact ⟨frame.stateDirs ▸ holds.tpm, fun tap member => by simp [frame.taps, setTaps, member, up]⟩
    · rename_i idle
      cases stopped
      refine ⟨holds.tpm, fun tap member => ?_⟩
      rw [holds.taps tap member]
      have down : phaseAfter actions ≠ .running := fun up => idle (by
        simp [isRunning, holds.qemu, holds.pid up, up])
      cases phase : phaseAfter actions <;> simp_all
  constructor
  · intro gone
    refine ⟨?_, fun died => ?_⟩
    · by_contra tpm
      have there := left.1 (by simpa using tpm)
      have none := (gone.tpm (by simpa using tpm)).1
      simp [setFile, there] at none
    · refine List.eq_nil_iff_forall_not_mem.mpr fun tap member => ?_
      have none := gone.taps tap member
      simp [setFile, left.2 tap member, died] at none
  · rintro ⟨noTPM, noTaps⟩
    constructor
    · simp [setFile, config]
    · simp [setFile, pid, update_apply]
    · intro unix
      simp [setFile, socket qmp unix, update_apply]
    · simp [setFile, log, update_apply]
    · simp [setFile]
    · simp [noTPM]
    · intro tap member
      have live : phaseAfter actions ≠ .died := fun died => by simp [noTaps died] at member
      simp [setFile, left.2 tap member, live]

theorem web_deleted : ∃ made last,
    createVM sampleHost.driver whole sampleMachine {} webConfig = some made ∧
    deleteVM sampleHost.driver made "web" false = some last ∧
    NothingLeft sampleHost.driver (filled sampleHost.driver "web" webConfig) last := by
  have runs : ((createVM sampleHost.driver whole sampleMachine {} webConfig).bind fun made =>
      deleteVM sampleHost.driver made "web" false).isSome := by decide +kernel
  obtain ⟨last, ran⟩ := Option.isSome_iff_exists.mp runs
  obtain ⟨made, created, deleted⟩ := Option.bind_eq_some_iff.mp ran
  exact ⟨made, last, created, deleted, (delete_leaves_nothing_iff _ _ _ _ _ made last webConfig _ []
    false created (if_neg (by decide)) (by decide +kernel) rfl rfl deleted).mpr
      ⟨rfl, fun died => by cases died⟩⟩

theorem dead_vm_leaves_tap :
    ((createVM sampleHost.driver whole sampleMachine {} webConfig).bind fun made =>
      (vmStep sampleHost.driver whole sampleMachine "web" made .exit).bind fun later =>
        deleteVM sampleHost.driver later "web" false).map (·.taps "tap0") = some true ∧
    ((createVM sampleHost.driver whole sampleMachine {} { webConfig with tpm := true }).bind fun made =>
      deleteVM sampleHost.driver made "web" false).map (·.stateDirs "/etc/vc/tpm/web") =
        some true := by
  decide +kernel

end VcStack.QemuLifecycles
