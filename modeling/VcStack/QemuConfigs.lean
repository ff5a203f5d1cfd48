import VcStack.FilePaths

/-!
Configurations of virtual machines, the command line that QEMU is started with
and the values that CreateVM fills in before it saves a configuration.
-/

namespace VcStack.QemuConfigs

open FilePaths

structure PCIDeviceConfig where
  address : String
  romFile : String
  multifn : Bool
  display : String

structure DiskConfig where
  type : String
  path : String
  format : String := ""
  cache : String := ""
  aio : String := ""
  bus : String := ""
  readOnly : Bool := false

structure NICConfig where
  type : String
  mac : String := ""
  model : String := ""
  bridge : String := ""
  tapDev : String := ""
  portID : String := ""
  queues : Int := 0

structure VNCConfig where
  enabled : Bool
  display : Int
  listen : String
  password : String := ""

structure SpiceConfig where
  enabled : Bool := false
  port : Int := 0
  listen : String := ""
  password : String := ""
  tls : Bool := false
  tlsPort : Int := 0

structure SerialConfig where
  type : String
  path : String
  port : Int

structure QMPConfig where
  enabled : Bool
  type : String
  path : String := ""
  host : String := ""
  port : Int := 0

structure MonitorConfig where
  enabled : Bool := false
  type : String := ""
  path : String := ""
  port : Int := 0

structure CloudInitConfig where
  enabled : Bool := false
  isoPath : String := ""

structure VMConfig where
  id : String := ""
  name : String
  uuid : String := ""
  vcpus : Int
  memoryMB : Int
  cpuModel : String := ""
  cpuFlags : List String := []
  machineType : String := ""
  boot : List String
  bootMenu : Bool := false
  uefi : Bool := false
  uefiPath : String := ""
  nvramPath : String := ""
  tpm : Bool := false
  tpmPath : String := ""
  cloudInit : CloudInitConfig := {}
  disks : List DiskConfig := []
  nics : List NICConfig := []
  gpuDevices : List PCIDeviceConfig := []
  vnc : VNCConfig
  spice : SpiceConfig := {}
  serial : List SerialConfig := []
  qmp : QMPConfig
  monitor : MonitorConfig := {}
  extraArgs : List String := []
  pidFile : String := ""
  configFile : String := ""
  logFile : String := ""

def defaultConfig (name : String) : VMConfig where
  name := name
  vcpus := 1
  memoryMB := 1024
  boot := ["c"]
  vnc := { enabled := true, display := 0, listen := "127.0.0.1" }
  qmp := { enabled := true, type := "unix" }

structure Machine where
  arm64 : Bool
  stat : String → Bool

structure Arg where
  flag : String
  value : Option String := none
  deriving DecidableEq

def arg (flag value : String) : List Arg := [{ flag := flag, value := some value }]

def emit {Item : Type} (wanted : Prop) [Decidable wanted] (items : List Item) : List Item :=
  if wanted then items else []

def piece (wanted : Prop) [Decidable wanted] (text : String) : String :=
  if wanted then text else ""

def keyed (key value : String) : String := "," ++ key ++ "=" ++ value

def VMConfig.buildIdentityArgs (c : VMConfig) : List Arg :=
  emit (c.name ≠ "") (arg "-name" c.name) ++ emit (c.uuid ≠ "") (arg "-uuid" c.uuid)

def VMConfig.buildCPUMemoryArgs (m : Machine) (c : VMConfig) : List Arg :=
  let model :=
    if c.cpuModel = "" ∨ c.cpuModel = "host" then
      if m.stat "/dev/kvm" then "host" else if m.arm64 then "cortex-a57" else "qemu64"
    else c.cpuModel
  arg "-m" (toString c.memoryMB) ++ arg "-smp" (toString c.vcpus) ++
    arg "-cpu" (c.cpuFlags.foldl (fun spec flag => spec ++ "," ++ flag) model)

def VMConfig.buildMachineArgs (m : Machine) (c : VMConfig) : List Arg :=
  let spec := if c.machineType = "" then if m.arm64 then "virt" else "q35" else c.machineType
  arg "-machine" (spec ++ if m.stat "/dev/kvm" then ",accel=kvm" else ",accel=tcg")

def firmwareCandidates (m : Machine) : List String :=
  if m.arm64 then
    ["/usr/share/AAVMF/AAVMF_CODE.fd", "/usr/share/qemu-efi-aarch64/QEMU_EFI.fd",
      "/usr/share/OVMF/OVMF_CODE.fd"]
  else ["/usr/share/OVMF/OVMF_CODE.fd", "/usr/share/edk2/ovmf/OVMF_CODE.fd"]

/-- The firmware QEMU is given; the virt machine of arm64 has no BIOS and always gets one. -/
def VMConfig.firmware (m : Machine) (c : VMConfig) : String :=
  if c.uefi ∨ (m.arm64 ∧ (c.machineType = "" ∨ c.machineType = "virt")) then
    if c.uefiPath = "" then ((firmwareCandidates m).find? m.stat).getD "" else c.uefiPath
  else ""

def VMConfig.buildFirmwareArgs (m : Machine) (c : VMConfig) : List Arg :=
  emit (c.firmware m ≠ "" ∧ m.arm64) (arg "-bios" (c.firmware m)) ++
  emit (c.firmware m ≠ "" ∧ !m.arm64)
    (arg "-drive" ("if=pflash" ++ keyed "format" "raw" ++ keyed "readonly" "on" ++
      keyed "file" (c.firmware m))) ++
  emit ((c.firmware m ≠ "" ∧ !m.arm64) ∧ c.nvramPath ≠ "")
    (arg "-drive" ("if=pflash" ++ keyed "format" "raw" ++ keyed "file" c.nvramPath)) ++
  emit (c.tpm ∧ c.tpmPath ≠ "")
    (arg "-chardev" ("socket,id=chrtpm,path=" ++ c.tpmPath) ++
      arg "-tpmdev" "emulator,id=tpm0,chardev=chrtpm" ++
      arg "-device" ((if m.arm64 then "tpm-tis-device" else "tpm-tis") ++ keyed "tpmdev" "tpm0"))

def VMConfig.buildBootArgs (c : VMConfig) : List Arg :=
  emit (c.boot ≠ [])
    (arg "-boot" ("order=" ++ c.boot.foldl (· ++ ·) "") ++ emit c.bootMenu (arg "-boot" "menu=on"))

def DiskConfig.driveSpec (d : DiskConfig) : String :=
  piece (d.type = "file" ∨ d.type = "rbd" ∨ d.type = "nbd") ("file=" ++ d.path) ++
  piece (d.format ≠ "") (keyed "format" d.format) ++
  keyed "if" (if d.bus = "scsi" then "scsi" else "virtio") ++
  piece (d.cache ≠ "") (keyed "cache" d.cache) ++ piece (d.aio ≠ "") (keyed "aio" d.aio) ++
  piece d.readOnly (keyed "readonly" "on")

def DiskConfig.buildArgs (d : DiskConfig) : List Arg := arg "-drive" d.driveSpec

def netdevID (index : Nat) : String := "net" ++ toString index

def NICConfig.deviceSpec (n : NICConfig) (index : Nat) : String :=
  (if n.model = "" then "virtio-net-pci" else n.model) ++ keyed "netdev" (netdevID index) ++
  piece (n.mac ≠ "") (keyed "mac" n.mac) ++
  piece (n.queues > 1) (keyed "mq" "on" ++ keyed "vectors" (toString (n.queues * 2 + 2)))

def NICConfig.buildArgs (n : NICConfig) (index : Nat) : List Arg :=
  emit (n.type = "tap")
    (arg "-netdev" ("tap" ++ keyed "id" (netdevID index) ++
      piece (n.tapDev ≠ "") (keyed "ifname" n.tapDev) ++ keyed "script" "no" ++
      keyed "downscript" "no")) ++
  emit (n.type = "user") (arg "-netdev" ("user" ++ keyed "id" (netdevID index))) ++
  emit (n.type = "bridge")
    (arg "-netdev" ("bridge" ++ keyed "id" (netdevID index) ++
      piece (n.bridge ≠ "") (keyed "br" n.bridge))) ++
  arg "-device" (n.deviceSpec index)

def VMConfig.buildGraphicsArgs (c : VMConfig) : List Arg :=
  let spice := "port=" ++ toString c.spice.port ++ ",addr=" ++ c.spice.listen
  (if c.vnc.enabled then
    arg "-vnc" (c.vnc.listen ++ ":" ++ toString c.vnc.display ++
      piece (c.vnc.password ≠ "") ",password=on")
  else [{ flag := "-nographic" }]) ++
  emit c.spice.enabled
    (arg "-spice" (spice ++
      (if c.spice.password = "" then ",disable-ticketing" else ",password=" ++ c.spice.password) ++
      piece c.spice.tls (",tls-port=" ++ toString c.spice.tlsPort)))

def SerialConfig.buildArgs (s : SerialConfig) : List Arg :=
  if s.type = "pty" then arg "-serial" "pty"
  else if s.type = "unix" ∧ s.path ≠ "" then arg "-serial" ("unix:" ++ s.path ++ ",server,nowait")
  else if s.type = "tcp" then arg "-serial" ("tcp::" ++ toString s.port ++ ",server,nowait")
  else if s.type = "telnet" then arg "-serial" ("telnet::" ++ toString s.port ++ ",server,nowait")
  else emit (s.type = "stdio") (arg "-serial" "stdio")

def VMConfig.buildQMPArgs (c : VMConfig) : List Arg :=
  emit c.qmp.enabled
    (if c.qmp.type = "unix" ∧ c.qmp.path ≠ "" then
      arg "-qmp" ("unix:" ++ c.qmp.path ++ ",server,nowait")
    else emit (c.qmp.type = "tcp")
      (arg "-qmp" ("tcp:" ++ c.qmp.host ++ ":" ++ toString c.qmp.port ++ ",server,nowait")))

def VMConfig.buildMonitorArgs (c : VMConfig) : List Arg :=
  emit c.monitor.enabled
    (if c.monitor.type = "unix" ∧ c.monitor.path ≠ "" then
      arg "-monitor" ("unix:" ++ c.monitor.path ++ ",server,nowait")
    else if c.monitor.type = "tcp" then
      arg "-monitor" ("tcp::" ++ toString c.monitor.port ++ ",server,nowait")
    else emit (c.monitor.type = "stdio") (arg "-monitor" "stdio"))

def PCIDeviceConfig.buildArgs (p : PCIDeviceConfig) : List Arg :=
  emit (p.address ≠ "")
    (arg "-device" ("vfio-pci" ++ keyed "host" p.address ++
      piece (p.romFile ≠ "") (keyed "romfile" p.romFile) ++
      piece p.multifn (keyed "multifunction" "on") ++
      piece (p.display = "on") (keyed "display" "on")))

def VMConfig.options (m : Machine) (c : VMConfig) : List Arg :=
  c.buildIdentityArgs ++ c.buildCPUMemoryArgs m ++ c.buildMachineArgs m ++ c.buildFirmwareArgs m ++
  c.buildBootArgs ++ c.disks.flatMap DiskConfig.buildArgs ++
  c.nics.zipIdx.flatMap (fun nic => nic.1.buildArgs nic.2) ++ c.buildGraphicsArgs ++
  c.serial.flatMap SerialConfig.buildArgs ++ c.buildQMPArgs ++ c.buildMonitorArgs ++
  emit (c.pidFile ≠ "") (arg "-pidfile" c.pidFile) ++ [{ flag := "-daemonize" }] ++
  c.gpuDevices.flatMap PCIDeviceConfig.buildArgs ++ c.extraArgs.map fun extra => { flag := extra }

def VMConfig.buildArgs (m : Machine) (c : VMConfig) : List String :=
  (c.options m).flatMap fun option => option.flag :: option.value.toList

structure Driver where
  runDir : String
  configDir : String

variable (d : Driver)

def pidPath (id : String) : String := join d.runDir (id ++ ".pid")
def configPath (id : String) : String := join d.configDir (id ++ ".json")
def logPath (id : String) : String := join d.runDir (id ++ ".log")
def qmpPath (id : String) : String := join d.runDir (id ++ ".qmp")
def isoPath (id : String) : String := join (join d.configDir "cloud-init") (id ++ "-cidata.iso")
def tpmDir (id : String) : String := join (join d.configDir "tpm") id
def swtpmSock (id : String) : String := join d.runDir (id ++ "-swtpm.sock")
def swtpmPID (id : String) : String := join d.runDir (id ++ "-swtpm.pid")

def NICConfig.Unnamed (nic : NICConfig) : Prop := nic.type = "tap" ∧ nic.tapDev = ""

instance : DecidablePred NICConfig.Unnamed := fun nic =>
  inferInstanceAs (Decidable (nic.type = "tap" ∧ nic.tapDev = ""))

def nameTap (slice : String) (index : Nat) (nic : NICConfig) : NICConfig :=
  if nic.Unnamed then { nic with tapDev := "tap-" ++ slice ++ "-" ++ toString index } else nic

def cdrom (path : String) : DiskConfig where
  type := "file"
  path := path
  format := "raw"
  bus := "virtio"
  readOnly := true

def filled (slice : String) (cfg : VMConfig) : VMConfig :=
  { cfg with
    pidFile := pidPath d cfg.id
    configFile := configPath d cfg.id
    logFile := logPath d cfg.id
    qmp := if cfg.qmp.enabled ∧ cfg.qmp.type = "unix" ∧ cfg.qmp.path = "" then
        { cfg.qmp with path := qmpPath d cfg.id } else cfg.qmp
    nics := cfg.nics.mapIdx (nameTap slice)
    cloudInit := if cfg.cloudInit.enabled ∧ cfg.cloudInit.isoPath = "" then
        { cfg.cloudInit with isoPath := isoPath d cfg.id } else cfg.cloudInit
    disks := if cfg.cloudInit.enabled ∧ cfg.cloudInit.isoPath = "" then
        cfg.disks ++ [cdrom (isoPath d cfg.id)] else cfg.disks
    tpmPath := if cfg.tpm then swtpmSock d cfg.id else cfg.tpmPath }

/-- `slice` gives the bytes of `cfg.ID[:8]`, which panics on a shorter id. -/
def setup (slice : String → String) (cfg : VMConfig) : Option VMConfig :=
  if cfg.id = "" ∨ ((∃ nic ∈ cfg.nics, nic.Unnamed) ∧ cfg.id.utf8ByteSize < 8) then none
  else some (filled d (slice cfg.id) cfg)

theorem name_taps_named {slice : String} {nics : List NICConfig}
    (named : ∀ nic ∈ nics, ¬ nic.Unnamed) : nics.mapIdx (nameTap slice) = nics := by
  refine List.ext_getElem (by simp) fun index bound inside => ?_
  rw [List.getElem_mapIdx, nameTap, if_neg (named _ (List.getElem_mem inside))]

theorem tap_named {slice : String} {index : Nat} {nic : NICConfig} :
    ¬ (nameTap slice index nic).Unnamed := by
  unfold nameTap
  split
  · simp [NICConfig.Unnamed]
  · assumption

/-- Filling in a configuration that has been filled in changes nothing. -/
theorem setup_again {slice : String → String} {cfg c : VMConfig} (first : setup d slice cfg = some c) :
    setup d slice c = some c := by
  unfold setup at first
  split at first
  · cases first
  · rename_i passes
    obtain rfl := Option.some.inj first
    have named : ∀ nic ∈ (filled d (slice cfg.id) cfg).nics, ¬ nic.Unnamed := by
      intro nic member
      obtain ⟨index, inside, rfl⟩ := List.mem_mapIdx.mp member
      exact tap_named
    have iso : isoPath d cfg.id ≠ "" := join_ne_empty (by simp)
    have nics : (filled d (slice cfg.id) cfg).nics.mapIdx (nameTap (slice cfg.id)) = _ :=
      name_taps_named named
    rw [setup, if_neg]
    · simp only [filled] at nics ⊢
      rw [nics]
      by_cases cloud : cfg.cloudInit.enabled ∧ cfg.cloudInit.isoPath = "" <;>
        by_cases qmp : cfg.qmp.enabled ∧ cfg.qmp.type = "unix" ∧ cfg.qmp.path = "" <;>
        by_cases tpm : cfg.tpm <;> simp [cloud, qmp, tpm, iso]
    · rintro (none | ⟨⟨nic, member, unnamed⟩, -⟩)
      · exact passes (.inl none)
      · exact named nic member unnamed

end VcStack.QemuConfigs
