import Mathlib.Data.List.Infix
import VcStack.Idempotency
import VcStack.QemuConfigs

/-!
Ids of virtual machines: the filter that makes an id of a requested name, the
check that every later operation puts an id through, and the files and devices
that the creation of a machine derives from its id.
-/

namespace VcStack.VmCreation

open FilePaths QemuConfigs
open Idempotency (trimSpace)
open Text (trim)

def validateVMID (id : String) : Except String String :=
  if base id = "." ∨ base id = "" ∨ ['.', '.'] <:+: (base id).toList ∨ '/' ∈ (base id).toList ∨
      '\\' ∈ (base id).toList then .error "invalid VM id"
  else .ok (base id)

/-- All ids in use are ASCII, where characters are bytes. -/
def safePrefix (s : String) (n : Nat) : String :=
  if s.length ≤ n then s else String.ofList (s.toList.take n)

def kept (r : Char) : Bool :=
  ('a' ≤ r && r ≤ 'z') || ('A' ≤ r && r ≤ 'Z') || ('0' ≤ r && r ≤ '9') ||
    r == '-' || r == '_' || r == '.'

def sanitizeName (s : String) : String :=
  if trimSpace s = "" then ""
  else trim (fun r => r == '.' || r == '-')
    (String.ofList (((trimSpace s).toList.map fun r => if r = ' ' then '-' else r).filter kept))

structure Nic where
  mac : String
  portID : String

structure CreateVMRequest where
  name : String
  vcpus : Int := 1
  memoryMB : Int := 1024
  image : String := ""
  rootRBDImage : String := ""
  iso : String := ""
  uefi : Bool := false
  tpm : Bool := false
  nics : List Nic := []

structure HostConfig where
  driver : Driver
  ovmfCodePath : String
  nvramDir : String

def vmID (nano : Nat) (name : String) : String :=
  if sanitizeName name = "" then "vm-" ++ toString nano else sanitizeName name

def diskPath (d : Driver) (id : String) : String := join d.runDir (id ++ "-disk.qcow2")

def rootDisk (d : Driver) (id : String) (req : CreateVMRequest) : List DiskConfig :=
  if trimSpace req.image ≠ "" then
    [{ type := "file", path := diskPath d id, format := "qcow2", bus := "virtio",
       cache := "writeback", aio := "threads" }]
  else if trimSpace req.rootRBDImage ≠ "" then
    [{ type := "rbd", path := "rbd:" ++ req.rootRBDImage, format := "rbd", bus := "virtio",
       cache := "none" }]
  else []

def tapName (id : String) (index : Nat) : String :=
  "tap-" ++ safePrefix id 8 ++ "-" ++ toString index

def requestNICs (id : String) (nics : List Nic) : List NICConfig :=
  if nics = [] then [{ type := "user", model := "virtio-net-pci" }]
  else nics.mapIdx fun index nic =>
    { type := "tap", mac := nic.mac, model := "virtio-net-pci", tapDev := tapName id index,
      portID := nic.portID }

def requestConfig (host : HostConfig) (nano : Nat) (uuid : String) (req : CreateVMRequest) :
    VMConfig :=
  { defaultConfig req.name with
    id := vmID nano req.name
    uuid := uuid
    vcpus := req.vcpus
    memoryMB := req.memoryMB
    uefi := req.uefi
    uefiPath := if req.uefi then
        if host.ovmfCodePath = "" then "/usr/share/OVMF/OVMF_CODE.fd" else host.ovmfCodePath
      else ""
    nvramPath := if req.uefi ∧ host.nvramDir ≠ "" then
        join host.nvramDir (vmID nano req.name ++ "_VARS.fd") else ""
    tpm := req.tpm
    tpmPath := if req.tpm then swtpmSock host.driver (vmID nano req.name) else ""
    disks := rootDisk host.driver (vmID nano req.name) req ++
      if trimSpace req.iso ≠ "" then [cdrom req.iso] else []
    cloudInit := { enabled := true }
    nics := requestNICs (vmID nano req.name) req.nics }

def createVMNew (slice : String → String) (host : HostConfig) (nano : Nat) (uuid : String)
    (req : CreateVMRequest) : Option VMConfig :=
  setup host.driver slice (requestConfig host nano uuid req)

theorem sanitized_kept {name : String} : ∀ r ∈ (sanitizeName name).toList, kept r = true := by
  intro r member
  unfold sanitizeName at member
  split at member
  · cases member
  · simp only [trim, String.toList_ofList, List.mem_reverse] at member
    have inside := (List.dropWhile_sublist _).mem (List.mem_reverse.mp
      ((List.dropWhile_sublist _).mem member))
    exact (List.mem_filter.mp inside).2

theorem trim_ne_dropped {drops : Char → Bool} (dropped : Char) (drop : drops dropped = true)
    {text : String} : trim drops text ≠ String.singleton dropped := by
  intro single
  have last := List.head?_dropWhile_not drops (text.toList.dropWhile drops).reverse
  have only := congrArg (fun text => text.toList.reverse.head?) single
  simp only [trim, String.toList_ofList, List.reverse_reverse] at only
  rw [only] at last
  simp [drop] at last

theorem sanitized_ne_dot {name : String} : sanitizeName name ≠ "." := by
  unfold sanitizeName
  split
  · decide
  · exact trim_ne_dropped '.' (by decide)

theorem validate_some_iff {id accepted : String} :
    validateVMID id = .ok accepted ↔ base id = accepted ∧ accepted ≠ "." ∧ accepted ≠ "" ∧
      ¬ ['.', '.'] <:+: accepted.toList ∧ '/' ∉ accepted.toList ∧ '\\' ∉ accepted.toList := by
  unfold validateVMID
  split
  · rename_i refused
    refine iff_of_false (by simp) ?_
    rintro ⟨rfl, notDot, some, noDots, slash, backslash⟩
    rcases refused with dot | none | dots | present | present
    · exact notDot dot
    · exact some none
    · exact noDots dots
    · exact slash present
    · exact backslash present
  · rename_i passes
    simp only [not_or] at passes
    constructor
    · intro valid
      cases valid
      exact ⟨rfl, passes⟩
    · rintro ⟨rfl, -⟩
      rfl

/-- An id that passes the check is one element of a path, whatever fixed suffix follows it. -/
theorem accepted_plain {id accepted suffix : String} (valid : validateVMID id = .ok accepted)
    (single : '/' ∉ suffix.toList) : Plain (accepted ++ suffix) := by
  obtain ⟨-, notDot, some, noDots, slash, -⟩ := validate_some_iff.mp valid
  have noDot : accepted.toList ≠ ['.'] := fun same => notDot (String.toList_inj.mp same)
  have notNone : accepted.toList ≠ [] := fun same => some (String.toList_inj.mp same)
  have chars {text : String} (same : accepted ++ suffix = text) :
      accepted.toList ++ suffix.toList = text.toList := by
    rw [← String.toList_append, same]
  refine ⟨by simp [some], fun dot => ?_, fun dots => ?_, by simp [slash, single]⟩
  · have one : accepted.toList ++ suffix.toList = ['.'] := chars dot
    rcases List.append_eq_singleton_iff.mp one with ⟨none, -⟩ | ⟨one, -⟩
    · exact notNone none
    · exact noDot one
  · -- Both dots are those of the id, which has no two, or one of them is the whole id.
    have two : accepted.toList ++ suffix.toList = ['.', '.'] := chars dots
    rcases List.append_eq_cons_iff.mp two with ⟨none, -⟩ | ⟨rest, shape, later⟩
    · exact notNone none
    · rcases List.append_eq_singleton_iff.mp later.symm with ⟨none, -⟩ | ⟨one, -⟩
      · exact noDot (by rw [shape, none])
      · exact noDots (by rw [shape, one])

theorem sanitized_id_valid (name : String) :
    (sanitizeName name ≠ "" → (validateVMID (sanitizeName name) = .ok (sanitizeName name) ↔
      ¬ ['.', '.'] <:+: (sanitizeName name).toList)) ∧
    ∀ id accepted, validateVMID id = .ok accepted → ∀ dir suffix, '/' ∉ suffix.toList →
      Plain (accepted ++ suffix) ∧
      join dir (accepted ++ suffix) = within dir ++ (accepted ++ suffix) := by
  refine ⟨fun some => ?_, fun id accepted valid dir suffix single => ?_⟩
  · have free : ∀ r, kept r = false → r ∉ (sanitizeName name).toList := fun r bad member => by
      simp [sanitized_kept r member] at bad
    rw [validate_some_iff, base_plain some (free '/' (by decide))]
    simp [sanitized_ne_dot, some, free '/' (by decide), free '\\' (by decide)]
  · have plain := accepted_plain valid single
    exact ⟨plain, join_plain plain⟩

theorem interior_dots_rejected :
    sanitizeName "a..b" = "a..b" ∧ validateVMID "a..b" = .error "invalid VM id" := by
  decide +kernel

def diskFiles (c : VMConfig) : List String :=
  (c.disks.filter fun disk => disk.type = "file" && !disk.readOnly).map DiskConfig.path

def rbdImages (c : VMConfig) : List String :=
  (c.disks.filter fun disk => disk.type = "rbd" && !disk.readOnly).map DiskConfig.path

def taps (c : VMConfig) : List String :=
  (c.nics.filter fun nic => nic.type = "tap").map NICConfig.tapDev

def written (d : Driver) (c : VMConfig) : List String :=
  [c.configFile, c.pidFile, c.qmp.path, c.nvramPath, isoPath d c.id, swtpmSock d c.id,
    swtpmPID d c.id, join (join d.configDir "cloud-init") "meta-data",
    join (join d.configDir "cloud-init") "user-data"] ++ diskFiles c

structure Separate (c other : VMConfig) : Prop where
  configFile : c.configFile ≠ other.configFile
  pidFile : c.pidFile ≠ other.pidFile
  qmp : c.qmp.path ≠ other.qmp.path
  disks : ∀ path ∈ diskFiles c, path ∉ diskFiles other
  images : ∀ path ∈ rbdImages c, path ∉ rbdImages other
  taps : ∀ tap ∈ taps c, tap ∉ taps other

section

variable {host : HostConfig} {slice : String → String} {nano : Nat} {uuid : String}
  {req : CreateVMRequest} {id : String}

theorem decimal_free {value : Nat} {char : Char} (other : char.isDigit = false) :
    char ∉ (toString value).toList := by
  rw [Text.decimal_chars]
  intro member
  simp [Nat.isDigit_of_mem_toDigits (by decide) (by decide) member] at other

theorem vm_id_spec (nano : Nat) (name : String) :
    vmID nano name ≠ "" ∧ '/' ∉ (vmID nano name).toList := by
  unfold vmID
  split
  · refine ⟨by simp, ?_⟩
    have free : '/' ∉ (toString nano).toList := decimal_free (by decide)
    simpa using free
  · rename_i some
    exact ⟨some, fun slash => absurd (sanitized_kept _ slash) (by decide)⟩

theorem request_nics_named {nics : List Nic} : ∀ nic ∈ requestNICs id nics, ¬ nic.Unnamed := by
  intro nic member
  unfold requestNICs at member
  split at member
  · rw [List.mem_singleton.mp member]
    decide
  · obtain ⟨index, inside, rfl⟩ := List.mem_mapIdx.mp member
    simp [NICConfig.Unnamed, tapName]

def RootsOn (req : CreateVMRequest) (path : String) : Prop :=
  trimSpace req.image = "" ∧ trimSpace req.rootRBDImage ≠ "" ∧ "rbd:" ++ req.rootRBDImage = path

structure Names (host : HostConfig) (req : CreateVMRequest) (vm : String) (c : VMConfig) : Prop where
  id : c.id = vm
  configFile : c.configFile = configPath host.driver vm
  pidFile : c.pidFile = pidPath host.driver vm
  qmp : c.qmp.path = qmpPath host.driver vm
  nvram : c.nvramPath = "" ∨ c.nvramPath = join host.nvramDir (vm ++ "_VARS.fd")
  disks : diskFiles c = if trimSpace req.image ≠ "" then [diskPath host.driver vm] else []
  images : ∀ path, path ∈ rbdImages c ↔ RootsOn req path
  taps : ∀ tap, tap ∈ taps c ↔ ∃ index < req.nics.length, tap = tapName vm index

theorem request_config_set_up : createVMNew slice host nano uuid req =
    some (filled host.driver (slice (vmID nano req.name)) (requestConfig host nano uuid req)) := by
  rw [createVMNew, setup, if_neg]
  · rfl
  · rintro (none | ⟨⟨nic, member, unnamed⟩, -⟩)
    · exact (vm_id_spec nano req.name).1 none
    · exact request_nics_named nic member unnamed

variable (host slice nano uuid req) in
theorem create_names : Names host req (vmID nano req.name)
    (filled host.driver (slice (vmID nano req.name)) (requestConfig host nano uuid req)) where
  id := by simp only [filled, requestConfig]
  configFile := by simp only [filled, requestConfig]
  pidFile := by simp only [filled, requestConfig]
  qmp := by simp [filled, requestConfig, defaultConfig]
  nvram := by
    simp only [filled, requestConfig]
    split <;> simp
  disks := by
    simp only [filled, requestConfig, diskFiles, rootDisk, cdrom]
    by_cases image : trimSpace req.image = "" <;>
      by_cases root : trimSpace req.rootRBDImage = "" <;> simp [image, root]
  images path := by
    simp only [filled, requestConfig, rbdImages, rootDisk, cdrom, RootsOn]
    by_cases image : trimSpace req.image = "" <;>
      by_cases root : trimSpace req.rootRBDImage = "" <;> simp [image, root, @eq_comm _ path]
  taps tap := by
    simp only [filled, requestConfig, VmCreation.taps, name_taps_named request_nics_named]
    by_cases none : req.nics = []
    · simp [requestNICs, none]
    · simp [requestNICs, none, List.mem_mapIdx, eq_comm]

theorem suffixed_path (slash : '/' ∉ id.toList) {suffix : String} (single : '/' ∉ suffix.toList)
    (long : 3 ≤ suffix.length) (dir : String) :
    (join dir (id ++ suffix)).toList = (within dir).toList ++ id.toList ++ suffix.toList := by
  have short : ∀ text : String, text.length < 3 → id ++ suffix ≠ text := by
    rintro _ small rfl
    rw [String.length_append] at small
    omega
  rw [join_plain ⟨short "" (by decide), short "." (by decide), short ".." (by decide),
    by simp [slash, single]⟩]
  simp

theorem suffixed_inj {other : String} (suffix dir : String) (slash : '/' ∉ id.toList)
    (otherSlash : '/' ∉ other.toList) (single : '/' ∉ suffix.toList) (long : 3 ≤ suffix.length) :
    join dir (id ++ suffix) = join dir (other ++ suffix) ↔ id = other := by
  refine ⟨fun same => ?_, fun same => by rw [same]⟩
  have chars := congrArg String.toList same
  rw [suffixed_path slash single long, suffixed_path otherSlash single long] at chars
  exact String.toList_inj.mp (by simpa using chars)

theorem tap_name_inj {other : String} {index place : Nat}
    (same : tapName id index = tapName other place) :
    safePrefix id 8 = safePrefix other 8 := by
  have free : ∀ n : Nat, '-' ∉ (toString n).toList := fun n => decimal_free (by decide)
  have last := Text.joined_last_inj (free index) (free place) same
  simpa [tapName, last] using same

theorem suffixed_last (slash : '/' ∉ id.toList) (suffix : String) {dir : String}
    (single : '/' ∉ suffix.toList) (long : 3 ≤ suffix.length) :
    (join dir (id ++ suffix)).toList.getLast? = suffix.toList.getLast? := by
  have some : suffix.toList ≠ [] := fun none => by simp [← String.length_toList, none] at long
  rw [suffixed_path slash single long, List.getLast?_append_of_ne_nil _ some]

def Spared (path : String) : Prop := path.toList.getLast? ∉ [some 'n', some '2']

theorem suffixed_spared (slash : '/' ∉ id.toList) (suffix dir : String)
    (single : '/' ∉ suffix.toList) (long : 3 ≤ suffix.length)
    (other : suffix.toList.getLast? ∉ [some 'n', some '2']) : Spared (join dir (id ++ suffix)) := by
  rwa [Spared, suffixed_last slash suffix single long]

theorem names_last {c : VMConfig} (names : Names host req id c) (slash : '/' ∉ id.toList) :
    c.configFile.toList.getLast? = some 'n' ∧
    ∀ path ∈ diskFiles c, path.toList.getLast? = some '2' := by
  rw [names.configFile, names.disks, configPath, suffixed_last slash ".json" (by decide) (by decide)]
  refine ⟨rfl, fun path member => ?_⟩
  split at member
  · rw [List.mem_singleton.mp member, diskPath, suffixed_last slash _ (by decide) (by decide)]; rfl
  · cases member

theorem written_spared {c : VMConfig} (names : Names host req id c) (slash : '/' ∉ id.toList) :
    ∀ path ∈ written host.driver c, path = c.configFile ∨ path ∈ diskFiles c ∨ Spared path := by
  have spared := suffixed_spared slash
  have fixed := suffixed_spared (show '/' ∉ "".toList by decide)
  have nvram : Spared c.nvramPath := by
    rcases names.nvram with none | some
    · simp [Spared, none]
    · rw [some]
      exact spared _ _ (by decide) (by decide) (by decide)
  simp only [written, List.cons_append, List.nil_append, List.forall_mem_cons, names.id,
    names.pidFile, names.qmp]
  refine ⟨.inl trivial, ?_, ?_, .inr (.inr nvram), ?_, ?_, ?_, ?_, ?_, fun _ => (.inr <| .inl ·)⟩
  all_goals refine .inr (.inr ?_)
  · exact spared ".pid" _ (by decide) (by decide) (by decide)
  · exact spared ".qmp" _ (by decide) (by decide) (by decide)
  · exact spared "-cidata.iso" _ (by decide) (by decide) (by decide)
  · exact spared "-swtpm.sock" _ (by decide) (by decide) (by decide)
  · exact spared "-swtpm.pid" _ (by decide) (by decide) (by decide)
  · exact fixed "meta-data" _ (by decide) (by decide) (by decide)
  · exact fixed "user-data" _ (by decide) (by decide) (by decide)

end

def SharedRoot (req other : CreateVMRequest) : Prop :=
  trimSpace req.image = "" ∧ trimSpace other.image = "" ∧ trimSpace req.rootRBDImage ≠ "" ∧
    req.rootRBDImage = other.rootRBDImage

theorem shared_root_iff {req other : CreateVMRequest} :
    SharedRoot req other ↔ ∃ path, RootsOn req path ∧ RootsOn other path := by
  constructor
  · rintro ⟨noImage, noOther, some, same⟩
    exact ⟨_, ⟨noImage, some, rfl⟩, noOther, same ▸ some, by rw [same]⟩
  · rintro ⟨path, ⟨noImage, some, rfl⟩, noOther, _, same⟩
    exact ⟨noImage, noOther, some, (String.append_right_inj _).mp same.symm⟩

section

variable {host : HostConfig} {req other : CreateVMRequest} {vm twin : String} {c added : VMConfig}
  (names : Names host req vm c) (others : Names host other twin added)
  (slash : '/' ∉ vm.toList) (otherSlash : '/' ∉ twin.toList)

include names others slash otherSlash

theorem separate_iff : Separate c added ↔ vm ≠ twin ∧
    (req.nics = [] ∨ other.nics = [] ∨ safePrefix vm 8 ≠ safePrefix twin 8) ∧
      ¬ SharedRoot req other := by
  have inj := fun suffix dir => suffixed_inj suffix dir slash otherSlash
  constructor
  · intro apart
    refine ⟨fun same => apart.configFile (by rw [names.configFile, others.configFile, same]), ?_,
      fun shared => ?_⟩
    · by_contra! both
      obtain ⟨some, otherSome, same⟩ := both
      refine apart.taps (tapName vm 0) ((names.taps _).mpr ⟨0, ?_, rfl⟩)
        ((others.taps _).mpr ⟨0, ?_, by rw [tapName, tapName, same]⟩)
      · exact List.length_pos_iff.mpr some
      · exact List.length_pos_iff.mpr otherSome
    · obtain ⟨path, own, also⟩ := shared_root_iff.mp shared
      exact apart.images path ((names.images path).mpr own) ((others.images path).mpr also)
  · rintro ⟨differ, devices, roots⟩
    constructor
    · rwa [names.configFile, others.configFile, Ne, configPath, configPath,
        inj _ _ (by decide) (by decide)]
    · rwa [names.pidFile, others.pidFile, Ne, pidPath, pidPath, inj _ _ (by decide) (by decide)]
    · rwa [names.qmp, others.qmp, Ne, qmpPath, qmpPath, inj _ _ (by decide) (by decide)]
    · rw [names.disks, others.disks]
      split <;> split <;> simp [diskPath, inj "-disk.qcow2" _ (by decide) (by decide), differ]
    · intro path own also
      exact roots (shared_root_iff.mpr
        ⟨path, (names.images path).mp own, (others.images path).mp also⟩)
    · intro tap member shared
      obtain ⟨index, inside, rfl⟩ := (names.taps _).mp member
      obtain ⟨place, within, same⟩ := (others.taps _).mp shared
      have alike := tap_name_inj same
      rcases devices with none | none | unlike
      · simp [none] at inside
      · simp [none] at within
      · exact unlike alike

theorem unwritten_of_separate (apart : Separate c added) :
    c.configFile ∉ written host.driver added ∧
      ∀ path ∈ diskFiles c, path ∉ written host.driver added := by
  have spared := written_spared others otherSlash
  have last := names_last names slash
  have otherLast := names_last others otherSlash
  refine ⟨fun member => ?_, fun path disk member => ?_⟩
  · rcases spared _ member with same | shared | ends
    · exact apart.configFile same
    · simp [otherLast.2 _ shared] at last
    · simp [Spared, last.1] at ends
  · rcases spared _ member with same | shared | ends
    · simp [← same, last.2 _ disk] at otherLast
    · exact apart.disks path disk shared
    · simp [Spared, last.2 _ disk] at ends

end

/-- Two creations on one host are apart exactly when their ids differ, their NICs do not
share the name of a tap and their root disks are not one RBD image. -/
theorem creations_separate (slice : String → String) (host : HostConfig) (nano later : Nat)
    (uuid fresh : String) (req other : CreateVMRequest) :
    ∃ c added, createVMNew slice host nano uuid req = some c ∧
      createVMNew slice host later fresh other = some added ∧
      (Separate c added ↔ vmID nano req.name ≠ vmID later other.name ∧
        (req.nics = [] ∨ other.nics = [] ∨
          safePrefix (vmID nano req.name) 8 ≠ safePrefix (vmID later other.name) 8) ∧
        ¬ SharedRoot req other) ∧
      (Separate c added → c.configFile ∉ written host.driver added ∧
        ∀ path ∈ diskFiles c, path ∉ written host.driver added) := by
  have names := create_names host slice nano uuid req
  have others := create_names host slice later fresh other
  have slash := (vm_id_spec nano req.name).2
  have otherSlash := (vm_id_spec later other.name).2
  exact ⟨_, _, request_config_set_up, request_config_set_up,
    separate_iff names others slash otherSlash, unwritten_of_separate names others slash otherSlash⟩

def sampleHost : HostConfig where
  driver := { runDir := "/run/vc", configDir := "/etc/vc" }
  ovmfCodePath := ""
  nvramDir := ""

theorem spaced_name_shared :
    ((createVMNew id sampleHost 0 "u" { name := "a b" }).map VMConfig.configFile =
      some "/etc/vc/a-b.json" ∧
    (createVMNew id sampleHost 1 "v" { name := "a-b" }).map VMConfig.configFile =
      some "/etc/vc/a-b.json") ∧
    (createVMNew id sampleHost 0 "u" { name := "database-1", nics := [⟨"", ""⟩] }).map taps =
      some ["tap-database-0"] ∧
    (createVMNew id sampleHost 1 "v" { name := "database-2", nics := [⟨"", ""⟩] }).map taps =
      some ["tap-database-0"] ∧
    (createVMNew id sampleHost 0 "u" { name := "alpha", rootRBDImage := "vms/base" }).map rbdImages =
      some ["rbd:vms/base"] ∧
    (createVMNew id sampleHost 1 "v" { name := "beta", rootRBDImage := "vms/base" }).map rbdImages =
      some ["rbd:vms/base"] := by
  decide +kernel

end VcStack.VmCreation
