import VcStack.OptionTexts
import VcStack.VmCreation

/-!
The option texts that QEMU splits at commas, as the builders mean them and as
QEMU reads them.
-/

namespace VcStack.QemuOptions

open FilePaths (join)
open Idempotency (trimSpace)
open OptionTexts QemuConfigs VmCreation

/-- An option as its builder means it: a first item and those appended to it. -/
structure Spec where
  flag : String
  head : String × String
  tail : List (String × String) := []

def impliedKey (flag : String) : Option String :=
  if flag = "-name" then some "guest"
  else if flag = "-netdev" then some "type"
  else if flag = "-device" then some "driver"
  else none

def tailText (items : List (String × String)) : String :=
  items.foldr (fun item rest => keyed item.1 item.2 ++ rest) ""

def Spec.text (spec : Spec) : String :=
  (if impliedKey spec.flag = none then spec.head.1 ++ "=" ++ spec.head.2 else spec.head.2) ++
    tailText spec.tail

def diskSpec (d : DiskConfig) : Spec where
  flag := "-drive"
  head := ("file", d.path)
  tail := emit (d.format ≠ "") [("format", d.format)] ++
    [("if", if d.bus = "scsi" then "scsi" else "virtio")] ++ emit (d.cache ≠ "") [("cache", d.cache)] ++
    emit (d.aio ≠ "") [("aio", d.aio)] ++ emit d.readOnly [("readonly", "on")]

def netdevSpec (n : NICConfig) (index : Nat) : Spec where
  flag := "-netdev"
  head := ("type", n.type)
  tail := ("id", netdevID index) :: emit (n.type = "tap")
    (emit (n.tapDev ≠ "") [("ifname", n.tapDev)] ++ [("script", "no"), ("downscript", "no")])

def deviceSpec (n : NICConfig) (index : Nat) : Spec where
  flag := "-device"
  head := ("driver", n.model)
  tail := ("netdev", netdevID index) :: emit (n.mac ≠ "") [("mac", n.mac)]

def firmwareSpecs (m : Machine) (c : VMConfig) : List Spec :=
  emit (c.firmware m ≠ "" ∧ !m.arm64)
    [{ flag := "-drive", head := ("if", "pflash"),
       tail := [("format", "raw"), ("readonly", "on"), ("file", c.firmware m)] }] ++
  emit ((c.firmware m ≠ "" ∧ !m.arm64) ∧ c.nvramPath ≠ "")
    [{ flag := "-drive", head := ("if", "pflash"),
       tail := [("format", "raw"), ("file", c.nvramPath)] }] ++
  emit (c.tpm ∧ c.tpmPath ≠ "")
    [{ flag := "-device", head := ("driver", if m.arm64 then "tpm-tis-device" else "tpm-tis"),
       tail := [("tpmdev", "tpm0")] }]

def specs (m : Machine) (c : VMConfig) : List Spec :=
  emit (c.name ≠ "") [{ flag := "-name", head := ("guest", c.name) }] ++
  firmwareSpecs m c ++ c.disks.map diskSpec ++
  c.nics.zipIdx.flatMap fun nic => [netdevSpec nic.1 nic.2, deviceSpec nic.1 nic.2]

def checked (option : Arg) : Bool := option.flag ∈ ["-drive", "-netdev", "-device", "-name"]

structure Plain (c : VMConfig) : Prop where
  disks : ∀ disk ∈ c.disks, disk.type = "file" ∨ disk.type = "rbd"
  types : ∀ nic ∈ c.nics, nic.type = "tap" ∨ nic.type = "user"
  models : ∀ nic ∈ c.nics, nic.model = "virtio-net-pci" ∧ nic.queues = 0
  serial : c.serial = []
  gpus : c.gpuDevices = []
  extra : c.extraArgs = []

variable {m : Machine} {c : VMConfig}

theorem tail_text_cons {item : String × String} {rest : List (String × String)} :
    tailText (item :: rest) = keyed item.1 item.2 ++ tailText rest := rfl

theorem tail_text_append (front back : List (String × String)) :
    tailText (front ++ back) = tailText front ++ tailText back := by
  induction front with
  | nil => simp [tailText]
  | cons item rest ih =>
    rw [List.cons_append, tail_text_cons, tail_text_cons, ih, String.append_assoc]

theorem tail_text_emit {wanted : Prop} [Decidable wanted] {items : List (String × String)} :
    tailText (emit wanted items) = piece wanted (tailText items) := by
  unfold emit piece
  split <;> rfl

theorem map_emit {Item Other : Type} {f : Item → Other} {wanted : Prop} [Decidable wanted]
    {items : List Item} : (emit wanted items).map f = emit wanted (items.map f) := by
  unfold emit
  split <;> rfl

theorem filter_emit {wanted : Prop} [Decidable wanted] {args : List Arg} :
    (emit wanted args).filter checked = emit wanted (args.filter checked) := by
  unfold emit
  split <;> rfl

theorem filter_arg {flag value : String}
    (listed : flag ∈ ["-drive", "-netdev", "-device", "-name"]) :
    (arg flag value).filter checked = arg flag value :=
  List.filter_eq_self.mpr fun _ member => by
    rw [List.mem_singleton.mp member]
    exact decide_eq_true listed

theorem filter_other {flag : String} {value : Option String}
    (other : flag ∉ ["-drive", "-netdev", "-device", "-name"]) :
    [Arg.mk flag value].filter checked = [] :=
  List.filter_eq_nil_iff.mpr fun _ member passes => by
    rw [List.mem_singleton.mp member] at passes
    exact other (of_decide_eq_true passes)

theorem emit_nil {Item : Type} {wanted : Prop} [Decidable wanted] :
    emit wanted ([] : List Item) = [] := ite_self []

def Spec.arg (spec : Spec) : Arg := { flag := spec.flag, value := some spec.text }

theorem identity_checked : c.buildIdentityArgs.filter checked =
    (emit (c.name ≠ "") [{ flag := "-name", head := ("guest", c.name) }]).map Spec.arg := by
  have name : Spec.arg { flag := "-name", head := ("guest", c.name) } = ⟨"-name", c.name⟩ := by
    simp [Spec.arg, Spec.text, impliedKey, tailText]
  have uuid : (arg "-uuid" c.uuid).filter checked = [] := filter_other (by decide)
  rw [VMConfig.buildIdentityArgs, List.filter_append, filter_emit, filter_emit, uuid, emit_nil,
    List.append_nil, filter_arg (by decide), map_emit, List.map_singleton, name, arg]

theorem firmware_checked :
    (c.buildFirmwareArgs m).filter checked = (firmwareSpecs m c).map Spec.arg := by
  have bios : (arg "-bios" (c.firmware m)).filter checked = [] := filter_other (by decide)
  have chardev (value : String) : (arg "-chardev" value).filter checked = [] :=
    filter_other (by decide)
  have tpmdev (value : String) : (arg "-tpmdev" value).filter checked = [] :=
    filter_other (by decide)
  have drive (value : String) : (arg "-drive" value).filter checked = arg "-drive" value :=
    filter_arg (by decide)
  have device (value : String) : (arg "-device" value).filter checked = arg "-device" value :=
    filter_arg (by decide)
  simp only [VMConfig.buildFirmwareArgs, List.filter_append, filter_emit, bios, chardev, tpmdev,
    drive, device, emit_nil, List.nil_append, firmwareSpecs, List.map_append, map_emit]
  -- The texts of the three options agree with what they stand for.
  simp [arg, Spec.arg, Spec.text, impliedKey, tailText, String.append_assoc]

theorem other_checked :
    (c.buildCPUMemoryArgs m).filter checked = [] ∧ (c.buildMachineArgs m).filter checked = [] ∧
    c.buildBootArgs.filter checked = [] ∧ c.buildGraphicsArgs.filter checked = [] ∧
    c.buildQMPArgs.filter checked = [] ∧ c.buildMonitorArgs.filter checked = [] := by
  have other (flag value : String)
      (unlisted : flag ∉ ["-drive", "-netdev", "-device", "-name"]) :
      (arg flag value).filter checked = [] := filter_other unlisted
  refine ⟨?_, ?_, ?_, ?_, ?_, ?_⟩
  · simp [VMConfig.buildCPUMemoryArgs, other]
  · simp [VMConfig.buildMachineArgs, other]
  · simp [VMConfig.buildBootArgs, filter_emit, emit_nil, other]
  · have bare : [Arg.mk "-nographic" none].filter checked = [] := filter_other (by decide)
    simp [VMConfig.buildGraphicsArgs, filter_emit, emit_nil, apply_ite (List.filter checked), other,
      bare]
  · simp [VMConfig.buildQMPArgs, filter_emit, emit_nil, apply_ite (List.filter checked), other]
  · simp [VMConfig.buildMonitorArgs, filter_emit, emit_nil, apply_ite (List.filter checked), other]

theorem disk_checked {d : DiskConfig} (type : d.type = "file" ∨ d.type = "rbd") :
    d.buildArgs.filter checked = [(diskSpec d).arg] := by
  have text : (diskSpec d).text = d.driveSpec := by
    simp only [Spec.text, diskSpec, tail_text_append, tail_text_emit, DiskConfig.driveSpec]
    rcases type with type | type <;> simp [impliedKey, piece, type, tailText, String.append_assoc]
  rw [DiskConfig.buildArgs, filter_arg (by decide), Spec.arg, text]
  rfl

theorem nic_checked {n : NICConfig} (type : n.type = "tap" ∨ n.type = "user")
    (model : n.model = "virtio-net-pci" ∧ n.queues = 0) (index : Nat) :
    (n.buildArgs index).filter checked = [(netdevSpec n index).arg, (deviceSpec n index).arg] := by
  have device : (deviceSpec n index).text = n.deviceSpec index := by
    simp only [Spec.text, deviceSpec, NICConfig.deviceSpec, tail_text_cons, tail_text_emit, model]
    simp [impliedKey, piece, tailText, String.append_assoc]
  have netdev : (netdevSpec n index).text = n.type ++ keyed "id" (netdevID index) ++
      piece (n.type = "tap") (piece (n.tapDev ≠ "") (keyed "ifname" n.tapDev) ++
        keyed "script" "no" ++ keyed "downscript" "no") := by
    simp only [Spec.text, netdevSpec, tail_text_cons, tail_text_emit, tail_text_append]
    simp [impliedKey, tailText, String.append_assoc]
  have listed (value : String) : (arg "-netdev" value).filter checked = arg "-netdev" value :=
    filter_arg (by decide)
  rw [NICConfig.buildArgs, List.filter_append, List.filter_append, List.filter_append, filter_emit,
    filter_emit, filter_emit, listed, listed, listed, filter_arg (by decide), Spec.arg, Spec.arg,
    device, netdev]
  rcases type with tap | user
  · simp [emit, arg, tap, netdevSpec, deviceSpec, piece, String.append_assoc]
  · simp [emit, arg, user, netdevSpec, deviceSpec, piece]

theorem options_checked (plain : Plain c) :
    (c.options m).filter checked = (specs m c).map Spec.arg := by
  obtain ⟨cpu, machine, boot, graphics, qmp, monitor⟩ := other_checked (m := m) (c := c)
  have disks : (c.disks.flatMap DiskConfig.buildArgs).filter checked =
      c.disks.map fun disk => (diskSpec disk).arg := by
    rw [List.filter_flatMap, ← List.flatMap_pure_eq_map]
    exact List.flatMap_congr fun disk member => disk_checked (plain.disks disk member)
  have nics : (c.nics.zipIdx.flatMap fun nic => nic.1.buildArgs nic.2).filter checked =
      c.nics.zipIdx.flatMap fun nic => [(netdevSpec nic.1 nic.2).arg, (deviceSpec nic.1 nic.2).arg] := by
    rw [List.filter_flatMap]
    refine List.flatMap_congr fun nic member => ?_
    have inside := List.fst_mem_of_mem_zipIdx member
    exact nic_checked (plain.types _ inside) (plain.models _ inside) nic.2
  have pid : (arg "-pidfile" c.pidFile).filter checked = [] := filter_other (by decide)
  have daemon : [Arg.mk "-daemonize" none].filter checked = [] := filter_other (by decide)
  simp only [VMConfig.options, List.filter_append, identity_checked, cpu, machine, firmware_checked,
    boot, disks, nics, graphics, qmp, monitor, filter_emit, pid, daemon, emit_nil, plain.serial,
    plain.gpus, plain.extra, specs, List.map_append, List.flatMap_nil, List.map_nil,
    List.append_nil, List.map_map, List.map_flatMap]
  rfl

def chars (item : String × String) : Pair := (item.1.toList, item.2.toList)

def Spec.items (spec : Spec) : List (String × String) := spec.head :: spec.tail

def readArg (option : Arg) : List Pair :=
  read ((impliedKey option.flag).map String.toList) (option.value.getD "").toList

def Faithful (m : Machine) (c : VMConfig) : Prop :=
  ((c.options m).filter checked).map (fun option => (option.flag, readArg option)) =
    (specs m c).map fun spec => (spec.flag, spec.items.map chars)

/-- The forms of options: only the name puts text of a request in place of a key. -/
inductive Shaped (c : VMConfig) : Spec → Prop where
  | drive {head tail} (good : ∀ item ∈ head :: tail, GoodKey item.1.toList) :
      Shaped c { flag := "-drive", head := head, tail := tail }
  | device {flag key value tail} (implied : flag ≠ "-name" ∧ impliedKey flag = some key)
      (some : value ≠ "") (bare : Bare value.toList) (good : ∀ item ∈ tail, GoodKey item.1.toList) :
      Shaped c { flag := flag, head := (key, value), tail := tail }
  | name (some : c.name ≠ "") : Shaped c { flag := "-name", head := ("guest", c.name) }

theorem tail_text_chars (items : List (String × String)) :
    (tailText items).toList = printTail (items.map chars) := by
  induction items with
  | nil => rfl
  | cons item rest ih => simp [tail_text_cons, ih, keyed, printTail, chars]

theorem good_chars {items : List (String × String)}
    (good : ∀ item ∈ items, GoodKey item.1.toList) : ∀ pair ∈ items.map chars, GoodKey pair.1 :=
  List.forall_mem_map.mpr good

theorem free_chars {items : List (String × String)} :
    (∀ pair ∈ items.map chars, ',' ∉ pair.2) ↔ ∀ item ∈ items, ',' ∉ item.2.toList :=
  List.forall_mem_map

theorem spec_read_iff {spec : Spec} (shaped : Shaped c spec) :
    readArg spec.arg = spec.items.map chars ↔
      (∀ item ∈ spec.items, ',' ∉ item.2.toList) ∧ (spec.flag = "-name" → '=' ∉ c.name.toList) := by
  cases shaped with
  | @drive head tail good =>
    have text : (Spec.text ⟨"-drive", head, tail⟩).toList =
        (printTail ((head :: tail).map chars)).drop 1 := by
      simp [Spec.text, impliedKey, tail_text_chars, printTail, chars]
    have back := read_pairs_iff (good_chars good)
    rw [← text, free_chars] at back
    exact back.trans (and_iff_left fun name => absurd name (by simp)).symm
  | @device flag key value tail implied some bare good =>
    have text : (Spec.text ⟨flag, (key, value), tail⟩).toList =
        value.toList ++ printTail (tail.map chars) := by
      simp [Spec.text, implied.2, tail_text_chars]
    have free : ',' ∉ value.toList := fun comma => (bare ',' comma).2 rfl
    have back : read (.some key.toList) (value.toList ++ printTail (tail.map chars)) = _ ↔ _ :=
      read_implied_iff (by simpa using some) bare (good_chars good)
    rw [← text, free_chars] at back
    rw [Spec.items, List.forall_mem_cons, and_iff_right free,
      and_iff_left fun name => absurd name implied.1, ← back, readArg, Spec.arg, implied.2]
    rfl
  | name some =>
    have text : (Spec.text ⟨"-name", ("guest", c.name), []⟩).toList = c.name.toList := by
      simp [Spec.text, impliedKey, tailText]
    have back : read (.some "guest".toList) c.name.toList = _ ↔ Bare c.name.toList :=
      read_alone_iff (by simpa using some)
    rw [readArg, Spec.arg, Option.getD_some, text]
    refine Iff.trans back ?_
    simp only [Bare, Spec.items, List.forall_mem_singleton, forall_const]
    constructor
    · exact fun bare => ⟨fun comma => (bare _ comma).2 rfl, fun sign => (bare _ sign).1 rfl⟩
    · rintro ⟨free, bare⟩ char member
      exact ⟨fun same => bare (same ▸ member), fun same => free (same ▸ member)⟩

theorem forall_mem_emit {Item : Type} {holds : Item → Prop} {wanted : Prop} [Decidable wanted]
    {items : List Item} :
    (∀ item ∈ emit wanted items, holds item) ↔ (wanted → ∀ item ∈ items, holds item) := by
  unfold emit
  split_ifs with given
  · exact ⟨fun every _ => every, fun every => every given⟩
  · exact iff_of_true (fun _ member => absurd member List.not_mem_nil) fun other => absurd other given

def optionKeys : List String :=
  ["file", "if", "format", "cache", "aio", "readonly", "id", "ifname", "script", "downscript",
    "netdev", "mac", "tpmdev"]

theorem keys_good {items : List (String × String)} (among : ∀ item ∈ items, item.1 ∈ optionKeys) :
    ∀ item ∈ items, GoodKey item.1.toList :=
  have good : ∀ key ∈ optionKeys, GoodKey key.toList := by decide
  fun item member => good _ (among item member)

theorem specs_shaped (plain : Plain c) : ∀ spec ∈ specs m c, Shaped c spec := by
  simp only [specs, firmwareSpecs, List.forall_mem_append, forall_mem_emit,
    List.forall_mem_singleton, List.forall_mem_map]
  refine ⟨⟨⟨.name, ⟨fun _ => ?_, fun _ => ?_⟩, fun _ => ?_⟩, fun disk _ => ?_⟩, ?_⟩
  · exact .drive (keys_good (by simp [optionKeys]))
  · exact .drive (keys_good (by simp [optionKeys]))
  · exact .device (by decide) (by split <;> decide) (by split <;> decide)
      (keys_good (by simp [optionKeys]))
  · exact .drive (keys_good (by
      simp only [List.forall_mem_cons, List.forall_mem_append, forall_mem_emit]
      simp [optionKeys]))
  · intro spec member
    obtain ⟨⟨nic, index⟩, inside, listed⟩ := List.mem_flatMap.mp member
    have owned := List.fst_mem_of_mem_zipIdx inside
    simp only [List.mem_cons, List.not_mem_nil, or_false] at listed
    rcases listed with rfl | rfl
    · have type := plain.types nic owned
      refine .device (by decide) ?_ ?_ (keys_good ?_)
      · rcases type with type | type <;> simp [type]
      · rcases type with type | type <;> rw [type] <;> decide
      · simp only [List.forall_mem_cons, List.forall_mem_append, forall_mem_emit]
        simp [optionKeys]
    · have model := (plain.models nic owned).1
      refine .device (by decide) (by simp [model]) (by rw [model]; decide) (keys_good ?_)
      simp only [List.forall_mem_cons, forall_mem_emit]
      simp [optionKeys]

theorem faithful_iff (plain : Plain c) : Faithful m c ↔
    (∀ spec ∈ specs m c, ∀ item ∈ spec.items, ',' ∉ item.2.toList) ∧ '=' ∉ c.name.toList := by
  have shaped := specs_shaped (m := m) plain
  rw [Faithful, options_checked plain, List.map_map, List.map_inj_left]
  have each : ∀ spec ∈ specs m c, _ ↔ _ := fun spec member => spec_read_iff (shaped spec member)
  constructor
  · intro same
    have both := fun spec member => (each spec member).mp (congrArg Prod.snd (same spec member))
    refine ⟨fun spec member => (both spec member).1, fun sign => ?_⟩
    by_cases none : c.name = ""
    · simp [none] at sign
    · refine (both { flag := "-name", head := ("guest", c.name) } ?_).2 rfl sign
      simp [specs, emit, none]
  · rintro ⟨free, bare⟩ spec member
    exact Prod.ext rfl ((each spec member).mpr ⟨free spec member, fun _ => bare⟩)

def Free (text : String) : Prop := ',' ∉ text.toList

instance (text : String) : Decidable (Free text) := inferInstanceAs (Decidable (¬ _))

theorem free_given_iff {text : String} : (text ≠ "" → Free text) ↔ Free text := by
  constructor
  · intro given
    by_cases empty : text = ""
    · rw [empty]
      decide
    · exact given empty
  · exact fun free _ => free

theorem free_append_iff {front back : String} : Free (front ++ back) ↔ Free front ∧ Free back := by
  simp only [Free, String.toList_append, List.mem_append, not_or]

theorem decimal_text_free {value : Nat} : Free (toString value) :=
  decimal_free (by decide)

/-- The texts of the request and of the host that a builder writes into an option
have no comma. -/
structure CommaFree (m : Machine) (host : HostConfig) (nano : Nat) (req : CreateVMRequest) :
    Prop where
  name : Free req.name
  firmware : req.uefi = true → m.arm64 = false → Free host.ovmfCodePath
  nvram : req.uefi = true → m.arm64 = false → host.nvramDir ≠ "" →
    Free (join host.nvramDir (vmID nano req.name ++ "_VARS.fd"))
  image : trimSpace req.image ≠ "" → Free (diskPath host.driver (vmID nano req.name))
  rbd : trimSpace req.image = "" → trimSpace req.rootRBDImage ≠ "" → Free req.rootRBDImage
  iso : trimSpace req.iso ≠ "" → Free req.iso
  cloudInit : Free (isoPath host.driver (vmID nano req.name))
  macs : ∀ nic ∈ req.nics, Free nic.mac

def Spec.Free (spec : Spec) : Prop := ∀ item ∈ spec.items, QemuOptions.Free item.2

theorem disk_free_iff {d : DiskConfig} (format : Free d.format) (cache : Free d.cache)
    (aio : Free d.aio) : (diskSpec d).Free ↔ Free d.path := by
  have bus : Free (if d.bus = "scsi" then "scsi" else "virtio") := by split <;> decide
  have on : Free "on" := by decide
  simp only [Spec.Free, Spec.items, diskSpec, List.forall_mem_cons, List.forall_mem_append,
    forall_mem_emit, List.not_mem_nil, false_implies, implies_true, and_true]
  exact and_iff_left
    ⟨⟨⟨⟨fun _ => format, bus⟩, fun _ => cache⟩, fun _ => aio⟩, fun _ => on⟩

theorem root_free_iff {d : Driver} {id : String} {req : CreateVMRequest} :
    (∀ disk ∈ rootDisk d id req, (diskSpec disk).Free) ↔
      (trimSpace req.image ≠ "" → Free (diskPath d id)) ∧
      (trimSpace req.image = "" → trimSpace req.rootRBDImage ≠ "" → Free req.rootRBDImage) := by
  have scheme : Free ("rbd:" ++ req.rootRBDImage) ↔ Free req.rootRBDImage :=
    free_append_iff.trans (and_iff_right (by decide))
  unfold rootDisk
  split_ifs with image rbd
  · have file : Free "qcow2" ∧ Free "writeback" ∧ Free "threads" := by decide
    rw [List.forall_mem_singleton, disk_free_iff file.1 file.2.1 file.2.2]
    simp [image]
  · have pool : Free "rbd" ∧ Free "none" ∧ Free "" := by decide
    rw [List.forall_mem_singleton, disk_free_iff pool.1 pool.2.1 pool.2.2, scheme]
    simp [not_not.mp image, rbd]
  · simp [not_not.mp image, not_not.mp rbd]

theorem cdrom_free_iff {path : String} : (diskSpec (cdrom path)).Free ↔ Free path := by
  have raw : Free "raw" ∧ Free "" := by decide
  exact disk_free_iff raw.1 raw.2 raw.2

/-- The specs of the network cards write the addresses, and texts without a comma. -/
theorem nics_free_iff {nics : List NICConfig}
    (plain : ∀ nic ∈ nics, Free nic.type ∧ Free nic.model ∧ Free nic.tapDev) :
    (∀ spec ∈ nics.zipIdx.flatMap fun nic => [netdevSpec nic.1 nic.2, deviceSpec nic.1 nic.2],
      spec.Free) ↔ ∀ nic ∈ nics, Free nic.mac := by
  have fixed : Free "no" := by decide
  have label (index : Nat) : Free (netdevID index) :=
    free_append_iff.mpr ⟨by decide, decimal_text_free⟩
  have card (nic : NICConfig) (member : nic ∈ nics) (index : Nat) :
      (netdevSpec nic index).Free ∧ (deviceSpec nic index).Free ↔ Free nic.mac := by
    obtain ⟨type, model, tap⟩ := plain nic member
    have netdev : (netdevSpec nic index).Free := by
      simp only [Spec.Free, Spec.items, netdevSpec, List.forall_mem_cons, List.forall_mem_append,
        forall_mem_emit, List.not_mem_nil, false_implies, implies_true, and_true]
      exact ⟨type, label index, fun _ => ⟨fun _ => tap, fixed, fixed⟩⟩
    have device : (deviceSpec nic index).Free ↔ Free nic.mac := by
      simp only [Spec.Free, Spec.items, deviceSpec, List.forall_mem_cons, forall_mem_emit,
        List.not_mem_nil, false_implies, implies_true, and_true, free_given_iff]
      exact ⟨fun free => free.2.2, fun mac => ⟨model, label index, mac⟩⟩
    rw [and_iff_right netdev, device]
  constructor
  · intro free nic member
    obtain ⟨index, bound, rfl⟩ := List.mem_iff_getElem.mp member
    have inside : (nics[index], index) ∈ nics.zipIdx := List.mk_mem_zipIdx_iff_getElem?.mpr
      (List.getElem?_eq_getElem bound)
    refine (card _ member index).mp ⟨free _ ?_, free _ ?_⟩ <;>
      exact List.mem_flatMap.mpr ⟨_, inside, by simp⟩
  · intro free spec member
    obtain ⟨⟨nic, index⟩, inside, listed⟩ := List.mem_flatMap.mp member
    have owned := List.fst_mem_of_mem_zipIdx inside
    have both := (card nic owned index).mpr (free nic owned)
    simp only [List.mem_cons, List.not_mem_nil, or_false] at listed
    rcases listed with rfl | rfl
    · exact both.1
    · exact both.2

theorem vm_id_free (nano : Nat) (name : String) : Free (vmID nano name) := by
  unfold vmID
  split_ifs
  · exact free_append_iff.mpr ⟨by decide, decimal_text_free⟩
  · exact fun comma => absurd (sanitized_kept ',' comma) (by decide)

theorem tap_name_free {id : String} {index : Nat} (free : Free id) : Free (tapName id index) := by
  have short : Free (safePrefix id 8) := by
    unfold safePrefix
    split_ifs
    · exact free
    · intro comma
      rw [String.toList_ofList] at comma
      exact free (List.mem_of_mem_take comma)
  have dash : Free "-" := by decide
  exact free_append_iff.mpr ⟨free_append_iff.mpr
    ⟨free_append_iff.mpr ⟨by decide, short⟩, dash⟩, decimal_text_free⟩

theorem request_nics_free_iff {id : String} (free : Free id) {nics : List Nic} :
    (∀ spec ∈ (requestNICs id nics).zipIdx.flatMap fun nic =>
      [netdevSpec nic.1 nic.2, deviceSpec nic.1 nic.2], spec.Free) ↔
      ∀ nic ∈ nics, Free nic.mac := by
  rw [nics_free_iff]
  · unfold requestNICs
    split_ifs with none
    · simp only [none, List.forall_mem_singleton, List.not_mem_nil, false_implies, implies_true,
        iff_true]
      decide
    · constructor
      · intro macs nic member
        obtain ⟨index, bound, rfl⟩ := List.mem_iff_getElem.mp member
        exact macs _ (List.mem_mapIdx.mpr ⟨index, bound, rfl⟩)
      · intro macs nic member
        obtain ⟨index, bound, rfl⟩ := List.mem_mapIdx.mp member
        exact macs _ (List.getElem_mem bound)
  · intro nic member
    unfold requestNICs at member
    split_ifs at member
    · rw [List.mem_singleton.mp member]
      decide
    · obtain ⟨index, bound, rfl⟩ := List.mem_mapIdx.mp member
      have card : Free "tap" ∧ Free "virtio-net-pci" := by decide
      exact ⟨card.1, card.2, tap_name_free free⟩

section Requests

variable (m : Machine) (slice : String → String) (host : HostConfig) (nano : Nat) (uuid : String)
  (req : CreateVMRequest)

def created : VMConfig :=
  filled host.driver (slice (vmID nano req.name)) (requestConfig host nano uuid req)

theorem created_nics :
    (created slice host nano uuid req).nics = requestNICs (vmID nano req.name) req.nics :=
  name_taps_named request_nics_named

theorem created_plain : Plain (created slice host nano uuid req) := by
  have nics : ∀ nic ∈ requestNICs (vmID nano req.name) req.nics,
      (nic.type = "tap" ∨ nic.type = "user") ∧ nic.model = "virtio-net-pci" ∧ nic.queues = 0 := by
    intro nic member
    unfold requestNICs at member
    split at member
    · rw [List.mem_singleton.mp member]
      exact ⟨.inr rfl, rfl, rfl⟩
    · obtain ⟨index, inside, rfl⟩ := List.mem_mapIdx.mp member
      exact ⟨.inl rfl, rfl, rfl⟩
  rw [← created_nics slice host nano uuid req] at nics
  constructor
  · simp only [created, filled, requestConfig, rootDisk, cdrom]
    split_ifs <;> simp
  · exact fun nic member => (nics nic member).1
  · exact fun nic member => (nics nic member).2
  all_goals rfl

theorem firmware_free_iff :
    (∀ spec ∈ firmwareSpecs m (created slice host nano uuid req), spec.Free) ↔
      (req.uefi = true → m.arm64 = false → Free host.ovmfCodePath) ∧
      (req.uefi = true → m.arm64 = false → host.nvramDir ≠ "" →
        Free (join host.nvramDir (vmID nano req.name ++ "_VARS.fd"))) := by
  set c := created slice host nano uuid req
  have fixed : Free "pflash" ∧ Free "raw" ∧ Free "on" ∧ Free "tpm0" := by decide
  have driver : Free (if m.arm64 then "tpm-tis-device" else "tpm-tis") := by split <;> decide
  simp only [firmwareSpecs, List.forall_mem_append, forall_mem_emit, List.forall_mem_singleton,
    Spec.Free, Spec.items, List.forall_mem_cons, fixed, driver, implies_true, true_and, and_true]
  cases arch : m.arm64 with
  | true => simp
  | false =>
    cases uefi : req.uefi with
    | false =>
      have none : c.firmware m = "" := by
        simp [c, created, filled, requestConfig, VMConfig.firmware, uefi, arch]
      simp [none]
    | true =>
      have path : c.firmware m = if host.ovmfCodePath = "" then "/usr/share/OVMF/OVMF_CODE.fd"
          else host.ovmfCodePath := by
        by_cases unset : host.ovmfCodePath = "" <;>
          simp [c, created, filled, requestConfig, VMConfig.firmware, uefi, unset]
      have code : c.firmware m ≠ "" ∧ (Free (c.firmware m) ↔ Free host.ovmfCodePath) := by
        rw [path]
        split_ifs with unset
        · rw [unset]
          decide
        · exact ⟨unset, Iff.rfl⟩
      have some : (c.firmware m = "") = False := eq_false code.1
      have nvram : c.nvramPath = if req.uefi = true ∧ host.nvramDir ≠ "" then
          join host.nvramDir (vmID nano req.name ++ "_VARS.fd") else "" := rfl
      simp only [code.2, nvram, uefi]
      by_cases unset : host.nvramDir = ""
      · simp [unset, some]
      · simp [unset, some, free_given_iff]

theorem specs_free_iff :
    (∀ spec ∈ specs m (created slice host nano uuid req), spec.Free) ↔
      CommaFree m host nano req := by
  have name : (∀ spec ∈ emit (req.name ≠ "") [{ flag := "-name", head := ("guest", req.name) }],
      Spec.Free spec) ↔ Free req.name := by
    rw [forall_mem_emit, List.forall_mem_singleton]
    simp only [Spec.Free, Spec.items, List.forall_mem_cons, List.not_mem_nil, false_implies,
      implies_true, and_true, free_given_iff]
  have iso : (∀ disk ∈ (if trimSpace req.iso ≠ "" then [cdrom req.iso] else []),
      (diskSpec disk).Free) ↔ (trimSpace req.iso ≠ "" → Free req.iso) := by
    split_ifs with given
    · rw [List.forall_mem_singleton, cdrom_free_iff]
      exact ⟨fun free _ => free, fun free => free given⟩
    · simp [given]
  have disks : (created slice host nano uuid req).disks =
      rootDisk host.driver (vmID nano req.name) req ++
        (if trimSpace req.iso ≠ "" then [cdrom req.iso] else []) ++
        [cdrom (isoPath host.driver (vmID nano req.name))] := rfl
  have named : (created slice host nano uuid req).name = req.name := rfl
  rw [specs, created_nics, disks, named]
  simp only [List.forall_mem_append, List.forall_mem_map, List.forall_mem_singleton, name, iso,
    firmware_free_iff, root_free_iff, cdrom_free_iff, request_nics_free_iff (vm_id_free _ _)]
  constructor
  · rintro ⟨⟨⟨name, firmware, nvram⟩, ⟨⟨image, rbd⟩, iso⟩, cloudInit⟩, macs⟩
    exact ⟨name, firmware, nvram, image, rbd, iso, cloudInit, macs⟩
  · rintro ⟨name, firmware, nvram, image, rbd, iso, cloudInit, macs⟩
    exact ⟨⟨⟨name, firmware, nvram⟩, ⟨⟨image, rbd⟩, iso⟩, cloudInit⟩, macs⟩

theorem no_option_injection_iff :
    ∃ c, createVMNew slice host nano uuid req = some c ∧
      (Faithful m c ↔ CommaFree m host nano req ∧ '=' ∉ req.name.toList) := by
  refine ⟨created slice host nano uuid req, request_config_set_up, ?_⟩
  rw [← specs_free_iff m slice host nano uuid req]
  exact faithful_iff (created_plain slice host nano uuid req)

end Requests

theorem iso_comma_injects :
    ∃ c, createVMNew id sampleHost 0 "u" { name := "vm", iso := "/a.iso,snapshot=on" } = some c ∧
      ¬ Faithful { arm64 := false, stat := fun _ => false } c ∧
      readArg ⟨"-drive", some (cdrom "/a.iso,snapshot=on").driveSpec⟩ =
        [("file", "/a.iso"), ("snapshot", "on"), ("format", "raw"), ("if", "virtio"),
          ("readonly", "on")].map chars :=
  ⟨_, request_config_set_up, by unfold Faithful; decide +kernel, by decide +kernel⟩

end VcStack.QemuOptions
