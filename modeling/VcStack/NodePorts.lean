import VcStack.Histories

/-!
The ports of a compute node, from internal/compute/ovn_network.go. The manager keeps
them by a name made of the first eight bytes of the instance id; the integration
bridge has them by the names of their interfaces. Every command and every call of the
management API succeeds. Texts are bytes.
-/

namespace VcStack.NodePorts

open Histories

abbrev Bytes := List UInt8

/-- An instance id that `[:8]` does not panic on. -/
structure InstanceID where
  bytes : Bytes
  long : 8 ≤ bytes.length
deriving DecidableEq

structure OVNPort where
  name : Bytes
  uuid : Bytes
  macAddress : Bytes
  ipAddress : Bytes
  networkID : Bytes
  instanceID : InstanceID
  createdAt : Int
deriving DecidableEq

structure PortInfo where
  uuid : Bytes
  macAddress : Bytes
  ipAddress : Bytes
deriving DecidableEq, Repr

structure AttachPortRequest where
  instanceID : InstanceID
  networkID : Bytes
  interfaceName : Bytes
deriving DecidableEq

structure Manager where
  ports : Bytes → Option OVNPort := fun _ => none
  bridge : List Bytes := []

def portName (instanceID : InstanceID) : Bytes := [118, 109, 45] ++ instanceID.bytes.take 8

/-- `ovs-vsctl --may-exist add-port` -/
def createOVSPort (bridge : List Bytes) (interfaceName : Bytes) : List Bytes :=
  if interfaceName ∈ bridge then bridge else bridge ++ [interfaceName]

/-- `ovs-vsctl --if-exists del-port` -/
def deleteOVSPort (bridge : List Bytes) (interfaceName : Bytes) : List Bytes :=
  bridge.filter (· != interfaceName)

def attachInstancePort (m : Manager) (req : AttachPortRequest) (info : PortInfo) (now : Int) :
    Manager × OVNPort :=
  match m.ports (portName req.instanceID) with
  | some existing => (m, existing)
  | none =>
    let port := {
      name := portName req.instanceID, uuid := info.uuid, macAddress := info.macAddress,
      ipAddress := info.ipAddress, networkID := req.networkID, instanceID := req.instanceID,
      createdAt := now }
    ({ ports := Function.update m.ports (portName req.instanceID) (some port)
       bridge := createOVSPort m.bridge req.interfaceName }, port)

/-- The interface is deleted under the name of the port. -/
def detachInstancePort (m : Manager) (instanceID : InstanceID) : Manager :=
  match m.ports (portName instanceID) with
  | none => m
  | some _ =>
    { ports := Function.update m.ports (portName instanceID) none
      bridge := deleteOVSPort m.bridge (portName instanceID) }

def getPortByInstance (m : Manager) (instanceID : InstanceID) : Option OVNPort :=
  m.ports (portName instanceID)

/-- The encodings of the characters that `unicode.IsSpace` takes for blanks. -/
def spaces : List Bytes :=
  [[0x09], [0x0a], [0x0b], [0x0c], [0x0d], [0x20], [0xc2, 0x85], [0xc2, 0xa0], [0xe1, 0x9a, 0x80],
    [0xe2, 0x80, 0x80], [0xe2, 0x80, 0x81], [0xe2, 0x80, 0x82], [0xe2, 0x80, 0x83],
    [0xe2, 0x80, 0x84], [0xe2, 0x80, 0x85], [0xe2, 0x80, 0x86], [0xe2, 0x80, 0x87],
    [0xe2, 0x80, 0x88], [0xe2, 0x80, 0x89], [0xe2, 0x80, 0x8a], [0xe2, 0x80, 0xa8],
    [0xe2, 0x80, 0xa9], [0xe2, 0x80, 0xaf], [0xe2, 0x81, 0x9f], [0xe3, 0x80, 0x80]]

def dropLeading (encodings : List Bytes) : Nat → Bytes → Bytes
  | 0, text => text
  | rounds + 1, text =>
    match encodings.find? (·.isPrefixOf text) with
    | none => text
    | some encoding => dropLeading encodings rounds (text.drop encoding.length)

/-- `strings.TrimSpace` -/
def trimSpace (text : Bytes) : Bytes :=
  let left := dropLeading spaces text.length text
  (dropLeading (spaces.map List.reverse) left.length left.reverse).reverse

def listPorts (bridge : List Bytes) : Bytes := bridge.flatMap (· ++ [0x0a])

def ovsPorts (bridge : List Bytes) : List Bytes :=
  (((listPorts bridge).splitOn 0x0a).map trimSpace).filter (· != [])

def syncPorts (m : Manager) : Manager :=
  {m with ports := fun name => if name ∈ ovsPorts m.bridge then m.ports name else none}

inductive Call where
  | attach (instanceID : InstanceID) (networkID : Bytes) (info : PortInfo) (now : Int)
  | detach (instanceID : InstanceID)
  | sync
deriving DecidableEq

def standing (instanceID : InstanceID) : List Call → Option Bool :=
  List.foldl (fun last call => match call with
    | .attach other _ _ _ => if other = instanceID then some true else last
    | .detach other => if other = instanceID then last.map fun _ => false else last
    | .sync => last) none

def Attached (calls : List Call) (instanceID : InstanceID) : Prop :=
  standing instanceID calls = some true

def Detached (calls : List Call) (instanceID : InstanceID) : Prop :=
  standing instanceID calls = some false

section Calls

variable (interface : InstanceID → Bytes) (base : List Bytes)

def step (m : Manager) : Call → Manager
  | .attach instanceID networkID info now =>
    (attachInstancePort m ⟨instanceID, networkID, interface instanceID⟩ info now).1
  | .detach instanceID => detachInstancePort m instanceID
  | .sync => syncPorts m

def after (calls : List Call) : Manager := calls.foldl (step interface) {bridge := base}

structure Owned (calls : List Call) (instanceID : InstanceID) : Prop where
  attached : Attached calls instanceID →
    (∃ port, getPortByInstance (after interface base calls) instanceID = some port ∧
      port.instanceID = instanceID) ∧
    interface instanceID ∈ (after interface base calls).bridge
  detached : Detached calls instanceID →
    interface instanceID ∉ (after interface base calls).bridge

def Belong (front : List Call) (call : Call) : Prop :=
  ∀ instanceID, Owned interface base (front ++ [call]) instanceID

def Alone (calls : List Call) (instanceID : InstanceID) : Prop :=
  ∀ other, Attached calls other → portName other = portName instanceID → other = instanceID

/-- The first eight bytes tell the instances attached apart; an instance is detached
only when its interface has the name of the port; and ports are synchronised only
when the bridge lists the names of all ports. -/
def Fitting (front : List Call) : Call → Prop
  | .attach instanceID _ _ _ => Alone front instanceID
  | .detach instanceID =>
    Alone front instanceID ∧ (Attached front instanceID → interface instanceID = portName instanceID)
  | .sync => ∀ instanceID, Attached front instanceID →
      portName instanceID ∈ ovsPorts (after interface base front).bridge

end Calls

variable {networkID : Bytes} {info : PortInfo} {now : Int}

section Standing

variable (calls : List Call) (caller instanceID : InstanceID)

theorem standing_attach :
    standing instanceID (calls ++ [.attach caller networkID info now]) =
      if caller = instanceID then some true else standing instanceID calls := by
  rw [standing, List.foldl_concat]

theorem standing_detach :
    standing instanceID (calls ++ [.detach caller]) =
      if caller = instanceID then (standing instanceID calls).map fun _ => false
      else standing instanceID calls := by
  rw [standing, List.foldl_concat]

theorem standing_sync : standing instanceID (calls ++ [.sync]) = standing instanceID calls := by
  rw [standing, List.foldl_concat]

theorem attached_attach_iff (networkID : Bytes) (info : PortInfo) (now : Int) :
    Attached (calls ++ [.attach caller networkID info now]) instanceID ↔
      caller = instanceID ∨ Attached calls instanceID := by
  rw [Attached, standing_attach]
  split <;> simp [*, Attached]

theorem detached_attach_iff :
    Detached (calls ++ [.attach caller networkID info now]) instanceID ↔
      caller ≠ instanceID ∧ Detached calls instanceID := by
  rw [Detached, standing_attach]
  split <;> simp [*, Detached]

theorem attached_detach_iff :
    Attached (calls ++ [.detach caller]) instanceID ↔
      caller ≠ instanceID ∧ Attached calls instanceID := by
  rw [Attached, standing_detach]
  split <;> simp [*, Attached]

theorem detached_detach_iff :
    Detached (calls ++ [.detach caller]) instanceID ↔
      Detached calls instanceID ∨ caller = instanceID ∧ Attached calls instanceID := by
  rw [Detached, standing_detach]
  unfold Attached Detached
  split <;> rcases standing instanceID calls with _ | _ | _ <;> simp [*]

theorem detached_not_attached (detached : Detached calls instanceID) :
    ¬ Attached calls instanceID := by
  unfold Attached
  rw [detached]
  decide

end Standing

section Tracking

variable (interface : InstanceID → Bytes) (base : List Bytes)

theorem after_snoc (calls : List Call) (call : Call) :
    after interface base (calls ++ [call]) = step interface (after interface base calls) call := by
  rw [after, List.foldl_concat]
  rfl

/-- The manager has the ports of the instances attached. The bridge has their
interfaces, and of those it had before what no detached instance had. -/
structure Tracked (calls : List Call) : Prop where
  owns : ∀ instanceID, Attached calls instanceID →
    ∃ port, (after interface base calls).ports (portName instanceID) = some port ∧
      port.instanceID = instanceID
  owned : ∀ name port, (after interface base calls).ports name = some port →
    Attached calls port.instanceID ∧ portName port.instanceID = name
  bridge : ∀ name, name ∈ (after interface base calls).bridge ↔
    (name ∈ base ∧ ∀ instanceID, interface instanceID = name → ¬ Detached calls instanceID) ∨
      ∃ instanceID, Attached calls instanceID ∧ interface instanceID = name

variable {interface base}

theorem tracked_initial : Tracked interface base [] := by
  constructor
  · intro instanceID attached
    cases attached
  · intro name port found
    cases found
  · intro name
    change name ∈ base ↔ _
    simp [Attached, Detached, standing]

theorem tracked_of_unchanged {calls next : List Call} (tracked : Tracked interface base calls)
    (manager : after interface base next = after interface base calls)
    (unchanged : ∀ instanceID, standing instanceID next = standing instanceID calls) :
    Tracked interface base next := by
  have attached (instanceID : InstanceID) : Attached next instanceID ↔ Attached calls instanceID := by
    rw [Attached, unchanged, Attached]
  have detached (instanceID : InstanceID) : Detached next instanceID ↔ Detached calls instanceID := by
    rw [Detached, unchanged, Detached]
  constructor
  · intro instanceID
    rw [manager, attached]
    exact tracked.owns instanceID
  · intro name port
    rw [manager, attached]
    exact tracked.owned name port
  · intro name
    rw [manager, tracked.bridge]
    simp only [attached, detached]

theorem attached_on_bridge {calls : List Call} (tracked : Tracked interface base calls)
    {instanceID : InstanceID} (attached : Attached calls instanceID) :
    interface instanceID ∈ (after interface base calls).bridge :=
  (tracked.bridge _).mpr (Or.inr ⟨instanceID, attached, rfl⟩)

theorem detached_off_bridge (distinct : Function.Injective interface) {calls : List Call}
    (tracked : Tracked interface base calls) {instanceID : InstanceID}
    (detached : Detached calls instanceID) :
    interface instanceID ∉ (after interface base calls).bridge := by
  rw [tracked.bridge]
  rintro (⟨_, kept⟩ | ⟨other, attached, same⟩)
  · exact kept instanceID rfl detached
  · rw [distinct same] at attached
    exact detached_not_attached calls instanceID detached attached

theorem tracked_owned (distinct : Function.Injective interface) {calls : List Call}
    (tracked : Tracked interface base calls) (instanceID : InstanceID) :
    Owned interface base calls instanceID where
  attached attached := ⟨tracked.owns instanceID attached, attached_on_bridge tracked attached⟩
  detached := detached_off_bridge distinct tracked

theorem mem_create_iff {bridge : List Bytes} {interfaceName name : Bytes} :
    name ∈ createOVSPort bridge interfaceName ↔ name ∈ bridge ∨ name = interfaceName := by
  unfold createOVSPort
  split
  case isTrue present =>
      constructor
      · exact Or.inl
      · rintro (before | rfl)
        · exact before
        · exact present
  case isFalse => simp

theorem mem_delete_iff {bridge : List Bytes} {interfaceName name : Bytes} :
    name ∈ deleteOVSPort bridge interfaceName ↔ name ∈ bridge ∧ name ≠ interfaceName := by
  simp [deleteOVSPort]

/-- The port that is found under the name of an instance belongs to the instance, when
that is alone. -/
theorem found_own {calls : List Call} (tracked : Tracked interface base calls)
    {instanceID : InstanceID} (alone : Alone calls instanceID) {port : OVNPort}
    (found : (after interface base calls).ports (portName instanceID) = some port) :
    port.instanceID = instanceID ∧ Attached calls instanceID := by
  obtain ⟨attached, named⟩ := tracked.owned _ _ found
  have same := alone port.instanceID attached named
  exact ⟨same, same ▸ attached⟩

theorem attach_fresh_tracked {calls : List Call} {instanceID : InstanceID} (tracked : Tracked interface base calls)
    (absent : (after interface base calls).ports (portName instanceID) = none) :
    Tracked interface base (calls ++ [.attach instanceID networkID info now]) := by
  have stepped := after_snoc interface base calls (.attach instanceID networkID info now)
  simp only [step, attachInstancePort, absent] at stepped
  constructor
  · intro other attached
    rw [stepped]
    by_cases same : instanceID = other
    · subst same
      exact ⟨_, Function.update_self _ _ _, rfl⟩
    · have before := ((attached_attach_iff _ _ _ _ _ _).mp attached).resolve_left same
      obtain ⟨port, there, own⟩ := tracked.owns other before
      have apart : portName other ≠ portName instanceID := by
        intro named
        rw [named, absent] at there
        contradiction
      exact ⟨port, (Function.update_of_ne apart _ _).trans there, own⟩
  · intro name port there
    rw [stepped] at there
    rw [attached_attach_iff]
    rcases Decidable.em (name = portName instanceID) with rfl | other
    · cases (Function.update_self _ _ _).symm.trans there
      exact ⟨Or.inl rfl, rfl⟩
    · obtain ⟨attached, named⟩ := tracked.owned name port
        ((Function.update_of_ne other _ _).symm.trans there)
      exact ⟨Or.inr attached, named⟩
  · intro name
    rw [stepped, mem_create_iff, tracked.bridge]
    simp only [attached_attach_iff, detached_attach_iff]
    constructor
    · rintro ((⟨own, kept⟩ | ⟨other, attached, rfl⟩) | rfl)
      · exact Or.inl ⟨own, fun other named detached => kept other named detached.2⟩
      · exact Or.inr ⟨other, Or.inr attached, rfl⟩
      · exact Or.inr ⟨instanceID, Or.inl rfl, rfl⟩
    · rintro (⟨own, kept⟩ | ⟨other, rfl | attached, rfl⟩)
      · by_cases named : interface instanceID = name
        · exact Or.inr named.symm
        · refine Or.inl (Or.inl ⟨own, fun other under detached => kept other under ⟨?_, detached⟩⟩)
          rintro rfl
          exact named under
      · exact Or.inr rfl
      · exact Or.inl (Or.inr ⟨other, attached, rfl⟩)

theorem attach_tracked {calls : List Call}
    {instanceID : InstanceID}
    (tracked : Tracked interface base calls) (alone : Alone calls instanceID) :
    Tracked interface base (calls ++ [.attach instanceID networkID info now]) := by
  cases found : (after interface base calls).ports (portName instanceID) with
  | none =>
    exact attach_fresh_tracked tracked found
  | some port =>
    obtain ⟨_, attached⟩ := found_own tracked alone found
    apply tracked_of_unchanged tracked
    · simp only [after_snoc, step, attachInstancePort, found]
    · intro other
      rw [standing_attach]
      split
      case isTrue same => exact (same ▸ attached).symm
      case isFalse => rfl

theorem attach_alone {calls : List Call} {instanceID : InstanceID} (tracked : Tracked interface base calls)
    (belong : Belong interface base calls (.attach instanceID networkID info now)) :
    Alone calls instanceID := by
  intro other attached same
  obtain ⟨port, there, own⟩ := tracked.owns other attached
  -- The instance is handed the port of the other.
  have attachedNow := (attached_attach_iff calls instanceID instanceID networkID info now).mpr
    (Or.inl rfl)
  obtain ⟨⟨given, got, named⟩, _⟩ := (belong instanceID).attached attachedNow
  rw [same] at there
  rw [getPortByInstance, after_snoc] at got
  simp only [step, attachInstancePort, there] at got
  cases got
  rw [← own, named]

theorem detach_present_tracked (distinct : Function.Injective interface) {calls : List Call}
    {instanceID : InstanceID} (tracked : Tracked interface base calls)
    (alone : Alone calls instanceID) (attached : Attached calls instanceID)
    (named : interface instanceID = portName instanceID) :
    Tracked interface base (calls ++ [.detach instanceID]) := by
  obtain ⟨port, found, _⟩ := tracked.owns instanceID attached
  have stepped := after_snoc interface base calls (.detach instanceID)
  simp only [step, detachInstancePort, found] at stepped
  constructor
  · intro other now
    obtain ⟨different, before⟩ := (attached_detach_iff _ _ _).mp now
    obtain ⟨own, there, under⟩ := tracked.owns other before
    have apart : portName other ≠ portName instanceID := fun same =>
      different (alone other before same).symm
    rw [stepped]
    exact ⟨own, (Function.update_of_ne apart _ _).trans there, under⟩
  · intro name own there
    rw [stepped] at there
    rcases Decidable.em (name = portName instanceID) with rfl | other
    · cases (Function.update_self _ _ _).symm.trans there
    · obtain ⟨before, under⟩ := tracked.owned name own
        ((Function.update_of_ne other _ _).symm.trans there)
      refine ⟨(attached_detach_iff _ _ _).mpr ⟨?_, before⟩, under⟩
      rintro rfl
      exact other under.symm
  · intro name
    rw [stepped, mem_delete_iff, tracked.bridge, ← named]
    simp only [attached_detach_iff, detached_detach_iff]
    constructor
    · rintro ⟨⟨own, kept⟩ | ⟨other, before, rfl⟩, different⟩
      · refine Or.inl ⟨own, fun other under => ?_⟩
        rintro (detached | ⟨rfl, _⟩)
        · exact kept other under detached
        · exact different under.symm
      · refine Or.inr ⟨other, ⟨?_, before⟩, rfl⟩
        rintro rfl
        exact different rfl
    · rintro (⟨own, kept⟩ | ⟨other, ⟨different, before⟩, rfl⟩)
      · refine ⟨Or.inl ⟨own, fun other under detached => kept other under (Or.inl detached)⟩, ?_⟩
        rintro rfl
        exact kept instanceID rfl (Or.inr ⟨rfl, attached⟩)
      · exact ⟨Or.inr ⟨other, before, rfl⟩, fun same => different (distinct same).symm⟩

theorem detach_tracked (distinct : Function.Injective interface) {calls : List Call}
    {instanceID : InstanceID} (tracked : Tracked interface base calls)
    (alone : Alone calls instanceID)
    (named : Attached calls instanceID → interface instanceID = portName instanceID) :
    Tracked interface base (calls ++ [.detach instanceID]) := by
  cases found : (after interface base calls).ports (portName instanceID) with
  | some port =>
    obtain ⟨_, attached⟩ := found_own tracked alone found
    exact detach_present_tracked distinct tracked alone attached (named attached)
  | none =>
    have absent : standing instanceID calls ≠ some true := by
      intro attached
      obtain ⟨port, there, _⟩ := tracked.owns instanceID attached
      rw [found] at there
      contradiction
    apply tracked_of_unchanged tracked
    · simp only [after_snoc, step, detachInstancePort, found]
    · intro other
      rw [standing_detach]
      split
      case isFalse => rfl
      case isTrue same =>
          subst same
          rcases known : standing instanceID calls with _ | _ | _
          · rfl
          · rfl
          · exact absurd known absent

theorem detach_alone {calls : List Call} {instanceID : InstanceID}
    (tracked : Tracked interface base calls)
    (belong : Belong interface base calls (.detach instanceID)) : Alone calls instanceID := by
  intro other attached same
  by_contra different
  -- The port of the other is gone.
  have still := (attached_detach_iff calls instanceID other).mpr ⟨Ne.symm different, attached⟩
  obtain ⟨⟨port, there, _⟩, _⟩ := (belong other).attached still
  obtain ⟨_, before, _⟩ := tracked.owns other attached
  rw [same] at before
  rw [getPortByInstance, after_snoc, same] at there
  simp only [step, detachInstancePort, before, Function.update_self] at there
  contradiction

theorem detach_named {calls : List Call} {instanceID : InstanceID}
    (tracked : Tracked interface base calls)
    (belong : Belong interface base calls (.detach instanceID))
    (attached : Attached calls instanceID) : interface instanceID = portName instanceID := by
  obtain ⟨_, found, _⟩ := tracked.owns instanceID attached
  have gone := (belong instanceID).detached
    ((detached_detach_iff calls instanceID instanceID).mpr (Or.inr ⟨rfl, attached⟩))
  rw [after_snoc] at gone
  simp only [step, detachInstancePort, found, mem_delete_iff, not_and, not_not] at gone
  exact gone (attached_on_bridge tracked attached)

theorem sync_ports_of_listed {m : Manager}
    (listed : ∀ name port, m.ports name = some port → name ∈ ovsPorts m.bridge) :
    syncPorts m = m := by
  have same : (fun name => if name ∈ ovsPorts m.bridge then m.ports name else none) = m.ports := by
    funext name
    cases found : m.ports name with
    | none => exact ite_self none
    | some port => exact if_pos (listed name port found)
  rw [syncPorts, same]

theorem sync_tracked {calls : List Call} (tracked : Tracked interface base calls)
    (listed : ∀ instanceID, Attached calls instanceID →
      portName instanceID ∈ ovsPorts (after interface base calls).bridge) :
    Tracked interface base (calls ++ [.sync]) := by
  apply tracked_of_unchanged tracked
  · rw [after_snoc]
    apply sync_ports_of_listed
    intro name port found
    obtain ⟨attached, rfl⟩ := tracked.owned name port found
    exact listed _ attached
  · exact standing_sync calls

theorem sync_listed {calls : List Call} (belong : Belong interface base calls .sync)
    (instanceID : InstanceID) (attached : Attached calls instanceID) :
    portName instanceID ∈ ovsPorts (after interface base calls).bridge := by
  have still : Attached (calls ++ [.sync]) instanceID :=
    (standing_sync calls instanceID).trans attached
  obtain ⟨⟨port, there, _⟩, _⟩ := (belong instanceID).attached still
  rw [getPortByInstance, after_snoc] at there
  simp only [step, syncPorts, Option.ite_none_right_eq_some] at there
  exact there.1

theorem fitting_tracked (distinct : Function.Injective interface) {front : List Call} {call : Call}
    (tracked : Tracked interface base front) (fitting : Fitting interface base front call) :
    Tracked interface base (front ++ [call]) := by
  cases call with
  | attach instanceID networkID info now =>
    exact attach_tracked tracked fitting
  | detach instanceID =>
    exact detach_tracked distinct tracked fitting.1 fitting.2
  | sync => exact sync_tracked tracked fitting

theorem belong_fitting {front : List Call} {call : Call} (tracked : Tracked interface base front)
    (belong : Belong interface base front call) : Fitting interface base front call := by
  cases call with
  | attach instanceID networkID info now =>
    exact attach_alone tracked belong
  | detach instanceID =>
    exact ⟨detach_alone tracked belong, detach_named tracked belong⟩
  | sync => exact sync_listed belong

variable (interface base)

/-- For all sequences of calls, with interfaces of different names, and whatever the
bridge has at the start: the ports belong to their instances after every call exactly
when every call is fitting. -/
theorem ports_belong_iff (distinct : Function.Injective interface) (calls : List Call) :
    Each (Belong interface base) calls ↔ Each (Fitting interface base) calls := by
  apply each_iff tracked_initial
  · intro front call tracked
    refine ⟨belong_fitting tracked, fun fitting => ?_⟩
    exact tracked_owned distinct (fitting_tracked distinct tracked fitting)
  · intro front call tracked belong
    exact fitting_tracked distinct tracked (belong_fitting tracked belong)

end Tracking

def marked (mark : Bytes) (instanceID : InstanceID) : Bytes := mark ++ instanceID.bytes

theorem marked_injective {mark : Bytes} : Function.Injective (marked mark) := by
  rintro ⟨left, _⟩ ⟨right, _⟩ same
  cases List.append_cancel_left same
  rfl

def vm : Bytes := [118, 109, 45]

def tap : Bytes := [116, 97, 112]

def idWith (rest : Bytes) : InstanceID := ⟨List.replicate 8 97 ++ rest, by simp⟩

def attaching (rest : Bytes) : Call := .attach (idWith rest) [] ⟨[], [], []⟩ 0

/-- An id of just eight bytes behind `vm-` is the name of the port: attach, sync and
detach are fitting. -/
theorem short_id_fitting :
    Each (Fitting (marked vm) []) ([] ++ [attaching []] ++ [.sync] ++ [.detach (idWith [])]) := by
  have only (instanceID : InstanceID) (attached : Attached ([] ++ [attaching []]) instanceID) :
      idWith [] = instanceID := by
    rcases (attached_attach_iff [] _ instanceID [] ⟨[], [], []⟩ 0).mp attached with same | earlier
    · exact same
    · cases earlier
  simp only [each_snoc_iff]
  refine ⟨⟨⟨each_nil, ?_⟩, ?_⟩, ?_, ?_⟩
  · intro other attached
    cases attached
  · intro instanceID attached
    rw [← only instanceID attached]
    decide +kernel
  · intro other attached _
    exact (only other ((standing_sync _ other).symm.trans attached)).symm
  · intro _
    decide +kernel

theorem short_id_belongs :
    Each (Belong (marked vm) []) [attaching [], .sync, .detach (idWith [])] :=
  (ports_belong_iff (marked vm) [] marked_injective _).mpr short_id_fitting

/-- A tap interface stays on the bridge when its instance is detached, a sync drops
the port of an instance that is attached, and of two ids that begin alike the second
gets the port of the first. -/
theorem ports_of_others :
    (after (marked tap) [] [attaching [], .detach (idWith [])]).bridge = [marked tap (idWith [])] ∧
      getPortByInstance (after (marked tap) [] [attaching [], .sync]) (idWith []) = none ∧
      (getPortByInstance (after (marked tap) [] [attaching [49], attaching [50]])
        (idWith [50])).map (·.instanceID) = some (idWith [49]) ∧
      ¬ Each (Belong (marked tap) []) [attaching [], .detach (idWith [])] := by
  refine ⟨by decide +kernel, by decide +kernel, by decide +kernel, fun belong => ?_⟩
  have last := ((each_snoc_iff [attaching []]).mp belong).2 (idWith [])
  exact last.detached rfl (by decide +kernel)

end VcStack.NodePorts
