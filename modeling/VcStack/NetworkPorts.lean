import Mathlib.Data.List.Pairwise
import Mathlib.Data.List.Sort
import VcStack.Ipam
import VcStack.Runs

/-!
The port handlers of internal/management/network/handlers.go and the AllocateIP
and ReleaseIP of service.go, over the tables of subnets, ports and allocations.
Reads and writes of the database succeed, and uuid.New gives an id that no port
has. The calls of the SDN driver touch none of the tables and are left out.
-/

namespace VcStack.NetworkPorts

open Ipam Runs

structure FixedIP where
  ip : String
  subnetID : String
  deriving DecidableEq

structure NetworkPort where
  id : String
  networkID : String
  subnetID : String
  macAddress : String
  fixedIPs : List FixedIP
  deviceID : String
  securityGroups : List String
  status : String
  deriving DecidableEq

structure Database where
  subnets : Subnets
  ports : List NetworkPort := []
  allocations : List IPAllocation := []
  deriving DecidableEq

structure PortRequest where
  networkID : String
  subnetID : String := ""
  deviceID : String := ""
  securityGroups : List String := []

structure Drawn where
  draw : Nat
  portID : String
  macAddress : String

inductive Refusal where
  | invalidRequest
  | allocationFailed
  deriving DecidableEq

def Refusal.status : Refusal → Nat
  | .invalidRequest => 400
  | .allocationFailed => 409

def Refusal.text : Refusal → String
  | .invalidRequest => "invalid request"
  | .allocationFailed => "IP allocation failed"

def requestSubnet (db : Database) (request : PortRequest) : Option Subnet :=
  if request.subnetID = "" then db.subnets.byNetwork request.networkID
  else db.subnets.byID request.subnetID

def insertPort (ports : List NetworkPort) (port : NetworkPort) : List NetworkPort :=
  ports.orderedInsert (fun left right => left.id ≤ right.id) port

def createPort (db : Database) (request : PortRequest) (drawn : Drawn) :
    Except Refusal (Database × NetworkPort) :=
  if request.networkID = "" then .error .invalidRequest
  else
    -- A subnet that is not found stays the zero value, with the empty id.
    let subnet := (requestSubnet db request).getD {}
    match allocate db.subnets db.allocations subnet.id request.deviceID drawn.draw with
    | .error _ => .error .allocationFailed
    | .ok (ip, allocations) =>
      let port : NetworkPort := {
        id := drawn.portID
        networkID := request.networkID
        subnetID := subnet.id
        macAddress := drawn.macAddress
        fixedIPs := [{ip := ip, subnetID := subnet.id}]
        deviceID := request.deviceID
        securityGroups := request.securityGroups
        status := "down" }
      .ok ({db with ports := insertPort db.ports port, allocations := allocations}, port)

def releaseFixed (allocations : List IPAllocation) (port : NetworkPort) : List IPAllocation :=
  port.fixedIPs.foldl (fun rest fixed => release rest port.subnetID fixed.ip) allocations

def deletePort (db : Database) (id : String) : Database :=
  match db.ports.find? (·.id == id) with
  | none => db
  | some port =>
    {db with
      allocations := releaseFixed db.allocations port
      ports := db.ports.filter (·.id != port.id)}

def allocateIP (db : Database) (instanceUUID networkID : String) (draw : Nat) :
    Except String (String × Database) :=
  match db.subnets.byNetwork networkID with
  | none => .error "record not found"
  | some subnet =>
    match allocate db.subnets db.allocations subnet.id instanceUUID draw with
    | .error error => .error error.text
    | .ok (ip, allocations) => .ok (ip, {db with allocations := allocations})

def devicePort (db : Database) (deviceID : String) : Option NetworkPort :=
  db.ports.find? (·.deviceID == deviceID)

def releaseIP (db : Database) (instanceUUID : String) : Database :=
  match devicePort db instanceUUID with
  | none => db
  | some port => {db with allocations := releaseFixed db.allocations port}

inductive Action where
  | createPort (request : PortRequest) (drawn : Drawn)
  | deletePort (id : String)
  | allocateIP (instanceUUID networkID : String) (draw : Nat)
  | releaseIP (instanceUUID : String)

def step (db : Database) : Action → Option Database
  | .createPort request drawn =>
    if db.ports.any (·.id == drawn.portID) then none
    else match createPort db request drawn with
      | .ok (after, _) => some after
      | .error _ => some db
  | .deletePort id => some (deletePort db id)
  | .allocateIP instanceUUID networkID draw =>
    match allocateIP db instanceUUID networkID draw with
    | .ok (_, after) => some after
    | .error _ => some db
  | .releaseIP instanceUUID => some (releaseIP db instanceUUID)

variable (allocations : List IPAllocation) (db : Database) (port : NetworkPort)

theorem release_fixed_filter :
    releaseFixed allocations port = allocations.filter fun row =>
      !(row.subnetID == port.subnetID && port.fixedIPs.any (·.ip == row.ip)) := by
  unfold releaseFixed
  induction port.fixedIPs generalizing allocations with
  | nil => simp
  | cons fixed rest ih =>
    rw [List.foldl_cons, ih, release, List.filter_filter]
    apply List.filter_congr
    intro row _
    rw [List.any_cons, Bool.beq_comm (a := fixed.ip)]
    cases row.subnetID == port.subnetID <;> cases row.ip == fixed.ip <;> simp

def Releases (port : NetworkPort) (row : IPAllocation) : Prop :=
  row.subnetID = port.subnetID ∧ ∃ fixed ∈ port.fixedIPs, fixed.ip = row.ip

variable {row : IPAllocation} {instanceUUID ip subnetID : String}

theorem mem_release_fixed_iff :
    row ∈ releaseFixed allocations port ↔ row ∈ allocations ∧ ¬ Releases port row := by
  rw [release_fixed_filter, List.mem_filter]
  simp [Releases, imp_iff_not_or]

theorem release_fixed_last_iff {port : NetworkPort} (fresh : row ∉ allocations) :
    releaseFixed (allocations ++ [row]) port = allocations ↔
      Releases port row ∧ ∀ earlier ∈ allocations, ¬ Releases port earlier := by
  constructor
  · intro same
    constructor
    · apply Classical.byContradiction
      intro kept
      apply fresh
      rw [← same]
      exact (mem_release_fixed_iff _ _).mpr ⟨by simp, kept⟩
    · intro earlier member
      rw [← same] at member
      exact ((mem_release_fixed_iff _ _).mp member).2
  · rintro ⟨released, kept⟩
    have keeps : releaseFixed allocations port = allocations := by
      rw [release_fixed_filter, List.filter_eq_self]
      intro earlier member
      have stays := kept earlier member
      simpa [Releases, imp_iff_not_or] using stays
    have drops : releaseFixed [row] port = [] := by
      apply List.eq_nil_iff_forall_not_mem.mpr
      intro other member
      obtain ⟨only, stays⟩ := (mem_release_fixed_iff _ _).mp member
      cases List.mem_singleton.mp only
      exact stays released
    rw [release_fixed_filter] at keeps drops ⊢
    rw [List.filter_append, keeps, drops, List.append_nil]

def targetID (db : Database) (request : PortRequest) : String :=
  ((requestSubnet db request).getD {}).id

theorem create_port_ok {after : Database} {request : PortRequest} {drawn : Drawn}
    {port : NetworkPort} (created : createPort db request drawn = .ok (after, port)) :
    ∃ ip, port.subnetID = targetID db request ∧
      port.fixedIPs = [{ip := ip, subnetID := targetID db request}] ∧
      allocated db.allocations (targetID db request) ip = false ∧
      after = {db with
        ports := insertPort db.ports port
        allocations := db.allocations ++
          [{subnetID := targetID db request, ip := ip, portID := request.deviceID}]} := by
  unfold createPort at created
  split at created
  · contradiction
  · dsimp only at created
    split at created
    · contradiction
    · rename_i ip allocations allocated
      obtain ⟨subnet, _, first, rows⟩ := (allocate_ok_iff _ _ _ _ _ _ _).mp allocated
      cases created
      exact ⟨ip, rfl, rfl, first_free_address_untaken first, by rw [rows]; rfl⟩

theorem allocate_ip_ok_iff {after : Database} {networkID : String} {draw : Nat} :
    allocateIP db instanceUUID networkID draw = .ok (ip, after) ↔
      ∃ subnet, db.subnets.byNetwork networkID = some subnet ∧
        FirstFreeAddress subnet (allocated db.allocations subnet.id) draw ip ∧
        after = {db with allocations := db.allocations ++
          [{subnetID := subnet.id, ip := ip, portID := instanceUUID}]} := by
  unfold allocateIP
  cases found : db.subnets.byNetwork networkID with
  | none => simp
  | some subnet =>
    -- Allocate reads the row again by its id.
    have again := by_id_of_mem (List.mem_of_find?_eq_some found)
    have spec := allocate_ok_iff db.subnets db.allocations subnet.id instanceUUID draw
    simp only [again, Option.some.injEq, exists_eq_left'] at spec ⊢
    cases result : allocate db.subnets db.allocations subnet.id instanceUUID draw with
    | error error =>
      simp only [result, reduceCtorEq, false_iff, not_and] at spec ⊢
      intro first _
      exact spec ip _ first rfl
    | ok answer =>
      obtain ⟨text, allocations⟩ := answer
      obtain ⟨first, rows⟩ := (spec text allocations).mp result
      subst rows
      constructor
      · intro answered
        cases answered
        exact ⟨first, rfl⟩
      · rintro ⟨other, rfl⟩
        rw [first_free_address_unique first other]

inductive Effect (db : Database) : Action → Database → Prop where
  | refused (action : Action) : Effect db action db
  | created (request : PortRequest) (drawn : Drawn) (port : NetworkPort) (ip : String)
      (there : port.subnetID = targetID db request)
      (listed : port.fixedIPs = [{ip := ip, subnetID := targetID db request}])
      (free : allocated db.allocations (targetID db request) ip = false) :
      Effect db (.createPort request drawn) {db with
        ports := insertPort db.ports port
        allocations := db.allocations ++
          [{subnetID := targetID db request, ip := ip, portID := request.deviceID}]}
  | deleted (id : String) : Effect db (.deletePort id) (deletePort db id)
  | allocated (instanceUUID networkID : String) (draw : Nat) (row : IPAllocation) :
      Effect db (.allocateIP instanceUUID networkID draw)
        {db with allocations := db.allocations ++ [row]}
  | released (instanceUUID : String) :
      Effect db (.releaseIP instanceUUID) (releaseIP db instanceUUID)

theorem step_effect {next : Database} {action : Action} (taken : step db action = some next) :
    Effect db action next := by
  cases action with
  | createPort request drawn =>
    simp only [step] at taken
    split at taken
    · contradiction
    · split at taken
      · rename_i after port created
        cases taken
        obtain ⟨ip, there, listed, free, shape⟩ := create_port_ok _ created
        rw [shape]
        exact Effect.created request drawn port ip there listed free
      · cases taken
        exact Effect.refused _
  | deletePort id =>
    cases taken
    exact Effect.deleted id
  | allocateIP instanceUUID networkID draw =>
    simp only [step] at taken
    split at taken
    · rename_i ip after answered
      cases taken
      obtain ⟨_, _, _, shape⟩ := (allocate_ip_ok_iff _).mp answered
      rw [shape]
      exact Effect.allocated instanceUUID networkID draw _
    · cases taken
      exact Effect.refused _
  | releaseIP instanceUUID =>
    cases taken
    exact Effect.released instanceUUID

theorem release_ip_ports :
    (releaseIP db instanceUUID).ports = db.ports := by
  unfold releaseIP
  split <;> rfl

def Unique (db : Database) : Prop :=
  db.ports.Pairwise fun left right => left.fixedIPs.Disjoint right.fixedIPs

def Recorded (db : Database) (subnetID : String) : Prop :=
  ∀ port ∈ db.ports, ∀ fixed ∈ port.fixedIPs, fixed.subnetID = subnetID →
    allocated db.allocations subnetID fixed.ip = true

instance (db : Database) (subnetID : String) : Decidable (Recorded db subnetID) :=
  inferInstanceAs (Decidable (∀ port ∈ db.ports, ∀ fixed ∈ port.fixedIPs, _ → _))

def CreatesRecorded (db : Database) : Action → Prop
  | .createPort request _ => Recorded db (targetID db request)
  | _ => True

instance (db : Database) : (action : Action) → Decidable (CreatesRecorded db action)
  | .createPort request _ => inferInstanceAs (Decidable (Recorded db (targetID db request)))
  | .deletePort _ | .allocateIP _ _ _ | .releaseIP _ => inferInstanceAs (Decidable True)

theorem unique_insert (unique : Unique db)
    (fresh : ∀ other ∈ db.ports, port.fixedIPs.Disjoint other.fixedIPs) :
    Unique {db with ports := insertPort db.ports port} := by
  have order := List.perm_orderedInsert
    (fun left right : NetworkPort => left.id ≤ right.id) port db.ports
  apply (order.pairwise_iff fun disjoint => List.disjoint_symm disjoint).mpr
  exact List.pairwise_cons.mpr ⟨fresh, unique⟩

theorem recorded_fresh (recorded : Recorded db subnetID)
    (free : allocated db.allocations subnetID ip = false) (other : NetworkPort)
    (member : other ∈ db.ports) :
    [{ip := ip, subnetID := subnetID : FixedIP}].Disjoint other.fixedIPs := by
  intro fixed mine theirs
  cases List.mem_singleton.mp mine
  rw [recorded other member _ theirs rfl] at free
  contradiction

theorem unique_delete {id : String} (unique : Unique db) :
    Unique (deletePort db id) := by
  unfold deletePort
  split
  · exact unique
  · exact List.Pairwise.filter _ unique

theorem step_unique (action : Action) (next : Database) (unique : Unique db)
    (guarded : CreatesRecorded db action) (taken : step db action = some next) : Unique next := by
  cases step_effect db taken with
  | refused => exact unique
  | created request drawn port ip there listed free =>
    apply unique_insert db port unique
    rw [listed]
    exact recorded_fresh db guarded free
  | deleted id => exact unique_delete db unique
  | allocated => exact unique
  | released instanceUUID =>
    unfold Unique
    rw [release_ip_ports]
    exact unique

theorem port_addresses_unique (subnets : Subnets) (actions : List Action)
    (guarded : Guarded step CreatesRecorded {subnets := subnets} actions) :
    Always step Unique {subnets := subnets} actions :=
  always_of_guarded (fun _ => id) step_unique _ List.Pairwise.nil guarded

def smallSubnets : Subnets where
  rows := [{id := "subnet-1", networkID := "net-1", cidr := "192.168.1.0/30", gateway := "192.168.1.1"}]
  distinct := by decide

def portFor (deviceID portID : String) : Action :=
  .createPort {networkID := "net-1", deviceID := deviceID}
    {draw := 0, portID := portID, macAddress := "02:00:00:00:00:01"}

/-- The address of a deleted port and the one given back by an instance without
a port are used again. -/
theorem returned_addresses_unique :
    Guarded step CreatesRecorded {subnets := smallSubnets}
        [portFor "vm-1" "port-1", .deletePort "port-1", .allocateIP "vm-2" "net-1" 1,
          .releaseIP "vm-2", portFor "vm-3" "port-3"] ∧
      Always step Unique {subnets := smallSubnets}
        [portFor "vm-1" "port-1", .deletePort "port-1", .allocateIP "vm-2" "net-1" 1,
          .releaseIP "vm-2", portFor "vm-3" "port-3"] :=
  ⟨by decide +kernel, port_addresses_unique _ _ (by decide +kernel)⟩

def sharedAddress : Database where
  subnets := smallSubnets
  ports := [
    { id := "port-1", networkID := "net-1", subnetID := "subnet-1"
      macAddress := "02:00:00:00:00:01", fixedIPs := [⟨"192.168.1.2", "subnet-1"⟩]
      deviceID := "vm-1", securityGroups := [], status := "down" },
    { id := "port-2", networkID := "net-1", subnetID := "subnet-1"
      macAddress := "02:00:00:00:00:01", fixedIPs := [⟨"192.168.1.2", "subnet-1"⟩]
      deviceID := "vm-2", securityGroups := [], status := "down" }]
  allocations := [⟨"subnet-1", "192.168.1.2", "vm-2"⟩]

theorem released_port_address_reused :
    ¬ Always step Unique {subnets := smallSubnets}
      [portFor "vm-1" "port-1", .releaseIP "vm-1", portFor "vm-2" "port-2"] := by
  intro always
  have last : Unique sharedAddress := always_last _ _ always (by decide +kernel)
  simp [Unique, sharedAddress] at last

def Undone (db : Database) (instanceUUID networkID : String) (draw : Nat) : Prop :=
  ∀ ip after, allocateIP db instanceUUID networkID draw = .ok (ip, after) →
    (releaseIP after instanceUUID).allocations = db.allocations

def PortAwaits (db : Database) (instanceUUID subnetID ip : String) : Prop :=
  ∃ port, devicePort db instanceUUID = some port ∧ port.subnetID = subnetID ∧
    (∃ fixed ∈ port.fixedIPs, fixed.ip = ip) ∧
    ∀ fixed ∈ port.fixedIPs, allocated db.allocations subnetID fixed.ip = false

theorem release_ip_undoes_iff
    (free : allocated db.allocations subnetID ip = false) :
    (releaseIP {db with allocations := db.allocations ++
        [{subnetID := subnetID, ip := ip, portID := instanceUUID}]} instanceUUID).allocations =
      db.allocations ↔ PortAwaits db instanceUUID subnetID ip := by
  have fresh : {subnetID := subnetID, ip := ip, portID := instanceUUID} ∉ db.allocations := by
    intro member
    rw [allocated_iff.mpr ⟨_, member, rfl, rfl⟩] at free
    contradiction
  unfold releaseIP PortAwaits
  -- The allocation adds no port, so the release finds the port that was there.
  change (match devicePort db instanceUUID with | none => _ | some port => _ : Database).allocations =
    _ ↔ _
  cases devicePort db instanceUUID with
  | none => simp
  | some port =>
    simp only [Option.some.injEq, exists_eq_left', release_fixed_last_iff _ fresh]
    constructor
    · rintro ⟨⟨same, listed⟩, kept⟩
      refine ⟨same.symm, listed, ?_⟩
      intro fixed member
      rw [← Bool.not_eq_true, allocated_iff]
      rintro ⟨row, stored, there, text⟩
      exact kept row stored ⟨there.trans same, fixed, member, text.symm⟩
    · rintro ⟨same, listed, unused⟩
      refine ⟨⟨same.symm, listed⟩, ?_⟩
      rintro row stored ⟨there, fixed, member, text⟩
      have held := allocated_iff.mpr ⟨row, stored, there.trans same, text.symm⟩
      rw [unused fixed member] at held
      contradiction

theorem release_undoes_allocate_iff (db : Database) (instanceUUID networkID : String) (draw : Nat) :
    Undone db instanceUUID networkID draw ↔
      ∀ subnet ip, db.subnets.byNetwork networkID = some subnet →
        FirstFreeAddress subnet (allocated db.allocations subnet.id) draw ip →
        PortAwaits db instanceUUID subnet.id ip := by
  constructor
  · intro undone subnet ip found first
    have free := first_free_address_untaken first
    rw [← release_ip_undoes_iff db free]
    exact undone ip _ ((allocate_ip_ok_iff _).mpr ⟨subnet, found, first, rfl⟩)
  · intro awaits ip after answered
    obtain ⟨subnet, found, first, shape⟩ := (allocate_ip_ok_iff _).mp answered
    have free := first_free_address_untaken first
    rw [shape, release_ip_undoes_iff db free]
    exact awaits subnet ip found first

/-- An instance without ports keeps the address it was given. -/
theorem portless_instance_keeps_address :
    (∀ row ∈ ({subnets := smallSubnets} : Database).allocations, row.portID ≠ "vm-1") ∧
      ¬ Undone {subnets := smallSubnets} "vm-1" "net-1" 0 := by
  refine ⟨by simp, fun undone => ?_⟩
  have back := undone "192.168.1.2"
    {subnets := smallSubnets, allocations := [⟨"subnet-1", "192.168.1.2", "vm-1"⟩]} (by decide +kernel)
  revert back
  decide

end VcStack.NetworkPorts
