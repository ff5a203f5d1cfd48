import VcStack.HostFencing

/-!
One registration submitted over and over. The look-up takes the port of the
request as it is, the insertion replaces a port that is not positive.
-/

namespace VcStack.HostRegistrations

open KeyedTables HostEvacuation HostFencing
open HostMonitors (RegisterRequest registerAgain newHost)

def portOf (req : RegisterRequest) : Int :=
  if req.managementPort > 0 then req.managementPort else 8081

def uuidsAt (hosts : Table Host.uuid) (ipAddress : String) (port : Int) : List String :=
  (hosts.rows.filter fun host =>
    host.ipAddress = ipAddress ∧ host.managementPort = port).map Host.uuid

structure Draw where
  now : Int
  uuid : String
deriving DecidableEq, Repr

/-- Whether an insertion violates a unique index. The migrations make addresses
unique with their ports, a table that is created from the models does not. -/
def Violates (uniqueAddresses : Bool) (hosts : Table Host.uuid) (req : RegisterRequest)
    (uuid : String) : Prop :=
  uuid ∈ hosts.rows.map Host.uuid ∨
    uniqueAddresses = true ∧ uuidsAt hosts req.ipAddress (portOf req) ≠ []

instance (uniqueAddresses : Bool) (hosts : Table Host.uuid) (req : RegisterRequest)
    (uuid : String) : Decidable (Violates uniqueAddresses hosts req uuid) := by
  unfold Violates
  infer_instance

def registerHost (uniqueAddresses : Bool) (hosts : Table Host.uuid) (req : RegisterRequest)
    (draw : Draw) : Table Host.uuid × Except String String :=
  match existingHost hosts req with
  | some existing =>
    (hosts.update existing.uuid
      (savedRow {req := req, now := draw.now, existing := some existing} existing)
      (saved_uuid _), .ok existing.uuid)
  | none =>
    if violates : Violates uniqueAddresses hosts req draw.uuid then
      (hosts, .error "failed to register host")
    else
      -- The row gets `portOf req`, which the look-up above has not tried.
      (hosts.insert (newHost draw.now req draw.uuid) fun taken => violates (Or.inl taken),
        .ok draw.uuid)

def location (host : Host) : String × String × Int :=
  (host.uuid, host.ipAddress, host.managementPort)

theorem uuids_at_locations {hosts : Table Host.uuid} {ipAddress : String} {port : Int} :
    uuidsAt hosts ipAddress port =
      ((hosts.rows.map location).filter fun entry =>
        entry.2.1 = ipAddress ∧ entry.2.2 = port).map Prod.fst := by
  rw [uuidsAt, List.filter_map, List.map_map]
  rfl

theorem saved_locations {hosts : Table Host.uuid} {registration : Registration} {existing : Host}
    (listed : existing ∈ hosts.rows) :
    (hosts.update existing.uuid (savedRow registration existing)
        (saved_uuid registration)).rows.map location =
      hosts.rows.map location := by
  rw [Table.update, Table.change, List.map_map]
  apply List.map_congr_left
  intro host member
  rw [Function.comp_apply]
  split_ifs with same
  · have equal : host = existing := List.inj_on_of_nodup_map hosts.distinct member listed same
    rw [equal]
    rfl
  · rfl

theorem existing_uuid {hosts : Table Host.uuid} {req : RegisterRequest} :
    (existingHost hosts req).map Host.uuid =
      (uuidsAt hosts req.ipAddress req.managementPort).head? := by
  rw [existingHost, uuidsAt, List.head?_map, List.head?_filter]

variable {uuid : String}

section Steps

variable (uniqueAddresses : Bool) (hosts : Table Host.uuid) (req : RegisterRequest) (draw : Draw)

theorem register_found
    (found : (uuidsAt hosts req.ipAddress req.managementPort).head? = some uuid) :
    (∀ ipAddress port, uuidsAt (registerHost uniqueAddresses hosts req draw).1 ipAddress port =
        uuidsAt hosts ipAddress port) ∧
      (registerHost uniqueAddresses hosts req draw).2 = .ok uuid := by
  rw [← existing_uuid] at found
  obtain ⟨existing, read, rfl⟩ := Option.map_eq_some_iff.mp found
  have listed : existing ∈ hosts.rows := List.mem_of_find?_eq_some read
  rw [registerHost, read]
  refine ⟨?_, rfl⟩
  intro ipAddress port
  rw [uuids_at_locations, uuids_at_locations, saved_locations listed]

theorem register_missing (missing : uuidsAt hosts req.ipAddress req.managementPort = []) :
    registerHost uniqueAddresses hosts req draw =
      if violates : Violates uniqueAddresses hosts req draw.uuid then
        (hosts, .error "failed to register host")
      else
        (hosts.insert (newHost draw.now req draw.uuid) fun taken => violates (Or.inl taken),
          .ok draw.uuid) := by
  have absent : existingHost hosts req = none := by
    rw [← Option.map_eq_none_iff (f := Host.uuid), existing_uuid, missing]
    rfl
  rw [registerHost, absent]

theorem inserted_at (fresh : (newHost draw.now req draw.uuid).uuid ∉ hosts.rows.map Host.uuid)
    {port : Int} :
    uuidsAt (hosts.insert (newHost draw.now req draw.uuid) fresh) req.ipAddress port =
      uuidsAt hosts req.ipAddress port ++ if portOf req = port then [draw.uuid] else [] := by
  rw [uuidsAt, Table.insert, List.filter_append, List.map_append]
  congr 1
  by_cases same : portOf req = port
  · rw [if_pos same, List.filter_cons_of_pos]
    · rfl
    · exact decide_eq_true ⟨rfl, same⟩
  · rw [if_neg same, List.filter_cons_of_neg]
    · rfl
    · intro matched
      exact same (of_decide_eq_true matched).2

end Steps

section Submissions

variable (uniqueAddresses : Bool) (hosts : Table Host.uuid) (req : RegisterRequest)
  (draws : Nat → Draw)

def hostsAfter : Nat → Table Host.uuid
  | 0 => hosts
  | count + 1 => (registerHost uniqueAddresses (hostsAfter count) req (draws count)).1

def response (count : Nat) : Except String String :=
  (registerHost uniqueAddresses (hostsAfter uniqueAddresses hosts req draws count) req
    (draws count)).2

/-- After any number of submissions there is one host at the address, and they were
all answered with its identifier. -/
def Idempotent : Prop :=
  ∀ count, (uuidsAt (hostsAfter uniqueAddresses hosts req draws (count + 1)) req.ipAddress
      (portOf req)).length = 1 ∧
    ∃ uuid, ∀ earlier ≤ count, response uniqueAddresses hosts req draws earlier = .ok uuid

theorem after_found (start : Nat)
    (found : (uuidsAt (hostsAfter uniqueAddresses hosts req draws start) req.ipAddress
      req.managementPort).head? = some uuid) (extra : Nat) :
    (∀ ipAddress port,
      uuidsAt (hostsAfter uniqueAddresses hosts req draws (start + extra)) ipAddress port =
        uuidsAt (hostsAfter uniqueAddresses hosts req draws start) ipAddress port) ∧
      response uniqueAddresses hosts req draws (start + extra) = .ok uuid := by
  -- The tables after each submission agree in all that the look-up reads.
  induction extra with
  | zero =>
    exact ⟨fun _ _ => rfl, (register_found uniqueAddresses _ req (draws start) found).2⟩
  | succ extra ih =>
    obtain ⟨stays, _⟩ := ih
    have stillFound : (uuidsAt (hostsAfter uniqueAddresses hosts req draws (start + extra))
        req.ipAddress req.managementPort).head? = some uuid := by
      rw [stays]
      exact found
    have kept := (register_found uniqueAddresses _ req (draws (start + extra)) stillFound).1
    have moved : ∀ ipAddress port,
        uuidsAt (hostsAfter uniqueAddresses hosts req draws (start + (extra + 1))) ipAddress port =
          uuidsAt (hostsAfter uniqueAddresses hosts req draws start) ipAddress port := by
      intro ipAddress port
      exact (kept ipAddress port).trans (stays ipAddress port)
    refine ⟨moved, ?_⟩
    apply (register_found uniqueAddresses _ req (draws (start + (extra + 1))) _).2
    rw [moved]
    exact found

variable {uniqueAddresses hosts req draws}

theorem idempotent_found
    (found : (uuidsAt hosts req.ipAddress req.managementPort).head? = some uuid)
    (one : (uuidsAt hosts req.ipAddress (portOf req)).length = 1) :
    Idempotent uniqueAddresses hosts req draws := by
  have later := after_found uniqueAddresses hosts req draws 0 found
  intro count
  refine ⟨?_, uuid, ?_⟩
  · rw [← Nat.zero_add (count + 1), (later (count + 1)).1]
    exact one
  · intro earlier _
    rw [← Nat.zero_add earlier]
    exact (later earlier).2

theorem idempotent_inserted (positive : 0 < req.managementPort)
    (fresh : (draws 0).uuid ∉ hosts.rows.map Host.uuid)
    (missing : uuidsAt hosts req.ipAddress req.managementPort = []) :
    Idempotent uniqueAddresses hosts req draws := by
  have port : portOf req = req.managementPort := if_pos positive
  have allowed : ¬ Violates uniqueAddresses hosts req (draws 0).uuid := by
    rintro (taken | ⟨_, occupied⟩)
    · exact fresh taken
    · exact occupied (port ▸ missing)
  have first := register_missing uniqueAddresses hosts req (draws 0) missing
  rw [dif_neg allowed] at first
  have placed : uuidsAt (hostsAfter uniqueAddresses hosts req draws 1) req.ipAddress
      req.managementPort = [(draws 0).uuid] := by
    rw [hostsAfter, hostsAfter, first, inserted_at, missing, if_pos port]
    rfl
  have later := after_found uniqueAddresses hosts req draws 1 (by rw [placed]; rfl)
  intro count
  refine ⟨?_, (draws 0).uuid, ?_⟩
  · rw [Nat.add_comm, (later count).1, port, placed]
    rfl
  · intro earlier _
    cases earlier with
    | zero => exact congrArg Prod.snd first
    | succ before =>
      rw [Nat.add_comm]
      exact (later before).2

theorem idempotent_positive (positive : 0 < req.managementPort)
    (alone : (uuidsAt hosts req.ipAddress (portOf req)).length ≤ 1)
    (fresh : (draws 0).uuid ∉ hosts.rows.map Host.uuid) :
    Idempotent uniqueAddresses hosts req draws := by
  cases placed : uuidsAt hosts req.ipAddress req.managementPort with
  | nil => exact idempotent_inserted positive fresh placed
  | cons uuid rest =>
    have port : portOf req = req.managementPort := if_pos positive
    apply idempotent_found (by rw [placed]; rfl)
    rw [port, placed, List.length_cons] at alone ⊢
    omega

/-- A submission that the look-up misses adds a host where the next one does not
look either. -/
theorem register_grows (nonpositive : ¬ 0 < req.managementPort) {draw : Draw}
    (missing : uuidsAt hosts req.ipAddress req.managementPort = [])
    (answered : (registerHost uniqueAddresses hosts req draw).2 = .ok uuid) :
    uuidsAt (registerHost uniqueAddresses hosts req draw).1 req.ipAddress req.managementPort = [] ∧
      (uuidsAt (registerHost uniqueAddresses hosts req draw).1 req.ipAddress (portOf req)).length =
        (uuidsAt hosts req.ipAddress (portOf req)).length + 1 := by
  have port : portOf req = 8081 := if_neg nonpositive
  rw [register_missing uniqueAddresses hosts req draw missing] at answered ⊢
  split_ifs at answered ⊢ with violates
  dsimp only
  rw [inserted_at, inserted_at, missing, if_pos rfl, List.length_append]
  refine ⟨?_, rfl⟩
  rw [if_neg (by omega)]
  rfl

theorem not_idempotent_missing (nonpositive : ¬ 0 < req.managementPort)
    (missing : uuidsAt hosts req.ipAddress req.managementPort = []) :
    ¬ Idempotent uniqueAddresses hosts req draws := by
  intro idempotent
  obtain ⟨one, uuid, answered⟩ := idempotent 1
  obtain ⟨stillMissing, first⟩ := register_grows nonpositive missing (answered 0 (Nat.zero_le 1))
  obtain ⟨_, second⟩ := register_grows nonpositive stillMissing (answered 1 (Nat.le_refl 1))
  have two : (uuidsAt (hostsAfter uniqueAddresses hosts req draws 2) req.ipAddress
      (portOf req)).length = (uuidsAt hosts req.ipAddress (portOf req)).length + 1 + 1 :=
    second.trans (congrArg (· + 1) first)
  have same := two.symm.trans one
  omega

end Submissions

/-- With at most one host at the address before, submissions are idempotent exactly
when the request gives its port, or the table has hosts with the port that is
looked up and with the port that would be stored. -/
theorem registration_idempotent_iff (uniqueAddresses : Bool) (hosts : Table Host.uuid)
    (req : RegisterRequest) (draws : Nat → Draw)
    (alone : (uuidsAt hosts req.ipAddress (portOf req)).length ≤ 1)
    (fresh : (draws 0).uuid ∉ hosts.rows.map Host.uuid) :
    Idempotent uniqueAddresses hosts req draws ↔
      0 < req.managementPort ∨
        uuidsAt hosts req.ipAddress req.managementPort ≠ [] ∧
          uuidsAt hosts req.ipAddress (portOf req) ≠ [] := by
  constructor
  · intro idempotent
    by_cases positive : 0 < req.managementPort
    · exact Or.inl positive
    · right
      cases found : uuidsAt hosts req.ipAddress req.managementPort with
      | nil => exact absurd idempotent (not_idempotent_missing positive found)
      | cons uuid rest =>
        refine ⟨List.cons_ne_nil _ _, ?_⟩
        intro empty
        have later := after_found uniqueAddresses hosts req draws 0 (by
          rw [hostsAfter, found]
          rfl)
        have one := (idempotent 0).1
        rw [(later 1).1, hostsAfter, empty] at one
        contradiction
  · rintro (positive | ⟨found, occupied⟩)
    · exact idempotent_positive positive alone fresh
    · obtain ⟨uuid, rest, placed⟩ := List.exists_cons_of_ne_nil found
      have one := List.length_pos_iff.mpr occupied
      exact idempotent_found (by rw [placed]; rfl) (by omega)

def noHosts : Table Host.uuid where
  rows := []
  distinct := List.nodup_nil

def agentRequest (managementPort : Int) : RegisterRequest where
  name := "node"
  ipAddress := "10.0.0.1"
  managementPort := managementPort
  cpuCores := 8
  ramMB := 16384
  diskGB := 100

def agentDraws : Nat → Draw
  | 0 => {now := 0, uuid := "first"}
  | _ => {now := 60, uuid := "second"}

theorem given_port_idempotent :
    Idempotent true noHosts (agentRequest 9000) agentDraws :=
  (registration_idempotent_iff true noHosts (agentRequest 9000) agentDraws (by decide)
    (by decide)).mpr (Or.inl (by decide))

/-- Without the port the second submission adds a second host, or fails where
addresses are unique. -/
theorem omitted_port_registered_twice :
    (uuidsAt (hostsAfter false noHosts (agentRequest 0) agentDraws 2) "10.0.0.1" 8081 =
        ["first", "second"] ∧
      response false noHosts (agentRequest 0) agentDraws 0 = .ok "first" ∧
      response false noHosts (agentRequest 0) agentDraws 1 = .ok "second") ∧
    response true noHosts (agentRequest 0) agentDraws 0 = .ok "first" ∧
      response true noHosts (agentRequest 0) agentDraws 1 = .error "failed to register host" := by
  decide

end VcStack.HostRegistrations
