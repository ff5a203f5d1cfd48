import Mathlib.Data.List.Sort
import VcStack.AddressTexts
import VcStack.Ipam

/-!
What Allocate may and must return. Its search goes around the range between the
bounds of the subnet, from a drawn place on and for at most 2048 addresses.
-/

namespace VcStack.AddressAllocation

open NetAddresses AddressTexts Ipam

variable {ip cutoff start draw : Nat} {taken : String → Bool} {text : String}

theorem next_ip_iterate {count : Nat} : nextIP^[count] ip = ip + count := by
  induction count with
  | zero => rfl
  | succ count ih =>
    rw [Function.iterate_succ_apply', ih]
    rfl

/-- The loop of countRange ends before its fuel does. -/
theorem count_from_more {network : IPNet} {more fuel : Nat} (ip count : Nat) (low : count ≤ 2048)
    (enough : 2048 < fuel + count) :
    countFrom network cutoff (fuel + more) ip count = countFrom network cutoff fuel ip count := by
  induction fuel generalizing ip count with
  | zero => omega
  | succ fuel ih =>
    rw [Nat.succ_add, countFrom, countFrom]
    by_cases capped : 2048 < count + 1
    · simp only [capped, if_true]
    · rw [ih (nextIP ip) (count + 1) (by omega) (by omega)]

theorem count_from_usable {network : IPNet} {fuel : Nat} (ip count place : Nat)
    (counted : count + place < countFrom network cutoff fuel ip count) :
    ip + place ≤ cutoff ∧ network.contains (ip + place) = true := by
  induction fuel generalizing ip count place with
  | zero =>
    rw [countFrom] at counted
    omega
  | succ fuel ih =>
    rw [countFrom] at counted
    split_ifs at counted with below inside capped
    · omega
    · cases place with
      | zero => exact ⟨below, inside⟩
      | succ place =>
        have later := ih (nextIP ip) (count + 1) place (by omega)
        rw [nextIP, Nat.add_right_comm, Nat.add_assoc] at later
        exact later
    · omega
    · omega

theorem count_from_eq {network : IPNet} (cutoff fuel ip count : Nat) (low : count ≤ 2048)
    (enough : 2048 < fuel + count)
    (inside : ∀ other, ip ≤ other → other ≤ cutoff → network.contains other = true) :
    countFrom network cutoff fuel ip count = min 2048 (count + (cutoff + 1 - ip)) := by
  induction fuel generalizing ip count with
  | zero => omega
  | succ fuel ih =>
    rw [countFrom]
    split_ifs with below contained capped
    · omega
    · rw [ih (nextIP ip) (count + 1) (by omega) (by omega)
        fun other above => inside other (Nat.le_of_succ_le above)]
      rw [nextIP]
      omega
    · exact absurd (inside ip (Nat.le_refl _) below) contained
    · omega

theorem wrapped_within {curr : Nat} (ordered : start ≤ cutoff) (above : start ≤ curr) :
    start ≤ nextWrapped curr start cutoff ∧ nextWrapped curr start cutoff ≤ cutoff := by
  unfold nextWrapped nextIP
  split_ifs <;> omega

theorem candidate_within {curr : Nat} (count : Nat) (above : start ≤ curr)
    (below : curr ≤ cutoff) :
    start ≤ candidate start cutoff curr count ∧ candidate start cutoff curr count ≤ cutoff := by
  induction count with
  | zero => exact ⟨above, below⟩
  | succ count ih =>
    rw [candidate, Function.iterate_succ_apply']
    exact wrapped_within (Nat.le_trans above below) ih.1

theorem candidate_eq {offset count : Nat} (ordered : start ≤ cutoff)
    (drawn : offset < cutoff + 1 - start) :
    candidate start cutoff (start + offset) count =
      start + (offset + count) % (cutoff + 1 - start) := by
  induction count with
  | zero => rw [Nat.add_zero, Nat.mod_eq_of_lt drawn]; rfl
  | succ count ih =>
    have turn : candidate start cutoff (start + offset) (count + 1) =
        nextWrapped (candidate start cutoff (start + offset) count) start cutoff :=
      Function.iterate_succ_apply' _ _ _
    have inside := Nat.mod_lt (offset + count) (Nat.zero_lt_of_lt drawn)
    rw [turn, ih, nextWrapped, nextIP, ← Nat.add_assoc offset count 1]
    split_ifs with last
    · -- The place before the first one is the last of the range.
      have full : (offset + count) % (cutoff + 1 - start) = cutoff - start := by omega
      rw [Nat.add_mod, full, Nat.add_mod_mod, show cutoff - start + 1 = cutoff + 1 - start by omega,
        Nat.mod_self, Nat.add_zero]
    · rw [Nat.add_mod (offset + count) 1, Nat.add_mod_mod, Nat.mod_eq_of_lt (by omega : _ + 1 < _),
        Nat.add_assoc]

theorem search_none_iff {network : IPNet} {gateway : String} (attempts curr : Nat) :
    search network gateway start cutoff taken attempts curr = none ↔
      ∀ count < attempts, ¬ Free network gateway taken (candidate start cutoff curr count) := by
  constructor
  · intro missed count inside free
    induction attempts generalizing curr count with
    | zero => omega
    | succ attempts ih =>
      by_cases here : Free network gateway taken curr
      · rw [search_free here] at missed
        contradiction
      · rw [search_skip curr here] at missed
        cases count with
        | zero => exact here free
        | succ count => exact ih _ missed count (by omega) free
  · intro used
    induction attempts generalizing curr with
    | zero => rfl
    | succ attempts ih =>
      rw [search_skip curr (used 0 (Nat.succ_pos _))]
      exact ih _ fun count inside => used (count + 1) (Nat.succ_lt_succ inside)

def lastAddress (network : IPNet) : Nat := network.masked + 2 ^ network.host - 1

section Four

variable (network : IPNet) (parsed : Parsed network) (wide : network.bits = 32)

include parsed wide

theorem broadcast_eq : broadcast network = lastAddress network := by
  have size := Nat.two_pow_pos network.host
  have four := (is4_iff _).mp (parsed.four wide)
  have host : 32 - network.ones = network.host := by rw [IPNet.host, wide]
  have divides : 2 ^ network.host ∣ network.ip % 2 ^ 32 := by
    rw [Nat.dvd_mod_iff (Nat.pow_dvd_pow 2 (by omega))]
    exact parsed.aligned
  obtain ⟨blocks, low⟩ := divides
  have joined : network.ip % 2 ^ 32 ||| (2 ^ network.host - 1) =
      network.ip % 2 ^ 32 + (2 ^ network.host - 1) := by
    rw [low, ← Nat.two_pow_add_eq_or_of_lt (Nat.sub_lt size Nat.zero_lt_one)]
  rw [broadcast, host, joined, lastAddress, masked_eq parsed]
  unfold v4Lead at *
  omega

theorem skipped_iff :
    isNetworkOrBroadcast ip network = false ↔ network.contains ip = false ∨
      ip ≠ network.masked ∧ ip ≠ lastAddress network := by
  rw [isNetworkOrBroadcast, broadcast_eq network parsed wide]
  cases inside : network.contains ip with
  | false => simp
  | true =>
    rw [contained_four parsed wide inside]
    simp

end Four

variable (network : IPNet)

theorem first_usable_empty : firstUsableIP network "" = network.masked + 1 := rfl

theorem parse_empty : parseIP "" = none := by decide

theorem bound_read (read : parseIP text = some ip) : text ≠ "" := by
  rintro rfl
  rw [parse_empty] at read
  contradiction

theorem first_usable_set (read : parseIP text = some ip) :
    firstUsableIP network text = ip := by
  simp only [firstUsableIP, if_neg (bound_read read), read]

theorem last_usable_set (read : parseIP text = some ip) :
    lastUsableIP network text = ip := by
  simp only [lastUsableIP, if_neg (bound_read read), read]

theorem drawn_place (draw : Nat) (usable : countRange start cutoff network ≠ 0) :
    start + draw % countRange start cutoff network ≤ cutoff := by
  have inside := Nat.mod_lt draw (Nat.pos_of_ne_zero usable)
  have counted := count_from_usable start 0
    (draw % countRange start cutoff network) (by rw [Nat.zero_add]; exact inside)
  exact counted.1

theorem first_free_within {gateway : String}
    {ip : String}
    (first : FirstFree network gateway start cutoff taken (countRange start cutoff network)
      (nextIP^[draw % countRange start cutoff network] start) ip) :
    ∃ address, start ≤ address ∧ address ≤ cutoff ∧ addressText address = ip ∧
      Free network gateway taken address := by
  obtain ⟨count, inside, text, free, _⟩ := first
  rw [next_ip_iterate] at text free
  have usable : countRange start cutoff network ≠ 0 := by omega
  have within := candidate_within count (Nat.le_add_right _ _) (drawn_place network draw usable)
  exact ⟨_, within.1, within.2, text, free⟩

def Bound (network : IPNet) (text : String) : Prop :=
  text = "" ∨ ∃ ip, parseIP text = some ip ∧ network.contains ip = true

theorem last_usable_empty (parsed : Parsed network) (wide : network.bits = 32) :
    lastUsableIP network "" = lastAddress network - 1 := by
  have four := parsed.four wide
  have low := ((is4_iff _).mp four).1
  have size := Nat.two_pow_pos network.host
  have last : lastAddress network ≠ 0 := by
    rw [lastAddress, masked_eq parsed]
    unfold v4Lead at low
    omega
  simp only [lastUsableIP, if_true, four, broadcast_eq network parsed wide, prevIP, if_neg last]

theorem range_within (parsed : Parsed network) (wide : network.bits = 32) {first last : String}
    (begins : Bound network first) (ends : Bound network last) (ip : Nat)
    (above : firstUsableIP network first ≤ ip) (below : ip ≤ lastUsableIP network last) :
    network.contains ip = true := by
  rw [contains_four_iff parsed wide]
  have size := Nat.two_pow_pos network.host
  constructor
  · rcases begins with rfl | ⟨low, read, inside⟩
    · rw [first_usable_empty, masked_eq parsed] at above
      omega
    · rw [first_usable_set network read] at above
      exact Nat.le_trans ((contains_four_iff parsed wide low).mp inside).1 above
  · rcases ends with rfl | ⟨high, read, inside⟩
    · rw [last_usable_empty network parsed wide, lastAddress, masked_eq parsed] at below
      have low := ((is4_iff _).mp (parsed.four wide)).1
      unfold v4Lead at low
      omega
    · rw [last_usable_set network read] at below
      exact Nat.lt_of_le_of_lt below ((contains_four_iff parsed wide high).mp inside).2

structure Permitted (subnet : Subnet) (network : IPNet) (ip : Nat) : Prop where
  inside : network.contains ip = true
  above : ∀ low, parseIP subnet.allocationStart = some low → low ≤ ip
  below : ∀ high, parseIP subnet.allocationEnd = some high → ip ≤ high
  notNetwork : ip ≠ network.masked
  notBroadcast : ip ≠ lastAddress network
  notGateway : parseIP subnet.gateway ≠ some ip

/-- countRange ends, and Allocate returns only permitted addresses without a row. -/
theorem allocate_sound (subnets : Subnets) (subnet : Subnet) (network : IPNet)
    (allocations : List IPAllocation) (portID : String) (draw : Nat)
    (stored : subnets.byID subnet.id = some subnet)
    (read : parseCIDR subnet.cidr = .ok network) (wide : network.bits = 32)
    (begins : Bound network subnet.allocationStart) (ends : Bound network subnet.allocationEnd)
    (gate : subnet.gateway = "" ∨ ∃ ip, is4 ip = true ∧ subnet.gateway = addressText ip) :
    (∀ more, countFrom network (lastUsableIP network subnet.allocationEnd) (2049 + more)
        (firstUsableIP network subnet.allocationStart) 0 =
      countRange (firstUsableIP network subnet.allocationStart)
        (lastUsableIP network subnet.allocationEnd) network) ∧
    ∀ ip after, allocate subnets allocations subnet.id portID draw = .ok (ip, after) →
      ∃ address, parseIP ip = some address ∧ Permitted subnet network address ∧
        ∀ row ∈ allocations, row.subnetID = subnet.id → row.ip ≠ ip := by
  constructor
  · intro more
    exact count_from_more _ 0 (Nat.zero_le _) (by omega)
  intro ip after done
  have parsed := parse_cidr_parsed read
  obtain ⟨other, found, ⟨again, reread, first⟩, _⟩ :=
    (allocate_ok_iff subnets allocations subnet.id portID draw ip after).mp done
  rw [stored, Option.some.injEq] at found
  subst found
  rw [read, Except.ok.injEq] at reread
  subst reread
  obtain ⟨address, above, below, rfl, free⟩ := first_free_within _ first
  have inside := range_within network parsed wide begins ends address above below
  have four := contained_four parsed wide inside
  refine ⟨address, parse_address_text address four, ?_, ?_⟩
  · have spared := (skipped_iff network parsed wide).mp free.1
    rw [inside] at spared
    have ⟨notNetwork, notBroadcast⟩ := spared.resolve_left Bool.noConfusion
    exact {
      inside := inside
      above := fun low set => first_usable_set network set ▸ above
      below := fun high set => last_usable_set network set ▸ below
      notNetwork := notNetwork
      notBroadcast := notBroadcast
      notGateway := by
        intro same
        have set := bound_read same
        obtain ⟨ip, quad, text⟩ := gate.resolve_left set
        rw [text, parse_address_text ip quad, Option.some.injEq] at same
        rw [← same] at free
        exact free.2.1.resolve_left set text.symm }
  · intro row member owner same
    have untaken := free.2.2
    have taken := allocated_iff.mpr ⟨row, member, owner, same⟩
    rw [untaken] at taken
    contradiction

def smallSubnet : Subnet :=
  {id := "s", cidr := "10.0.0.0/29", gateway := "10.0.0.1", allocationStart := "10.0.0.6",
    allocationEnd := "10.0.0.6"}

/-- The last address that is not the broadcast address is the only one between the bounds. -/
theorem single_address_sound :
    allocate ⟨[smallSubnet], by decide⟩ [] "s" "port" 7 =
      .ok ("10.0.0.6", [{subnetID := "s", ip := "10.0.0.6", portID := "port"}]) ∧
    ∃ address, parseIP "10.0.0.6" = some address ∧
      Permitted smallSubnet ⟨v4Lead + 0x0a000000, 32, 29⟩ address ∧
      ∀ row ∈ ([] : List IPAllocation), row.subnetID = "s" → row.ip ≠ "10.0.0.6" := by
  have done : allocate ⟨[smallSubnet], by decide⟩ [] "s" "port" 7 =
      .ok ("10.0.0.6", [{subnetID := "s", ip := "10.0.0.6", portID := "port"}]) := by
    decide +kernel
  have sound := allocate_sound ⟨[smallSubnet], by decide⟩ smallSubnet ⟨v4Lead + 0x0a000000, 32, 29⟩
    [] "port" 7 (by decide) (by decide) rfl
    (Or.inr ⟨v4Lead + 0x0a000006, by decide, by decide⟩)
    (Or.inr ⟨v4Lead + 0x0a000006, by decide, by decide⟩)
    (Or.inr ⟨v4Lead + 0x0a000001, by decide, by decide⟩)
  exact ⟨done, sound.2 _ _ done⟩

structure SubnetRequest where
  name : String
  networkID : String
  cidr : String
  gateway : String := ""
  deriving DecidableEq

inductive SubnetFailure where
  | unbound
  | answer (status : Nat) (error : String)
  deriving DecidableEq

def insertSubnet (subnets : Subnets) (row : Subnet) (fresh : row.id ∉ subnets.rows.map (·.id)) :
    Subnets where
  rows := subnets.rows.orderedInsert (fun left right => left.id ≤ right.id) row
  distinct := by
    have order := (List.perm_orderedInsert (fun left right : Subnet => left.id ≤ right.id) row
      subnets.rows).map (·.id)
    rw [order.nodup_iff, List.map_cons, List.nodup_cons]
    exact ⟨fresh, subnets.distinct⟩

/-- `id` is what uuid.New gives; the primary key refuses one that is in use. -/
def createSubnet (subnets : Subnets) (req : SubnetRequest) (id : String) :
    Except SubnetFailure (Subnet × Subnets) :=
  if req.name = "" ∨ req.networkID = "" ∨ req.cidr = "" then .error .unbound
  else match parseCIDR req.cidr with
    | .error _ => .error (.answer 400 "invalid CIDR")
    | .ok _ =>
      let sn : Subnet := {
        id := id
        networkID := req.networkID
        cidr := req.cidr
        gateway := req.gateway }
      if fresh : sn.id ∉ subnets.rows.map (·.id) then .ok (sn, insertSubnet subnets sn fresh)
      else .error (.answer 500 "database error")

structure Assignable (subnet : Subnet) (network : IPNet) (ip : Nat) : Prop where
  inside : network.contains ip = true
  notNetwork : ip ≠ network.masked
  notBroadcast : is4 network.ip = true → ip ≠ lastAddress network
  notGateway : parseIP subnet.gateway ≠ some ip

/-- Allocate fails only when every assignable address has a row. -/
def Complete (subnet : Subnet) (network : IPNet) : Prop :=
  ∀ (subnets : Subnets) (allocations : List IPAllocation) (portID : String) (draw : Nat)
    (error : AllocateError), subnets.byID subnet.id = some subnet →
    allocate subnets allocations subnet.id portID draw = .error error →
    ∀ ip, Assignable subnet network ip → allocated allocations subnet.id (addressText ip) = true

theorem created_row {subnets after : Subnets} {req : SubnetRequest} {id : String} {row : Subnet}
    (created : createSubnet subnets req id = .ok (row, after)) :
    row.allocationStart = "" ∧ row.allocationEnd = "" := by
  unfold createSubnet at created
  split_ifs at created
  split at created
  · contradiction
  · dsimp only at created
    split_ifs at created
    cases created
    exact ⟨rfl, rfl⟩

section Created

variable (row : Subnet) (network : IPNet) (read : parseCIDR row.cidr = .ok network)
  (noStart : row.allocationStart = "") (noEnd : row.allocationEnd = "")

def Exhausted (row : Subnet) (network : IPNet) (allocations : List IPAllocation) (draw : Nat) :
    Prop :=
  let start := firstUsableIP network ""
  let cutoff := lastUsableIP network ""
  let totalUsable := countRange start cutoff network
  ∀ count < totalUsable, ¬ Free network row.gateway (allocated allocations row.id)
    (candidate start cutoff (start + draw % totalUsable) count)

include read noStart noEnd

theorem allocate_fails_iff (subnets : Subnets) (stored : subnets.byID row.id = some row)
    (allocations : List IPAllocation) (portID : String) (draw : Nat) :
    (∃ error, allocate subnets allocations row.id portID draw = .error error) ↔
      Exhausted row network allocations draw := by
  unfold allocate Exhausted
  simp only [stored, read, noStart, noEnd, next_ip_iterate, ← search_none_iff]
  split
  · rename_i empty
    simp [empty, search]
  · split
    · rename_i missed
      simp [missed]
    · rename_i hit
      simp [hit]

theorem complete_iff :
    Complete row network ↔ ∀ allocations draw, Exhausted row network allocations draw →
      ∀ ip, Assignable row network ip → allocated allocations row.id (addressText ip) = true := by
  constructor
  · intro complete allocations draw exhausted
    let subnets : Subnets := ⟨[row], List.nodup_singleton _⟩
    have stored : subnets.byID row.id = some row := by_id_of_mem List.mem_cons_self
    have fails := allocate_fails_iff row network read noStart noEnd subnets stored allocations "" draw
    obtain ⟨error, failed⟩ := fails.mpr exhausted
    exact complete subnets allocations "" draw error stored failed
  · intro covered subnets allocations portID draw error stored failed
    have fails := allocate_fails_iff row network read noStart noEnd subnets stored allocations portID draw
    exact covered allocations draw (fails.mp ⟨error, failed⟩)

end Created

theorem around (size offset target : Nat) (here : offset < size) (there : target < size) :
    ∃ count < size, (offset + count) % size = target := by
  by_cases ahead : offset ≤ target
  · exact ⟨target - offset, by omega, by rw [Nat.add_sub_cancel' ahead, Nat.mod_eq_of_lt there]⟩
  · refine ⟨target + size - offset, by omega, ?_⟩
    rw [show offset + (target + size - offset) = target + size by omega, Nat.add_mod_right,
      Nat.mod_eq_of_lt there]

theorem assignable_taken {row : Subnet} {network : IPNet}
    (assignable : Assignable row network ip) (written : parseIP (addressText ip) = some ip)
    (spared : isNetworkOrBroadcast ip network = false)
    (used : ¬ Free network row.gateway taken ip) : taken (addressText ip) = true := by
  rw [← Bool.not_eq_false]
  intro untaken
  apply used
  refine ⟨spared, Or.inr ?_, untaken⟩
  intro same
  apply assignable.notGateway
  rw [← same, written]

theorem assignable_of_two {row : Subnet} {network : IPNet} (left right : Nat)
    (differ : left ≠ right)
    (spared : ∀ ip, ip = left ∨ ip = right → network.contains ip = true ∧ ip ≠ network.masked ∧
      (is4 network.ip = true → ip ≠ lastAddress network)) :
    ∃ ip, (ip = left ∨ ip = right) ∧ Assignable row network ip := by
  have grant (ip : Nat) (one : ip = left ∨ ip = right) (gateway : parseIP row.gateway ≠ some ip) :
      ∃ ip, (ip = left ∨ ip = right) ∧ Assignable row network ip :=
    ⟨ip, one, (spared ip one).1, (spared ip one).2.1, (spared ip one).2.2, gateway⟩
  by_cases gateway : parseIP row.gateway = some left
  · apply grant right (Or.inr rfl)
    rw [gateway]
    exact fun same => differ (Option.some.inj same)
  · exact grant left (Or.inl rfl) gateway

section FourRange

variable (row : Subnet) (network : IPNet) (parsed : Parsed network) (wide : network.bits = 32)

include parsed wide

theorem usable_range : countRange (firstUsableIP network "") (lastUsableIP network "") network =
    min 2048 (2 ^ network.host - 2) := by
  have size := Nat.two_pow_pos network.host
  have inside := range_within network parsed wide (Or.inl rfl) (Or.inl rfl)
  rw [countRange, count_from_eq _ 2049 _ 0 (Nat.zero_le _) (by omega) inside,
    last_usable_empty network parsed wide, first_usable_empty, lastAddress]
  omega

theorem assignable_range (assignable : Assignable row network ip) :
    firstUsableIP network "" ≤ ip ∧ ip ≤ lastUsableIP network "" := by
  have inside := (contains_four_iff parsed wide ip).mp assignable.inside
  have notNetwork := assignable.notNetwork
  have notBroadcast := assignable.notBroadcast (parsed.four wide)
  rw [first_usable_empty, last_usable_empty network parsed wide]
  rw [lastAddress] at notBroadcast ⊢
  rw [masked_eq parsed] at *
  omega

theorem exhausted_covers (long : 21 ≤ network.ones) {allocations : List IPAllocation}
    (exhausted : Exhausted row network allocations draw)
    (assignable : Assignable row network ip) :
    allocated allocations row.id (addressText ip) = true := by
  have short : 2 ^ network.host ≤ 2 ^ 11 :=
    Nat.pow_le_pow_right (by decide) (by rw [IPNet.host]; omega)
  obtain ⟨above, below⟩ := assignable_range row network parsed wide assignable
  have total := usable_range network parsed wide
  have length : min 2048 (2 ^ network.host - 2) =
      lastUsableIP network "" + 1 - firstUsableIP network "" := by
    rw [last_usable_empty network parsed wide, first_usable_empty, lastAddress]
    omega
  rw [length] at total
  unfold Exhausted at exhausted
  dsimp only at exhausted
  rw [total] at exhausted
  obtain ⟨count, early, place⟩ := around _ _ (ip - firstUsableIP network "")
    (Nat.mod_lt draw (by omega : 0 < lastUsableIP network "" + 1 - firstUsableIP network ""))
    (by omega)
  have used := exhausted count early
  rw [candidate_eq (Nat.le_trans above below) (Nat.mod_lt _ (by omega)), place,
    Nat.add_sub_cancel' above] at used
  have four := contained_four parsed wide assignable.inside
  have spared := (skipped_iff network parsed wide).mpr
    (Or.inr ⟨assignable.notNetwork, assignable.notBroadcast (parsed.four wide)⟩)
  exact assignable_taken assignable (parse_address_text ip four) spared used

def firstTaken (subnetID : String) (start : Nat) : List IPAllocation :=
  (List.range 2048).map fun place => ⟨subnetID, addressText (start + place), ""⟩

omit parsed wide in
theorem first_taken_iff (subnetID : String) (start : Nat) (ip : String) :
    allocated (firstTaken subnetID start) subnetID ip = true ↔
      ∃ place < 2048, addressText (start + place) = ip := by
  rw [allocated_iff]
  simp [firstTaken]

theorem first_taken_exhausted (short : network.ones < 21) :
    Exhausted row network (firstTaken row.id (firstUsableIP network "")) 0 := by
  have long : 2 ^ 12 ≤ 2 ^ network.host :=
    Nat.pow_le_pow_right (by decide) (by rw [IPNet.host]; omega)
  have length : lastUsableIP network "" + 1 - firstUsableIP network "" = 2 ^ network.host - 2 := by
    rw [last_usable_empty network parsed wide, first_usable_empty, lastAddress]
    omega
  unfold Exhausted
  dsimp only
  rw [usable_range network parsed wide]
  intro count early free
  have place : candidate (firstUsableIP network "") (lastUsableIP network "")
      (firstUsableIP network "" + 0) count = firstUsableIP network "" + count := by
    rw [candidate_eq (by omega) (by omega), Nat.zero_add, Nat.mod_eq_of_lt (by omega)]
  rw [Nat.zero_mod, place] at free
  have taken := (first_taken_iff row.id (firstUsableIP network "") _).mpr ⟨count, by omega, rfl⟩
  rw [free.2.2] at taken
  contradiction

theorem short_incomplete (short : network.ones < 21) :
    ∃ ip, Assignable row network ip ∧ allocated (firstTaken row.id (firstUsableIP network ""))
      row.id (addressText ip) = false := by
  have long : 2 ^ 12 ≤ 2 ^ network.host :=
    Nat.pow_le_pow_right (by decide) (by rw [IPNet.host]; omega)
  have block := contains_four_iff parsed wide
  have start : firstUsableIP network "" = network.ip + 1 := by
    rw [first_usable_empty, masked_eq parsed]
  obtain ⟨ip, one, assignable⟩ := assignable_of_two (network.ip + 2049)
    (network.ip + 2050) (by omega) (by
      intro ip one
      rw [block, lastAddress, masked_eq parsed]
      omega)
  refine ⟨ip, assignable, ?_⟩
  rw [← Bool.not_eq_true, first_taken_iff]
  rintro ⟨place, early, same⟩
  have inside : network.contains (network.ip + 1 + place) = true := by
    rw [block]
    omega
  rw [start] at same
  have equal := address_text_inj (contained_four parsed wide inside)
    (contained_four parsed wide assignable.inside) same
  omega

end FourRange

section SixRange

variable (row : Subnet) (network : IPNet) (parsed : Parsed network)

include parsed

/-- The mask of 128 bits has no zero in its first four bytes when the network is
an IPv4-mapped one. -/
theorem mapped_broadcast (wide : network.bits = 128) (four : is4 network.ip = true) :
    broadcast network = network.ip := by
  have mapped := (is4_iff _).mp four
  have long : 32 ≤ network.ones := by
    by_contra short
    have coarse : 2 ^ 97 ∣ network.ip :=
      Nat.dvd_trans (Nat.pow_dvd_pow 2 (by rw [IPNet.host]; omega)) parsed.aligned
    obtain ⟨blocks, value⟩ := coarse
    unfold v4Lead at mapped
    omega
  rw [broadcast, Nat.sub_eq_zero_of_le long, Nat.pow_zero, Nat.sub_self, Nat.or_zero]
  unfold v4Lead at *
  omega

theorem six_range_empty (wide : network.bits = 128) (apart : network.ip ≠ 0) :
    countRange (firstUsableIP network "") (lastUsableIP network "") network = 0 := by
  have last : lastUsableIP network "" = network.ip - 1 := by
    simp only [lastUsableIP, if_true]
    split_ifs with four
    · rw [mapped_broadcast network parsed wide four, prevIP, if_neg apart]
    · rw [masked_eq parsed, prevIP, if_neg apart]
  rw [last, first_usable_empty, masked_eq parsed, countRange, countFrom, if_neg (by omega)]

theorem zero_range (zero : network.ip = 0) (inside : network.contains 1 = true) :
    firstUsableIP network "" = 1 ∧ lastUsableIP network "" = 1 ∧ countRange 1 1 network = 1 := by
  have six : is4 network.ip = false := by
    rw [zero]
    decide
  have masked : network.masked = 0 := by rw [masked_eq parsed, zero]
  refine ⟨by rw [first_usable_empty, masked], ?_, ?_⟩
  · simp only [lastUsableIP, if_true, six, Bool.false_eq_true, if_false, masked, prevIP]
  · rw [countRange, countFrom, if_pos (Nat.le_refl _), if_pos inside, if_neg (by decide), countFrom,
      if_neg (by decide)]

theorem zero_covers (zero : network.ip = 0) {allocations : List IPAllocation}
    (exhausted : Exhausted row network allocations draw) (assignable : Assignable row network 1) :
    allocated allocations row.id (addressText 1) = true := by
  have ⟨start, cutoff, total⟩ := zero_range network parsed zero assignable.inside
  unfold Exhausted at exhausted
  rw [start, cutoff] at exhausted
  dsimp only at exhausted
  rw [total, Nat.mod_one] at exhausted
  have spared : isNetworkOrBroadcast 1 network = false := by
    rw [isNetworkOrBroadcast, masked_eq parsed, zero]
    simp [is4]
  exact assignable_taken assignable (by decide) spared (exhausted 0 Nat.zero_lt_one)

theorem zero_incomplete (zero : network.ip = 0) (assignable : Assignable row network ip)
    (other : ip ≠ 1) :
    Exhausted row network [⟨row.id, "::1", ""⟩] 0 ∧ ∃ ip, Assignable row network ip ∧
      allocated [⟨row.id, "::1", ""⟩] row.id (addressText ip) = false := by
  have six : is4 network.ip = false := by
    rw [zero]
    decide
  have masked : network.masked = 0 := by rw [masked_eq parsed, zero]
  have block (ip : Nat) : network.contains ip = true ↔ is4 ip = false ∧ ip < 2 ^ network.host := by
    rw [contains_iff parsed, six, zero, Nat.zero_add]
    simp
  have room : 2 ≤ network.host := by
    have inside := ((block ip).mp assignable.inside).2
    have notNetwork := assignable.notNetwork
    by_contra narrow
    have size : 2 ^ network.host ≤ 2 ^ 1 := Nat.pow_le_pow_right (by decide) (by omega)
    omega
  have four : 2 ^ 2 ≤ 2 ^ network.host := Nat.pow_le_pow_right (by decide) room
  have first : network.contains 1 = true := (block 1).mpr ⟨by decide, by omega⟩
  constructor
  · have ⟨start, cutoff, total⟩ := zero_range network parsed zero first
    unfold Exhausted
    rw [start, cutoff]
    dsimp only
    rw [total, Nat.mod_one]
    intro count early free
    have place : count = 0 := by omega
    rw [place] at free
    have taken : allocated [⟨row.id, "::1", ""⟩] row.id (addressText 1) = true := by
      rw [allocated_iff]
      exact ⟨_, List.mem_cons_self, rfl, (by decide : "::1" = addressText 1)⟩
    have untaken := free.2.2
    change allocated _ row.id (addressText 1) = false at untaken
    rw [taken] at untaken
    contradiction
  · obtain ⟨next, one, assignable⟩ := assignable_of_two 2 3 (by decide) (by
      intro ip one
      have text : is4 ip = false := by rcases one with rfl | rfl <;> decide
      rw [block, masked, six]
      exact ⟨⟨text, by omega⟩, by omega, fun absurd => Bool.noConfusion absurd⟩)
    refine ⟨next, assignable, ?_⟩
    rw [← Bool.not_eq_true, allocated_iff]
    rintro ⟨taken, member, _, same⟩
    rw [List.mem_singleton] at member
    rw [member] at same
    rcases one with rfl | rfl
    · exact absurd same (by decide : "::1" ≠ addressText 2)
    · exact absurd same (by decide : "::1" ≠ addressText 3)

end SixRange

/-- Completeness holds of the IPv4 subnets of at most 2048 addresses, and of no
other one that has an address to assign but the ::1 of a network of zeros. -/
theorem allocate_complete_iff (subnets after : Subnets) (req : SubnetRequest) (id : String)
    (row : Subnet) (network : IPNet)
    (created : createSubnet subnets req id = .ok (row, after))
    (read : parseCIDR row.cidr = .ok network) :
    Complete row network ↔ network.bits = 32 ∧ 21 ≤ network.ones ∨
      ∀ ip, Assignable row network ip → network.ip = 0 ∧ ip = 1 := by
  have parsed := parse_cidr_parsed read
  have ⟨noStart, noEnd⟩ := created_row created
  rw [complete_iff row network read noStart noEnd]
  constructor
  · intro complete
    rcases parsed.width with wide | wide
    · by_cases long : 21 ≤ network.ones
      · exact Or.inl ⟨wide, long⟩
      · have short := Nat.lt_of_not_le long
        obtain ⟨ip, assignable, untaken⟩ := short_incomplete row network parsed wide short
        have exhausted := first_taken_exhausted row network parsed wide short
        rw [complete _ 0 exhausted ip assignable] at untaken
        contradiction
    · right
      intro ip assignable
      by_cases zero : network.ip = 0
      · refine ⟨zero, ?_⟩
        by_contra other
        obtain ⟨exhausted, next, assignable, untaken⟩ :=
          zero_incomplete row network parsed zero assignable other
        rw [complete _ 0 exhausted next assignable] at untaken
        contradiction
      · have exhausted : Exhausted row network [] 0 := by
          intro count early
          rw [six_range_empty network parsed wide zero] at early
          contradiction
        have taken := complete [] 0 exhausted ip assignable
        contradiction
  · rintro (⟨wide, long⟩ | few) allocations draw exhausted ip assignable
    · exact exhausted_covers row network parsed wide long exhausted assignable
    · obtain ⟨zero, rfl⟩ := few ip assignable
      exact zero_covers row network parsed zero exhausted assignable

def request (cidr : String) : SubnetRequest := {name := "net", networkID := "n", cidr := cidr}

def noSubnets : Subnets := ⟨[], List.nodup_nil⟩

def created (cidr : String) : Subnet := {id := "s", networkID := "n", cidr := cidr}

theorem short_range_complete :
    createSubnet noSubnets (request "10.0.0.0/21") "s" =
      .ok (created "10.0.0.0/21", ⟨[created "10.0.0.0/21"], List.nodup_singleton _⟩) ∧
    Complete (created "10.0.0.0/21") ⟨v4Lead + 0x0a000000, 32, 21⟩ := by
  have made : createSubnet noSubnets (request "10.0.0.0/21") "s" =
      .ok (created "10.0.0.0/21", ⟨[created "10.0.0.0/21"], List.nodup_singleton _⟩) := by
    decide
  refine ⟨made, ?_⟩
  exact (allocate_complete_iff _ _ _ _ _ ⟨v4Lead + 0x0a000000, 32, 21⟩ made (by decide)).mpr
    (Or.inl (by decide))

def sixNetwork : IPNet := ⟨0x20010db8 * 2 ^ 96, 128, 64⟩

/-- An IPv6 subnet gives no address away, and an IPv4 subnet of 4096 addresses is
full when the first 2048 of its range have rows and the search begins with them. -/
theorem allocation_gives_up :
    (createSubnet noSubnets (request "2001:db8::/64") "s" =
        .ok (created "2001:db8::/64", ⟨[created "2001:db8::/64"], List.nodup_singleton _⟩) ∧
      allocate ⟨[created "2001:db8::/64"], List.nodup_singleton _⟩ [] "s" "port" 0 =
        .error .noUsable ∧
      parseCIDR "2001:db8::/64" = .ok sixNetwork ∧
      Assignable (created "2001:db8::/64") sixNetwork (sixNetwork.ip + 1)) ∧
    (createSubnet noSubnets (request "10.0.0.0/20") "s" =
        .ok (created "10.0.0.0/20", ⟨[created "10.0.0.0/20"], List.nodup_singleton _⟩) ∧
      parseCIDR "10.0.0.0/20" = .ok ⟨v4Lead + 0x0a000000, 32, 20⟩ ∧
      (∃ error, allocate ⟨[created "10.0.0.0/20"], List.nodup_singleton _⟩
        (firstTaken "s" (v4Lead + 0x0a000001)) "s" "port" 0 = .error error) ∧
      ∃ ip, Assignable (created "10.0.0.0/20") ⟨v4Lead + 0x0a000000, 32, 20⟩ ip ∧
        allocated (firstTaken "s" (v4Lead + 0x0a000001)) "s" (addressText ip) = false) := by
  constructor
  · refine ⟨by decide, by decide +kernel, by decide, ?_⟩
    exact ⟨by decide, by decide, by decide, by decide⟩
  · have read : parseCIDR (created "10.0.0.0/20").cidr = .ok ⟨v4Lead + 0x0a000000, 32, 20⟩ := by
      decide
    have parsed := parse_cidr_parsed read
    have fails := allocate_fails_iff (created "10.0.0.0/20") _ read rfl rfl
      ⟨[created "10.0.0.0/20"], List.nodup_singleton _⟩ (by decide)
      (firstTaken "s" (v4Lead + 0x0a000001)) "port" 0
    have short : (⟨v4Lead + 0x0a000000, 32, 20⟩ : IPNet).ones < 21 := by decide
    exact ⟨by decide, read, fails.mpr (first_taken_exhausted _ _ parsed rfl short),
      short_incomplete _ _ parsed rfl short⟩

end VcStack.AddressAllocation
