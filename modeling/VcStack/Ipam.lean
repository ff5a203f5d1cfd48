import Mathlib.Data.List.Nodup
import Mathlib.Logic.Function.Iterate
import VcStack.NetAddresses

/-!
The address allocation of internal/management/network/ipam.go. The eight random
bytes of Allocate are the argument `draw`. The rows of a table are listed in the
order of their primary keys, the order in which `First` looks for one. Row ids
and creation times of allocations are left out.
-/

namespace VcStack.Ipam

open NetAddresses

structure Subnet where
  id : String := ""
  networkID : String := ""
  cidr : String := ""
  gateway : String := ""
  allocationStart : String := ""
  allocationEnd : String := ""
  deriving DecidableEq

structure Subnets where
  rows : List Subnet
  distinct : (rows.map (·.id)).Nodup
  deriving DecidableEq

def Subnets.byID (subnets : Subnets) (id : String) : Option Subnet :=
  subnets.rows.find? (·.id == id)

def Subnets.byNetwork (subnets : Subnets) (networkID : String) : Option Subnet :=
  subnets.rows.find? (·.networkID == networkID)

variable {subnet : Subnet} {ip : String}

theorem by_id_of_mem {subnets : Subnets} (member : subnet ∈ subnets.rows) :
    subnets.byID subnet.id = some subnet := by
  cases found : subnets.byID subnet.id with
  | none =>
    have absent := List.find?_eq_none.mp found subnet member
    simp at absent
  | some other =>
    have same : other.id = subnet.id := by simpa using List.find?_some found
    have there := List.mem_of_find?_eq_some found
    rw [List.inj_on_of_nodup_map subnets.distinct there member same]

structure IPAllocation where
  subnetID : String
  ip : String
  portID : String
  deriving DecidableEq

/-- The successor of the highest address has 17 bytes: no network contains it
and it is never reached below a cutoff. -/
def nextIP (ip : Nat) : Nat := ip + 1

/-- The bytes of a big integer are those of its absolute value. -/
def prevIP (ip : Nat) : Nat := if ip = 0 then 1 else ip - 1

/-- `n.IP.To4()[i] | ^n.Mask[i]` for the first four bytes of the mask -/
def broadcast (network : IPNet) : Nat :=
  v4Lead + (network.ip % 2 ^ 32 ||| (2 ^ (32 - network.ones) - 1))

def firstUsableIP (network : IPNet) (start : String) : Nat :=
  match if start = "" then none else parseIP start with
  | some ip => ip
  | none => nextIP network.masked

def lastUsableIP (network : IPNet) (cutoff : String) : Nat :=
  match if cutoff = "" then none else parseIP cutoff with
  | some ip => ip
  | none =>
    if is4 network.ip then prevIP (broadcast network)
    else prevIP network.masked

def isNetworkOrBroadcast (ip : Nat) (network : IPNet) : Bool :=
  network.contains ip && (ip == network.masked || is4 ip && ip == broadcast network)

def nextWrapped (curr start cutoff : Nat) : Nat :=
  if cutoff ≤ curr then start else nextIP curr

/-- The loop of countRange; the count leaves it at the latest when it passes 2048. -/
def countFrom (network : IPNet) (cutoff : Nat) : Nat → Nat → Nat → Nat
  | 0, _, count => count
  | fuel + 1, ip, count =>
    if ip ≤ cutoff then
      if network.contains ip then
        if 2048 < count + 1 then 2048
        else countFrom network cutoff fuel (nextIP ip) (count + 1)
      else count
    else count

def countRange (start cutoff : Nat) (network : IPNet) : Nat :=
  countFrom network cutoff 2049 start 0

section Search

variable (network : IPNet) (gateway : String) (start cutoff : Nat) (taken : String → Bool)

def search : Nat → Nat → Option String
  | 0, _ => none
  | attempts + 1, curr =>
    let ipStr := addressText curr
    if isNetworkOrBroadcast curr network || (gateway != "" && ipStr == gateway) then
      search attempts (nextWrapped curr start cutoff)
    else if taken ipStr then search attempts (nextWrapped curr start cutoff)
    else some ipStr

def Free (ip : Nat) : Prop :=
  isNetworkOrBroadcast ip network = false ∧ (gateway = "" ∨ addressText ip ≠ gateway) ∧
    taken (addressText ip) = false

def candidate (curr count : Nat) : Nat := (nextWrapped · start cutoff)^[count] curr

def FirstFree (attempts curr : Nat) (ip : String) : Prop :=
  ∃ count < attempts, addressText (candidate start cutoff curr count) = ip ∧
    Free network gateway taken (candidate start cutoff curr count) ∧
    ∀ earlier < count, ¬ Free network gateway taken (candidate start cutoff curr earlier)

variable {network gateway start cutoff taken}

theorem search_skip {attempts : Nat} (curr : Nat) (used : ¬ Free network gateway taken curr) :
    search network gateway start cutoff taken (attempts + 1) curr =
      search network gateway start cutoff taken attempts (nextWrapped curr start cutoff) := by
  rw [search]
  by_cases reserved : (isNetworkOrBroadcast curr network ||
      (gateway != "" && addressText curr == gateway)) = true
  · rw [if_pos reserved]
  · rw [if_neg reserved]
    have held : taken (addressText curr) = true := by
      simp only [Bool.or_eq_true, Bool.and_eq_true, bne_iff_ne, beq_iff_eq, not_or, not_and] at reserved
      rw [← Bool.not_eq_false]
      intro free
      apply used
      refine ⟨eq_false_of_ne_true reserved.1, ?_, free⟩
      by_cases none : gateway = ""
      · exact Or.inl none
      · exact Or.inr (reserved.2 none)
    rw [if_pos held]

theorem search_free {attempts curr : Nat} (free : Free network gateway taken curr) :
    search network gateway start cutoff taken (attempts + 1) curr = some (addressText curr) := by
  obtain ⟨inner, gate, unused⟩ := free
  have passes : (gateway != "" && addressText curr == gateway) = false := by
    rcases gate with none | other
    · simp [none]
    · simp [other]
  simp [search, inner, passes, unused]

theorem search_some_iff (attempts curr : Nat) :
    search network gateway start cutoff taken attempts curr = some ip ↔
      FirstFree network gateway start cutoff taken attempts curr ip := by
  induction attempts generalizing curr with
  | zero => simp [search, FirstFree]
  | succ attempts ih =>
    by_cases free : Free network gateway taken curr
    · rw [search_free free]
      constructor
      · intro found
        cases found
        exact ⟨0, Nat.succ_pos _, rfl, free, fun earlier below => absurd below (Nat.not_lt_zero _)⟩
      · rintro ⟨count, _, text, _, before⟩
        cases count with
        | zero => exact congrArg some text
        | succ count => exact absurd free (before 0 (Nat.succ_pos _))
    · rw [search_skip curr free, ih]
      constructor
      · rintro ⟨count, inside, text, here, before⟩
        refine ⟨count + 1, Nat.succ_lt_succ inside, text, here, ?_⟩
        intro earlier below
        cases earlier with
        | zero => exact free
        | succ earlier => exact before earlier (Nat.lt_of_succ_lt_succ below)
      · rintro ⟨count, inside, text, here, before⟩
        cases count with
        | zero => exact absurd here free
        | succ count =>
          refine ⟨count, Nat.lt_of_succ_lt_succ inside, text, here, ?_⟩
          intro earlier below
          exact before (earlier + 1) (Nat.succ_lt_succ below)

end Search

inductive AllocateError where
  | noSubnet
  | invalidCIDR (cidr detail : String)
  | noUsable
  | full (subnetID : String)
  deriving DecidableEq

def AllocateError.text : AllocateError → String
  | .noSubnet => "failed to acquire lock on subnet: record not found"
  | .invalidCIDR cidr detail => "invalid CIDR " ++ cidr ++ ": " ++ detail
  | .noUsable => "no usable IPs in range"
  | .full subnetID => "subnet " ++ subnetID ++ " is full"

def allocated (allocations : List IPAllocation) (subnetID ip : String) : Bool :=
  allocations.any fun row => row.subnetID == subnetID && row.ip == ip

def allocate (subnets : Subnets) (allocations : List IPAllocation) (subnetID portID : String)
    (draw : Nat) : Except AllocateError (String × List IPAllocation) :=
  match subnets.byID subnetID with
  | none => .error .noSubnet
  | some subnet =>
    match parseCIDR subnet.cidr with
    | .error detail => .error (.invalidCIDR subnet.cidr detail)
    | .ok network =>
      let start := firstUsableIP network subnet.allocationStart
      let cutoff := lastUsableIP network subnet.allocationEnd
      let totalUsable := countRange start cutoff network
      if totalUsable = 0 then .error .noUsable
      else
        let curr := nextIP^[draw % totalUsable] start
        match search network subnet.gateway start cutoff (allocated allocations subnet.id)
            totalUsable curr with
        | none => .error (.full subnet.id)
        | some ip =>
          .ok (ip, allocations ++ [{subnetID := subnet.id, ip := ip, portID := portID}])

def release (allocations : List IPAllocation) (subnetID ip : String) : List IPAllocation :=
  allocations.filter fun row => !(row.subnetID == subnetID && row.ip == ip)

/-- The first address without an allocation that the search meets in the
subnet's range when it starts at the drawn place. -/
def FirstFreeAddress (subnet : Subnet) (taken : String → Bool) (draw : Nat) (ip : String) : Prop :=
  ∃ network, parseCIDR subnet.cidr = .ok network ∧
    let start := firstUsableIP network subnet.allocationStart
    let cutoff := lastUsableIP network subnet.allocationEnd
    let totalUsable := countRange start cutoff network
    FirstFree network subnet.gateway start cutoff taken totalUsable
      (nextIP^[draw % totalUsable] start) ip

theorem first_free_address_untaken {taken : String → Bool} {draw : Nat}
    (first : FirstFreeAddress subnet taken draw ip) : taken ip = false := by
  obtain ⟨network, _, count, _, text, free, _⟩ := first
  rw [← text]
  exact free.2.2

theorem first_free_address_unique {taken : String → Bool} {draw : Nat}
    {left right : String} (first : FirstFreeAddress subnet taken draw left)
    (second : FirstFreeAddress subnet taken draw right) : left = right := by
  obtain ⟨network, parsed, first⟩ := first
  obtain ⟨other, reparsed, second⟩ := second
  rw [parsed] at reparsed
  cases reparsed
  have found := (search_some_iff _ _).mpr first
  rw [(search_some_iff _ _).mpr second] at found
  cases found
  rfl

theorem allocate_ok_iff (subnets : Subnets) (allocations : List IPAllocation)
    (subnetID portID : String) (draw : Nat) (ip : String) (after : List IPAllocation) :
    allocate subnets allocations subnetID portID draw = .ok (ip, after) ↔
      ∃ subnet, subnets.byID subnetID = some subnet ∧
        FirstFreeAddress subnet (allocated allocations subnetID) draw ip ∧
        after = allocations ++ [{subnetID := subnetID, ip := ip, portID := portID}] := by
  unfold allocate
  cases found : subnets.byID subnetID with
  | none => simp
  | some subnet =>
    have same : subnet.id = subnetID := by simpa using List.find?_some found
    subst same
    cases parsed : parseCIDR subnet.cidr with
    | error detail => simp [FirstFreeAddress, parsed]
    | ok network =>
      simp only [Option.some.injEq, exists_eq_left', FirstFreeAddress, parsed, Except.ok.injEq,
        ← search_some_iff]
      split
      · rename_i empty
        simp [empty, search]
      · split
        · rename_i missed
          simp [missed]
        · rename_i text hit
          simp only [Except.ok.injEq, Prod.mk.injEq, hit, Option.some.injEq]
          constructor
          · rintro ⟨rfl, rfl⟩
            exact ⟨rfl, rfl⟩
          · rintro ⟨rfl, rfl⟩
            exact ⟨rfl, rfl⟩

theorem allocated_iff {allocations : List IPAllocation} {subnetID : String} :
    allocated allocations subnetID ip = true ↔
      ∃ row ∈ allocations, row.subnetID = subnetID ∧ row.ip = ip := by
  simp [allocated]

end VcStack.Ipam
