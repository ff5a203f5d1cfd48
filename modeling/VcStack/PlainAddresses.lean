import VcStack.AddressTexts
import VcStack.PolicyConditions

/-!
Addresses without a mask in the conditions on the source address. The source
calls them a shorthand for the network of the one host; ipInCIDR compares them
as texts, so they stand for one spelling of the address.
-/

namespace VcStack.PlainAddresses

open Text PolicyValues PolicyConditions NetAddresses AddressTexts

def addressBytes (ip : Nat) : List UInt8 := (places 256 16 ip).map UInt8.ofNat

def bytesValue (bytes : List UInt8) : Nat := number (bytes.map UInt8.toNat) 256

def netLibrary (lib : GoLibrary) : GoLibrary :=
  {lib with
    parseIP := fun text => (NetAddresses.parseIP text).map addressBytes
    parseCIDR := fun text =>
      match NetAddresses.parseCIDR text with
      | .ok network => some fun bytes => network.contains (bytesValue bytes)
      | .error _ => none}

theorem places_succ {radix count value : Nat} :
    places radix (count + 1) value = value / radix ^ count % radix :: places radix count value := by
  simp [places, List.range_succ]

theorem number_cons (radix digit : Nat) {rest : List Nat} :
    number (digit :: rest) radix = digit * radix ^ rest.length + number rest radix := by
  unfold number
  rw [List.foldl_cons, Nat.zero_mul, Nat.zero_add]
  induction rest generalizing digit with
  | nil => simp
  | cons next rest ih =>
    rw [List.foldl_cons, ih, List.foldl_cons, ih (0 * radix + next)]
    rw [Nat.zero_mul, Nat.zero_add, List.length_cons, Nat.pow_succ', ← Nat.mul_assoc,
      Nat.add_mul, Nat.add_assoc]

theorem number_places {radix count value : Nat} :
    number (places radix count value) radix = value % radix ^ count := by
  induction count with
  | zero =>
    rw [Nat.pow_zero, Nat.mod_one]
    rfl
  | succ count ih =>
    have length : (places radix count value).length = count := by simp [places]
    rw [places_succ, number_cons, length, ih, Nat.pow_succ, Nat.mod_mul, Nat.add_comm,
      Nat.mul_comm (radix ^ count)]

variable {ip : Nat} {sourceIP : String}

theorem bytes_value_address (bound : ip < 2 ^ 128) :
    bytesValue (addressBytes ip) = ip := by
  have digits : (addressBytes ip).map UInt8.toNat = places 256 16 ip := by
    unfold addressBytes places
    simp only [List.map_map]
    apply List.map_congr_left
    intro place _
    have small : ip / 256 ^ place % 256 < 256 := Nat.mod_lt _ (by omega)
    simp only [Function.comp_apply, UInt8.toNat_ofNat']
    omega
  rw [bytesValue, digits, number_places]
  exact Nat.mod_eq_of_lt bound

def Admits (sourceIP : String) (ip : Nat) (cidr : String) : Prop :=
  if '/' ∈ cidr.toList then ∃ network, parseCIDR cidr = .ok network ∧ network.contains ip = true
  else cidr = sourceIP

theorem ip_in_cidr_iff {lib : GoLibrary}
    (read : parseIP sourceIP = some ip) {cidrs : List String} :
    ipInCIDR (netLibrary lib) sourceIP cidrs = true ↔ ∃ cidr ∈ cidrs, Admits sourceIP ip cidr := by
  obtain ⟨⟨value, bits⟩, address, same⟩ := Option.map_eq_some_iff.mp read
  subst same
  have bytes := bytes_value_address (parse_addr_bound _ _ address)
  have source : (netLibrary lib).parseIP sourceIP = some (addressBytes value) := by
    simp [netLibrary, read]
  simp only [ipInCIDR, source, List.any_eq_true]
  refine exists_congr fun cidr => and_congr_right fun _ => ?_
  unfold Admits
  by_cases masked : '/' ∈ cidr.toList
  · simp only [List.contains_eq_mem, masked, decide_true, Bool.not_true, Bool.false_eq_true,
      if_false, if_true]
    cases network : NetAddresses.parseCIDR cidr with
    | ok network => simp [netLibrary, network, bytes]
    | error message => simp [netLibrary, network]
  · simp only [List.contains_eq_mem, masked, decide_false, Bool.not_false, if_true, if_false,
      beq_iff_eq]
    exact eq_comm

/-- A plain address with the length of its own mask; any other text as it is. -/
def singleHost (cidr : String) : String :=
  if '/' ∈ cidr.toList then cidr
  else match parseAddr cidr.toList with
    | some (_, 32) => cidr ++ "/32"
    | some (_, _) => cidr ++ "/128"
    | none => cidr

theorem single_host_network {cidr mask : String} {bits : Nat} (plain : '/' ∉ cidr.toList)
    (address : parseAddr cidr.toList = some (ip, bits)) (digits : decimal mask.toList = some bits) :
    parseCIDR (cidr ++ "/" ++ mask) = .ok {ip := ip, bits := bits, ones := bits} := by
  have pieces : cut '/' (cidr ++ "/" ++ mask).toList = some (cidr.toList, mask.toList) := by
    apply (cut_some_iff _ _ _ _).mpr
    exact ⟨plain, by simp⟩
  unfold parseCIDR
  rw [pieces]
  simp [address, digits, Option.filter_some, IPNet.masked, IPNet.host]

theorem single_host_contains {host bits : Nat} :
    IPNet.contains {ip := host, bits := bits, ones := bits} ip = true ↔ ip = host := by
  simp only [IPNet.contains, IPNet.host, Nat.sub_self, Nat.pow_zero, Nat.div_one, Bool.and_eq_true,
    beq_iff_eq]
  constructor
  · exact And.right
  · intro same
    exact ⟨congrArg is4 same, same⟩

def PlainAddress (ip : Nat) (cidr : String) : Prop :=
  '/' ∉ cidr.toList ∧ parseIP cidr = some ip

theorem single_host_admits_iff (read : parseIP sourceIP = some ip)
    {cidr : String} :
    Admits sourceIP ip (singleHost cidr) ↔ Admits sourceIP ip cidr ∨ PlainAddress ip cidr := by
  by_cases masked : '/' ∈ cidr.toList
  · simp [singleHost, masked, PlainAddress]
  · cases address : parseAddr cidr.toList with
    | none =>
      have unread : parseIP cidr = none := by simp [parseIP, address]
      simp [singleHost, masked, address, PlainAddress, unread]
    | some found =>
      obtain ⟨host, bits⟩ := found
      have value : parseIP cidr = some host := by simp [parseIP, address]
      have spelled : ∃ mask : String, singleHost cidr = cidr ++ "/" ++ mask ∧
          decimal mask.toList = some bits := by
        rcases parse_addr_width _ _ address with ⟨wide, _⟩ | wide
        · subst wide
          exact ⟨"32", by simp [singleHost, masked, address, String.append_assoc], by decide⟩
        · subst wide
          exact ⟨"128", by simp [singleHost, masked, address, String.append_assoc], by decide⟩
      obtain ⟨mask, shape, digits⟩ := spelled
      have network := single_host_network masked address digits
      have written : '/' ∈ (cidr ++ "/" ++ mask).toList := by simp
      have expanded : Admits sourceIP ip (singleHost cidr) ↔ ip = host := by
        rw [Admits, shape, if_pos written, network]
        simp [single_host_contains]
      have plain : PlainAddress ip cidr ↔ ip = host := by
        simp [PlainAddress, masked, value, eq_comm]
      rw [expanded, plain, or_iff_right_of_imp]
      intro same
      rw [Admits, if_neg masked] at same
      rw [same, read] at value
      exact Option.some.inj value

theorem single_hosts_iff (lib : GoLibrary)
    (read : parseIP sourceIP = some ip) (cidrs : List String) :
    ipInCIDR (netLibrary lib) sourceIP (cidrs.map singleHost) = true ↔
      ipInCIDR (netLibrary lib) sourceIP cidrs = true ∨ ∃ cidr ∈ cidrs, PlainAddress ip cidr := by
  rw [ip_in_cidr_iff read, ip_in_cidr_iff read]
  simp only [List.mem_map, exists_exists_and_eq_and, single_host_admits_iff read,
    and_or_left, exists_or]

/-- For a source address that can be read, both address operators take the plain
addresses of a list for networks of one host exactly when the list admits the
source as it stands or has no plain address of the same value. -/
theorem plain_addresses_single_host_iff (lib : GoLibrary) (sourceIP : String) (ip : Nat)
    (read : parseIP sourceIP = some ip) (cidrs : List String) :
    (∀ operator ∈ ["IpAddress", "NotIpAddress"],
      evaluateOperator (netLibrary lib) operator sourceIP (cidrs.map singleHost) =
        evaluateOperator (netLibrary lib) operator sourceIP cidrs) ↔
    ((∃ cidr ∈ cidrs, PlainAddress ip cidr) → ∃ cidr ∈ cidrs, Admits sourceIP ip cidr) := by
  have hosts := single_hosts_iff lib read cidrs
  rw [← ip_in_cidr_iff read]
  constructor
  · intro same plain
    have answers : ipInCIDR (netLibrary lib) sourceIP (cidrs.map singleHost) =
        ipInCIDR (netLibrary lib) sourceIP cidrs := same "IpAddress" List.mem_cons_self
    rw [← answers]
    exact hosts.mpr (Or.inr plain)
  · intro covered operator member
    have answers : ipInCIDR (netLibrary lib) sourceIP (cidrs.map singleHost) =
        ipInCIDR (netLibrary lib) sourceIP cidrs :=
      Bool.eq_iff_iff.mpr (hosts.trans (or_iff_left_of_imp covered))
    simp only [List.mem_cons, List.not_mem_nil, or_false] at member
    rcases member with rfl | rfl
    · exact answers
    · exact congrArg not answers

theorem network_covers_address :
    evaluateOperator (netLibrary plainLibrary) "NotIpAddress" "10.0.0.1"
        (["::ffff:10.0.0.1", "10.0.0.0/24"].map singleHost) =
      evaluateOperator (netLibrary plainLibrary) "NotIpAddress" "10.0.0.1"
        ["::ffff:10.0.0.1", "10.0.0.0/24"] := by
  apply (plain_addresses_single_host_iff plainLibrary "10.0.0.1" (v4Lead + 0x0a000001) (by decide)
    ["::ffff:10.0.0.1", "10.0.0.0/24"]).mpr _ "NotIpAddress" (by decide)
  intro _
  refine ⟨"10.0.0.0/24", by decide, ?_⟩
  rw [Admits, if_pos (by decide)]
  exact ⟨⟨v4Lead + 0x0a000000, 32, 24⟩, by decide, by decide⟩

/-- The loopback address is not found under its long spelling, and the network of
that one host has it. -/
theorem long_spelling_missed :
    parseIP "::1" = parseIP "0:0:0:0:0:0:0:1" ∧ (parseIP "::1").isSome = true ∧
      singleHost "0:0:0:0:0:0:0:1" = "0:0:0:0:0:0:0:1/128" ∧
      evaluateOperator (netLibrary plainLibrary) "IpAddress" "::1" ["0:0:0:0:0:0:0:1"] = false ∧
      evaluateOperator (netLibrary plainLibrary) "IpAddress" "::1" ["0:0:0:0:0:0:0:1/128"] = true ∧
      evaluateOperator (netLibrary plainLibrary) "NotIpAddress" "::1" ["0:0:0:0:0:0:0:1"] = true ∧
      evaluateOperator (netLibrary plainLibrary) "NotIpAddress" "::1" ["0:0:0:0:0:0:0:1/128"] =
        false := by
  decide +kernel

end VcStack.PlainAddresses
