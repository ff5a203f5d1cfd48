import VcStack.NetAddresses

/-!
The dotted quads that stand for IPv4 addresses, and the networks that are written
with them: reading what was written, and the addresses of a network as a range.
-/

namespace VcStack.AddressTexts

open NetAddresses Text

def separates (char : Char) : Bool := char == '.' || char == ':' || char == '%'

variable {value bits : Nat} {values : List Nat}

theorem octet_digits (small : value < 256) :
    octet (Nat.toDigits 10 value) = some value ∧
      (Nat.toDigits 10 value).all (!separates ·) = true := by
  have all : ∀ value : Fin 256, octet (Nat.toDigits 10 value.val) = some value.val ∧
      (Nat.toDigits 10 value.val).all (!separates ·) = true := by
    decide +kernel
  exact all ⟨value, small⟩

theorem octet_text (small : value < 256) :
    octet (toString value).toList = some value := by
  rw [decimal_chars]
  exact (octet_digits small).1

theorem octet_text_plain (small : value < 256) :
    ∀ char ∈ (toString value).toList, separates char = false := by
  rw [decimal_chars]
  intro char member
  have plain := List.all_eq_true.mp (octet_digits small).2 char member
  exact Bool.not_eq_true' _ |>.mp plain

def quadChars (values : List Nat) : List Char :=
  ['.'].intercalate (values.map fun value => (toString value).toList)

theorem quad_split (some : values ≠ []) (small : ∀ value ∈ values, value < 256) :
    (quadChars values).splitOn '.' = values.map fun value => (toString value).toList := by
  apply List.splitOn_intercalate
  · intro piece member dot
    obtain ⟨value, listed, rfl⟩ := List.mem_map.mp member
    have plain := octet_text_plain (small value listed) '.' dot
    exact absurd plain (by decide)
  · exact fun none => some (List.map_eq_nil_iff.mp none)

theorem octets_read (small : ∀ value ∈ values, value < 256) :
    (values.map fun value => (toString value).toList).mapM octet = some values := by
  induction values with
  | nil => rfl
  | cons value rest ih =>
    rw [List.forall_mem_cons] at small
    rw [List.map_cons, List.mapM_cons, octet_text small.1, ih small.2]
    rfl

theorem quad_parse {first second third fourth : Nat}
    (small : ∀ value ∈ [first, second, third, fourth], value < 256) :
    parseAddr (quadChars [first, second, third, fourth]) =
      some (v4Lead + number [first, second, third, fourth] 256, 32) := by
  have dotted : (quadChars [first, second, third, fourth]).find? separates = some '.' := by
    have lead : (toString first).toList.find? separates = none := by
      rw [List.find?_eq_none]
      intro char member
      rw [octet_text_plain (small first List.mem_cons_self) char member]
      exact Bool.false_ne_true
    have shape : quadChars [first, second, third, fourth] =
        (toString first).toList ++ '.' :: quadChars [second, third, fourth] := rfl
    rw [shape, List.find?_append, lead]
    rfl
  have quad : parseIPv4 (quadChars [first, second, third, fourth]) =
      some (number [first, second, third, fourth] 256) := by
    rw [parseIPv4, quad_split (List.cons_ne_nil _ _) small, octets_read small]
  have separated : (quadChars [first, second, third, fourth]).find?
      (fun char => char == '.' || char == ':' || char == '%') = some '.' := dotted
  rw [parseAddr, separated]
  change (parseIPv4 (quadChars [first, second, third, fourth])).map _ = _
  rw [quad]
  rfl

variable (text : List Char) (ip : Nat)

theorem address_text_chars (four : is4 ip = true) :
    (addressText ip).toList = quadChars (places 256 4 ip) := by
  rw [addressText, if_pos four, join, String.toList_intercalate, List.map_map]
  rfl

theorem parse_address_text (four : is4 ip = true) :
    parseIP (addressText ip) = some ip := by
  have lead : ip / 4294967296 = 65535 := by simpa [is4] using four
  have digits : places 256 4 ip =
      [ip / 16777216 % 256, ip / 65536 % 256, ip / 256 % 256, ip / 1 % 256] := rfl
  rw [parseIP, address_text_chars ip four, digits, quad_parse]
  · simp only [Option.map_some, Option.some.injEq, number, List.foldl, v4Lead]
    omega
  · intro value member
    simp only [List.mem_cons, List.not_mem_nil, or_false] at member
    omega

theorem address_text_inj {left right : Nat} (leftFour : is4 left = true)
    (rightFour : is4 right = true) (same : addressText left = addressText right) :
    left = right := by
  have read := parse_address_text left leftFour
  rw [same, parse_address_text right rightFour, Option.some.injEq] at read
  exact read.symm

structure Parsed (network : IPNet) : Prop where
  width : network.bits = 32 ∨ network.bits = 128
  ones : network.ones ≤ network.bits
  aligned : 2 ^ network.host ∣ network.ip
  four : network.bits = 32 → is4 network.ip = true

theorem is4_iff : is4 ip = true ↔ v4Lead ≤ ip ∧ ip < v4Lead + 2 ^ 32 := by
  simp only [is4, v4Lead, beq_iff_eq]
  omega

theorem number_bound {radix : Nat} (total : Nat)
    (small : ∀ value ∈ values, value < radix) :
    values.foldl (fun total digit => total * radix + digit) total <
      (total + 1) * radix ^ values.length := by
  induction values generalizing total with
  | nil => simp
  | cons value rest ih =>
    rw [List.forall_mem_cons] at small
    have next : total * radix + value + 1 ≤ (total + 1) * radix := by
      rw [Nat.add_mul, Nat.one_mul]
      omega
    rw [List.foldl_cons, List.length_cons, Nat.pow_succ', ← Nat.mul_assoc]
    exact Nat.lt_of_lt_of_le (ih (total * radix + value) small.2) (Nat.mul_le_mul_right _ next)

theorem all_read {Source Value : Type} {read : Source → Option Value} {Holds : Value → Prop}
    (each : ∀ source value, read source = some value → Holds value) {sources : List Source}
    (values : List Value) (all : sources.mapM read = some values) :
    ∀ value ∈ values, Holds value := by
  induction sources generalizing values with
  | nil =>
    cases all
    exact fun _ member => absurd member List.not_mem_nil
  | cons source rest ih =>
    rw [List.mapM_cons] at all
    obtain ⟨value, first, onward⟩ := Option.bind_eq_some_iff.mp all
    obtain ⟨others, later, same⟩ := Option.bind_eq_some_iff.mp onward
    cases same
    rw [List.forall_mem_cons]
    exact ⟨each source value first, ih others later⟩

theorem octet_bound (value : Nat) (read : octet text = some value) :
    value < 256 := by
  unfold octet at read
  split_ifs at read
  exact Nat.lt_succ_of_le (of_decide_eq_true (Option.filter_eq_some_iff.mp read).2)

theorem parse_ipv4_bound (read : parseIPv4 text = some ip) :
    ip < 2 ^ 32 := by
  unfold parseIPv4 at read
  split at read
  · rename_i first second third fourth values
    cases read
    have bound := number_bound 0 (all_read octet_bound _ values)
    have size : 256 ^ [first, second, third, fourth].length = 2 ^ 32 := by
      simp only [List.length_cons, List.length_nil, Nat.reduceAdd, Nat.reducePow]
    rw [Nat.zero_add, Nat.one_mul, size] at bound
    exact bound
  · contradiction

theorem digits_bound {radix : Nat} {text : List Char}
    (read : digits radix text = some values) : ∀ value ∈ values, value < radix := by
  unfold digits at read
  split_ifs at read
  refine all_read ?_ values read
  intro char value found
  exact of_decide_eq_true (Option.filter_eq_some_iff.mp found).2

def Grouped (groups : List Nat) : Prop := ∀ group ∈ groups, group < 2 ^ 16

theorem grouped_append {front back : List Nat} (first : Grouped front) (second : Grouped back) :
    Grouped (front ++ back) := by
  intro group member
  rcases List.mem_append.mp member with before | after
  · exact first group before
  · exact second group after

theorem group_bound {group : List Nat} (read : (digits 16 text).filter (·.length ≤ 4) = some group) :
    number group 16 < 2 ^ 16 := by
  obtain ⟨found, short⟩ := Option.filter_eq_some_iff.mp read
  have bound := number_bound 0 (digits_bound found)
  rw [Nat.zero_add, Nat.one_mul] at bound
  calc number group 16 < 16 ^ group.length := bound
    _ ≤ 16 ^ 4 := Nat.pow_le_pow_right (by omega) (of_decide_eq_true short)

theorem parse_groups_bound {room : Nat} (read last : Groups) (small : Grouped read.groups)
    (parsed : parseGroups room read = some last) : Grouped last.groups := by
  -- Every round adds one group, or the two of an IPv4 tail.
  induction room generalizing read with
  | zero =>
    cases parsed
    exact small
  | succ room ih =>
    unfold parseGroups at parsed
    dsimp only at parsed
    split at parsed
    · contradiction
    · rename_i group written
      have more : Grouped (read.groups ++ [number group 16]) := by
        apply grouped_append small
        intro value member
        rw [List.mem_singleton.mp member]
        exact group_bound _ written
      split at parsed
      · cases parsed
        exact more
      · split_ifs at parsed
        obtain ⟨tail, quad, same⟩ := Option.map_eq_some_iff.mp parsed
        cases same
        have bound := parse_ipv4_bound _ _ quad
        apply grouped_append small
        intro value member
        simp only [List.mem_cons, List.not_mem_nil, or_false] at member
        omega
      · contradiction
      · split_ifs at parsed
        cases parsed
        exact more
      · split_ifs at parsed
        exact ih _ more parsed
      · exact ih _ more parsed
      · contradiction

theorem expand_bound {read : Groups} {groups : List Nat} (small : Grouped read.groups)
    (expanded : expand read = some groups) : Grouped groups ∧ groups.length = 8 := by
  obtain ⟨_, expanded⟩ := Option.ite_none_left_eq_some.mp expanded
  split at expanded
  · obtain ⟨full, same⟩ := Option.ite_none_right_eq_some.mp expanded
    cases same
    exact ⟨small, by simpa using full⟩
  · obtain ⟨short, same⟩ := Option.ite_none_right_eq_some.mp expanded
    cases same
    constructor
    · apply grouped_append
      · apply grouped_append
        · exact fun group member => small group (List.mem_of_mem_take member)
        · intro group member
          rw [(List.mem_replicate.mp member).2]
          omega
      · exact fun group member => small group (List.mem_of_mem_drop member)
    · simp only [List.length_append, List.length_take, List.length_replicate, List.length_drop]
      omega

theorem parse_ipv6_bound (read : parseIPv6 text = some ip) :
    ip < 2 ^ 128 := by
  unfold parseIPv6 at read
  obtain ⟨groups, found, same⟩ := Option.map_eq_some_iff.mp read
  obtain ⟨last, parsed, expanded⟩ := Option.bind_eq_some_iff.mp found
  have small : Grouped last.groups := by
    have nothing : Grouped ([] : List Nat) := fun _ member => absurd member List.not_mem_nil
    split at parsed
    · cases parsed
      exact nothing
    · exact parse_groups_bound _ _ nothing parsed
    · exact parse_groups_bound _ _ nothing parsed
  obtain ⟨bounded, eight⟩ := expand_bound small expanded
  have bound := number_bound 0 bounded
  rw [Nat.zero_add, Nat.one_mul, eight, ← Nat.pow_mul] at bound
  rw [← same]
  exact bound

theorem parse_addr_cases (read : parseAddr text = some (ip, bits)) :
    (bits = 32 ∧ v4Lead ≤ ip ∧ ip < v4Lead + 2 ^ 32) ∨ (bits = 128 ∧ ip < 2 ^ 128) := by
  unfold parseAddr at read
  split at read
  · obtain ⟨quad, parsed, same⟩ := Option.map_eq_some_iff.mp read
    cases same
    have bound := parse_ipv4_bound text quad parsed
    exact Or.inl ⟨rfl, by omega⟩
  · obtain ⟨groups, parsed, same⟩ := Option.map_eq_some_iff.mp read
    cases same
    exact Or.inr ⟨rfl, parse_ipv6_bound text _ parsed⟩
  · contradiction

theorem parse_addr_width (read : parseAddr text = some (ip, bits)) :
    bits = 32 ∧ is4 ip = true ∨ bits = 128 := by
  rcases parse_addr_cases text ip read with ⟨width, within⟩ | ⟨width, _⟩
  · exact Or.inl ⟨width, (is4_iff ip).mpr within⟩
  · exact Or.inr width

theorem parse_addr_bound (read : parseAddr text = some (ip, bits)) : ip < 2 ^ 128 := by
  have lead : v4Lead + 2 ^ 32 ≤ 2 ^ 128 := by decide
  rcases parse_addr_cases text ip read with ⟨_, _, below⟩ | ⟨_, below⟩
  · exact Nat.lt_of_lt_of_le below lead
  · exact below

theorem masked_four {ones : Nat} (four : is4 ip = true) :
    is4 (ip / 2 ^ (32 - ones) * 2 ^ (32 - ones)) = true := by
  rw [is4_iff] at four ⊢
  have below : ip / 2 ^ (32 - ones) * 2 ^ (32 - ones) ≤ ip := Nat.div_mul_le_self _ _
  have divides : 2 ^ (32 - ones) ∣ v4Lead :=
    Nat.dvd_trans (Nat.pow_dvd_pow 2 (by omega)) (Nat.dvd_mul_left (2 ^ 32) 0xffff)
  obtain ⟨blocks, lead⟩ := divides
  have above : blocks ≤ ip / 2 ^ (32 - ones) := by
    rw [Nat.le_div_iff_mul_le (Nat.two_pow_pos _), Nat.mul_comm, ← lead]
    exact four.1
  have lifted := Nat.mul_le_mul_right (2 ^ (32 - ones)) above
  rw [Nat.mul_comm, ← lead] at lifted
  omega

theorem parse_cidr_parsed {text : String} {network : IPNet}
    (read : parseCIDR text = .ok network) : Parsed network := by
  unfold parseCIDR at read
  dsimp only at read
  split at read
  · rename_i found
    cases read
    obtain ⟨pieces, _, rest⟩ := Option.bind_eq_some_iff.mp found
    obtain ⟨⟨ip, bits⟩, address, rest⟩ := Option.bind_eq_some_iff.mp rest
    obtain ⟨ones, length, same⟩ := Option.bind_eq_some_iff.mp rest
    cases same
    have fits : ones ≤ bits := of_decide_eq_true (Option.filter_eq_some_iff.mp length).2
    rcases parse_addr_width _ _ address with ⟨rfl, four⟩ | rfl
    · exact ⟨Or.inl rfl, fits, Nat.dvd_mul_left _ _, fun _ => masked_four ip four⟩
    · exact ⟨Or.inr rfl, fits, Nat.dvd_mul_left _ _, fun wide => absurd wide (by simp)⟩
  · contradiction

section Ranges

variable (network : IPNet) (parsed : Parsed network)

include parsed

variable {network}

theorem masked_eq : network.masked = network.ip := Nat.div_mul_cancel parsed.aligned

theorem block_iff {ip : Nat} :
    ip / 2 ^ network.host = network.ip / 2 ^ network.host ↔
      network.ip ≤ ip ∧ ip < network.ip + 2 ^ network.host := by
  have size := Nat.two_pow_pos network.host
  rw [Nat.div_eq_iff size, Nat.div_mul_cancel parsed.aligned]
  omega

theorem contains_iff {ip : Nat} :
    network.contains ip = true ↔ is4 ip = is4 network.ip ∧ network.ip ≤ ip ∧
      ip < network.ip + 2 ^ network.host := by
  rw [IPNet.contains, Bool.and_eq_true, beq_iff_eq, beq_iff_eq, block_iff parsed]

theorem block_end (wide : network.bits = 32) :
    network.ip + 2 ^ network.host ≤ v4Lead + 2 ^ 32 := by
  have four := (is4_iff _).mp (parsed.four wide)
  have divides : 2 ^ network.host ∣ v4Lead + 2 ^ 32 := by
    have power : 2 ^ network.host ∣ 2 ^ 32 := Nat.pow_dvd_pow 2 (by rw [IPNet.host]; omega)
    exact Nat.dvd_add (Nat.dvd_trans power (Nat.dvd_mul_left _ _)) power
  obtain ⟨start, first⟩ := parsed.aligned
  obtain ⟨finish, last⟩ := divides
  rw [first, last] at four ⊢
  have below : start < finish := Nat.lt_of_mul_lt_mul_left four.2
  calc 2 ^ network.host * start + 2 ^ network.host
      = 2 ^ network.host * (start + 1) := (Nat.mul_succ _ _).symm
    _ ≤ 2 ^ network.host * finish := Nat.mul_le_mul_left _ below

theorem contains_four_iff (wide : network.bits = 32) (ip : Nat) :
    network.contains ip = true ↔ network.ip ≤ ip ∧ ip < network.ip + 2 ^ network.host := by
  rw [contains_iff parsed]
  constructor
  · exact And.right
  · intro inside
    have four := parsed.four wide
    have ends := block_end parsed wide
    refine ⟨?_, inside⟩
    rw [four, is4_iff]
    rw [is4_iff] at four
    omega

theorem contained_four (wide : network.bits = 32) {ip : Nat}
    (inside : network.contains ip = true) : is4 ip = true := by
  rw [contains_iff parsed] at inside
  rw [inside.1]
  exact parsed.four wide

end Ranges

end VcStack.AddressTexts
