import VcStack.AddressTexts
import VcStack.SecurityGroups

/-!
What the match text of a compiled security group rule lets through. The texts
that OVN reads are conjunctions of protocol names and of comparisons of a field
with a constant; an address constant may have a prefix length. Anything else is
an error of the text, which then matches no packet.
-/

namespace VcStack.RuleMatches

open NetAddresses SecurityGroups Text

inductive Direction where
  | ingress
  | egress
  deriving DecidableEq, Repr

inductive Version where
  | four
  | six
  deriving DecidableEq, Repr

def Version.bits : Version → Nat
  | .four => 32
  | .six => 128

inductive Transport where
  | tcp
  | udp
  deriving DecidableEq, Repr

def Transport.text : Transport → String
  | .tcp => "tcp"
  | .udp => "udp"

inductive Side where
  | source
  | destination
  deriving DecidableEq, Repr

structure Packet where
  direction : Direction
  version : Version
  transport : Option Transport
  source : Nat
  destination : Nat
  destinationPort : Nat
  quad : version = .four → is4 source = true ∧ is4 destination = true
  port : destinationPort < 2 ^ 16

def Packet.address (packet : Packet) : Side → Nat
  | .source => packet.source
  | .destination => packet.destination

inductive Relation where
  | eq
  | ge
  | le
  deriving DecidableEq, Repr

def Relation.holds : Relation → Nat → Nat → Bool
  | .eq, left, right => left == right
  | .ge, left, right => right ≤ left
  | .le, left, right => left ≤ right

inductive Field where
  | address (version : Version) (side : Side)
  | port (transport : Transport)
  deriving DecidableEq, Repr

inductive Clause where
  | version (version : Version)
  | transport (transport : Transport)
  | address (version : Version) (side : Side) (network : IPNet)
  | port (transport : Transport) (relation : Relation) (value : Nat)
  deriving DecidableEq

def within (network : IPNet) (ip : Nat) : Bool :=
  ip / 2 ^ network.host == network.ip / 2 ^ network.host

/-- A comparison of a field presumes the protocol of the field. -/
def Clause.holds (packet : Packet) : Clause → Bool
  | .version expected => packet.version == expected
  | .transport expected => packet.transport == some expected
  | .address expected side network =>
    packet.version == expected && within network (packet.address side)
  | .port expected relation value =>
    packet.transport == some expected && relation.holds packet.destinationPort value

def names : List (String × Clause) :=
  [("ip4", .version .four), ("ip6", .version .six), ("tcp", .transport .tcp),
    ("udp", .transport .udp)]

def fields : List (String × Field) :=
  [("ip4.src", .address .four .source), ("ip4.dst", .address .four .destination),
    ("ip6.src", .address .six .source), ("ip6.dst", .address .six .destination),
    ("tcp.dst", .port .tcp), ("udp.dst", .port .udp)]

def relations : List (String × Relation) := [("==", .eq), (">=", .ge), ("<=", .le)]

/-- A network, or an address as the network of it alone. A constant is one word. -/
def readNetwork (word : String) : Option IPNet :=
  if ' ' ∈ word.toList then none
  else match parseCIDR word with
    | .ok network => some network
    | .error _ => (parseAddr word.toList).map fun (ip, bits) => ⟨ip, bits, bits⟩

def readNumber (word : String) : Option Nat :=
  if word.toList.all Char.isDigit then some (Nat.ofDigitChars 10 word.toList 0) else none

def readComparison (value : String) : Field → Relation → Option Clause
  | .address version side, .eq =>
    ((readNetwork value).filter (·.bits == version.bits)).map (.address version side)
  | .address _ _, _ => none
  | .port transport, relation => (readNumber value).map (.port transport relation)

def readClause : List String → Option Clause
  | [name] => names.lookup name
  | [field, relation, value] =>
    (fields.lookup field).bind fun field =>
      (relations.lookup relation).bind fun relation => readComparison value field relation
  | _ => none

def Matches (text : String) (packet : Packet) : Prop :=
  ∀ words ∈ wordGroups "&&" text, (readClause words).any (·.holds packet) = true

def directions : List (String × Direction) := [("from-lport", .egress), ("to-lport", .ingress)]

def Admits (acl : ACLRule) (packet : Packet) : Prop :=
  directions.lookup acl.direction = some packet.direction ∧ Matches acl.condition packet

/-- Only egress and IPv6 are named; the other values stand for the defaults. -/
def ruleDirection (rule : SecurityGroupRule) : Direction :=
  if rule.direction = "egress" then .egress else .ingress

def ruleVersion (rule : SecurityGroupRule) : Version :=
  if rule.etherType = "IPv6" then .six else .four

def remoteSide : Direction → Side
  | .ingress => .source
  | .egress => .destination

structure Allows (rule : SecurityGroupRule) (packet : Packet) : Prop where
  direction : packet.direction = ruleDirection rule
  version : packet.version = ruleVersion rule
  transport : packet.transport.map Transport.text = some rule.protocol
  remote : rule.remoteIPPrefix ≠ "" → ∃ network, readNetwork rule.remoteIPPrefix = some network ∧
    within network (packet.address (remoteSide packet.direction)) = true
  port : rule.portRangeMax ≠ 0 →
    rule.portRangeMin ≤ packet.destinationPort ∧ packet.destinationPort ≤ rule.portRangeMax

def Sound (rule : SecurityGroupRule) : Prop :=
  ∀ packet, Admits (compileRule rule) packet → Allows rule packet

def versionName : Version → String
  | .four => "ip4"
  | .six => "ip6"

def fieldName : Version → Direction → String
  | .four, .ingress => "ip4.src"
  | .four, .egress => "ip4.dst"
  | .six, .ingress => "ip6.src"
  | .six, .egress => "ip6.dst"

def portName (transport : Transport) : String := transport.text ++ ".dst"

theorem remote_field_name {rule : SecurityGroupRule} :
    remoteField rule = fieldName (ruleVersion rule) (ruleDirection rule) := by
  unfold remoteField ruleVersion ruleDirection
  by_cases six : rule.etherType = "IPv6"
  · by_cases egress : rule.direction = "egress"
    · rw [if_pos six, if_pos six, if_pos egress, if_pos egress]
      decide
    · rw [if_pos six, if_pos six, if_neg egress, if_neg egress]
      decide
  · by_cases egress : rule.direction = "egress"
    · rw [if_neg six, if_neg six, if_pos egress, if_pos egress]
      rfl
    · rw [if_neg six, if_neg six, if_neg egress, if_neg egress]
      rfl

theorem comparison_text {field relation value : String} :
    " ".intercalate [field, relation, value] = field ++ (" " ++ relation ++ " ") ++ value := by
  rw [← String.toList_inj, String.toList_intercalate]
  simp

def Plain (word : String) : Prop := ' ' ∉ word.toList ∧ word ≠ "&&"

instance (word : String) : Decidable (Plain word) := inferInstanceAs (Decidable (_ ∧ _))

variable {value : Int}

theorem bound_chars (positive : 0 ≤ value) :
    (toString value).toList = Nat.toDigits 10 value.toNat := by
  obtain ⟨number, rfl⟩ := Int.eq_ofNat_of_zero_le positive
  exact decimal_chars

theorem bound_digits (positive : 0 ≤ value) :
    ∀ char ∈ (toString value).toList, char.isDigit = true := by
  rw [bound_chars positive]
  exact fun char member => Nat.isDigit_of_mem_toDigits (by decide) (by decide) member

theorem read_bound (positive : 0 ≤ value) :
    readNumber (toString value) = some value.toNat := by
  rw [readNumber, if_pos (List.all_eq_true.mpr (bound_digits positive)),
    bound_chars positive, Nat.ofDigitChars_ten_toDigits]

theorem bound_plain (positive : 0 ≤ value) : Plain (toString value) := by
  have digits := bound_digits positive
  constructor
  · intro blank
    exact absurd (digits ' ' blank) (by decide)
  · intro mark
    rw [mark] at digits
    exact absurd (digits '&' (by decide)) (by decide)

theorem network_plain {word : String} {network : IPNet} (read : readNetwork word = some network) :
    Plain word := by
  constructor
  · intro blank
    rw [readNetwork, if_pos blank] at read
    contradiction
  · rintro rfl
    have unread : readNetwork "&&" = none := by decide
    rw [unread] at read
    contradiction

theorem read_version {version : Version} :
    readClause [versionName version] = some (.version version) := by
  cases version <;> rfl

theorem read_transport {transport : Transport} :
    readClause [transport.text] = some (.transport transport) := by
  cases transport <;> rfl

theorem read_remote {version : Version} {direction : Direction} {value : String} :
    readClause [fieldName version direction, "==", value] =
      ((readNetwork value).filter (·.bits == version.bits)).map
        (.address version (remoteSide direction)) := by
  cases version <;> cases direction <;> rfl

theorem read_port (transport : Transport) (positive : 0 ≤ value)
    (relation : String × Relation) (listed : relation ∈ relations) :
    readClause [portName transport, relation.1, toString value] =
      some (.port transport relation.2 value.toNat) := by
  have number := read_bound positive
  have read : readClause [portName transport, relation.1, toString value] =
      (readNumber (toString value)).map (.port transport relation.2) := by
    simp only [relations, List.mem_cons, List.not_mem_nil, or_false] at listed
    rcases listed with rfl | rfl | rfl <;> cases transport <;> rfl
  rw [read, number]
  rfl

theorem matches_and {left right : String} {packet : Packet} :
    Matches (left ++ " && " ++ right) packet ↔ Matches left packet ∧ Matches right packet := by
  have groups : wordGroups "&&" (left ++ " && " ++ right) =
      wordGroups "&&" left ++ wordGroups "&&" right :=
    word_groups_append (by decide) left right
  rw [Matches, groups, List.forall_mem_append]
  rfl

theorem matches_joined {parts : List String} (some : parts ≠ []) {packet : Packet} :
    Matches (" && ".intercalate parts) packet ↔ ∀ part ∈ parts, Matches part packet := by
  induction parts with
  | nil => contradiction
  | cons part rest ih =>
    cases rest with
    | nil => rw [String.intercalate_singleton, List.forall_mem_singleton]
    | cons next more =>
      rw [String.intercalate_cons_cons, matches_and, ih (List.cons_ne_nil _ _)]
      exact (List.forall_mem_cons (p := fun part => Matches part packet)).symm

theorem matches_comparison_iff {packet : Packet} {field relation value : String}
    (first : Plain field) (second : Plain relation) (third : Plain value) :
    Matches (field ++ (" " ++ relation ++ " ") ++ value) packet ↔
      (readClause [field, relation, value]).any (·.holds packet) = true := by
  have groups : wordGroups "&&" (" ".intercalate [field, relation, value]) =
      [[field, relation, value]] := by
    apply word_groups_words (by simp)
    intro word member
    simp only [List.mem_cons, List.not_mem_nil, or_false] at member
    rcases member with rfl | rfl | rfl
    exacts [first, second, third]
  rw [← comparison_text, Matches, groups, List.forall_mem_singleton]

theorem matches_version_iff {version : Version} {packet : Packet} :
    Matches (versionName version) packet ↔ packet.version = version := by
  have groups : wordGroups "&&" (versionName version) = [[versionName version]] := by
    cases version <;> decide
  rw [Matches, groups, List.forall_mem_singleton, read_version]
  exact beq_iff_eq

theorem matches_transport_iff {transport : Transport} {packet : Packet} :
    Matches transport.text packet ↔ packet.transport = some transport := by
  have groups : wordGroups "&&" transport.text = [[transport.text]] := by
    cases transport <;> decide
  rw [Matches, groups, List.forall_mem_singleton, read_transport]
  exact beq_iff_eq

section Compiled

variable (rule : SecurityGroupRule)

def remoteClause : String := remoteField rule ++ " == " ++ rule.remoteIPPrefix

theorem remote_matches_iff {network : IPNet} {packet : Packet}
    (read : readNetwork rule.remoteIPPrefix = some network)
    (direction : packet.direction = ruleDirection rule)
    (version : packet.version = ruleVersion rule) :
    Matches (remoteClause rule) packet ↔ network.bits = (ruleVersion rule).bits ∧
      within network (packet.address (remoteSide packet.direction)) = true := by
  have field : Plain (fieldName (ruleVersion rule) (ruleDirection rule)) := by
    cases ruleVersion rule <;> cases ruleDirection rule <;> decide
  have equals : " == " = " " ++ "==" ++ " " := by decide
  rw [remoteClause, remote_field_name, equals,
    matches_comparison_iff field (by decide) (network_plain read), read_remote, read, ← direction]
  by_cases fits : network.bits = (ruleVersion rule).bits
  · simp [Option.filter, fits, Clause.holds, version]
  · simp [Option.filter, fits]

def InRange (packet : Packet) : Prop :=
  rule.portRangeMin ≠ 0 →
    rule.portRangeMin ≤ packet.destinationPort ∧ packet.destinationPort ≤ rule.portRangeMax

variable (transport : Transport) (named : rule.protocol = transport.text)
  (low : 0 ≤ rule.portRangeMin) (ordered : rule.portRangeMin ≤ rule.portRangeMax)

include named low ordered

theorem port_matches_iff (packet : Packet) (carried : packet.transport = some transport) :
    (∀ part ∈ portParts rule, Matches part packet) ↔ InRange rule packet := by
  have port : Plain (portName transport) := by cases transport <;> decide
  have operator : ∀ relation ∈ relations, Plain relation.1 := by decide
  have part (relation : String × Relation) (listed : relation ∈ relations) (bound : Int)
      (positive : 0 ≤ bound) :
      Matches (transport.text ++ (".dst " ++ relation.1 ++ " ") ++ toString bound) packet ↔
        relation.2.holds packet.destinationPort bound.toNat = true := by
    have text : transport.text ++ (".dst " ++ relation.1 ++ " ") ++ toString bound =
        portName transport ++ (" " ++ relation.1 ++ " ") ++ toString bound := by
      rw [portName, ← String.toList_inj]
      simp
    rw [text, matches_comparison_iff port (operator relation listed) (bound_plain positive),
      read_port transport positive relation listed]
    simp [Clause.holds, carried]
  have exact : Matches (transport.text ++ ".dst == " ++ _) packet ↔ _ :=
    part ("==", .eq) (by decide) _ low
  have least : Matches (transport.text ++ ".dst >= " ++ _) packet ↔ _ :=
    part (">=", .ge) (by decide) _ low
  have most : Matches (transport.text ++ ".dst <= " ++ _) packet ↔ _ :=
    part ("<=", .le) (by decide) _ (Int.le_trans low ordered)
  unfold InRange portParts
  rw [named]
  split_ifs with unbounded single
  · simp [unbounded]
  · rw [List.forall_mem_singleton, exact]
    simp only [Relation.holds, beq_iff_eq]
    omega
  · have both : transport.text ++ ".dst >= " ++ toString rule.portRangeMin ++ " && " ++
        transport.text ++ ".dst <= " ++ toString rule.portRangeMax =
        transport.text ++ ".dst >= " ++ toString rule.portRangeMin ++ " && " ++
          (transport.text ++ ".dst <= " ++ toString rule.portRangeMax) := by
      simp only [String.append_assoc]
    rw [List.forall_mem_singleton, both, matches_and, least, most]
    simp only [Relation.holds, decide_eq_true_eq]
    omega

theorem admits_iff (packet : Packet) :
    Admits (compileRule rule) packet ↔
      packet.direction = ruleDirection rule ∧ packet.version = ruleVersion rule ∧
      packet.transport = some transport ∧
      (rule.remoteIPPrefix ≠ "" → Matches (remoteClause rule) packet) ∧ InRange rule packet := by
  have direction : directions.lookup (compileRule rule).direction = some (ruleDirection rule) := by
    unfold compileRule ruleDirection
    dsimp only
    split_ifs <;> rfl
  have spoken : rule.protocol ≠ "" := by
    rw [named]
    cases transport <;> decide
  have version : (if rule.etherType = "IPv6" then "ip6" else "ip4") =
      versionName (ruleVersion rule) := by
    unfold ruleVersion
    split_ifs <;> rfl
  have remote : (∀ part ∈ (if rule.remoteIPPrefix = "" then []
      else [remoteField rule ++ " == " ++ rule.remoteIPPrefix]), Matches part packet) ↔
      (rule.remoteIPPrefix ≠ "" → Matches (remoteClause rule) packet) := by
    split_ifs with unset
    · simp [unset]
    · simp [unset, remoteClause]
  rw [Admits, direction, Option.some.injEq, eq_comm, compileRule, matches_joined (by simp [matchParts]),
    matchParts, version, if_neg spoken, List.forall_mem_append, List.forall_mem_append,
    List.forall_mem_append, List.forall_mem_singleton, List.forall_mem_singleton, remote,
    matches_version_iff, named, matches_transport_iff, and_assoc, and_assoc]
  refine and_congr_right fun _ => and_congr_right fun _ => and_congr_right fun carried => ?_
  rw [port_matches_iff rule transport named low ordered packet carried]

end Compiled

/-- Some packet of the rule's version, protocol and ports meets the clause that the
text of the remote prefix makes. -/
def Passable (rule : SecurityGroupRule) (transport : Transport) : Prop :=
  rule.remoteIPPrefix ≠ "" → ∃ packet : Packet, packet.version = ruleVersion rule ∧
    packet.transport = some transport ∧ InRange rule packet ∧ Matches (remoteClause rule) packet

section Passing

variable (rule : SecurityGroupRule) (transport : Transport) (named : rule.protocol = transport.text)
  (low : 0 ≤ rule.portRangeMin) (ordered : rule.portRangeMin ≤ rule.portRangeMax)
  (high : rule.portRangeMax ≤ 65535)

include named low ordered high

theorem admits_some_iff :
    (∃ packet, Admits (compileRule rule) packet) ↔ Passable rule transport := by
  have admits := admits_iff rule transport named low ordered
  constructor
  · rintro ⟨packet, admitted⟩ set
    obtain ⟨_, version, carried, remote, range⟩ := (admits packet).mp admitted
    exact ⟨packet, version, carried, range, remote set⟩
  · intro passable
    by_cases unset : rule.remoteIPPrefix = ""
    · let packet : Packet := {
        direction := ruleDirection rule
        version := ruleVersion rule
        transport := some transport
        source := v4Lead
        destination := v4Lead
        destinationPort := rule.portRangeMin.toNat
        quad := fun _ => by decide
        port := by omega }
      have reach : packet.destinationPort = rule.portRangeMin.toNat := rfl
      refine ⟨packet, (admits packet).mpr ⟨rfl, rfl, rfl, fun set => absurd unset set, ?_⟩⟩
      intro _
      omega
    · obtain ⟨packet, version, carried, range, remote⟩ := passable unset
      exact ⟨{packet with direction := ruleDirection rule},
        (admits _).mpr ⟨rfl, version, carried, fun _ => remote, range⟩⟩

end Passing

/-- A range that begins with port 0 is compiled without its bounds. A prefix that
is no constant may hold further clauses or make the text unreadable. -/
theorem compile_sound_iff (rule : SecurityGroupRule) (transport : Transport)
    (named : rule.protocol = transport.text) (low : 0 ≤ rule.portRangeMin)
    (ordered : rule.portRangeMin ≤ rule.portRangeMax) (high : rule.portRangeMax ≤ 65535) :
    Sound rule ↔ (Passable rule transport →
      (rule.remoteIPPrefix = "" ∨ ∃ network, readNetwork rule.remoteIPPrefix = some network) ∧
      (rule.portRangeMin ≠ 0 ∨ rule.portRangeMax = 0 ∨ rule.portRangeMax = 65535)) := by
  have admits := admits_iff rule transport named low ordered
  rw [← admits_some_iff rule transport named low ordered high]
  constructor
  · rintro sound ⟨packet, admitted⟩
    have readable : rule.remoteIPPrefix = "" ∨
        ∃ network, readNetwork rule.remoteIPPrefix = some network := by
      by_cases unset : rule.remoteIPPrefix = ""
      · exact Or.inl unset
      · obtain ⟨network, read, _⟩ := (sound packet admitted).remote unset
        exact Or.inr ⟨network, read⟩
    refine ⟨readable, ?_⟩
    by_cases bounded : rule.portRangeMin ≠ 0
    · exact Or.inl bounded
    -- The same packet to the highest port passes as well.
    have ⟨way, kind, carrier, remote, _⟩ := (admits packet).mp admitted
    let other : Packet := {packet with destinationPort := 65535, port := by decide}
    have passes : Admits (compileRule rule) other := by
      refine (admits other).mpr ⟨way, kind, carrier, fun set => ?_, fun set => absurd set bounded⟩
      obtain ⟨network, read⟩ := readable.resolve_left set
      have same : Matches (remoteClause rule) other ↔ _ := remote_matches_iff rule read way kind
      exact same.mpr ((remote_matches_iff rule read way kind).mp (remote set))
    have port := (sound other passes).port
    have reach : other.destinationPort = 65535 := rfl
    omega
  · intro condition packet admitted
    obtain ⟨readable, bounds⟩ := condition ⟨packet, admitted⟩
    have ⟨way, kind, carrier, remote, range⟩ := (admits packet).mp admitted
    exact {
      direction := way
      version := kind
      transport := by rw [carrier, named]; rfl
      remote := fun set => by
        obtain ⟨network, read⟩ := readable.resolve_left set
        exact ⟨network, read, ((remote_matches_iff rule read way kind).mp (remote set)).2⟩
      port := fun limited => by
        have reach := packet.port
        unfold InRange at range
        omega }

theorem ssh_rule_sound :
    sshRule.protocol = Transport.tcp.text ∧ Sound sshRule := by
  refine ⟨rfl, ?_⟩
  refine (compile_sound_iff sshRule .tcp rfl (by decide) (by decide) (by decide)).mpr fun _ => ?_
  exact ⟨Or.inr ⟨⟨v4Lead + 0x0a000000, 32, 8⟩, by decide⟩, Or.inl (by decide)⟩

def lowPorts : SecurityGroupRule where
  direction := "ingress"
  etherType := "IPv4"
  protocol := "tcp"
  portRangeMin := 0
  portRangeMax := 80

def highPort : Packet where
  direction := .ingress
  version := .four
  transport := some .tcp
  source := v4Lead + 0x0a000001
  destination := v4Lead + 0x0a000002
  destinationPort := 3306
  quad := by decide
  port := by decide

theorem low_ports_open_all :
    (compileRule lowPorts).condition = "ip4 && tcp" ∧
      Admits (compileRule lowPorts) highPort ∧ ¬ Allows lowPorts highPort := by
  refine ⟨by decide, ?_, ?_⟩
  · rw [admits_iff lowPorts .tcp rfl (by decide) (by decide)]
    exact ⟨rfl, rfl, rfl, fun set => absurd rfl set, fun set => absurd rfl set⟩
  · intro allows
    have port := allows.port (by decide)
    revert port
    decide

end VcStack.RuleMatches
