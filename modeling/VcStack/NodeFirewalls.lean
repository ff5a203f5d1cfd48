import VcStack.Histories

/-!
The ACLs that a compute node puts on its ports, from internal/compute/ovn_security.go.
Every ovn-nbctl command succeeds. A quoted match is stored as it was before quoting.
-/

namespace VcStack.NodeFirewalls

open Histories

inductive Direction where
  | ingress
  | egress
  | other (text : String)
deriving DecidableEq, Repr

inductive RuleAction where
  | allow
  | deny
  | other (text : String)
deriving DecidableEq, Repr

structure SecurityRule where
  id : String
  direction : Direction
  protocol : String := ""
  portMin : Int := 0
  portMax : Int := 0
  remoteIP : String := ""
  action : RuleAction := .allow
deriving DecidableEq, Repr

inductive LportDirection where
  | toLport
  | fromLport
deriving DecidableEq, Repr

inductive AclAction where
  | allowRelated
  | drop
deriving DecidableEq, Repr

structure Acl where
  direction : LportDirection
  priority : Nat
  expression : String
  action : AclAction
deriving DecidableEq, Repr

structure GoLibrary where
  toLower : String → String
  /-- `%q` -/
  quote : String → String

structure Manager where
  rules : String → Option (List SecurityRule) := fun _ => none
  /-- the ACLs of the logical switch with the port's name -/
  acls : String → List Acl := fun _ => []

variable (lib : GoLibrary)

def protocolPart (rule : SecurityRule) : List String :=
  if rule.protocol ≠ "" then
    match lib.toLower rule.protocol with
    | "tcp" => ["tcp"]
    | "udp" => ["udp"]
    | "icmp" => ["icmp"]
    | _ => []
  else []

def portPart (rule : SecurityRule) : List String :=
  if rule.portMin > 0 ∨ rule.portMax > 0 then
    if rule.portMin = rule.portMax then ["dst.port == " ++ toString rule.portMin]
    else ["dst.port >= " ++ toString rule.portMin ++ " && dst.port <= " ++ toString rule.portMax]
  else []

def remotePart (rule : SecurityRule) : List String :=
  if rule.remoteIP ≠ "" then
    if rule.direction = .ingress then ["ip4.src == " ++ rule.remoteIP]
    else ["ip4.dst == " ++ rule.remoteIP]
  else []

def buildACLMatch (portName : String) (rule : SecurityRule) : String :=
  let side := if rule.direction = .ingress then "outport == " ++ lib.quote portName
    else "inport == " ++ lib.quote portName
  " && ".intercalate ([side] ++ protocolPart lib rule ++ portPart rule ++ remotePart rule)

def createACL (portName : String) (rule : SecurityRule) : Acl where
  direction := if rule.direction = .egress then .fromLport else .toLport
  priority := 1000
  expression := buildACLMatch lib portName rule
  action := if rule.action = .deny then .drop else .allowRelated

def aclDel (direction : LportDirection) (priority : Nat) (expression : String) (acls : List Acl) :
    List Acl :=
  acls.filter fun acl =>
    !(acl.direction == direction && acl.priority == priority && acl.expression == expression)

def deleteACL (portName : String) (acls : List Acl) (rule : SecurityRule) : List Acl :=
  aclDel .toLport 1000 (buildACLMatch lib portName rule) acls

def applySecurityGroup (m : Manager) (portName : String) (rules : List SecurityRule) : Manager where
  rules := Function.update m.rules portName (some rules)
  acls := Function.update m.acls portName
    (rules.foldl (fun acls rule => acls ++ [createACL lib portName rule]) (m.acls portName))

def removeSecurityGroup (m : Manager) (portName : String) : Manager :=
  match m.rules portName with
  | none => m
  | some rules =>
    { rules := Function.update m.rules portName none
      acls := Function.update m.acls portName
        (rules.foldl (deleteACL lib portName) (m.acls portName)) }

def updateRules (m : Manager) (portName : String) (rules : List SecurityRule) : Manager :=
  applySecurityGroup lib (removeSecurityGroup lib m portName) portName rules

inductive Call where
  | apply (portName : String) (rules : List SecurityRule)
  | update (portName : String) (rules : List SecurityRule)
  | remove (portName : String)
deriving DecidableEq, Repr

def step (m : Manager) : Call → Manager
  | .apply portName rules => applySecurityGroup lib m portName rules
  | .update portName rules => updateRules lib m portName rules
  | .remove portName => removeSecurityGroup lib m portName

def after (calls : List Call) : Manager := calls.foldl (step lib) {}

def Follows (front : List Call) (call : Call) : Prop :=
  match call with
  | .apply _ _ => True
  | .update portName rules =>
    ((after lib (front ++ [call])).acls portName).Perm (rules.map (createACL lib portName))
  | .remove portName => (after lib (front ++ [call])).acls portName = []

/-- The rule sets applied to the port since it was last updated or cleared, that of
the update included. -/
def outstanding (portName : String) : List Call → List (List SecurityRule) :=
  List.foldl (fun sets call => match call with
    | .apply port rules => if port = portName then sets ++ [rules] else sets
    | .update port rules => if port = portName then [rules] else sets
    | .remove port => if port = portName then [] else sets) []

def Covered (portName : String) (sets : List (List SecurityRule)) : Prop :=
  ∀ set ∈ sets, ∀ rule ∈ set, rule.direction ≠ .egress ∧
    ∃ last ∈ sets.getLast?, ∃ other ∈ last,
      buildACLMatch lib portName other = buildACLMatch lib portName rule

def Clearable (front : List Call) : Call → Prop
  | .apply _ _ => True
  | .update portName _ => Covered lib portName (outstanding portName front)
  | .remove portName => Covered lib portName (outstanding portName front)

theorem after_snoc {front : List Call} {call : Call} :
    after lib (front ++ [call]) = step lib (after lib front) call := by
  rw [after, List.foldl_concat]
  rfl

variable {portName : String} {rules : List SecurityRule}

theorem outstanding_snoc {front : List Call} {call : Call} :
    outstanding portName (front ++ [call]) = match call with
      | .apply port rules =>
        if port = portName then outstanding portName front ++ [rules]
        else outstanding portName front
      | .update port rules => if port = portName then [rules] else outstanding portName front
      | .remove port => if port = portName then [] else outstanding portName front := by
  rw [outstanding, List.foldl_concat]

theorem create_all (acls : List Acl) :
    rules.foldl (fun acls rule => acls ++ [createACL lib portName rule]) acls =
      acls ++ rules.map (createACL lib portName) := by
  induction rules generalizing acls with
  | nil => simp
  | cons rule rest ih =>
    rw [List.foldl_cons, ih, List.map_cons, List.append_assoc, List.singleton_append]

theorem mem_delete_all (acls : List Acl)
    {acl : Acl} :
    acl ∈ rules.foldl (deleteACL lib portName) acls ↔ acl ∈ acls ∧ ∀ rule ∈ rules,
      ¬ (acl.direction = .toLport ∧ acl.priority = 1000 ∧
        acl.expression = buildACLMatch lib portName rule) := by
  induction rules generalizing acls with
  | nil => simp
  | cons rule rest ih =>
    rw [List.foldl_cons, ih, List.forall_mem_cons, ← and_assoc]
    refine and_congr_left fun _ => ?_
    simp only [deleteACL, aclDel, List.mem_filter, Bool.not_eq_eq_eq_not, Bool.not_true,
      ← Bool.not_eq_true, Bool.and_eq_true, beq_iff_eq, and_assoc]

theorem delete_all_nil_iff {last : List SecurityRule} {acls : List Acl}
    (same : acls.Perm (rules.map (createACL lib portName))) :
    last.foldl (deleteACL lib portName) acls = [] ↔
      ∀ rule ∈ rules, rule.direction ≠ .egress ∧ ∃ other ∈ last,
        buildACLMatch lib portName other = buildACLMatch lib portName rule := by
  rw [List.eq_nil_iff_forall_not_mem]
  constructor
  · intro gone rule member
    have deleted := gone (createACL lib portName rule)
    rw [mem_delete_all, same.mem_iff, not_and] at deleted
    have some := deleted (List.mem_map_of_mem member)
    simp only [not_forall, not_not] at some
    obtain ⟨other, listed, direction, _, expression⟩ := some
    refine ⟨fun leaves => ?_, other, listed, expression.symm⟩
    simp [createACL, leaves] at direction
  · intro covered acl left
    obtain ⟨member, kept⟩ := (mem_delete_all lib acls).mp left
    obtain ⟨rule, listed, rfl⟩ := List.mem_map.mp (same.mem_iff.mp member)
    obtain ⟨enters, other, present, expression⟩ := covered rule listed
    exact kept other present ⟨if_neg enters, rfl, expression.symm⟩

def Tracked (calls : List Call) : Prop :=
  ∀ portName, (after lib calls).rules portName = (outstanding portName calls).getLast? ∧
    ((after lib calls).acls portName).Perm
      ((outstanding portName calls).flatten.map (createACL lib portName))

theorem removed_nil_iff {calls : List Call} (tracked : Tracked lib calls) :
    (removeSecurityGroup lib (after lib calls) portName).acls portName = [] ↔
      Covered lib portName (outstanding portName calls) := by
  obtain ⟨recorded, present⟩ := tracked portName
  unfold removeSecurityGroup Covered
  rw [recorded]
  cases latest : (outstanding portName calls).getLast? with
  | none =>
    -- Without a record nothing was applied.
    rw [List.getLast?_eq_none_iff.mp latest] at present ⊢
    simpa using present.eq_nil
  | some last =>
    simp only [Function.update_self]
    rw [delete_all_nil_iff lib present]
    simp only [List.mem_flatten, forall_exists_index, and_imp, Option.mem_def,
      Option.some.injEq, exists_eq_left']
    exact ⟨fun covered set member rule inside => covered rule set member inside,
      fun covered rule set member inside => covered set member rule inside⟩

theorem follows_iff (front : List Call) (call : Call) (tracked : Tracked lib front) :
    Follows lib front call ↔ Clearable lib front call := by
  cases call with
  | apply portName rules => exact Iff.rfl
  | update portName rules =>
    simp only [Follows, Clearable, after_snoc, step, updateRules, applySecurityGroup,
      Function.update_self, create_all]
    rw [← removed_nil_iff lib tracked]
    constructor
    · intro same
      have lengths := same.length_eq
      rw [List.length_append] at lengths
      exact List.eq_nil_of_length_eq_zero (by omega)
    · intro empty
      rw [empty, List.nil_append]
  | remove portName =>
    simp only [Follows, Clearable, after_snoc, step]
    exact removed_nil_iff lib tracked

theorem remove_other (m : Manager) {other : String} (different : other ≠ portName) :
    (removeSecurityGroup lib m portName).rules other = m.rules other ∧
      (removeSecurityGroup lib m portName).acls other = m.acls other := by
  unfold removeSecurityGroup
  split
  · exact ⟨rfl, rfl⟩
  · exact ⟨Function.update_of_ne different _ _, Function.update_of_ne different _ _⟩

theorem remove_recorded {m : Manager} :
    (removeSecurityGroup lib m portName).rules portName = none := by
  unfold removeSecurityGroup
  split
  case h_1 absent => exact absent
  case h_2 => exact Function.update_self _ _ _

theorem tracked_step (front : List Call) (call : Call) (tracked : Tracked lib front)
    (follows : Follows lib front call) : Tracked lib (front ++ [call]) := by
  intro portName
  obtain ⟨recorded, present⟩ := tracked portName
  rw [after_snoc, outstanding_snoc]
  cases call with
  | apply port rules =>
    by_cases same : port = portName
    · subst same
      simp only [step, applySecurityGroup, Function.update_self, ↓reduceIte, create_all]
      refine ⟨by rw [List.getLast?_concat], ?_⟩
      rw [List.flatten_append, List.map_append, List.flatten_singleton]
      exact present.append_right _
    · simp only [step, applySecurityGroup, if_neg same, Function.update_of_ne (Ne.symm same)]
      exact ⟨recorded, present⟩
  | update port rules =>
    by_cases same : port = portName
    · subst same
      simp only [Follows, after_snoc] at follows
      refine ⟨?_, ?_⟩
      · simp [step, updateRules, applySecurityGroup]
      · simpa using follows
    · obtain ⟨rulesKept, aclsKept⟩ := remove_other lib (after lib front) (Ne.symm same)
      simp only [step, updateRules, applySecurityGroup, if_neg same,
        Function.update_of_ne (Ne.symm same), rulesKept, aclsKept]
      exact ⟨recorded, present⟩
  | remove port =>
    by_cases same : port = portName
    · subst same
      simp only [Follows, after_snoc, step] at follows
      simp only [step, ↓reduceIte]
      exact ⟨remove_recorded lib, by simp [follows]⟩
    · obtain ⟨rulesKept, aclsKept⟩ := remove_other lib (after lib front) (Ne.symm same)
      simp only [step, if_neg same, rulesKept, aclsKept]
      exact ⟨recorded, present⟩

/-- For all calls on all ports: every update leaves the ACLs of its rules and every
removal none, exactly when each of them finds a port that it can clear. -/
theorem acls_follow_iff (calls : List Call) :
    Each (Follows lib) calls ↔ Each (Clearable lib) calls :=
  each_iff
    (fun _ => ⟨rfl, List.Perm.refl _⟩) (follows_iff lib)
    (tracked_step lib) calls

/-- For lower case protocols and port names that need no escapes. -/
def plainLibrary : GoLibrary where
  toLower := id
  quote text := "\"" ++ text ++ "\""

def allowEgress : SecurityRule where
  id := "default-egress-ipv4"
  direction := .egress

def allowSSHRule (remoteIP : String) : SecurityRule where
  id := "allow-ssh"
  direction := .ingress
  protocol := "tcp"
  portMin := 22
  portMax := 22
  remoteIP := remoteIP

/-- The ACL of an egress rule outlives the removal of the group, and an ACL of the
first group outlives the removal of the second. -/
theorem revoked_rules_stay :
    ¬ Each (Follows plainLibrary) [.update "vm-1" [allowEgress], .remove "vm-1"] ∧
      ¬ Each (Follows plainLibrary)
        [.apply "vm-1" [allowSSHRule "10.0.0.0/8"], .apply "vm-1" [], .remove "vm-1"] := by
  constructor
  · intro every
    have none := every [.update "vm-1" [allowEgress]] (.remove "vm-1") [] rfl
    revert none
    unfold Follows
    decide
  · intro every
    have none := every [.apply "vm-1" [allowSSHRule "10.0.0.0/8"], .apply "vm-1" []]
      (.remove "vm-1") [] rfl
    revert none
    unfold Follows
    decide

end VcStack.NodeFirewalls
