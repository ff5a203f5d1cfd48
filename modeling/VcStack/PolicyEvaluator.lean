import VcStack.DenyOverrides
import VcStack.PolicyConditions

/-!
The IAM decision of internal/management/identity/policy_evaluator.go. Matching
follows the source branch by branch; the two loops of the evaluator keep its
early return. The loops are related to the order-free deny-overrides decision
once, and every later result reads that relation.
-/

namespace VcStack.PolicyEvaluator

open PolicyValues PolicyConditions DenyOverrides Reordering Text

def matchString (lib : GoLibrary) (pattern value : String) : Bool :=
  if pattern == "*" then true else lib.filepathMatch pattern value

/-- One string, or any string of a list; other JSON shapes match nothing. -/
def matchAnyString (accepts : String → Bool) : Json → Bool
  | .str pattern => accepts pattern
  | .arr items => items.any fun item =>
    match item with
    | .str pattern => accepts pattern
    | _ => false
  | _ => false

def matchAction (lib : GoLibrary) (pattern : Json) (action : String) : Bool :=
  matchAnyString (fun text => matchString lib text action) pattern

def matchVRNComponent (pattern value : String) : Bool :=
  if pattern == "*" then true
  else if pattern == value then true
  else if hasSuffix pattern "*" then hasPrefix value (String.ofList pattern.toList.dropLast)
  else false

def matchVRNResourcePart (lib : GoLibrary) (pattern value : String) : Bool :=
  if pattern == "*" || pattern == "*/*" then true
  else match cutString '/' pattern, cutString '/' value with
    | some (pType, pID), some (vType, vID) =>
      matchVRNComponent pType vType && matchVRNComponent pID vID
    | _, _ => lib.filepathMatch pattern value

def matchVRN (lib : GoLibrary) (pattern value : String) : Bool :=
  match splitN ':' 5 pattern, splitN ':' 5 value with
  | [p0, p1, p2, p3, p4], [v0, v1, v2, v3, v4] =>
    matchVRNComponent p0 v0 && matchVRNComponent p1 v1 &&
      matchVRNComponent p2 v2 && matchVRNComponent p3 v3 &&
      matchVRNResourcePart lib p4 v4
  -- A name with fewer parts only matches itself.
  | _, _ => pattern == value

def matchResourceString (lib : GoLibrary) (pattern value : String) : Bool :=
  if pattern == "*" then true
  else if hasPrefix pattern "vrn:" && hasPrefix value "vrn:" then matchVRN lib pattern value
  else lib.filepathMatch pattern value

def matchResource (lib : GoLibrary) (pattern : Json) (resource : String) : Bool :=
  matchAnyString (fun text => matchResourceString lib text resource) pattern

/-- A nil condition and one that parses to nil both leave `conditionMatch` true. -/
def conditionMatch (lib : GoLibrary) (condition : Json) (ctx : Option RequestContext) : Bool :=
  match condition with
  | .null => true
  | raw =>
    match parseConditionBlock raw with
    | none => true
    | some block => evaluateConditions lib block ctx

/-- The inner loop; `none` is the immediate `return false` of an explicit deny. -/
def evaluateStatements (lib : GoLibrary) (action resource : String)
    (ctx : Option RequestContext) : List Statement → Bool → Option Bool
  | [], allowed => some allowed
  | stmt :: rest, allowed =>
    if !matchAction lib stmt.action action || !matchResource lib stmt.resource resource then
      evaluateStatements lib action resource ctx rest allowed
    else if !conditionMatch lib stmt.condition ctx then
      evaluateStatements lib action resource ctx rest allowed
    else if stmt.effect == "Deny" then none
    else if stmt.effect == "Allow" then evaluateStatements lib action resource ctx rest true
    else evaluateStatements lib action resource ctx rest allowed

def evaluatePolicyList (lib : GoLibrary) (action resource : String)
    (ctx : Option RequestContext) : List Policy → Bool → Bool
  | [], allowed => allowed
  | policy :: rest, allowed =>
    match lib.unmarshal policy.document with
    -- A document that does not decode is skipped, its denies with it.
    | none => evaluatePolicyList lib action resource ctx rest allowed
    | some doc =>
      match evaluateStatements lib action resource ctx doc.statement allowed with
      | none => false
      | some flag => evaluatePolicyList lib action resource ctx rest flag

def evaluatePoliciesWithContext (lib : GoLibrary) (policies : List Policy)
    (action resource : String) (ctx : Option RequestContext) : Bool :=
  evaluatePolicyList lib action resource ctx policies false

def evaluatePolicies (lib : GoLibrary) (policies : List Policy)
    (action resource : String) : Bool :=
  evaluatePoliciesWithContext lib policies action resource none

def Applicable (lib : GoLibrary) (action resource : String) (ctx : Option RequestContext)
    (stmt : Statement) : Prop :=
  matchAction lib stmt.action action = true ∧ matchResource lib stmt.resource resource = true ∧
    conditionMatch lib stmt.condition ctx = true

instance (lib : GoLibrary) (action resource : String) (ctx : Option RequestContext)
    (stmt : Statement) : Decidable (Applicable lib action resource ctx stmt) :=
  inferInstanceAs (Decidable (_ ∧ _ ∧ _))

def statementVerdict (lib : GoLibrary) (action resource : String)
    (ctx : Option RequestContext) (stmt : Statement) : Verdict :=
  if Applicable lib action resource ctx stmt then
    if stmt.effect = "Deny" then .deny
    else if stmt.effect = "Allow" then .allow
    else .skip
  else .skip

variable (lib : GoLibrary) (policies : List Policy) (action resource : String)
  (ctx : Option RequestContext)

variable {stmt : Statement} {policy : Policy} {effect : String} {condition : Json}

theorem verdict_deny_iff :
    statementVerdict lib action resource ctx stmt = .deny ↔
      Applicable lib action resource ctx stmt ∧ stmt.effect = "Deny" := by
  unfold statementVerdict
  split
  · rename_i applies
    by_cases denies : stmt.effect = "Deny"
    · simp [denies, applies]
    · by_cases allows : stmt.effect = "Allow" <;> simp [denies, allows]
  · rename_i idle
    simp [idle]

theorem verdict_allow_iff :
    statementVerdict lib action resource ctx stmt = .allow ↔
      Applicable lib action resource ctx stmt ∧ stmt.effect = "Allow" := by
  unfold statementVerdict
  split
  · rename_i applies
    by_cases denies : stmt.effect = "Deny"
    · simp [denies]
    · by_cases allows : stmt.effect = "Allow" <;> simp [denies, allows, applies]
  · rename_i idle
    simp [idle]

theorem evaluate_statements_scan {statements : List Statement} (allowed : Bool) :
    evaluateStatements lib action resource ctx statements allowed =
      scan (statementVerdict lib action resource ctx) statements allowed := by
  induction statements generalizing allowed with
  | nil => rfl
  | cons stmt rest ih =>
    by_cases applies : Applicable lib action resource ctx stmt
    · have matched := applies
      simp only [Applicable] at matched
      by_cases denies : stmt.effect = "Deny"
      · simp [evaluateStatements, scan, statementVerdict, applies, matched, denies]
      · by_cases allows : stmt.effect = "Allow" <;>
          simp [evaluateStatements, scan, statementVerdict, applies, matched, denies, allows, ih]
    · -- A statement that does not apply is passed over by one of the two guards.
      have passed : evaluateStatements lib action resource ctx (stmt :: rest) allowed =
          evaluateStatements lib action resource ctx rest allowed := by
        simp only [Applicable, not_and, Bool.not_eq_true] at applies
        simp only [evaluateStatements]
        split
        · rfl
        · rename_i patterns
          simp only [Bool.or_eq_true, Bool.not_eq_true', not_or, Bool.not_eq_false] at patterns
          simp [applies patterns.1 patterns.2]
      simp [passed, scan, statementVerdict, applies, ih]

def decodedStatements (lib : GoLibrary) (policies : List Policy) : List Statement :=
  policies.flatMap fun policy =>
    match lib.unmarshal policy.document with
    | none => []
    | some doc => doc.statement

theorem decoded_append {front back : List Policy} :
    decodedStatements lib (front ++ back) =
      decodedStatements lib front ++ decodedStatements lib back := by
  simp [decodedStatements]

theorem mem_decoded_iff :
    stmt ∈ decodedStatements lib policies ↔
      ∃ policy ∈ policies, ∃ doc, lib.unmarshal policy.document = some doc ∧
        stmt ∈ doc.statement := by
  simp only [decodedStatements, List.mem_flatMap]
  refine exists_congr fun policy => and_congr_right fun _ => ?_
  cases decoded : lib.unmarshal policy.document with
  | none => simp
  | some doc => simp

theorem decoded_cons_skipped {rest : List Policy}
    (undecoded : lib.unmarshal policy.document = none) :
    decodedStatements lib (policy :: rest) = decodedStatements lib rest := by
  simp [decodedStatements, undecoded]

theorem decoded_cons_read {rest : List Policy} {doc : PolicyDocument}
    (decoded : lib.unmarshal policy.document = some doc) :
    decodedStatements lib (policy :: rest) = doc.statement ++ decodedStatements lib rest := by
  simp [decodedStatements, decoded]

theorem evaluate_policy_list_scan (policies : List Policy) (allowed : Bool) :
    evaluatePolicyList lib action resource ctx policies allowed =
      (scan (statementVerdict lib action resource ctx)
        (decodedStatements lib policies) allowed).getD false := by
  induction policies generalizing allowed with
  | nil => rfl
  | cons policy rest ih =>
    cases decoded : lib.unmarshal policy.document with
    | none =>
      rw [decoded_cons_skipped lib decoded, ← ih]
      simp only [evaluatePolicyList, decoded]
    | some doc =>
      -- One document is one inner loop; its flag is where the next one starts.
      rw [decoded_cons_read lib decoded, scan_append, ← evaluate_statements_scan]
      simp only [evaluatePolicyList, decoded]
      cases evaluateStatements lib action resource ctx doc.statement allowed with
      | none => rfl
      | some flag => exact ih flag

theorem evaluate_granted_iff :
    evaluatePoliciesWithContext lib policies action resource ctx = true ↔
      Granted (statementVerdict lib action resource ctx) (decodedStatements lib policies) := by
  rw [← scan_granted_iff]
  simp only [evaluatePoliciesWithContext, evaluate_policy_list_scan]
  cases scan (statementVerdict lib action resource ctx) (decodedStatements lib policies) false with
  | none => simp
  | some flag => simp

def HasApplicable (lib : GoLibrary) (policies : List Policy) (action resource : String)
    (ctx : Option RequestContext) (effect : String) : Prop :=
  ∃ policy ∈ policies, ∃ doc, lib.unmarshal policy.document = some doc ∧
    ∃ stmt ∈ doc.statement, stmt.effect = effect ∧ Applicable lib action resource ctx stmt

theorem has_applicable_decoded :
    HasApplicable lib policies action resource ctx effect ↔
      ∃ stmt ∈ decodedStatements lib policies,
        Applicable lib action resource ctx stmt ∧ stmt.effect = effect := by
  constructor
  · rintro ⟨policy, member, doc, decoded, stmt, inside, same, applies⟩
    exact ⟨stmt, (mem_decoded_iff lib policies).mpr ⟨policy, member, doc, decoded, inside⟩,
      applies, same⟩
  · rintro ⟨stmt, member, applies, same⟩
    obtain ⟨policy, listed, doc, decoded, inside⟩ := (mem_decoded_iff lib policies).mp member
    exact ⟨policy, listed, doc, decoded, stmt, inside, same, applies⟩

theorem allowed_iff :
    Allowed (statementVerdict lib action resource ctx) (decodedStatements lib policies) ↔
      HasApplicable lib policies action resource ctx "Allow" := by
  rw [has_applicable_decoded]
  exact exists_congr fun stmt => and_congr_right fun _ =>
    verdict_allow_iff lib action resource ctx

theorem denied_iff :
    Denied (statementVerdict lib action resource ctx) (decodedStatements lib policies) ↔
      HasApplicable lib policies action resource ctx "Deny" := by
  rw [has_applicable_decoded]
  exact exists_congr fun stmt => and_congr_right fun _ =>
    verdict_deny_iff lib action resource ctx

theorem evaluate_applicable_iff :
    evaluatePoliciesWithContext lib policies action resource ctx = true ↔
      HasApplicable lib policies action resource ctx "Allow" ∧
        ¬ HasApplicable lib policies action resource ctx "Deny" := by
  rw [evaluate_granted_iff, Granted, allowed_iff, denied_iff]

/-! Reordering. Policies may come in any order from the database, statements in
any order inside a document, and Go iterates the condition maps in any order. -/

theorem condition_match_object {entries : List (String × Json)} {ctx : Option RequestContext} :
    conditionMatch lib (.obj entries) ctx = entries.all (entryHolds lib ctx) :=
  evaluate_parsed_all rfl

theorem condition_match_reordered {left right : Json} (order : ConditionReordered left right) :
    conditionMatch lib left ctx = conditionMatch lib right ctx := by
  rcases order with same | ⟨entries, others, leftShape, rightShape, arranged⟩
  · rw [same]
  · subst leftShape rightShape
    rw [condition_match_object, condition_match_object]
    exact all_reordered entry_holds_reordered arranged

structure StatementReordered (left right : Statement) : Prop where
  effect : left.effect = right.effect
  action : left.action = right.action
  resource : left.resource = right.resource
  condition : ConditionReordered left.condition right.condition

def DocumentReordered (left right : PolicyDocument) : Prop :=
  Reordered StatementReordered left.statement right.statement

def PolicyReordered (lib : GoLibrary) (left right : Policy) : Prop :=
  Option.Rel DocumentReordered (lib.unmarshal left.document) (lib.unmarshal right.document)

theorem applicable_reordered {left right : Statement} (order : StatementReordered left right) :
    Applicable lib action resource ctx left ↔ Applicable lib action resource ctx right := by
  simp only [Applicable, order.action, order.resource,
    condition_match_reordered lib ctx order.condition]

theorem has_applicable_reordered {others : List Policy} {action resource : String}
    {ctx : Option RequestContext}
    (order : Reordered (PolicyReordered lib) policies others) :
    HasApplicable lib policies action resource ctx effect ↔
      HasApplicable lib others action resource ctx effect := by
  refine exists_reordered_iff _ ?_ order
  intro left right related
  -- Of the four cases only the one where both documents decode has statements.
  unfold PolicyReordered at related
  cases leftDoc : lib.unmarshal left.document with
  | none =>
    rw [leftDoc] at related
    cases rightDoc : lib.unmarshal right.document with
    | none => simp
    | some doc =>
      rw [rightDoc] at related
      cases related
  | some leftDoc' =>
    rw [leftDoc] at related
    cases rightDoc : lib.unmarshal right.document with
    | none =>
      rw [rightDoc] at related
      cases related
    | some rightDoc' =>
      rw [rightDoc] at related
      cases related with
      | some statements =>
        have inner := exists_reordered_iff
          (fun stmt => stmt.effect = effect ∧ Applicable lib action resource ctx stmt)
          (fun one two pair => by
            rw [pair.effect, applicable_reordered lib action resource ctx pair]) statements
        simpa using inner

/-- The short-circuiting scan is the deny-overrides decision, and no order that
Go or the database is free to choose can change it. -/
theorem evaluate_deny_overrides (lib : GoLibrary) (policies : List Policy)
    (action resource : String) (ctx : Option RequestContext) :
    (evaluatePoliciesWithContext lib policies action resource ctx = true ↔
      HasApplicable lib policies action resource ctx "Allow" ∧
        ¬ HasApplicable lib policies action resource ctx "Deny") ∧
    ∀ others, Reordered (PolicyReordered lib) policies others →
      evaluatePoliciesWithContext lib others action resource ctx =
        evaluatePoliciesWithContext lib policies action resource ctx := by
  refine ⟨evaluate_applicable_iff lib policies action resource ctx, ?_⟩
  intro others order
  apply Bool.eq_iff_iff.mpr
  rw [evaluate_applicable_iff, evaluate_applicable_iff,
    has_applicable_reordered lib policies order,
    has_applicable_reordered lib policies order]

/-! Example documents: everything is allowed, and one user is denied under a
condition on two keys. -/

def allowAll : Json :=
  .obj [("Effect", .str "Allow"), ("Action", .str "*"), ("Resource", .str "*")]

def denyWhen (condition : Json) : Json :=
  .obj [("Effect", .str "Deny"), ("Action", .str "*"), ("Resource", .str "*"),
    ("Condition", condition)]

def allowWhen (condition : Json) : Json :=
  .obj [("Effect", .str "Allow"), ("Action", .str "*"), ("Resource", .str "*"),
    ("Condition", condition)]

def policyOf (id : Nat) (statements : List Json) : Policy :=
  { id := id, document := some [("Statement", .arr statements)] }

def guestKeys : List (String × Json) :=
  [("vc:Username", .str "guest"), ("vc:ProjectId", .str "p1")]

def guestPolicies (keys : List (String × Json)) : List Policy :=
  [policyOf 1 [allowAll], policyOf 2 [denyWhen (.obj [("StringEquals", .obj keys)])]]

theorem guest_policies_reordered :
    Reordered (PolicyReordered plainLibrary) (guestPolicies guestKeys)
      (guestPolicies guestKeys.reverse).reverse := by
  refine ⟨(guestPolicies guestKeys).reverse, (List.reverse_perm _).symm, ?_⟩
  refine .cons (.some ?_) (.cons (.some ?_) .nil)
  · refine ⟨_, List.Perm.refl _, .cons ⟨rfl, rfl, rfl, Or.inr ?_⟩ .nil⟩
    refine ⟨_, _, rfl, rfl, _, List.Perm.refl _, .cons ⟨rfl, Or.inr ?_⟩ .nil⟩
    exact ⟨_, _, rfl, rfl, (List.reverse_perm guestKeys).symm⟩
  · exact ⟨_, List.Perm.refl _, .cons ⟨rfl, rfl, rfl, Or.inl rfl⟩ .nil⟩

theorem guest_decision_order_free :
    evaluatePoliciesWithContext plainLibrary (guestPolicies guestKeys.reverse).reverse
        "compute:delete" "*" (some { username := "guest", projectID := "p1" }) =
      evaluatePoliciesWithContext plainLibrary (guestPolicies guestKeys)
        "compute:delete" "*" (some { username := "guest", projectID := "p1" }) :=
  (evaluate_deny_overrides plainLibrary (guestPolicies guestKeys) "compute:delete" "*"
    (some { username := "guest", projectID := "p1" })).2 _ guest_policies_reordered

/-! Malformed conditions. The parser answers nil for a condition that is not an
object and drops operator entries that are not; the evaluator takes both for
"nothing to check". -/

def MalformedCondition : Json → Prop
  | .null => False
  | .obj entries => ∃ entry ∈ entries, asConditionKeys entry.2 = none
  | _ => True

theorem as_condition_keys_some {raw : Json} {keys : List (String × Json)}
    (parsed : asConditionKeys raw = some keys) : raw = .obj keys := by
  cases raw <;> simp [asConditionKeys] at parsed
  rw [parsed]

def RemainderRefuses (lib : GoLibrary) (ctx : Option RequestContext) (condition : Json) : Prop :=
  ∃ entries operator keys, condition = .obj entries ∧ (operator, Json.obj keys) ∈ entries ∧
    operatorHolds lib ctx (operator, keys) = false

theorem condition_refused_iff :
    conditionMatch lib condition ctx = false ↔ RemainderRefuses lib ctx condition := by
  cases condition with
  | obj entries =>
    rw [condition_match_object, List.all_eq_false]
    constructor
    · rintro ⟨⟨operator, raw⟩, member, refused⟩
      cases keys : asConditionKeys raw with
      | none => simp [entryHolds, keys] at refused
      | some keyValues =>
        have shape := as_condition_keys_some keys
        subst shape
        refine ⟨entries, operator, keyValues, rfl, member, ?_⟩
        simpa [entryHolds, asConditionKeys] using refused
    · rintro ⟨others, operator, keys, shape, member, refused⟩
      cases shape
      exact ⟨(operator, .obj keys), member, by simpa [entryHolds, asConditionKeys] using refused⟩
  | null => simp [conditionMatch, RemainderRefuses]
  | bool value => simp [conditionMatch, parseConditionBlock, RemainderRefuses]
  | num literal => simp [conditionMatch, parseConditionBlock, RemainderRefuses]
  | str value => simp [conditionMatch, parseConditionBlock, RemainderRefuses]
  | arr items => simp [conditionMatch, parseConditionBlock, RemainderRefuses]

theorem single_allow_iff {version : String}
    {action resource : String} {ctx : Option RequestContext}
    (single : lib.unmarshal policy.document = some { version := version, statement := [stmt] })
    (allow : stmt.effect = "Allow") :
    evaluatePoliciesWithContext lib [policy] action resource ctx = true ↔
      Applicable lib action resource ctx stmt := by
  have decoded : decodedStatements lib [policy] = [stmt] := by
    simp [decodedStatements, single]
  rw [evaluate_applicable_iff, has_applicable_decoded, has_applicable_decoded, decoded]
  simp [allow]

/-- A malformed condition is refused exactly when something else refuses: the
patterns, or a well-formed operator entry next to the malformed one. -/
theorem malformed_condition_refused_iff (lib : GoLibrary) (policy : Policy) (version : String)
    (stmt : Statement) (action resource : String) (ctx : Option RequestContext)
    (single : lib.unmarshal policy.document = some { version := version, statement := [stmt] })
    (allow : stmt.effect = "Allow") (malformed : MalformedCondition stmt.condition) :
    evaluatePoliciesWithContext lib [policy] action resource ctx = false ↔
      matchAction lib stmt.action action = false ∨
      matchResource lib stmt.resource resource = false ∨
      ∃ entries dropped operator keys, stmt.condition = .obj entries ∧
        dropped ∈ entries ∧ asConditionKeys dropped.2 = none ∧
        (operator, Json.obj keys) ∈ entries ∧ operatorHolds lib ctx (operator, keys) = false := by
  have decided : evaluatePoliciesWithContext lib [policy] action resource ctx = false ↔
      matchAction lib stmt.action action = false ∨
      matchResource lib stmt.resource resource = false ∨
      RemainderRefuses lib ctx stmt.condition := by
    rw [← condition_refused_iff, ← Bool.not_eq_true, single_allow_iff lib single allow]
    simp only [Applicable, not_and_or, Bool.not_eq_true]
  rw [decided]
  refine or_congr_right (or_congr_right ?_)
  constructor
  · rintro ⟨entries, operator, keys, shape, member, refused⟩
    rw [shape] at malformed
    obtain ⟨dropped, listed, unparsed⟩ := malformed
    exact ⟨entries, dropped, operator, keys, shape, listed, unparsed, member, refused⟩
  · rintro ⟨entries, _, operator, keys, shape, _, _, member, refused⟩
    exact ⟨entries, operator, keys, shape, member, refused⟩

def halfCondition : Json :=
  .obj [("IpAddress", .str "10.0.0.0/8"), ("StringEquals", .obj [("vc:Username", .str "ops")])]

theorem half_condition_refuses_guest :
    evaluatePoliciesWithContext plainLibrary [policyOf 1 [allowWhen halfCondition]]
      "compute:delete" "*" (some { username := "guest" }) = false := by
  apply (malformed_condition_refused_iff plainLibrary (policyOf 1 [allowWhen halfCondition]) ""
    { effect := "Allow", action := .str "*", resource := .str "*", condition := halfCondition }
    "compute:delete" "*" (some { username := "guest" }) rfl rfl
    ⟨("IpAddress", .str "10.0.0.0/8"), by simp, rfl⟩).mpr
  refine Or.inr (Or.inr ⟨_, ("IpAddress", .str "10.0.0.0/8"), "StringEquals",
    [("vc:Username", .str "ops")], rfl, by simp, rfl, by simp, ?_⟩)
  decide

/-- A condition that is a string, and an operator entry that is one, both let
the allow through for a request without any context. -/
theorem malformed_condition_allows :
    (MalformedCondition (.str "10.0.0.0/8") ∧
      evaluatePoliciesWithContext plainLibrary [policyOf 1 [allowWhen (.str "10.0.0.0/8")]]
        "compute:delete" "*" none = true) ∧
    MalformedCondition (.obj [("IpAddress", .str "10.0.0.0/8")]) ∧
      evaluatePoliciesWithContext plainLibrary
        [policyOf 1 [allowWhen (.obj [("IpAddress", .str "10.0.0.0/8")])]]
        "compute:delete" "*" none = true := by
  refine ⟨⟨trivial, by decide⟩, ⟨("IpAddress", .str "10.0.0.0/8"), by simp, rfl⟩, by decide⟩

/-! Evaluation without a context. A nil context skips every statement with a
non-empty block. That is conservative for allows and permissive for denies. -/

def ConditionalDeny (lib : GoLibrary) (policies : List Policy) (action resource : String)
    (ctx : RequestContext) : Prop :=
  ∃ policy ∈ policies, ∃ doc, lib.unmarshal policy.document = some doc ∧
    ∃ stmt ∈ doc.statement, stmt.effect = "Deny" ∧
      matchAction lib stmt.action action = true ∧
      matchResource lib stmt.resource resource = true ∧
      ∃ block, parseConditionBlock stmt.condition = some block ∧ block ≠ [] ∧
        evaluateConditions lib block (some ctx) = true

theorem condition_match_parsed {ctx : Option RequestContext} :
    conditionMatch lib condition ctx =
      match parseConditionBlock condition with
      | none => true
      | some block => evaluateConditions lib block ctx := by
  cases condition <;> rfl

theorem condition_nil_weakens {ctx : RequestContext}
    (holds : conditionMatch lib condition none = true) :
    conditionMatch lib condition (some ctx) = true := by
  rw [condition_match_parsed] at holds ⊢
  cases parsed : parseConditionBlock condition with
  | none => rfl
  | some block =>
    have empty : block = [] := by simpa [parsed, evaluateConditions] using holds
    subst empty
    rfl

theorem applicable_nil_weakens {ctx : RequestContext}
    (found : HasApplicable lib policies action resource none effect) :
    HasApplicable lib policies action resource (some ctx) effect := by
  obtain ⟨policy, member, doc, decoded, stmt, inside, same, acts, reaches, holds⟩ := found
  exact ⟨policy, member, doc, decoded, stmt, inside, same, acts, reaches,
    condition_nil_weakens lib holds⟩

theorem conditional_deny_applies {ctx : RequestContext}
    (found : ConditionalDeny lib policies action resource ctx) :
    HasApplicable lib policies action resource (some ctx) "Deny" := by
  obtain ⟨policy, member, doc, decoded, stmt, inside, same, acts, reaches, block, parsed, _,
    holds⟩ := found
  refine ⟨policy, member, doc, decoded, stmt, inside, same, acts, reaches, ?_⟩
  rw [condition_match_parsed, parsed]
  exact holds

theorem deny_without_nil_conditional {ctx : RequestContext}
    (found : HasApplicable lib policies action resource (some ctx) "Deny")
    (absent : ¬ HasApplicable lib policies action resource none "Deny") :
    ConditionalDeny lib policies action resource ctx := by
  obtain ⟨policy, member, doc, decoded, stmt, inside, same, acts, reaches, holds⟩ := found
  refine ⟨policy, member, doc, decoded, stmt, inside, same, acts, reaches, ?_⟩
  have silent : conditionMatch lib stmt.condition none ≠ true := by
    intro nilHolds
    exact absent ⟨policy, member, doc, decoded, stmt, inside, same, acts, reaches, nilHolds⟩
  rw [condition_match_parsed] at holds silent
  cases parsed : parseConditionBlock stmt.condition with
  | none => simp [parsed] at silent
  | some block =>
    refine ⟨block, rfl, ?_, by simpa [parsed] using holds⟩
    intro empty
    subst empty
    simp [parsed, evaluateConditions] at silent

/-- What is granted without a context stays granted with one exactly when no
matching deny has a non-empty condition that the context satisfies. -/
theorem nil_context_conservative_iff (lib : GoLibrary) (policies : List Policy)
    (action resource : String) (ctx : RequestContext)
    (granted : evaluatePolicies lib policies action resource = true) :
    evaluatePoliciesWithContext lib policies action resource (some ctx) = true ↔
      ¬ ConditionalDeny lib policies action resource ctx := by
  obtain ⟨allowed, undenied⟩ := (evaluate_applicable_iff lib policies action resource none).mp granted
  rw [evaluate_applicable_iff]
  constructor
  · rintro ⟨_, clear⟩ found
    exact clear (conditional_deny_applies lib policies action resource found)
  · intro clear
    refine ⟨applicable_nil_weakens lib policies action resource allowed, ?_⟩
    intro found
    exact clear (deny_without_nil_conditional lib policies action resource found undenied)

theorem member_kept_with_context :
    evaluatePolicies plainLibrary (guestPolicies guestKeys) "compute:delete" "*" = true ∧
      ¬ ConditionalDeny plainLibrary (guestPolicies guestKeys) "compute:delete" "*"
        { username := "member", projectID := "p1" } :=
  ⟨by decide, (nil_context_conservative_iff plainLibrary (guestPolicies guestKeys)
    "compute:delete" "*" { username := "member", projectID := "p1" } (by decide)).mp (by decide)⟩

/-- The guest is denied in context, and allowed when no context is given. -/
theorem guest_gains_without_context :
    evaluatePolicies plainLibrary (guestPolicies guestKeys) "compute:delete" "*" = true ∧
      evaluatePoliciesWithContext plainLibrary (guestPolicies guestKeys) "compute:delete" "*"
        (some { username := "guest", projectID := "p1" }) = false := by
  decide

end VcStack.PolicyEvaluator
