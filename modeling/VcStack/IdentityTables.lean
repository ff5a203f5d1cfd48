import VcStack.PolicyEvaluator

/-!
The identity tables of internal/management/identity and the reads that gather a
principal's policies: enforcement (`Authorize` in service.go) and the what-if
simulator (access_analytics.go). A preloaded association lists the joined rows
in table order; decisions over them are order-free, so nothing depends on the
order the database picks.
-/

namespace VcStack.IdentityTables

open PolicyValues PolicyConditions PolicyEvaluator DenyOverrides

structure User where
  id : Nat
  username : String := ""
  email : String := ""
  password : String := ""
  isActive : Bool := true
  isAdmin : Bool := false
  mfaEnabled : Bool := false
  mfaSecret : String := ""
  /-- hashed codes; the empty column and the empty JSON array are both `[]` -/
  recoveryCodes : List String := []

structure Permission where
  id : Nat
  name : String
  resource : String
  action : String

structure Role where
  id : Nat
  name : String

structure Group where
  id : Nat
  name : String

structure ServiceAccount where
  id : Nat
  name : String

structure PermissionBoundary where
  id : Nat
  entityType : String
  entityID : Nat
  policyID : Nat
  deriving DecidableEq

/-- Tables list their rows in primary key order, the order `First` reads them
in. Join tables are lists of id pairs, owner first. -/
structure Database where
  users : List User := []
  roles : List Role := []
  permissions : List Permission := []
  policies : List Policy := []
  groups : List Group := []
  serviceAccounts : List ServiceAccount := []
  permissionBoundaries : List PermissionBoundary := []
  userRoles : List (Nat × Nat) := []
  userPolicies : List (Nat × Nat) := []
  rolePermissions : List (Nat × Nat) := []
  rolePolicies : List (Nat × Nat) := []
  groupUsers : List (Nat × Nat) := []
  groupRoles : List (Nat × Nat) := []
  groupPolicies : List (Nat × Nat) := []
  serviceAccountRoles : List (Nat × Nat) := []
  serviceAccountPolicies : List (Nat × Nat) := []

namespace Database
variable (db : Database)

def policiesJoined (joins : List (Nat × Nat)) (owner : Nat) : List Policy :=
  db.policies.filter fun policy => joins.contains (owner, policy.id)

def rolesJoined (joins : List (Nat × Nat)) (owner : Nat) : List Role :=
  db.roles.filter fun role => joins.contains (owner, role.id)

def permissionsOf (role : Role) : List Permission :=
  db.permissions.filter fun permission => db.rolePermissions.contains (role.id, permission.id)

def firstUser (userID : Nat) : Option User :=
  db.users.find? fun user => user.id == userID

/-- `append(direct, role.Policies...)` over the roles of the owner, the shape
all three kinds of principal share. -/
def collectPolicies (policyJoins roleJoins : List (Nat × Nat)) (owner : Nat) : List Policy :=
  db.policiesJoined policyJoins owner ++
    (db.rolesJoined roleJoins owner).flatMap fun role =>
      db.policiesJoined db.rolePolicies role.id

def ownPolicies (userID : Nat) : List Policy :=
  db.collectPolicies db.userPolicies db.userRoles userID

def listUserGroups (userID : Nat) : List Group :=
  db.groups.filter fun group => db.groupUsers.contains (group.id, userID)

def inheritedPolicies (userID : Nat) : List Policy :=
  (db.listUserGroups userID).flatMap fun group => db.policiesJoined db.groupPolicies group.id

def getPermissionBoundary (entityType : String) (entityID : Nat) : Option PermissionBoundary :=
  db.permissionBoundaries.find? fun row => row.entityType == entityType && row.entityID == entityID

/-- `Preload("Policy")`; a dangling reference leaves the zero policy. -/
def boundaryPolicy (row : PermissionBoundary) : Policy :=
  (db.policies.find? fun policy => policy.id == row.policyID).getD { id := 0 }

end Database

/-- `none` is the lookup error; a missing user is never authorized. -/
def authorize (lib : GoLibrary) (db : Database) (userID : Nat) (action resource : String) :
    Option Bool :=
  match db.firstUser userID with
  | none => none
  | some user =>
    if user.isAdmin then some true
    else some (evaluatePolicies lib (db.ownPolicies userID) action resource)

inductive Decision where
  | allow
  | deny
  | implicitDeny
  deriving DecidableEq, Repr

structure SimulationResult where
  action : String
  resource : String
  decision : Decision := .implicitDeny
  matchedPolicy : String := ""
  matchedEffect : String := ""
  boundaryApplied : Bool := false

structure SimulationContext where
  sourceIP : String := ""
  tags : Option (List (String × String)) := none
  timestamp : String := ""

structure SimulateRequest where
  principalType : String
  principalID : Nat
  actions : List String
  resources : List String
  context : Option SimulationContext := none
  additionalPolicies : List Policy := []

structure SimulateResponse where
  principalType : String
  principalID : Nat
  results : List SimulationResult
  timestamp : String

def collectPrincipalPolicies (db : Database) (principalType : String) (principalID : Nat) :
    Option (List Policy) :=
  match principalType with
  | "user" =>
    match db.firstUser principalID with
    | none => none
    | some _ => some (db.ownPolicies principalID ++ db.inheritedPolicies principalID)
  | "group" =>
    match db.groups.find? fun group => group.id == principalID with
    | none => none
    | some _ => some (db.collectPolicies db.groupPolicies db.groupRoles principalID)
  | "service_account" =>
    match db.serviceAccounts.find? fun account => account.id == principalID with
    | none => none
    | some _ =>
      some (db.collectPolicies db.serviceAccountPolicies db.serviceAccountRoles principalID)
  | _ => none

/-- `Except.error` is the `return result` of an explicit deny. -/
def simulateStatements (lib : GoLibrary) (ctx : Option RequestContext) (policyName : String) :
    List Statement → SimulationResult → Except SimulationResult SimulationResult
  | [], result => .ok result
  | stmt :: rest, result =>
    if !matchAction lib stmt.action result.action ||
        !matchResource lib stmt.resource result.resource then
      simulateStatements lib ctx policyName rest result
    else if !conditionMatch lib stmt.condition ctx then
      simulateStatements lib ctx policyName rest result
    else if stmt.effect == "Deny" then
      .error { result with
        decision := .deny, matchedPolicy := policyName, matchedEffect := "Deny" }
    else if stmt.effect == "Allow" then
      simulateStatements lib ctx policyName rest { result with
        decision := .allow, matchedPolicy := policyName, matchedEffect := "Allow" }
    else simulateStatements lib ctx policyName rest result

def simulatePolicyList (lib : GoLibrary) (ctx : Option RequestContext) :
    List Policy → SimulationResult → Except SimulationResult SimulationResult
  | [], result => .ok result
  | policy :: rest, result =>
    match lib.unmarshal policy.document with
    | none => simulatePolicyList lib ctx rest result
    | some doc =>
      match simulateStatements lib ctx policy.name doc.statement result with
      | .error final => .error final
      | .ok next => simulatePolicyList lib ctx rest next

def simulateSingle (lib : GoLibrary) (policies : List Policy) (action resource : String)
    (ctx : Option RequestContext) (boundary : Option Policy) : SimulationResult :=
  match simulatePolicyList lib ctx policies { action := action, resource := resource } with
  | .error final => final
  | .ok result =>
    match result.decision, boundary with
    | .allow, some policy =>
      if !evaluatePolicies lib [policy] action resource then
        { result with
          decision := .deny
          matchedPolicy := policy.name ++ " (boundary)"
          matchedEffect := "Deny"
          boundaryApplied := true }
      else result
    | _, _ => result

def requestContextOf (lib : GoLibrary) (now : GoTime) (context : SimulationContext) :
    RequestContext :=
  { sourceIP := context.sourceIP
    currentTime :=
      if context.timestamp != "" then (lib.parseRFC3339 context.timestamp).getD now else now
    tags := context.tags }

def simulatePolicies (lib : GoLibrary) (db : Database) (now : GoTime) (req : SimulateRequest) :
    Option SimulateResponse :=
  match collectPrincipalPolicies db req.principalType req.principalID with
  | none => none
  | some collected =>
    let policies := collected ++ req.additionalPolicies
    let ctx := req.context.map (requestContextOf lib now)
    let boundary :=
      (db.getPermissionBoundary req.principalType req.principalID).map db.boundaryPolicy
    some {
      principalType := req.principalType
      principalID := req.principalID
      results := req.actions.flatMap fun action => req.resources.map fun resource =>
        simulateSingle lib policies action resource ctx boundary
      timestamp := lib.formatRFC3339 now }

/-! The simulator's two loops follow the evaluator's scan: an explicit deny ends
both, and the recorded decision is the accumulated flag. -/

def decisionOf (allowed : Bool) : Decision := if allowed then .allow else .implicitDeny

def Tracks (action resource : String) :
    Except SimulationResult SimulationResult → Option Bool → Prop
  | .error final, none =>
    final.action = action ∧ final.resource = resource ∧ final.decision = .deny
  | .ok result, some allowed =>
    result.action = action ∧ result.resource = resource ∧ result.decision = decisionOf allowed
  | _, _ => False

variable (lib : GoLibrary) (ctx : Option RequestContext) (policies : List Policy) (action : String)

variable {resource : String}

theorem tracks_cases {outcome : Except SimulationResult SimulationResult}
    {scanned : Option Bool} (tracked : Tracks action resource outcome scanned) :
    (∃ final, outcome = .error final ∧ scanned = none ∧ final.action = action ∧
      final.resource = resource ∧ final.decision = .deny) ∨
    ∃ result allowed, outcome = .ok result ∧ scanned = some allowed ∧ result.action = action ∧
      result.resource = resource ∧ result.decision = decisionOf allowed := by
  cases outcome with
  | error final =>
    cases scanned with
    | none => exact Or.inl ⟨final, rfl, rfl, tracked⟩
    | some allowed => exact absurd tracked id
  | ok result =>
    cases scanned with
    | none => exact absurd tracked id
    | some allowed => exact Or.inr ⟨result, allowed, rfl, rfl, tracked⟩

theorem simulate_statements_tracks {action : String} (policyName : String)
    (statements : List Statement) (result : SimulationResult) (allowed : Bool)
    (start : Tracks action resource (.ok result) (some allowed)) :
    Tracks action resource (simulateStatements lib ctx policyName statements result)
      (evaluateStatements lib action resource ctx statements allowed) := by
  induction statements generalizing result allowed with
  | nil => exact start
  | cons stmt rest ih =>
    have sameAction : result.action = action := start.1
    have sameResource : result.resource = resource := start.2.1
    simp only [simulateStatements, evaluateStatements, sameAction, sameResource]
    -- Both loops test the same guards in the same order, so one split serves both.
    split
    · exact ih result allowed start
    · split
      · exact ih result allowed start
      · split
        · exact ⟨rfl, rfl, rfl⟩
        · split
          · exact ih _ true ⟨rfl, rfl, rfl⟩
          · exact ih result allowed start

theorem simulate_policy_list_tracks (policies : List Policy)
    (result : SimulationResult) (allowed : Bool)
    (start : Tracks action resource (.ok result) (some allowed)) :
    Tracks action resource (simulatePolicyList lib ctx policies result)
      (scan (statementVerdict lib action resource ctx)
        (decodedStatements lib policies) allowed) := by
  induction policies generalizing result allowed with
  | nil => exact start
  | cons policy rest ih =>
    cases decoded : lib.unmarshal policy.document with
    | none =>
      rw [decoded_cons_skipped lib decoded]
      simp only [simulatePolicyList, decoded]
      exact ih result allowed start
    | some doc =>
      have inner := simulate_statements_tracks lib ctx policy.name
        doc.statement result allowed start
      rw [evaluate_statements_scan] at inner
      rw [decoded_cons_read lib decoded, scan_append]
      simp only [simulatePolicyList, decoded]
      rcases tracks_cases action inner with
        ⟨final, simulated, scanned, ended⟩ | ⟨next, flag, simulated, scanned, carried⟩
      · rw [simulated, scanned]
        exact ended
      · rw [simulated, scanned]
        exact ih next flag carried

theorem simulate_run_cases (resource : String) (ctx : Option RequestContext) :
    (∃ final, simulatePolicyList lib ctx policies { action := action, resource := resource } =
        .error final ∧ final.action = action ∧ final.resource = resource ∧
      final.decision = .deny ∧ evaluatePoliciesWithContext lib policies action resource ctx = false) ∨
    ∃ result, simulatePolicyList lib ctx policies { action := action, resource := resource } =
        .ok result ∧ result.action = action ∧ result.resource = resource ∧
      result.decision = decisionOf (evaluatePoliciesWithContext lib policies action resource ctx) := by
  have tracked := simulate_policy_list_tracks lib ctx action policies
    { action := action, resource := resource } false ⟨rfl, rfl, rfl⟩
  have evaluated := evaluate_policy_list_scan lib action resource ctx policies false
  rcases tracks_cases action tracked with
    ⟨final, simulated, scanned, sameAction, sameResource, denied⟩ |
    ⟨result, flag, simulated, scanned, sameAction, sameResource, decided⟩
  · rw [scanned] at evaluated
    exact Or.inl ⟨final, simulated, sameAction, sameResource, denied, evaluated⟩
  · rw [scanned] at evaluated
    have flagged : evaluatePoliciesWithContext lib policies action resource ctx = flag := evaluated
    exact Or.inr ⟨result, simulated, sameAction, sameResource, by rw [decided, flagged]⟩

/-- A simulated pair is an allow exactly when the evaluator allows it and the
boundary, when there is one, allows it too. -/
theorem simulate_single_allow_iff {ctx : Option RequestContext}
    {boundary : Option Policy} :
    (simulateSingle lib policies action resource ctx boundary).decision = .allow ↔
      evaluatePoliciesWithContext lib policies action resource ctx = true ∧
        ∀ policy, boundary = some policy → evaluatePolicies lib [policy] action resource = true := by
  unfold simulateSingle
  rcases simulate_run_cases lib policies action resource ctx with
    ⟨final, simulated, _, _, denied, refused⟩ | ⟨result, simulated, _, _, decided⟩
  · simp [simulated, denied, refused]
  · cases flag : evaluatePoliciesWithContext lib policies action resource ctx with
    | false => simp [simulated, decided, flag, decisionOf]
    | true =>
      have allowed : result.decision = .allow := by simp [decided, flag, decisionOf]
      cases boundary with
      | none => simp [simulated, allowed]
      | some policy =>
        cases bounded : evaluatePolicies lib [policy] action resource <;>
          simp [simulated, allowed, bounded]

theorem simulate_single_pair (resource : String) (ctx : Option RequestContext)
    (boundary : Option Policy) :
    (simulateSingle lib policies action resource ctx boundary).action = action ∧
      (simulateSingle lib policies action resource ctx boundary).resource = resource := by
  unfold simulateSingle
  rcases simulate_run_cases lib policies action resource ctx with
    ⟨final, simulated, sameAction, sameResource, _⟩ |
    ⟨result, simulated, sameAction, sameResource, _⟩
  · rw [simulated]
    exact ⟨sameAction, sameResource⟩
  · rw [simulated]
    dsimp only
    split
    · split <;> exact ⟨sameAction, sameResource⟩
    · exact ⟨sameAction, sameResource⟩

/-! Enforcement against the boundary and against the simulator, for one user
who exists and is no administrator. -/
section OrdinaryUser
variable (lib : GoLibrary) (db : Database) (userID : Nat) (user : User)
  (found : db.firstUser userID = some user) (ordinary : user.isAdmin = false)
include found ordinary

theorem authorize_own_iff {action : String} :
    authorize lib db userID action resource = some true ↔
      HasApplicable lib (db.ownPolicies userID) action resource none "Allow" ∧
        ¬ HasApplicable lib (db.ownPolicies userID) action resource none "Deny" := by
  have evaluated : authorize lib db userID action resource =
      some (evaluatePolicies lib (db.ownPolicies userID) action resource) := by
    simp [authorize, found, ordinary]
  rw [evaluated, Option.some.injEq]
  exact evaluate_applicable_iff lib (db.ownPolicies userID) action resource none

/-- Enforcement never reads the boundary table, so a boundary is a maximum only
where it is redundant: the user's own policies do not grant the pair, or the
boundary policy grants it as well. -/
theorem boundary_maximum_iff (action resource : String) :
    ∀ row ∈ db.permissionBoundaries, row.entityType = "user" → row.entityID = userID →
      ((authorize lib db userID action resource = some true →
          evaluatePolicies lib [db.boundaryPolicy row] action resource = true) ↔
        ¬ HasApplicable lib (db.ownPolicies userID) action resource none "Allow" ∨
        HasApplicable lib (db.ownPolicies userID) action resource none "Deny" ∨
        (HasApplicable lib [db.boundaryPolicy row] action resource none "Allow" ∧
          ¬ HasApplicable lib [db.boundaryPolicy row] action resource none "Deny")) := by
  intro row _ _ _
  have bounded := evaluate_applicable_iff lib [db.boundaryPolicy row] action resource none
  rw [authorize_own_iff lib db userID user found ordinary, evaluatePolicies, bounded]
  rw [imp_iff_not_or, not_and_or, not_not, or_assoc]

omit ordinary in
theorem collect_user_policies :
    collectPrincipalPolicies db "user" userID =
      some (db.ownPolicies userID ++ db.inheritedPolicies userID) := by
  simp [collectPrincipalPolicies, found]

end OrdinaryUser

def boundedDatabase : Database where
  users := [{ id := 7, username := "dev" }]
  policies := [policyOf 1 [allowAll],
    policyOf 2 [.obj [("Effect", .str "Allow"), ("Action", .str "vc:compute:ListInstances"),
      ("Resource", .str "*")]]]
  userPolicies := [(7, 1)]
  permissionBoundaries := [{ id := 1, entityType := "user", entityID := 7, policyID := 2 }]

theorem listing_within_boundary :
    authorize plainLibrary boundedDatabase 7 "vc:compute:ListInstances" "*" = some true ∧
      evaluatePolicies plainLibrary [boundedDatabase.boundaryPolicy
        { id := 1, entityType := "user", entityID := 7, policyID := 2 }]
        "vc:compute:ListInstances" "*" = true := by
  have authorized :
      authorize plainLibrary boundedDatabase 7 "vc:compute:ListInstances" "*" = some true := by
    decide
  exact ⟨authorized, (boundary_maximum_iff plainLibrary boundedDatabase 7 { id := 7, username := "dev" } rfl rfl
    "vc:compute:ListInstances" "*"
    { id := 1, entityType := "user", entityID := 7, policyID := 2 } (by decide) rfl rfl).mpr
    (Or.inr (Or.inr ((evaluate_applicable_iff plainLibrary _ "vc:compute:ListInstances" "*"
      none).mp (by decide)))) authorized⟩

/-- Enforcement authorizes a deletion that the boundary policy does not allow. -/
theorem deletion_exceeds_boundary :
    authorize plainLibrary boundedDatabase 7 "vc:compute:DeleteInstance" "*" = some true ∧
      (boundedDatabase.getPermissionBoundary "user" 7).map (fun row =>
        evaluatePolicies plainLibrary [boundedDatabase.boundaryPolicy row]
          "vc:compute:DeleteInstance" "*") = some false := by
  decide

def whatIf (userID : Nat) (actions resources : List String) : SimulateRequest :=
  { principalType := "user", principalID := userID, actions := actions, resources := resources }

def ReportsAllow (response : SimulateResponse) (action resource : String) : Prop :=
  ∃ result ∈ response.results,
    result.action = action ∧ result.resource = resource ∧ result.decision = .allow

theorem reports_allow_iff (lib : GoLibrary) (policies : List Policy) {actions resources : List String}
    (ctx : Option RequestContext) (boundary : Option Policy) {action : String}
    (askedAction : action ∈ actions) (askedResource : resource ∈ resources)
    {response : SimulateResponse}
    (listing : response.results = actions.flatMap fun action => resources.map fun resource =>
      simulateSingle lib policies action resource ctx boundary) :
    ReportsAllow response action resource ↔
      (simulateSingle lib policies action resource ctx boundary).decision = .allow := by
  constructor
  · rintro ⟨result, member, sameAction, sameResource, allowed⟩
    rw [listing, List.mem_flatMap] at member
    obtain ⟨first, _, inner⟩ := member
    obtain ⟨second, _, same⟩ := List.mem_map.mp inner
    have pair := simulate_single_pair lib policies first second ctx boundary
    rw [same, sameAction, sameResource] at pair
    rw [pair.1, pair.2, same]
    exact allowed
  · intro allowed
    have pair := simulate_single_pair lib policies action resource ctx boundary
    refine ⟨simulateSingle lib policies action resource ctx boundary, ?_, pair.1, pair.2, allowed⟩
    rw [listing, List.mem_flatMap]
    exact ⟨action, askedAction, List.mem_map.mpr ⟨resource, askedResource, rfl⟩⟩

theorem no_boundary_found {db : Database} {userID : Nat}
    (unbounded : ∀ row ∈ db.permissionBoundaries,
      ¬ (row.entityType = "user" ∧ row.entityID = userID)) :
    db.getPermissionBoundary "user" userID = none := by
  apply List.find?_eq_none.mpr
  intro row member claimed
  apply unbounded row member
  simpa using claimed

/-- The simulator adds the policies of the user's groups, which enforcement does
not read. The two agree exactly when these policies cannot change the decision. -/
theorem simulator_predicts_iff (lib : GoLibrary) (db : Database) (now : GoTime) (userID : Nat)
    (user : User) (actions resources : List String) (action resource : String)
    (found : db.firstUser userID = some user) (ordinary : user.isAdmin = false)
    (unbounded : ∀ row ∈ db.permissionBoundaries,
      ¬ (row.entityType = "user" ∧ row.entityID = userID))
    (askedAction : action ∈ actions) (askedResource : resource ∈ resources) :
    ∃ response, simulatePolicies lib db now (whatIf userID actions resources) = some response ∧
      ((ReportsAllow response action resource ↔
          authorize lib db userID action resource = some true) ↔
        HasApplicable lib (db.ownPolicies userID) action resource none "Deny" ∨
        (HasApplicable lib (db.ownPolicies userID) action resource none "Allow" ∧
          ¬ HasApplicable lib (db.inheritedPolicies userID) action resource none "Deny") ∨
        (¬ HasApplicable lib (db.ownPolicies userID) action resource none "Allow" ∧
          (HasApplicable lib (db.inheritedPolicies userID) action resource none "Deny" ∨
            ¬ HasApplicable lib (db.inheritedPolicies userID) action resource none "Allow"))) := by
  have collected := collect_user_policies db userID user found
  have missing := no_boundary_found unbounded
  refine ⟨_, by simp only [simulatePolicies, whatIf, collected, missing]; rfl, ?_⟩
  rw [reports_allow_iff lib (db.ownPolicies userID ++ db.inheritedPolicies userID) none none askedAction
      askedResource (by simp),
    simulate_single_allow_iff, authorize_own_iff lib db userID user found ordinary,
    evaluate_granted_iff, decoded_append]
  have appended := granted_append_iff (statementVerdict lib action resource none)
    (decodedStatements lib (db.ownPolicies userID))
    (decodedStatements lib (db.inheritedPolicies userID))
  simp only [allowed_iff, denied_iff] at appended
  simpa [Granted, allowed_iff, denied_iff] using appended

def groupDatabase : Database where
  users := [{ id := 7, username := "dev" }]
  groups := [{ id := 3, name := "engineering" }]
  policies := [policyOf 1 [allowAll]]
  groupUsers := [(3, 7)]
  groupPolicies := [(3, 1)]

def ungroupedDatabase : Database := { groupDatabase with groupUsers := [] }

theorem ungrouped_prediction :
    ∃ response, simulatePolicies plainLibrary ungroupedDatabase { instant := 0 }
        (whatIf 7 ["vc:compute:DeleteInstance"] ["*"]) = some response ∧
      (ReportsAllow response "vc:compute:DeleteInstance" "*" ↔
        authorize plainLibrary ungroupedDatabase 7 "vc:compute:DeleteInstance" "*" = some true) := by
  obtain ⟨response, simulated, predicted⟩ := simulator_predicts_iff plainLibrary ungroupedDatabase
    { instant := 0 } 7 { id := 7, username := "dev" } ["vc:compute:DeleteInstance"] ["*"]
    "vc:compute:DeleteInstance" "*" rfl rfl
    (by intro row member; exact absurd member (List.not_mem_nil)) (by simp) (by simp)
  refine ⟨response, simulated, predicted.mpr (Or.inr (Or.inr ⟨?_, Or.inr ?_⟩))⟩
  · rintro ⟨policy, member, _⟩
    exact absurd member List.not_mem_nil
  · rintro ⟨policy, member, _⟩
    exact absurd member List.not_mem_nil

/-- The simulator reports an allow that enforcement does not grant. -/
theorem group_policy_mispredicted :
    (simulatePolicies plainLibrary groupDatabase { instant := 0 }
        (whatIf 7 ["vc:compute:DeleteInstance"] ["*"])).map (fun response =>
          response.results.map fun result => (result.action, result.resource, result.decision)) =
      some [("vc:compute:DeleteInstance", "*", Decision.allow)] ∧
    authorize plainLibrary groupDatabase 7 "vc:compute:DeleteInstance" "*" = some false := by
  decide

section Decisions

variable (lib : GoLibrary) (policies : List Policy) (action resource : String)
  (ctx : Option RequestContext) (boundary : Option Policy)

theorem implicit_deny_iff :
    (simulateSingle lib policies action resource ctx boundary).decision = .implicitDeny ↔
      ¬ HasApplicable lib policies action resource ctx "Allow" ∧
        ¬ HasApplicable lib policies action resource ctx "Deny" := by
  have tracked := simulate_policy_list_tracks lib ctx action policies
    {action := action, resource := resource} false ⟨rfl, rfl, rfl⟩
  have refused := scan_none_iff (statementVerdict lib action resource ctx)
    (decodedStatements lib policies) false
  have passed := scan_some_iff (statementVerdict lib action resource ctx)
    (decodedStatements lib policies) false
  rw [← allowed_iff, ← denied_iff, simulateSingle]
  rcases tracks_cases action tracked with
    ⟨final, simulated, scanned, _, _, denied⟩ | ⟨result, flag, simulated, scanned, _, _, decided⟩
  · rw [simulated]
    simp [denied, refused.mp scanned]
  · obtain ⟨undenied, allowed⟩ := (passed flag).mp scanned
    rw [or_iff_right Bool.false_ne_true] at allowed
    rw [simulated]
    cases flag with
    | false =>
      have implicit : result.decision = .implicitDeny := decided
      simp [implicit, mt allowed.mpr Bool.false_ne_true, undenied]
    | true =>
      have allows : result.decision = .allow := decided
      refine iff_of_false ?_ fun nothing => nothing.1 (allowed.mp rfl)
      cases boundary with
      | none => simp [allows]
      | some policy =>
        cases bounded : evaluatePolicies lib [policy] action resource <;> simp [allows, bounded]

/-- The simulator allows what the evaluator allows within the boundary, and denies
implicitly what no statement decides. -/
theorem simulation_refines_evaluator :
    ((simulateSingle lib policies action resource ctx boundary).decision = .allow ↔
      evaluatePoliciesWithContext lib policies action resource ctx = true ∧
        ∀ policy, boundary = some policy → evaluatePolicies lib [policy] action resource = true) ∧
    ((simulateSingle lib policies action resource ctx boundary).decision = .implicitDeny ↔
      ¬ HasApplicable lib policies action resource ctx "Allow" ∧
        ¬ HasApplicable lib policies action resource ctx "Deny") :=
  ⟨simulate_single_allow_iff lib policies action,
    implicit_deny_iff lib policies action resource ctx boundary⟩

end Decisions

end VcStack.IdentityTables
