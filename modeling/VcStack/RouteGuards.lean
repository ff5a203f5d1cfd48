import VcStack.ActionRegistry
import VcStack.PolicyValues

/-!
The request guards of internal/management/middleware (auth.go and rbac.go) in
the chain that routes.go sets up: RequestTracing, OptionalAuthMiddleware when a
secret is configured, then the guard of the route. Token verification is the
JWT library's and stays a parameter. Log lines and response headers are left
out; a request is answered by the next handler or by one error.
-/

namespace VcStack.RouteGuards

open Text PolicyValues ActionRegistry

/-- A context value (`interface{}`). Claims of a parsed token are JSON values,
the identity handlers store Go string slices. -/
inductive Value where
  | json (value : Json)
  | strings (values : List String)

structure Request where
  authorization : String := ""
  /-- the `vc_access_token` cookie, absent when reading it fails -/
  accessToken : Option String := none
  /-- the `X-Request-ID` header -/
  requestID : String := ""
  params : List (String × String) := []

structure Context where
  request : Request
  keys : List (String × Value) := []

def Context.get (context : Context) (key : String) : Option Value := context.keys.lookup key

def Context.set (context : Context) (key : String) (value : Value) : Context :=
  {context with keys := (key, value) :: context.keys}

def Context.param (context : Context) (name : String) : String :=
  (context.request.params.lookup name).getD ""

variable {context : Context} {service permission : String} {claims : Claims}

@[simp] theorem get_set {key other : String} {value : Value} :
    (context.set key value).get other = if other = key then some value else context.get other := by
  by_cases same : other = key
  · simp [Context.get, Context.set, same]
  · have different : (other == key) = false := by simpa using same
    simp [Context.get, Context.set, List.lookup_cons, same, different]

structure APIError where
  httpStatus : Nat
  code : String
  message : String
  detail : String := ""
  requestID : String := ""
  errorCompat : String

def errAccessDenied (reason : String) : APIError :=
  {httpStatus := 403, code := "AccessDenied", message := "access denied", detail := reason,
    errorCompat := "access denied"}

/-- How a handler leaves the chain: it calls the next one or aborts. -/
inductive Outcome where
  | next (context : Context)
  | abort (error : APIError)

def Outcome.passes : Outcome → Bool
  | next _ => true
  | abort _ => false

def respond (context : Context) (error : APIError) : Outcome :=
  let stored := match context.get "request_id" with
    | some (.json (.str id)) => id
    | _ => ""
  .abort {error with requestID := if stored = "" then context.request.requestID else stored}

abbrev Claims := List (String × Json)

def authHeader (request : Request) : String :=
  if request.authorization = "" then
    match request.accessToken with
    | some cookie => if cookie = "" then "" else "Bearer " ++ cookie
    | none => ""
  else request.authorization

def bearerToken (header : String) : Option String :=
  match splitN ' ' 2 header with
  | [scheme, token] => if scheme = "Bearer" then some token else none
  | _ => none

/-- A missing claim is stored as nil, so its key is present all the same. -/
def claimValue (claims : Claims) (name : String) : Value :=
  .json ((claims.lookup name).getD .null)

def storeClaims (claims : Claims) (context : Context) : Context :=
  ["user_id", "project_id", "username", "is_admin", "tenant_id", "roles", "permissions"].foldl
    (fun filled name => filled.set name (claimValue claims name)) context

/-- `parse` is `jwt.Parse` with the HMAC method check: the claims of a token
that is valid under the secret. -/
def optionalAuthMiddleware (parse : String → String → Option Claims) (jwtSecret : String)
    (context : Context) : Context :=
  let header := authHeader context.request
  if header = "" then context
  else
    match bearerToken header with
    -- An API key header ends here: no other scheme is read.
    | none => context
    | some token =>
      match parse jwtSecret token with
      | none => context
      | some claims => storeClaims claims context

structure Mappings where
  legacyToNew : String → Option String := fun _ => none
  newToLeg : String → Option String := fun _ => none

/-- What is left after so many bytes, when the cut falls between characters. -/
def dropBytes : Nat → List Char → Option (List Char)
  | 0, text => some text
  | _ + 1, [] => none
  | count + 1, char :: rest =>
    if char.utf8Size ≤ count + 1 then dropBytes (count + 1 - char.utf8Size) rest else none

def splitVCAction (perm : String) : String :=
  if perm.utf8ByteSize < 5 then ""
  else
    match dropBytes 2 perm.toList with
    | some (':' :: rest) =>
      match cutString ':' (String.ofList rest) with
      | some (service, action) => if action = "*" then service else ""
      | none => ""
    | _ => ""

def splitLegacy (text : String) : String × String := (cutString ':' text).getD (text, "")

/-- The strings both claim representations are scanned for; other JSON items of
a claim are skipped, and a claim of any other type has none. -/
def claimStrings : Value → List String
  | .json (.arr items) => items.filterMap fun
      | .str text => some text
      | _ => none
  | .strings values => values
  | _ => []

def matchPermission (perms : Value) (resource _action required newFormat : String) : Bool :=
  (claimStrings perms).any fun permission =>
    permission == required || permission == resource ++ ":*" || permission == "*:*" ||
      (newFormat != "" && permission == newFormat) ||
      (3 < permission.utf8ByteSize && hasPrefix permission "vc:" &&
        (splitVCAction permission != "" && splitVCAction permission == resource))

def isAdmin (context : Context) : Bool :=
  match context.get "is_admin" with
  | some (.json (.bool flag)) => flag
  | _ => false

/-- The course both guards share. A request without `user_id` was not seen by
an authenticator and is let through. -/
def checkClaims (required : String) (allowed : Value → Bool) (continued context : Context) :
    Outcome :=
  let denied := respond context (errAccessDenied ("insufficient permissions, required: " ++ required))
  match context.get "user_id" with
  | none => .next continued
  | some _ =>
    if isAdmin context then .next continued
    else
      match context.get "permissions" with
      | some perms => if allowed perms then .next continued else denied
      | none => denied

def requirePermission (maps : Mappings) (resource action : String) (context : Context) : Outcome :=
  let required := resource ++ ":" ++ action
  let newFormatRequired := (maps.legacyToNew required).getD ""
  checkClaims required
    (fun perms => matchPermission perms resource action required newFormatRequired) context context

structure ResourceSpec where
  paramName : String
  permResource : String
  resourceType : String := ""

def resourceFromParam (paramName permResource : String) : ResourceSpec :=
  {paramName := paramName, permResource := permResource}

def serviceWildcard (action : String) : String :=
  if 3 < action.utf8ByteSize && hasPrefix action "vc:" then
    let service := (splitLegacy (String.ofList (action.toList.drop 3))).1
    if service = "" then "" else "vc:" ++ service ++ ":*"
  else ""

def matchActionInClaims (perms : Value) (action : String) : Bool :=
  (claimStrings perms).any fun permission =>
    permission == action || permission == "*:*" || permission == "*" ||
      (serviceWildcard action != "" && permission == serviceWildcard action)

def permResourceToServiceMiddleware (resource : String) : String :=
  (List.lookup resource [
    ("compute", "compute"), ("flavor", "compute"), ("ssh_key", "compute"),
    ("volume", "storage"), ("snapshot", "storage"), ("storage", "storage"),
    ("network", "network"), ("security_group", "network"), ("floating_ip", "network"),
    ("router", "network"), ("subnet", "network"),
    ("dns_zone", "dns"), ("dns_record", "dns"),
    ("image", "image"),
    ("user", "iam"), ("role", "iam"), ("policy", "iam"), ("project", "iam"),
    ("host", "infra"), ("cluster", "infra"),
    ("kms", "kms"), ("encryption", "encryption"), ("baremetal", "baremetal"),
    ("ha", "ha"), ("dr", "dr"), ("backup", "backup"), ("vpn", "vpn")]).getD resource

def resourceTypeForPerm (spec : ResourceSpec) : String :=
  if spec.resourceType ≠ "" then spec.resourceType
  else
    (List.lookup spec.permResource [
      ("compute", "instance"), ("flavor", "flavor"),
      ("volume", "volume"), ("snapshot", "snapshot"), ("storage", "volume"),
      ("network", "network"), ("security_group", "security-group"),
      ("floating_ip", "floating-ip"), ("router", "router"),
      ("dns_zone", "zone"), ("dns_record", "record"),
      ("image", "image"), ("user", "user"), ("role", "role"),
      ("host", "host"), ("cluster", "cluster"),
      ("kms", "key"), ("baremetal", "node")]).getD spec.permResource

def injectVRN (spec : ResourceSpec) (context : Context) : Context :=
  let named := context.param spec.paramName
  let resourceID := if named = "" then "*" else named
  let projStr := match context.get "tenant_id" with
    | some (.json (.str project)) => project
    | _ => ""
  let vrnStr := "vrn:vcstack:" ++ permResourceToServiceMiddleware spec.permResource ++ ":" ++
    projStr ++ ":" ++ resourceTypeForPerm spec ++ "/" ++ resourceID
  (context.set "resource_vrn" (.json (.str vrnStr))).set "resource_id" (.json (.str resourceID))

def legacyPair (maps : Mappings) (action : String) : String × String :=
  match maps.newToLeg action with
  | some legacy => splitLegacy legacy
  | none => ("", "")

def requireAction (maps : Mappings) (action : String) (spec : ResourceSpec) (context : Context) :
    Outcome :=
  let legacy := legacyPair maps action
  checkClaims action
    (fun perms => matchActionInClaims perms action ||
      (legacy.1 != "" &&
        matchPermission perms legacy.1 legacy.2 (legacy.1 ++ ":" ++ legacy.2) action))
    (injectVRN spec context) context

inductive Guard where
  | permission (resource action : String)
  | action (name : String) (spec : ResourceSpec)

def Guard.handler (maps : Mappings) : Guard → Context → Outcome
  | .permission resource verb => requirePermission maps resource verb
  | .action name spec => requireAction maps name spec

def requestTracing (uuid : String) (context : Context) : Context :=
  let header := context.request.requestID
  context.set "request_id" (.json (.str (if header = "" then uuid else header)))

def serve (parse : String → String → Option Claims) (maps : Mappings) (jwtSecret : String)
    (guard : Guard) (uuid : String) (request : Request) : Outcome :=
  let traced := requestTracing uuid ⟨request, []⟩
  if jwtSecret ≠ "" then guard.handler maps (optionalAuthMiddleware parse jwtSecret traced)
  else guard.handler maps traced

def PermissionGrants (resource required newFormat permission : String) : Prop :=
  permission = required ∨ permission = resource ++ ":*" ∨ permission = "*:*" ∨
    (newFormat ≠ "" ∧ permission = newFormat) ∨
    (resource ≠ "" ∧ ':' ∉ resource.toList ∧ permission = "vc:" ++ resource ++ ":*")

def ActionGrants (action permission : String) : Prop :=
  permission = action ∨ permission = "*:*" ∨ permission = "*" ∨
    (serviceWildcard action ≠ "" ∧ permission = serviceWildcard action)

def Guard.Grants (maps : Mappings) : Guard → String → Prop
  | .permission resource verb =>
    let required := resource ++ ":" ++ verb
    PermissionGrants resource required ((maps.legacyToNew required).getD "")
  | .action name _ => fun permission =>
    let legacy := legacyPair maps name
    ActionGrants name permission ∨
      (legacy.1 ≠ "" ∧ PermissionGrants legacy.1 (legacy.1 ++ ":" ++ legacy.2) name permission)

theorem lead_shape {text : String} (lead : hasPrefix text "vc:" = true) :
    ∃ rest : String, text = "vc:" ++ rest := by
  obtain ⟨rest, whole⟩ := List.isPrefixOf_iff_prefix.mp lead
  refine ⟨String.ofList rest, ?_⟩
  rw [← String.toList_inj]
  simpa using whole.symm

theorem lead_size {rest : String} : ("vc:" ++ rest).utf8ByteSize = 3 + rest.utf8ByteSize :=
  String.utf8ByteSize_append

theorem wildcard_size :
    ("vc:" ++ service ++ ":*").utf8ByteSize = service.utf8ByteSize + 5 := by
  have tail : ":*".utf8ByteSize = 2 := rfl
  rw [String.utf8ByteSize_append, lead_size, tail]
  omega

theorem split_vc_action_lead {rest : String} :
    splitVCAction ("vc:" ++ rest) =
      if ("vc:" ++ rest).utf8ByteSize < 5 then ""
      else match cutString ':' rest with
        | some (service, action) => if action = "*" then service else ""
        | none => "" := by
  have shape : ("vc:" ++ rest).toList = 'v' :: 'c' :: ':' :: rest.toList := by
    rw [String.toList_append]
    rfl
  have dropped : dropBytes 2 ("vc:" ++ rest).toList = some (':' :: rest.toList) := by
    rw [shape]
    rfl
  simp only [splitVCAction, dropped, String.ofList_toList]

/-- Behind the `vc:` lead a service is read off exactly the whole-service
wildcards. -/
theorem split_vc_action_iff (named : service ≠ "")
    (lead : hasPrefix permission "vc:" = true) :
    splitVCAction permission = service ↔
      ':' ∉ service.toList ∧ permission = "vc:" ++ service ++ ":*" := by
  obtain ⟨rest, rfl⟩ := lead_shape lead
  rw [split_vc_action_lead]
  constructor
  · intro found
    -- Every way to fail returns the empty text, which is no service.
    split at found
    · exact absurd found.symm named
    · split at found
      · rename_i front action pieces
        split at found
        · rename_i star
          subst front action
          obtain ⟨free, whole⟩ := (cut_string_some_iff _).mp pieces
          refine ⟨free, ?_⟩
          rw [whole]
          simp [String.append_assoc]
        · exact absurd found.symm named
      · exact absurd found.symm named
  · rintro ⟨free, whole⟩
    have rest_eq : rest = service ++ String.singleton ':' ++ "*" := by
      have same : "vc:" ++ rest = "vc:" ++ (service ++ ":*") := by
        rw [whole, String.append_assoc]
      rw [(String.append_right_inj "vc:").mp same, String.append_assoc]
      rfl
    have pieces := (cut_string_some_iff "*").mpr ⟨free, rest_eq⟩
    have long : ¬ ("vc:" ++ rest).utf8ByteSize < 5 := by
      rw [whole, wildcard_size]
      omega
    rw [if_neg long, pieces]
    rfl

/-! A guard passes a request that no authenticator marked, an administrator's,
and one whose claims hold a permission it accepts. -/

theorem match_permission_iff {perms : Value} {resource action required newFormat : String} :
    matchPermission perms resource action required newFormat = true ↔
      ∃ permission ∈ claimStrings perms,
        PermissionGrants resource required newFormat permission := by
  rw [matchPermission, List.any_eq_true]
  refine exists_congr fun permission => and_congr_right fun _ => ?_
  have wildcard : (3 < permission.utf8ByteSize ∧ hasPrefix permission "vc:" = true) ∧
      splitVCAction permission ≠ "" ∧ splitVCAction permission = resource ↔
      resource ≠ "" ∧ ':' ∉ resource.toList ∧ permission = "vc:" ++ resource ++ ":*" := by
    constructor
    · rintro ⟨⟨_, lead⟩, named, found⟩
      rw [found] at named
      exact ⟨named, (split_vc_action_iff named lead).mp found⟩
    · rintro ⟨named, free, rfl⟩
      have lead : hasPrefix ("vc:" ++ resource ++ ":*") "vc:" = true := by
        rw [String.append_assoc]
        exact has_prefix_append
      have found := (split_vc_action_iff named lead).mpr ⟨free, rfl⟩
      refine ⟨⟨?_, lead⟩, fun empty => named (found.symm.trans empty), found⟩
      rw [wildcard_size]
      omega
  simp only [Bool.or_eq_true, Bool.and_eq_true, beq_iff_eq, bne_iff_ne, decide_eq_true_eq,
    wildcard, or_assoc]
  rfl

theorem match_action_iff {perms : Value} {action : String} :
    matchActionInClaims perms action = true ↔
      ∃ permission ∈ claimStrings perms, ActionGrants action permission := by
  rw [matchActionInClaims, List.any_eq_true]
  refine exists_congr fun permission => and_congr_right fun _ => ?_
  simp only [ActionGrants, Bool.or_eq_true, Bool.and_eq_true, beq_iff_eq, bne_iff_ne, or_assoc]

def permissionStrings (context : Context) : List String :=
  (context.get "permissions").elim [] claimStrings

theorem check_claims_passes_iff {required : String} {allowed : Value → Bool}
    {continued : Context} :
    (checkClaims required allowed continued context).passes = true ↔
      context.get "user_id" = none ∨ isAdmin context = true ∨
        ∃ perms, context.get "permissions" = some perms ∧ allowed perms = true := by
  unfold checkClaims
  cases context.get "user_id" with
  | none => simp [Outcome.passes]
  | some user =>
    by_cases admin : isAdmin context = true
    · simp [admin, Outcome.passes]
    · cases context.get "permissions" with
      | none => simp [admin, respond, Outcome.passes]
      | some perms =>
        by_cases held : allowed perms = true
        · simp [held, Outcome.passes]
        · simp [admin, held, respond, Outcome.passes]

theorem guard_passes_iff (maps : Mappings) (guard : Guard) (context : Context) :
    (guard.handler maps context).passes = true ↔
      context.get "user_id" = none ∨ isAdmin context = true ∨
        ∃ permission ∈ permissionStrings context, guard.Grants maps permission := by
  have strings (granted : String → Prop) (allowed : Value → Bool)
      (exact : ∀ perms, allowed perms = true ↔
        ∃ permission ∈ claimStrings perms, granted permission) :
      (∃ perms, context.get "permissions" = some perms ∧ allowed perms = true) ↔
        ∃ permission ∈ permissionStrings context, granted permission := by
    unfold permissionStrings
    cases context.get "permissions" with
    | none => simp
    | some perms => simpa using exact perms
  cases guard with
  | permission resource verb =>
    rw [Guard.handler, requirePermission, check_claims_passes_iff]
    rw [strings _ _ fun perms => match_permission_iff]
    rfl
  | action name spec =>
    rw [Guard.handler, requireAction, check_claims_passes_iff]
    rw [strings ((Guard.action name spec).Grants maps)]
    intro perms
    simp only [Guard.Grants, Bool.or_eq_true, Bool.and_eq_true, bne_iff_ne, match_action_iff,
      match_permission_iff, and_or_left, exists_or]
    refine or_congr Iff.rfl ?_
    constructor
    · rintro ⟨named, permission, member, grants⟩
      exact ⟨permission, member, named, grants⟩
    · rintro ⟨permission, member, named, grants⟩
      exact ⟨named, permission, member, grants⟩

def verifiedClaims (parse : String → String → Option Claims) (jwtSecret : String)
    (request : Request) : Option Claims :=
  (bearerToken (authHeader request)).bind (parse jwtSecret)

theorem optional_auth_verified {parse : String → String → Option Claims} {jwtSecret : String} :
    optionalAuthMiddleware parse jwtSecret context =
      match verifiedClaims parse jwtSecret context.request with
      | some claims => storeClaims claims context
      | none => context := by
  unfold optionalAuthMiddleware verifiedClaims
  by_cases empty : authHeader context.request = ""
  · have absent : bearerToken "" = none := rfl
    simp [empty, absent]
  · cases bearer : bearerToken (authHeader context.request) with
    | none => simp [empty, bearer]
    | some token => cases parsed : parse jwtSecret token <;> simp [empty, bearer, parsed]

theorem stored_user :
    (storeClaims claims context).get "user_id" = some (claimValue claims "user_id") := by
  simp [storeClaims]

theorem stored_admin_iff :
    isAdmin (storeClaims claims context) = true ↔ claims.lookup "is_admin" = some (.bool true) := by
  have stored : (storeClaims claims context).get "is_admin" =
      some (claimValue claims "is_admin") := by
    simp [storeClaims]
  rw [isAdmin, stored, claimValue]
  cases claims.lookup "is_admin" with
  | none => simp
  | some value => cases value <;> simp

theorem stored_permissions :
    permissionStrings (storeClaims claims context) =
      claimStrings (claimValue claims "permissions") := by
  simp [permissionStrings, storeClaims]

theorem traced_user {uuid : String} {request : Request} :
    (requestTracing uuid ⟨request, []⟩).get "user_id" = none := by
  rw [requestTracing, get_set]
  rfl

section Chain

variable (parse : String → String → Option Claims) (maps : Mappings) (jwtSecret : String)
  (configured : jwtSecret ≠ "")
include configured

theorem serve_verified_iff (guard : Guard) (uuid : String) {request : Request}
    (verified : verifiedClaims parse jwtSecret request = some claims) :
    (serve parse maps jwtSecret guard uuid request).passes = true ↔
      claims.lookup "is_admin" = some (.bool true) ∨
        ∃ permission ∈ claimStrings (claimValue claims "permissions"),
          guard.Grants maps permission := by
  have chain : serve parse maps jwtSecret guard uuid request =
      guard.handler maps (storeClaims claims (requestTracing uuid ⟨request, []⟩)) := by
    have kept : (requestTracing uuid ⟨request, []⟩).request = request := rfl
    simp only [serve, optional_auth_verified, kept, verified, ne_eq, configured,
      not_false_eq_true, if_true]
  rw [chain, guard_passes_iff, stored_user, stored_admin_iff, stored_permissions]
  simp

omit configured in
/-- Without verified claims there is no user in the context and the guards
stand open. -/
theorem serve_unverified_passes (guard : Guard) (uuid : String) (request : Request)
    (unverified : verifiedClaims parse jwtSecret request = none) :
    (serve parse maps jwtSecret guard uuid request).passes = true := by
  have chain : serve parse maps jwtSecret guard uuid request =
      guard.handler maps (requestTracing uuid ⟨request, []⟩) := by
    have kept : (requestTracing uuid ⟨request, []⟩).request = request := rfl
    simp only [serve, optional_auth_verified, kept, unverified, ite_self]
  rw [chain, guard_passes_iff]
  exact Or.inl traced_user

/-- A caller refused with a valid token is refused without it only when the
token was not refused in the first place: its claims hold a permission the
guard accepts. -/
theorem credentials_dropped_iff (guard : Guard) (uuid bareUuid : String) (request : Request)
    (claims : Claims) (header : String) (cookie : Option String)
    (verified : verifiedClaims parse jwtSecret request = some claims)
    (ordinary : claims.lookup "is_admin" ≠ some (.bool true))
    (unverified : verifiedClaims parse jwtSecret
      {request with authorization := header, accessToken := cookie} = none) :
    ((serve parse maps jwtSecret guard uuid request).passes = false →
      (serve parse maps jwtSecret guard bareUuid
        {request with authorization := header, accessToken := cookie}).passes = false) ↔
      ∃ permission ∈ claimStrings (claimValue claims "permissions"),
        guard.Grants maps permission := by
  have open_ := serve_unverified_passes parse maps jwtSecret guard bareUuid _ unverified
  have held := serve_verified_iff parse maps jwtSecret configured guard uuid verified
  rw [or_iff_right ordinary] at held
  rw [← held, open_]
  simp

end Chain

theorem bearer_header {token : String} : bearerToken ("Bearer " ++ token) = some token := by
  have cutAt : cut ' ' ("Bearer " ++ token).toList = some ("Bearer".toList, token.toList) := by
    refine (cut_some_iff ' ' _ _ _).mpr ⟨by decide, ?_⟩
    rw [String.toList_append]
    rfl
  simp only [bearerToken, splitN, splitChars, cutAt, List.map_cons, List.map_nil,
    String.ofList_toList, if_true]

def registered : Mappings := ⟨legacyToNew, newToLegacy⟩

theorem split_legacy_joined (left right : String) (free : ':' ∉ left.toList) :
    splitLegacy (left ++ ":" ++ right) = (left, right) := by
  have pieces : cutString ':' (left ++ ":" ++ right) = some (left, right) :=
    (cut_string_some_iff _).mpr ⟨free, rfl⟩
  rw [splitLegacy, pieces]
  rfl

theorem service_wildcard_named {operation : String} (free : ':' ∉ service.toList)
    (named : service ≠ "") :
    serviceWildcard ("vc:" ++ service ++ ":" ++ operation) = "vc:" ++ service ++ ":*" := by
  have assoc : "vc:" ++ service ++ ":" ++ operation = "vc:" ++ (service ++ ":" ++ operation) := by
    simp only [String.append_assoc]
  have behind : String.ofList (("vc:" ++ (service ++ ":" ++ operation)).toList.drop 3) =
      service ++ ":" ++ operation := by
    rw [String.toList_append]
    exact String.ofList_toList
  have long : 3 < ("vc:" ++ (service ++ ":" ++ operation)).utf8ByteSize := by
    have colon : ":".utf8ByteSize = 1 := rfl
    rw [lead_size, String.utf8ByteSize_append, String.utf8ByteSize_append, colon]
    omega
  have split := split_legacy_joined service operation free
  rw [assoc, serviceWildcard, behind, split]
  simp only [long, has_prefix_append, decide_true, Bool.and_self, if_true, named, if_false]

def SharedGrant (mapping : ActionMapping) (permission : String) : Prop :=
  permission = mapping.resource ++ ":*" ∨ permission = "*:*" ∨ permission = mapping.new ∨
    permission = "vc:" ++ mapping.resource ++ ":*"

section Registry

variable (mapping : ActionMapping) (member : mapping ∈ registry)
include member

theorem mapping_new_named : mapping.new ≠ "" := by
  obtain ⟨service, operation, shape, _⟩ := mapping_new_shape member
  rw [shape]
  simp

theorem permission_guard_grants_iff :
    (Guard.permission mapping.resource mapping.action).Grants registered permission ↔
      permission = mapping.legacy ∨ SharedGrant mapping permission := by
  have required := mapping_legacy member
  have known : registered.legacyToNew mapping.legacy = some mapping.new :=
    legacy_to_new_exact member
  have named := mapping_resource_named member
  have new := mapping_new_named mapping member
  simp only [Guard.Grants, PermissionGrants, SharedGrant, ← required, known, Option.getD_some]
  grind

theorem action_guard_grants_iff {spec : ResourceSpec} :
    (Guard.action mapping.new spec).Grants registered permission ↔
      (permission = "*" ∨ permission = serviceWildcard mapping.new ∨
        newToLegacy mapping.new = some permission) ∨ SharedGrant mapping permission := by
  obtain ⟨kept, keptMember, found, same⟩ := new_to_legacy_resource member
  obtain ⟨service, operation, shape, free, named⟩ := mapping_new_shape member
  have wildcard : serviceWildcard mapping.new ≠ "" := by
    rw [shape, service_wildcard_named free named]
    simp
  have resource := mapping_resource_named member
  have joined := mapping_legacy keptMember
  have pair : legacyPair registered mapping.new = (mapping.resource, kept.action) := by
    have lookup : registered.newToLeg mapping.new = some kept.legacy := found
    rw [legacyPair, lookup]
    simp only [joined, same]
    exact split_legacy_joined _ _ resource.1
  have new := mapping_new_named mapping member
  simp only [Guard.Grants, pair, ActionGrants, PermissionGrants, SharedGrant, found,
    Option.some.injEq, joined, same]
  have turned : mapping.resource ++ ":" ++ kept.action = permission ↔
      permission = mapping.resource ++ ":" ++ kept.action := eq_comm
  rw [turned]
  grind

/-- The old and the new guard of an entry decide alike exactly when some
permission satisfies both, or when the legacy permission is held together with
one of those only the new guard reads: the bare star, the wildcard of the new
action's service, and the legacy name the reverse map kept. -/
theorem guards_agree_iff (spec : ResourceSpec) (context : Context)
    (known : context.get "user_id" ≠ none) (ordinary : isAdmin context = false) :
    ((requirePermission registered mapping.resource mapping.action context).passes = true ↔
      (requireAction registered mapping.new spec context).passes = true) ↔
      (∃ permission ∈ permissionStrings context, SharedGrant mapping permission) ∨
      (mapping.legacy ∈ permissionStrings context ↔
        "*" ∈ permissionStrings context ∨
          serviceWildcard mapping.new ∈ permissionStrings context ∨
          ∃ kept, newToLegacy mapping.new = some kept ∧ kept ∈ permissionStrings context) := by
  have old := guard_passes_iff registered (.permission mapping.resource mapping.action) context
  have new := guard_passes_iff registered (.action mapping.new spec) context
  simp only [Guard.handler, known, ordinary, false_or, Bool.false_eq_true,
    permission_guard_grants_iff mapping member, action_guard_grants_iff mapping member,
    and_or_left, exists_or, exists_eq_right] at old new
  -- What is left is propositional: both sides contain the shared permissions.
  have kept : (∃ permission, permission ∈ permissionStrings context ∧
      newToLegacy mapping.new = some permission) ↔
      ∃ kept, newToLegacy mapping.new = some kept ∧ kept ∈ permissionStrings context :=
    exists_congr fun _ => and_comm
  rw [old, new, kept]
  grind

end Registry

def callerWith (permissions : List String) : Context where
  request := {}
  keys := [("user_id", .json (.num "7")), ("is_admin", .json (.bool false)),
    ("permissions", .strings permissions)]

theorem instance_listing_guards_agree :
    (requirePermission registered "compute" "list" (callerWith ["compute:*"])).passes = true ↔
      (requireAction registered "vc:compute:ListInstances" (resourceFromParam "id" "compute")
        (callerWith ["compute:*"])).passes = true :=
  (guards_agree_iff ⟨"compute:list", "vc:compute:ListInstances", "compute", "list"⟩
    (mem_registry_iff.mpr ⟨_, List.mem_cons_self, ("list", "ListInstances"), by decide, rfl⟩)
    (resourceFromParam "id" "compute") (callerWith ["compute:*"]) (by simp [Context.get, callerWith])
    rfl).mpr (Or.inl ⟨"compute:*", by simp [permissionStrings, Context.get, callerWith,
      claimStrings, List.lookup_cons], Or.inl rfl⟩)

/-- A holder of the legacy `ha:list` passes the old guard and is refused by the
new one, a holder of the bare star the other way round. -/
theorem ha_listing_guards_differ :
    (⟨"ha:list", "vc:ha:ListPolicies", "ha", "list"⟩ : ActionMapping) ∈ registry ∧
      (requirePermission registered "ha" "list" (callerWith ["ha:list"])).passes = true ∧
      (requireAction registered "vc:ha:ListPolicies" (resourceFromParam "id" "ha")
        (callerWith ["ha:list"])).passes = false ∧
      (requirePermission registered "ha" "list" (callerWith ["*"])).passes = false ∧
      (requireAction registered "vc:ha:ListPolicies" (resourceFromParam "id" "ha")
        (callerWith ["*"])).passes = true := by
  refine ⟨mem_registry_iff.mpr ⟨⟨"ha", "ha", [("list", "ListPolicies"), ("get", "ListPolicies"),
    ("create", "CreatePolicy"), ("update", "UpdatePolicy"), ("delete", "DeletePolicy")]⟩,
    by simp [actionGroups], ("list", "ListPolicies"), by decide, rfl⟩, ?_⟩
  decide +kernel

def readerToken : String :=
  "eyJhbGciOiJIUzI1NiIsInR5cCI6IkpXVCJ9." ++
  "eyJpc19hZG1pbiI6ZmFsc2UsInBlcm1pc3Npb25zIjpbImNvbXB1dGU6bGlzdCJdLCJ1c2VyX2lkIjo3LCJ1c2VybmFtZSI6InJlYWRlciJ9." ++
  "nB-A-m1qNm6JSf_uSrMq9aesYTmeSJ6T39CcukXnV_A"

def readerClaims : Claims :=
  [("is_admin", .bool false), ("permissions", .arr [.str "compute:list"]), ("user_id", .num "7"),
    ("username", .str "reader")]

def readerParse (jwtSecret token : String) : Option Claims :=
  if jwtSecret = "vc-secret" ∧ token = readerToken then some readerClaims else none

def readerRequest : Request := {authorization := "Bearer " ++ readerToken}

theorem reader_verified :
    verifiedClaims readerParse "vc-secret" readerRequest = some readerClaims := by
  have header : authHeader readerRequest = "Bearer " ++ readerToken := by
    simp [authHeader, readerRequest]
  rw [verifiedClaims, header, bearer_header]
  simp [readerParse]

/-- The reader may list instances, with the token and without it. -/
theorem reader_listing_kept :
    verifiedClaims readerParse "vc-secret" readerRequest = some readerClaims ∧
      ((serve readerParse registered "vc-secret" (.permission "compute" "list") "1"
          readerRequest).passes = false →
        (serve readerParse registered "vc-secret" (.permission "compute" "list") "2" {}).passes
          = false) :=
  ⟨reader_verified, (credentials_dropped_iff readerParse registered "vc-secret" (by decide)
    (.permission "compute" "list") "1" "2" readerRequest readerClaims "" none reader_verified
    (by simp [readerClaims]) rfl).mpr
    ⟨"compute:list", by simp [claimValue, readerClaims, claimStrings, List.lookup_cons], Or.inl rfl⟩⟩

/-- The reader may not delete instances; without the token the same request
goes through. -/
theorem reader_deletes_without_token :
    verifiedClaims readerParse "vc-secret" readerRequest = some readerClaims ∧
      readerClaims.lookup "is_admin" ≠ some (.bool true) ∧
      verifiedClaims readerParse "vc-secret" {} = none ∧
      (serve readerParse registered "vc-secret" (.permission "compute" "delete") "1"
        readerRequest).passes = false ∧
      (serve readerParse registered "vc-secret" (.permission "compute" "delete") "2" {}).passes
        = true := by
  refine ⟨reader_verified, by simp [readerClaims], rfl, ?_, rfl⟩
  rw [Bool.eq_false_iff]
  intro passed
  rcases (serve_verified_iff readerParse registered "vc-secret" (by decide) _ _
    reader_verified).mp passed with admin | ⟨permission, held, grants⟩
  · simp [readerClaims] at admin
  · have only : permission = "compute:list" := by
      simpa [claimValue, readerClaims, claimStrings, List.lookup_cons] using held
    subst only
    have deletion : (⟨"compute:delete", "vc:compute:DeleteInstance", "compute", "delete"⟩ :
        ActionMapping) ∈ registry :=
      mem_registry_iff.mpr ⟨_, List.mem_cons_self, ("delete", "DeleteInstance"), by decide, rfl⟩
    have other := (permission_guard_grants_iff _ deletion).mp grants
    simp [SharedGrant] at other

end VcStack.RouteGuards
