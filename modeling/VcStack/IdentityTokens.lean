import Mathlib.Data.Countable.Basic
import Mathlib.Logic.Equiv.List
import VcStack.IdentityTables
import VcStack.RouteGuards
import VcStack.Runs

/-!
The tokens of internal/management/identity: access tokens and MFA challenge
tokens (service.go, mfa.go) and session tokens of assumed roles (sts.go). All
three are HS256 tokens under one secret. A handler call is one step, with the
clock it reads, the random values it draws and the request as gin bound it.
-/

namespace VcStack.IdentityTokens

open PolicyValues IdentityTables Runs

/-- Times and durations are nanoseconds; token dates are whole seconds. -/
def second : Int := 1000000000

def numericDate (time : Int) : Int := time / second

structure RegisteredClaims where
  subject : String := ""
  issuedAt : Option Int := none
  expiresAt : Option Int := none
  notBefore : Option Int := none
  issuer : String := ""
  audience : List String := []

structure Claims where
  userID : Nat := 0
  projectID : Nat := 0
  username : String := ""
  email : String := ""
  isAdmin : Bool := false
  roles : List String := []
  permissions : List String := []
  registered : RegisteredClaims := {}

structure MFAClaims where
  userID : Nat := 0
  username : String := ""
  purpose : String := ""
  registered : RegisteredClaims := {}

/-- The JSON object inside a token; `none` is an absent member. -/
structure Payload where
  userID : Option Nat := none
  projectID : Option Nat := none
  username : Option String := none
  email : Option String := none
  isAdmin : Option Bool := none
  roles : Option (List String) := none
  permissions : Option (List String) := none
  purpose : Option String := none
  registered : RegisteredClaims := {}

def Claims.encode (claims : Claims) : Payload where
  userID := claims.userID
  projectID := claims.projectID
  username := claims.username
  email := claims.email
  isAdmin := claims.isAdmin
  roles := claims.roles
  permissions := claims.permissions
  registered := claims.registered

def MFAClaims.encode (claims : MFAClaims) : Payload where
  userID := claims.userID
  username := claims.username
  purpose := claims.purpose
  registered := claims.registered

/-- Decoding skips the members the target struct has no field for, and an
absent member leaves the zero value. -/
def decodeClaims (payload : Payload) : Claims where
  userID := payload.userID.getD 0
  projectID := payload.projectID.getD 0
  username := payload.username.getD ""
  email := payload.email.getD ""
  isAdmin := payload.isAdmin.getD false
  roles := payload.roles.getD []
  permissions := payload.permissions.getD []
  registered := payload.registered

def decodeMFAClaims (payload : Payload) : MFAClaims where
  userID := payload.userID.getD 0
  username := payload.username.getD ""
  purpose := payload.purpose.getD ""
  registered := payload.registered

/-- HS256 under the secret of the service: signing, and the payload of a text
whose signature checks. -/
structure JwtLibrary where
  sign : Payload → String
  verify : String → Option Payload
  verify_sign : ∀ payload, verify (sign payload) = some payload

def Payload.members (payload : Payload) :=
  ((payload.userID, payload.projectID, payload.username, payload.email, payload.isAdmin),
    (payload.roles, payload.permissions, payload.purpose),
    (payload.registered.subject, payload.registered.issuedAt, payload.registered.expiresAt,
      payload.registered.notBefore, payload.registered.issuer, payload.registered.audience))

theorem members_injective : Function.Injective Payload.members := by
  rintro ⟨_, _, _, _, _, _, _, _, _, _, _, _, _, _⟩ ⟨_, _, _, _, _, _, _, _, _, _, _, _, _, _⟩ same
  simp only [Payload.members, Prod.mk.injEq] at same
  grind

theorem payloads_countable : Countable Payload := by
  have chars : Countable Char := Function.Injective.countable (f := Char.toNat) fun left right same =>
    Char.toNat_inj.mp same
  have texts : Countable String := Function.Injective.countable (f := String.toList)
    fun left right same => String.toList_inj.mp same
  exact members_injective.countable

theorem jwt_library_exists : Nonempty JwtLibrary := by
  classical
  have countable := payloads_countable
  obtain ⟨number, injective⟩ := exists_injective_nat Payload
  let sign := fun payload => String.ofList (List.replicate (number payload) 'x')
  have signInjective : Function.Injective sign := by
    intro left right same
    apply injective
    have lengths := congrArg (fun text => text.toList.length) same
    simpa [sign] using lengths
  refine ⟨⟨sign, fun token => if found : ∃ payload, sign payload = token then some found.choose
    else none, fun payload => ?_⟩⟩
  have found : ∃ other, sign other = sign payload := ⟨payload, rfl⟩
  rw [dif_pos found, signInjective found.choose_spec]

/-- The date checks of the JWT library; absent dates are not checked. -/
def timely (now : Int) (registered : RegisteredClaims) : Bool :=
  registered.expiresAt.all (fun date => now < date * second) &&
    registered.notBefore.all fun date => date * second ≤ now

def parseToken (jwt : JwtLibrary) (now : Int) (token : String) : Option Payload :=
  (jwt.verify token).filter fun payload => timely now payload.registered

def validateToken (jwt : JwtLibrary) (now : Int) (token : String) : Option Claims :=
  (parseToken jwt now token).map decodeClaims

def validateMFAToken (jwt : JwtLibrary) (now : Int) (token : String) : Option Nat :=
  match (parseToken jwt now token).map decodeMFAClaims with
  | some claims => if claims.purpose ≠ "mfa_challenge" then none else some claims.userID
  | none => none

structure Failure where
  status : Nat
  error : String

def authMiddleware (jwt : JwtLibrary) (now : Int) (request : RouteGuards.Request) :
    Except Failure Claims :=
  let header := RouteGuards.authHeader request
  if header = "" then .error ⟨401, "Authorization header required"⟩
  else
    match RouteGuards.bearerToken header with
    | none => .error ⟨401, "Invalid authorization header format"⟩
    | some token =>
      match validateToken jwt now token with
      | none => .error ⟨401, "Invalid token"⟩
      | some claims => .ok claims

structure Project where
  id : Nat
  userID : Nat

structure TrustPrincipal where
  identities : List String := []
  projects : List String := []
  all : Bool := false

structure TrustStatement where
  effect : String
  principal : TrustPrincipal
  action : String

structure TrustPolicy where
  version : String := ""
  statement : List TrustStatement := []

structure RoleTrustPolicy where
  roleID : Nat
  policy : TrustPolicy

structure RefreshToken where
  token : String
  userID : Nat
  expiresAt : Int
  isRevoked : Bool := false

structure STSSession where
  accessKeyID : String
  secretKey : String
  sessionToken : String := ""
  userID : Nat
  assumedRoleID : Nat
  sessionName : String
  expiresAt : Int

structure LoginAttempts where
  count : Nat
  firstAt : Int

inductive TokenKind where
  | generateAccessToken
  | generateSTSToken
  | generateMFAToken
  deriving DecidableEq

structure Mint where
  token : String
  kind : TokenKind

structure State where
  db : Database := {}
  projects : List Project := []
  trustPolicies : List RoleTrustPolicy := []
  refreshTokens : List RefreshToken := []
  stsSessions : List STSSession := []
  failures : String → Option LoginAttempts := fun _ => none
  minted : List Mint := []

structure Config where
  expiresIn : Int := 24 * 3600 * second
  refreshExpiresIn : Int := 7 * 24 * 3600 * second

/-- bcrypt comparison of a hash and a text, and TOTP validation at a time of a
code and a secret. -/
structure Checks where
  compareHashAndPassword : String → String → Bool
  totpValidate : Int → String → String → Bool

def maxFailures : Nat := 5

def lockout : Int := 15 * 60 * second

def State.setFailures (state : State) (username : String) (attempts : Option LoginAttempts) :
    State :=
  {state with failures := fun other =>
    if other = username then attempts else state.failures other}

def State.check (state : State) (now : Int) (username : String) : Option Int × State :=
  match state.failures username with
  | none => (none, state)
  | some attempts =>
    let elapsed := now - attempts.firstAt
    if elapsed > lockout then (none, state.setFailures username none)
    else if attempts.count ≥ maxFailures then (some (lockout - elapsed), state)
    else (none, state)

def State.recordFailure (state : State) (now : Int) (username : String) : State :=
  match state.failures username with
  | some attempts =>
    if now - attempts.firstAt > lockout then state.setFailures username (some ⟨1, now⟩)
    else state.setFailures username (some {attempts with count := attempts.count + 1})
  | none => state.setFailures username (some ⟨1, now⟩)

variable {user : User} {random : Except String String}

section Handlers

variable (jwt : JwtLibrary) (checks : Checks) (config : Config)

def authenticateUser (db : Database) (username password : String) : Option User :=
  match db.users.find? fun user =>
    (user.username == username || user.email == username) && user.isActive with
  | none => none
  | some user => if checks.compareHashAndPassword user.password password then some user else none

def validateTOTP (now : Int) (user : User) (code : String) : Bool :=
  user.mfaSecret != "" && checks.totpValidate now code user.mfaSecret

/-- The state after the first matching code is removed from the user's row. -/
def validateRecoveryCode (state : State) (user : User) (code : String) : Option State :=
  match user.recoveryCodes.findIdx? fun hashed => checks.compareHashAndPassword hashed code with
  | none => none
  | some index =>
    let users := state.db.users.map fun row =>
      if row.id = user.id then {row with recoveryCodes := user.recoveryCodes.eraseIdx index}
      else row
    some {state with db := {state.db with users := users}}

def secondFactor (state : State) (now : Int) (user : User) (code : String) : Option State :=
  if validateTOTP checks now user code then some state
  else validateRecoveryCode checks state user code

def State.mint (state : State) (kind : TokenKind) (payload : Payload) : State :=
  {state with minted := ⟨jwt.sign payload, kind⟩ :: state.minted}

def accessClaims (state : State) (now : Int) (user : User) : Claims :=
  let roles := state.db.rolesJoined state.db.userRoles user.id
  {
    userID := user.id
    projectID := ((state.projects.find? fun project => project.userID == user.id).map (·.id)).getD 0
    username := user.username
    email := user.email
    isAdmin := user.isAdmin
    roles := roles.map (·.name)
    permissions := roles.flatMap fun role =>
      (state.db.permissionsOf role).map fun perm => perm.resource ++ ":" ++ perm.action
    registered := {
      subject := toString user.id
      issuedAt := numericDate now
      expiresAt := numericDate (now + config.expiresIn)
      notBefore := numericDate now
      issuer := "vc-stack-identity"
      audience := ["vc-stack"] } }

def mfaTokenExpiry : Int := 5 * 60 * second

def challengeClaims (now : Int) (user : User) : MFAClaims where
  userID := user.id
  username := user.username
  purpose := "mfa_challenge"
  registered := {
    subject := toString user.id
    issuedAt := numericDate now
    expiresAt := numericDate (now + mfaTokenExpiry)
    issuer := "vc-stack-identity" }

structure LoginResponse where
  accessToken : String := ""
  refreshToken : String := ""
  expiresIn : Int := 0
  tokenType : String := ""
  user : Option User := none
  mfaRequired : Bool := false
  mfaToken : String := ""

/-- The end both login paths share: an access token, then a stored refresh
token, drawn at random or failing with some error. -/
def issueTokens (state : State) (now : Int) (user : User) (random : Except String String) :
    Except String LoginResponse × State :=
  let payload := (accessClaims config state now user).encode
  let signed := state.mint jwt .generateAccessToken payload
  match random with
  | .error reason => (.error reason, signed)
  | .ok token =>
    (.ok {
      accessToken := jwt.sign payload
      refreshToken := token
      expiresIn := config.expiresIn / second
      tokenType := "Bearer"
      user := some user },
    {signed with refreshTokens :=
      ⟨token, user.id, now + config.refreshExpiresIn, false⟩ :: signed.refreshTokens})

structure LoginRequest where
  username : String
  password : String
  totpCode : String := ""

def login (state : State) (now : Int) (request : LoginRequest) (random : Except String String) :
    Except String LoginResponse × State :=
  match state.check now request.username with
  | (some remaining, checked) =>
    (.error ("too many failed login attempts, try again in " ++ toString (remaining / second) ++
      " seconds"), checked)
  | (none, checked) =>
    match authenticateUser checks checked.db request.username request.password with
    | none => (.error "invalid credentials", checked.recordFailure now request.username)
    | some user =>
      -- The failures are forgiven before the second factor is looked at.
      let cleared := checked.setFailures request.username none
      let issue := fun (passed : State) =>
        let issued := issueTokens jwt config passed now user random
        (issued.1.mapError ("failed to generate refresh token: " ++ ·), issued.2)
      if user.mfaEnabled then
        if request.totpCode = "" then
          let payload := (challengeClaims now user).encode
          (.ok {mfaRequired := true, mfaToken := jwt.sign payload},
            cleared.mint jwt .generateMFAToken payload)
        else
          match secondFactor checks cleared now user request.totpCode with
          | none => (.error "invalid MFA code", cleared)
          | some passed => issue passed
      else issue cleared

structure MFAChallengeRequest where
  mfaToken : String
  totpCode : String

def mfaChallengeHandler (state : State) (now : Int) (bound : Except String MFAChallengeRequest)
    (random : Except String String) : Except Failure LoginResponse × State :=
  match bound with
  | .error reason => (.error ⟨400, reason⟩, state)
  | .ok request =>
    match validateMFAToken jwt now request.mfaToken with
    | none => (.error ⟨401, "invalid or expired MFA token"⟩, state)
    | some userID =>
      -- Neither the throttle nor is_active is consulted on this path.
      match state.db.firstUser userID with
      | none => (.error ⟨404, "user not found"⟩, state)
      | some user =>
        match secondFactor checks state now user request.totpCode with
        | none => (.error ⟨401, "invalid MFA code"⟩, state)
        | some passed =>
          let issued := issueTokens jwt config passed now user random
          (issued.1.mapError fun _ => ⟨500, "failed to generate refresh token"⟩, issued.2)

structure AssumeRoleRequest where
  roleID : Nat
  sessionName : String
  durationSeconds : Int := 0

structure AssumeRoleResponse where
  accessKeyID : String
  secretKey : String
  sessionToken : String
  expiration : Int
  assumedRole : String

def evaluateTrustPolicy (policy : TrustPolicy) (userID : Nat) (username : String) : Bool :=
  policy.statement.any fun statement =>
    statement.effect == "Allow" &&
      (statement.action == "sts:AssumeRole" || statement.action == "*") &&
      (statement.principal.all || statement.principal.identities.any fun identity =>
        identity == "user:" ++ toString userID || identity == "user:" ++ username ||
          identity == "*")

/-- `permissions` and `policies` are the associations loaded with the role. -/
def sessionClaims (now : Int) (userID : Nat) (username : String) (role : Role)
    (permissions : List Permission) (policies : List Policy) (duration : Int) : Claims where
  userID := userID
  username := username
  roles := ["sts-session:" ++ role.name]
  permissions := (permissions.map fun perm => perm.resource ++ ":" ++ perm.action) ++
    policies.map fun policy => "policy:" ++ policy.name
  registered := {
    subject := toString userID
    issuedAt := numericDate now
    expiresAt := numericDate (now + duration * second)
    notBefore := numericDate now
    issuer := "vc-stack-sts"
    audience := ["vc-stack"] }

/-- `generated` holds the random access key and secret, `none` when drawing or
storing them fails. -/
def assumeRoleHandler (state : State) (now : Int) (caller : RouteGuards.Request)
    (bound : Except String AssumeRoleRequest) (generated : Option (String × String)) :
    Except Failure AssumeRoleResponse × State :=
  match authMiddleware jwt now caller with
  | .error failure => (.error failure, state)
  | .ok claims =>
  match bound with
  | .error reason => (.error ⟨400, "Invalid request: " ++ reason⟩, state)
  | .ok request =>
  let duration := if request.durationSeconds ≤ 0 then 3600 else request.durationSeconds
  if duration > 43200 then
    (.error ⟨400, "Duration cannot exceed 43200 seconds (12 hours)"⟩, state)
  else
  match state.db.roles.find? fun role => role.id == request.roleID with
  | none => (.error ⟨404, "Role not found"⟩, state)
  | some role =>
  match state.trustPolicies.find? fun row => row.roleID == role.id with
  | none => (.error ⟨403, "Role does not have a trust policy or it is invalid"⟩, state)
  | some trust =>
  if !evaluateTrustPolicy trust.policy claims.userID claims.username then
    (.error ⟨403, "User is not authorized to assume this role"⟩, state)
  else
  match generated with
  | none => (.error ⟨500, "Failed to generate temporary credentials"⟩, state)
  | some (accessKeyID, secretKey) =>
    let expiration := now + duration * second
    -- Only the policies are preloaded, so the role comes without permissions.
    let payload := (sessionClaims now claims.userID claims.username role []
      (state.db.policiesJoined state.db.rolePolicies role.id) duration).encode
    let stored := {state with stsSessions :=
      ⟨accessKeyID, secretKey, "", claims.userID, role.id, request.sessionName, expiration⟩ ::
        state.stsSessions}
    (.ok ⟨accessKeyID, secretKey, jwt.sign payload, expiration, role.name⟩,
      stored.mint jwt .generateSTSToken payload)

inductive Action where
  | login (now : Int) (request : LoginRequest) (random : Except String String)
  | mfaChallenge (now : Int) (bound : Except String MFAChallengeRequest)
      (random : Except String String)
  | assumeRole (now : Int) (caller : RouteGuards.Request) (bound : Except String AssumeRoleRequest)
      (generated : Option (String × String))

/-- No request is refused a step; a handler that fails has answered. -/
def step (state : State) : Action → Option State
  | .login now request random => some (login jwt checks config state now request random).2
  | .mfaChallenge now bound random =>
    some (mfaChallengeHandler jwt checks config state now bound random).2
  | .assumeRole now caller bound generated =>
    some (assumeRoleHandler jwt state now caller bound generated).2

def SignsClaims (state next : State) : Prop :=
  next.minted = state.minted ∨ ∃ kind, ∃ claims : Claims, kind ≠ .generateMFAToken ∧
    next.minted = ⟨jwt.sign claims.encode, kind⟩ :: state.minted

/-- The login that is answered with a challenge: name and password are right,
the user has a second factor and the request brings no code. -/
def Challenged (state : State) (now : Int) (request : LoginRequest) : Prop :=
  (state.check now request.username).1 = none ∧ request.totpCode = "" ∧
    ∃ user, authenticateUser checks state.db request.username request.password = some user ∧
      user.mfaEnabled = true

variable {jwt checks config}

variable (state : State) (now : Int)

theorem check_keeps (username : String) :
    (state.check now username).2.minted = state.minted ∧
      (state.check now username).2.db = state.db := by
  unfold State.check
  split
  · exact ⟨rfl, rfl⟩
  · dsimp only
    split
    · exact ⟨rfl, rfl⟩
    · split <;> exact ⟨rfl, rfl⟩

theorem record_failure_minted {username : String} :
    (state.recordFailure now username).minted = state.minted := by
  unfold State.recordFailure
  split
  · split <;> rfl
  · rfl

theorem second_factor_minted {passed : State} {now : Int} {code : String}
    (accepted : secondFactor checks state now user code = some passed) :
    passed.minted = state.minted := by
  unfold secondFactor at accepted
  split at accepted
  · cases accepted
    rfl
  · unfold validateRecoveryCode at accepted
    split at accepted
    · contradiction
    · cases accepted
      rfl

theorem issue_tokens_signs :
    SignsClaims jwt state (issueTokens jwt config state now user random).2 := by
  refine Or.inr ⟨.generateAccessToken, accessClaims config state now user, by decide, ?_⟩
  cases random <;> rfl

theorem signs_on_top {before state next : State} (same : before.minted = state.minted)
    (signs : SignsClaims jwt before next) : SignsClaims jwt state next := by
  rwa [SignsClaims, same] at signs

theorem login_signs {request : LoginRequest}
    (unchallenged : ¬ Challenged checks state now request) :
    SignsClaims jwt state (login jwt checks config state now request random).2 := by
  obtain ⟨minted, db⟩ := check_keeps state now request.username
  unfold login
  cases verdict : state.check now request.username with
  | mk blocked checked =>
    rw [verdict] at minted db
    cases blocked with
    | some remaining => exact Or.inl minted
    | none =>
      dsimp only
      cases found : authenticateUser checks checked.db request.username request.password with
      | none => exact Or.inl ((record_failure_minted _ _).trans minted)
      | some user =>
        dsimp only
        by_cases enabled : user.mfaEnabled = true
        · have coded : request.totpCode ≠ "" := by
            intro empty
            refine unchallenged ⟨by rw [verdict], empty, user, ?_, enabled⟩
            rwa [← db]
          rw [if_pos enabled, if_neg coded]
          cases accepted : secondFactor checks (checked.setFailures request.username none)
              now user request.totpCode with
          | none => exact Or.inl minted
          | some passed =>
            have same := second_factor_minted _ accepted
            exact signs_on_top (same.trans minted) (issue_tokens_signs passed now)
        · rw [if_neg enabled]
          exact signs_on_top minted (issue_tokens_signs _ now)

theorem login_challenged {request : LoginRequest}
    (challenged : Challenged checks state now request) :
    ∃ user, (login jwt checks config state now request random).2.minted =
      ⟨jwt.sign (challengeClaims now user).encode, .generateMFAToken⟩ :: state.minted := by
  obtain ⟨minted, db⟩ := check_keeps state now request.username
  obtain ⟨free, empty, user, found, enabled⟩ := challenged
  refine ⟨user, ?_⟩
  unfold login
  cases verdict : state.check now request.username with
  | mk blocked checked =>
    rw [verdict] at minted db free
    cases free
    have here : authenticateUser checks checked.db request.username request.password =
        some user := by rwa [← db] at found
    simp only [here, enabled, empty, if_true]
    exact congrArg _ minted

theorem challenge_handler_signs {bound : Except String MFAChallengeRequest} :
    SignsClaims jwt state (mfaChallengeHandler jwt checks config state now bound random).2 := by
  unfold mfaChallengeHandler
  split
  · exact Or.inl rfl
  · split
    · exact Or.inl rfl
    · split
      · exact Or.inl rfl
      · split
        · exact Or.inl rfl
        · rename_i user _ _ passed accepted
          exact signs_on_top (second_factor_minted _ accepted) (issue_tokens_signs passed now)

theorem assume_role_signs {caller : RouteGuards.Request} {bound : Except String AssumeRoleRequest}
    {generated : Option (String × String)} :
    SignsClaims jwt state (assumeRoleHandler jwt state now caller bound generated).2 := by
  fun_cases assumeRoleHandler jwt state now caller bound generated
  all_goals first
    | exact Or.inl rfl
    | exact Or.inr ⟨.generateSTSToken, _, by decide, rfl⟩

/-- Nobody can present a text that verifies and was not signed in the run. -/
def Presentable (jwt : JwtLibrary) (state : State) (token : String) : Prop :=
  (jwt.verify token).isSome = true → ∃ mint ∈ state.minted, mint.token = token

/-- Every token ValidateToken accepts, at whatever time, was signed by
generateAccessToken or generateSTSToken. -/
def Separated (jwt : JwtLibrary) (state : State) : Prop :=
  ∀ now token, Presentable jwt state token → (validateToken jwt now token).isSome = true →
    ∃ mint ∈ state.minted, mint.token = token ∧ mint.kind ≠ .generateMFAToken

def ClaimsOnly (jwt : JwtLibrary) (state : State) : Prop :=
  ∀ mint ∈ state.minted, mint.kind ≠ .generateMFAToken ∧
    ∃ claims : Claims, mint.token = jwt.sign claims.encode

def Unchallenged (checks : Checks) (state : State) : Action → Prop
  | .login now request _ => ¬ Challenged checks state now request
  | _ => True

theorem claims_only_next {next : State} (only : ClaimsOnly jwt state)
    (signs : SignsClaims jwt state next) : ClaimsOnly jwt next := by
  intro mint member
  rcases signs with same | ⟨kind, claims, other, added⟩
  · rw [same] at member
    exact only mint member
  · rw [added] at member
    rcases List.mem_cons.mp member with new | old
    · subst new
      exact ⟨other, claims, rfl⟩
    · exact only mint old

theorem step_claims_only (action : Action) (next : State) (only : ClaimsOnly jwt state)
    (admitted : Unchallenged checks state action)
    (taken : step jwt checks config state action = some next) : ClaimsOnly jwt next := by
  cases action with
  | login now request random =>
    cases taken
    exact claims_only_next state only (login_signs state now admitted)
  | mfaChallenge now bound random =>
    cases taken
    exact claims_only_next state only (challenge_handler_signs state now)
  | assumeRole now caller bound generated =>
    cases taken
    exact claims_only_next state only (assume_role_signs state now)

theorem claims_only_separated (only : ClaimsOnly jwt state) :
    Separated jwt state := by
  intro now token presentable accepted
  have verified : (jwt.verify token).isSome = true := by
    cases found : jwt.verify token with
    | none => simp [validateToken, parseToken, found] at accepted
    | some payload => rfl
  obtain ⟨mint, member, same⟩ := presentable verified
  exact ⟨mint, member, same, (only mint member).1⟩

/-- ValidateToken does not look at the purpose: a challenge token passes at
the time it is signed. -/
theorem challenge_accepted (user : User) :
    validateToken jwt now (jwt.sign (challengeClaims now user).encode) =
      some (decodeClaims (challengeClaims now user).encode) := by
  have fresh : timely now (challengeClaims now user).encode.registered = true := by
    simp only [timely, challengeClaims, MFAClaims.encode, numericDate, mfaTokenExpiry, second,
      Option.all_some, Option.all_none, Bool.and_true]
    apply decide_eq_true
    omega
  simp [validateToken, parseToken, jwt.verify_sign, fresh]

theorem challenged_breaks (action : Action) (only : ClaimsOnly jwt state)
    (challenged : ¬ Unchallenged checks state action) :
    ∃ next, step jwt checks config state action = some next ∧ ¬ Separated jwt next := by
  cases action with
  | login now request random =>
    obtain ⟨user, minted⟩ : ∃ user,
        (login jwt checks config state now request random).2.minted = _ :: state.minted :=
      login_challenged state now (Classical.not_not.mp challenged)
    refine ⟨_, rfl, fun separated => ?_⟩
    obtain ⟨mint, member, same, kind⟩ := separated now
      (jwt.sign (challengeClaims now user).encode)
      (fun _ => ⟨_, by rw [minted]; exact List.mem_cons_self, rfl⟩)
      (by rw [challenge_accepted]; rfl)
    rw [minted] at member
    rcases List.mem_cons.mp member with new | old
    · subst new
      exact kind rfl
    · -- An older token carries `Claims`, whose payload has no purpose.
      obtain ⟨_, claims, shape⟩ := only mint old
      have payloads : claims.encode = (challengeClaims now user).encode := by
        have verified := jwt.verify_sign claims.encode
        rw [← shape, same, jwt.verify_sign] at verified
        exact (Option.some.inj verified).symm
      have purposes := congrArg Payload.purpose payloads
      contradiction
  | mfaChallenge => exact absurd trivial challenged
  | assumeRole => exact absurd trivial challenged

/-- In a run from any tables, only tokens of generateAccessToken and
generateSTSToken are accepted in every state reached exactly when no login is
answered with an MFA challenge. -/
theorem token_kinds_separated_iff (db : Database) (projects : List Project)
    (trustPolicies : List RoleTrustPolicy) (actions : List Action) :
    Always (step jwt checks config) (Separated jwt)
        {db := db, projects := projects, trustPolicies := trustPolicies} actions ↔
      Guarded (step jwt checks config) (Unchallenged checks)
        {db := db, projects := projects, trustPolicies := trustPolicies} actions :=
  always_iff_guarded (ClaimsOnly jwt) (Separated jwt) claims_only_separated
    step_claims_only challenged_breaks actions _ (fun _ member => absurd member List.not_mem_nil)

/-- The session's permissions are those of the user's access token, followed
by the policies listed for auditing. -/
def GrantsRole (jwt : JwtLibrary) (config : Config) (state : State) (later : Int) (user : User)
    (role : Role) (sessionToken : String) : Prop :=
  ∃ session access, jwt.verify sessionToken = some session ∧
    jwt.verify (jwt.sign (accessClaims config state later user).encode) = some access ∧
    (decodeClaims session).permissions = (decodeClaims access).permissions ++
      (state.db.policiesJoined state.db.rolePolicies role.id).map fun policy =>
        "policy:" ++ policy.name

theorem decode_encode {claims : Claims} : decodeClaims claims.encode = claims := rfl

theorem only_role_permissions {role : Role}
    (only : state.db.rolesJoined state.db.userRoles user.id = [role]) :
    (accessClaims config state now user).permissions =
      (state.db.permissionsOf role).map fun perm => perm.resource ++ ":" ++ perm.action := by
  simp only [accessClaims, only, List.flatMap_singleton]

theorem assumed_session {caller : RouteGuards.Request} {request : AssumeRoleRequest}
    {generated : Option (String × String)} {role : Role} {response : AssumeRoleResponse}
    (found : (state.db.roles.find? fun role => role.id == request.roleID) = some role)
    (assumed : (assumeRoleHandler jwt state now caller (.ok request) generated).1 = .ok response) :
    ∃ session : Claims, response.sessionToken = jwt.sign session.encode ∧
      session.permissions = (state.db.policiesJoined state.db.rolePolicies role.id).map fun policy =>
        "policy:" ++ policy.name := by
  revert assumed
  generalize isBound : Except.ok request = bound
  fun_cases assumeRoleHandler jwt state now caller bound generated
  all_goals intro assumed
  all_goals try contradiction
  rename_i foundRole _ _ _ _ _ _ _ _
  cases isBound
  cases assumed
  have same : role = _ := Option.some.inj (found.symm.trans foundRole)
  subst same
  exact ⟨_, rfl, rfl⟩

/-- Assuming a role grants what the role grants a user exactly when the role
has no permissions. -/
theorem assumed_role_granted_iff (state : State) (now later : Int) (caller : RouteGuards.Request)
    (request : AssumeRoleRequest) (generated : Option (String × String)) (role : Role) (user : User)
    (response : AssumeRoleResponse)
    (found : (state.db.roles.find? fun role => role.id == request.roleID) = some role)
    (only : state.db.rolesJoined state.db.userRoles user.id = [role])
    (assumed : (assumeRoleHandler jwt state now caller (.ok request) generated).1 = .ok response) :
    GrantsRole jwt config state later user role response.sessionToken ↔
      state.db.permissionsOf role = [] := by
  obtain ⟨session, signed, listed⟩ := assumed_session state now found assumed
  have granted : (accessClaims config state later user).permissions = _ :=
    only_role_permissions state later only
  simp only [GrantsRole, signed, jwt.verify_sign, Option.some.injEq, exists_and_left,
    exists_eq_left', decode_encode, listed, granted]
  rw [List.self_eq_append_left, List.map_eq_nil_iff]

end Handlers

variable (jwt : JwtLibrary)

theorem auth_middleware_bearer {now : Int} {token : String} {claims : Claims}
    (valid : validateToken jwt now token = some claims) :
    authMiddleware jwt now {authorization := "Bearer " ++ token} = .ok claims := by
  have header : RouteGuards.authHeader {authorization := "Bearer " ++ token} =
      "Bearer " ++ token := by
    simp [RouteGuards.authHeader]
  have present : "Bearer " ++ token ≠ "" := by simp
  simp only [authMiddleware, header, present, if_false, RouteGuards.bearer_header, valid]

def memberHash : String := "$2a$05$CCCCCCCCCCCCCCCCCCCCC.pIKrLVkBX9/OvQMSygY1pWEVn72t6na"

def member : User where
  id := 7
  username := "member"
  email := "member@example.org"
  password := memberHash
  mfaEnabled := true
  mfaSecret := "JBSWY3DPEHPK3PXP"

def memberChecks : Checks where
  compareHashAndPassword hashed text := hashed == memberHash && text == "secret"
  totpValidate _ _ _ := false

/-- Whatever the library, a login without the second factor returns a challenge
token that opens the routes behind authMiddleware. -/
theorem challenge_token_opens_routes :
    Nonempty JwtLibrary ∧ ∀ jwt : JwtLibrary, ∃ token claims,
      (login jwt memberChecks {} {db := {users := [member]}} 0
        {username := "member", password := "secret"} (.ok "refresh")).1 =
          .ok {mfaRequired := true, mfaToken := token} ∧
      validateToken jwt 0 token = some claims ∧ claims.userID = 7 ∧
      authMiddleware jwt 0 {authorization := "Bearer " ++ token} = .ok claims := by
  refine ⟨jwt_library_exists, fun jwt => ?_⟩
  have accepted : validateToken jwt 0 _ = some _ := challenge_accepted 0 member
  exact ⟨_, _, rfl, accepted, rfl, auth_middleware_bearer jwt accepted⟩

def auditorState : State where
  db := {
    roles := [⟨1, "auditor"⟩]
    permissions := [⟨1, "compute-read", "compute", "read"⟩]
    userRoles := [(7, 1)]
    rolePermissions := [(1, 1)] }
  trustPolicies := [⟨1, {statement := [⟨"Allow", {all := true}, "sts:AssumeRole"⟩]}⟩]

theorem signed_accepted (now : Int) (claims : Claims) (fresh : timely now claims.registered = true) :
    validateToken jwt now (jwt.sign claims.encode) = some claims := by
  have kept : timely now claims.encode.registered = true := fresh
  simp only [validateToken, parseToken, jwt.verify_sign, Option.filter_some, kept, if_true,
    Option.map_some, decode_encode]

theorem access_token_accepted (state : State) (user : User) :
    validateToken jwt 0 (jwt.sign (accessClaims {} state 0 user).encode) =
      some (accessClaims {} state 0 user) := by
  apply signed_accepted
  simp only [timely, accessClaims, numericDate, second, Option.all_some]
  decide

theorem auditor_assumes_role :
    ∃ response, (assumeRoleHandler jwt auditorState 0
        {authorization := "Bearer " ++ jwt.sign (accessClaims {} auditorState 0 member).encode}
        (.ok ⟨1, "audit", 0⟩) (some ("key", "secret"))).1 = .ok response ∧
      response.sessionToken =
        jwt.sign (sessionClaims 0 7 "member" ⟨1, "auditor"⟩ [] [] 3600).encode := by
  have caller := auth_middleware_bearer jwt (access_token_accepted jwt auditorState member)
  unfold assumeRoleHandler
  rw [caller]
  exact ⟨_, rfl, rfl⟩

theorem auditor_role_not_granted :
    Nonempty JwtLibrary ∧ ∀ jwt : JwtLibrary, ∃ response, (assumeRoleHandler jwt auditorState 0
        {authorization := "Bearer " ++ jwt.sign (accessClaims {} auditorState 0 member).encode}
        (.ok ⟨1, "audit", 0⟩) (some ("key", "secret"))).1 = .ok response ∧
      ¬ GrantsRole jwt {} auditorState 0 member ⟨1, "auditor"⟩ response.sessionToken := by
  refine ⟨jwt_library_exists, fun jwt => ?_⟩
  obtain ⟨response, assumed, _⟩ := auditor_assumes_role jwt
  refine ⟨response, assumed, fun granted => ?_⟩
  have none := (assumed_role_granted_iff auditorState 0 0 _ ⟨1, "audit", 0⟩ _ ⟨1, "auditor"⟩ member
    response rfl rfl assumed).mp granted
  contradiction

/-- The role's one permission is in the access token and not in the session. -/
theorem assumed_role_without_permissions :
    Nonempty JwtLibrary ∧ ∀ jwt : JwtLibrary, ∃ response session access,
      (assumeRoleHandler jwt auditorState 0
        {authorization := "Bearer " ++ jwt.sign (accessClaims {} auditorState 0 member).encode}
        (.ok ⟨1, "audit", 0⟩) (some ("key", "secret"))).1 = .ok response ∧
      validateToken jwt 0 response.sessionToken = some session ∧ session.permissions = [] ∧
      validateToken jwt 0 (jwt.sign (accessClaims {} auditorState 0 member).encode) = some access ∧
      access.permissions = ["compute:read"] := by
  refine ⟨jwt_library_exists, fun jwt => ?_⟩
  have access := access_token_accepted jwt auditorState member
  have session := signed_accepted jwt 0
    (sessionClaims 0 7 "member" ⟨1, "auditor"⟩ [] [] 3600) (by decide)
  obtain ⟨response, assumed, signed⟩ := auditor_assumes_role jwt
  rw [← signed] at session
  exact ⟨response, _, _, assumed, session, rfl, access, rfl⟩

end VcStack.IdentityTokens
