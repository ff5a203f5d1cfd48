import Mathlib.Data.Set.Finite.List
import Mathlib.Data.Set.Finite.Range
import VcStack.LoginRequests

/-!
The four ways to an access token in internal/management/identity, and the switch
that is meant to close them: password logins and MFA challenges, refresh tokens
(service.go), callbacks of an external identity provider with the accounts they
link or create (federation.go), and the status of a user (handler_user.go).
-/

namespace VcStack.FederatedLogins

open IdentityTables IdentityTokens Runs

structure IdentityProvider where
  id : Nat
  name : String
  autoProvision : Bool := false
  autoLink : Bool := false
  defaultRoleID : Option Nat := none

structure OIDCUserInfo where
  sub : String
  email : String := ""
  groups : List String := []
  preferredUser : String := ""

structure FederatedUser where
  id : Nat
  userID : Nat
  providerID : Nat
  externalID : String
  externalEmail : String := ""
  externalGroups : String := ""
  lastLoginAt : Int := 0

structure IDPRoleMapping where
  providerID : Nat
  externalGroup : String
  roleID : Nat

structure Federation where
  service : State
  federatedUsers : List FederatedUser := []
  roleMappings : List IDPRoleMapping := []

def Federation.users (federation : Federation) : List User := federation.service.db.users

def leadingBytes : Nat → List Char → List Char
  | _, [] => []
  | count, char :: rest =>
    if char.utf8Size ≤ count then char :: leadingBytes (count - char.utf8Size) rest else []

/-- The name as the identity provider suggests it. `info.Sub[:8]` is a slice of
bytes and panics on a shorter subject. -/
def suggestedUsername (info : OIDCUserInfo) : Option String :=
  let named :=
    if info.preferredUser = "" then String.ofList ((info.email.toList.splitOn '@').headD [])
    else info.preferredUser
  if named ≠ "" then some named
  else if info.sub.utf8ByteSize < 8 then none
  else some ("sso_" ++ String.ofList (leadingBytes 8 info.sub.toList))

/-- The name that a round of the uniqueness loop looks at. The body and the loop
header both count up, so the numbers are odd. -/
def candidate (base : String) : Nat → String
  | 0 => base
  | round + 1 => base ++ "_" ++ Nat.repr (2 * round + 1)

theorem repr_determines {left right : Nat} (same : left.repr = right.repr) : left = right := by
  rw [Nat.repr_eq_ofList_toDigits, Nat.repr_eq_ofList_toDigits] at same
  have digits := congrArg (Nat.ofDigitChars 10 · 0) (String.ofList_injective same)
  simpa only [Nat.ofDigitChars_ten_toDigits] using digits

theorem candidate_injective {base : String} : Function.Injective (candidate base) := by
  have longer : ∀ round, base ≠ candidate base (round + 1) := by
    intro round same
    have lengths := congrArg String.length same
    simp only [candidate, String.length_append] at lengths
    have underscore : "_".length = 1 := rfl
    omega
  intro left right same
  cases left with
  | zero =>
    cases right with
    | zero => rfl
    | succ right => exact absurd same (longer right)
  | succ left =>
    cases right with
    | zero => exact absurd same.symm (longer left)
    | succ right =>
      have numbers := repr_determines ((String.append_right_inj _).mp same)
      omega

theorem candidate_free (users : List User) (base : String) :
    ∃ round, candidate base round ∉ users.map User.username := by
  by_contra taken
  apply Set.infinite_range_of_injective candidate_injective
  apply (List.finite_toSet (users.map User.username)).subset
  rintro name ⟨round, rfl⟩
  apply Classical.byContradiction
  intro free
  exact taken ⟨round, free⟩

def uniqueUsername (users : List User) (base : String) : String :=
  candidate base (Nat.find (candidate_free users base))

/-- What the database and the random source supply to a callback: the key of a
new user or the error of the insertion, the other keys and the password. -/
structure Drawn where
  userID : Except String Nat
  projectID : Nat := 0
  linkID : Nat := 0
  password : String := ""

inductive Provisioned where
  | found (user : User)
  | failed (error : String)
  | panicked

def Federation.link (federation : Federation) (now : Int) (provider : IdentityProvider)
    (info : OIDCUserInfo) (linkID userID : Nat) : Federation :=
  {federation with federatedUsers := federation.federatedUsers ++ [{
    id := linkID
    userID := userID
    providerID := provider.id
    externalID := info.sub
    externalEmail := info.email
    externalGroups := ",".intercalate info.groups
    lastLoginAt := now }]}

def Federation.touch (federation : Federation) (now : Int) (info : OIDCUserInfo) (linkID : Nat) :
    Federation :=
  {federation with federatedUsers := federation.federatedUsers.map fun row =>
    if row.id = linkID then
      {row with
        lastLoginAt := now
        externalEmail := info.email
        externalGroups := ",".intercalate info.groups}
    else row}

def newUser (info : OIDCUserInfo) (userID : Nat) (username password : String) : User where
  id := userID
  username := username
  email := info.email
  password := password
  isActive := true
  isAdmin := false

def defaultRole (provider : IdentityProvider) (userID : Nat) : List (Nat × Nat) :=
  match provider.defaultRoleID with
  | some roleID => if roleID > 0 then [(userID, roleID)] else []
  | none => []

def Federation.provision (federation : Federation) (provider : IdentityProvider)
    (info : OIDCUserInfo) (userID projectID : Nat) (username password : String) : Federation :=
  let db := federation.service.db
  {federation with service := {federation.service with
    db := {db with
      users := db.users ++ [newUser info userID username password]
      userRoles := db.userRoles ++ defaultRole provider userID }
    projects := federation.service.projects ++ [⟨projectID, userID⟩] }}

def findOrCreateFederatedUser (federation : Federation) (now : Int) (provider : IdentityProvider)
    (info : OIDCUserInfo) (drawn : Drawn) : Provisioned × Federation :=
  match federation.federatedUsers.find? fun link =>
    link.providerID == provider.id && link.externalID == info.sub with
  | some link =>
    let touched := federation.touch now info link.id
    match federation.service.db.firstUser link.userID with
    | none => (.failed "linked local user not found: record not found", touched)
    | some user => (.found user, touched)
  | none =>
  -- An existing account is linked by its e-mail, whether it is active or not.
  match if info.email ≠ "" ∧ provider.autoLink then
      federation.users.find? fun user => user.email == info.email else none with
  | some user => (.found user, federation.link now provider info drawn.linkID user.id)
  | none =>
  if provider.autoProvision = false then
    (.failed ("user not found and auto-provisioning is disabled for provider " ++ provider.name),
      federation)
  else
  match suggestedUsername info with
  | none => (.panicked, federation)
  | some base =>
  match drawn.userID with
  | .error reason => (.failed ("failed to create user: " ++ reason), federation)
  | .ok userID =>
    let username := uniqueUsername federation.users base
    let provisioned :=
      federation.provision provider info userID drawn.projectID username drawn.password
    (.found (newUser info userID username drawn.password),
      provisioned.link now provider info drawn.linkID userID)

/-- Roles are only ever added; a group the user left keeps its role. -/
def applyGroupRoleMappings (federation : Federation) (provider : IdentityProvider) (user : User)
    (groups : List String) : Federation :=
  let mappings := federation.roleMappings.filter fun mapping => mapping.providerID == provider.id
  let userRoles := mappings.foldl (fun joins mapping =>
    if groups.contains mapping.externalGroup && !joins.contains (user.id, mapping.roleID) then
      joins ++ [(user.id, mapping.roleID)]
    else joins) federation.service.db.userRoles
  {federation with service := {federation.service with
    db := {federation.service.db with userRoles := userRoles }}}

/-- A callback: the authorization code, and what the identity provider answers
to the exchange of the code and to the question who the user is. -/
structure Callback where
  code : String
  exchanged : Except String Unit
  userInfo : Except String OIDCUserInfo

section Handlers

variable (jwt : JwtLibrary) (checks : Checks) (config : Config)

def handleOIDCCallback (federation : Federation) (now : Int) (provider : IdentityProvider)
    (callback : Callback) (drawn : Drawn) (random : Except String String) :
    Except Failure LoginResponse × Federation :=
  if callback.code = "" then (.error ⟨400, "no authorization code received"⟩, federation)
  else
  match callback.exchanged with
  | .error reason => (.error ⟨502, "token exchange failed: " ++ reason⟩, federation)
  | .ok _ =>
  match callback.userInfo with
  | .error reason => (.error ⟨502, "failed to get user info: " ++ reason⟩, federation)
  | .ok info =>
  match findOrCreateFederatedUser federation now provider info drawn with
  | (.failed reason, after) => (.error ⟨500, "failed to provision user: " ++ reason⟩, after)
  | (.panicked, after) => (.error ⟨500, ""⟩, after)
  | (.found user, after) =>
    let mapped := if info.groups = [] then after
      else applyGroupRoleMappings after provider user info.groups
    -- The token lists the roles as they were loaded, before the mappings.
    let payload := (accessClaims config after.service now user).encode
    let signed := mapped.service.mint jwt .generateAccessToken payload
    match random with
    | .error _ =>
      (.error ⟨500, "failed to generate refresh token"⟩, {mapped with service := signed})
    | .ok token =>
      (.ok {
        accessToken := jwt.sign payload
        refreshToken := token
        expiresIn := config.expiresIn / second
        tokenType := "Bearer"
        user := some user },
      {mapped with service := {signed with refreshTokens :=
        ⟨token, user.id, now + config.refreshExpiresIn, false⟩ :: signed.refreshTokens}})

/-- The user of a refresh token whose owner's row is gone. -/
def zeroUser : User where
  id := 0
  isActive := false

def refreshAccessToken (state : State) (now : Int) (refreshToken : String) :
    Except String LoginResponse × State :=
  match state.refreshTokens.find? fun row =>
    row.token == refreshToken && decide (now < row.expiresAt) && !row.isRevoked with
  | none => (.error "invalid refresh token", state)
  | some row =>
    let user := (state.db.firstUser row.userID).getD zeroUser
    let payload := (accessClaims config state now user).encode
    (.ok {
      accessToken := jwt.sign payload
      refreshToken := refreshToken
      expiresIn := config.expiresIn / second
      tokenType := "Bearer"
      user := some user },
    state.mint jwt .generateAccessToken payload)

/-- The write of updateUserStatusHandler and of updateUserHandler. Refresh tokens
and challenge tokens of the user stay as they are. -/
def setIsActive (state : State) (userID : Nat) (active : Bool) : State :=
  {state with db := {state.db with users := state.db.users.map fun row =>
    if row.id = userID then {row with isActive := active} else row }}

def updateUserStatusHandler (state : State) (userID : Nat) (bound : Except String String) :
    Except Failure Unit × State :=
  match bound with
  | .error reason => (.error ⟨400, reason⟩, state)
  | .ok status =>
  if (state.db.firstUser userID).isNone then (.error ⟨404, "User not found"⟩, state)
  else if status = "active" then (.ok (), setIsActive state userID true)
  else if status = "inactive" ∨ status = "suspended" then (.ok (), setIsActive state userID false)
  else (.error ⟨400, "Invalid status"⟩, state)

inductive Action where
  | login (now : Int) (request : LoginRequest) (random : Except String String)
  | mfaChallenge (now : Int) (bound : Except String MFAChallengeRequest)
      (random : Except String String)
  | refresh (now : Int) (refreshToken : String)
  | callback (now : Int) (provider : IdentityProvider) (callback : Callback) (drawn : Drawn)
      (random : Except String String)
  | updateUserStatus (userID : Nat) (bound : Except String String)

def issuedTo {Error : Type} : Except Error LoginResponse → Option User
  | .error _ => none
  | .ok response => response.user

def respond (federation : Federation) : Action → Option User × Federation
  | .login now request random =>
    let answer := login jwt checks config federation.service now request random
    (issuedTo answer.1, {federation with service := answer.2})
  | .mfaChallenge now bound random =>
    let answer := mfaChallengeHandler jwt checks config federation.service now bound random
    (issuedTo answer.1, {federation with service := answer.2})
  | .refresh now refreshToken =>
    let answer := refreshAccessToken jwt config federation.service now refreshToken
    (issuedTo answer.1, {federation with service := answer.2})
  | .callback now provider callback drawn random =>
    let answer := handleOIDCCallback jwt config federation now provider callback drawn random
    (issuedTo answer.1, answer.2)
  | .updateUserStatus userID bound =>
    (none, {federation with
      service := (updateUserStatusHandler federation.service userID bound).2 })

/-- The database assigns positive keys that no other user has. -/
def Assigns (federation : Federation) : Action → Bool
  | .callback _ _ _ ⟨.ok userID, _, _, _⟩ _ =>
    decide (0 < userID ∧ userID ∉ federation.users.map User.id)
  | _ => true

def step (federation : Federation) (action : Action) : Option Federation :=
  if Assigns federation action then some (respond jwt checks config federation action).2 else none

end Handlers

def standing (state : State) : List (Nat × Bool) :=
  state.db.users.map fun user => (user.id, user.isActive)

structure Keyed (state : State) : Prop where
  distinct : ((standing state).map Prod.fst).Nodup
  positive : 0 ∉ (standing state).map Prod.fst

/-- Whoever gets an access token is not deactivated when it is issued. -/
def Effective (jwt : JwtLibrary) (checks : Checks) (config : Config) (federation : Federation)
    (action : Action) : Prop :=
  ∀ user next, step jwt checks config federation action = some next →
    (respond jwt checks config federation action).1 = some user →
    (user.id, false) ∉ standing next.service

def StandsFor (federation : Federation) (provider : IdentityProvider) (info : OIDCUserInfo)
    (user : User) : Prop :=
  (∃ link ∈ federation.federatedUsers, link.providerID = provider.id ∧
    link.externalID = info.sub ∧ link.userID = user.id) ∨
  provider.autoLink = true ∧ user.email = info.email

/-- A challenge token, a refresh token or an external identity is presented for
an active account only. Nothing is asked of logins. -/
def NamesActive (jwt : JwtLibrary) (federation : Federation) : Action → Prop
  | .login _ _ _ => True
  | .mfaChallenge now bound _ => ∀ request userID, bound = .ok request →
      validateMFAToken jwt now request.mfaToken = some userID →
      ∀ user ∈ federation.users, user.id = userID → user.isActive = true
  | .refresh _ refreshToken => ∀ row ∈ federation.service.refreshTokens,
      row.token = refreshToken → ∀ user ∈ federation.users, user.id = row.userID →
      user.isActive = true
  | .callback _ provider callback _ _ => ∀ info, callback.userInfo = .ok info →
      ∀ user ∈ federation.users, StandsFor federation provider info user → user.isActive = true
  | .updateUserStatus _ _ => True

variable {random : Except String String} {provider : IdentityProvider} {drawn : Drawn}
  {action : Action}

section Handled

variable {jwt : JwtLibrary} {checks : Checks} {config : Config}

variable (federation : Federation) {state : State} (now : Int)

theorem second_factor_standing {passed : State} {now : Int} {user : User} {code : String}
    (accepted : secondFactor checks state now user code = some passed) :
    standing passed = standing state := by
  unfold secondFactor at accepted
  split at accepted
  · cases accepted
    rfl
  · unfold validateRecoveryCode at accepted
    split at accepted
    · contradiction
    · cases accepted
      simp only [standing, List.map_map]
      apply List.map_congr_left
      intro row _
      simp only [Function.comp_apply]
      split <;> rfl

theorem issue_tokens_standing {user : User} :
    standing (issueTokens jwt config state now user random).2 = standing state := by
  unfold standing
  rw [LoginRequests.issue_tokens_db]

theorem issue_tokens_user {user holder : User} {Error : Type}
    {wrap : String → Error}
    (issued : issuedTo ((issueTokens jwt config state now user random).1.mapError wrap) =
      some holder) : holder = user := by
  cases random with
  | error reason => contradiction
  | ok token =>
    cases issued
    rfl

theorem authenticated_active {db : Database} {username password : String} {user : User}
    (found : authenticateUser checks db username password = some user) :
    user ∈ db.users ∧ user.isActive = true := by
  unfold authenticateUser at found
  split at found
  · contradiction
  · rename_i row located
    split_ifs at found
    cases found
    have selected := List.find?_some located
    exact ⟨List.mem_of_find?_eq_some located, (Bool.and_eq_true_iff.mp selected).2⟩

/-- authenticateUser filters by is_active, so a login serves active users. -/
theorem login_serves {request : LoginRequest} :
    standing (login jwt checks config state now request random).2 = standing state ∧
      ∀ holder, issuedTo (login jwt checks config state now request random).1 = some holder →
        holder ∈ state.db.users ∧ holder.isActive = true := by
  have checked := (check_keeps state now request.username).2
  unfold login
  split
  · rename_i remaining after passes
    rw [passes] at checked
    refine ⟨congrArg (List.map _) (congrArg Database.users checked), ?_⟩
    intro _ issued
    contradiction
  · rename_i after passes
    rw [passes] at checked
    have same : standing after = standing state :=
      congrArg (List.map _) (congrArg Database.users checked)
    split
    · refine ⟨?_, by intro _ issued; contradiction⟩
      unfold standing
      rw [LoginRequests.record_failure_db]
      exact same
    · rename_i user authenticated
      have active := authenticated_active authenticated
      rw [checked] at active
      dsimp only
      split_ifs
      · exact ⟨same, by intro _ issued; contradiction⟩
      · split
        · exact ⟨same, by intro _ issued; contradiction⟩
        · rename_i passed accepted
          refine ⟨?_, fun holder issued => ?_⟩
          · rw [issue_tokens_standing, second_factor_standing accepted]
            exact same
          · rw [issue_tokens_user _ issued]
            exact active
      · refine ⟨?_, fun holder issued => ?_⟩
        · rw [issue_tokens_standing]
          exact same
        · rw [issue_tokens_user _ issued]
          exact active

theorem challenge_serves {bound : Except String MFAChallengeRequest} :
    standing (mfaChallengeHandler jwt checks config state now bound random).2 = standing state ∧
      ∀ holder, issuedTo (mfaChallengeHandler jwt checks config state now bound random).1 =
          some holder →
        ∃ request userID, bound = .ok request ∧
          validateMFAToken jwt now request.mfaToken = some userID ∧
          state.db.firstUser userID = some holder := by
  unfold mfaChallengeHandler
  split
  · exact ⟨rfl, by intro _ issued; contradiction⟩
  · rename_i request
    split
    · exact ⟨rfl, by intro _ issued; contradiction⟩
    · rename_i userID valid
      split
      · exact ⟨rfl, by intro _ issued; contradiction⟩
      · rename_i user found
        split
        · exact ⟨rfl, by intro _ issued; contradiction⟩
        · rename_i passed accepted
          refine ⟨?_, fun holder issued => ⟨request, userID, rfl, valid, ?_⟩⟩
          · rw [issue_tokens_standing, second_factor_standing accepted]
          · rw [issue_tokens_user _ issued]
            exact found

theorem refresh_serves {refreshToken : String} :
    standing (refreshAccessToken jwt config state now refreshToken).2 = standing state ∧
      ∀ holder, issuedTo (refreshAccessToken jwt config state now refreshToken).1 = some holder →
        ∃ row ∈ state.refreshTokens, row.token = refreshToken ∧
          holder = (state.db.firstUser row.userID).getD zeroUser := by
  unfold refreshAccessToken
  split
  · exact ⟨rfl, by intro _ issued; contradiction⟩
  · rename_i row found
    refine ⟨rfl, fun holder issued => ⟨row, List.mem_of_find?_eq_some found, ?_, ?_⟩⟩
    · have selected := List.find?_some found
      simp only [Bool.and_eq_true, beq_iff_eq] at selected
      exact selected.1.1
    · cases issued
      rfl

inductive Serves (federation : Federation) (provider : IdentityProvider) (info : OIDCUserInfo)
    (drawn : Drawn) (holder : Option User) (after : State) : Prop where
  | existing (same : standing after = standing federation.service)
      (named : ∀ user, holder = some user →
        user ∈ federation.users ∧ StandsFor federation provider info user)
  | created (userID : Nat) (assigned : drawn.userID = .ok userID)
      (added : standing after = standing federation.service ++ [(userID, true)])
      (own : ∀ user, holder = some user → user.id = userID)

def Provisioned.user : Provisioned → Option User
  | .found user => some user
  | .failed _ | .panicked => none

variable {federation}

theorem serves_fewer {info : OIDCUserInfo}
    {holder fewer : Option User} {after later : State}
    (serves : Serves federation provider info drawn holder after)
    (kept : standing later = standing after) (less : ∀ user, fewer = some user → holder = some user) :
    Serves federation provider info drawn fewer later := by
  cases serves with
  | existing same named =>
    exact .existing (kept.trans same) fun user served => named user (less user served)
  | created userID assigned added own =>
    exact .created userID assigned (kept.trans added) fun user served =>
      own user (less user served)

theorem refused_serves {after : Federation} {info : OIDCUserInfo} (same : after.service = federation.service) :
    Serves federation provider info drawn none after.service := by
  refine .existing (congrArg standing same) ?_
  intro user served
  contradiction

variable (federation)

theorem find_or_create_serves (provider : IdentityProvider) (info : OIDCUserInfo) (drawn : Drawn) :
    Serves federation provider info drawn
      (findOrCreateFederatedUser federation now provider info drawn).1.user
      (findOrCreateFederatedUser federation now provider info drawn).2.service := by
  unfold findOrCreateFederatedUser
  split
  · rename_i link linked
    dsimp only
    split
    · exact refused_serves rfl
    · rename_i user found
      refine .existing rfl fun holder served => ?_
      cases served
      have selected := List.find?_some linked
      simp only [Bool.and_eq_true, beq_iff_eq] at selected
      have owner : user.id = link.userID := by simpa using List.find?_some found
      exact ⟨List.mem_of_find?_eq_some found, .inl ⟨link, List.mem_of_find?_eq_some linked,
        selected.1, selected.2, owner.symm⟩⟩
  · split
    · rename_i user mailed
      obtain ⟨⟨_, links⟩, found⟩ := Option.ite_none_right_eq_some.mp mailed
      refine .existing rfl fun holder served => ?_
      cases served
      have email : user.email = info.email := by simpa using List.find?_some found
      exact ⟨List.mem_of_find?_eq_some found, .inr ⟨links, email⟩⟩
    · split_ifs
      · exact refused_serves rfl
      · split
        · exact refused_serves rfl
        · split
          · exact refused_serves rfl
          · rename_i userID assigned
            refine .created userID assigned ?_ fun holder served => ?_
            · exact List.map_append
            · cases served
              rfl

theorem callback_serves {federation : Federation} {now : Int}
    {callback : Callback} :
    let answer := handleOIDCCallback jwt config federation now provider callback drawn random
    standing answer.2.service = standing federation.service ∧ issuedTo answer.1 = none ∨
      ∃ info, callback.userInfo = .ok info ∧
        Serves federation provider info drawn (issuedTo answer.1) answer.2.service := by
  unfold handleOIDCCallback
  dsimp only
  split
  · exact .inl ⟨rfl, rfl⟩
  · split
    · exact .inl ⟨rfl, rfl⟩
    · split
      · exact .inl ⟨rfl, rfl⟩
      · rename_i info told
        refine .inr ⟨info, told, ?_⟩
        have serves := find_or_create_serves federation now provider info drawn
        split
        · rename_i provisioned
          rw [provisioned] at serves
          exact serves
        · rename_i provisioned
          rw [provisioned] at serves
          exact serves
        · rename_i user after provisioned
          rw [provisioned] at serves
          -- Neither the role mappings nor the tokens touch the users.
          have mapped : standing (if info.groups = [] then after
              else applyGroupRoleMappings after provider user info.groups).service =
              standing after.service := by
            split <;> rfl
          cases random with
          | error reason =>
            refine serves_fewer serves mapped ?_
            intro holder served
            contradiction
          | ok token =>
            exact serves_fewer serves mapped fun holder served => served

theorem status_keys {userID : Nat} {bound : Except String String} :
    (standing (updateUserStatusHandler state userID bound).2).map Prod.fst =
      (standing state).map Prod.fst := by
  have switched : ∀ active, (standing (setIsActive state userID active)).map Prod.fst =
      (standing state).map Prod.fst := by
    intro active
    simp only [standing, setIsActive, List.map_map]
    apply List.map_congr_left
    intro row _
    simp only [Function.comp_apply]
    split <;> rfl
  unfold updateUserStatusHandler
  split
  · rfl
  · split_ifs
    · rfl
    · exact switched true
    · exact switched false
    · rfl

end Handled

section Steps

variable {jwt : JwtLibrary} {checks : Checks} {config : Config}
variable {federation : Federation}

theorem standing_ids : (standing federation.service).map Prod.fst =
    federation.users.map User.id := by
  simp only [standing, List.map_map]
  rfl

theorem active_effective (keyed : Keyed federation.service) {user : User}
    (listed : user ∈ federation.users) (active : user.isActive = true) :
    (user.id, false) ∉ standing federation.service := by
  intro deactivated
  have own : (user.id, true) ∈ standing federation.service :=
    List.mem_map.mpr ⟨user, listed, by rw [active]⟩
  have same := List.inj_on_of_nodup_map keyed.distinct deactivated own rfl
  cases same

theorem first_user_listed {userID : Nat} {user : User}
    (found : federation.service.db.firstUser userID = some user) :
    user ∈ federation.users ∧ user.id = userID :=
  ⟨List.mem_of_find?_eq_some found, by simpa using List.find?_some found⟩

theorem same_keyed (keyed : Keyed federation.service) {after : State}
    (same : (standing after).map Prod.fst = (standing federation.service).map Prod.fst) :
    Keyed after := by
  constructor
  · rw [same]
    exact keyed.distinct
  · rw [same]
    exact keyed.positive

section Created

variable (userID : Nat) (after : State)
variable (fresh : userID ∉ (standing federation.service).map Prod.fst)
variable (added : standing after = standing federation.service ++ [(userID, true)])
include fresh added

theorem created_keyed (keyed : Keyed federation.service) (positive : 0 < userID) :
    Keyed after := by
  have ids : (standing after).map Prod.fst =
      (standing federation.service).map Prod.fst ++ [userID] := by
    rw [added, List.map_append]
    rfl
  constructor
  · rw [ids]
    exact keyed.distinct.append (List.nodup_singleton _) (List.disjoint_singleton.mpr fresh)
  · rw [ids, List.mem_append, List.mem_singleton]
    rintro (held | zero)
    · exact keyed.positive held
    · omega

theorem created_effective : (userID, false) ∉ standing after := by
  rw [added, List.mem_append, List.mem_singleton]
  rintro (deactivated | same)
  · exact fresh (List.mem_map.mpr ⟨_, deactivated, rfl⟩)
  · cases same

end Created

theorem assigned_fresh {now : Int} {callback : Callback}
    (assigns : Assigns federation (.callback now provider callback drawn random) = true)
    {userID : Nat} (assigned : drawn.userID = .ok userID) :
    0 < userID ∧ userID ∉ (standing federation.service).map Prod.fst := by
  obtain ⟨drawnID, projectID, linkID, password⟩ := drawn
  cases assigned
  rw [standing_ids]
  exact of_decide_eq_true assigns

theorem step_taken {next : Federation}
    (taken : step jwt checks config federation action = some next) :
    Assigns federation action = true ∧ (respond jwt checks config federation action).2 = next := by
  obtain ⟨assigns, same⟩ := Option.ite_none_right_eq_some.mp taken
  exact ⟨assigns, Option.some.inj same⟩

theorem step_keyed {next : Federation} (keyed : Keyed federation.service)
    (taken : step jwt checks config federation action = some next) : Keyed next.service := by
  obtain ⟨assigns, rfl⟩ := step_taken taken
  cases action with
  | login now request random =>
    exact same_keyed keyed (congrArg _ (login_serves now).1)
  | mfaChallenge now bound random =>
    exact same_keyed keyed (congrArg _ (challenge_serves now).1)
  | refresh now refreshToken =>
    exact same_keyed keyed (congrArg _ (refresh_serves now).1)
  | callback now provider callback drawn random =>
    rcases callback_serves with
      ⟨same, _⟩ | ⟨info, _, serves⟩
    · exact same_keyed keyed (congrArg _ same)
    · cases serves with
      | existing same _ => exact same_keyed keyed (congrArg _ same)
      | created userID assigned added _ =>
        have ⟨positive, fresh⟩ := assigned_fresh assigns assigned
        exact created_keyed userID _ fresh added keyed positive
  | updateUserStatus userID bound =>
    exact same_keyed keyed status_keys

theorem step_effective (keyed : Keyed federation.service)
    (names : NamesActive jwt federation action) :
    Effective jwt checks config federation action := by
  intro user next taken issued
  obtain ⟨assigns, rfl⟩ := step_taken taken
  cases action with
  | login now request random =>
    obtain ⟨same, served⟩ := login_serves now
    obtain ⟨listed, active⟩ := served user issued
    have effective := active_effective keyed listed active
    rwa [← same] at effective
  | mfaChallenge now bound random =>
    obtain ⟨same, served⟩ := challenge_serves now
    obtain ⟨request, userID, bound, valid, found⟩ := served user issued
    obtain ⟨listed, own⟩ := first_user_listed found
    have effective := active_effective keyed listed
      (names request userID bound valid user listed own)
    rwa [← same] at effective
  | refresh now refreshToken =>
    obtain ⟨same, served⟩ := refresh_serves now
    obtain ⟨row, stored, presented, holder⟩ := served user issued
    suffices effective : (user.id, false) ∉ standing federation.service by
      rwa [← same] at effective
    cases found : federation.service.db.firstUser row.userID with
    | none =>
      -- The owner's row is gone: the zero user is none of the users.
      rw [found] at holder
      subst holder
      intro deactivated
      exact keyed.positive (List.mem_map.mpr ⟨_, deactivated, rfl⟩)
    | some owner =>
      rw [found] at holder
      subst holder
      obtain ⟨listed, own⟩ := first_user_listed found
      exact active_effective keyed listed (names row stored presented user listed own)
  | callback now provider callback drawn random =>
    rcases callback_serves with
      ⟨_, refused⟩ | ⟨info, told, serves⟩
    · have served : none = some user := refused.symm.trans issued
      contradiction
    · cases serves with
      | existing same named =>
        obtain ⟨listed, stands⟩ := named user issued
        have effective := active_effective keyed listed (names info told user listed stands)
        rwa [← same] at effective
      | created userID assigned added own =>
        have ⟨_, fresh⟩ := assigned_fresh assigns assigned
        rw [own user issued]
        exact created_effective userID _ fresh added
  | updateUserStatus userID bound => contradiction

end Steps

/-- Deactivation is effective along every run in which challenge tokens, refresh
tokens and external identities are presented for active accounts only. -/
theorem deactivation_effective (jwt : JwtLibrary) (checks : Checks) (config : Config)
    (federation : Federation) (keyed : Keyed federation.service) (actions : List Action)
    (names : Guarded (step jwt checks config) (NamesActive jwt) federation actions) :
    Guarded (step jwt checks config) (Effective jwt checks config) federation actions := by
  refine guarded_weaken (fun reached => Keyed reached.service) ?_ ?_ federation keyed
    names
  · intro reached action holds granted
    exact step_effective holds granted
  · intro reached action next holds _ taken
    exact step_keyed holds taken

def memberFederation : Federation where
  service := {
    db := {users := [LoginRequests.holder]}
    refreshTokens := [⟨"refresh", 7, 3600 * second, false⟩] }
  federatedUsers := [{id := 1, userID := 7, providerID := 2, externalID := "subject"}]

def memberCallback : Callback where
  code := "code"
  exchanged := .ok ()
  userInfo := .ok {sub := "subject"}

def memberLogin : Action :=
  .login 0 {username := "member", password := "secret"} (.ok "first")

def memberChallenge (jwt : JwtLibrary) : Action :=
  .mfaChallenge 0 (.ok ⟨jwt.sign (challengeClaims 0 LoginRequests.holder).encode, "alpha"⟩)
    (.ok "second")

def memberSSO : Action :=
  .callback 0 {id := 2, name := "idp"} memberCallback {userID := .ok 8} (.ok "third")

theorem challenge_names {jwt : JwtLibrary} :
    validateMFAToken jwt 0 (jwt.sign (challengeClaims 0 LoginRequests.holder).encode) = some 7 := by
  have parsed : parseToken jwt 0 (jwt.sign (challengeClaims 0 LoginRequests.holder).encode) =
      some (challengeClaims 0 LoginRequests.holder).encode := by
    rw [parseToken, jwt.verify_sign]
    rfl
  rw [validateMFAToken, parsed]
  rfl

theorem all_active_names {jwt : JwtLibrary} {federation : Federation}
    (active : ∀ user ∈ federation.users, user.isActive = true) :
    NamesActive jwt federation action := by
  cases action with
  | login => trivial
  | mfaChallenge => exact fun _ _ _ _ user listed _ => active user listed
  | refresh => exact fun _ _ _ user listed _ => active user listed
  | callback => exact fun _ _ user listed _ => active user listed
  | updateUserStatus => trivial

theorem active_member_served :
    Nonempty JwtLibrary ∧ ∀ jwt : JwtLibrary,
      Guarded (step jwt LoginRequests.holderChecks {})
        (Effective jwt LoginRequests.holderChecks {}) memberFederation
        [.refresh 0 "refresh", memberSSO, .updateUserStatus 7 (.ok "inactive"), memberLogin] := by
  refine ⟨jwt_library_exists, fun jwt => ?_⟩
  apply deactivation_effective jwt LoginRequests.holderChecks {} memberFederation
    ⟨by decide, by decide⟩
  have active : ∀ user ∈ [LoginRequests.holder], user.isActive = true := by
    intro user listed
    rw [List.mem_singleton.mp listed]
    rfl
  refine ⟨all_active_names active, fun _ taken => ?_⟩
  cases taken
  refine ⟨all_active_names active, fun _ taken => ?_⟩
  cases taken
  exact ⟨trivial, fun _ _ => ⟨trivial, fun _ _ => trivial⟩⟩

/-- The member is deactivated after a login that was answered with a challenge.
The challenge, the refresh token and the identity provider still lead to access
tokens. -/
theorem deactivated_member_served :
    Nonempty JwtLibrary ∧ ∀ jwt : JwtLibrary,
      ∃ deactivated, run (step jwt LoginRequests.holderChecks {}) memberFederation
          [memberLogin, .updateUserStatus 7 (.ok "inactive")] = some deactivated ∧
        ∀ action ∈ [memberChallenge jwt, .refresh 0 "refresh", memberSSO],
          ∃ user next, step jwt LoginRequests.holderChecks {} deactivated action = some next ∧
            (respond jwt LoginRequests.holderChecks {} deactivated action).1 = some user ∧
            (user.id, false) ∈ standing next.service := by
  refine ⟨jwt_library_exists, fun jwt => ⟨_, rfl, ?_⟩⟩
  intro action listed
  simp only [List.mem_cons, List.not_mem_nil, or_false] at listed
  rcases listed with challenged | refreshed | redirected
  · subst challenged
    refine ⟨{LoginRequests.holder with isActive := false}, _, rfl, ?_, ?_⟩
    · simp only [memberChallenge, respond, mfaChallengeHandler, challenge_names]
      rfl
    · simp only [memberChallenge, respond, mfaChallengeHandler, challenge_names]
      exact List.mem_cons_self
  · subst refreshed
    exact ⟨_, _, rfl, rfl, List.mem_cons_self⟩
  · subst redirected
    exact ⟨_, _, rfl, rfl, List.mem_cons_self⟩

end VcStack.FederatedLogins
