import VcStack.FederatedLogins
import VcStack.Idempotency

/-!
From the answers of an identity provider to a local account: getOIDCUserInfo of
internal/management/identity/federation.go, and what findOrCreateFederatedUser
does with the names it is left with. Decoding is a parameter; every answer of
the provider is possible.
-/

namespace VcStack.FederatedProvisioning

open IdentityTables FederatedLogins PolicyValues

structure UserInfo where
  sub : String := ""
  name : String := ""
  email : String := ""
  emailVerified : Bool := false
  groups : List String := []
  preferredUser : String := ""
  givenName : String := ""
  familyName : String := ""

structure OIDCTokenResponse where
  accessToken : String := ""
  idToken : String := ""

structure Provider extends IdentityProvider where
  issuer : String := ""
  userInfoEndpoint : String := ""
  groupClaim : String := ""

structure OIDCLibrary where
  /-- `base64.RawURLEncoding.DecodeString` -/
  decodeString : String → Option (List UInt8)
  /-- `json.Unmarshal` into an empty `OIDCUserInfo`: what it fills in, error or not -/
  unmarshalUserInfo : List UInt8 → Bool × UserInfo
  /-- `json.Unmarshal` into a map -/
  unmarshalClaims : List UInt8 → Option (List (String × Json))

def extractGroups : Json → List String
  | .arr items => items.filterMap fun item =>
    match item with
    | .str group => some group
    | _ => none
  | .str groups =>
    ((groups.toList.splitOn ',').map fun group =>
      Idempotency.trimSpace (String.ofList group)).filter (· ≠ "")
  | _ => []

section Reading

variable (lib : OIDCLibrary)

def tokenPayload (idToken : String) : Option (List UInt8) :=
  if idToken = "" then none
  else match idToken.toList.splitOn '.' with
    | _ :: payload :: _ => lib.decodeString (String.ofList payload)
    | _ => none

def groupsClaimed (provider : Provider) (payload : List UInt8) : Option (List String) :=
  if provider.groupClaim = "" then none
  else ((lib.unmarshalClaims payload).bind fun claims => claims.lookup provider.groupClaim).map
    extractGroups

/-- What the ID token says; an error of the decoder keeps what was filled in. -/
def tokenUserInfo (provider : Provider) (tokenResp : OIDCTokenResponse) : UserInfo :=
  match tokenPayload lib tokenResp.idToken with
  | none => {}
  | some payload =>
    let info := (lib.unmarshalUserInfo payload).2
    match groupsClaimed lib provider payload with
    | none => info
    | some groups => {info with groups := groups}

def orElse (text other : String) : String := if text = "" then other else text

def UserInfo.fill (info extra : UserInfo) : UserInfo :=
  {info with
    sub := orElse info.sub extra.sub
    email := orElse info.email extra.email
    name := orElse info.name extra.name
    preferredUser := orElse info.preferredUser extra.preferredUser
    givenName := orElse info.givenName extra.givenName
    familyName := orElse info.familyName extra.familyName
    groups := if info.groups = [] then extra.groups else info.groups}

def userInfoURL (provider : Provider) : String :=
  if provider.userInfoEndpoint = "" ∧ provider.issuer ≠ "" then
    String.ofList (provider.issuer.toList.reverse.dropWhile (· == '/')).reverse ++ "/userinfo"
  else provider.userInfoEndpoint

/-- The user info completed by the endpoint, which is asked only for a missing
subject or e-mail. `get` gives status and body for a URL and a bearer token, and
`none` when the request fails. -/
def completedUserInfo (provider : Provider) (tokenResp : OIDCTokenResponse)
    (get : String → String → Option (Nat × List UInt8)) : UserInfo :=
  let info := tokenUserInfo lib provider tokenResp
  let answer :=
    if (info.sub = "" ∨ info.email = "") ∧ userInfoURL provider ≠ "" ∧ tokenResp.accessToken ≠ ""
    then get (userInfoURL provider) tokenResp.accessToken else none
  match answer with
  | some (200, body) =>
    if (lib.unmarshalUserInfo body).1 then info.fill (lib.unmarshalUserInfo body).2 else info
  | _ => info

def getOIDCUserInfo (provider : Provider) (tokenResp : OIDCTokenResponse)
    (get : String → String → Option (Nat × List UInt8)) : Except String UserInfo :=
  let info := completedUserInfo lib provider tokenResp get
  if info.sub = "" then .error "no subject (sub) claim found in identity provider response"
  else .ok info

theorem user_info_subject {provider : Provider} {tokenResp : OIDCTokenResponse}
    {get : String → String → Option (Nat × List UInt8)} {info : UserInfo}
    (succeeded : getOIDCUserInfo lib provider tokenResp get = .ok info) : info.sub ≠ "" := by
  unfold getOIDCUserInfo at succeeded
  dsimp only at succeeded
  split_ifs at succeeded with missing
  cases succeeded
  exact missing

end Reading

def UserInfo.identity (info : UserInfo) : OIDCUserInfo where
  sub := info.sub
  email := info.email
  groups := info.groups
  preferredUser := info.preferredUser

def usernameLoop (taken : String → Bool) (baseUsername : String) : Nat → Nat → String → Option String
  | 0, _, _ => none
  | fuel + 1, i, username =>
    if taken username then
      usernameLoop taken baseUsername fuel (i + 2) (baseUsername ++ "_" ++ Nat.repr (i + 1))
    else some username

theorem username_loop_round {taken : String → Bool} {base : String} {fuel round : Nat} :
    usernameLoop taken base (fuel + 1) (2 * round) (candidate base round) =
      if taken (candidate base round) then
        usernameLoop taken base fuel (2 * (round + 1)) (candidate base (round + 1))
      else some (candidate base round) := rfl

theorem username_loop_stops (taken : String → Bool) {base : String} (rounds round : Nat)
    (busy : ∀ other, round ≤ other → other < round + rounds → taken (candidate base other) = true)
    (free : taken (candidate base (round + rounds)) = false) (fuel : Nat) :
    usernameLoop taken base (rounds + fuel + 1) (2 * round) (candidate base round) =
      some (candidate base (round + rounds)) := by
  induction rounds generalizing round with
  | zero =>
    rw [Nat.add_zero] at free
    rw [username_loop_round, free]
    rfl
  | succ rounds ih =>
    have first := busy round (Nat.le_refl _) (by omega)
    have shift : round + 1 + rounds = round + (rounds + 1) := by omega
    have onward := ih (round + 1) (fun other from_ below => busy other (by omega) (by omega))
      (by rwa [shift])
    have less : rounds + 1 + fuel = rounds + fuel + 1 := by omega
    rw [less, username_loop_round, if_pos first, onward, shift]

theorem free_within (users : List User) (base : String) :
    Nat.find (candidate_free users base) ≤ users.length := by
  by_contra late
  have busy : ∀ round < users.length + 1, candidate base round ∈ users.map User.username := by
    intro round below
    exact Classical.not_not.mp (Nat.find_min (candidate_free users base) (by omega))
  have distinct : ((List.range (users.length + 1)).map (candidate base)).Nodup :=
    List.nodup_range.map candidate_injective
  have inside : (List.range (users.length + 1)).map (candidate base) ⊆ users.map User.username := by
    intro name member
    obtain ⟨round, listed, rfl⟩ := List.mem_map.mp member
    exact busy round (List.mem_range.mp listed)
  have short := (distinct.subperm inside).length_le
  simp only [List.length_map, List.length_range] at short
  omega

/-- With finitely many names in the table the search ends, after one round more
than there are names at the latest. -/
theorem username_loop_ends {users : List User} (base : String) :
    usernameLoop (fun name => decide (name ∈ users.map User.username)) base (users.length + 1) 0
      base = some (uniqueUsername users base) := by
  have within := free_within users base
  obtain ⟨fuel, spare⟩ := Nat.exists_eq_add_of_le within
  have stops := username_loop_stops (fun name => decide (name ∈ users.map User.username))
    (Nat.find (candidate_free users base)) 0
    (fun other _ below => decide_eq_true
      (Classical.not_not.mp (Nat.find_min (candidate_free users base) (by omega))))
    (by
      rw [Nat.zero_add]
      exact decide_eq_false (Nat.find_spec (candidate_free users base)))
    fuel
  rw [← spare, Nat.zero_add] at stops
  exact stops

/-- A new account is due, the provider suggests no name for it, and the subject is
too short to make one of. -/
structure Nameless (federation : Federation) (provider : IdentityProvider) (info : OIDCUserInfo) :
    Prop where
  unlinked : ∀ link ∈ federation.federatedUsers, link.providerID = provider.id →
    link.externalID ≠ info.sub
  unmatched : info.email ≠ "" → provider.autoLink = true →
    ∀ user ∈ federation.users, user.email ≠ info.email
  provisioning : provider.autoProvision = true
  unnamed : info.preferredUser = "" ∧
    String.ofList ((info.email.toList.splitOn '@').headD []) = ""
  short : info.sub.utf8ByteSize < 8

theorem suggested_none_iff {info : OIDCUserInfo} :
    suggestedUsername info = none ↔
      (info.preferredUser = "" ∧
        String.ofList ((info.email.toList.splitOn '@').headD []) = "") ∧
        info.sub.utf8ByteSize < 8 := by
  unfold suggestedUsername
  dsimp only
  generalize String.ofList ((info.email.toList.splitOn '@').headD []) = localPart
  by_cases preferred : info.preferredUser = ""
  · by_cases addressed : localPart = ""
    · simp [preferred, addressed]
    · simp [preferred, addressed]
  · simp [preferred]

theorem provisioning_panics_iff {federation : Federation} {now : Int} {provider : IdentityProvider}
    {info : OIDCUserInfo} {drawn : Drawn} :
    (findOrCreateFederatedUser federation now provider info drawn).1 = .panicked ↔
      Nameless federation provider info := by
  unfold findOrCreateFederatedUser
  split
  · rename_i link linked
    refine iff_of_false ?_ ?_
    · dsimp only
      split <;> nofun
    · intro nameless
      have selected := List.find?_some linked
      simp only [Bool.and_eq_true, beq_iff_eq] at selected
      exact nameless.unlinked link (List.mem_of_find?_eq_some linked) selected.1 selected.2
  · rename_i unlinked
    split
    · rename_i user mailed
      obtain ⟨⟨email, links⟩, found⟩ := Option.ite_none_right_eq_some.mp mailed
      refine iff_of_false (by nofun) ?_
      intro nameless
      exact nameless.unmatched email links user (List.mem_of_find?_eq_some found)
        (by simpa using List.find?_some found)
    · rename_i unmatched
      split_ifs with off
      · refine iff_of_false (by nofun) ?_
        intro nameless
        have on := nameless.provisioning
        rw [off] at on
        contradiction
      · split
        · rename_i unnamed
          refine iff_of_true rfl ?_
          obtain ⟨nothing, short⟩ := suggested_none_iff.mp unnamed
          refine ⟨?_, ?_, by simpa using off, nothing, short⟩
          · intro link member same external
            have passed := List.find?_eq_none.mp unlinked link member
            simp [same, external] at passed
          · intro email links user member same
            rw [if_pos ⟨email, links⟩] at unmatched
            have passed := List.find?_eq_none.mp unmatched user member
            simp [same] at passed
        · rename_i base suggested
          have named : ¬ Nameless federation provider info := by
            intro nameless
            have none := suggested_none_iff.mpr ⟨nameless.unnamed, nameless.short⟩
            rw [suggested] at none
            contradiction
          refine iff_of_false ?_ named
          split <;> nofun

/-- Whatever the provider answers, as long as getOIDCUserInfo succeeds: there is a
subject, the account is found, made or refused without a panic exactly when it is
not nameless, and the search for a free name ends. -/
theorem sso_login_returns_iff (lib : OIDCLibrary) (provider : Provider)
    (tokenResp : OIDCTokenResponse) (get : String → String → Option (Nat × List UInt8))
    (info : UserInfo) (succeeded : getOIDCUserInfo lib provider tokenResp get = .ok info)
    (federation : Federation) (now : Int) (drawn : Drawn) :
    info.sub ≠ "" ∧
      ((findOrCreateFederatedUser federation now provider.toIdentityProvider info.identity
          drawn).1 ≠ .panicked ↔
        ¬ Nameless federation provider.toIdentityProvider info.identity) ∧
      ∀ base, usernameLoop (fun name => decide (name ∈ federation.users.map User.username)) base
        (federation.users.length + 1) 0 base = some (uniqueUsername federation.users base) := by
  refine ⟨user_info_subject lib succeeded, ?_, ?_⟩
  · exact not_congr provisioning_panics_iff
  · exact username_loop_ends

def subjectOnly : OIDCLibrary where
  decodeString segment :=
    if segment = "eyJzdWIiOiJ1NDIifQ" then some "\x7b\"sub\":\"u42\"\x7d".toUTF8.data.toList
    else none
  unmarshalUserInfo body :=
    if body = "\x7b\"sub\":\"u42\"\x7d".toUTF8.data.toList then (true, {sub := "u42"})
    else (false, {})
  unmarshalClaims _ := none

def corporate : Provider where
  id := 1
  name := "corporate"

theorem unprovisioned_login_returns :
    (findOrCreateFederatedUser {service := {}} 0 corporate.toIdentityProvider {sub := "u42"}
      ⟨.ok 1, 0, 0, ""⟩).1 ≠ .panicked :=
  (sso_login_returns_iff subjectOnly corporate {idToken := "e30.eyJzdWIiOiJ1NDIifQ.sig"}
    (fun _ _ => none) {sub := "u42"} rfl {service := {}} 0 ⟨.ok 1, 0, 0, ""⟩).2.1.mpr
    fun nameless => absurd nameless.provisioning (by decide)

/-- A new user with the subject u42 and no name at all. -/
theorem short_subject_panics :
    getOIDCUserInfo subjectOnly {corporate with autoProvision := true}
        {idToken := "e30.eyJzdWIiOiJ1NDIifQ.sig"} (fun _ _ => none) = .ok {sub := "u42"} ∧
      (findOrCreateFederatedUser {service := {}} 0
        {corporate.toIdentityProvider with autoProvision := true} {sub := "u42"}
        ⟨.ok 1, 0, 0, ""⟩).1 = .panicked := by
  refine ⟨rfl, ?_⟩
  apply provisioning_panics_iff.mpr
  exact ⟨by simp, by simp, rfl, ⟨rfl, by decide⟩, by decide⟩

end VcStack.FederatedProvisioning
