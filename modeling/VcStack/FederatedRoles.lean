import VcStack.FederatedLogins

/-!
The roles that the callbacks of an identity provider leave a user with, and the
roles of the access tokens they issue (federation.go). A login adds the roles its
groups map to and removes none, and the token lists the roles that were loaded
before.
-/

namespace VcStack.FederatedRoles

open IdentityTables FederatedLogins Runs
open IdentityTokens hiding Action step

def Holds (federation : Federation) (userID roleID : Nat) : Prop :=
  (userID, roleID) ∈ federation.service.db.userRoles

def Mapped (federation : Federation) (provider : IdentityProvider) (roleID : Nat) : Prop :=
  ∃ mapping ∈ federation.roleMappings, mapping.providerID = provider.id ∧ mapping.roleID = roleID

def MappedFrom (federation : Federation) (provider : IdentityProvider) (groups : List String)
    (roleID : Nat) : Prop :=
  ∃ mapping ∈ federation.roleMappings, mapping.providerID = provider.id ∧
    mapping.roleID = roleID ∧ mapping.externalGroup ∈ groups

def HeldAtLogin (federation : Federation) (provider : IdentityProvider) (user : User)
    (roleID : Nat) : Prop :=
  Holds federation user.id roleID ∨
    user.id ∉ federation.users.map User.id ∧ (user.id, roleID) ∈ defaultRole provider user.id

variable {provider : IdentityProvider} {user : User} {after : Federation}

section Callbacks

variable (jwt : JwtLibrary) (config : Config)

/-- A callback that answers with tokens: among the roles the provider maps to, the
user holds those that the groups of the login map to, and the access token lists
the roles held after it. -/
def Tracks (federation : Federation) : Action → Prop
  | .callback now provider callback drawn random =>
    Assigns federation (.callback now provider callback drawn random) = true →
    ∀ info user response after, callback.userInfo = .ok info →
      handleOIDCCallback jwt config federation now provider callback drawn random =
        (.ok response, after) →
      response.user = some user →
      (∀ roleID, Mapped federation provider roleID →
        (Holds after user.id roleID ↔ MappedFrom federation provider info.groups roleID)) ∧
      ∃ payload, jwt.verify response.accessToken = some payload ∧
        (decodeClaims payload).roles =
          (after.service.db.rolesJoined after.service.db.userRoles user.id).map Role.name
  | _ => True

/-- The account of a login: the linked one, without a link the one that has the
e-mail, without either a new one. -/
def account (federation : Federation) (provider : IdentityProvider) (info : OIDCUserInfo)
    (drawn : Drawn) : Option User :=
  match federation.federatedUsers.find? fun link =>
    link.providerID == provider.id && link.externalID == info.sub with
  | some link => federation.service.db.firstUser link.userID
  | none =>
  match if info.email ≠ "" ∧ provider.autoLink then
      federation.users.find? fun user => user.email == info.email else none with
  | some user => some user
  | none =>
  match provider.autoProvision, suggestedUsername info, drawn.userID with
  | true, some base, .ok userID =>
    some (newUser info userID (uniqueUsername federation.users base) drawn.password)
  | _, _, _ => none

/-- The login changes no role: what the user holds of the mapped roles comes
from the groups, and what the groups map to is held already. -/
def RolesSettled (federation : Federation) (provider : IdentityProvider) (groups : List String)
    (user : User) : Prop :=
  (∀ roleID, Mapped federation provider roleID → HeldAtLogin federation provider user roleID →
    MappedFrom federation provider groups roleID) ∧
  ∀ role ∈ federation.service.db.roles, MappedFrom federation provider groups role.id →
    HeldAtLogin federation provider user role.id

/-- The roles are settled at every callback that has a code the provider takes, an
account, and a refresh token. -/
def InStep (federation : Federation) : Action → Prop
  | .callback now provider callback drawn random =>
    Assigns federation (.callback now provider callback drawn random) = true →
    ∀ info user, callback.userInfo = .ok info → callback.code ≠ "" →
      callback.exchanged.isOk = true → account federation provider info drawn = some user →
      random.isOk = true → RolesSettled federation provider info.groups user
  | _ => True

variable {jwt config}

theorem mem_fold_mappings {mappings : List IDPRoleMapping} {groups : List String} {userID : Nat}
    (joins : List (Nat × Nat)) {pair : Nat × Nat} :
    pair ∈ mappings.foldl (fun joins mapping =>
        if groups.contains mapping.externalGroup && !joins.contains (userID, mapping.roleID) then
          joins ++ [(userID, mapping.roleID)]
        else joins) joins ↔
      pair ∈ joins ∨ ∃ mapping ∈ mappings, (userID, mapping.roleID) = pair ∧
        mapping.externalGroup ∈ groups := by
  induction mappings generalizing joins with
  | nil => simp
  | cons mapping rest ih =>
    rw [List.foldl_cons, ih]
    simp only [List.mem_cons, exists_eq_or_imp]
    by_cases selected : mapping.externalGroup ∈ groups
    · by_cases held : (userID, mapping.roleID) ∈ joins
      · simp only [selected, held, List.contains_iff_mem.mpr, Bool.not_true, Bool.and_false,
          Bool.false_eq_true, if_false, and_true]
        constructor
        · rintro (old | later)
          · exact .inl old
          · exact .inr (.inr later)
        · rintro (old | same | later)
          · exact .inl old
          · exact .inl (same ▸ held)
          · exact .inr later
      · have absent : joins.contains (userID, mapping.roleID) = false := by
          simpa using held
        simp only [List.contains_iff_mem.mpr selected, absent, Bool.not_false, Bool.and_true,
          if_true, List.mem_append, List.mem_singleton, selected, and_true, or_assoc,
          eq_comm (a := pair)]
    · have skipped : groups.contains mapping.externalGroup = false := by
        simpa using selected
      simp only [skipped, Bool.false_and, Bool.false_eq_true, if_false, selected, and_false,
        false_or]

variable (federation : Federation)

theorem mapped_roles_held {groups : List String}
    {roleID : Nat} :
    Holds (applyGroupRoleMappings federation provider user groups) user.id roleID ↔
      Holds federation user.id roleID ∨ MappedFrom federation provider groups roleID := by
  unfold Holds applyGroupRoleMappings
  rw [mem_fold_mappings]
  simp only [MappedFrom, List.mem_filter, beq_iff_eq, Prod.mk.injEq, true_and, and_assoc]

theorem existing_held {roleID : Nat}
    (listed : user ∈ federation.users) :
    Holds federation user.id roleID ↔ HeldAtLogin federation provider user roleID := by
  constructor
  · exact .inl
  · rintro (held | ⟨unlisted, _⟩)
    · exact held
    · exact absurd (List.mem_map_of_mem listed) unlisted

/-- Provisioning touches neither the roles nor the mappings, and gives the
default role to new accounts only. -/
theorem find_or_create_roles {now : Int}
    {info : OIDCUserInfo} {drawn : Drawn}
    (fresh : ∀ userID, drawn.userID = .ok userID → userID ∉ federation.users.map User.id)
    (found : findOrCreateFederatedUser federation now provider info drawn = (.found user, after)) :
    after.service.db.roles = federation.service.db.roles ∧
      after.roleMappings = federation.roleMappings ∧
      ∀ roleID, Holds after user.id roleID ↔ HeldAtLogin federation provider user roleID := by
  unfold findOrCreateFederatedUser at found
  split at found
  · rename_i link linked
    dsimp only at found
    split at found
    · cases found
    · rename_i owner located
      cases found
      exact ⟨rfl, rfl, fun roleID => existing_held federation (List.mem_of_find?_eq_some located)⟩
  · split at found
    · rename_i owner mailed
      obtain ⟨_, located⟩ := Option.ite_none_right_eq_some.mp mailed
      cases found
      exact ⟨rfl, rfl, fun roleID => existing_held federation (List.mem_of_find?_eq_some located)⟩
    · split_ifs at found
      · cases found
      · split at found
        · cases found
        · split at found
          · cases found
          · rename_i userID assigned
            cases found
            refine ⟨rfl, rfl, fun roleID => ?_⟩
            have unlisted := fresh userID assigned
            simp only [Holds, HeldAtLogin, Federation.provision, Federation.link, newUser,
              List.mem_append, unlisted, not_false_eq_true, true_and]

theorem names_same_iff {rows : List Role} {fewer more : Role → Bool}
    (less : ∀ role, fewer role = true → more role = true) :
    (rows.filter fewer).map Role.name = (rows.filter more).map Role.name ↔
      ∀ role ∈ rows, more role = true → fewer role = true := by
  have twice : (rows.filter more).filter fewer = rows.filter fewer := by
    rw [List.filter_filter]
    apply List.filter_congr
    intro role _
    cases holds : fewer role with
    | false => rfl
    | true => rw [less role holds, Bool.and_self]
  constructor
  · intro same role listed selected
    have lengths := congrArg List.length same
    rw [List.length_map, List.length_map, ← twice] at lengths
    have whole := List.filter_sublist.eq_of_length lengths
    exact List.filter_eq_self.mp whole role (List.mem_filter.mpr ⟨listed, selected⟩)
  · intro all
    congr 1
    apply List.filter_congr
    intro role listed
    exact Bool.eq_iff_iff.mpr ⟨less role, all role listed⟩

theorem listed_roles_same_iff {before : Federation} {userID : Nat}
    (roles : after.service.db.roles = before.service.db.roles)
    (kept : ∀ roleID, Holds before userID roleID → Holds after userID roleID) :
    (before.service.db.rolesJoined before.service.db.userRoles userID).map Role.name =
        (after.service.db.rolesJoined after.service.db.userRoles userID).map Role.name ↔
      ∀ role ∈ before.service.db.roles, Holds after userID role.id → Holds before userID role.id := by
  unfold Database.rolesJoined
  rw [roles, names_same_iff]
  · simp only [List.contains_iff_mem]
    rfl
  · intro role held
    exact List.contains_iff_mem.mpr (kept role.id (List.contains_iff_mem.mp held))

section Answers

variable {now : Int} {callback : Callback} {drawn : Drawn} {random : Except String String}
variable {info : OIDCUserInfo}

theorem found_iff_account (now : Int) :
    (findOrCreateFederatedUser federation now provider info drawn).1 = .found user ↔
      account federation provider info drawn = some user := by
  unfold findOrCreateFederatedUser account
  cases federation.federatedUsers.find? fun link =>
    link.providerID == provider.id && link.externalID == info.sub with
  | some link => cases located : federation.service.db.firstUser link.userID <;> simp [located]
  | none =>
    dsimp only
    generalize (if info.email ≠ "" ∧ provider.autoLink then
      federation.users.find? fun user => user.email == info.email else none) = mailed
    cases mailed with
    | some owner => simp
    | none =>
      cases provider.autoProvision with
      | false => simp
      | true =>
        cases suggestedUsername info with
        | none => simp
        | some base => cases drawn.userID <;> simp

/-- A callback answers with tokens exactly when it has a code the provider takes,
an account, and a refresh token. -/
theorem callback_answers_iff (told : callback.userInfo = .ok info) :
    (∃ response after, handleOIDCCallback jwt config federation now provider callback drawn random =
        (.ok response, after) ∧ response.user = some user) ↔
      callback.code ≠ "" ∧ callback.exchanged.isOk = true ∧
        account federation provider info drawn = some user ∧ random.isOk = true := by
  rw [← found_iff_account federation now]
  unfold handleOIDCCallback
  simp only [told]
  by_cases code : callback.code = ""
  · simp [code]
  · cases callback.exchanged with
    | error reason => simp [code, Except.isOk, Except.toBool]
    | ok _ =>
      rcases findOrCreateFederatedUser federation now provider info drawn with
        ⟨holder | _ | _, loaded⟩
      · cases random <;> simp [code, Except.isOk, Except.toBool]
      · simp [code]
      · simp [code]

theorem callback_answer {response : LoginResponse} (told : callback.userInfo = .ok info)
    (answered : handleOIDCCallback jwt config federation now provider callback drawn random =
      (.ok response, after)) (served : response.user = some user) :
    ∃ loaded, findOrCreateFederatedUser federation now provider info drawn = (.found user, loaded) ∧
      response.accessToken = jwt.sign (accessClaims config loaded.service now user).encode ∧
      after.service.db.roles = loaded.service.db.roles ∧
      ∀ roleID, Holds after user.id roleID ↔
        Holds loaded user.id roleID ∨ MappedFrom loaded provider info.groups roleID := by
  unfold handleOIDCCallback at answered
  simp only [told] at answered
  split at answered
  · cases answered
  · split at answered
    · cases answered
    · split at answered
      · cases answered
      · cases answered
      · rename_i holder loaded found
        split at answered
        · cases answered
        · cases answered
          cases served
          refine ⟨loaded, found, rfl, ?_, fun roleID => ?_⟩
          · split <;> rfl
          · by_cases none : info.groups = []
            · simp [none, Holds, MappedFrom, State.mint]
            · simp only [none, if_false]
              exact mapped_roles_held loaded

theorem tracks_iff_settled {response : LoginResponse}
    (assigns : Assigns federation (.callback now provider callback drawn random) = true)
    (told : callback.userInfo = .ok info)
    (answered : handleOIDCCallback jwt config federation now provider callback drawn random =
      (.ok response, after)) (served : response.user = some user) :
    ((∀ roleID, Mapped federation provider roleID →
        (Holds after user.id roleID ↔ MappedFrom federation provider info.groups roleID)) ∧
      ∃ payload, jwt.verify response.accessToken = some payload ∧
        (decodeClaims payload).roles =
          (after.service.db.rolesJoined after.service.db.userRoles user.id).map Role.name) ↔
      RolesSettled federation provider info.groups user := by
  obtain ⟨loaded, found, signed, roles, held⟩ := callback_answer federation told answered served
  have fresh : ∀ userID, drawn.userID = .ok userID → userID ∉ federation.users.map User.id := by
    intro userID assigned
    rw [← standing_ids]
    exact (assigned_fresh assigns assigned).2
  obtain ⟨sameRoles, sameMappings, atLogin⟩ := find_or_create_roles federation fresh found
  have from_same : ∀ roleID, MappedFrom loaded provider info.groups roleID ↔
      MappedFrom federation provider info.groups roleID := by
    intro roleID
    simp only [MappedFrom, sameMappings]
  have heldAfter : ∀ roleID, Holds after user.id roleID ↔
      HeldAtLogin federation provider user roleID ∨
        MappedFrom federation provider info.groups roleID := by
    intro roleID
    rw [held, atLogin, from_same]
  have tokenRoles : (∃ payload, jwt.verify response.accessToken = some payload ∧
      (decodeClaims payload).roles =
        (after.service.db.rolesJoined after.service.db.userRoles user.id).map Role.name) ↔
      ∀ role ∈ federation.service.db.roles, MappedFrom federation provider info.groups role.id →
        HeldAtLogin federation provider user role.id := by
    simp only [signed, jwt.verify_sign, Option.some.injEq, exists_eq_left', decode_encode]
    refine (listed_roles_same_iff roles fun roleID kept => (held roleID).mpr (.inl kept)).trans ?_
    rw [sameRoles]
    refine forall_congr' fun role => forall_congr' fun _ => ?_
    rw [heldAfter, atLogin]
    exact ⟨fun only mapped => only (.inr mapped), fun only either => either.elim id only⟩
  refine and_congr ?_ tokenRoles
  refine forall_congr' fun roleID => forall_congr' fun mapped => ?_
  rw [heldAfter]
  constructor
  · exact fun same inherited => same.mp (.inl inherited)
  · intro only
    exact ⟨fun either => either.elim only id, .inr⟩

end Answers

theorem tracks_iff_in_step {action : Action} :
    Tracks jwt config federation action ↔ InStep federation action := by
  cases action with
  | callback now provider callback drawn random =>
    refine forall_congr' fun assigns => forall_congr' fun info => forall_congr' fun user => ?_
    constructor
    · intro tracks told code exchanged owner issued
      obtain ⟨response, after, answered, served⟩ :=
        (callback_answers_iff federation told).mpr ⟨code, exchanged, owner, issued⟩
      exact (tracks_iff_settled federation assigns told answered served).mp
        (tracks response after told answered served)
    · intro settled response after told answered served
      obtain ⟨code, exchanged, owner, issued⟩ :=
        (callback_answers_iff federation told).mp ⟨response, after, answered, served⟩
      exact (tracks_iff_settled federation assigns told answered served).mpr
        (settled told code exchanged owner issued)
  | login => exact Iff.rfl
  | mfaChallenge => exact Iff.rfl
  | refresh => exact Iff.rfl
  | updateUserStatus => exact Iff.rfl

/-- Along any run, the roles track the identity provider exactly when no login
has a role to change. -/
theorem federated_roles_tracked_iff (checks : Checks) (federation : Federation)
    (actions : List Action) :
    Guarded (step jwt checks config) (Tracks jwt config) federation actions ↔
      Guarded (step jwt checks config) InStep federation actions :=
  guarded_iff (fun reached _ _ => tracks_iff_in_step reached) (fun _ _ _ _ _ => trivial) trivial

end Callbacks

def viewerFederation : Federation where
  service := {db := {users := [LoginRequests.holder], roles := [⟨1, "viewer"⟩]}}
  federatedUsers := [{id := 1, userID := 7, providerID := 2, externalID := "subject"}]
  roleMappings := [⟨2, "devops", 1⟩]

def viewerLogin (groups : List String) : Action :=
  .callback 0 {id := 2, name := "idp"}
    {code := "code", exchanged := .ok (), userInfo := .ok {sub := "subject", groups := groups}}
    {userID := .ok 8} (.ok "refresh")

/-- The login that brings the role issues a token without it, and the role stays
with a login that brings no group. -/
theorem left_group_keeps_role :
    Nonempty JwtLibrary ∧ ∀ jwt : JwtLibrary,
      ∃ entered left response payload,
        step jwt LoginRequests.holderChecks {} viewerFederation (viewerLogin ["devops"]) =
          some entered ∧
        handleOIDCCallback jwt {} viewerFederation 0 {id := 2, name := "idp"}
          ⟨"code", .ok (), .ok {sub := "subject", groups := ["devops"]}⟩ {userID := .ok 8}
          (.ok "refresh") = (.ok response, entered) ∧
        jwt.verify response.accessToken = some payload ∧ (decodeClaims payload).roles = [] ∧
        Holds entered 7 1 ∧
        step jwt LoginRequests.holderChecks {} entered (viewerLogin []) = some left ∧
        Holds left 7 1 ∧ Mapped entered {id := 2, name := "idp"} 1 ∧
        ¬ MappedFrom entered {id := 2, name := "idp"} [] 1 := by
  refine ⟨jwt_library_exists, fun jwt => ⟨_, _, _, _, rfl, rfl, jwt.verify_sign _, rfl, ?_, rfl, ?_,
    ⟨_, List.mem_cons_self, rfl, rfl⟩, ?_⟩⟩
  · exact List.mem_cons_self
  · exact List.mem_cons_self
  · rintro ⟨_, _, _, _, grouped⟩
    cases grouped

end VcStack.FederatedRoles
