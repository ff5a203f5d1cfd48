import Mathlib.Data.List.Perm.Subperm
import VcStack.IdentityTokens
import VcStack.KeyedTables

/-!
Logins and MFA challenges that run at the same time. A request goes through the
critical sections of the throttle and the statements of the database one by one,
and keeps the user's row as it read it.
-/

namespace VcStack.LoginRequests

open IdentityTables IdentityTokens KeyedTables Runs

inductive Request where
  | login (request : LoginRequest) (random : Except String String)
  | challenge (bound : Except String MFAChallengeRequest) (random : Except String String)

def Request.code : Request → String
  | .login request _ => request.totpCode
  | .challenge (.ok request) _ => request.totpCode
  | .challenge (.error _) _ => ""

def Request.name : Request → Option String
  | .login request _ => some request.username
  | .challenge _ _ => none

inductive Answer where
  | login (result : Except String LoginResponse)
  | challenge (result : Except Failure LoginResponse)

inductive Phase where
  | arrived
  | admitted
  | verifying (user : User)
  /-- A recovery code matched, and is to be removed from the row. -/
  | matched (user : User) (index : Nat)
  /-- The tokens are next; with the recovery code that was used. -/
  | passed (user : User) (used : Option String)
  | answered (answer : Answer)

structure Attempt where
  name : Option String
  account : Option Nat
  secondFactor : Bool
  correct : Bool
  time : Int
deriving DecidableEq

abbrev StoredCode := Nat × String

structure System (Caller : Type) where
  service : State
  now : Int
  phase : Caller → Phase := fun _ => .arrived
  attempts : List Attempt := []
  consumed : List (Caller × StoredCode) := []
  issued : List (Caller × StoredCode) := []

def start (Caller : Type) (service : State) (now : Int) : System Caller where
  service := {service with failures := fun _ => none}
  now := now

def accountOf (db : Database) (username : String) : Option User :=
  db.users.find? fun user => (user.username == username || user.email == username) && user.isActive

def writeBack (state : State) (user : User) (index : Nat) : State :=
  {state with db := {state.db with users := state.db.users.map fun row =>
    if row.id = user.id then {row with recoveryCodes := user.recoveryCodes.eraseIdx index}
    else row}}

def sweep (state : State) (now : Int) : State :=
  {state with failures := fun name =>
    (state.failures name).filter fun attempts => now - attempts.firstAt ≤ lockout}

variable {phase : Phase} {request : Request} {steps index : Nat} {answer : Answer}

section Steps

variable {Caller : Type} [DecidableEq Caller]

def System.enter (system : System Caller) (caller : Caller) (phase : Phase) : System Caller :=
  {system with phase := fun other => if other = caller then phase else system.phase other}

def System.attempt (system : System Caller) (attempt : Attempt) : System Caller :=
  {system with attempts := attempt :: system.attempts}

variable (jwt : JwtLibrary) (checks : Checks) (config : Config)
variable (system : System Caller) (caller : Caller)

def arriveLogin (request : LoginRequest) : System Caller :=
  match system.service.check system.now request.username with
  | (some remaining, checked) =>
    {system with service := checked}.enter caller (.answered (.login (.error
      ("too many failed login attempts, try again in " ++ toString (remaining / second) ++
        " seconds"))))
  | (none, checked) => {system with service := checked}.enter caller .admitted

def arriveChallenge (bound : Except String MFAChallengeRequest) : System Caller :=
  match bound with
  | .error reason => system.enter caller (.answered (.challenge (.error ⟨400, reason⟩)))
  | .ok request =>
    match validateMFAToken jwt system.now request.mfaToken with
    | none =>
      system.enter caller (.answered (.challenge (.error ⟨401, "invalid or expired MFA token"⟩)))
    | some userID =>
      match system.service.db.firstUser userID with
      | none => system.enter caller (.answered (.challenge (.error ⟨404, "user not found"⟩)))
      | some user => system.enter caller (.verifying user)

def authenticate (request : LoginRequest) : System Caller :=
  let account := (accountOf system.service.db request.username).map (·.id)
  match authenticateUser checks system.service.db request.username request.password with
  | none =>
    ({system with service :=
        system.service.recordFailure system.now request.username}.attempt
      ⟨some request.username, account, false, false, system.now⟩).enter caller
        (.answered (.login (.error "invalid credentials")))
  | some user =>
    let cleared := system.service.setFailures request.username none
    let right := system.attempt ⟨some request.username, account, false, true, system.now⟩
    if user.mfaEnabled then
      if request.totpCode = "" then
        let payload := (challengeClaims system.now user).encode
        {right with service := cleared.mint jwt .generateMFAToken payload}.enter caller
          (.answered (.login (.ok {mfaRequired := true, mfaToken := jwt.sign payload})))
      else {right with service := cleared}.enter caller (.verifying user)
    else {right with service := cleared}.enter caller (.passed user none)

def Request.refuse (request : Request) : Answer :=
  match request with
  | .login _ _ => .login (.error "invalid MFA code")
  | .challenge _ _ => .challenge (.error ⟨401, "invalid MFA code"⟩)

def verify (request : Request) (user : User) : System Caller :=
  let attempt := fun correct : Bool =>
    (⟨request.name, some user.id, true, correct, system.now⟩ : Attempt)
  if validateTOTP checks system.now user request.code then
    (system.attempt (attempt true)).enter caller (.passed user none)
  else
    match user.recoveryCodes.findIdx? fun hashed =>
        checks.compareHashAndPassword hashed request.code with
    | some index => (system.attempt (attempt true)).enter caller (.matched user index)
    | none => (system.attempt (attempt false)).enter caller (.answered request.refuse)

def consume (user : User) (index : Nat) : System Caller :=
  {system with
    service := writeBack system.service user index,
    consumed := (caller, user.id, user.recoveryCodes.getD index "") :: system.consumed}.enter
      caller (.passed user (some (user.recoveryCodes.getD index "")))

def Request.reply (request : Request) (result : Except String LoginResponse) : Answer :=
  match request with
  | .login _ _ => .login (result.mapError ("failed to generate refresh token: " ++ ·))
  | .challenge _ _ =>
    .challenge (result.mapError fun _ => ⟨500, "failed to generate refresh token"⟩)

def Request.random : Request → Except String String
  | .login _ random => random
  | .challenge _ random => random

def issue (request : Request) (user : User) (used : Option String) : System Caller :=
  let issued := issueTokens jwt config system.service system.now user request.random
  {system with
    service := issued.2,
    issued :=
      match used, issued.1 with
      | some hashed, .ok _ => (caller, user.id, hashed) :: system.issued
      | _, _ => system.issued}.enter caller (.answered (request.reply issued.1))

def proceed (request : Request) : System Caller :=
  match system.phase caller, request with
  | .arrived, .login login _ => arriveLogin system caller login
  | .arrived, .challenge bound _ => arriveChallenge jwt system caller bound
  | .admitted, .login login _ => authenticate jwt checks system caller login
  | .verifying user, request => verify checks system caller request user
  | .matched user index, _ => consume system caller user index
  | .passed user used, request => issue jwt config system caller request user used
  | _, _ => system

@[simp]
theorem enter_phase : (system.enter caller phase).phase caller = phase := if_pos rfl

@[simp]
theorem enter_service : (system.enter caller phase).service = system.service := rfl

@[simp]
theorem enter_now : (system.enter caller phase).now = system.now := rfl

def complete (request : Request) : Nat → System Caller → System Caller
  | 0, system => system
  | steps + 1, system =>
    complete request steps (proceed jwt checks config system caller request)

variable {jwt checks config}

theorem complete_answered
    (answered : system.phase caller = .answered answer) :
    complete jwt checks config caller request steps system = system := by
  induction steps with
  | zero => rfl
  | succ steps ih =>
    have stays : proceed jwt checks config system caller request = system := by
      unfold proceed
      rw [answered]
    rw [complete, stays]
    exact ih

def Ends (last : System Caller) (answer : Answer) (service : State) : Prop :=
  last.phase caller = .answered answer ∧ last.service = service

variable {caller}

theorem ends_now {service : State}
    (answered : system.phase caller = .answered answer) (same : system.service = service) :
    Ends caller (complete jwt checks config caller request steps system) answer service := by
  rw [complete_answered system caller answered]
  exact ⟨answered, same⟩

theorem issue_ends {user : User} {used : Option String}
    (passed : system.phase caller = .passed user used) :
    let issued := issueTokens jwt config system.service system.now user request.random
    Ends caller (complete jwt checks config caller request (steps + 1) system)
      (request.reply issued.1) issued.2 := by
  have next : proceed jwt checks config system caller request =
      issue jwt config system caller request user used := by
    unfold proceed
    cases request <;> rw [passed]
  rw [complete, next]
  exact ends_now _ (enter_phase _ _) rfl

theorem proceed_verifying {user : User}
    (verifying : system.phase caller = .verifying user) :
    proceed jwt checks config system caller request = verify checks system caller request user := by
  unfold proceed
  cases request <;> rw [verifying]

theorem proceed_matched {user : User}
    (matched : system.phase caller = .matched user index) :
    proceed jwt checks config system caller request = consume system caller user index := by
  unfold proceed
  cases request <;> rw [matched]

theorem verify_refused {user : User}
    (verifying : system.phase caller = .verifying user)
    (refused : secondFactor checks system.service system.now user request.code = none) :
    Ends caller (complete jwt checks config caller request (steps + 1) system) request.refuse
      system.service := by
  rw [complete, proceed_verifying system verifying]
  unfold secondFactor validateRecoveryCode at refused
  unfold verify
  split_ifs at refused ⊢ with totp
  cases found : user.recoveryCodes.findIdx? fun hashed =>
      checks.compareHashAndPassword hashed request.code with
  | none => exact ends_now _ (enter_phase _ _) rfl
  | some index => simp [found] at refused

theorem verify_passed {user : User} {passed : State}
    (verifying : system.phase caller = .verifying user)
    (accepted : secondFactor checks system.service system.now user request.code = some passed) :
    let issued := issueTokens jwt config passed system.now user request.random
    Ends caller (complete jwt checks config caller request (steps + 3) system)
      (request.reply issued.1) issued.2 := by
  rw [complete, proceed_verifying system verifying]
  unfold secondFactor validateRecoveryCode at accepted
  unfold verify
  split_ifs at accepted ⊢ with totp
  · cases accepted
    exact issue_ends _ (enter_phase _ _)
  · cases found : user.recoveryCodes.findIdx? fun hashed =>
        checks.compareHashAndPassword hashed request.code with
    | none => simp [found] at accepted
    | some index =>
      rw [found] at accepted
      cases accepted
      dsimp only
      rw [complete, proceed_matched _ (enter_phase _ _)]
      exact issue_ends _ (enter_phase _ _)

/-- A login whose steps nothing comes between is the handler's login. -/
theorem login_alone (request : LoginRequest) (random : Except String String) :
    Ends caller (complete jwt checks config caller (.login request random) 5
        (system.enter caller .arrived))
      (.login (login jwt checks config system.service system.now request random).1)
      (login jwt checks config system.service system.now request random).2 := by
  have first : proceed jwt checks config (system.enter caller .arrived) caller
      (.login request random) = arriveLogin (system.enter caller .arrived) caller request := by
    unfold proceed
    rw [enter_phase]
  rw [complete, first]
  unfold login arriveLogin
  rw [enter_service, enter_now]
  rcases checked : system.service.check system.now request.username with ⟨blocked, service⟩
  cases blocked with
  | some remaining => exact ends_now _ (enter_phase _ _) rfl
  | none =>
    have second : ∀ admitted : System Caller, admitted.phase caller = .admitted →
        proceed jwt checks config admitted caller (.login request random) =
          authenticate jwt checks admitted caller request := by
      intro admitted phase
      unfold proceed
      rw [phase]
    dsimp only
    rw [complete, second _ (enter_phase _ _)]
    unfold authenticate
    dsimp only [enter_service, enter_now]
    cases authenticateUser checks service.db request.username request.password with
    | none => exact ends_now _ (enter_phase _ _) rfl
    | some user =>
      dsimp only
      split_ifs with enabled empty
      · exact ends_now _ (enter_phase _ _) rfl
      · cases accepted : secondFactor checks (service.setFailures request.username none)
            system.now user request.totpCode with
        | none =>
          exact verify_refused _ (enter_phase _ _) accepted
        | some passed =>
          exact verify_passed _ (enter_phase _ _) accepted
      · exact issue_ends _ (enter_phase _ _)

/-- A challenge whose steps nothing comes between is the handler's challenge. -/
theorem challenge_alone (bound : Except String MFAChallengeRequest)
    (random : Except String String) :
    Ends caller (complete jwt checks config caller (.challenge bound random) 4
        (system.enter caller .arrived))
      (.challenge (mfaChallengeHandler jwt checks config system.service system.now bound random).1)
      (mfaChallengeHandler jwt checks config system.service system.now bound random).2 := by
  have first : proceed jwt checks config (system.enter caller .arrived) caller
      (.challenge bound random) =
        arriveChallenge jwt (system.enter caller .arrived) caller bound := by
    unfold proceed
    rw [enter_phase]
  rw [complete, first]
  unfold mfaChallengeHandler arriveChallenge
  cases bound with
  | error reason => exact ends_now _ (enter_phase _ _) rfl
  | ok request =>
    dsimp only [enter_service, enter_now]
    cases validateMFAToken jwt system.now request.mfaToken with
    | none => exact ends_now _ (enter_phase _ _) rfl
    | some userID =>
      dsimp only
      cases system.service.db.firstUser userID with
      | none => exact ends_now _ (enter_phase _ _) rfl
      | some user =>
        dsimp only
        cases accepted : secondFactor checks system.service system.now user
            request.totpCode with
        | none =>
          exact verify_refused _ (enter_phase _ _) accepted
        | some passed =>
          exact verify_passed _ (enter_phase _ _) accepted

end Steps

inductive Action (Caller : Type) where
  | proceed (caller : Caller)
  | advance (duration : Nat)
  | sweep

section Runs

variable {Caller : Type} [DecidableEq Caller]
variable (jwt : JwtLibrary) (checks : Checks) (config : Config) (requests : Caller → Request)

def step (system : System Caller) : Action Caller → Option (System Caller)
  | .proceed caller => some (proceed jwt checks config system caller (requests caller))
  | .advance duration => some {system with now := system.now + duration}
  | .sweep => some {system with service := sweep system.service system.now}

def Phase.row : Phase → Option User
  | .verifying user => some user
  | .matched user _ => some user
  | _ => none

structure Untouched (system next : System Caller) : Prop where
  users : next.service.db.users = system.service.db.users
  consumed : next.consumed = system.consumed
  issued : next.issued = system.issued

inductive Moves (system next : System Caller) (action : Action Caller) : Prop
  | idles (kept : Untouched system next) (phases : next.phase = system.phase)
  | enters (caller : Caller) (phase : Phase) (kept : Untouched system next)
      (phases : next.phase = (system.enter caller phase).phase)
      (early : ∀ user used, system.phase caller ≠ .passed user used)
      (unanswered : ∀ answer, system.phase caller ≠ .answered answer)
      (row : ∀ user, phase.row = some user →
        user ∈ system.service.db.users ∨ (system.phase caller).row = some user)
      (within : ∀ user index, phase = .matched user index → index < user.recoveryCodes.length)
      (unused : ∀ user hashed, phase ≠ .passed user (some hashed))
  | consumes (caller : Caller) (user : User) (index : Nat) (acted : action = .proceed caller)
      (matched : system.phase caller = .matched user index)
      (became : next = consume system caller user index)
  | issues (caller : Caller) (user : User) (used : Option String) (answer : Answer)
      (passed : system.phase caller = .passed user used)
      (users : next.service.db.users = system.service.db.users)
      (consumed : next.consumed = system.consumed)
      (issued : next.issued = system.issued ∨
        ∃ hashed, used = some hashed ∧ next.issued = (caller, user.id, hashed) :: system.issued)
      (phases : next.phase = (system.enter caller (.answered answer)).phase)

variable {action : Action Caller}

section Classified

variable {requests}
variable (system : System Caller) (caller : Caller)

theorem record_failure_db {state : State} {now : Int} {username : String} :
    (state.recordFailure now username).db = state.db := by
  unfold State.recordFailure
  split
  · split <;> rfl
  · rfl

theorem authenticated_listed {db : Database} {username password : String} {user : User}
    (found : authenticateUser checks db username password = some user) : user ∈ db.users := by
  unfold authenticateUser at found
  split at found
  · contradiction
  · rename_i row located
    split_ifs at found
    cases found
    exact List.mem_of_find?_eq_some located

theorem issue_tokens_db {state : State} {now : Int} {user : User} {random : Except String String} :
    (issueTokens jwt config state now user random).2.db = state.db := by
  cases random <;> rfl

variable {system caller}

theorem enters_rowless {next : System Caller}
    (kept : Untouched system next) (phases : next.phase = (system.enter caller phase).phase)
    (early : ∀ user used, system.phase caller ≠ .passed user used)
    (unanswered : ∀ answer, system.phase caller ≠ .answered answer)
    (rowless : phase.row = none) (unused : ∀ user hashed, phase ≠ .passed user (some hashed)) :
    Moves system next action := by
  refine .enters caller phase kept phases early unanswered ?_ ?_ unused
  · intro user some
    rw [rowless] at some
    contradiction
  · intro user index same
    rw [same] at rowless
    contradiction

theorem arrive_login_moves {request : LoginRequest}
    (arrived : system.phase caller = .arrived) :
    Moves system (arriveLogin system caller request) action := by
  have same := (check_keeps system.service system.now request.username).2
  unfold arriveLogin
  rcases checked : system.service.check system.now request.username with ⟨blocked, service⟩
  rw [checked] at same
  cases blocked with
  | some remaining =>
    exact enters_rowless ⟨congrArg _ same, rfl, rfl⟩ rfl (by simp [arrived])
      (by simp [arrived]) rfl (by simp)
  | none =>
    exact enters_rowless ⟨congrArg _ same, rfl, rfl⟩ rfl (by simp [arrived])
      (by simp [arrived]) rfl (by simp)

theorem arrive_challenge_moves {bound : Except String MFAChallengeRequest}
    (arrived : system.phase caller = .arrived) :
    Moves system (arriveChallenge jwt system caller bound) action := by
  have refused : ∀ answer, Moves system (system.enter caller (.answered answer)) action := by
    intro answer
    exact enters_rowless ⟨rfl, rfl, rfl⟩ rfl (by simp [arrived]) (by simp [arrived]) rfl (by simp)
  unfold arriveChallenge
  cases bound with
  | error reason => exact refused _
  | ok request =>
    dsimp only
    cases validateMFAToken jwt system.now request.mfaToken with
    | none => exact refused _
    | some userID =>
      dsimp only
      cases found : system.service.db.firstUser userID with
      | none => exact refused _
      | some user =>
        refine .enters caller (.verifying user) ⟨rfl, rfl, rfl⟩ rfl (by simp [arrived])
          (by simp [arrived]) ?_ (by simp) (by simp)
        intro other same
        cases same
        exact Or.inl (List.mem_of_find?_eq_some found)

theorem authenticate_moves {request : LoginRequest}
    (admitted : system.phase caller = .admitted) :
    Moves system (authenticate jwt checks system caller request) action := by
  unfold authenticate
  dsimp only
  cases found : authenticateUser checks system.service.db request.username request.password with
  | none =>
    exact enters_rowless
      ⟨congrArg _ record_failure_db, rfl, rfl⟩ rfl (by simp [admitted])
      (by simp [admitted]) rfl (by simp)
  | some user =>
    dsimp only
    split_ifs with enabled empty
    · exact enters_rowless ⟨rfl, rfl, rfl⟩ rfl (by simp [admitted])
        (by simp [admitted]) rfl (by simp)
    · refine .enters caller (.verifying user) ⟨rfl, rfl, rfl⟩ rfl (by simp [admitted])
        (by simp [admitted]) ?_ (by simp) (by simp)
      intro other same
      cases same
      exact Or.inl (authenticated_listed checks found)
    · exact enters_rowless ⟨rfl, rfl, rfl⟩ rfl (by simp [admitted])
        (by simp [admitted]) rfl (by simp)

theorem verify_moves {user : User}
    (verifying : system.phase caller = .verifying user) :
    Moves system (verify checks system caller request user) action := by
  unfold verify
  dsimp only
  split_ifs with totp
  · exact enters_rowless ⟨rfl, rfl, rfl⟩ rfl (by simp [verifying])
      (by simp [verifying]) rfl (by simp)
  · cases found : user.recoveryCodes.findIdx? fun hashed =>
        checks.compareHashAndPassword hashed request.code with
    | none =>
      exact enters_rowless ⟨rfl, rfl, rfl⟩ rfl (by simp [verifying])
        (by simp [verifying]) rfl (by simp)
    | some index =>
      refine .enters caller (.matched user index) ⟨rfl, rfl, rfl⟩ rfl (by simp [verifying])
        (by simp [verifying]) ?_ ?_ (by simp)
      · intro other same
        right
        rw [verifying]
        exact same
      · intro other position same
        cases same
        exact (List.findIdx?_eq_some_iff_getElem.mp found).1

theorem issue_moves {user : User} {used : Option String} (passed : system.phase caller = .passed user used) :
    Moves system (issue jwt config system caller request user used) action := by
  refine .issues caller user used _ passed (congrArg _ (issue_tokens_db jwt config)) rfl ?_ rfl
  unfold issue
  dsimp only [System.enter]
  cases used with
  | none => exact Or.inl rfl
  | some hashed =>
    cases (issueTokens jwt config system.service system.now user request.random).1 with
    | error reason => exact Or.inl rfl
    | ok response => exact Or.inr ⟨hashed, rfl, rfl⟩

theorem step_moves {system next : System Caller}
    (taken : step jwt checks config requests system action = some next) :
    Moves system next action := by
  cases action with
  | advance duration =>
    cases taken
    exact .idles ⟨rfl, rfl, rfl⟩ rfl
  | sweep =>
    cases taken
    exact .idles ⟨rfl, rfl, rfl⟩ rfl
  | proceed caller =>
    cases taken
    unfold proceed
    split
    · exact arrive_login_moves (by assumption)
    · exact arrive_challenge_moves jwt (by assumption)
    · exact authenticate_moves jwt checks (by assumption)
    · exact verify_moves checks (by assumption)
    · exact .consumes caller _ _ rfl (by assumption) rfl
    · exact issue_moves jwt config (by assumption)
    · exact .idles ⟨rfl, rfl, rfl⟩ rfl

end Classified

section Codes

variable (userID : Nat)

def codesOf (state : State) : List String :=
  ((state.db.firstUser userID).map (·.recoveryCodes)).getD []

/-- No code is used for more tokens, and none is removed or still stored more
often, than it was stored at first. -/
def OneTime (initial : List String) (system : System Caller) : Prop :=
  ∀ hashed, (system.issued.map Prod.snd).count (userID, hashed) ≤ initial.count hashed ∧
    (codesOf userID system.service).count hashed +
      (system.consumed.map Prod.snd).count (userID, hashed) ≤ initial.count hashed

def Unchanged (system : System Caller) : Action Caller → Prop
  | .proceed caller => ∀ user index, system.phase caller = .matched user index →
      user.id = userID → codesOf userID system.service = user.recoveryCodes
  | _ => True

structure Held (system : System Caller) : Prop where
  distinct : (system.service.db.users.map User.id).Nodup
  within : ∀ caller user index, system.phase caller = .matched user index →
    index < user.recoveryCodes.length
  known : ∀ caller user, (system.phase caller).row = some user →
    user.id ∈ system.service.db.users.map User.id

structure Used (system : System Caller) : Prop where
  consumers : (system.consumed.map Prod.fst).Nodup
  past : ∀ entry ∈ system.consumed, (∃ user used, system.phase entry.1 = .passed user used) ∨
    ∃ answer, system.phase entry.1 = .answered answer
  owned : ∀ caller user hashed, system.phase caller = .passed user (some hashed) →
    (caller, user.id, hashed) ∈ system.consumed
  covered : system.issued ⊆ system.consumed
  once : system.issued.Nodup
  finished : ∀ entry ∈ system.issued, ∃ answer, system.phase entry.1 = .answered answer

structure Balanced (initial : List String) (system : System Caller) : Prop where
  balance : ∀ hashed, (codesOf userID system.service).count hashed +
    (system.consumed.map Prod.snd).count (userID, hashed) = initial.count hashed
  copies : ∀ caller user, (system.phase caller).row = some user → user.id = userID →
    (codesOf userID system.service).Sublist user.recoveryCodes

variable (state : State) (system next : System Caller) (caller : Caller) (user : User)

theorem phase_cases (other : Caller) (phase : Phase) :
    (system.enter caller phase).phase other = phase ∧ other = caller ∨
      (system.enter caller phase).phase other = system.phase other ∧ other ≠ caller := by
  by_cases same : other = caller
  · exact Or.inl ⟨if_pos same, same⟩
  · exact Or.inr ⟨if_neg same, same⟩

theorem consume_phase :
    (consume system caller user index).phase =
      (system.enter caller (.passed user (some (user.recoveryCodes.getD index "")))).phase := rfl

variable {state}

theorem write_back_ids :
    (writeBack state user index).db.users.map User.id = state.db.users.map User.id := by
  unfold writeBack
  rw [List.map_map]
  apply List.map_congr_left
  intro row _
  dsimp only [Function.comp_apply]
  split <;> rfl

theorem codes_listed (distinct : (state.db.users.map User.id).Nodup) {user : User}
    (member : user ∈ state.db.users) : codesOf user.id state = user.recoveryCodes := by
  let table : Table User.id := ⟨state.db.users, distinct⟩
  have found : state.db.firstUser user.id = some user := find_of_mem table user member
  rw [codesOf, found]
  rfl

theorem codes_users {other : State} (same : other.db.users = state.db.users) :
    codesOf userID other = codesOf userID state := by
  unfold codesOf Database.firstUser
  rw [same]

theorem codes_written (distinct : (state.db.users.map User.id).Nodup) {user : User}
    (known : user.id ∈ state.db.users.map User.id) :
    codesOf user.id (writeBack state user index) = user.recoveryCodes.eraseIdx index := by
  let table : Table User.id := ⟨state.db.users, distinct⟩
  obtain ⟨row, member, same⟩ := List.mem_map.mp known
  have found : table.find user.id = some row := (find_iff table).mpr ⟨member, same⟩
  have written : (writeBack state user index).db.firstUser user.id =
      (table.update user.id
        (fun row => {row with recoveryCodes := user.recoveryCodes.eraseIdx index})
        fun _ => rfl).find user.id := rfl
  rw [codesOf, written, find_update_same, found]
  rfl

theorem codes_written_other (distinct : (state.db.users.map User.id).Nodup)
    {user : User} (different : userID ≠ user.id) :
    codesOf userID (writeBack state user index) = codesOf userID state := by
  let table : Table User.id := ⟨state.db.users, distinct⟩
  have written : (writeBack state user index).db.firstUser userID =
      (table.update user.id
        (fun row => {row with recoveryCodes := user.recoveryCodes.eraseIdx index})
        fun _ => rfl).find userID := rfl
  rw [codesOf, written, find_update_other _ _ _ _ different]
  rfl

/-- What holds of every row held, and of the row a request enters a phase with,
holds of every row held then. -/
theorem rows_entered (property : User → Prop) {system : System Caller} {caller : Caller}
    (before : ∀ other user, (system.phase other).row = some user → property user)
    (entered : ∀ user, phase.row = some user → property user) (other : Caller) (user : User)
    (holds : ((system.enter caller phase).phase other).row = some user) : property user := by
  rcases phase_cases system caller other phase with ⟨here, _⟩ | ⟨same, _⟩
  · rw [here] at holds
    exact entered user holds
  · rw [same] at holds
    exact before other user holds

variable {next}

theorem entering_held (held : Held system)
    (ids : next.service.db.users.map User.id = system.service.db.users.map User.id)
    (phases : next.phase = (system.enter caller phase).phase)
    (known : ∀ user, phase.row = some user → user.id ∈ system.service.db.users.map User.id)
    (within : ∀ user index, phase = .matched user index → index < user.recoveryCodes.length) :
    Held next := by
  constructor
  · rw [ids]
    exact held.distinct
  · intro other user index matched
    rw [phases] at matched
    rcases phase_cases system caller other phase with ⟨entered, _⟩ | ⟨same, _⟩
    · exact within user index (entered.symm.trans matched)
    · exact held.within other user index (same.symm.trans matched)
  · rw [ids, phases]
    exact rows_entered (·.id ∈ system.service.db.users.map User.id) held.known known

theorem moves_held (held : Held system) (moves : Moves system next action) :
    Held next := by
  cases moves with
  | idles kept phases =>
    constructor
    · rw [kept.users]
      exact held.distinct
    · rw [phases]
      exact held.within
    · rw [phases, kept.users]
      exact held.known
  | enters caller phase kept phases early unanswered row within unused =>
    apply entering_held system caller held (by rw [kept.users]) phases ?_ within
    intro user holds
    rcases row user holds with listed | earlier
    · exact List.mem_map_of_mem listed
    · exact held.known caller user earlier
  | consumes caller user index acted matched became =>
    subst became
    apply entering_held system caller held
      (write_back_ids user) (consume_phase system caller user)
    · intro row holds
      contradiction
    · intro row position same
      contradiction
  | issues caller user used answer passed users consumed issued phases =>
    apply entering_held system caller held (by rw [users]) phases
    · intro row holds
      contradiction
    · intro row position same
      contradiction

omit [DecidableEq Caller] in
theorem not_consumer (used : Used system) (caller : Caller)
    (early : ∀ user hashed, system.phase caller ≠ .passed user hashed)
    (unanswered : ∀ answer, system.phase caller ≠ .answered answer) :
    caller ∉ system.consumed.map Prod.fst := by
  intro member
  obtain ⟨entry, listed, rfl⟩ := List.mem_map.mp member
  rcases used.past entry listed with ⟨user, hashed, passed⟩ | ⟨answer, answered⟩
  · exact early user hashed passed
  · exact unanswered answer answered

omit [DecidableEq Caller] in
theorem consumer_apart (entry : Caller × StoredCode) (fresh : caller ∉ system.consumed.map Prod.fst)
    (listed : entry ∈ system.consumed) :
    entry.1 ≠ caller :=
  fun same => fresh (same ▸ List.mem_map_of_mem listed)

theorem enters_used (used : Used system) (kept : Untouched system next)
    (phases : next.phase = (system.enter caller phase).phase)
    (fresh : caller ∉ system.consumed.map Prod.fst)
    (unused : ∀ user hashed, phase ≠ .passed user (some hashed)) : Used next := by
  constructor
  · rw [kept.consumed]
    exact used.consumers
  · rw [kept.consumed, phases]
    intro entry listed
    have apart := consumer_apart system caller entry fresh listed
    simp only [System.enter, if_neg apart]
    exact used.past entry listed
  · rw [kept.consumed, phases]
    intro other user hashed passed
    rcases phase_cases system caller other phase with ⟨entered, _⟩ | ⟨same, _⟩
    · exact absurd (entered.symm.trans passed) (unused user hashed)
    · exact used.owned other user hashed (same.symm.trans passed)
  · rw [kept.consumed, kept.issued]
    exact used.covered
  · rw [kept.issued]
    exact used.once
  · rw [kept.issued, phases]
    intro entry listed
    have apart := consumer_apart system caller entry fresh (used.covered listed)
    simp only [System.enter, if_neg apart]
    exact used.finished entry listed

theorem consumes_used (used : Used system)
    (matched : system.phase caller = .matched user index) :
    Used (consume system caller user index) := by
  have fresh := not_consumer system used caller (by simp [matched]) (by simp [matched])
  unfold consume
  constructor
  · exact List.nodup_cons.mpr ⟨fresh, used.consumers⟩
  · intro entry listed
    rcases List.mem_cons.mp listed with rfl | before
    · exact Or.inl ⟨user, _, if_pos rfl⟩
    · have apart := consumer_apart system caller entry fresh before
      simp only [System.enter, if_neg apart]
      exact used.past entry before
  · intro other row hashed passed
    by_cases same : other = caller
    · subst same
      have equal := (if_pos rfl).symm.trans passed
      cases equal
      exact List.mem_cons_self
    · simp only [System.enter, if_neg same] at passed
      exact List.mem_cons_of_mem _ (used.owned other row hashed passed)
  · exact fun entry listed => List.mem_cons_of_mem _ (used.covered listed)
  · exact used.once
  · intro entry listed
    have apart := consumer_apart system caller entry fresh (used.covered listed)
    simp only [System.enter, if_neg apart]
    exact used.finished entry listed

theorem issues_used {code : Option String} (used : Used system)
    (passed : system.phase caller = .passed user code) (consumed : next.consumed = system.consumed)
    (issued : next.issued = system.issued ∨
      ∃ hashed, code = some hashed ∧ next.issued = (caller, user.id, hashed) :: system.issued)
    (phases : next.phase = (system.enter caller (.answered answer)).phase) : Used next := by
  have running : ∀ entry ∈ system.issued, entry.1 ≠ caller := by
    intro entry listed same
    obtain ⟨done, answered⟩ := used.finished entry listed
    rw [same, passed] at answered
    contradiction
  have answeredNow : ∀ other, (∃ done, system.phase other = .answered done) ∨ other = caller →
      ∃ done, next.phase other = .answered done := by
    rintro other (⟨done, answered⟩ | same)
    · rw [phases]
      rcases phase_cases system caller other (.answered answer) with ⟨entered, _⟩ | ⟨same, _⟩
      · exact ⟨answer, entered⟩
      · exact ⟨done, same.trans answered⟩
    · rw [phases]
      exact ⟨answer, if_pos same⟩
  constructor
  · rw [consumed]
    exact used.consumers
  · rw [consumed]
    intro entry listed
    rcases used.past entry listed with ⟨row, hashed, before⟩ | done
    · by_cases same : entry.1 = caller
      · exact Or.inr (answeredNow entry.1 (Or.inr same))
      · left
        rw [phases]
        simp only [System.enter, if_neg same]
        exact ⟨row, hashed, before⟩
    · exact Or.inr (answeredNow entry.1 (Or.inl done))
  · rw [consumed, phases]
    intro other row hashed before
    rcases phase_cases system caller other (.answered answer) with ⟨entered, _⟩ | ⟨same, _⟩
    · exact absurd (entered.symm.trans before) (by simp)
    · exact used.owned other row hashed (same.symm.trans before)
  · rw [consumed]
    rcases issued with same | ⟨hashed, rfl, added⟩
    · rw [same]
      exact used.covered
    · rw [added]
      exact List.cons_subset.mpr ⟨used.owned caller user hashed passed, used.covered⟩
  · rcases issued with same | ⟨hashed, rfl, added⟩
    · rw [same]
      exact used.once
    · rw [added]
      exact List.nodup_cons.mpr ⟨fun listed => running _ listed rfl, used.once⟩
  · intro entry listed
    rcases issued with same | ⟨hashed, rfl, added⟩
    · rw [same] at listed
      exact answeredNow entry.1 (Or.inl (used.finished entry listed))
    · rw [added] at listed
      rcases List.mem_cons.mp listed with rfl | before
      · exact answeredNow caller (Or.inr rfl)
      · exact answeredNow entry.1 (Or.inl (used.finished entry before))

theorem moves_used (used : Used system) (moves : Moves system next action) :
    Used next := by
  cases moves with
  | idles kept phases =>
    obtain ⟨consumers, past, owned, covered, once, finished⟩ := used
    constructor
    · rwa [kept.consumed]
    · rwa [kept.consumed, phases]
    · rwa [kept.consumed, phases]
    · rwa [kept.consumed, kept.issued]
    · rwa [kept.issued]
    · rwa [kept.issued, phases]
  | enters caller phase kept phases early unanswered _ _ unused =>
    exact enters_used system caller used kept phases
      (not_consumer system used caller early unanswered) unused
  | consumes caller user index _ matched became =>
    subst became
    exact consumes_used system caller user used matched
  | issues caller user code answer passed _ consumed issued phases =>
    exact issues_used system caller user used passed consumed issued phases

omit [DecidableEq Caller] in
theorem issued_le_consumed (used : Used system) (code : StoredCode) :
    (system.issued.map Prod.snd).count code ≤ (system.consumed.map Prod.snd).count code := by
  obtain ⟨listing, same, among⟩ := used.once.subperm used.covered
  rw [← (same.map Prod.snd).count_eq code]
  exact (among.map Prod.snd).count_le code

theorem count_erase {codes : List String} (within : index < codes.length)
    (hashed : String) :
    (codes.eraseIdx index).count hashed + [codes.getD index ""].count hashed =
      codes.count hashed := by
  have same := (List.getElem_cons_eraseIdx_perm within).count_eq hashed
  have position : codes.getD index "" = codes[index] := by simp [within]
  rw [← List.singleton_append, List.count_append] at same
  rw [position]
  omega

theorem count_consumed (own : user.id = userID) {hashed : String} :
    ((consume system caller user index).consumed.map Prod.snd).count (userID, hashed) =
      (system.consumed.map Prod.snd).count (userID, hashed) +
        [user.recoveryCodes.getD index ""].count hashed := by
  subst own
  simp only [consume, System.enter, List.map_cons, List.count_cons, List.count_nil, Nat.zero_add]
  congr 1
  simp

theorem moves_balanced {initial : List String} {system next : System Caller}
    (held : Held system) (balanced : Balanced userID initial system)
    (unchanged : Unchanged userID system action) (moves : Moves system next action) :
    Balanced userID initial next := by
  cases moves with
  | idles kept phases =>
    obtain ⟨balance, copies⟩ := balanced
    have codes := codes_users userID kept.users
    constructor
    · rwa [codes, kept.consumed]
    · rwa [codes, phases]
  | enters caller phase kept phases _ _ row _ _ =>
    have codes := codes_users userID kept.users
    constructor
    · rw [codes, kept.consumed]
      exact balanced.balance
    · rw [codes, phases]
      apply rows_entered _ balanced.copies
      intro user holds own
      rcases row user holds with listed | earlier
      · rw [← own, codes_listed held.distinct listed]
      · exact balanced.copies caller user earlier own
  | consumes caller user index acted matched became =>
    subst became acted
    have row : (system.phase caller).row = some user := by rw [matched]; rfl
    by_cases own : user.id = userID
    · have read := unchanged user index matched own
      have written : codesOf userID (consume system caller user index).service =
          user.recoveryCodes.eraseIdx index :=
        own ▸ codes_written held.distinct (held.known caller user row)
      constructor
      · intro hashed
        have total := count_erase (held.within caller user index matched) hashed
        have before := balanced.balance hashed
        rw [read] at before
        rw [written, count_consumed userID system caller user own]
        omega
      · rw [written, consume_phase]
        apply rows_entered (fun copy => copy.id = userID →
          (user.recoveryCodes.eraseIdx index).Sublist copy.recoveryCodes)
        · intro other copy holds same
          have earlier := balanced.copies other copy holds same
          rw [read] at earlier
          exact (List.eraseIdx_sublist _ _).trans earlier
        · intro copy holds
          contradiction
    · have codes : codesOf userID (consume system caller user index).service =
          codesOf userID system.service :=
        codes_written_other userID held.distinct (Ne.symm own)
      constructor
      · intro hashed
        have different : (user.id, user.recoveryCodes.getD index "") ≠ (userID, hashed) :=
          fun same => own (congrArg Prod.fst same)
        have before := balanced.balance hashed
        simp only [consume, System.enter, List.map_cons, List.count_cons_of_ne different]
        exact codes ▸ before
      · rw [codes, consume_phase]
        apply rows_entered _ balanced.copies
        intro copy holds
        contradiction
  | issues caller user used answer passed users consumed issued phases =>
    have codes := codes_users userID users
    constructor
    · rw [codes, consumed]
      exact balanced.balance
    · rw [codes, phases]
      apply rows_entered _ balanced.copies
      intro copy holds
      contradiction

theorem changed_breaks {initial : List String} {system : System Caller} {caller : Caller}
    {user : User} (held : Held system) (balanced : Balanced userID initial system)
    (matched : system.phase caller = .matched user index) (own : user.id = userID)
    (changed : codesOf userID system.service ≠ user.recoveryCodes) :
    ¬ OneTime userID initial (consume system caller user index) := by
  intro oneTime
  have row : (system.phase caller).row = some user := by rw [matched]; rfl
  have written : codesOf userID (consume system caller user index).service =
      user.recoveryCodes.eraseIdx index :=
    own ▸ codes_written held.distinct (held.known caller user row)
  have sub := balanced.copies caller user row own
  have counts : ∀ hashed, user.recoveryCodes.count hashed ≤
      (codesOf userID system.service).count hashed := by
    intro hashed
    have bound := (oneTime hashed).2
    have total := count_erase (held.within caller user index matched) hashed
    have before := balanced.balance hashed
    rw [written, count_consumed userID system caller user own] at bound
    omega
  have back : user.recoveryCodes.Subperm (codesOf userID system.service) :=
    List.subperm_ext_iff.mpr fun hashed _ => counts hashed
  exact changed (sub.eq_of_length_le back.length_le)

end Codes

/-- Over all interleavings, the recovery codes of a user are used once exactly
when no request writes over a list that has changed since it was read. -/
theorem recovery_codes_once_iff (jwt : JwtLibrary) (checks : Checks) (config : Config)
    (requests : Caller → Request) (service : State) (now : Int) (userID : Nat)
    (distinct : (service.db.users.map User.id).Nodup) (actions : List (Action Caller)) :
    Always (step jwt checks config requests) (OneTime userID (codesOf userID service))
        (start Caller service now) actions ↔
      Guarded (step jwt checks config requests) (Unchanged userID)
        (start Caller service now) actions := by
  apply always_iff_guarded fun system =>
    Held system ∧ Used system ∧ Balanced userID (codesOf userID service) system
  · rintro system ⟨held, used, balanced⟩ hashed
    have issued := issued_le_consumed system used (userID, hashed)
    have total := balanced.balance hashed
    constructor <;> omega
  · rintro system action next ⟨held, used, balanced⟩ unchanged taken
    have moves := step_moves jwt checks config taken
    exact ⟨moves_held system held moves, moves_used system used moves,
      moves_balanced userID held balanced unchanged moves⟩
  · rintro system action ⟨held, used, balanced⟩ changed
    cases action with
    | advance | sweep => exact absurd trivial changed
    | proceed caller =>
      simp only [Unchanged, not_forall] at changed
      obtain ⟨user, index, matched, own, stale⟩ := changed
      refine ⟨consume system caller user index, ?_, changed_breaks userID held balanced matched own stale⟩
      rw [step, proceed_matched system matched]
  · refine ⟨⟨distinct, ?_, ?_⟩, ?_, ⟨?_, ?_⟩⟩
    · intro caller user index matched
      contradiction
    · intro caller user holds
      contradiction
    · constructor <;> simp [start]
    · intro hashed
      exact Nat.add_zero _
    · intro caller user holds
      contradiction

end Runs

def holder : User where
  id := 7
  username := "member"
  email := "member@example.org"
  password := "hashed secret"
  mfaEnabled := true
  recoveryCodes := ["hashed alpha", "hashed beta"]

def holderChecks : Checks where
  compareHashAndPassword hashed text :=
    hashed == "hashed secret" && text == "secret" ||
      hashed == "hashed alpha" && text == "alpha" || hashed == "hashed beta" && text == "beta"
  totpValidate _ _ _ := false

def holderService : State := {db := {users := [holder]}}

def loginWith (password code : String) : Request :=
  .login {username := "member", password := password, totpCode := code} (.ok "refresh")

theorem one_login_once :
    Nonempty JwtLibrary ∧ ∀ jwt : JwtLibrary,
      Always (step jwt holderChecks {} fun _ : Unit => loginWith "secret" "alpha")
        (OneTime 7 (codesOf 7 holderService)) (start Unit holderService 0)
        [.proceed (), .proceed (), .proceed (), .proceed (), .proceed ()] := by
  refine ⟨jwt_library_exists, fun jwt => ?_⟩
  apply (recovery_codes_once_iff jwt holderChecks {} _ holderService 0 7 (by decide) _).mpr
  refine ⟨by intro _ _ phase; contradiction, fun _ taken => ?_⟩
  cases taken
  refine ⟨by intro _ _ phase; contradiction, fun _ taken => ?_⟩
  cases taken
  refine ⟨by intro _ _ phase; contradiction, fun _ taken => ?_⟩
  cases taken
  refine ⟨by intro _ _ phase _; cases phase; rfl, fun _ taken => ?_⟩
  cases taken
  exact ⟨by intro _ _ phase; contradiction, fun _ _ => trivial⟩

/-- Two logins with one code, and two with different codes, that both read the
row before either writes it: the code is used twice, or the first comes back. -/
def bothReadFirst : List (Action Bool) :=
  [.proceed true, .proceed true, .proceed false, .proceed false, .proceed true, .proceed false,
    .proceed true, .proceed false, .proceed true, .proceed false]

theorem recovery_code_used_again :
    Nonempty JwtLibrary ∧ ∀ jwt : JwtLibrary,
      (∃ last, run (step jwt holderChecks {} fun _ => loginWith "secret" "alpha")
          (start Bool holderService 0) bothReadFirst = some last ∧
        (codesOf 7 holderService).count "hashed alpha" = 1 ∧
        (last.issued.map Prod.snd).count (7, "hashed alpha") = 2) ∧
      ∃ last, run (step jwt holderChecks {} fun first =>
          loginWith "secret" (if first then "alpha" else "beta"))
          (start Bool holderService 0) bothReadFirst = some last ∧
        (7, "hashed alpha") ∈ last.consumed.map Prod.snd ∧
        "hashed alpha" ∈ codesOf 7 last.service := by
  refine ⟨jwt_library_exists, fun jwt => ?_⟩
  -- The codes tokens were issued for, those removed and those stored after each run.
  let seen := fun last : System Bool =>
    (last.issued.map Prod.snd, last.consumed.map Prod.snd, codesOf 7 last.service)
  have alike : (run (step jwt holderChecks {} fun _ => loginWith "secret" "alpha")
      (start Bool holderService 0) bothReadFirst).map seen =
      some ([(7, "hashed alpha"), (7, "hashed alpha")],
        [(7, "hashed alpha"), (7, "hashed alpha")], ["hashed beta"]) := by
    with_unfolding_all rfl
  have apart : (run (step jwt holderChecks {} fun first =>
      loginWith "secret" (if first then "alpha" else "beta"))
      (start Bool holderService 0) bothReadFirst).map seen =
      some ([(7, "hashed beta"), (7, "hashed alpha")],
        [(7, "hashed beta"), (7, "hashed alpha")], ["hashed alpha"]) := by
    with_unfolding_all rfl
  obtain ⟨first, firstRan, firstSeen⟩ := Option.map_eq_some_iff.mp alike
  obtain ⟨second, secondRan, secondSeen⟩ := Option.map_eq_some_iff.mp apart
  simp only [seen, Prod.mk.injEq] at firstSeen secondSeen
  refine ⟨⟨first, firstRan, rfl, ?_⟩, second, secondRan, ?_, ?_⟩
  · rw [firstSeen.1]
    rfl
  · rw [secondSeen.2.1]
    exact List.mem_cons_of_mem _ List.mem_cons_self
  · rw [secondSeen.2.2]
    exact List.mem_cons_self

end VcStack.LoginRequests
