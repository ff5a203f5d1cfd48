import VcStack.LoginRequests
import VcStack.Windows

/-!
The login throttle under interleaved requests. It counts failures for each
submitted name, in a window that the first failure opens and that a right
password closes.
-/

namespace VcStack.LoginThrottle

open IdentityTables IdentityTokens LoginRequests Runs Windows

variable {attempt : Attempt} {attempts : List Attempt} {windows : List Window} {username : String}
  {now : Int} {config : Config}

section Attempts

variable (name : String)

def Wrong (attempt : Attempt) : Prop :=
  attempt.name = some name ∧ attempt.secondFactor = false ∧ attempt.correct = false

def Right (attempt : Attempt) : Prop :=
  attempt.name = some name ∧ attempt.secondFactor = false ∧ attempt.correct = true

instance : DecidablePred (Wrong name) := by
  intro attempt
  unfold Wrong
  infer_instance

instance : DecidablePred (Right name) := by
  intro attempt
  unfold Right
  infer_instance

def wrongTimes (attempts : List Attempt) : List Int :=
  (attempts.filter fun attempt => Wrong name attempt).map Attempt.time

def streak : List Attempt → List Int
  | [] => []
  | attempt :: rest =>
    if Right name attempt then []
    else if Wrong name attempt then attempt.time :: streak rest
    else streak rest

/-- In no interval of the lockout's length without a right password are more
wrong ones evaluated than one less than twice the limit. -/
def Bounded (attempts : List Attempt) : Prop :=
  ∀ first, (∀ attempt ∈ attempts, Right name attempt →
      attempt.time < first ∨ first + lockout < attempt.time) →
    within first (lockout + 1) (wrongTimes name attempts) ≤ 2 * maxFailures - 1

theorem right_not_wrong (right : Right name attempt) :
    ¬ Wrong name attempt := by
  intro wrong
  have same := right.2.2.symm.trans wrong.2.2
  contradiction

theorem wrong_times_cons {rest : List Attempt} :
    wrongTimes name (attempt :: rest) =
      if Wrong name attempt then attempt.time :: wrongTimes name rest else wrongTimes name rest := by
  unfold wrongTimes
  rw [List.filter_cons]
  simp only [decide_eq_true_eq]
  split_ifs <;> rfl

theorem wrong_times_listed {time : Int}
    (member : time ∈ wrongTimes name attempts) : ∃ attempt ∈ attempts, attempt.time = time := by
  obtain ⟨attempt, among, same⟩ := List.mem_map.mp member
  exact ⟨attempt, (List.mem_filter.mp among).1, same⟩

theorem streak_listed {time : Int}
    (member : time ∈ streak name attempts) : ∃ attempt ∈ attempts, attempt.time = time := by
  induction attempts with
  | nil => contradiction
  | cons attempt rest ih =>
    have later : time ∈ streak name rest → ∃ other ∈ attempt :: rest, other.time = time := by
      intro among
      obtain ⟨other, listed, same⟩ := ih among
      exact ⟨other, List.mem_cons_of_mem _ listed, same⟩
    unfold streak at member
    split_ifs at member with right wrong
    · contradiction
    · rcases List.mem_cons.mp member with same | among
      · exact ⟨attempt, List.mem_cons_self, same.symm⟩
      · exact later among
    · exact later member

theorem within_streak {first width : Int}
    (ordered : attempts.Pairwise fun later earlier => earlier.time ≤ later.time)
    (before : ∀ attempt ∈ attempts, Right name attempt → attempt.time < first) :
    within first width (wrongTimes name attempts) = within first width (streak name attempts) := by
  induction attempts with
  | nil => rfl
  | cons attempt rest ih =>
    obtain ⟨latest, onward⟩ := List.pairwise_cons.mp ordered
    have tail := ih onward fun other listed => before other (List.mem_cons_of_mem _ listed)
    rw [wrong_times_cons, streak]
    split_ifs with wrong right
    · exact absurd wrong (right_not_wrong name right)
    · rw [← List.singleton_append, within_append, tail, ← within_append, List.singleton_append]
    · rename_i right
      have early := before attempt List.mem_cons_self right
      apply within_none
      intro time member
      obtain ⟨other, listed, same⟩ := wrong_times_listed name member
      have order := latest other listed
      left
      omega
    · exact tail

theorem bounded_wrong
    (wrong : Wrong name attempt)
    (ordered : (attempt :: attempts).Pairwise fun later earlier => earlier.time ≤ later.time)
    (bounded : Bounded name attempts) (windowed : Windowed maxFailures lockout windows)
    (counted : timesOf windows = streak name (attempt :: attempts)) :
    Bounded name (attempt :: attempts) := by
  intro first outside
  by_cases inside : first ≤ attempt.time ∧ attempt.time ≤ first + lockout
  · have before : ∀ other ∈ attempt :: attempts, Right name other → other.time < first := by
      intro other listed right
      have latest : other.time ≤ attempt.time := by
        rcases List.mem_cons.mp listed with same | older
        · rw [same]
        · exact (List.pairwise_cons.mp ordered).1 other older
      rcases outside other listed right with early | late
      · exact early
      · omega
    rw [within_streak name ordered before, ← counted]
    exact windowed_at_most maxFailures lockout (by decide) windowed first
  · have old := bounded first fun other listed => outside other (List.mem_cons_of_mem _ listed)
    have absent : within first (lockout + 1) [attempt.time] = 0 := by
      apply within_none
      intro time member
      rw [List.mem_singleton.mp member]
      omega
    rw [wrong_times_cons, if_pos wrong, ← List.singleton_append, within_append, absent,
      Nat.zero_add]
    exact old

theorem bounded_other (other : ¬ Wrong name attempt)
    (bounded : Bounded name attempts) : Bounded name (attempt :: attempts) := by
  intro first outside
  rw [wrong_times_cons, if_neg other]
  exact bounded first fun older listed => outside older (List.mem_cons_of_mem _ listed)

end Attempts

section Steps

variable {Caller : Type} [DecidableEq Caller]
variable (requests : Caller → Request) (name : String)

def Lapses (now : Int) (before after : Option LoginAttempts) : Prop :=
  after = before ∨ after = none ∧ ∀ record ∈ before, now - record.firstAt > lockout

structure Aside (system next : System Caller) : Prop where
  now : system.now ≤ next.now
  attempts : next.attempts = system.attempts ∨ ∃ attempt,
    next.attempts = attempt :: system.attempts ∧ attempt.time = system.now ∧
      ¬ Wrong name attempt ∧ ¬ Right name attempt
  record : Lapses system.now (system.service.failures name) (next.service.failures name)
  admitted : ∀ caller, (requests caller).name = some name → next.phase caller = .admitted →
    system.phase caller = .admitted

inductive Throttles (system next : System Caller) (action : Action Caller) : Prop
  | aside (kept : Aside requests name system next)
  | admits (caller : Caller) (acted : action = .proceed caller)
      (own : (requests caller).name = some name) (arrived : system.phase caller = .arrived)
      (now : next.now = system.now) (attempts : next.attempts = system.attempts)
      (record : Lapses system.now (system.service.failures name) (next.service.failures name))
      (room : ∀ record ∈ next.service.failures name, record.count < maxFailures)
      (phases : next.phase = (system.enter caller .admitted).phase)
  | fails (caller : Caller) (account : Option Nat) (phase : Phase)
      (own : (requests caller).name = some name) (admitted : system.phase caller = .admitted)
      (now : next.now = system.now)
      (attempts : next.attempts = ⟨some name, account, false, false, system.now⟩ :: system.attempts)
      (record : next.service.failures name =
        (system.service.recordFailure system.now name).failures name)
      (phases : next.phase = (system.enter caller phase).phase) (left : phase ≠ .admitted)
  | clears (caller : Caller) (account : Option Nat) (phase : Phase)
      (own : (requests caller).name = some name) (admitted : system.phase caller = .admitted)
      (now : next.now = system.now)
      (attempts : next.attempts = ⟨some name, account, false, true, system.now⟩ :: system.attempts)
      (record : next.service.failures name = none)
      (phases : next.phase = (system.enter caller phase).phase) (left : phase ≠ .admitted)

variable (state : State)

theorem set_failures_same (attempts : Option LoginAttempts) :
    (state.setFailures name attempts).failures name = attempts := if_pos rfl

theorem set_failures_other (attempts : Option LoginAttempts)
    (different : name ≠ username) :
    (state.setFailures username attempts).failures name = state.failures name := if_neg different

theorem record_failure_other (different : name ≠ username) :
    (state.recordFailure now username).failures name = state.failures name := by
  unfold State.recordFailure
  split
  · split <;> exact set_failures_other name state _ different
  · exact set_failures_other name state _ different

theorem check_other (now : Int) (different : name ≠ username) :
    (state.check now username).2.failures name = state.failures name := by
  unfold State.check
  split
  · rfl
  · dsimp only
    split_ifs
    · exact set_failures_other name state none different
    · rfl
    · rfl

theorem check_lapses (now : Int) :
    Lapses now (state.failures name) ((state.check now name).2.failures name) := by
  unfold State.check
  cases found : state.failures name with
  | none => exact Or.inl found
  | some record =>
    dsimp only
    split_ifs with lapsed full
    · refine Or.inr ⟨set_failures_same name state none, ?_⟩
      intro other same
      cases same
      exact lapsed
    · exact Or.inl found
    · exact Or.inl found

theorem check_room (now : Int) (passes : (state.check now name).1 = none) :
    ∀ record ∈ (state.check now name).2.failures name, record.count < maxFailures := by
  unfold State.check at passes ⊢
  cases found : state.failures name with
  | none =>
    intro record same
    rw [found] at same
    contradiction
  | some record =>
    rw [found] at passes
    dsimp only at passes ⊢
    split_ifs at passes ⊢ with lapsed full
    · intro other same
      rw [set_failures_same] at same
      contradiction
    · intro other same
      rw [found] at same
      cases same
      exact Nat.lt_of_not_le full

variable (system : System Caller) (caller : Caller)

variable (next : System Caller) (phase : Phase) (jwt : JwtLibrary) (checks : Checks)

variable {system caller}

theorem entered_admitted (left : phase ≠ .admitted) {other : Caller}
    (admitted : (system.enter caller phase).phase other = .admitted) :
    system.phase other = .admitted := by
  rcases phase_cases system caller other phase with ⟨entered, _⟩ | ⟨same, _⟩
  · exact absurd (entered.symm.trans admitted) left
  · exact same.symm.trans admitted

variable {requests name}

theorem aside_entering (left : phase ≠ .admitted) (now : next.now = system.now)
    (attempts : next.attempts = system.attempts ∨ ∃ attempt,
      next.attempts = attempt :: system.attempts ∧ attempt.time = system.now ∧
        ¬ Wrong name attempt ∧ ¬ Right name attempt)
    (record : Lapses system.now (system.service.failures name) (next.service.failures name))
    (phases : next.phase = (system.enter caller phase).phase) :
    Aside requests name system next where
  now := now.ge
  attempts := attempts
  record := record
  admitted other _ admitted := by
    rw [phases] at admitted
    exact entered_admitted phase left admitted

theorem attempt_aside (left : phase ≠ .admitted) (now : next.now = system.now)
    (attempts : next.attempts = attempt :: system.attempts) (time : attempt.time = system.now)
    (foreign : ¬ Wrong name attempt ∧ ¬ Right name attempt)
    (kept : next.service.failures name = system.service.failures name)
    (phases : next.phase = (system.enter caller phase).phase) :
    Throttles requests name system next (.proceed caller) :=
  .aside (aside_entering next phase left now
    (Or.inr ⟨attempt, attempts, time, foreign⟩) (Or.inl kept) phases)

theorem arrive_login_throttles {request : LoginRequest} {random : Except String String}
    (asked : requests caller = .login request random)
    (arrived : system.phase caller = .arrived) :
    Throttles requests name system (arriveLogin system caller request) (.proceed caller) := by
  have username : (requests caller).name = some request.username := by rw [asked]; rfl
  unfold arriveLogin
  by_cases own : name = request.username
  · subst own
    have lapses := check_lapses request.username system.service system.now
    have room := check_room request.username system.service system.now
    rcases checked : system.service.check system.now request.username with ⟨blocked, service⟩
    rw [checked] at lapses room
    cases blocked with
    | some remaining =>
      exact .aside (aside_entering _ _ (by simp) rfl (Or.inl rfl) lapses rfl)
    | none => exact .admits caller rfl username arrived rfl rfl lapses (room rfl) rfl
  · have same := check_other name system.service system.now own
    rcases checked : system.service.check system.now request.username with ⟨blocked, service⟩
    rw [checked] at same
    cases blocked with
    | some remaining =>
      exact .aside (aside_entering _ _ (by simp) rfl (Or.inl rfl) (Or.inl same) rfl)
    | none =>
      refine .aside ⟨Int.le_refl _, Or.inl rfl, Or.inl same, ?_⟩
      intro other asks admitted
      rcases phase_cases system caller other .admitted with ⟨_, rfl⟩ | ⟨kept, _⟩
      · rw [username] at asks
        exact absurd (Option.some.inj asks).symm own
      · exact kept.symm.trans admitted

theorem arrive_challenge_throttles {bound : Except String MFAChallengeRequest} :
    Throttles requests name system (arriveChallenge jwt system caller bound) (.proceed caller) := by
  have entering : ∀ phase, phase ≠ .admitted →
      Throttles requests name system (system.enter caller phase) (.proceed caller) :=
    fun phase left => .aside (aside_entering _ phase left rfl (Or.inl rfl) (Or.inl rfl) rfl)
  unfold arriveChallenge
  cases bound with
  | error reason => exact entering _ (by simp)
  | ok request =>
    dsimp only
    cases validateMFAToken jwt system.now request.mfaToken with
    | none => exact entering _ (by simp)
    | some userID =>
      dsimp only
      cases system.service.db.firstUser userID with
      | none => exact entering _ (by simp)
      | some user => exact entering _ (by simp)

theorem authenticate_throttles {request : LoginRequest} {random : Except String String}
    (asked : requests caller = .login request random) (admitted : system.phase caller = .admitted) :
    Throttles requests name system (authenticate jwt checks system caller request)
      (.proceed caller) := by
  have username : (requests caller).name = some request.username := by rw [asked]; rfl
  unfold authenticate
  dsimp only
  by_cases own : name = request.username
  · subst own
    cases authenticateUser checks system.service.db request.username request.password with
    | none => exact .fails caller _ _ username admitted rfl rfl rfl rfl (by simp)
    | some user =>
      have cleared := set_failures_same request.username system.service none
      dsimp only
      split_ifs
      · exact .clears caller _ _ username admitted rfl rfl cleared rfl (by simp)
      · exact .clears caller _ _ username admitted rfl rfl cleared rfl (by simp)
      · exact .clears caller _ _ username admitted rfl rfl cleared rfl (by simp)
  · have foreign : ∀ account correct,
        ¬ Wrong name ⟨some request.username, account, false, correct, system.now⟩ ∧
          ¬ Right name ⟨some request.username, account, false, correct, system.now⟩ := by
      intro account correct
      exact ⟨fun wrong => own (Option.some.inj wrong.1).symm,
        fun right => own (Option.some.inj right.1).symm⟩
    cases authenticateUser checks system.service.db request.username request.password with
    | none =>
      exact attempt_aside _ _ (by simp) rfl rfl rfl (foreign _ _)
        (record_failure_other name _ own) rfl
    | some user =>
      have kept := set_failures_other name system.service none own
      dsimp only
      split_ifs
      · exact attempt_aside _ _ (by simp) rfl rfl rfl (foreign _ _) kept rfl
      · exact attempt_aside _ _ (by simp) rfl rfl rfl (foreign _ _) kept rfl
      · exact attempt_aside _ _ (by simp) rfl rfl rfl (foreign _ _) kept rfl

theorem verify_throttles {request : Request} {user : User} :
    Throttles requests name system (verify checks system caller request user)
      (.proceed caller) := by
  have second : ∀ correct,
      ¬ Wrong name ⟨request.name, some user.id, true, correct, system.now⟩ ∧
        ¬ Right name ⟨request.name, some user.id, true, correct, system.now⟩ := by
    intro correct
    exact ⟨fun wrong => Bool.noConfusion wrong.2.1, fun right => Bool.noConfusion right.2.1⟩
  unfold verify
  dsimp only
  split_ifs
  · exact attempt_aside _ _ (by simp) rfl rfl rfl (second _) rfl rfl
  · cases user.recoveryCodes.findIdx? fun hashed =>
        checks.compareHashAndPassword hashed request.code with
    | none =>
      exact attempt_aside _ _ (by simp) rfl rfl rfl (second _) rfl rfl
    | some index =>
      exact attempt_aside _ _ (by simp) rfl rfl rfl (second _) rfl rfl

theorem issue_throttles {request : Request} {user : User} {used : Option String} :
    Throttles requests name system (issue jwt config system caller request user used)
      (.proceed caller) := by
  have kept : (issueTokens jwt config system.service system.now user request.random).2.failures =
      system.service.failures := by
    cases request.random <;> rfl
  exact .aside (aside_entering _ _ (by simp) rfl (Or.inl rfl) (Or.inl (congrFun kept name)) rfl)

theorem sweep_lapses {state : State} :
    Lapses now (state.failures name) ((sweep state now).failures name) := by
  dsimp only [sweep]
  cases state.failures name with
  | none => exact Or.inl rfl
  | some record =>
    by_cases lapsed : now - record.firstAt > lockout
    · refine Or.inr ⟨?_, ?_⟩
      · rw [Option.filter_some_neg]
        exact decide_eq_false (Int.not_le.mpr lapsed)
      · intro other same
        cases same
        exact lapsed
    · left
      rw [Option.filter_some_pos]
      exact decide_eq_true (Int.not_lt.mp lapsed)

theorem step_throttles {system next : System Caller} {action : Action Caller}
    (taken : step jwt checks config requests system action = some next) :
    Throttles requests name system next action := by
  cases action with
  | advance duration =>
    cases taken
    exact .aside ⟨Int.le_add_of_nonneg_right (Int.natCast_nonneg _), Or.inl rfl, Or.inl rfl,
      fun _ _ admitted => admitted⟩
  | sweep =>
    cases taken
    exact .aside ⟨Int.le_refl _, Or.inl rfl, sweep_lapses, fun _ _ admitted => admitted⟩
  | proceed caller =>
    cases taken
    unfold proceed
    split
    · exact arrive_login_throttles (by assumption) (by assumption)
    · exact arrive_challenge_throttles jwt
    · exact authenticate_throttles jwt checks (by assumption) (by assumption)
    · exact verify_throttles checks
    · exact .aside (aside_entering _ _ (by simp) rfl (Or.inl rfl) (Or.inl rfl) rfl)
    · exact issue_throttles jwt
    · exact .aside ⟨Int.le_refl _, Or.inl rfl, Or.inl rfl, fun _ _ admitted => admitted⟩

variable (requests name system caller)

def OneAtATime (system : System Caller) : Action Caller → Prop
  | .proceed caller => (requests caller).name = some name → system.phase caller = .arrived →
      ∀ other, (requests other).name = some name → system.phase other ≠ .admitted
  | _ => True

def Current (windows : List Window) (record : Option LoginAttempts) (now : Int) : Prop :=
  match record with
  | some attempts => ∃ window rest, windows = window :: rest ∧
      window.opened = attempts.firstAt ∧ window.later.length + 1 = attempts.count
  | none => ∀ window ∈ windows.head?, window.opened + lockout < now

structure Throttled (system : System Caller) : Prop where
  ordered : system.attempts.Pairwise fun later earlier => earlier.time ≤ later.time
  past : ∀ attempt ∈ system.attempts, attempt.time ≤ system.now
  bounded : Bounded name system.attempts
  alone : ∀ caller other, (requests caller).name = some name → (requests other).name = some name →
    system.phase caller = .admitted → system.phase other = .admitted → caller = other
  room : ∀ caller, (requests caller).name = some name → system.phase caller = .admitted →
    ∀ record ∈ system.service.failures name,
      record.count < maxFailures ∨ system.now - record.firstAt > lockout
  windows : ∃ windows, Windowed maxFailures lockout windows ∧
    timesOf windows = streak name system.attempts ∧
    Current windows (system.service.failures name) system.now

theorem current_lapses {before after : Option LoginAttempts}
    {later : Int} (current : Current windows before now) (lapses : Lapses now before after)
    (passes : now ≤ later) : Current windows after later := by
  rcases lapses with same | ⟨dropped, lapsed⟩
  · subst same
    cases after with
    | some record => exact current
    | none =>
      intro window head
      have closed := current window head
      omega
  · subst dropped
    cases before with
    | none =>
      intro window head
      have closed := current window head
      omega
    | some record =>
      obtain ⟨window, rest, rfl, opened, _⟩ := current
      intro other head
      cases head
      have expired := lapsed record rfl
      omega

omit [DecidableEq Caller] in
theorem ordered_cons (attempt : Attempt) (throttled : Throttled requests name system)
    (time : attempt.time = system.now) :
    (attempt :: system.attempts).Pairwise fun later earlier => earlier.time ≤ later.time := by
  refine List.pairwise_cons.mpr ⟨?_, throttled.ordered⟩
  intro older listed
  rw [time]
  exact throttled.past older listed

omit [DecidableEq Caller] in
theorem past_cons (attempt : Attempt) (now : Int) (throttled : Throttled requests name system)
    (time : attempt.time = system.now) (passes : system.now ≤ now) :
    ∀ other ∈ attempt :: system.attempts, other.time ≤ now := by
  intro other listed
  rcases List.mem_cons.mp listed with same | older
  · rw [same, time]
    exact passes
  · exact (throttled.past other older).trans passes

omit [DecidableEq Caller] in
theorem aside_throttled (throttled : Throttled requests name system)
    (aside : Aside requests name system next) : Throttled requests name next := by
  obtain ⟨windows, windowed, counted, current⟩ := throttled.windows
  have onward := current_lapses current aside.record aside.now
  have alone : ∀ caller other, (requests caller).name = some name →
      (requests other).name = some name → next.phase caller = .admitted →
      next.phase other = .admitted → caller = other := by
    intro caller other own same first second
    exact throttled.alone caller other own same (aside.admitted caller own first)
      (aside.admitted other same second)
  have room : ∀ caller, (requests caller).name = some name → next.phase caller = .admitted →
      ∀ record ∈ next.service.failures name,
        record.count < maxFailures ∨ next.now - record.firstAt > lockout := by
    intro caller own admitted record stored
    rcases aside.record with same | ⟨dropped, _⟩
    · rw [same] at stored
      have later := aside.now
      rcases throttled.room caller own (aside.admitted caller own admitted) record stored with
        few | lapsed
      · exact Or.inl few
      · right
        omega
    · rw [dropped] at stored
      contradiction
  rcases aside.attempts with same | ⟨attempt, added, time, notWrong, notRight⟩
  · refine ⟨same ▸ throttled.ordered, ?_, same ▸ throttled.bounded, alone, room,
      windows, windowed, same ▸ counted, onward⟩
    rw [same]
    intro attempt listed
    exact (throttled.past attempt listed).trans aside.now
  · refine ⟨added ▸ ordered_cons requests name system attempt throttled time,
      added ▸ past_cons requests name system attempt next.now throttled time aside.now,
      added ▸ bounded_other name notWrong throttled.bounded, alone, room,
      windows, windowed, ?_, onward⟩
    rw [added, streak, if_neg notRight, if_neg notWrong]
    exact counted

def failed (record : Option LoginAttempts) (now : Int) : Option LoginAttempts :=
  match record with
  | some attempts =>
    if now - attempts.firstAt > lockout then some ⟨1, now⟩
    else some {attempts with count := attempts.count + 1}
  | none => some ⟨1, now⟩

theorem windows_after_failure {record : Option LoginAttempts}
    (windowed : Windowed maxFailures lockout windows) (current : Current windows record now)
    (past : ∀ time ∈ timesOf windows, time ≤ now)
    (room : ∀ attempts ∈ record, attempts.count < maxFailures ∨ now - attempts.firstAt > lockout) :
    ∃ after, Windowed maxFailures lockout after ∧ timesOf after = now :: timesOf windows ∧
      Current after (failed record now) now := by
  have opening := windowed_open maxFailures lockout now (by decide) (by decide) windowed
  cases record with
  | none => exact ⟨_, opening current, rfl, ⟨now, []⟩, windows, rfl, rfl, rfl⟩
  | some attempts =>
    obtain ⟨window, rest, rfl, opened, counted⟩ := current
    unfold failed
    dsimp only
    split_ifs with lapsed
    · refine ⟨_, opening ?_, rfl, ⟨now, []⟩, _, rfl, rfl, rfl⟩
      intro other head
      cases head
      omega
    · have few : attempts.count < maxFailures := by
        rcases room attempts rfl with few | late
        · exact few
        · exact absurd late lapsed
      have begun : window.opened ≤ now := by
        apply past window.opened
        rw [timesOf, List.flatMap_cons, Window.times]
        simp
      refine ⟨_, windowed_extend maxFailures lockout windowed (by omega) begun
        (by omega), rfl, _, rest, rfl, opened, ?_⟩
      rw [List.length_cons]
      dsimp only
      omega

theorem record_failure_same {state : State} :
    (state.recordFailure now name).failures name = failed (state.failures name) now := by
  unfold State.recordFailure failed
  cases state.failures name with
  | none => exact set_failures_same name state _
  | some attempts =>
    dsimp only
    split_ifs <;> exact set_failures_same name state _

theorem none_admitted (throttled : Throttled requests name system)
    (own : (requests caller).name = some name) (admitted : system.phase caller = .admitted)
    (phases : next.phase = (system.enter caller phase).phase) (left : phase ≠ .admitted)
    (other : Caller) (same : (requests other).name = some name) : next.phase other ≠ .admitted := by
  intro still
  rw [phases] at still
  have before := entered_admitted phase left still
  have equal := throttled.alone other caller same own before admitted
  subst equal
  exact left ((if_pos rfl).symm.trans still)

theorem step_throttled (system : System Caller) (action : Action Caller)
    (next : System Caller) (throttled : Throttled requests name system)
    (guard : OneAtATime requests name system action)
    (taken : step jwt checks config requests system action = some next) :
    Throttled requests name next := by
  cases step_throttles jwt checks taken with
  | aside kept => exact aside_throttled requests name system next throttled kept
  | admits caller acted own arrived now attempts record room phases =>
    subst acted
    obtain ⟨windows, windowed, counted, current⟩ := throttled.windows
    have only : ∀ other, (requests other).name = some name → next.phase other = .admitted →
        other = caller := by
      intro other same admitted
      rw [phases] at admitted
      rcases phase_cases system caller other .admitted with ⟨_, equal⟩ | ⟨kept, _⟩
      · exact equal
      · exact absurd (kept.symm.trans admitted) (guard own arrived other same)
    refine ⟨attempts ▸ throttled.ordered, ?_, attempts ▸ throttled.bounded, ?_, ?_,
      windows, windowed, attempts ▸ counted,
      current_lapses current record now.ge⟩
    · rw [attempts, now]
      exact throttled.past
    · intro first second named same one two
      exact (only first named one).trans (only second same two).symm
    · intro other _ _ stored among
      exact Or.inl (room stored among)
  | fails caller account phase own admitted now attempts record phases left =>
    obtain ⟨windows, windowed, counted, current⟩ := throttled.windows
    have past : ∀ time ∈ timesOf windows, time ≤ system.now := by
      intro time member
      rw [counted] at member
      obtain ⟨attempt, listed, same⟩ := streak_listed name member
      rw [← same]
      exact throttled.past attempt listed
    obtain ⟨after, fits, times, kept⟩ := windows_after_failure windowed
      current past (throttled.room caller own admitted)
    let attempt : Attempt := ⟨some name, account, false, false, system.now⟩
    have wrong : Wrong name attempt := ⟨rfl, rfl, rfl⟩
    have grown : timesOf after = streak name (attempt :: system.attempts) := by
      rw [times, counted, streak, if_neg (fun right => right_not_wrong name right wrong),
        if_pos wrong]
    have ordered := ordered_cons requests name system attempt throttled rfl
    have vacant := none_admitted requests name system caller next phase throttled own admitted
      phases left
    refine ⟨attempts ▸ ordered, ?_, ?_, ?_, ?_, after, fits, attempts ▸ grown, ?_⟩
    · rw [attempts]
      exact past_cons requests name system attempt next.now throttled rfl now.ge
    · rw [attempts]
      exact bounded_wrong name wrong ordered throttled.bounded fits grown
    · intro first _ named _ one
      exact absurd one (vacant first named)
    · intro first named one
      exact absurd one (vacant first named)
    · rw [record, record_failure_same, now]
      exact kept
  | clears caller account phase own admitted now attempts record phases left =>
    let attempt : Attempt := ⟨some name, account, false, true, system.now⟩
    have right : Right name attempt := ⟨rfl, rfl, rfl⟩
    have vacant := none_admitted requests name system caller next phase throttled own admitted
      phases left
    have ordered := ordered_cons requests name system attempt throttled rfl
    refine ⟨attempts ▸ ordered, ?_, ?_, ?_, ?_, [], ⟨?_, ?_, List.Pairwise.nil⟩, ?_, ?_⟩
    · rw [attempts]
      exact past_cons requests name system attempt next.now throttled rfl now.ge
    · rw [attempts]
      exact bounded_other name (right_not_wrong name right) throttled.bounded
    · intro first _ named _ one
      exact absurd one (vacant first named)
    · intro first named one
      exact absurd one (vacant first named)
    · intro window member
      contradiction
    · intro window member
      contradiction
    · rw [attempts, streak, if_pos right]
      rfl
    · rw [record]
      intro window head
      contradiction

end Steps

/-- Over all interleavings in which the logins under a name follow one another,
at most nine wrong passwords are evaluated under it in any fifteen minutes
without a right one. -/
theorem wrong_passwords_bounded {Caller : Type} [DecidableEq Caller] (jwt : JwtLibrary)
    (checks : Checks) (config : Config) (requests : Caller → Request) (service : State) (now : Int)
    (name : String) (actions : List (Action Caller))
    (sequential : Guarded (step jwt checks config requests) (OneAtATime requests name)
      (start Caller service now) actions) :
    Always (step jwt checks config requests) (fun system => Bounded name system.attempts)
      (start Caller service now) actions := by
  refine always_of_guarded
    (fun _ throttled => throttled.bounded) (step_throttled requests name jwt checks)
    (start Caller service now) ?_ sequential
  refine ⟨List.Pairwise.nil, ?_, fun _ _ => Nat.zero_le _, ?_, ?_, [], ⟨?_, ?_, List.Pairwise.nil⟩,
    rfl, ?_⟩
  · intro attempt listed
    contradiction
  · intro caller other _ _ admitted
    contradiction
  · intro caller _ admitted
    contradiction
  · intro window member
    contradiction
  · intro window member
    contradiction
  · intro window head
    contradiction

/-- Two logins under one name, one after the other. -/
theorem logins_in_turn_bounded :
    Nonempty JwtLibrary ∧ ∀ jwt : JwtLibrary,
      Always (step jwt holderChecks {} fun _ => loginWith "guess" "")
        (fun system => Bounded "member" system.attempts) (start Bool holderService 0)
        [.proceed true, .proceed true, .proceed false, .proceed false] := by
  refine ⟨jwt_library_exists, fun jwt => ?_⟩
  apply wrong_passwords_bounded jwt holderChecks {} _ holderService 0 "member"
  refine ⟨?_, fun _ taken => ?_⟩
  · intro _ _ other _ admitted
    contradiction
  cases taken
  refine ⟨by intro _ arrived; contradiction, fun _ taken => ?_⟩
  cases taken
  refine ⟨?_, fun _ taken => ?_⟩
  · intro _ _ other _ admitted
    cases other <;> contradiction
  cases taken
  exact ⟨by intro _ arrived; contradiction, fun _ _ => trivial⟩

def wrongAgainst (userID : Nat) (attempts : List Attempt) : List Int :=
  (attempts.filter fun attempt => attempt.account = some userID ∧ attempt.correct = false).map
    Attempt.time

def evaluated (jwt : JwtLibrary) (requests : Nat → Request) (actions : List (Action Nat))
    (first : Int) : Option Nat :=
  (run (step jwt holderChecks {} requests) (start Nat holderService 0) actions).map
    fun last => within first (lockout + 1) (wrongAgainst 7 last.attempts)

def inTurn (steps : Nat) (callers : List Nat) : List (Action Nat) :=
  callers.flatMap fun caller => List.replicate steps (.proceed caller)

def nameAndEmail (caller : Nat) : Request :=
  if caller < 5 then loginWith "guess" ""
  else .login {username := "member@example.org", password := "guess"} (.ok "refresh")

noncomputable def anyLibrary : JwtLibrary := Classical.choice jwt_library_exists

/-- The bound of five fails with two names of one account, with two windows of
one name, with second factors, and with logins that overlap. -/
theorem more_than_five_evaluated :
    evaluated anyLibrary nameAndEmail (inTurn 2 [0, 1, 2, 3, 4, 5]) 0 = some 6 ∧
      evaluated anyLibrary (fun _ => loginWith "guess" "")
        (inTurn 2 [0] ++ [.advance 890000000000] ++ inTurn 2 [1, 2, 3, 4] ++
          [.advance 10000000001] ++ inTurn 2 [5, 6, 7, 8, 9]) 1 = some 9 ∧
      evaluated anyLibrary (fun _ => loginWith "secret" "guess") (inTurn 3 [0, 1, 2, 3, 4, 5]) 0 = some 6 ∧
      evaluated anyLibrary (fun _ => loginWith "guess" "")
        (inTurn 1 [0, 1, 2, 3, 4, 5] ++ inTurn 1 [0, 1, 2, 3, 4, 5]) 0 = some 6 := by
  decide +kernel

end VcStack.LoginThrottle
