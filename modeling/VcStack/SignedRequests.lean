import VcStack.ServiceAccounts

/-!
What AuthenticateByAPIKey takes from a signed request: when its time is, and
which request it is. The deviation of the two clocks is a saturated duration, and
its negation wraps around. The signing string is four fields joined by newlines.
-/

namespace VcStack.SignedRequests

open IdentityTokens (second)
open TextEncodings ServiceAccounts

def Near (now time : Int) : Prop := now - time ≤ 300 * second ∧ time - now ≤ 300 * second

theorem since_value (now time : Int) :
    (since now time).toInt = max (-9223372036854775808) (min 9223372036854775807 (now - time)) := by
  unfold since
  split
  · have value : Int64.maxValue.toInt = 9223372036854775807 := by decide
    omega
  · split
    · have value : Int64.minValue.toInt = -9223372036854775808 := by decide
      omega
    · rw [Int64.toInt_ofInt_of_le] <;> omega

variable {now : Int} {seconds : Int64}

/-- The check passes near the clock, and where the least duration is its own negation. -/
theorem skew_passes_iff :
    skew now seconds ≤ maxSkew ↔
      Near now (unixTime seconds) ∨ 9223372036854775808 ≤ unixTime seconds - now := by
  have elapsed := since_value now (unixTime seconds)
  have bound : maxSkew.toInt = 300000000000 := by decide
  unfold skew Near second
  dsimp only
  generalize unixTime seconds = time at elapsed
  generalize since now time = duration at elapsed
  rw [Int64.le_iff_toInt_le, bound]
  split
  · rename_i negative
    rw [Int64.lt_iff_toInt_lt, Int64.toInt_zero] at negative
    rw [Int64.toInt_neg, Int.bmod_def]
    omega
  · rename_i positive
    rw [Int64.lt_iff_toInt_lt, Int64.toInt_zero] at positive
    omega

theorem unix_time_value :
    unixTime seconds = seconds.toInt * second ∨
      unixTime seconds = (seconds.toInt - 18446744073709551616) * second := by
  have low := seconds.le_toInt
  have high := seconds.toInt_lt
  have year : (62135596800 : Int64).toInt = 62135596800 := by decide
  unfold unixTime second
  rw [Int64.toInt_add, year, Int.bmod_def]
  omega

/-- The timestamp names a time at least 2^63 nanoseconds ahead, or its seconds do
not fit and what is left of them is near. -/
def BeyondClock (now : Int) (seconds : Int64) : Prop :=
  9223372036854775808 ≤ unixTime seconds - now ∨
    unixTime seconds ≠ seconds.toInt * second ∧ Near now (unixTime seconds)

theorem passes_near_iff :
    (skew now seconds ≤ maxSkew → Near now (seconds.toInt * second)) ↔
      ¬ BeyondClock now seconds := by
  rw [skew_passes_iff]
  unfold BeyondClock Near second
  rcases unix_time_value with exactly | before
  · rw [exactly]
    unfold second
    omega
  · rw [before]
    unfold second
    omega

instance (now time : Int) : Decidable (Near now time) := inferInstanceAs (Decidable (_ ∧ _))

instance (now : Int) (seconds : Int64) : Decidable (BeyondClock now seconds) :=
  inferInstanceAs (Decidable (_ ∨ _ ∧ _))

def PastSkewCheck (answer : Except String AccountClaims) : Prop :=
  answer = .error "invalid signature" ∨ ∃ claims, answer = .ok claims

section Requests

variable (crypto : Cryptography) (serverSecret : String)

theorem past_skew_check_iff (state : State) (now : Int) {account : ServiceAccount}
    {timestamp : String} (accessKeyID signature method path : String)
    (found : (state.accounts.find? fun account => account.accessKeyID == accessKeyID) =
      some account)
    (active : account.isActive = true) (unexpired : account.isExpired now = false)
    (read : parseInt timestamp = some seconds) :
    PastSkewCheck (authenticateByAPIKey crypto serverSecret state now accessKeyID signature
      timestamp method path).1 ↔ skew now seconds ≤ maxSkew := by
  simp only [authenticateByAPIKey, found, active, unexpired, read, Bool.true_eq_false,
    Bool.false_eq_true, if_false]
  split
  · rename_i late
    simp only [PastSkewCheck, Except.error.injEq, String.reduceEq, reduceCtorEq, exists_false,
      or_self, false_iff]
    exact Int64.not_le.mpr late
  · rename_i onTime
    have past := Int64.not_lt.mp onTime
    refine iff_of_true ?_ past
    split
    · exact Or.inl rfl
    · exact Or.inr ⟨_, rfl⟩

end Requests

/-- A request of an active account gets past the check of its time only within 300
seconds of the clock, exactly when its timestamp is not beyond the clock. -/
theorem replay_window_iff (crypto : Cryptography) (serverSecret : String) (state : State)
    (now : Int) (account : ServiceAccount) (seconds : Int64)
    (accessKeyID signature timestamp method path : String)
    (found : (state.accounts.find? fun account => account.accessKeyID == accessKeyID) =
      some account)
    (active : account.isActive = true) (unexpired : account.isExpired now = false)
    (read : parseInt timestamp = some seconds) :
    (PastSkewCheck (authenticateByAPIKey crypto serverSecret state now accessKeyID signature
        timestamp method path).1 → Near now (seconds.toInt * second)) ↔
      ¬ BeyondClock now seconds := by
  rw [past_skew_check_iff crypto serverSecret state now accessKeyID signature method path found active unexpired read]
  exact passes_near_iff

def deployer : ServiceAccount := {id := 1, name := "deployer", accessKeyID := "VC-AKIA-01"}

theorem minute_old_request_near :
    PastSkewCheck (authenticateByAPIKey spelledOut "server" {accounts := [deployer]}
        (1767225660 * second) "VC-AKIA-01" "" "1767225600" "GET" "/v1/hosts").1 ∧
      Near (1767225660 * second) ((1767225600 : Int64).toInt * second) := by
  have read : parseInt "1767225600" = some 1767225600 := by decide
  have past := (past_skew_check_iff spelledOut "server" {accounts := [deployer]}
    (1767225660 * second) "VC-AKIA-01" "" "GET" "/v1/hosts" rfl rfl
    rfl read).mpr (by decide)
  exact ⟨past, (replay_window_iff spelledOut "server" {accounts := [deployer]}
    (1767225660 * second) deployer 1767225600 "VC-AKIA-01" "" "1767225600" "GET" "/v1/hosts" rfl rfl
    rfl read).mpr (by decide) past⟩

/-- A timestamp 300 years ahead is taken for the current time. -/
theorem future_request_passes :
    PastSkewCheck (authenticateByAPIKey spelledOut "server" {accounts := [deployer]}
        (1767225600 * second) "VC-AKIA-01" "" "11234505600" "GET" "/v1/hosts").1 ∧
      parseInt "11234505600" = some 11234505600 ∧
      skew (1767225600 * second) 11234505600 = Int64.minValue ∧
      ¬ Near (1767225600 * second) ((11234505600 : Int64).toInt * second) := by
  have read : parseInt "11234505600" = some 11234505600 := by decide
  refine ⟨?_, read, by decide, by decide⟩
  apply (past_skew_check_iff spelledOut "server" {accounts := [deployer]} _
    _ _ _ _ rfl rfl rfl read).mpr
  decide

theorem timestamp_one_line {timestamp : String}
    (read : parseInt timestamp = some seconds) : '\n' ∉ timestamp.toList := by
  intro member
  -- A line break among the digits is no digit.
  have refused : ∀ digits : List Char, '\n' ∈ digits →
      digits = [] ∨ (digits.any fun char => !char.isDigit) = true := by
    intro digits inside
    exact Or.inr (List.any_eq_true.mpr ⟨'\n', inside, by decide⟩)
  unfold parseInt at read
  split at read
  rename_i negative digits shape
  have inside : '\n' ∈ digits := by
    split at shape
    · rename_i rest text
      cases shape
      rw [text] at member
      exact (List.mem_cons.mp member).resolve_left (by decide)
    · rename_i rest text
      cases shape
      rw [text] at member
      exact (List.mem_cons.mp member).resolve_left (by decide)
    · cases shape
      exact member
  rw [if_pos (refused digits inside)] at read
  contradiction

structure Request where
  accessKeyID : String
  timestamp : String
  method : String
  path : String

def Accepted (crypto : Cryptography) (serverSecret : String) (state : State) (now : Int)
    (signature : String) (request : Request) : Prop :=
  ∃ claims, (authenticateByAPIKey crypto serverSecret state now request.accessKeyID signature
    request.timestamp request.method request.path).1 = .ok claims

theorem accepted_fields {crypto : Cryptography} {serverSecret : String} {state : State}
    {signature : String} {request : Request}
    (accepted : Accepted crypto serverSecret state now signature request) :
    (∃ account ∈ state.accounts, account.accessKeyID = request.accessKeyID) ∧
      (∃ seconds, parseInt request.timestamp = some seconds) ∧
      signature = computeHMAC crypto (deriveHMACKey crypto serverSecret request.accessKeyID)
        request.accessKeyID request.timestamp request.method request.path := by
  obtain ⟨claims, answer⟩ := accepted
  have expected := accepted_signature answer
  refine ⟨?_, ?_, expected⟩
  · cases found : state.accounts.find? fun account => account.accessKeyID == request.accessKeyID with
    | none => simp [authenticateByAPIKey, found] at answer
    | some account =>
      exact ⟨account, List.mem_of_find?_eq_some found, by simpa using List.find?_some found⟩
  · cases read : parseInt request.timestamp with
    | none =>
      unfold authenticateByAPIKey at answer
      split at answer
      · contradiction
      · split_ifs at answer
        simp [read] at answer
    | some seconds => exact ⟨seconds, rfl⟩

theorem signed_accepted (crypto : Cryptography) (serverSecret : String) (state : State) (now : Int)
    {account : ServiceAccount} (seconds : Int64) (request : Request)
    (found : (state.accounts.find? fun account => account.accessKeyID == request.accessKeyID) =
      some account)
    (active : account.isActive = true) (unexpired : account.isExpired now = false)
    (read : parseInt request.timestamp = some seconds) (onTime : skew now seconds ≤ maxSkew) :
    Accepted crypto serverSecret state now
      (computeHMAC crypto (deriveHMACKey crypto serverSecret request.accessKeyID)
        request.accessKeyID request.timestamp request.method request.path) request := by
  have notLate : ¬ skew now seconds > maxSkew := Int64.not_lt.mpr onTime
  simp only [Accepted, authenticateByAPIKey, found, active, unexpired, read, Bool.true_eq_false,
    Bool.false_eq_true, if_neg notLate, ne_eq, not_true_eq_false, if_false]
  exact ⟨_, rfl⟩

theorem fields_joined {request : Request} :
    request.accessKeyID ++ "\n" ++ request.timestamp ++ "\n" ++ request.method ++ "\n" ++
        request.path =
      request.accessKeyID ++ String.singleton '\n' ++ (request.timestamp ++ String.singleton '\n' ++
        (request.method ++ String.singleton '\n' ++ request.path)) := by
  have newline : "\n" = String.singleton '\n' := rfl
  simp only [newline, String.append_assoc]

structure Request.Lined (request : Request) : Prop where
  accessKeyID : '\n' ∉ request.accessKeyID.toList
  timestamp : '\n' ∉ request.timestamp.toList
  method : '\n' ∉ request.method.toList

theorem signing_string_inj {left right : Request} (one : left.Lined) (two : right.Lined)
    (same : left.accessKeyID ++ "\n" ++ left.timestamp ++ "\n" ++ left.method ++ "\n" ++ left.path =
      right.accessKeyID ++ "\n" ++ right.timestamp ++ "\n" ++ right.method ++ "\n" ++ right.path) :
    left = right := by
  rw [fields_joined, fields_joined] at same
  obtain ⟨key, rest⟩ := Text.joined_inj one.accessKeyID two.accessKeyID same
  obtain ⟨time, rest⟩ := Text.joined_inj one.timestamp two.timestamp rest
  obtain ⟨method, path⟩ := Text.joined_inj one.method two.method rest
  cases left
  cases right
  simp only [Request.mk.injEq]
  exact ⟨key, time, method, path⟩

def MessagesApart (crypto : Cryptography) : Prop :=
  ∀ key other message text, PlainKey key → PlainKey other →
    crypto.hmac key message = crypto.hmac other text → message = text

def KeysLined (state : State) : Prop :=
  ∀ account ∈ state.accounts, '\n' ∉ account.accessKeyID.toList

/-- A signature that is accepted for two requests, in whatever states of the
accounts and at whatever times, is accepted for one and the same request. -/
theorem one_signature_one_request (crypto : Cryptography) (apart : MessagesApart crypto)
    (serverSecret signature : String) (state later : State) (now moment : Int)
    (request other : Request) (stored : KeysLined state) (storedLater : KeysLined later)
    (method : '\n' ∉ request.method.toList) (otherMethod : '\n' ∉ other.method.toList)
    (accepted : Accepted crypto serverSecret state now signature request)
    (again : Accepted crypto serverSecret later moment signature other) : request = other := by
  have lined : ∀ (state : State) (now : Int) (request : Request), KeysLined state →
      '\n' ∉ request.method.toList → Accepted crypto serverSecret state now signature request →
      request.Lined := by
    intro state now request stored method accepted
    obtain ⟨⟨account, member, same⟩, ⟨seconds, read⟩, _⟩ := accepted_fields accepted
    exact ⟨same ▸ stored account member, timestamp_one_line read, method⟩
  obtain ⟨_, _, first⟩ := accepted_fields accepted
  obtain ⟨_, _, second⟩ := accepted_fields again
  obtain ⟨derived, key⟩ := derived_key
  obtain ⟨derivedOther, otherKey⟩ := derived_key
  apply signing_string_inj (lined state now request stored method accepted)
    (lined later moment other storedLater otherMethod again)
  apply apart _ _ _ _ derived_key_plain derived_key_plain
  rw [key] at first
  rw [otherKey] at second
  exact hex_encode_injective (first.symm.trans second)

theorem spelled_out_apart : MessagesApart spelledOut := by
  intro key other message text plain otherPlain same
  exact (spelled_out_inj plain otherPlain same).2

def listHosts : Request := ⟨"VC-AKIA-01", "0", "GET", "/v1/hosts"⟩

def deleteHosts : Request := {listHosts with method := "DELETE"}

theorem signature_of_other_method_refused :
    ¬ Accepted spelledOut "server" {accounts := [deployer]} 0
      (computeHMAC spelledOut (deriveHMACKey spelledOut "server" "VC-AKIA-01") "VC-AKIA-01" "0"
        "GET" "/v1/hosts") deleteHosts := by
  intro accepted
  have lined : KeysLined {accounts := [deployer]} := by
    intro account member
    rw [List.mem_singleton.mp member]
    decide
  have listed := signed_accepted spelledOut "server" {accounts := [deployer]} 0 0 listHosts
    rfl rfl rfl (by decide) (by decide)
  have same := one_signature_one_request spelledOut spelled_out_apart "server" _ _ _ 0 0 listHosts
    deleteHosts lined lined (by decide) (by decide) listed accepted
  exact absurd (congrArg Request.method same) (by decide)

end VcStack.SignedRequests
