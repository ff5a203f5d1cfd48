import Mathlib.Tactic.Common

/-!
Delivery of a notification to a channel: the senders of the two channel types,
the retry loop that reads their (status, message) pairs, and the rows it writes.
-/

namespace VcStack.Notifications

structure Channel where
  id : Nat
  name : String
  type : String
  config : String

structure Payload where
  json : String
  resourceType : String
  resourceID : String
  event : String

structure NotificationLog where
  channelID : Nat
  channelName : String
  resourceType : String
  resourceID : String
  action : String
  status : String
  statusCode : Nat
  errorMessage : String
  payload : String
  attempts : Nat
  deriving DecidableEq

structure DeadLetterEntry where
  channelID : Nat
  channelName : String
  channelType : String
  resourceType : String
  resourceID : String
  action : String
  payload : String
  lastError : String
  lastStatus : Nat
  attempts : Nat
  deriving DecidableEq

def maxRetries : Nat := 3

/-- The URL of a channel's configuration, by its JSON key, the check of a URL that making a
request does first, and the check of the scheme, host and headers of the configuration, by the
same key, before a connection is made; all may fail with an error text. -/
structure GoLibrary where
  urlOf : String → String → Except String String
  newRequest : String → Option String
  checkRequest : String → String → Option String

inductive Response where
  | failed (error : String)
  | answered (status : Nat)

variable (lib : GoLibrary)

def isRetryable (statusCode : Nat) : Bool :=
  statusCode = 0 || statusCode ≥ 500 || statusCode = 429

def post (key invalid empty unmade unsent : String) (answer : Nat → Nat × String) (ch : Channel)
    (response : Response) : Nat × String :=
  match lib.urlOf key ch.config with
  | .error e => (0, invalid ++ e)
  | .ok url =>
    if url = "" then (0, empty)
    else match lib.newRequest url, lib.checkRequest key ch.config, response with
      | some e, _, _ => (0, unmade ++ e)
      | none, some e, _ => (0, unsent ++ e)
      | none, none, .failed e => (0, unsent ++ e)
      | none, none, .answered status => answer status

def sendWebhook : Channel → Response → Nat × String :=
  post lib "url" "invalid webhook config: " "webhook URL is empty" "failed to create request: "
    "webhook request failed: " fun status =>
      if status ≥ 400 then (status, "webhook returned " ++ toString status) else (status, "")

/-- Whatever the endpoint answers is taken for a success. -/
def sendSlack : Channel → Response → Nat × String :=
  post lib "webhook_url" "invalid slack config: " "slack webhook_url is empty"
    "slack request failed: " "slack request failed: " fun status => (status, "")

def sendOnce (ch : Channel) (response : Response) : Nat × String :=
  if ch.type = "webhook" then sendWebhook lib ch response
  else if ch.type = "slack" then sendSlack lib ch response
  else (0, "unsupported channel type: " ++ ch.type)

/-- The loop from an attempt on, with so many more allowed: the number of the last attempt and
what it gave. -/
def retry (send : Nat → Nat × String) : Nat → Nat → Nat × Nat × String
  | 0, attempt => (attempt, send attempt)
  | more + 1, attempt =>
    if (send attempt).2 = "" ∨ isRetryable (send attempt).1 = false then (attempt, send attempt)
    else retry send more (attempt + 1)

def attemptsOf (ch : Channel) (responses : Nat → Response) : Nat × Nat × String :=
  retry (fun attempt => sendOnce lib ch (responses attempt)) (maxRetries - 1) 1

def logRow (ch : Channel) (payload : Payload) (status : String) (result : Nat × Nat × String) :
    NotificationLog :=
  ⟨ch.id, ch.name, payload.resourceType, payload.resourceID, payload.event, status, result.2.1,
    result.2.2, payload.json, result.1⟩

def sendNotification (ch : Channel) (payload : Payload) (responses : Nat → Response) :
    List NotificationLog × List DeadLetterEntry :=
  let result := attemptsOf lib ch responses
  if result.2.2 = "" then ([logRow ch payload "sent" result], [])
  else ([logRow ch payload "dead_letter" result], [⟨ch.id, ch.name, ch.type, payload.resourceType,
    payload.resourceID, payload.event, payload.json, result.2.2, result.2.1, result.1⟩])

def urlKey (type : String) : Option String :=
  if type = "webhook" then some "url" else if type = "slack" then some "webhook_url" else none

def Reachable (key : String) (ch : Channel) : Prop :=
  ∃ url, lib.urlOf key ch.config = .ok url ∧ url ≠ "" ∧ lib.newRequest url = none ∧
    lib.checkRequest key ch.config = none

def Usable (ch : Channel) : Prop := ∃ key, urlKey ch.type = some key ∧ Reachable lib key ch

def Answered (ch : Channel) (response : Response) (status : Nat) : Prop :=
  Usable lib ch ∧ response = .answered status

def Succeeded (ch : Channel) (response : Response) : Prop :=
  ∃ status, Answered lib ch response status ∧ status < 400

def Permanent (ch : Channel) (response : Response) : Prop :=
  ¬ Usable lib ch ∨ ∃ status, Answered lib ch response status ∧ 400 ≤ status ∧ status < 500 ∧
    status ≠ 429

/-- One log row, which tells whether the last attempt succeeded, and one dead letter if it did not. -/
def Told (ch : Channel) (payload : Payload) (responses : Nat → Response) : Prop :=
  ∃ log letters, sendNotification lib ch payload responses = ([log], letters) ∧
    (log.status = "sent" ↔ Succeeded lib ch (responses (attemptsOf lib ch responses).1)) ∧
    (log.status = "sent" ∧ letters = [] ∨
      log.status = "dead_letter" ∧ ∃ entry, letters = [entry] ∧ entry.payload = log.payload)

structure Truthful (ch : Channel) (payload : Payload) (responses : Nat → Response) : Prop where
  told : Told lib ch payload responses
  earlier : ∀ attempt, 1 ≤ attempt → attempt < (attemptsOf lib ch responses).1 →
    ¬ Succeeded lib ch (responses attempt) ∧ ¬ Permanent lib ch (responses attempt)
  last : Succeeded lib ch (responses (attemptsOf lib ch responses).1) ∨
    Permanent lib ch (responses (attemptsOf lib ch responses).1) ∨
    (attemptsOf lib ch responses).1 = maxRetries

variable {lib} {ch : Channel} {payload : Payload} {responses : Nat → Response}

/-- The loop ends at a success, at an error it does not retry or after all attempts, and only
retried errors come before. -/
structure Ended (send : Nat → Nat × String) (first final : Nat) (result : Nat × Nat × String) :
    Prop where
  outcome : result.2 = send result.1
  retried : ∀ i, first ≤ i → i < result.1 → (send i).2 ≠ "" ∧ isRetryable (send i).1 = true
  stops : result.2.2 = "" ∨ isRetryable result.2.1 = false ∨ result.1 = final
  range : first ≤ result.1 ∧ result.1 ≤ final

theorem retry_ended (send : Nat → Nat × String) (more first : Nat) :
    Ended send first (first + more) (retry send more first) := by
  induction more generalizing first with
  | zero => exact ⟨rfl, fun i low high => by simp [retry] at high; omega, .inr (.inr rfl), by simp [retry]⟩
  | succ more ih =>
    rw [retry]
    split
    · rename_i stops
      exact ⟨rfl, fun i low high => by simp at high; omega, by tauto, by simp⟩
    · rename_i goes
      obtain ⟨some, retried⟩ := not_or.mp goes
      obtain ⟨outcome, before, stops, low, high⟩ := ih (first + 1)
      rw [Nat.add_assoc, Nat.add_comm 1 more] at stops high
      refine ⟨outcome, fun i from_ below => ?_, stops, by omega, high⟩
      rcases Nat.eq_or_lt_of_le from_ with rfl | later
      · exact ⟨some, by simpa using retried⟩
      · exact before i later below

theorem attempts_ended (lib : GoLibrary) (ch : Channel) (responses : Nat → Response) :
    Ended (fun i => sendOnce lib ch (responses i)) 1 maxRetries (attemptsOf lib ch responses) :=
  retry_ended _ 2 1

/-- A post without an answer gives status 0 and a message; with one, what the sender makes of it. -/
theorem post_spec (lib : GoLibrary) (key invalid empty unmade unsent : String)
    (answer : Nat → Nat × String) (ch : Channel) (response : Response)
    (texts : invalid ≠ "" ∧ empty ≠ "" ∧ unmade ≠ "" ∧ unsent ≠ "") :
    (∃ status, (Reachable lib key ch ∧ response = .answered status) ∧
      post lib key invalid empty unmade unsent answer ch response = answer status) ∨
    ((∀ status, ¬ (Reachable lib key ch ∧ response = .answered status)) ∧
      (post lib key invalid empty unmade unsent answer ch response).1 = 0 ∧
      (post lib key invalid empty unmade unsent answer ch response).2 ≠ "") := by
  unfold post Reachable
  cases parsed : lib.urlOf key ch.config with
  | error reason => exact .inr (by simp [texts])
  | ok url =>
    by_cases unset : url = ""
    · exact .inr (by simp [unset, texts])
    · cases made : lib.newRequest url with
      | some reason => exact .inr (by simp [unset, made, texts])
      | none =>
        cases checked : lib.checkRequest key ch.config with
        | some reason => exact .inr (by simp [unset, made, texts])
        | none =>
          cases response with
          | failed reason => exact .inr (by simp [unset, made, texts])
          | answered status => exact .inl ⟨status, by simp [unset, made]⟩

/-- What an attempt gives, by the answer it got if any. -/
theorem send_spec (lib : GoLibrary) (ch : Channel) (response : Response) :
    (∃ status, Answered lib ch response status ∧ sendOnce lib ch response =
      if ch.type = "webhook" ∧ 400 ≤ status then
        (status, "webhook returned " ++ toString status) else (status, "")) ∨
    ((∀ status, ¬ Answered lib ch response status) ∧ (sendOnce lib ch response).1 = 0 ∧
      (sendOnce lib ch response).2 ≠ "") := by
  unfold sendOnce Answered Usable urlKey
  split_ifs with webhook slack
  · simpa [sendWebhook, webhook] using post_spec lib "url" _ _ _ _ (fun status =>
      if status ≥ 400 then (status, "webhook returned " ++ toString status) else (status, ""))
      ch response (by decide)
  · simpa [sendSlack, webhook] using post_spec lib "webhook_url" _ _ _ _
      (fun status => (status, "")) ch response (by decide)
  · simp

theorem error_read {response : Response} (usable : Usable lib ch)
    (message : (sendOnce lib ch response).2 ≠ "") : ¬ Succeeded lib ch response ∧
    (Permanent lib ch response ↔ isRetryable (sendOnce lib ch response).1 = false) := by
  rcases send_spec lib ch response with ⟨status, answered, sent⟩ | ⟨none, code, -⟩
  · rw [sent] at message ⊢
    split_ifs at message ⊢ with large
    · have only : ∀ other, Answered lib ch response other ↔ other = status := fun other =>
        ⟨fun same => by cases same.2.symm.trans answered.2; rfl, fun same => same ▸ answered⟩
      have high := large.2
      simp only [Succeeded, Permanent, only, isRetryable]
      constructor
      · simpa using high
      · simp [usable]
        omega
    · exact absurd rfl message
  · simp [Succeeded, Permanent, none, usable, code, isRetryable]

theorem success_read {response : Response} (sent : (sendOnce lib ch response).2 = "") :
    ∃ status, Answered lib ch response status ∧ (ch.type = "webhook" → status < 400) := by
  rcases send_spec lib ch response with ⟨status, answered, shape⟩ | ⟨-, -, message⟩
  · refine ⟨status, answered, fun webhook => ?_⟩
    by_contra large
    rw [shape, if_pos ⟨webhook, Nat.le_of_not_lt large⟩] at sent
    simp at sent
  · exact absurd sent message

theorem told_iff : Told lib ch payload responses ↔ ((attemptsOf lib ch responses).2.2 = "" ↔
    Succeeded lib ch (responses (attemptsOf lib ch responses).1)) := by
  by_cases sent : (attemptsOf lib ch responses).2.2 = "" <;>
    simp [Told, sendNotification, sent, logRow]

structure FirstAnswer (responses : Nat → Response) (attempt status : Nat) : Prop where
  made : 1 ≤ attempt ∧ attempt ≤ maxRetries
  answered : responses attempt = .answered status
  failed : ∀ i, 1 ≤ i → i < attempt → ∃ error, responses i = .failed error

/-- The last attempt of a slack channel is the first that is answered. -/
theorem slack_last_iff (usable : Usable lib ch) (slack : ch.type = "slack") {status : Nat} :
    responses (attemptsOf lib ch responses).1 = .answered status ↔
      ∃ attempt, FirstAnswer responses attempt status := by
  have ended := attempts_ended lib ch responses
  have sent (i : Nat) : (∃ status, responses i = .answered status) ↔
      (sendOnce lib ch (responses i)).2 = "" := by
    rcases send_spec lib ch (responses i) with ⟨status, answered, shape⟩ | ⟨none, _, message⟩
    · exact iff_of_true ⟨status, answered.2⟩ (by simp [shape, slack])
    · exact iff_of_false (fun ⟨status, same⟩ => none status ⟨usable, same⟩) message
  constructor
  · intro answered
    refine ⟨_, ended.range, answered, fun i low high => ?_⟩
    have message := (ended.retried i low high).1
    cases same : responses i with
    | failed error => exact ⟨error, rfl⟩
    | answered other => exact absurd ((sent i).mp ⟨other, same⟩) message
  · rintro ⟨attempt, made, answered, failed⟩
    have quiet := (sent attempt).mp ⟨status, answered⟩
    have upper : ¬ attempt < (attemptsOf lib ch responses).1 :=
      fun before => (ended.retried attempt made.1 before).1 quiet
    have lower : ¬ (attemptsOf lib ch responses).1 < attempt := by
      intro before
      obtain ⟨error, lost⟩ := failed _ ended.range.1 before
      rcases send_spec lib ch (responses (attemptsOf lib ch responses).1) with
        ⟨other, same, -⟩ | ⟨-, code, message⟩
      · cases lost.symm.trans same.2
      · rcases ended.stops with none | final | all
        · exact message (ended.outcome ▸ none)
        · rw [ended.outcome, code] at final
          cases final
        · have most := made.2
          omega
    rw [Nat.le_antisymm (Nat.le_of_not_lt upper) (Nat.le_of_not_lt lower)]
    exact answered

theorem truthful_usable (truthful : Truthful lib ch payload responses) : Usable lib ch := by
  by_contra usable
  have ended := attempts_ended lib ch responses
  -- every attempt looks like a network error, so a second one follows
  have error : ∀ i, (sendOnce lib ch (responses i)).1 = 0 ∧
      (sendOnce lib ch (responses i)).2 ≠ "" := by
    intro i
    rcases send_spec lib ch (responses i) with ⟨status, answered, -⟩ | ⟨-, error⟩
    · exact absurd answered.1 usable
    · exact error
  have all : (attemptsOf lib ch responses).1 = maxRetries := by
    rcases ended.stops with none | final | all
    · exact absurd (ended.outcome ▸ none) (error _).2
    · rw [ended.outcome, (error _).1] at final
      cases final
    · exact all
  exact (truthful.earlier 1 (by decide) (by rw [all]; decide)).2 (.inl usable)

/-- The records of a delivery are truthful exactly when the channel can be sent to and
the first answer of a slack endpoint is no error. -/
theorem records_truthful_iff (lib : GoLibrary) (ch : Channel) (payload : Payload)
    (responses : Nat → Response) :
    Truthful lib ch payload responses ↔ Usable lib ch ∧ (ch.type = "slack" →
      ∀ attempt status, FirstAnswer responses attempt status → status < 400) := by
  have ended := attempts_ended lib ch responses
  have outcome := ended.outcome
  constructor
  · intro truthful
    have usable := truthful_usable truthful
    refine ⟨usable, fun slack attempt status first => ?_⟩
    have answered := (slack_last_iff usable slack).mpr ⟨attempt, first⟩
    have quiet : (attemptsOf lib ch responses).2.2 = "" := by
      rw [outcome]
      rcases send_spec lib ch (responses (attemptsOf lib ch responses).1) with
        ⟨other, -, shape⟩ | ⟨none, -⟩
      · simp [shape, slack]
      · exact absurd ⟨usable, answered⟩ (none status)
    obtain ⟨other, same, small⟩ := (told_iff.mp truthful.told).mp quiet
    cases answered.symm.trans same.2
    exact small
  · rintro ⟨usable, small⟩
    have sent : (attemptsOf lib ch responses).2.2 = "" →
        Succeeded lib ch (responses (attemptsOf lib ch responses).1) := by
      intro quiet
      obtain ⟨status, answered, webhook⟩ := success_read (outcome ▸ quiet)
      obtain ⟨key, typed, -⟩ := id usable
      unfold urlKey at typed
      split_ifs at typed with hook slack
      · exact ⟨status, answered, webhook hook⟩
      · obtain ⟨attempt, first⟩ := (slack_last_iff usable slack).mp answered.2
        exact ⟨status, answered, small slack attempt status first⟩
    refine ⟨told_iff.mpr ⟨sent, fun done => ?_⟩, fun i low high => ?_, ?_⟩
    · by_contra message
      exact (error_read usable (outcome ▸ message)).1 done
    · obtain ⟨message, retried⟩ := ended.retried i low high
      have read := error_read usable message
      exact ⟨read.1, fun final => by simp [read.2.mp final] at retried⟩
    · by_cases quiet : (attemptsOf lib ch responses).2.2 = ""
      · exact .inl (sent quiet)
      · have read := error_read usable (outcome ▸ quiet)
        rcases ended.stops with none | final | all
        · exact absurd none quiet
        · exact .inr (.inl (read.2.mpr (outcome ▸ final)))
        · exact .inr (.inr all)

def sampleLibrary : GoLibrary where
  urlOf := fun _ config => .ok config
  newRequest := fun _ => none
  checkRequest := fun _ config =>
    if config = "hooks" then some "unsupported protocol scheme" else none

/-- An error of the slack endpoint is taken for a success, and neither an unsupported
type nor a URL without a scheme ends the attempts. -/
theorem slack_error_reported_sent :
    (sendNotification sampleLibrary ⟨1, "ops", "slack", "https://hooks"⟩ ⟨"json", "vm", "1", "error"⟩
      fun _ => .answered 500).1.map (·.status) = ["sent"] ∧
    (attemptsOf sampleLibrary ⟨2, "old", "pager", ""⟩ fun _ => .failed "").1 = 3 ∧
    (attemptsOf sampleLibrary ⟨3, "bare", "webhook", "hooks"⟩ fun _ => .failed "").1 = 3 := by
  decide +kernel

end VcStack.Notifications
