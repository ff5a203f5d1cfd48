import VcStack.Histories
import VcStack.Runs

/-!
The consumer loop of pkg/mq: Subscribe fetches a message, hands it to the handler
until an attempt succeeds or none are left, sends it to the dead-letter topic if
that is enabled, and commits its offset. What the handler, the publication and
the commit answer is part of the delivery. Logging and the pauses between two
attempts are left out.
-/

namespace VcStack.MessageBus

open Histories Runs

structure KafkaConfig where
  brokers : List String
  maxRetries : Int := 0
  dlqTopic : String := ""
  dlqEnabled : Bool := false

def newKafkaBus (cfg : KafkaConfig) (dialed : Except String Unit) : Except String KafkaConfig :=
  if cfg.brokers = [] then .error "mq: at least one Kafka broker is required"
  else
  match dialed with
  | .error reason => .error ("mq: kafka dial failed: " ++ reason)
  | .ok _ => .ok {cfg with
      maxRetries := if cfg.maxRetries = 0 then 3 else cfg.maxRetries
      dlqTopic := if cfg.dlqTopic = "" then "vc.system.dlq" else cfg.dlqTopic }

structure KafkaMessage where
  topic : String
  partitionID : Nat := 0
  offset : Int
  key : String := ""
  value : List UInt8 := []
  headers : List (String × String) := []

structure Message where
  topic : String
  key : String
  value : List UInt8
  headers : List (String × String)
  offset : Int := 0

def setHeader (headers : List (String × String)) (name value : String) : List (String × String) :=
  headers.filter (fun header => header.1 != name) ++ [(name, value)]

def receive (km : KafkaMessage) : Message where
  topic := km.topic
  key := km.key
  value := km.value
  headers := km.headers.foldl (fun headers header => setHeader headers header.1 header.2) []
  offset := km.offset

def deadLetter (cfg : KafkaConfig) (topic : String) (msg : Message) (error timestamp : String) :
    Message where
  topic := cfg.dlqTopic
  key := msg.key
  value := msg.value
  headers := setHeader (setHeader (setHeader msg.headers "dlq_original_topic" topic)
    "dlq_error" error) "dlq_timestamp" timestamp

structure Delivery where
  message : KafkaMessage
  handler : Nat → Option String
  timestamp : String := ""
  /-- the error of the publication to the dead-letter topic -/
  publish : Option String := none
  commit : Option String := none

inductive Event where
  | handled (message : KafkaMessage) (error : Option String)
  | published (message : KafkaMessage) (letter : Message) (error : Option String)
  | committed (message : KafkaMessage) (error : Option String)

def retry (handler : Nat → Option String) :
    Nat → Nat → Option String → List (Option String) × Option String
  | 0, _, lastErr => ([], lastErr)
  | remaining + 1, attempt, _ =>
    match handler attempt with
    | none => ([none], none)
    | some error =>
      let later := retry handler remaining (attempt + 1) (some error)
      (some error :: later.1, later.2)

def sendDeadLetter (cfg : KafkaConfig) (topic : String) (delivery : Delivery) :
    Option String → List Event
  | none => []
  | some lastErr =>
    if cfg.dlqEnabled then
      [.published delivery.message
        (deadLetter cfg topic (receive delivery.message) lastErr delivery.timestamp)
        delivery.publish]
    else []

def attend (cfg : KafkaConfig) (topic : String) (delivery : Delivery) : List Event :=
  let attempts := retry delivery.handler cfg.maxRetries.toNat 1 none
  attempts.1.map (.handled delivery.message) ++ sendDeadLetter cfg topic delivery attempts.2

inductive Fetched where
  | message (delivery : Delivery)
  | failed (error : String)
  | cancelled

structure Consumer where
  history : List Event := []
  stopped : Bool := false

variable {delivery : Delivery}

section Subscribe

variable (cfg : KafkaConfig) (topic : String)

def subscribe (consumer : Consumer) (fetched : Fetched) : Option Consumer :=
  if consumer.stopped then none
  else
  match fetched with
  | .failed _ => some consumer
  | .cancelled => some {consumer with stopped := true}
  | .message delivery =>
    -- The commit does not depend on what was done with the message.
    some {consumer with history := consumer.history ++ attend cfg topic delivery ++
      [.committed delivery.message delivery.commit]}

def Settles (message : KafkaMessage) : Event → Prop
  | .handled other error => other = message ∧ error = none
  | .published other _ error => other = message ∧ error = none
  | .committed _ _ => False

def Settled (history : List Event) (message : KafkaMessage) : Prop :=
  ∃ event ∈ history, Settles message event

def Delivered (history : List Event) (message : KafkaMessage) : Prop :=
  ∃ error, .committed message error ∈ history

def Behind (message other : KafkaMessage) : Prop :=
  other.topic = message.topic ∧ other.partitionID = message.partitionID ∧
    other.offset < message.offset

/-- A commit stands for every offset of the partition up to its own. -/
def Relies (before : List Event) : Event → Prop
  | .committed message error => error = none → Settled before message ∧
      ∀ other, Delivered before other → Behind message other → Settled before other
  | _ => True

def NothingLost (consumer : Consumer) : Prop := Each Relies consumer.history

/-- One of the attempts succeeds, or there is one and the dead-letter topic takes
the message. -/
def Resolves (delivery : Delivery) : Prop :=
  (∃ attempt : Nat, 1 ≤ attempt ∧ attempt ≤ cfg.maxRetries ∧ delivery.handler attempt = none) ∨
    1 ≤ cfg.maxRetries ∧ cfg.dlqEnabled = true ∧ delivery.publish = none

/-- A message whose commit succeeds has been settled before, or is resolved, and
all that was fetched ahead of it in its partition has been settled before. -/
def FetchesResolved (consumer : Consumer) : Fetched → Prop
  | .message delivery => consumer.stopped = false → delivery.commit = none →
      (Settled consumer.history delivery.message ∨ Resolves cfg delivery) ∧
        ∀ other, Delivered consumer.history other → Behind delivery.message other →
          Settled consumer.history other
  | _ => True

theorem retry_outcomes {handler : Nat → Option String} {remaining : Nat} (attempt : Nat)
    (lastErr : Option String) :
    (none ∈ (retry handler remaining attempt lastErr).1 ↔
        ∃ number, attempt ≤ number ∧ number < attempt + remaining ∧ handler number = none) ∧
      ((retry handler remaining attempt lastErr).2 = none ↔
        none ∈ (retry handler remaining attempt lastErr).1 ∨ remaining = 0 ∧ lastErr = none) := by
  induction remaining generalizing attempt lastErr with
  | zero =>
    simp only [retry, List.not_mem_nil, Nat.add_zero, false_iff, true_and, false_or, iff_self,
      and_true]
    rintro ⟨number, low, high, _⟩
    omega
  | succ remaining ih =>
    cases answer : handler attempt with
    | none =>
      simp only [retry, answer, List.mem_singleton, true_or, true_iff, and_true]
      exact ⟨attempt, Nat.le_refl _, by omega, answer⟩
    | some error =>
      obtain ⟨accepted, last⟩ := ih (attempt + 1) (some error)
      simp only [retry, answer, List.mem_cons, reduceCtorEq, false_or, and_false, or_false,
        Nat.add_eq_zero_iff, Nat.one_ne_zero, false_and] at last ⊢
      refine ⟨accepted.trans ?_, last⟩
      constructor
      · rintro ⟨number, low, high, success⟩
        exact ⟨number, by omega, by omega, success⟩
      · rintro ⟨number, low, high, success⟩
        refine ⟨number, ?_, by omega, success⟩
        apply Nat.lt_of_le_of_ne low
        rintro rfl
        rw [answer] at success
        contradiction

theorem settled_append {front back : List Event} {message : KafkaMessage} :
    Settled (front ++ back) message ↔ Settled front message ∨ Settled back message := by
  simp only [Settled, List.mem_append, or_and_right, exists_or]

theorem handled_settles_iff {outcomes : List (Option String)} {message : KafkaMessage} :
    Settled (outcomes.map (.handled message)) message ↔ none ∈ outcomes := by
  constructor
  · rintro ⟨event, member, settles⟩
    obtain ⟨error, listed, rfl⟩ := List.mem_map.mp member
    rw [← settles.2]
    exact listed
  · intro accepted
    exact ⟨_, List.mem_map_of_mem accepted, rfl, rfl⟩

theorem letter_settles_iff {lastErr : Option String} :
    Settled (sendDeadLetter cfg topic delivery lastErr) delivery.message ↔
      lastErr ≠ none ∧ cfg.dlqEnabled = true ∧ delivery.publish = none := by
  cases lastErr with
  | none => simp [sendDeadLetter, Settled]
  | some error =>
    cases enabled : cfg.dlqEnabled with
    | false => simp [sendDeadLetter, Settled, enabled]
    | true => simp [sendDeadLetter, Settled, Settles, enabled]

theorem attended_settles_iff :
    Settled (attend cfg topic delivery) delivery.message ↔ Resolves cfg delivery := by
  obtain ⟨accepted, last⟩ := retry_outcomes 1 none
  unfold attend
  rw [settled_append, handled_settles_iff, letter_settles_iff, ne_eq, last, accepted]
  have attempts : (∃ number, 1 ≤ number ∧ number < 1 + cfg.maxRetries.toNat ∧
      delivery.handler number = none) ↔
      ∃ attempt : Nat, 1 ≤ attempt ∧ attempt ≤ cfg.maxRetries ∧ delivery.handler attempt = none := by
    refine exists_congr fun number => and_congr_right fun _ => and_congr_left fun _ => ?_
    omega
  have some_attempt : ¬ (cfg.maxRetries.toNat = 0 ∧ (none : Option String) = none) ↔
      1 ≤ cfg.maxRetries := by
    rw [and_iff_left rfl]
    omega
  rw [attempts, not_or, some_attempt]
  unfold Resolves
  by_cases succeeds : ∃ attempt : Nat, 1 ≤ attempt ∧ attempt ≤ cfg.maxRetries ∧
      delivery.handler attempt = none
  · exact iff_of_true (.inl succeeds) (.inl succeeds)
  · rw [or_iff_right succeeds, or_iff_right succeeds, and_iff_right succeeds]

theorem attended_own (delivery : Delivery) :
    ∀ event ∈ attend cfg topic delivery, (∀ before, Relies before event) ∧
      (∀ error other, event ≠ .committed other error) ∧
      ∀ other, Settles other event → delivery.message = other := by
  intro event member
  rcases List.mem_append.mp member with handled | sent
  · obtain ⟨error, _, rfl⟩ := List.mem_map.mp handled
    exact ⟨fun _ => trivial, by simp, fun _ => And.left⟩
  · unfold sendDeadLetter at sent
    split at sent
    · contradiction
    · split at sent
      · rw [List.mem_singleton.mp sent]
        exact ⟨fun _ => trivial, by simp, fun _ => And.left⟩
      · contradiction

/-- An attended delivery is about its own message. -/
theorem attended_fetched_iff {history : List Event} {other : KafkaMessage} :
    Delivered (history ++ attend cfg topic delivery) other ↔ Delivered history other := by
  refine exists_congr fun error => ?_
  rw [List.mem_append]
  refine or_iff_left fun attended => ?_
  exact (attended_own cfg topic delivery _ attended).2.1 error other rfl

theorem attended_behind_iff {history : List Event} {other : KafkaMessage}
    (behind : Behind delivery.message other) :
    Settled (history ++ attend cfg topic delivery) other ↔ Settled history other := by
  rw [settled_append]
  refine or_iff_left ?_
  rintro ⟨event, attended, settles⟩
  have same := (attended_own cfg topic delivery event attended).2.2 other settles
  exact absurd behind.2.2 (same ▸ Int.lt_irrefl _)

theorem delivered_safe_iff {history : List Event}
    (safe : Each Relies history) :
    Each Relies (history ++ attend cfg topic delivery ++
        [.committed delivery.message delivery.commit]) ↔
      (delivery.commit = none → (Settled history delivery.message ∨ Resolves cfg delivery) ∧
        ∀ other, Delivered history other → Behind delivery.message other →
          Settled history other) := by
  have attended := each_append history safe
    fun event member => (attended_own cfg topic delivery event member).1
  rw [each_snoc_iff, and_iff_right attended, Relies]
  refine imp_congr_right fun _ => and_congr ?_ ?_
  · rw [settled_append, attended_settles_iff]
  · refine forall_congr' fun other => ?_
    rw [attended_fetched_iff]
    exact imp_congr_right fun _ => forall_congr' fun behind =>
      attended_behind_iff cfg topic behind

/-- No message is lost along a run exactly when every message whose commit
succeeds is resolved and leaves none behind. -/
theorem no_message_lost_iff (rounds : List Fetched) :
    Always (subscribe cfg topic) NothingLost {} rounds ↔
      Guarded (subscribe cfg topic) (FetchesResolved cfg) {} rounds := by
  refine always_iff_guarded NothingLost NothingLost (fun _ safe => safe) ?_ ?_
    rounds {} each_nil
  · intro consumer fetched next safe resolved taken
    unfold subscribe at taken
    split at taken
    · contradiction
    · rename_i running
      cases fetched with
      | failed error =>
        cases taken
        exact safe
      | cancelled =>
        cases taken
        exact safe
      | message delivery =>
        cases taken
        exact (delivered_safe_iff cfg topic safe).mpr (resolved (Bool.not_eq_true _ ▸ running))
  · intro consumer fetched safe unresolved
    cases fetched with
    | failed error => exact absurd trivial unresolved
    | cancelled => exact absurd trivial unresolved
    | message delivery =>
      obtain ⟨running, lost⟩ := Classical.not_imp.mp unresolved
      refine ⟨_, by rw [subscribe, running]; rfl, fun kept => lost ?_⟩
      exact (delivered_safe_iff cfg topic safe).mp kept

end Subscribe

def defaultBus : KafkaConfig where
  brokers := ["kafka:9092"]
  maxRetries := 3
  dlqTopic := "vc.system.dlq"

def rejected (publish : Option String) : Delivery where
  message := {topic := "vc.compute.events", offset := 0}
  handler _ := some "handler failed"
  publish := publish

/-- A message that the handler rejects is committed and gone: by default, when the
dead-letter topic refuses it, and, without any attempt, with a negative number of
retries. -/
theorem rejected_message_committed :
    newKafkaBus {brokers := ["kafka:9092"]} (.ok ()) = .ok defaultBus ∧
      ¬ Always (subscribe defaultBus "vc.compute.events") NothingLost {}
        [.message (rejected none)] ∧
      ¬ Always (subscribe {defaultBus with dlqEnabled := true} "vc.compute.events") NothingLost {}
        [.message (rejected (some "publish failed"))] ∧
      ¬ Always (subscribe {defaultBus with dlqEnabled := true, maxRetries := -1}
        "vc.compute.events") NothingLost {} [.message (rejected none)] := by
  have lost (cfg : KafkaConfig) (publish : Option String)
      (unresolved : ¬ (1 ≤ cfg.maxRetries ∧ cfg.dlqEnabled = true ∧ publish = none)) :
      ¬ Always (subscribe cfg "vc.compute.events") NothingLost {} [.message (rejected publish)] := by
    rintro ⟨_, after⟩
    have kept : NothingLost _ := after _ rfl
    have fate := (delivered_safe_iff cfg "vc.compute.events" each_nil).mp kept rfl
    rcases fate.1 with ⟨event, member, _⟩ | ⟨_, _, _, success⟩ | resolved
    · contradiction
    · contradiction
    · exact unresolved resolved
  exact ⟨rfl, lost defaultBus none (by decide), lost _ _ (by decide), lost _ _ (by decide)⟩

end VcStack.MessageBus
