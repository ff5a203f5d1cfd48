import VcStack.PolicyValues
import VcStack.Runs

/-!
The idempotency middleware of pkg/idempotency/middleware.go over its
MemoryStore, for any number of concurrent requests. Every store method runs
under the store's mutex, so it is one step; between two steps of a request any
other request may move, and so may the clean-up goroutine. The wrapped handler
is arbitrary: it ends with some response or panics.
-/

namespace VcStack.Idempotency

open Text PolicyValues Runs

abbrev Headers := List (String × List String)

structure Entry where
  statusCode : Nat
  body : List UInt8
  headers : Headers
  createdAt : Int

structure MemoryStore where
  entries : String → Option Entry := fun _ => none
  processing : String → Bool := fun _ => false

def MemoryStore.get (store : MemoryStore) (key : String) : Option Entry := store.entries key

def MemoryStore.set (store : MemoryStore) (key : String) (entry : Entry) : MemoryStore where
  entries := fun other => if other = key then some entry else store.entries other
  processing := fun other => if other = key then false else store.processing other

def MemoryStore.setProcessing (store : MemoryStore) (key : String) : Bool × MemoryStore :=
  if store.processing key then (false, store)
  else (true, {store with
    processing := fun other => if other = key then true else store.processing other})

variable {key : String} {request : Nat} {now : Int} {phase : Phase} {next : State}

theorem acquired_iff_free {store : MemoryStore} :
    (store.setProcessing key).1 = true ↔ store.processing key = false := by
  unfold MemoryStore.setProcessing
  cases store.processing key <;> simp

def MemoryStore.clearProcessing (store : MemoryStore) (key : String) : MemoryStore :=
  {store with processing := fun other => if other = key then false else store.processing other}

def retention : Int := 24 * 3600 * 1000000000

def MemoryStore.cleanup (store : MemoryStore) (now : Int) : MemoryStore where
  entries := fun key =>
    (store.entries key).filter fun entry => ¬ now - entry.createdAt > retention
  processing := store.processing

structure Config where
  includePaths : List String := []

structure Request where
  method : String
  /-- the `Idempotency-Key` header -/
  idempotencyKey : String
  path : String
  /-- the `user_id` of the context; null when it is absent or nil -/
  userID : Json := .null

/-- `unicode.IsSpace` -/
def isSpace (char : Char) : Bool :=
  char.toNat ∈ [0x09, 0x0a, 0x0b, 0x0c, 0x0d, 0x20, 0x85, 0xa0, 0x1680, 0x2028, 0x2029, 0x202f,
    0x205f, 0x3000] || (0x2000 ≤ char.toNat && char.toNat ≤ 0x200a)

def trimSpace (text : String) : String := trim isSpace text

/-- `digest` is the hexadecimal SHA-256. A user that is not a string makes the
type assertion panic. -/
def buildKey (digest : String → String) (key path : String) : Json → Option String
  | .null => some (digest (key ++ "|" ++ path))
  | .str user => some (digest (key ++ "|" ++ path ++ "|" ++ trimSpace user))
  | _ => none

/-- The composite key a request is handled under, when it is intercepted. Other
requests go straight to the handler and never touch the store. -/
def compositeKey (digest : String → String) (config : Config) (request : Request) :
    Option String :=
  if request.method ≠ "POST" then none
  else
    let key := trimSpace request.idempotencyKey
    if key = "" then none
    else if config.includePaths ≠ [] ∧ ¬ config.includePaths.any (hasPrefix request.path) then none
    else buildKey digest key request.path request.userID

structure Response where
  statusCode : Nat := 200
  body : List UInt8 := []
  headers : Headers := []

inductive Reply where
  /-- the header assignments in their order, then the body -/
  | replay (statusCode : Nat) (headers : List (String × String)) (body : List UInt8)
  | conflict (error : String)
  | own (response : Response)

def cloneHeaders (headers : Headers) : Headers :=
  headers.filter fun header => hasPrefix header.1 "Content-" || header.1 == "X-Request-Id"

def replay (entry : Entry) : Reply :=
  .replay entry.statusCode
    (entry.headers.flatMap (fun header => header.2.map fun value => (header.1, value)) ++
      [("Idempotent-Replayed", "true")])
    entry.body

def succeeded (response : Response) : Bool :=
  200 ≤ response.statusCode && response.statusCode < 300

inductive Phase where
  | arrived
  /-- `Get` found nothing -/
  | missed
  | running
  | finished (response : Response)
  | answered (reply : Reply)
  /-- the handler panicked; the frames of the middleware were unwound -/
  | crashed

structure State where
  store : MemoryStore := {}
  phase : Nat → Phase := fun _ => .arrived

def State.enter (state : State) (request : Nat) (phase : Phase) : State :=
  {state with phase := fun other => if other = request then phase else state.phase other}

inductive Action where
  | get (request : Nat)
  | setProcessing (request : Nat)
  | handle (request : Nat) (response : Response)
  | panic (request : Nat)
  /-- `Set` after a success, `ClearProcessing` otherwise -/
  | settle (request : Nat) (now : Int)
  | cleanup (now : Int)

section Middleware

-- The composite key of every request, as `compositeKey` computes it.
variable (keyOf : Nat → Option String)

def step (state : State) : Action → Option State
  | .get request =>
    match keyOf request, state.phase request with
    | some key, .arrived =>
      match state.store.get key with
      | some entry => some (state.enter request (.answered (replay entry)))
      | none => some (state.enter request .missed)
    | _, _ => none
  | .setProcessing request =>
    match keyOf request, state.phase request with
    | some key, .missed =>
      let attempt := state.store.setProcessing key
      if attempt.1 then some ({state with store := attempt.2}.enter request .running)
      else some (state.enter request (.answered (.conflict
        "A request with the same Idempotency-Key is currently being processed")))
    | _, _ => none
  | .handle request response =>
    match state.phase request with
    | .running => some (state.enter request (.finished response))
    | _ => none
  | .panic request =>
    match state.phase request with
    -- The panic skips the rest of the middleware, so the marker stays set.
    | .running => some (state.enter request .crashed)
    | _ => none
  | .settle request now =>
    match keyOf request, state.phase request with
    | some key, .finished response =>
      -- `Set` stores the response and drops the marker in one critical section.
      let store :=
        if succeeded response then
          state.store.set key ⟨response.statusCode, response.body,
            cloneHeaders response.headers, now⟩
        else state.store.clearProcessing key
      some ({state with store := store}.enter request (.answered (.own response)))
    | _, _ => none
  | .cleanup now => some {state with store := state.store.cleanup now}

/-! The marker protocol: the requests of one key that are past `SetProcessing`
and not yet settled. -/

def Phase.Holding : Phase → Prop
  | .running => True
  | .finished _ => True
  | _ => False

structure Exclusive (holds : Nat → Prop) (store : MemoryStore) : Prop where
  marked : ∀ request key, keyOf request = some key → holds request → store.processing key = true
  alone : ∀ request other key, keyOf request = some key → keyOf other = some key →
    holds request → holds other → request = other
  cleared : ∀ request key, keyOf request = some key → store.entries key ≠ none → ¬ holds request

variable {keyOf} {holds after : Nat → Prop} {store : MemoryStore}

theorem exclusive_fewer (exclusive : Exclusive keyOf holds store)
    (fewer : ∀ request, after request → holds request) : Exclusive keyOf after store where
  marked request key keyed held := exclusive.marked request key keyed (fewer request held)
  alone request other key keyed otherKeyed held otherHeld :=
    exclusive.alone request other key keyed otherKeyed (fewer request held) (fewer other otherHeld)
  cleared request key keyed stored held := exclusive.cleared request key keyed stored (fewer request held)

theorem exclusive_acquire (exclusive : Exclusive keyOf holds store)
    (keyed : keyOf request = some key) (free : store.processing key = false)
    (empty : store.entries key = none)
    (joined : ∀ other, after other → other = request ∨ holds other) :
    Exclusive keyOf after (store.setProcessing key).2 := by
  have nobody : ∀ other, keyOf other = some key → ¬ holds other := by
    intro other otherKeyed held
    have marked := exclusive.marked other key otherKeyed held
    rw [free] at marked
    contradiction
  have only : ∀ other, keyOf other = some key → after other → other = request := by
    intro other otherKeyed held
    rcases joined other held with same | before
    · exact same
    · exact absurd before (nobody other otherKeyed)
  -- A request of another key was a holder before, with its marker untouched.
  have elsewhere : ∀ other mark, keyOf other = some mark → mark ≠ key → after other →
      holds other := by
    intro other mark otherKeyed different held
    rcases joined other held with same | before
    · subst other
      rw [keyed] at otherKeyed
      exact absurd (Option.some.inj otherKeyed).symm different
    · exact before
  simp only [MemoryStore.setProcessing, free, Bool.false_eq_true, if_false]
  constructor
  · intro other mark otherKeyed held
    by_cases same : mark = key
    · simp [same]
    · simpa [same] using
        exclusive.marked other mark otherKeyed (elsewhere other mark otherKeyed same held)
  · intro left right mark leftKeyed rightKeyed leftHeld rightHeld
    by_cases same : mark = key
    · subst mark
      rw [only left leftKeyed leftHeld, only right rightKeyed rightHeld]
    · exact exclusive.alone left right mark leftKeyed rightKeyed
        (elsewhere left mark leftKeyed same leftHeld) (elsewhere right mark rightKeyed same rightHeld)
  · intro other mark otherKeyed stored held
    by_cases same : mark = key
    · subst mark
      exact stored empty
    · exact exclusive.cleared other mark otherKeyed stored
        (elsewhere other mark otherKeyed same held)

theorem exclusive_settle (exclusive : Exclusive keyOf holds store)
    (keyed : keyOf request = some key) (held : holds request) {settled : MemoryStore}
    (processing : ∀ other, other ≠ key → settled.processing other = store.processing other)
    (entries : ∀ other, other ≠ key → settled.entries other = store.entries other)
    (left : ∀ other, after other → other ≠ request ∧ holds other) :
    Exclusive keyOf after settled := by
  have away : ∀ other mark, keyOf other = some mark → after other → mark ≠ key ∧ holds other := by
    intro other mark otherKeyed otherHeld
    obtain ⟨different, before⟩ := left other otherHeld
    refine ⟨?_, before⟩
    intro same
    subst mark
    exact different (exclusive.alone other request key otherKeyed keyed before held)
  constructor
  · intro other mark otherKeyed otherHeld
    obtain ⟨different, before⟩ := away other mark otherKeyed otherHeld
    rw [processing mark different]
    exact exclusive.marked other mark otherKeyed before
  · intro one two mark oneKeyed twoKeyed oneHeld twoHeld
    exact exclusive.alone one two mark oneKeyed twoKeyed (left one oneHeld).2 (left two twoHeld).2
  · intro other mark otherKeyed stored otherHeld
    obtain ⟨different, before⟩ := away other mark otherKeyed otherHeld
    rw [entries mark different] at stored
    exact exclusive.cleared other mark otherKeyed stored before

theorem exclusive_cleanup (exclusive : Exclusive keyOf holds store) :
    Exclusive keyOf holds (store.cleanup now) where
  marked := exclusive.marked
  alone := exclusive.alone
  cleared request key keyed stored := by
    refine exclusive.cleared request key keyed fun absent => stored ?_
    simp [MemoryStore.cleanup, absent]

variable (state : State) (action : Action)

theorem enter_phase {other : Nat} :
    (state.enter request phase).phase other =
      if other = request then phase else state.phase other := rfl

theorem entered_holding {other : Nat}
    (held : ((state.enter request phase).phase other).Holding) :
    (other = request ∧ phase.Holding) ∨ (other ≠ request ∧ (state.phase other).Holding) := by
  rw [enter_phase] at held
  by_cases same : other = request
  · rw [if_pos same] at held
    exact Or.inl ⟨same, held⟩
  · rw [if_neg same] at held
    exact Or.inr ⟨same, held⟩

def Sound (keyOf : Nat → Option String) (state : State) : Prop :=
  Exclusive keyOf (fun request => (state.phase request).Holding) state.store

theorem sound_enter (sound : Sound keyOf state)
    (noNewHolder : phase.Holding → (state.phase request).Holding) :
    Sound keyOf (state.enter request phase) := by
  refine exclusive_fewer sound fun other held => ?_
  rcases entered_holding state held with ⟨same, holding⟩ | ⟨_, before⟩
  · exact same ▸ noNewHolder holding
  · exact before

def AcquiresUnstored (keyOf : Nat → Option String) (state : State) : Action → Prop
  | .setProcessing request => ∀ key, keyOf request = some key → state.phase request = .missed →
      state.store.processing key = false → state.store.entries key = none
  | _ => True

def NoneRuns (keyOf : Nat → Option String) (state : State) : Prop :=
  ∀ key, state.store.entries key ≠ none →
    ∀ request, keyOf request = some key → state.phase request ≠ .running

theorem sound_none_runs (sound : Sound keyOf state) : NoneRuns keyOf state := by
  intro key stored request keyed running
  apply sound.cleared request key keyed stored
  rw [running]
  trivial

theorem set_processing_sound (sound : Sound keyOf state)
    (admitted : AcquiresUnstored keyOf state (.setProcessing request))
    (taken : step keyOf state (.setProcessing request) = some next) : Sound keyOf next := by
  simp only [step] at taken
  split at taken
  · rename_i key keyed missed
    split at taken
    · rename_i acquired
      cases taken
      have free := acquired_iff_free.mp acquired
      refine exclusive_acquire sound keyed free (admitted key keyed missed free) ?_
      intro other held
      rcases entered_holding _ held with ⟨same, _⟩ | ⟨_, before⟩
      · exact Or.inl same
      · exact Or.inr before
    · cases taken
      exact sound_enter state sound False.elim
  · contradiction

theorem settle_step
    (taken : step keyOf state (.settle request now) = some next) :
    ∃ key response, keyOf request = some key ∧ state.phase request = .finished response ∧
      (∀ other, (next.phase other).Holding ↔ other ≠ request ∧ (state.phase other).Holding) ∧
      (∀ mark, next.store.processing mark =
        if mark = key then false else state.store.processing mark) ∧
      ∀ mark, next.store.entries mark =
        if mark = key ∧ succeeded response = true then
          some ⟨response.statusCode, response.body, cloneHeaders response.headers, now⟩
        else state.store.entries mark := by
  simp only [step] at taken
  split at taken
  · rename_i key response keyed finished
    cases taken
    refine ⟨key, response, keyed, finished, ?_, ?_, ?_⟩
    · intro other
      by_cases same : other = request
      · simp [enter_phase, same, Phase.Holding]
      · simp [enter_phase, same]
    · intro mark
      cases succeeded response <;> rfl
    · intro mark
      cases succeeds : succeeded response with
      | false => simp [State.enter, MemoryStore.clearProcessing]
      | true => simp [State.enter, MemoryStore.set]
  · contradiction

theorem settle_sound (sound : Sound keyOf state)
    (taken : step keyOf state (.settle request now) = some next) : Sound keyOf next := by
  obtain ⟨key, response, keyed, finished, holding, processing, entries⟩ := settle_step state taken
  have held : (state.phase request).Holding := by
    rw [finished]
    trivial
  refine exclusive_settle sound keyed held ?_ ?_ fun other => (holding other).mp
  · intro other different
    rw [processing, if_neg different]
  · intro other different
    rw [entries, if_neg (fun both => different both.1)]

theorem step_sound (next : State) (sound : Sound keyOf state)
    (admitted : AcquiresUnstored keyOf state action) (taken : step keyOf state action = some next) :
    Sound keyOf next := by
  cases action with
  | get request =>
    simp only [step] at taken
    split at taken
    · split at taken <;> cases taken <;> exact sound_enter state sound False.elim
    · contradiction
  | setProcessing request =>
    exact set_processing_sound state sound admitted taken
  | handle request response =>
    simp only [step] at taken
    split at taken
    · rename_i running
      cases taken
      refine sound_enter state sound fun _ => ?_
      rw [running]
      trivial
    · contradiction
  | panic request =>
    simp only [step] at taken
    split at taken
    · cases taken
      exact sound_enter state sound False.elim
    · contradiction
  | settle request now =>
    exact settle_sound state sound taken
  | cleanup now =>
    cases taken
    exact exclusive_cleanup sound

theorem initial_sound : Sound keyOf {} where
  marked _ _ _ held := held.elim
  alone _ _ _ _ _ held := held.elim
  cleared _ _ _ stored := absurd rfl stored

/-- A request that missed the store before a response was stored still finds
the marker free afterwards and runs the handler again. -/
theorem late_acquire_runs (late : ¬ AcquiresUnstored keyOf state action) :
    ∃ next, step keyOf state action = some next ∧ ¬ NoneRuns keyOf next := by
  cases action with
  | setProcessing request =>
    simp only [AcquiresUnstored, not_forall] at late
    obtain ⟨key, keyed, missed, free, stored⟩ := late
    refine ⟨_, by simp [step, keyed, missed, MemoryStore.setProcessing, free]; rfl, ?_⟩
    intro noneRuns
    exact noneRuns key stored request keyed (by simp [State.enter])
  | _ => exact absurd trivial late

/-- In a run of any number of requests no handler runs for a key while its
response is stored, in every state reached, exactly when every `SetProcessing`
call that succeeds is made while no response is stored. -/
theorem stored_response_final_iff (actions : List Action) :
    Always (step keyOf) (NoneRuns keyOf) {} actions ↔
      Guarded (step keyOf) (AcquiresUnstored keyOf) {} actions :=
  always_iff_guarded (Sound keyOf) (NoneRuns keyOf) sound_none_runs
    step_sound (fun state action _ late => late_acquire_runs state action late) actions {}
    initial_sound

/-- A key that no request holds is free, so that a request with that key is
answered with a stored success or runs the handler. -/
def Retryable (keyOf : Nat → Option String) (state : State) : Prop :=
  ∀ key, (∀ request, keyOf request = some key → ¬ (state.phase request).Holding) →
    state.store.processing key = false ∧
    ∀ request, keyOf request = some key →
      (state.phase request = .arrived → ∃ next, step keyOf state (.get request) = some next ∧
        (next.phase request = .missed ∨ ∃ entry, next.phase request = .answered (replay entry) ∧
          200 ≤ entry.statusCode ∧ entry.statusCode < 300)) ∧
      (state.phase request = .missed → ∃ next,
        step keyOf state (.setProcessing request) = some next ∧ next.phase request = .running)

def Calm (state : State) : Action → Prop
  | .panic request => state.phase request ≠ .running
  | _ => True

def MemoryStore.markers (store : MemoryStore) : MemoryStore := {processing := store.processing}

structure Owned (keyOf : Nat → Option String) (state : State) : Prop where
  exclusive : Exclusive keyOf (fun request => (state.phase request).Holding) state.store.markers
  keyed : ∀ request, (state.phase request).Holding → keyOf request ≠ none
  owned : ∀ key, state.store.processing key = true →
    ∃ request, keyOf request = some key ∧ (state.phase request).Holding
  stored : ∀ key entry, state.store.entries key = some entry →
    200 ≤ entry.statusCode ∧ entry.statusCode < 300

theorem owned_retryable (owned : Owned keyOf state) : Retryable keyOf state := by
  intro key idle
  have free : state.store.processing key = false := by
    rw [← Bool.not_eq_true]
    intro marked
    obtain ⟨request, keyed, held⟩ := owned.owned key marked
    exact idle request keyed held
  refine ⟨free, fun request keyed => ⟨fun arrived => ?_, fun missed => ?_⟩⟩
  · cases found : state.store.get key with
    | none =>
      refine ⟨state.enter request .missed, by simp only [step, keyed, arrived, found], Or.inl ?_⟩
      simp [enter_phase]
    | some entry =>
      refine ⟨state.enter request (.answered (replay entry)),
        by simp only [step, keyed, arrived, found], Or.inr ⟨entry, ?_, ?_⟩⟩
      · simp [enter_phase]
      · exact owned.stored key entry found
  · refine ⟨_, by simp [step, keyed, missed, MemoryStore.setProcessing, free]; rfl, ?_⟩
    simp [State.enter]

theorem owned_enter (owned : Owned keyOf state)
    (same : phase.Holding ↔ (state.phase request).Holding) :
    Owned keyOf (state.enter request phase) := by
  have holding : ∀ other, ((state.enter request phase).phase other).Holding ↔
      (state.phase other).Holding := by
    intro other
    rw [enter_phase]
    split_ifs with own
    · rw [own]
      exact same
    · rfl
  constructor
  · exact exclusive_fewer owned.exclusive fun other held => (holding other).mp held
  · exact fun other held => owned.keyed other ((holding other).mp held)
  · intro key marked
    obtain ⟨other, keyed, held⟩ := owned.owned key marked
    exact ⟨other, keyed, (holding other).mpr held⟩
  · exact owned.stored

theorem set_processing_owned (owned : Owned keyOf state)
    (taken : step keyOf state (.setProcessing request) = some next) : Owned keyOf next := by
  simp only [step] at taken
  split at taken
  · rename_i key keyed missed
    have waiting : ¬ (state.phase request).Holding := by
      rw [missed]
      exact not_false
    split at taken
    · rename_i acquired
      cases taken
      have free := acquired_iff_free.mp acquired
      have markers : ((state.store.setProcessing key).2).markers =
          (state.store.markers.setProcessing key).2 := by
        simp [MemoryStore.setProcessing, MemoryStore.markers, free]
      constructor
      · change Exclusive keyOf _ ((state.store.setProcessing key).2).markers
        rw [markers]
        refine exclusive_acquire owned.exclusive keyed free rfl fun other held => ?_
        rcases entered_holding _ held with ⟨same, _⟩ | ⟨_, before⟩
        · exact Or.inl same
        · exact Or.inr before
      · intro other held
        rcases entered_holding _ held with ⟨rfl, _⟩ | ⟨_, before⟩
        · simp [keyed]
        · exact owned.keyed other before
      · intro mark marked
        by_cases same : mark = key
        · subst mark
          exact ⟨request, keyed, by simp [State.enter, Phase.Holding]⟩
        · have before : state.store.processing mark = true := by
            simpa [State.enter, MemoryStore.setProcessing, free, same] using marked
          obtain ⟨other, otherKeyed, held⟩ := owned.owned mark before
          have different : other ≠ request := by
            rintro rfl
            exact waiting held
          exact ⟨other, otherKeyed, by simpa [State.enter, different] using held⟩
      · intro mark entry found
        refine owned.stored mark entry ?_
        simpa [State.enter, MemoryStore.setProcessing, free] using found
    · cases taken
      exact owned_enter state owned (iff_of_false not_false waiting)
  · contradiction

theorem settle_owned (owned : Owned keyOf state)
    (taken : step keyOf state (.settle request now) = some next) : Owned keyOf next := by
  obtain ⟨key, response, keyed, finished, holding, processing, entries⟩ := settle_step state taken
  have held : (state.phase request).Holding := by
    rw [finished]
    trivial
  constructor
  · refine exclusive_settle owned.exclusive keyed held ?_ (fun _ _ => rfl)
      fun other => (holding other).mp
    intro other different
    exact (processing other).trans (if_neg different)
  · intro other otherHeld
    exact owned.keyed other ((holding other).mp otherHeld).2
  · intro mark marked
    rw [processing] at marked
    split_ifs at marked with different
    obtain ⟨other, otherKeyed, otherHeld⟩ := owned.owned mark marked
    have others : other ≠ request := by
      rintro rfl
      rw [keyed] at otherKeyed
      exact different (Option.some.inj otherKeyed).symm
    exact ⟨other, otherKeyed, (holding other).mpr ⟨others, otherHeld⟩⟩
  · intro mark entry found
    rw [entries] at found
    split_ifs at found with own
    · cases found
      simpa [succeeded] using own.2
    · exact owned.stored mark entry found

theorem step_owned (next : State) (owned : Owned keyOf state) (calm : Calm state action)
    (taken : step keyOf state action = some next) :
    Owned keyOf next := by
  cases action with
  | get request =>
    simp only [step] at taken
    split at taken
    · rename_i arrived
      have waiting : ¬ (state.phase request).Holding := by
        rw [arrived]
        exact not_false
      split at taken <;> cases taken <;>
        exact owned_enter state owned (iff_of_false not_false waiting)
    · contradiction
  | setProcessing request => exact set_processing_owned state owned taken
  | handle request response =>
    simp only [step] at taken
    split at taken
    · rename_i running
      cases taken
      refine owned_enter state owned (iff_of_true trivial ?_)
      rw [running]
      trivial
    · contradiction
  | panic request =>
    simp only [step] at taken
    split at taken
    · rename_i running
      exact absurd running calm
    · contradiction
  | settle request now => exact settle_owned state owned taken
  | cleanup now =>
    cases taken
    refine ⟨owned.exclusive, owned.keyed, owned.owned, fun key entry found => ?_⟩
    exact owned.stored key entry (Option.eq_some_of_filter_eq_some found)

theorem initial_owned : Owned keyOf {} where
  exclusive := initial_sound
  keyed _ held := held.elim
  owned _ marked := by cases marked
  stored _ _ found := by cases found

theorem panic_blocks (owned : Owned keyOf state) (panics : ¬ Calm state action) :
    ∃ next, step keyOf state action = some next ∧ ¬ Retryable keyOf next := by
  cases action with
  | panic request =>
    have reached : state.phase request = .running := not_not.mp panics
    have held : (state.phase request).Holding := by
      rw [reached]
      trivial
    obtain ⟨key, keyed⟩ := Option.ne_none_iff_exists'.mp (owned.keyed request held)
    refine ⟨state.enter request .crashed, by simp only [step, reached], fun retryable => ?_⟩
    have free := (retryable key fun other otherKeyed otherHeld => ?_).1
    · have marked := owned.exclusive.marked request key keyed held
      rw [show state.store.markers.processing key = false from free] at marked
      contradiction
    · rcases entered_holding _ otherHeld with ⟨_, none⟩ | ⟨different, before⟩
      · exact none
      · exact different (owned.exclusive.alone other request key otherKeyed keyed before held)
  | _ => exact absurd trivial panics

/-- In a run of any number of requests every key that no request holds can be
retried, in every state reached, exactly when no handler panics. -/
theorem retryable_iff_calm (actions : List Action) :
    Always (step keyOf) (Retryable keyOf) {} actions ↔ Guarded (step keyOf) Calm {} actions :=
  always_iff_guarded (Owned keyOf) (Retryable keyOf) owned_retryable step_owned
    panic_blocks actions {} initial_owned

end Middleware

def createVolume : Request where
  method := "POST"
  idempotencyKey := "order-1"
  path := "/api/v1/volumes"
  userID := .str "7"

def volumeKey : String := "7d26001fe9f5d0f36483fea0e586e557b9bcb5a1a9c054d036e7863da0d16ed1"

def volumeDigest (text : String) : String :=
  if text = "order-1|/api/v1/volumes|7" then volumeKey else ""

/-- Two requests of one client with one key: the second looks the key up before
the first has stored its response and takes the marker afterwards. -/
theorem second_request_reruns :
    compositeKey volumeDigest {} createVolume = some volumeKey ∧
      ∃ final, run (step fun _ => compositeKey volumeDigest {} createVolume) {}
          [.get 0, .get 1, .setProcessing 0, .handle 0 {statusCode := 201}, .settle 0 0,
            .setProcessing 1] = some final ∧
        (final.store.entries volumeKey).isSome = true ∧ final.phase 1 = .running :=
  ⟨by decide, _, rfl, by decide, rfl⟩

/-- The first request panics, and the client's retry is refused although no
request is under way. -/
theorem retry_refused_after_panic :
    ∃ final, run (step fun _ => compositeKey volumeDigest {} createVolume) {}
        [.get 0, .setProcessing 0, .panic 0, .get 1, .setProcessing 1] = some final ∧
      (∀ request, ¬ (final.phase request).Holding) ∧
      final.store.processing volumeKey = true ∧
      final.phase 1 = .answered (.conflict
        "A request with the same Idempotency-Key is currently being processed") := by
  refine ⟨_, rfl, ?_, by decide, rfl⟩
  intro request
  match request with
  | 0 => exact not_false
  | 1 => exact not_false
  | _ + 2 => exact not_false

end VcStack.Idempotency
