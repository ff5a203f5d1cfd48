import Mathlib.Algebra.Order.Group.Int
import Mathlib.Data.List.Infix
import VcStack.Idempotency
import VcStack.SliceSorts

/-!
Attribute-based policies: the row that a created policy becomes, and the scan
that decides a request by the first matching row of the smallest priority.
-/

namespace VcStack.AbacPolicies

open Idempotency (trimSpace)
open SliceSorts Text

structure Condition where
  key : String
  operator : String
  value : String
  deriving DecidableEq

/-- The JSON and quoting that the service uses. The text in the column of the conditions is read
by nothing else; a condition list survives being stored. -/
structure GoLibrary (Column : Type) where
  marshal : List Condition → Column
  unmarshal : Column → Option (List Condition)
  unmarshalStrings : String → Option (List String)
  quote : String → String
  stored : ∀ conditions, unmarshal (marshal conditions) = some conditions

structure ABACPolicy (Column : Type) where
  name : String
  effect : String
  resource : String
  actions : String
  conditions : Column
  priority : Int
  enabled : Bool
  deriving DecidableEq

/-- A lookup of an absent key in one of the maps gives the empty string. -/
structure EvalRequest where
  action : String
  resource : String
  resourceTags : String → String
  userAttrs : String → String
  requestCtx : String → String

structure EvalResult where
  allowed : Bool
  matchedPolicy : String := ""
  reason : String

structure PolicyInput where
  name : String
  effect : String
  resource : String
  actions : String
  conditions : List Condition
  priority : Int
  deriving DecidableEq

variable {Column : Type} (lib : GoLibrary Column)

/-- Create writes the column's default in place of a priority of zero. -/
def storedPriority (priority : Int) : Int := if priority = 0 then 100 else priority

def createdRow (input : PolicyInput) : ABACPolicy Column where
  name := input.name
  effect := input.effect
  resource := input.resource
  actions := input.actions
  conditions := lib.marshal input.conditions
  priority := storedPriority input.priority
  enabled := true

def createPolicy (input : PolicyInput) : Except String (ABACPolicy Column) :=
  if input.effect ≠ "allow" ∧ input.effect ≠ "deny" then .error "effect must be 'allow' or 'deny'"
  else .ok (createdRow lib input)

def matchResource (pattern resource : String) : Bool :=
  if pattern = "*" then true
  else if hasSuffix pattern ":*" then
    hasPrefix resource (String.ofList (pattern.toList.dropLast.dropLast) ++ ":")
  else pattern = resource

def matchAction (actions action : String) : Bool :=
  (actions.toList.splitOn ',').any fun chars =>
    let a := trimSpace (String.ofList chars)
    a = "*" || a = action

def resolveKey (key : String) (req : EvalRequest) : String :=
  match splitN '.' 3 key with
  | ["resource", "tags", tag] => req.resourceTags tag
  | "user" :: attr :: _ => req.userAttrs attr
  | "request" :: name :: _ => req.requestCtx name
  | _ => ""

def evalOp (op actual expected : String) : Bool :=
  match op with
  | "equals" => actual = expected
  | "not_equals" => actual ≠ expected
  | "starts_with" => hasPrefix actual expected
  | "contains" => expected.toList <:+: actual.toList
  | "in" => ((lib.unmarshalStrings expected).map (·.contains actual)).getD false
  | "not_in" => ((lib.unmarshalStrings expected).map (!·.contains actual)).getD true
  | _ => false

def evaluateConditions (conditions : List Condition) (req : EvalRequest) : Bool :=
  conditions.all fun c => evalOp lib c.operator (resolveKey c.key req) c.value

def rowMatches (req : EvalRequest) (p : ABACPolicy Column) : Bool :=
  matchResource p.resource req.resource && matchAction p.actions req.action &&
    ((lib.unmarshal p.conditions).map (evaluateConditions lib · req)).getD false

/-- `rows` are the enabled ones by ascending priority. -/
def evaluate (rows : List (ABACPolicy Column)) (req : EvalRequest) : EvalResult :=
  match rows.find? (rowMatches lib req) with
  | some p =>
    { allowed := p.effect = "allow"
      matchedPolicy := p.name
      reason := "matched policy " ++ lib.quote p.name ++ " (effect=" ++ p.effect ++ ", priority=" ++
        toString p.priority ++ ")" }
  | none => { allowed := true, reason := "no matching ABAC policy; default allow" }

structure Listing (table rows : List (ABACPolicy Column)) : Prop where
  perm : rows.Perm (table.filter (·.enabled))
  sorted : rows.Pairwise fun p q => p.priority ≤ q.priority

/-- The table after these creations, each with the state that TogglePolicy left it in. -/
def tableOf (policies : List (PolicyInput × Bool)) : List (ABACPolicy Column) :=
  policies.filterMap fun p =>
    (createPolicy lib p.1).toOption.map fun row => { row with enabled := p.2 }

def Applies (req : EvalRequest) (p : PolicyInput × Bool) : Prop :=
  (p.1.effect = "allow" ∨ p.1.effect = "deny") ∧ p.2 = true ∧
    matchResource p.1.resource req.resource = true ∧ matchAction p.1.actions req.action = true ∧
    evaluateConditions lib p.1.conditions req = true

def Intended (policies : List (PolicyInput × Bool)) (req : EvalRequest) : Prop :=
  ∀ p ∈ policies, Applies lib req p →
    (∀ q ∈ policies, Applies lib req q → p.1.priority ≤ q.1.priority) → p.1.effect = "allow"

structure First (policies : List (PolicyInput × Bool)) (req : EvalRequest)
    (p : PolicyInput × Bool) : Prop where
  listed : p ∈ policies
  applies : Applies lib req p
  least : ∀ q ∈ policies, Applies lib req q →
    storedPriority p.1.priority ≤ storedPriority q.1.priority

def ZeroLeast (policies : List (PolicyInput × Bool)) (req : EvalRequest) : Prop :=
  (∃ z ∈ policies, Applies lib req z ∧ z.1.priority = 0) ∧
    ∀ q ∈ policies, Applies lib req q → 0 ≤ q.1.priority

/-- The first policies do not differ in effect, and those that come before a smallest
priority of zero have the effect that the policies of priority zero ask for. -/
structure Clear (policies : List (PolicyInput × Bool)) (req : EvalRequest) : Prop where
  agree : ∀ p q, First lib policies req p → First lib policies req q →
    p.1.effect = "allow" → q.1.effect = "allow"
  zero : ZeroLeast lib policies req → ∀ p, First lib policies req p → p.1.priority ≠ 0 →
    (p.1.effect = "allow" ↔
      ∀ z ∈ policies, Applies lib req z → z.1.priority = 0 → z.1.effect = "allow")

variable {lib} {policies : List (PolicyInput × Bool)} {req : EvalRequest}
  {rows : List (ABACPolicy Column)}

theorem matching_row_iff {row : ABACPolicy Column} :
    row ∈ (tableOf lib policies).filter (·.enabled) ∧ rowMatches lib req row = true ↔
      ∃ p ∈ policies, Applies lib req p ∧ { createdRow lib p.1 with enabled := p.2 } = row := by
  have accepted (p : PolicyInput × Bool) : ¬ (p.1.effect ≠ "allow" ∧ p.1.effect ≠ "deny") ↔
      p.1.effect = "allow" ∨ p.1.effect = "deny" := by
    rw [not_and_or, not_ne_iff, not_ne_iff]
  have fits (p : PolicyInput × Bool) :
      rowMatches lib req { createdRow lib p.1 with enabled := p.2 } = true ↔
        matchResource p.1.resource req.resource = true ∧
          matchAction p.1.actions req.action = true ∧
          evaluateConditions lib p.1.conditions req = true := by
    simp [rowMatches, createdRow, lib.stored, and_assoc]
  constructor
  · rintro ⟨listed, hits⟩
    obtain ⟨present, enabled⟩ := List.mem_filter.mp listed
    obtain ⟨p, member, made⟩ := List.mem_filterMap.mp present
    by_cases refused : p.1.effect ≠ "allow" ∧ p.1.effect ≠ "deny"
    · rw [createPolicy, if_pos refused] at made
      cases made
    · rw [createPolicy, if_neg refused] at made
      cases made
      exact ⟨p, member, ⟨(accepted p).mp refused, enabled, (fits p).mp hits⟩, rfl⟩
  · rintro ⟨p, member, ⟨effect, enabled, matching⟩, rfl⟩
    refine ⟨List.mem_filter.mpr ⟨List.mem_filterMap.mpr ⟨p, member, ?_⟩, enabled⟩,
      (fits p).mpr matching⟩
    rw [createPolicy, if_neg ((accepted p).mpr effect)]
    rfl

theorem stored_cases (priority : Int) :
    priority = 0 ∧ storedPriority priority = 100 ∨
      priority ≠ 0 ∧ storedPriority priority = priority := by
  by_cases zero : priority = 0
  · exact Or.inl ⟨zero, if_pos zero⟩
  · exact Or.inr ⟨zero, if_neg zero⟩

theorem intended_zero_iff (zero : ZeroLeast lib policies req) :
    Intended lib policies req ↔
      ∀ z ∈ policies, Applies lib req z → z.1.priority = 0 → z.1.effect = "allow" := by
  obtain ⟨⟨least, listed, applies, none⟩, below⟩ := zero
  constructor
  · intro intended z member matching same
    apply intended z member matching
    rw [same]
    exact below
  · intro every p member matching smallest
    apply every p member matching
    have upper := smallest least listed applies
    have lower := below p member matching
    omega

theorem first_iff_smallest (other : ¬ ZeroLeast lib policies req) {p : PolicyInput × Bool}
    (member : p ∈ policies) (applies : Applies lib req p) :
    (∀ q ∈ policies, Applies lib req q →
        storedPriority p.1.priority ≤ storedPriority q.1.priority) ↔
      ∀ q ∈ policies, Applies lib req q → p.1.priority ≤ q.1.priority := by
  by_cases negative : ∃ n ∈ policies, Applies lib req n ∧ n.1.priority < 0
  · obtain ⟨n, present, matching, below⟩ := negative
    have cases := stored_cases p.1.priority
    have bottom := stored_cases n.1.priority
    constructor
    · intro first q listed fits
      have lowest := first n present matching
      have here := first q listed fits
      have there := stored_cases q.1.priority
      omega
    · intro smallest q listed fits
      have lowest := smallest n present matching
      have here := smallest q listed fits
      have there := stored_cases q.1.priority
      omega
  · -- Without a negative priority there is none of zero either.
    have nonzero (q : PolicyInput × Bool) (listed : q ∈ policies) (fits : Applies lib req q) :
        storedPriority q.1.priority = q.1.priority := by
      apply if_neg
      intro zero
      refine other ⟨⟨q, listed, fits, zero⟩, fun n present matching => ?_⟩
      by_contra below
      exact negative ⟨n, present, matching, by omega⟩
    refine forall_congr' fun q => forall_congr' fun listed => forall_congr' fun fits => ?_
    rw [nonzero p member applies, nonzero q listed fits]

theorem clear_iff :
    (∀ p, First lib policies req p → (p.1.effect = "allow" ↔ Intended lib policies req)) ↔
      Clear lib policies req := by
  constructor
  · intro each
    refine ⟨fun p q first other allows => (each q other).mpr ((each p first).mp allows), ?_⟩
    intro zero p first _
    rw [each p first, intended_zero_iff zero]
  · intro clear p first
    by_cases zero : ZeroLeast lib policies req
    · rw [intended_zero_iff zero]
      by_cases own : p.1.priority = 0
      · constructor
        · intro allows z member applies same
          refine clear.agree p z first ⟨member, applies, ?_⟩ allows
          rw [same, ← own]
          exact first.least
        · intro every
          exact every p first.listed first.applies own
      · exact clear.zero zero p first own
    · constructor
      · intro allows q member applies smallest
        exact clear.agree p q first
          ⟨member, applies, (first_iff_smallest zero member applies).mpr smallest⟩ allows
      · intro intended
        exact intended p first.listed first.applies
          ((first_iff_smallest zero first.listed first.applies).mp first.least)

/-- What an order of the table makes of a request is the effect of a first policy. -/
theorem evaluate_spec (listing : Listing (tableOf lib policies) rows) (req : EvalRequest) :
    (∃ p, First lib policies req p ∧
      (evaluate lib rows req).allowed = decide (p.1.effect = "allow")) ∨
    ((∀ p ∈ policies, ¬ Applies lib req p) ∧ (evaluate lib rows req).allowed = true) := by
  have present (q : PolicyInput × Bool) (member : q ∈ policies) (applies : Applies lib req q) :
      { createdRow lib q.1 with enabled := q.2 } ∈ rows ∧
        rowMatches lib req { createdRow lib q.1 with enabled := q.2 } = true := by
    obtain ⟨listed, hits⟩ := matching_row_iff.mpr ⟨q, member, applies, rfl⟩
    exact ⟨listing.perm.mem_iff.mpr listed, hits⟩
  unfold evaluate
  cases found : rows.find? (rowMatches lib req) with
  | none =>
    refine .inr ⟨fun p member applies => ?_, rfl⟩
    obtain ⟨listed, hits⟩ := present p member applies
    exact List.find?_eq_none.mp found _ listed hits
  | some row =>
    obtain ⟨hits, front, back, shape, misses⟩ := List.find?_eq_some_iff_append.mp found
    have listed : row ∈ rows := List.mem_of_find?_eq_some found
    obtain ⟨p, member, applies, rfl⟩ :=
      matching_row_iff.mp ⟨listing.perm.mem_iff.mp listed, hits⟩
    refine .inl ⟨p, ⟨member, applies, fun q other matching => ?_⟩, rfl⟩
    obtain ⟨inside, hit⟩ := present q other matching
    have sorted := shape ▸ listing.sorted
    rcases List.mem_append.mp (shape ▸ inside) with before | after
    · exact absurd hit (by simpa using misses _ before)
    · rcases List.mem_cons.mp after with same | later
      · exact le_of_eq (congrArg ABACPolicy.priority same).symm
      · exact (List.pairwise_cons.mp (List.pairwise_append.mp sorted).2.1).1 _ later

/-- Every first policy is the first match of some order. -/
theorem first_decides {p : PolicyInput × Bool} (first : First lib policies req p) :
    ∃ rows, Listing (tableOf lib policies) rows ∧
      (evaluate lib rows req).allowed = decide (p.1.effect = "allow") := by
  classical
  obtain ⟨listed, hits⟩ := matching_row_iff.mpr ⟨p, first.listed, first.applies, rfl⟩
  let row : ABACPolicy Column := { createdRow lib p.1 with enabled := p.2 }
  let less (q r : ABACPolicy Column) : Bool := q.priority < r.priority
  have weak : StrictWeak less := strict_weak_of_measure ABACPolicy.priority
  let rest := ((tableOf lib policies).filter (·.enabled)).erase row
  -- the rows before that of `p` are strictly smaller, so none of them matches
  let front := insertion less (rest.filter fun q => q.priority < row.priority)
  let back := insertion less (rest.filter fun q => !(q.priority < row.priority))
  have sorted : ∀ items, (insertion less items).Pairwise fun q r => q.priority ≤ r.priority :=
    fun items => (insertion_ordered less items weak).imp (by simp [less])
  have smaller : ∀ q ∈ front, q ∈ rest ∧ q.priority < row.priority := fun q member => by
    simpa using List.mem_filter.mp ((insertion_perm less _).mem_iff.mp member)
  have larger : ∀ q ∈ back, row.priority ≤ q.priority := fun q member => by
    simpa using (List.mem_filter.mp ((insertion_perm less _).mem_iff.mp member)).2
  refine ⟨front ++ row :: back, ⟨?_, ?_⟩, ?_⟩
  · have parts := (insertion_perm less _).append (insertion_perm less _) |>.trans
      (List.filter_append_perm (fun q : ABACPolicy Column => q.priority < row.priority) rest)
    exact (List.perm_middle.trans (parts.cons row)).trans (List.perm_cons_erase listed).symm
  · refine List.pairwise_append.mpr ⟨sorted _, List.pairwise_cons.mpr ⟨larger, sorted _⟩, ?_⟩
    intro q member r next
    rcases List.mem_cons.mp next with rfl | later
    · exact (smaller q member).2.le
    · exact (smaller q member).2.le.trans (larger r later)
  · have found : (front ++ row :: back).find? (rowMatches lib req) = some row := by
      refine List.find?_eq_some_iff_append.mpr ⟨hits, front, back, rfl, fun q member => ?_⟩
      obtain ⟨inside, below⟩ := smaller q member
      by_contra hit
      obtain ⟨other, present, matching, rfl⟩ :=
        matching_row_iff.mp ⟨List.mem_of_mem_erase inside, by simpa using hit⟩
      exact absurd (first.least other present matching) (not_le.mpr below)
    rw [evaluate, found]
    rfl

/-- Under every order of the rows the smallest requested priority decides, with deny
before allow, exactly when the policies are clear about the request. -/
theorem smallest_priority_decides_iff (lib : GoLibrary Column)
    (policies : List (PolicyInput × Bool)) (req : EvalRequest) :
    (∀ rows, Listing (tableOf lib policies) rows →
      ((evaluate lib rows req).allowed = true ↔ Intended lib policies req)) ↔
    Clear lib policies req := by
  rw [← clear_iff]
  constructor
  · intro every p first
    obtain ⟨rows, listing, allowed⟩ := first_decides first
    rw [← every rows listing, allowed, decide_eq_true_eq]
  · intro each rows listing
    rcases evaluate_spec listing req with ⟨p, first, allowed⟩ | ⟨none, allowed⟩
    · rw [allowed, decide_eq_true_eq, each p first]
    · exact iff_of_true allowed fun p member applies _ => absurd applies (none p member)

def sampleLibrary : GoLibrary (List Condition) where
  marshal := fun conditions => conditions
  unmarshal := some
  unmarshalStrings := fun _ => none
  quote := fun text => text
  stored := fun _ => rfl

def policy (effect : String) (priority : Int) : PolicyInput × Bool :=
  (⟨effect, effect, "*", "*", [], priority⟩, true)

def anyRequest : EvalRequest := ⟨"delete", "instance:1", fun _ => "", fun _ => "", fun _ => ""⟩

theorem zero_priority_overruled : ∃ rows,
    Listing (tableOf sampleLibrary [policy "deny" 0, policy "allow" 50]) rows ∧
    (evaluate sampleLibrary rows anyRequest).allowed = true ∧
    ¬ Intended sampleLibrary [policy "deny" 0, policy "allow" 50] anyRequest := by
  refine ⟨[createdRow sampleLibrary (policy "allow" 50).1,
    createdRow sampleLibrary (policy "deny" 0).1],
    ⟨by decide +kernel, by decide +kernel⟩, by decide +kernel, fun intended => ?_⟩
  have deny := intended (policy "deny" 0) (by simp) ⟨.inr rfl, rfl, by decide +kernel⟩
    (by simp [policy])
  exact absurd deny (by decide)

end VcStack.AbacPolicies
