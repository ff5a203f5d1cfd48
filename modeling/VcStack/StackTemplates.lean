import Mathlib.Data.List.Sort
import Mathlib.Data.String.Basic
import VcStack.DepthFirst
import VcStack.ExchangeSort

/-!
Dependencies between the resources of a stack template, from
internal/management/orchestration/handlers.go. A Go map is the list of its
entries with distinct keys; every range loop over it may take the entries in an
order of its own. Both recursions are depth-first traversals along DependsOn,
bounded by a depth that stands for the Go stack.
-/

namespace VcStack.StackTemplates

open DepthFirst
open scoped List

structure TemplateResource where
  type : String := ""
  dependsOn : List String := []

structure Resources where
  entries : List (String × TemplateResource)
  distinct : (entries.map Prod.fst).Nodup

structure Iteration (resources : Resources) where
  entries : List (String × TemplateResource)
  covers : entries.Perm resources.entries

namespace Resources

variable (resources : Resources)

def logicalIDs : List String := resources.entries.map Prod.fst

def exists_ (logicalID : String) : Bool := (resources.entries.lookup logicalID).isSome

/-- Indexing a missing key gives the zero value, which depends on nothing. -/
def dependsOn (logicalID : String) : List String :=
  ((resources.entries.lookup logicalID).getD {}).dependsOn

variable {resources}

theorem exists_iff (logicalID : String) :
    resources.exists_ logicalID = true ↔ logicalID ∈ resources.logicalIDs := by
  simp [exists_, logicalIDs]

theorem depends_on_entry (entry : String × TemplateResource)
    (member : entry ∈ resources.entries) : resources.dependsOn entry.1 = entry.2.dependsOn := by
  obtain ⟨before, after, shape⟩ := List.append_of_mem member
  have found : resources.entries.lookup entry.1 = some entry.2 := by
    apply List.lookup_eq_some_iff.mpr
    refine ⟨before, after, shape, fun earlier inside => ?_⟩
    have distinct := resources.distinct
    rw [shape, List.map_append, List.map_cons] at distinct
    have apart := (List.nodup_append.mp distinct).2.2 earlier.1 (List.mem_map_of_mem inside)
      entry.1 List.mem_cons_self
    simpa using Ne.symm apart
  simp [dependsOn, found]

theorem depending_listed (logicalID : String) (depends : resources.dependsOn logicalID ≠ []) :
    logicalID ∈ resources.logicalIDs := by
  apply (exists_iff logicalID).mp
  unfold exists_
  cases found : resources.entries.lookup logicalID with
  | none => exact absurd (by simp [dependsOn, found]) depends
  | some resource => rfl

theorem iteration_keys (iteration : Iteration resources) :
    (iteration.entries.map Prod.fst).Perm resources.logicalIDs :=
  iteration.covers.map Prod.fst

end Resources

inductive DependencyError where
  | undefined (logicalID dep : String)
  | circular (node : String)
  deriving DecidableEq

/-- `quote` is the verb `%q`. -/
def DependencyError.text (quote : String → String) : DependencyError → String
  | .undefined logicalID dep =>
    "resource " ++ quote logicalID ++ " depends on undefined resource " ++ quote dep
  | .circular node => "circular dependency detected involving " ++ quote node

variable {depth positions : Nat} {nodes : List String}

section Validation

variable (resources : Resources)

def firstUndefined (entries : List (String × TemplateResource)) : Option DependencyError :=
  entries.findSome? fun entry =>
    (entry.2.dependsOn.find? fun dep => !resources.exists_ dep).map (.undefined entry.1)

def dfs (depth : Nat) : Colours String → String → Answer String :=
  search resources.dependsOn depth

def detectCycles (depth : Nat) (nodes : List String) : Answer String :=
  sweep (fun visited node =>
    if visited node = .unvisited then dfs resources depth visited node else some (.ok visited))
    (fun _ => .unvisited) nodes

/-- `none` when the recursion runs out of depth; the error otherwise, with
`some none` for nil. -/
def validateDependencies (depth : Nat) (first second : Iteration resources) :
    Option (Option DependencyError) :=
  match firstUndefined resources first.entries with
  | some error => some (some error)
  | none =>
    (detectCycles resources depth (second.entries.map Prod.fst)).map fun
      | .error node => some (.circular node)
      | .ok _ => none

variable {resources}

def Resolved (resources : Resources) : Prop :=
  ∀ entry ∈ resources.entries, ∀ dep ∈ entry.2.dependsOn, dep ∈ resources.logicalIDs

theorem first_undefined_iff {iteration : Iteration resources} :
    firstUndefined resources iteration.entries = none ↔ Resolved resources := by
  simp only [firstUndefined, List.findSome?_eq_none_iff, Option.map_eq_none_iff,
    List.find?_eq_none, Bool.not_eq_true, Bool.not_eq_false', Resources.exists_iff, Resolved]
  constructor
  · intro every entry member
    exact every entry (iteration.covers.mem_iff.mpr member)
  · intro every entry member
    exact every entry (iteration.covers.mem_iff.mp member)

theorem guarded_dfs_kept (visited : Colours String) (node : String)
    (after : Colours String)
    (finished : (if visited node = .unvisited then dfs resources depth visited node
      else some (.ok visited)) = some (.ok after)) : Kept visited after := by
  split at finished
  · exact search_kept depth visited after node finished
  · cases finished
    exact kept_refl

variable (resources) in
/-- Started with every node unvisited, the search finds a cycle or settles every
node it was started from. -/
theorem detect_cycles_explained (depth : Nat) (nodes : List String) :
    Explained resources.dependsOn nodes (detectCycles resources depth nodes) := by
  apply sweep_explained guarded_dfs_kept
  · exact ⟨fun node done => by contradiction, fun node stacked => by contradiction⟩
  · intro visited node kept ready
    split
    · exact search_explained depth visited node ready
    · rename_i met
      constructor
      · intro other only
        rw [List.mem_singleton.mp only]
        cases colour : visited node with
        | unvisited => exact absurd colour met
        | visiting =>
          -- Between two searches the stack is empty.
          have stacked := (kept.stack node).mp colour
          contradiction
        | visited => rfl
      · exact ready.settled

theorem detect_cycles_returns (nodes : List String)
    (deep : resources.entries.length < depth) : detectCycles resources depth nodes ≠ none := by
  have few : resources.logicalIDs.countP (unmet fun _ => .unvisited) < depth := by
    have bound : resources.logicalIDs.countP (unmet fun _ => .unvisited) ≤ resources.logicalIDs.length :=
      List.countP_le_length
    simp only [Resources.logicalIDs, List.length_map] at bound ⊢
    omega
  apply sweep_returns guarded_dfs_kept _ _ few
  intro visited node enough
  split
  · exact search_returns Resources.depending_listed visited node enough
  · simp

theorem detect_cycles_deeper {more : Nat}
    {outcome : Except String (Colours String)}
    (ran : detectCycles resources depth nodes = some outcome) :
    detectCycles resources (depth + more) nodes = some outcome := by
  apply sweep_agrees _ _ ran
  intro visited node reached answered
  split at answered
  · rename_i fresh
    rw [if_pos fresh]
    exact search_deeper depth visited node reached answered
  · rename_i met
    rw [if_neg met]
    exact answered

theorem cycles_accepted_iff {iteration : Iteration resources}
    {outcome : Except String (Colours String)}
    (ran : detectCycles resources depth (iteration.entries.map Prod.fst) = some outcome) :
    (∃ visited, outcome = .ok visited) ↔ Acyclic resources.dependsOn := by
  have explained := detect_cycles_explained resources depth (iteration.entries.map Prod.fst)
  rw [ran] at explained
  cases outcome with
  | error node =>
    obtain ⟨cycle, closed⟩ := explained
    constructor
    · rintro ⟨visited, same⟩
      contradiction
    · intro acyclic
      exact absurd closed (acyclic cycle)
  | ok visited =>
    constructor
    · intro _ node
      by_cases listed : node ∈ resources.logicalIDs
      · have among := (Resources.iteration_keys iteration).mem_iff.mpr listed
        exact settles_no_cycle (explained.2 node (explained.1 node among))
      · -- An unknown node depends on nothing.
        have leaf : resources.dependsOn node = [] := by
          by_contra depends
          exact listed (Resources.depending_listed node depends)
        apply settles_no_cycle
        apply settles_of_successors
        intro target edge
        rw [leaf] at edge
        contradiction
    · intro _
      exact ⟨visited, rfl⟩

theorem validate_dependencies_answers (first second : Iteration resources) :
    ∃ answer,
      (∀ depth, resources.entries.length < depth →
        validateDependencies resources depth first second = some answer) ∧
      (answer = none ↔ Resolved resources ∧ Acyclic resources.dependsOn) := by
  cases missing : firstUndefined resources first.entries with
  | some error =>
    have unresolved : ¬ Resolved resources := by
      intro resolved
      rw [first_undefined_iff.mpr resolved] at missing
      contradiction
    exact ⟨some error, fun depth _ => by simp [validateDependencies, missing], by
      simp [unresolved]⟩
  | none =>
    have resolved := first_undefined_iff.mp missing
    obtain ⟨outcome, ran⟩ := Option.ne_none_iff_exists'.mp
      (detect_cycles_returns (second.entries.map Prod.fst) (Nat.lt_succ_self _))
    have accepted := cycles_accepted_iff ran
    have answered : ∀ depth, resources.entries.length < depth →
        detectCycles resources depth (second.entries.map Prod.fst) = some outcome := by
      intro depth deep
      obtain ⟨more, rfl⟩ := Nat.exists_eq_add_of_le deep
      exact detect_cycles_deeper ran
    cases outcome with
    | error node =>
      refine ⟨some (.circular node), fun depth deep => ?_, ?_⟩
      · simp [validateDependencies, missing, answered depth deep]
      · simpa [resolved] using accepted
    | ok visited =>
      refine ⟨none, fun depth deep => ?_, ?_⟩
      · simp [validateDependencies, missing, answered depth deep]
      · simpa [resolved] using accepted

/-- The recursion always returns; nil means that every dependency is defined and
none is circular; and whether the answer is nil does not depend on the orders
the map is iterated in. Which error is reported first does. -/
theorem validate_dependencies_exact (resources : Resources) :
    (∀ first second : Iteration resources, ∃ answer,
      (∀ depth, resources.entries.length < depth →
        validateDependencies resources depth first second = some answer) ∧
      (answer = none ↔ Resolved resources ∧ Acyclic resources.dependsOn)) ∧
    ∀ depth (first second otherFirst otherSecond : Iteration resources),
      resources.entries.length < depth →
      (validateDependencies resources depth first second = some none ↔
        validateDependencies resources depth otherFirst otherSecond = some none) := by
  refine ⟨validate_dependencies_answers, fun depth first second otherFirst otherSecond deep => ?_⟩
  obtain ⟨answer, ran, accepted⟩ := validate_dependencies_answers first second
  obtain ⟨other, otherRan, otherAccepted⟩ := validate_dependencies_answers otherFirst otherSecond
  rw [ran depth deep, otherRan depth deep, Option.some_inj, Option.some_inj, accepted, otherAccepted]

theorem accepted_resolved_acyclic {first second : Iteration resources}
    (accepted : validateDependencies resources depth first second = some none) :
    Resolved resources ∧ Acyclic resources.dependsOn := by
  unfold validateDependencies at accepted
  cases missing : firstUndefined resources first.entries with
  | some error => simp [missing] at accepted
  | none =>
    rw [missing] at accepted
    obtain ⟨outcome, ran, passed⟩ := Option.map_eq_some_iff.mp accepted
    refine ⟨first_undefined_iff.mp missing, ?_⟩
    apply (cycles_accepted_iff ran).mp
    cases outcome with
    | error node => contradiction
    | ok visited => exact ⟨visited, rfl⟩

end Validation

def exchange (key : String) : List String → String × List String
  | [] => (key, [])
  | other :: rest =>
    if key > other then
      let passed := exchange other rest
      (passed.1, key :: passed.2)
    else
      let passed := exchange key rest
      (passed.1, other :: passed.2)

def exchangeSort : Nat → List String → List String
  | _, [] => []
  | 0, keys => keys
  | positions + 1, key :: rest =>
    let passed := exchange key rest
    passed.1 :: exchangeSort positions passed.2

theorem exchange_general (key : String) {rest : List String} :
    exchange key rest = ExchangeSort.exchange (· > ·) key rest := by
  induction rest generalizing key with
  | nil => rfl
  | cons other rest ih =>
    simp only [exchange, ExchangeSort.exchange]
    rw [ih other, ih key]

theorem exchange_sort_general (keys : List String) :
    exchangeSort positions keys = ExchangeSort.exchangeSort (· > ·) positions keys := by
  induction positions generalizing keys with
  | zero => cases keys <;> rfl
  | succ positions ih =>
    cases keys with
    | nil => rfl
    | cons key rest =>
      simp only [exchangeSort, ExchangeSort.exchangeSort]
      rw [exchange_general, ih]

theorem exchange_sort_perm {keys : List String} :
    (exchangeSort positions keys).Perm keys := by
  rw [exchange_sort_general]
  exact ExchangeSort.exchange_sort_perm _ keys

theorem exchange_sort_sorted {keys : List String}
    (enough : keys.length ≤ positions) : (exchangeSort positions keys).Pairwise (· ≤ ·) := by
  have sorted := ExchangeSort.exchange_sort_sorted (· > ·)
    (fun left right above => lt_asymm above)
    (fun left middle right first second => not_lt.mpr ((not_lt.mp first).trans (not_lt.mp second))) keys enough
  rw [exchange_sort_general]
  exact sorted.imp not_lt.mp

theorem exchange_sort_unique {left right : List String} (same : left.Perm right) :
    exchangeSort left.length left = exchangeSort right.length right := by
  apply List.Perm.eq_of_pairwise' (exchange_sort_sorted (le_refl _))
    (exchange_sort_sorted (le_refl _))
  exact exchange_sort_perm.trans (same.trans exchange_sort_perm.symm)

def topologicalSort (resources : Resources) (depth : Nat) (iteration : Iteration resources) :
    Option (List String) :=
  let keys := iteration.entries.map Prod.fst
  ((exchangeSort keys.length keys).foldlM (visit resources.dependsOn depth) {}).map (·.order)

section CreationOrder

variable {resources : Resources}

theorem resolved_closed (resolved : Resolved resources) (logicalID : String)
    (listed : logicalID ∈ resources.logicalIDs) :
    ∀ dep ∈ resources.dependsOn logicalID, dep ∈ resources.logicalIDs := by
  obtain ⟨entry, member, same⟩ := List.mem_map.mp listed
  rw [← same, Resources.depends_on_entry entry member]
  exact resolved entry member

theorem visit_all_returns
    (deep : resources.entries.length < depth) :
    nodes.foldlM (visit resources.dependsOn depth) {} ≠ none := by
  apply fold_returns _
    (fun walk node after => visit_extends walk after node)
    (visit_returns Resources.depending_listed)
  have bound : resources.logicalIDs.countP (fun _ => !false) ≤ resources.logicalIDs.length :=
    List.countP_le_length
  simp only [Resources.logicalIDs, List.length_map] at bound ⊢
  omega

theorem topological_sort_walk {resources : Resources} :
    ∃ walk, (exchangeSort resources.logicalIDs.length resources.logicalIDs).foldlM
        (visit resources.dependsOn (resources.entries.length + 1)) {} = some walk ∧
      ∀ depth (iteration : Iteration resources), resources.entries.length < depth →
        topologicalSort resources depth iteration = some walk.order := by
  let keys := exchangeSort resources.logicalIDs.length resources.logicalIDs
  have sameKeys : ∀ iteration : Iteration resources,
      exchangeSort (iteration.entries.map Prod.fst).length (iteration.entries.map Prod.fst) = keys :=
    fun iteration => exchange_sort_unique (Resources.iteration_keys iteration)
  obtain ⟨walk, ran⟩ := Option.ne_none_iff_exists'.mp (visit_all_returns (Nat.lt_succ_self _))
  refine ⟨walk, ran, fun depth iteration deep => ?_⟩
  obtain ⟨more, rfl⟩ := Nat.exists_eq_add_of_le deep
  have deeper := fold_agrees _ (fun walk node after =>
    visit_deeper more walk after node) {} walk ran
  simp only [topologicalSort, sameKeys iteration]
  rw [deeper]
  rfl

theorem visit_all_sorted (resolved : Resolved resources) (acyclic : Acyclic resources.dependsOn)
    (same : nodes.Perm resources.logicalIDs)
    {walk : Walk String} (ran : nodes.foldlM (visit resources.dependsOn depth) {} = some walk) :
    Sorted resources.dependsOn walk ∧ walk.order.Perm resources.logicalIDs := by
  have start : Sorted resources.dependsOn {} :=
    ⟨fun _ member => absurd member List.not_mem_nil, List.nodup_nil, Histories.each_nil⟩
  obtain ⟨sorted, every⟩ := fold_sorted
    (fun walk node after => visit_sorted acyclic walk after node) start
    (fun node met => by contradiction) ran
  have within := fold_rule (fun _ state => ∀ other ∈ state.order, other ∈ resources.logicalIDs)
    (fun _ member => absurd member List.not_mem_nil)
    (fun _ node state after member sofar stepped =>
      visit_within (resolved_closed resolved) state after node
        (same.mem_iff.mp member) sofar stepped) ran
  refine ⟨sorted, (List.perm_ext_iff_of_nodup sorted.once resources.distinct).mpr fun logicalID => ?_⟩
  exact ⟨within logicalID, fun listed => every logicalID (same.mem_iff.mpr listed)⟩

/-- The creation order of an accepted template: one list for every iteration of
the map, with every logical ID once and after all it depends on. -/
theorem topological_sort_correct (resources : Resources) (fuel : Nat)
    (first second : Iteration resources)
    (accepted : validateDependencies resources fuel first second = some none) :
    ∃ order : List String,
      (∀ depth (iteration : Iteration resources), resources.entries.length < depth →
        topologicalSort resources depth iteration = some order) ∧
      order.Nodup ∧ (∀ logicalID, logicalID ∈ order ↔ logicalID ∈ resources.logicalIDs) ∧
      ∀ front logicalID back, order = front ++ logicalID :: back →
        ∀ dep ∈ resources.dependsOn logicalID, dep ∈ front := by
  obtain ⟨resolved, acyclic⟩ := accepted_resolved_acyclic accepted
  obtain ⟨walk, ran, sorts⟩ := topological_sort_walk
  obtain ⟨sorted, perm⟩ := visit_all_sorted resolved acyclic exchange_sort_perm ran
  exact ⟨walk.order, sorts, sorted.once, fun _ => perm.mem_iff, sorted.follows⟩

end CreationOrder

def layeredTemplate : Resources where
  entries := [
    ("c", {type := "VC::Compute::Instance", dependsOn := ["b"]}),
    ("a", {type := "VC::Network::Network"}),
    ("b", {type := "VC::Network::Subnet", dependsOn := ["a"]})]
  distinct := by decide

theorem layered_template_sorted :
    ∃ order : List String,
      (∀ depth (iteration : Iteration layeredTemplate), 3 < depth →
        topologicalSort layeredTemplate depth iteration = some order) ∧
      order.Nodup ∧ (∀ logicalID, logicalID ∈ order ↔ logicalID ∈ ["c", "a", "b"]) ∧
      ∀ front logicalID back, order = front ++ logicalID :: back →
        ∀ dep ∈ layeredTemplate.dependsOn logicalID, dep ∈ front :=
  topological_sort_correct layeredTemplate 4 ⟨layeredTemplate.entries, List.Perm.refl _⟩
    ⟨layeredTemplate.entries, List.Perm.refl _⟩ (by decide)

end VcStack.StackTemplates
