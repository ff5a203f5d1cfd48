import VcStack.Stacks

/-!
The order in which deleteStack marks the resources of a stack as deleted. Its
query has no ORDER BY, so the rows come in any order, and the loop goes through
them from the last to the first.
-/

namespace VcStack.StackTeardown

open DepthFirst Histories KeyedTables Runs Stacks StackTemplates

/-- The rounds of the loop from below an index down to 0, with the row that each
one marks. -/
def markBelow (rows : List StackResource) : Nat → List StackResource
  | 0 => []
  | index + 1 => rows[index]?.toList ++ markBelow rows index

def deletionMarks (rows : List StackResource) : List StackResource := markBelow rows rows.length

def DependsOn (resources : Resources) (row other : StackResource) : Prop :=
  other.logicalID ∈ resources.dependsOn row.logicalID

def TornDown (resources : Resources) (rows : List StackResource) : Prop :=
  Each (fun marked row => ∀ other ∈ rows, DependsOn resources other row → other ∈ marked)
    (deletionMarks rows)

theorem mark_below_eq {rows : List StackResource} {count : Nat} :
    markBelow rows count = (rows.take count).reverse := by
  induction count with
  | zero => rfl
  | succ index ih =>
    rw [markBelow, ih, List.take_add_one, List.reverse_append]
    cases rows[index]? <;> rfl

theorem deletion_marks_eq {rows : List StackResource} : deletionMarks rows = rows.reverse := by
  rw [deletionMarks, mark_below_eq, List.take_length]

section Orders

variable {resources : Resources} (rows : List StackResource)

theorem own_dependency (acyclic : Acyclic resources.dependsOn) (row : StackResource) :
    ¬ DependsOn resources row row := fun depends => acyclic row.logicalID (.single depends)

theorem torn_down_iff (acyclic : Acyclic resources.dependsOn) (once : rows.Nodup) :
    TornDown resources rows ↔
      rows.Pairwise fun earlier later => ¬ DependsOn resources earlier later := by
  rw [TornDown, deletion_marks_eq]
  exact each_reverse_iff (DependsOn resources) once (own_dependency acyclic)

theorem torn_down_in_any_order_iff (acyclic : Acyclic resources.dependsOn) (once : rows.Nodup) :
    (∀ order, order.Perm rows → TornDown resources order) ↔
      ∀ row ∈ rows, ∀ other ∈ rows, ¬ DependsOn resources row other := by
  classical
  constructor
  · intro every row member other among depends
    have different : other ≠ row := by
      intro same
      exact own_dependency acyclic row (same ▸ depends)
    -- The row in front of what it depends on.
    have front : (row :: other :: (rows.erase row).erase other).Perm rows :=
      ((List.perm_cons_erase ((List.mem_erase_of_ne different).mpr among)).symm.cons row).trans
        (List.perm_cons_erase member).symm
    have ordered := (torn_down_iff _ acyclic (front.nodup_iff.mpr once)).mp (every _ front)
    exact (List.pairwise_cons.mp ordered).1 other List.mem_cons_self depends
  · intro apart order same
    rw [torn_down_iff order acyclic (same.nodup_iff.mpr once)]
    apply List.pairwise_of_forall_mem_list
    intro earlier first later second
    exact apart earlier (same.mem_iff.mp first) later (same.mem_iff.mp second)

end Orders

theorem sorted_pairwise {next : String → List String} (acyclic : Acyclic next) {walk : Walk String}
    (sorted : Sorted next walk) :
    walk.order.Pairwise fun earlier later => later ∉ next earlier := by
  have backwards := (each_reverse_iff (fun other node => other ∈ next node)
    (List.nodup_reverse.mpr sorted.once) (fun node loop => acyclic node (.single loop))).mp (by
      rw [List.reverse_reverse]
      intro front node back shape other _ depends
      exact sorted.follows front node back shape other depends)
  exact List.pairwise_reverse.mp backwards

theorem created_rows_ordered {runtime : Runtime} {parsed : ParsedTemplate} {insertions : Insertions}
    (valid : ValidResources parsed.resources) :
    (newRows runtime parsed insertions).Nodup ∧
      (newRows runtime parsed insertions).Pairwise fun earlier later =>
        ¬ DependsOn parsed.resources earlier later := by
  obtain ⟨walk, ran, sorts⟩ := topological_sort_walk
  obtain ⟨sorted, _⟩ := visit_all_sorted valid.resolved valid.acyclic exchange_sort_perm ran
  have ordered := sorts (depthOf parsed.resources) (runtime.loops parsed.resources).keys
    (Nat.lt_succ_self _)
  simp only [newRows, ordered, Option.getD_some]
  constructor
  · apply List.Nodup.of_map StackResource.logicalID
    rw [List.map_map]
    exact (List.map_id _).symm ▸ sorted.once.filter _
  · apply List.pairwise_map.mpr
    exact (sorted_pairwise valid.acyclic sorted).filter _

def Deletes (stackID : String) : Action → Prop
  | .delete other _ => other = stackID
  | .create _ _ _ | .update _ _ _ => False

section Keeping

variable {runtime : Runtime} (stackID : String)

theorem step_rows_kept {state next : State} {action : Action} (kept : ¬ Deletes stackID action)
    (stored : stackID ∈ state.stackTable.rows.map Stack.id)
    (taken : step runtime state action = some next) :
    next.rowsOf stackID = state.rowsOf stackID ∧ stackID ∈ next.stackTable.rows.map Stack.id := by
  cases action with
  | create projectID bound insertions =>
    cases taken
    rcases create_stack_cases runtime state projectID bound insertions with
      ⟨error, refused, _⟩ | ⟨request, parsed, creatable, _, created⟩
    · rw [refused]
      exact ⟨rfl, stored⟩
    · rw [created]
      have different : stackID ≠ insertions.stackID := fun same => creatable.fresh (same ▸ stored)
      refine ⟨rows_of_others state insertions stackID different, ?_⟩
      simp only [Table.insert, List.map_append, List.mem_append]
      exact .inl stored
  | update other bound write =>
    cases taken
    rcases update_stack_cases runtime state other bound write with
      ⟨error, refused, _⟩ | ⟨_, request, parsed, _, _, _, _, _, updated⟩
    · rw [refused]
      exact ⟨rfl, stored⟩
    · rw [updated]
      refine ⟨rfl, ?_⟩
      rw [keys_update]
      exact stored
  | delete other removals =>
    cases taken
    rcases delete_stack_cases other with ⟨error, refused, _⟩ | ⟨_, _, _, deleted⟩
    · rw [refused]
      exact ⟨rfl, stored⟩
    · rw [deleted]
      refine ⟨remove_rows_of_other other (Ne.symm kept), ?_⟩
      exact (keys_update state.stackTable other (markRemoved removals) fun _ => rfl) ▸ stored

theorem run_rows_kept {later : List Action} (state last : State)
    (kept : ∀ action ∈ later, ¬ Deletes stackID action)
    (stored : stackID ∈ state.stackTable.rows.map Stack.id)
    (ran : run (step runtime) state later = some last) :
    last.rowsOf stackID = state.rowsOf stackID := by
  induction later generalizing state with
  | nil =>
    cases ran
    rfl
  | cons action rest ih =>
    obtain ⟨next, taken, onward⟩ := Option.bind_eq_some_iff.mp ran
    obtain ⟨same, still⟩ := step_rows_kept stackID (kept action List.mem_cons_self) stored taken
    rw [← same]
    exact ih next (fun other member => kept other (List.mem_cons_of_mem _ member)) still onward

end Keeping

/-- A stack that createStack has created, until it is deleted. The rows in the
order of their creation are torn down in order. In another order they are exactly
when no row depends on one that comes later, so that the database may choose the
order only if no row depends on another. -/
theorem teardown_order_iff (runtime : Runtime) (earlier later : List Action)
    (state next last : State) (projectID : String) (request : CreateStackRequest)
    (insertions : Insertions) (stack : Stack)
    (reached : run (step runtime) {} earlier = some state)
    (created : createStack runtime state projectID (.ok request) insertions = (.ok stack, next))
    (kept : ∀ action ∈ later, ¬ Deletes insertions.stackID action)
    (ran : run (step runtime) next later = some last) :
    ∃ parsed, checkTemplate runtime request.template = .ok parsed ∧
      TornDown parsed.resources (last.rowsOf insertions.stackID) ∧
      (∀ rows, rows.Perm (last.rowsOf insertions.stackID) →
        (TornDown parsed.resources rows ↔
          rows.Pairwise fun front back => ¬ DependsOn parsed.resources front back)) ∧
      ((∀ rows, rows.Perm (last.rowsOf insertions.stackID) → TornDown parsed.resources rows) ↔
        ∀ row ∈ last.rowsOf insertions.stackID, ∀ other ∈ last.rowsOf insertions.stackID,
          ¬ DependsOn parsed.resources row other) := by
  have owned : Owned state := always_last {} state
    (always_of_invariant Owned (fun _ holds => holds)
      (fun state action next holds taken => step_owned holds taken) earlier {}
      (fun _ member => absurd member List.not_mem_nil)) reached
  rcases create_stack_cases runtime state projectID (.ok request) insertions with
    ⟨error, refused, _⟩ | ⟨accepted, parsed, creatable, same, stored⟩
  · rw [refused] at created
    cases created
  · cases same
    rw [stored] at created
    cases created
    obtain ⟨checked, _, _, fresh⟩ := creatable
    have valid := (check_template_accepted checked).2.2
    have listed : insertions.stackID ∈ (state.stackTable.insert
        (newStack projectID request parsed insertions) fresh).rows.map Stack.id := by
      simp [Table.insert, newStack]
    rw [run_rows_kept insertions.stackID _ last kept listed ran,
      rows_of_created state insertions owned fresh]
    obtain ⟨once, ordered⟩ := created_rows_ordered valid
    refine ⟨parsed, checked, (torn_down_iff _ valid.acyclic once).mpr ordered, fun rows same => ?_,
      torn_down_in_any_order_iff _ valid.acyclic once⟩
    exact torn_down_iff rows valid.acyclic (same.nodup_iff.mpr once)

def layeredRuntime : Runtime := plainRuntime {resources := layeredTemplate}

def layeredRequest : CreateStackRequest where
  name := "layers"
  template := "template"

def layeredInsertions : Insertions where
  stackID := "stack-1"
  resourceID := id

def layeredRows : List StackResource :=
  [{id := "a", stackID := "stack-1", logicalID := "a", type := "VC::Network::Network",
      dependsOn := ""},
    {id := "b", stackID := "stack-1", logicalID := "b", type := "VC::Network::Subnet",
      dependsOn := "a"},
    {id := "c", stackID := "stack-1", logicalID := "c", type := "VC::Compute::Instance",
      dependsOn := "b"}]

theorem layered_stack_torn_down :
    ∃ stack next, createStack layeredRuntime {} "project-1" (.ok layeredRequest)
        layeredInsertions = (.ok stack, next) ∧
      next.rowsOf "stack-1" = layeredRows ∧ TornDown layeredTemplate layeredRows := by
  refine ⟨_, _, rfl, rfl, ?_⟩
  obtain ⟨parsed, checked, torn, _⟩ := teardown_order_iff layeredRuntime [] [] {} _ _ "project-1"
    layeredRequest layeredInsertions _ rfl rfl (by simp) rfl
  cases checked
  exact torn

/-- The database returns the instance first: the network is marked deleted before
the subnet that depends on it. -/
theorem network_deleted_first :
    ∃ stack next, createStack layeredRuntime {} "project-1" (.ok layeredRequest)
        layeredInsertions = (.ok stack, next) ∧
      layeredRows.reverse.Perm (next.rowsOf "stack-1") ∧
      (deletionMarks layeredRows.reverse).map StackResource.logicalID = ["a", "b", "c"] ∧
      ¬ TornDown layeredTemplate layeredRows.reverse := by
  refine ⟨_, _, rfl, List.reverse_perm _, rfl, fun torn => ?_⟩
  have marked := torn [] _ _ rfl layeredRows[1] (by simp [layeredRows])
    (by unfold DependsOn; decide)
  exact absurd marked List.not_mem_nil

end VcStack.StackTeardown
