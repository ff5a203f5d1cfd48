import VcStack.Idempotency
import VcStack.KeyedTables
import VcStack.StackTemplates

/-!
The stacks of internal/management/orchestration and their resource rows: the
handlers createStack, updateStack and deleteStack with the checks of a template
(handlers.go). Decoding a template is a parameter, and so are the errors of the
database writes. Events, outputs and the properties of resources are left out.
-/

namespace VcStack.Stacks

open DepthFirst KeyedTables Runs StackTemplates
open Idempotency (trimSpace)

inductive StackStatus where
  | createInProgress
  | createComplete
  | updateComplete
  | deleteInProgress
  | deleteComplete
  deriving DecidableEq

structure Stack where
  id : String
  name : String
  description : String := ""
  projectID : String := ""
  status : StackStatus
  statusReason : String := ""
  template : String
  templateDesc : String := ""
  parameters : String := ""
  tags : String := ""
  timeout : Int := 60
  resourceCount : Nat

def stackColumns : List String :=
  ["id", "name", "description", "project_id", "status", "status_reason", "template",
    "template_desc", "parameters", "outputs", "tags", "timeout_mins", "disable_rollback",
    "parent_id", "resource_count", "created_at", "updated_at"]

structure StackResource where
  id : String
  stackID : String
  logicalID : String
  type : String
  dependsOn : String

structure ParsedTemplate where
  description : String := ""
  resources : Resources

def maxTemplateSize : Nat := 512 * 1024

def resourceTypes : List String :=
  ["VC::Compute::Instance", "VC::Storage::Volume", "VC::Network::Network", "VC::Network::Subnet",
    "VC::Network::SecurityGroup", "VC::Network::FloatingIP", "VC::DNS::Zone", "VC::DNS::RecordSet",
    "VC::ObjectStorage::Bucket", "VC::Network::Router", "VC::Compute::KeyPair"]

def isValidResourceType (type : String) : Bool := resourceTypes.contains type

inductive ApiError where
  | validation (message : String)
  | invalidParam (field detail : String)
  | notFound (resourceType identifier : String)
  | alreadyExists (resourceType name : String)
  | database (operation : String)
  deriving DecidableEq

structure Loops (resources : Resources) where
  types : Iteration resources
  first : Iteration resources
  second : Iteration resources
  keys : Iteration resources

/-- What the handlers rest on: `json.Unmarshal` of a template, the verb `%q`, the
range loops, and the columns that the table has in the database. Migration adds
the columns of the model and removes none. -/
structure Runtime where
  json : String → Except String ParsedTemplate
  quote : String → String
  loops : (resources : Resources) → Loops resources
  columns : List String
  migrated : ∀ column ∈ stackColumns, column ∈ columns

structure State where
  stackTable : Table Stack.id := ⟨[], List.nodup_nil⟩
  resources : List StackResource := []

def State.rowsOf (state : State) (stackID : String) : List StackResource :=
  state.resources.filter fun row => row.stackID == stackID

structure CreateStackRequest where
  name : String
  description : String := ""
  template : String
  parameters : String := ""
  tags : String := ""
  timeoutMins : Int := 0

structure UpdateStackRequest where
  description : String := ""
  template : String := ""
  parameters : String := ""
  tags : String := ""
  timeoutMins : Int := 0

structure Insertions where
  stackID : String
  resourceID : String → String
  stack : Option String := none
  resource : String → Option String := fun _ => none
  complete : Option String := none

abbrev Assignment := String × (Stack → Stack)

def assignIf (given : Bool) (assignments : List Assignment) : List Assignment :=
  if given then assignments else []

/-- The name template_description is the one of the JSON field; the column of the
model is template_desc. -/
def templateUpdates (request : UpdateStackRequest) : Option ParsedTemplate → List Assignment
  | none => []
  | some parsed =>
    [("template", fun stack => {stack with template := request.template}),
      ("template_description", fun stack => stack),
      ("resource_count", fun stack =>
        {stack with resourceCount := parsed.resources.entries.length})]

def plainUpdates (request : UpdateStackRequest) : List Assignment :=
  [("status", fun stack => {stack with status := .updateComplete}),
    ("status_reason", fun stack =>
      {stack with statusReason := "Stack UPDATE completed successfully"})] ++
  assignIf (request.description != "")
    [("description", fun stack => {stack with description := request.description})] ++
  assignIf (request.tags != "") [("tags", fun stack => {stack with tags := request.tags})] ++
  assignIf (request.timeoutMins > 0)
    [("timeout_mins", fun stack => {stack with timeout := request.timeoutMins})]

def stackUpdates (request : UpdateStackRequest) (parsed : Option ParsedTemplate) :
    List Assignment :=
  plainUpdates request ++ templateUpdates request parsed ++
  assignIf (request.parameters != "")
    [("parameters", fun stack => {stack with parameters := request.parameters})]

def applyUpdates (updates : List Assignment) (stack : Stack) : Stack :=
  updates.foldl (fun row update => update.2 row) stack

variable {stack : Stack} {request : UpdateStackRequest} {parsed : ParsedTemplate}
  {template : String} {next : State} {removals : Removals}

theorem apply_append {first second : List Assignment} :
    applyUpdates (first ++ second) stack = applyUpdates second (applyUpdates first stack) :=
  List.foldl_append

def Stack.essentials (stack : Stack) : String × StackStatus × String × Nat :=
  (stack.id, stack.status, stack.template, stack.resourceCount)

theorem essentials_if {given : Bool} {column : String} {assign : Stack → Stack}
    (keeps : (assign stack).essentials = stack.essentials) :
    (applyUpdates (assignIf given [(column, assign)]) stack).essentials = stack.essentials := by
  cases given with
  | false => rfl
  | true => exact keeps

theorem plain_updates_essentials (request : UpdateStackRequest) (stack : Stack) :
    (applyUpdates (plainUpdates request) stack).essentials =
      (stack.id, .updateComplete, stack.template, stack.resourceCount) := by
  simp only [plainUpdates, apply_append]
  rw [essentials_if, essentials_if, essentials_if]
  all_goals rfl

theorem template_updates_essentials :
    (applyUpdates (templateUpdates request (some parsed)) stack).essentials =
      (stack.id, stack.status, request.template, parsed.resources.entries.length) := rfl

theorem updates_essentials (request : UpdateStackRequest) (parsed : Option ParsedTemplate)
    (stack : Stack) :
    (applyUpdates (stackUpdates request parsed) stack).essentials =
      (stack.id, .updateComplete, (parsed.map fun _ => request.template).getD stack.template,
        (parsed.map fun parsed => parsed.resources.entries.length).getD stack.resourceCount) := by
  simp only [stackUpdates, apply_append]
  rw [essentials_if]
  · have plain := plain_updates_essentials request stack
    cases parsed with
    | none => exact plain
    | some parsed =>
      rw [Stack.essentials, Prod.mk.injEq, Prod.mk.injEq] at plain
      rw [template_updates_essentials, plain.1, plain.2.1]
      rfl
  · rfl

theorem updates_keep_id {parsed : Option ParsedTemplate}
    (stack : Stack) : (applyUpdates (stackUpdates request parsed) stack).id = stack.id :=
  congrArg Prod.fst (updates_essentials request parsed stack)

section Handlers

variable (runtime : Runtime)

def parseTemplate (raw : String) : Except String ParsedTemplate :=
  if trimSpace raw = "" then .error "template is empty"
  else
  match runtime.json raw with
  | .error reason => .error ("invalid template JSON: " ++ reason)
  | .ok parsed =>
    if parsed.resources.entries = [] then
      .error "template must contain at least one resource"
    else .ok parsed

def depthOf (resources : Resources) : Nat := resources.entries.length + 1

def checkTemplate (template : String) : Except ApiError ParsedTemplate :=
  if template.utf8ByteSize > maxTemplateSize then
    .error (.invalidParam "template" "template exceeds maximum size of 512 KB")
  else
  match parseTemplate runtime template with
  | .error reason => .error (.invalidParam "template" reason)
  | .ok parsed =>
  let resources := parsed.resources
  let loops := runtime.loops resources
  if resources.entries.length = 0 then
    .error (.invalidParam "template" "template must define at least one resource")
  else
  match loops.types.entries.find? fun entry => !isValidResourceType entry.2.type with
  | some entry =>
    .error (.invalidParam "template" ("unsupported resource type " ++
      runtime.quote entry.2.type ++ " for resource " ++ runtime.quote entry.1))
  | none =>
  match validateDependencies resources (depthOf resources) loops.first loops.second with
  | some (some error) => .error (.invalidParam "template" (error.text runtime.quote))
  -- The depth suffices, so this does not happen.
  | none => .error (.invalidParam "template" "")
  | some none => .ok parsed

/-- The row as it is left: the last write may have failed. -/
def newStack (projectID : String) (request : CreateStackRequest) (parsed : ParsedTemplate)
    (insertions : Insertions) : Stack where
  id := insertions.stackID
  name := request.name
  description := request.description
  projectID := projectID
  status := if insertions.complete.isNone then .createComplete else .createInProgress
  statusReason := if insertions.complete.isNone then "Stack CREATE completed successfully"
    else "Stack creation initiated"
  template := request.template
  templateDesc := parsed.description
  parameters := request.parameters
  tags := request.tags
  timeout := if request.timeoutMins ≤ 0 then 60 else request.timeoutMins
  resourceCount := parsed.resources.entries.length

def Stack.completed (stack : Stack) : Stack :=
  { stack with
    status := .createComplete
    statusReason := "Stack CREATE completed successfully" }

theorem new_stack_live (projectID : String) (request : CreateStackRequest)
    (parsed : ParsedTemplate) (insertions : Insertions) :
    (newStack projectID request parsed insertions).status ≠ .deleteComplete := by
  simp only [newStack]
  split <;> simp

/-- The rows that are stored. An error is logged, and the loop goes on. -/
def newRows (parsed : ParsedTemplate) (insertions : Insertions) : List StackResource :=
  let resources := parsed.resources
  let order := (topologicalSort resources (depthOf resources) (runtime.loops resources).keys).getD []
  (order.filter fun logicalID => (insertions.resource logicalID).isNone).map fun logicalID =>
    let resource := (resources.entries.lookup logicalID).getD {}
    { id := insertions.resourceID logicalID
      stackID := insertions.stackID
      logicalID := logicalID
      type := resource.type
      dependsOn := ",".intercalate resource.dependsOn }

def createStack (state : State) (projectID : String) (bound : Except String CreateStackRequest)
    (insertions : Insertions) : Except ApiError Stack × State :=
  match bound with
  | .error reason => (.error (.validation reason), state)
  | .ok request =>
  match checkTemplate runtime request.template with
  | .error error => (.error error, state)
  | .ok parsed =>
  if state.stackTable.rows.any fun stack => stack.name == request.name &&
      stack.projectID == projectID && stack.status != .deleteComplete then
    (.error (.alreadyExists "stack" request.name), state)
  else if insertions.stack.isSome then (.error (.database "create stack"), state)
  else
    let stack := newStack projectID request parsed insertions
    if fresh : stack.id ∉ state.stackTable.rows.map Stack.id then
      -- The answer has the last write, whether it succeeded or not.
      (.ok stack.completed, {
        stackTable := state.stackTable.insert stack fresh
        resources := state.resources ++ newRows runtime parsed insertions })
    else (.error (.database "create stack"), state)

def updatedTemplate (request : UpdateStackRequest) : Except String (Option ParsedTemplate) :=
  if request.template = "" then .ok none else (parseTemplate runtime request.template).map some

def updateStack (state : State) (stackID : String) (bound : Except String UpdateStackRequest)
    (write : Option String) : Except ApiError Unit × State :=
  match (state.stackTable.find stackID).filter fun stack =>
    stack.status != .deleteComplete && stack.status != .deleteInProgress with
  | none => (.error (.notFound "stack" stackID), state)
  | some _ =>
  match bound with
  | .error reason => (.error (.validation reason), state)
  | .ok request =>
  match updatedTemplate runtime request with
  | .error reason => (.error (.invalidParam "template" reason), state)
  | .ok parsed =>
  let updates := stackUpdates request parsed
  -- The statement fails when it names a column the table does not have.
  if write.isSome || updates.any fun update => !runtime.columns.contains update.1 then
    (.error (.database "update stack"), state)
  else
    (.ok (), {
      stackTable := state.stackTable.update stackID (applyUpdates updates) updates_keep_id
      resources := state.resources })

/-- Which of the three writes of deleteStack succeed: the mark at the beginning,
the removal of the rows, and the mark at the end. -/
structure Removals where
  marked : Bool := true
  removed : Bool := true
  complete : Bool := true

def markRemoved (removals : Removals) (stack : Stack) : Stack :=
  { stack with
    status :=
      if removals.complete then .deleteComplete
      else if removals.marked then .deleteInProgress
      else stack.status
    statusReason :=
      if removals.complete then "Stack DELETE completed successfully"
      else if removals.marked then "Stack deletion initiated"
      else stack.statusReason }

def removeStack (state : State) (stackID : String) (removals : Removals) : State where
  stackTable := state.stackTable.update stackID (markRemoved removals) fun _ => rfl
  resources :=
    if removals.removed then state.resources.filter fun row => row.stackID != stackID
    else state.resources

def deleteStack (state : State) (stackID : String) (removals : Removals) :
    Except ApiError Unit × State :=
  match (state.stackTable.find stackID).filter fun stack => stack.status != .deleteComplete with
  | none => (.error (.notFound "stack" stackID), state)
  | some _ => (.ok (), removeStack state stackID removals)

inductive Action where
  | create (projectID : String) (bound : Except String CreateStackRequest) (insertions : Insertions)
  | update (stackID : String) (bound : Except String UpdateStackRequest) (write : Option String)
  | delete (stackID : String) (removals : Removals)

def step (state : State) : Action → Option State
  | .create projectID bound insertions => some (createStack runtime state projectID bound insertions).2
  | .update stackID bound write => some (updateStack runtime state stackID bound write).2
  | .delete stackID removals => some (deleteStack state stackID removals).2

end Handlers

section WellFormed

variable (runtime : Runtime)

structure ValidResources (resources : Resources) : Prop where
  nonempty : resources.entries ≠ []
  supported : ∀ entry ∈ resources.entries, isValidResourceType entry.2.type = true
  resolved : Resolved resources
  acyclic : Acyclic resources.dependsOn

def TemplateFits (template : String) (rows : List StackResource) : Prop :=
  template.utf8ByteSize ≤ maxTemplateSize ∧
  ∃ parsed, parseTemplate runtime template = .ok parsed ∧ ValidResources parsed.resources ∧
    (rows.map StackResource.logicalID).Perm parsed.resources.logicalIDs

structure StackWellFormed (stack : Stack) (rows : List StackResource) : Prop where
  fits : TemplateFits runtime stack.template rows
  counted : stack.resourceCount = rows.length

def WellFormed (state : State) : Prop :=
  ∀ stack ∈ state.stackTable.rows, stack.status ≠ .deleteComplete →
    StackWellFormed runtime stack (state.rowsOf stack.id)

def Owned (state : State) : Prop :=
  ∀ row ∈ state.resources, row.stackID ∈ state.stackTable.rows.map Stack.id

variable {runtime}

theorem check_template_accepted
    (accepted : checkTemplate runtime template = .ok parsed) :
    template.utf8ByteSize ≤ maxTemplateSize ∧ parseTemplate runtime template = .ok parsed ∧
      ValidResources parsed.resources := by
  unfold checkTemplate at accepted
  split at accepted
  · cases accepted
  · rename_i small
    split at accepted
    · cases accepted
    · rename_i parses
      dsimp only at accepted
      split at accepted
      · cases accepted
      · rename_i nonempty
        split at accepted
        · cases accepted
        · rename_i supported
          split at accepted
          · cases accepted
          · cases accepted
          · rename_i valid
            cases accepted
            obtain ⟨resolved, acyclic⟩ := accepted_resolved_acyclic valid
            refine ⟨Nat.not_lt.mp small, parses, ?_, ?_, resolved, acyclic⟩
            · exact fun none => nonempty (congrArg List.length none)
            · intro entry member
              have listed := (runtime.loops parsed.resources).types.covers.mem_iff.mpr member
              simpa using List.find?_eq_none.mp supported entry listed

/-- The checks accept exactly the small templates with valid resources. -/
theorem check_template_iff :
    checkTemplate runtime template = .ok parsed ↔
      template.utf8ByteSize ≤ maxTemplateSize ∧ parseTemplate runtime template = .ok parsed ∧
        ValidResources parsed.resources := by
  refine ⟨check_template_accepted, ?_⟩
  rintro ⟨small, parses, valid⟩
  let loops := runtime.loops parsed.resources
  have nonempty : parsed.resources.entries.length ≠ 0 :=
    fun none => valid.nonempty (List.eq_nil_of_length_eq_zero none)
  have supported :
      (loops.types.entries.find? fun entry => !isValidResourceType entry.2.type) = none := by
    apply List.find?_eq_none.mpr
    intro entry listed
    simpa using valid.supported entry (loops.types.covers.mem_iff.mp listed)
  obtain ⟨answer, answers, accepts⟩ :=
    validate_dependencies_answers loops.first loops.second
  have validated := answers (depthOf parsed.resources) (Nat.lt_succ_self _)
  rw [accepts.mpr ⟨valid.resolved, valid.acyclic⟩] at validated
  simp only [checkTemplate, Nat.not_lt.mpr small, parses, nonempty, loops, supported, validated,
    if_false]

theorem topological_sort_permutes {resources : Resources} (resolved : Resolved resources)
    (acyclic : Acyclic resources.dependsOn) (iteration : Iteration resources) :
    ∃ order, topologicalSort resources (depthOf resources) iteration = some order ∧
      order.Perm resources.logicalIDs := by
  obtain ⟨walk, ran, returned⟩ := topological_sort_walk
  refine ⟨walk.order, returned _ iteration (Nat.lt_succ_self _), ?_⟩
  exact (visit_all_sorted resolved acyclic exchange_sort_perm ran).2

theorem new_rows_owner {insertions : Insertions} {row : StackResource}
    (member : row ∈ newRows runtime parsed insertions) : row.stackID = insertions.stackID := by
  obtain ⟨logicalID, _, rfl⟩ := List.mem_map.mp member
  rfl

variable (runtime) in
theorem new_rows_cover_iff (parsed : ParsedTemplate) (insertions : Insertions)
    (valid : ValidResources parsed.resources) :
    ((newRows runtime parsed insertions).map StackResource.logicalID).Perm
        parsed.resources.logicalIDs ↔
      ∀ logicalID ∈ parsed.resources.logicalIDs, insertions.resource logicalID = none := by
  obtain ⟨order, sorted, perm⟩ := topological_sort_permutes valid.resolved
    valid.acyclic (runtime.loops parsed.resources).keys
  have listed : (newRows runtime parsed insertions).map StackResource.logicalID =
      order.filter fun logicalID => (insertions.resource logicalID).isNone := by
    simp only [newRows, sorted, Option.getD_some, List.map_map]
    exact List.map_id _
  rw [listed]
  constructor
  · intro covers logicalID member
    have whole := List.length_filter_eq_length_iff.mp (covers.trans perm.symm).length_eq
    exact Option.isNone_iff_eq_none.mp (whole logicalID (perm.mem_iff.mpr member))
  · intro stored
    have whole : (order.filter fun logicalID => (insertions.resource logicalID).isNone) = order := by
      apply List.filter_eq_self.mpr
      intro logicalID member
      exact Option.isNone_iff_eq_none.mpr (stored logicalID (perm.mem_iff.mp member))
    rw [whole]
    exact perm

theorem well_formed_find {state : State} (holds : WellFormed runtime state) {stackID : String}
    (found : state.stackTable.find stackID = some stack)
    (live : stack.status ≠ .deleteComplete) :
    StackWellFormed runtime stack (state.rowsOf stackID) := by
  obtain ⟨member, rfl⟩ := (find_iff _).mp found
  exact holds stack member live

theorem well_formed_at_iff {state : State} (stackID : String)
    (holds : WellFormed runtime state)
    (stacksKept : ∀ other, other ≠ stackID →
      next.stackTable.find other = state.stackTable.find other)
    (rowsKept : ∀ other, other ≠ stackID → next.rowsOf other = state.rowsOf other) :
    WellFormed runtime next ↔
      ∀ stack, next.stackTable.find stackID = some stack → stack.status ≠ .deleteComplete →
        StackWellFormed runtime stack (next.rowsOf stackID) := by
  constructor
  · intro kept stack found live
    exact well_formed_find kept found live
  · intro here stack member live
    have found := find_of_mem next.stackTable stack member
    by_cases same : stack.id = stackID
    · rw [same] at found ⊢
      exact here stack found live
    · rw [rowsKept stack.id same]
      rw [stacksKept stack.id same] at found
      exact well_formed_find holds found live

section Creating

variable (state : State) (projectID : String) (bound : Except String CreateStackRequest)
variable (insertions : Insertions)

structure Creatable (runtime : Runtime) (state : State) (projectID : String)
    (insertions : Insertions) (request : CreateStackRequest) (parsed : ParsedTemplate) : Prop where
  checked : checkTemplate runtime request.template = .ok parsed
  unnamed : ∀ stack ∈ state.stackTable.rows, stack.name = request.name →
    stack.projectID = projectID → stack.status = .deleteComplete
  stored : insertions.stack = none
  fresh : insertions.stackID ∉ state.stackTable.rows.map Stack.id

variable (runtime) in
theorem create_stack_cases :
    (∃ error, createStack runtime state projectID bound insertions = (.error error, state) ∧
      ∀ request parsed, bound = .ok request →
        ¬ Creatable runtime state projectID insertions request parsed) ∨
    ∃ request parsed,
      ∃ creatable : Creatable runtime state projectID insertions request parsed,
      bound = .ok request ∧
      createStack runtime state projectID bound insertions =
        (.ok (newStack projectID request parsed insertions).completed, {
          stackTable := state.stackTable.insert (newStack projectID request parsed insertions)
            creatable.fresh
          resources := state.resources ++ newRows runtime parsed insertions }) := by
  fun_cases createStack
  case case1 => exact Or.inl ⟨_, rfl, fun _ _ same => by cases same⟩
  case case2 request error refused =>
    refine Or.inl ⟨_, rfl, fun _ _ same creatable => ?_⟩
    cases same
    cases refused.symm.trans creatable.checked
  case case3 request parsed checked taken =>
    refine Or.inl ⟨_, rfl, fun _ _ same creatable => ?_⟩
    cases same
    obtain ⟨stack, member, held⟩ := List.any_eq_true.mp taken
    simp only [Bool.and_eq_true, beq_iff_eq, bne_iff_ne] at held
    exact held.2 (creatable.unnamed stack member held.1.1 held.1.2)
  case case4 failed =>
    exact Or.inl ⟨_, rfl, fun _ _ _ creatable => by simp [creatable.stored] at failed⟩
  case case5 request parsed checked free stored stack fresh =>
    refine Or.inr ⟨request, parsed, ⟨checked, ?_, by simpa using stored, fresh⟩, rfl, rfl⟩
    simpa using free
  case case6 taken => exact Or.inl ⟨_, rfl, fun _ _ _ creatable => taken creatable.fresh⟩

variable (runtime) in
theorem new_stack_well_formed_iff (request : CreateStackRequest) (parsed : ParsedTemplate)
    (checked : checkTemplate runtime request.template = .ok parsed) :
    StackWellFormed runtime (newStack projectID request parsed insertions)
        (newRows runtime parsed insertions) ↔
      ∀ logicalID ∈ parsed.resources.logicalIDs, insertions.resource logicalID = none := by
  obtain ⟨small, parses, valid⟩ := check_template_accepted checked
  have cover := new_rows_cover_iff runtime parsed insertions valid
  constructor
  · intro formed
    obtain ⟨_, other, again, _, covers⟩ := formed.fits
    cases parses.symm.trans again
    exact cover.mp covers
  · intro stored
    have covers := cover.mpr stored
    refine ⟨⟨small, parsed, parses, valid, covers⟩, ?_⟩
    have length := covers.length_eq
    simp only [Resources.logicalIDs, List.length_map] at length
    exact length.symm

theorem rows_of_created (owned : Owned state) {table : Table Stack.id}
    (fresh : insertions.stackID ∉ state.stackTable.rows.map Stack.id) :
    State.rowsOf {
      stackTable := table
      resources := state.resources ++ newRows runtime parsed insertions } insertions.stackID =
      newRows runtime parsed insertions := by
  have earlier : (state.resources.filter fun row => row.stackID == insertions.stackID) = [] := by
    apply List.filter_eq_nil_iff.mpr
    intro row member same
    exact fresh (beq_iff_eq.mp same ▸ owned row member)
  rw [State.rowsOf, List.filter_append, earlier, List.nil_append]
  apply List.filter_eq_self.mpr
  intro row member
  exact beq_iff_eq.mpr (new_rows_owner member)

theorem rows_of_others {table : Table Stack.id} (other : String)
    (different : other ≠ insertions.stackID) :
    State.rowsOf {
      stackTable := table
      resources := state.resources ++ newRows runtime parsed insertions } other =
      state.rowsOf other := by
  have none : ((newRows runtime parsed insertions).filter fun row => row.stackID == other) = [] := by
    apply List.filter_eq_nil_iff.mpr
    intro row member same
    exact different ((beq_iff_eq.mp same).symm.trans (new_rows_owner member))
  rw [State.rowsOf, List.filter_append, none, List.append_nil]
  rfl

end Creating

end WellFormed

section Runs

variable (runtime : Runtime)

def Updatable (state : State) (stackID : String) (write : Option String)
    (request : UpdateStackRequest) : Prop :=
  (∃ stack, state.stackTable.find stackID = some stack ∧ stack.status ≠ .deleteComplete ∧
    stack.status ≠ .deleteInProgress) ∧ write = none ∧
  ∃ parsed, updatedTemplate runtime request = .ok parsed ∧
    ∀ update ∈ stackUpdates request parsed, update.1 ∈ runtime.columns

/-- A creation stores every row; a deletion that removes the rows also marks the
stack; and where an update replaces the template, the new one is valid and fits
the rows. -/
def WritesKept (state : State) : Action → Prop
  | .create projectID bound insertions => ∀ request parsed, bound = .ok request →
      Creatable runtime state projectID insertions request parsed →
      ∀ logicalID ∈ parsed.resources.logicalIDs, insertions.resource logicalID = none
  | .update stackID bound write => ∀ request, bound = .ok request → request.template ≠ "" →
      Updatable runtime state stackID write request →
      TemplateFits runtime request.template (state.rowsOf stackID)
  | .delete stackID removals => ∀ stack, state.stackTable.find stackID = some stack →
      stack.status ≠ .deleteComplete → removals.removed = true → removals.complete = true

variable {runtime}

variable (state : State) (stackID : String)

theorem create_well_formed_iff {projectID : String} {bound : Except String CreateStackRequest}
    {insertions : Insertions} (owned : Owned state) (holds : WellFormed runtime state) :
    WellFormed runtime (createStack runtime state projectID bound insertions).2 ↔
      WritesKept runtime state (.create projectID bound insertions) := by
  simp only [WritesKept]
  rcases create_stack_cases runtime state projectID bound insertions with
    ⟨error, refused, failed⟩ | ⟨request, parsed, creatable, rfl, created⟩
  · rw [refused]
    exact iff_of_true holds fun request parsed same creatable =>
      absurd creatable (failed request parsed same)
  · rw [created]
    have fresh := creatable.fresh
    have checked := creatable.checked
    let stack := newStack projectID request parsed insertions
    refine (well_formed_at_iff insertions.stackID holds
      (fun other different => find_insert_other _ stack fresh different)
      (rows_of_others state insertions)).trans ?_
    rw [rows_of_created state insertions owned fresh]
    have formed := new_stack_well_formed_iff runtime projectID insertions request parsed checked
    have present : (state.stackTable.insert stack fresh).find insertions.stackID = some stack :=
      find_of_mem (state.stackTable.insert stack fresh) stack
        (List.mem_append_right _ (List.mem_singleton_self _))
    have live := new_stack_live projectID request parsed insertions
    constructor
    · rintro every _ other same ⟨again, _, _, _⟩
      cases same
      cases checked.symm.trans again
      exact formed.mp (every _ present live)
    · intro stored stack found _
      cases present.symm.trans found
      exact formed.mpr (stored request parsed rfl creatable)

variable (runtime) in
theorem update_stack_cases (state : State) (stackID : String)
    (bound : Except String UpdateStackRequest) (write : Option String) :
    (∃ error, updateStack runtime state stackID bound write = (.error error, state) ∧
      ∀ request, bound = .ok request → ¬ Updatable runtime state stackID write request) ∨
    ∃ stack request parsed, state.stackTable.find stackID = some stack ∧
      stack.status ≠ .deleteComplete ∧ bound = .ok request ∧
      updatedTemplate runtime request = .ok parsed ∧
      Updatable runtime state stackID write request ∧
      updateStack runtime state stackID bound write = (.ok (), {
        stackTable := state.stackTable.update stackID (applyUpdates (stackUpdates request parsed))
          updates_keep_id
        resources := state.resources }) := by
  fun_cases updateStack
  case case1 missing =>
    refine Or.inl ⟨_, rfl, ?_⟩
    rintro request - ⟨⟨stack, found, complete, progress⟩, -⟩
    simp [found, complete, progress] at missing
  case case2 => exact Or.inl ⟨_, rfl, fun _ same => by cases same⟩
  case case3 refused =>
    refine Or.inl ⟨_, rfl, ?_⟩
    rintro _ same ⟨-, -, parsed, parses, -⟩
    cases same
    cases refused.symm.trans parses
  case case4 parsed parses updates failed =>
    refine Or.inl ⟨_, rfl, ?_⟩
    rintro _ same ⟨-, written, again, parses', columns⟩
    cases same
    cases parses.symm.trans parses'
    simp only [written, Option.isSome_none, Bool.false_or, List.any_eq_true, Bool.not_eq_true',
      ← Bool.not_eq_true, List.contains_iff_mem] at failed
    obtain ⟨update, member, unknown⟩ := failed
    exact unknown (columns update member)
  case case5 stack found request parsed parses updates accepted =>
    obtain ⟨present, live⟩ := Option.filter_eq_some_iff.mp found
    simp only [Bool.and_eq_true, bne_iff_ne] at live
    simp only [Bool.or_eq_true, not_or, List.any_eq_true, not_exists, not_and, Bool.not_eq_true',
      Bool.not_eq_false, List.contains_iff_mem] at accepted
    refine Or.inr ⟨stack, request, parsed, present, live.1, rfl, parses, ?_, rfl⟩
    exact ⟨⟨stack, present, live⟩, by simpa using accepted.1, parsed, parses, accepted.2⟩

theorem updated_template_cases {parsed : Option ParsedTemplate}
    (parses : updatedTemplate runtime request = .ok parsed) :
    (request.template = "" ∧ parsed = none) ∨
    ∃ decoded, request.template ≠ "" ∧ parsed = some decoded ∧
      parseTemplate runtime request.template = .ok decoded := by
  unfold updatedTemplate at parses
  split at parses
  · rename_i empty
    cases parses
    exact Or.inl ⟨empty, rfl⟩
  · rename_i given
    cases decodes : parseTemplate runtime request.template with
    | error reason =>
      rw [decodes] at parses
      cases parses
    | ok decoded =>
      rw [decodes] at parses
      cases parses
      exact Or.inr ⟨decoded, given, rfl, rfl⟩

variable {state}

theorem updated_well_formed_iff {parsed : Option ParsedTemplate} {rows : List StackResource}
    (formed : StackWellFormed runtime stack rows)
    (parses : updatedTemplate runtime request = .ok parsed) :
    StackWellFormed runtime (applyUpdates (stackUpdates request parsed) stack) rows ↔
      (request.template ≠ "" → TemplateFits runtime request.template rows) := by
  have essentials := updates_essentials request parsed stack
  simp only [Stack.essentials, Prod.mk.injEq] at essentials
  obtain ⟨_, _, template, count⟩ := essentials
  rcases updated_template_cases parses with
    ⟨empty, rfl⟩ | ⟨decoded, given, rfl, decodes⟩
  · refine iff_of_true ⟨?_, ?_⟩ (fun given => absurd empty given)
    · rw [template]
      exact formed.fits
    · rw [count]
      exact formed.counted
  · simp only [Option.map_some, Option.getD_some] at template count
    constructor
    · intro kept _
      exact template ▸ kept.fits
    · intro fits
      refine ⟨template ▸ fits given, ?_⟩
      obtain ⟨_, other, again, _, covers⟩ := fits given
      cases decodes.symm.trans again
      have length := covers.length_eq
      simp only [Resources.logicalIDs, List.length_map] at length
      rw [count, length]

theorem update_well_formed_iff {bound : Except String UpdateStackRequest} {write : Option String}
    (holds : WellFormed runtime state) :
    WellFormed runtime (updateStack runtime state stackID bound write).2 ↔
      WritesKept runtime state (.update stackID bound write) := by
  simp only [WritesKept]
  rcases update_stack_cases runtime state stackID bound write with
    ⟨error, refused, failed⟩ | ⟨stack, request, parsed, found, live, rfl, parses, able, updated⟩
  · rw [refused]
    exact iff_of_true holds fun request same _ able => absurd able (failed request same)
  · rw [updated]
    refine Iff.trans (well_formed_at_iff stackID holds
      (fun other different => find_update_other _ stackID _ updates_keep_id different) ?_) ?_
    · exact fun _ _ => rfl
    have formed := updated_well_formed_iff (well_formed_find holds found live) parses
    rw [find_update_same, found, Option.map_some]
    constructor
    · rintro every _ same given -
      cases same
      refine formed.mp (every _ rfl ?_) given
      have status := congrArg (fun fields => fields.2.1) (updates_essentials request parsed stack)
      exact fun gone => by cases status.symm.trans gone
    · rintro fits _ same -
      cases same
      exact formed.mpr fun given => fits request rfl given able

theorem delete_stack_cases :
    (∃ error, deleteStack state stackID removals = (.error error, state) ∧
      ∀ stack, state.stackTable.find stackID = some stack → stack.status = .deleteComplete) ∨
    ∃ stack, state.stackTable.find stackID = some stack ∧ stack.status ≠ .deleteComplete ∧
      deleteStack state stackID removals = (.ok (), removeStack state stackID removals) := by
  fun_cases deleteStack
  case case1 missing =>
    exact Or.inl ⟨_, rfl, fun stack found => by simpa [found] using missing⟩
  case case2 stack found =>
    obtain ⟨present, live⟩ := Option.filter_eq_some_iff.mp found
    exact Or.inr ⟨stack, present, by simpa using live, rfl⟩

theorem remove_find_other {other : String} (different : other ≠ stackID) :
    (removeStack state stackID removals).stackTable.find other = state.stackTable.find other :=
  find_update_other _ stackID (markRemoved removals) (fun _ => rfl) different

theorem remove_rows_of_other {other : String} (different : other ≠ stackID) :
    (removeStack state stackID removals).rowsOf other = state.rowsOf other := by
  unfold State.rowsOf removeStack
  dsimp only
  split
  · rw [List.filter_filter]
    apply List.filter_congr
    intro row _
    by_cases same : row.stackID = other
    · simp [same, different]
    · simp [same]
  · rfl

theorem remove_rows_of :
    (removeStack state stackID removals).rowsOf stackID =
      if removals.removed then [] else state.rowsOf stackID := by
  unfold State.rowsOf removeStack
  dsimp only
  split
  · rw [List.filter_filter]
    apply List.filter_eq_nil_iff.mpr
    simp
  · rfl

theorem no_rows_do_not_fit : ¬ TemplateFits runtime template [] := by
  rintro ⟨_, parsed, _, valid, covers⟩
  have none := List.nil_perm.mp covers
  exact valid.nonempty (List.map_eq_nil_iff.mp none)

theorem delete_well_formed_iff (holds : WellFormed runtime state) :
    WellFormed runtime (deleteStack state stackID removals).2 ↔
      WritesKept runtime state (.delete stackID removals) := by
  simp only [WritesKept]
  rcases delete_stack_cases stackID with
    ⟨error, refused, gone⟩ | ⟨stack, found, live, deleted⟩
  · rw [refused]
    exact iff_of_true holds fun stack found live => absurd (gone stack found) live
  · rw [deleted]
    refine Iff.trans (well_formed_at_iff stackID holds
      (fun other different => remove_find_other stackID different)
      (fun other different => remove_rows_of_other stackID different)) ?_
    have formed := well_formed_find holds found live
    have present : (removeStack state stackID removals).stackTable.find stackID =
        some (markRemoved removals stack) := by
      have same := find_update_same state.stackTable stackID (markRemoved removals) (fun _ => rfl)
      rw [found] at same
      exact same
    rw [remove_rows_of, present]
    constructor
    · intro every _ _ _ removed
      by_contra unfinished
      rw [if_pos removed] at every
      refine no_rows_do_not_fit (every _ rfl ?_).fits
      simp only [markRemoved, if_neg unfinished]
      split
      · exact fun gone => by cases gone
      · exact live
    · rintro marked row same left
      cases same
      have kept : removals.removed ≠ true := by
        intro removed
        exact left (if_pos (marked stack found live removed))
      rw [if_neg kept]
      exact ⟨formed.fits, formed.counted⟩

theorem step_well_formed_iff {action : Action} (owned : Owned state)
    (holds : WellFormed runtime state) (taken : step runtime state action = some next) :
    WellFormed runtime next ↔ WritesKept runtime state action := by
  cases action with
  | create projectID bound insertions =>
    cases taken
    exact create_well_formed_iff state owned holds
  | update stackID bound write =>
    cases taken
    exact update_well_formed_iff stackID holds
  | delete stackID removals =>
    cases taken
    exact delete_well_formed_iff stackID holds

theorem owned_update {stackID : String} {change : Stack → Stack}
    (keeps : ∀ stack, (change stack).id = stack.id) {resources : List StackResource}
    (fewer : resources ⊆ state.resources) (owned : Owned state) :
    Owned { stackTable := state.stackTable.update stackID change keeps, resources := resources } := by
  intro row member
  rw [keys_update]
  exact owned row (fewer member)

theorem step_owned {action : Action} (owned : Owned state)
    (taken : step runtime state action = some next) : Owned next := by
  cases action with
  | create projectID bound insertions =>
    cases taken
    rcases create_stack_cases runtime state projectID bound insertions with
      ⟨error, refused, _⟩ | ⟨request, parsed, _, _, created⟩
    · rw [refused]
      exact owned
    · rw [created]
      intro row member
      simp only [Table.insert, List.map_append, List.map_singleton, List.mem_append,
        List.mem_singleton]
      rcases List.mem_append.mp member with earlier | new
      · exact Or.inl (owned row earlier)
      · exact Or.inr (new_rows_owner new)
  | update stackID bound write =>
    cases taken
    rcases update_stack_cases runtime state stackID bound write with
      ⟨error, refused, _⟩ | ⟨_, request, parsed, _, _, _, _, _, updated⟩
    · rw [refused]
      exact owned
    · rw [updated]
      exact owned_update _ (List.Subset.refl _) owned
  | delete stackID removals =>
    cases taken
    rcases delete_stack_cases stackID with ⟨error, refused, _⟩ | ⟨_, _, _, deleted⟩
    · rw [refused]
      exact owned
    · rw [deleted]
      apply owned_update _ _ owned
      split
      · exact List.filter_sublist.subset
      · exact List.Subset.refl _

/-- From an empty database, the stored stacks are well-formed along a run exactly
when each of its requests that can be carried out keeps its writes together. -/
theorem stacks_well_formed_iff (actions : List Action) :
    Always (step runtime) (WellFormed runtime) {} actions ↔
      Guarded (step runtime) (WritesKept runtime) {} actions := by
  refine always_iff_guarded
    (fun state => Owned state ∧ WellFormed runtime state) (WellFormed runtime)
    (fun _ both => both.2) ?_ ?_ actions {} ⟨?_, ?_⟩
  · rintro state action next ⟨owned, holds⟩ kept taken
    exact ⟨step_owned owned taken, (step_well_formed_iff owned holds taken).mpr kept⟩
  · rintro state action ⟨owned, holds⟩ lost
    obtain ⟨next, taken⟩ : ∃ next, step runtime state action = some next := by
      cases action <;> exact ⟨_, rfl⟩
    exact ⟨next, taken, fun kept =>
      lost ((step_well_formed_iff owned holds taken).mp kept)⟩
  · exact fun _ member => absurd member List.not_mem_nil
  · exact fun _ member => absurd member List.not_mem_nil

end Runs

def bucketText : String :=
  "\x7b\"resources\":\x7b\"\\u0000\":\x7b\"type\":\"VC::ObjectStorage::Bucket\"\x7d\x7d\x7d"

def bucketTemplate : ParsedTemplate where
  resources := ⟨[("\x00", {type := "VC::ObjectStorage::Bucket"})], by decide⟩

def bucketRuntime : Runtime where
  json := fun raw =>
    if raw = bucketText then .ok bucketTemplate else .error "unexpected end of JSON input"
  quote := id
  loops := fun resources =>
    let listed : Iteration resources := ⟨resources.entries, List.Perm.refl _⟩
    ⟨listed, listed, listed, listed⟩
  columns := stackColumns
  migrated := fun _ member => member

/-- A runtime that decodes every template to the same resources, quotes texts
without escapes and ranges over maps as they are listed. -/
def plainRuntime (parsed : ParsedTemplate) : Runtime where
  json := fun _ => .ok parsed
  quote := fun text => "\"" ++ text ++ "\""
  loops := fun resources =>
    let listed : Iteration resources := ⟨resources.entries, List.Perm.refl _⟩
    ⟨listed, listed, listed, listed⟩
  columns := stackColumns
  migrated := fun _ member => member

def bucketRequest : CreateStackRequest where
  name := "files"
  template := bucketText

def bucketInsertions : Insertions where
  stackID := "stack-1"
  resourceID := fun _ => "resource-1"
  resource := fun _ => some "invalid byte sequence for encoding UTF8: 0x00"

/-- The request is answered with success, and the stack has no row. -/
theorem refused_row_leaves_stack :
    (createStack bucketRuntime {} "project-1" (.ok bucketRequest) bucketInsertions).1 =
      .ok (newStack "project-1" bucketRequest bucketTemplate bucketInsertions).completed ∧
    ¬ Always (step bucketRuntime) (WellFormed bucketRuntime) {}
      [.create "project-1" (.ok bucketRequest) bucketInsertions] := by
  have created : (createStack bucketRuntime {} "project-1" (.ok bucketRequest)
      bucketInsertions).1 =
        .ok (newStack "project-1" bucketRequest bucketTemplate bucketInsertions).completed := rfl
  refine ⟨created, fun always => ?_⟩
  have nothing : WellFormed bucketRuntime {} := fun _ member => absurd member List.not_mem_nil
  have kept := (create_well_formed_iff {}
    (fun _ member => absurd member List.not_mem_nil) nothing).mp (always.2 _ rfl)
  have creatable : Creatable bucketRuntime {} "project-1" bucketInsertions bucketRequest
      bucketTemplate := ⟨rfl, by simp, rfl, by simp⟩
  cases kept _ bucketTemplate rfl creatable "\x00" List.mem_cons_self

end VcStack.Stacks
