import VcStack.Stacks

/-!
previewStack of internal/management/orchestration/handlers.go. It parses the
template and sorts its resources as createStack does, and leaves out the checks
in between.
-/

namespace VcStack.StackPreviews

open DepthFirst Stacks StackTemplates

structure PreviewResource where
  logicalID : String
  type : String
  action : String := "CREATE"
  dependsOn : String
  deriving DecidableEq, Repr

structure PreviewResponse where
  resources : List PreviewResource
  warnings : List String
  deriving DecidableEq, Repr

def previewResource (resources : Resources) (logicalID : String) : PreviewResource :=
  let res := (resources.entries.lookup logicalID).getD {}
  { logicalID := logicalID
    type := res.type
    dependsOn := ", ".intercalate res.dependsOn }

def previewWarning (quote : String → String) (resources : Resources) (logicalID : String) :
    Option String :=
  let res := (resources.entries.lookup logicalID).getD {}
  if isValidResourceType res.type then none
  else some ("unsupported type " ++ quote res.type ++ " for " ++ quote logicalID)

def previewStack (runtime : Runtime) (bound : Except String CreateStackRequest) :
    Except ApiError PreviewResponse :=
  match bound with
  | .error reason => .error (.validation reason)
  | .ok request =>
  match parseTemplate runtime request.template with
  | .error reason => .error (.invalidParam "template" reason)
  | .ok parsed =>
  let resources := parsed.resources
  let order := (topologicalSort resources (depthOf resources) (runtime.loops resources).keys).getD []
  .ok {
    resources := order.map (previewResource resources)
    warnings := order.filterMap (previewWarning runtime.quote resources) }

def Mentioned (resources : Resources) (name : String) : Prop :=
  name ∈ resources.logicalIDs ∨ ∃ entry ∈ resources.entries, name ∈ entry.2.dependsOn

variable {resources : Resources}

theorem depended_mentioned (source target : String)
    (depends : target ∈ resources.dependsOn source) : Mentioned resources target := by
  have defined : source ∈ resources.logicalIDs :=
    Resources.depending_listed source (List.ne_nil_of_mem depends)
  obtain ⟨entry, member, same⟩ := List.mem_map.mp defined
  rw [← same, Resources.depends_on_entry entry member] at depends
  exact .inr ⟨entry, member, depends⟩

theorem sort_lists_mentioned :
    ∃ order : List String,
      (∀ depth (iteration : Iteration resources), resources.entries.length < depth →
        topologicalSort resources depth iteration = some order) ∧
      order.Nodup ∧ ∀ name, name ∈ order ↔ Mentioned resources name := by
  obtain ⟨walk, ran, sorts⟩ := topological_sort_walk
  obtain ⟨once, started, onward⟩ := walk_all ran
  have keys : ∀ name, name ∈ exchangeSort resources.logicalIDs.length resources.logicalIDs ↔
      name ∈ resources.logicalIDs :=
    fun name => exchange_sort_perm.mem_iff
  have within := fold_rule (fun _ state => ∀ other ∈ state.order, Mentioned resources other)
    (fun _ member => absurd member List.not_mem_nil)
    (fun _ node state after member sofar stepped =>
      visit_within (fun source _ => depended_mentioned source)
        state after node (.inl ((keys node).mp member)) sofar stepped) ran
  refine ⟨walk.order, sorts, once, fun name => ⟨within name, ?_⟩⟩
  rintro (defined | ⟨entry, member, depends⟩)
  · exact started name ((keys name).mpr defined)
  · have key := started entry.1 ((keys entry.1).mpr (List.mem_map_of_mem member))
    apply onward entry.1 key
    rw [Resources.depends_on_entry entry member]
    exact depends

theorem mentioned_resolved_iff :
    (∀ name, Mentioned resources name ↔ name ∈ resources.logicalIDs) ↔ Resolved resources := by
  constructor
  · intro only entry member dep depends
    exact (only dep).mp (.inr ⟨entry, member, depends⟩)
  · intro resolved name
    constructor
    · rintro (defined | ⟨entry, member, depends⟩)
      · exact defined
      · exact resolved entry member name depends
    · exact .inl

/-- The preview of a template that parses lists every mentioned name once, in the
order in which the resources would be created. It lists the logical IDs and
nothing else exactly when everything depended on is defined. -/
theorem preview_lists_template_iff (runtime : Runtime) (request : CreateStackRequest)
    (parsed : ParsedTemplate) (parses : parseTemplate runtime request.template = .ok parsed) :
    ∃ preview, previewStack runtime (.ok request) = .ok preview ∧
      (∀ depth (iteration : Iteration parsed.resources), parsed.resources.entries.length < depth →
        topologicalSort parsed.resources depth iteration =
          some (preview.resources.map PreviewResource.logicalID)) ∧
      (preview.resources.map PreviewResource.logicalID).Nodup ∧
      (∀ name, name ∈ preview.resources.map PreviewResource.logicalID ↔
        Mentioned parsed.resources name) ∧
      ((preview.resources.map PreviewResource.logicalID).Perm parsed.resources.logicalIDs ↔
        Resolved parsed.resources) := by
  obtain ⟨order, sorts, once, lists⟩ := sort_lists_mentioned
  have sorted := sorts (depthOf parsed.resources) (runtime.loops parsed.resources).keys
    (Nat.lt_succ_self _)
  have listed : (order.map (previewResource parsed.resources)).map PreviewResource.logicalID =
      order := by
    rw [List.map_map]
    exact List.map_id _
  refine ⟨_, by simp only [previewStack, parses, sorted, Option.getD_some]; rfl, ?_⟩
  dsimp only
  rw [listed]
  refine ⟨sorts, once, lists, ?_⟩
  have same : order.Perm parsed.resources.logicalIDs ↔
      ∀ name, name ∈ order ↔ name ∈ parsed.resources.logicalIDs :=
    List.perm_ext_iff_of_nodup once parsed.resources.distinct
  rw [same, ← mentioned_resolved_iff]
  simp only [lists]

def danglingTemplate : ParsedTemplate where
  resources :=
    ⟨[("server", {type := "VC::Compute::Instance", dependsOn := ["network"]})], by decide⟩

def templateRequest : CreateStackRequest where
  name := "stack"
  template := "template"

theorem layered_template_previewed :
    ∃ preview, previewStack (plainRuntime {resources := layeredTemplate}) (.ok templateRequest) =
        .ok preview ∧
      (preview.resources.map PreviewResource.logicalID).Perm layeredTemplate.logicalIDs := by
  have resolved : Resolved layeredTemplate := by
    unfold Resolved
    decide
  obtain ⟨preview, answered, _, _, _, complete⟩ := preview_lists_template_iff
    (plainRuntime {resources := layeredTemplate}) templateRequest {resources := layeredTemplate} rfl
  exact ⟨preview, answered, complete.mpr resolved⟩

/-- The preview lists the network as a resource to create, and only warns. -/
theorem undefined_name_previewed :
    previewStack (plainRuntime danglingTemplate) (.ok templateRequest) = .ok {
      resources := [
        {logicalID := "network", type := "", dependsOn := ""},
        {logicalID := "server", type := "VC::Compute::Instance", dependsOn := "network"}]
      warnings := ["unsupported type \"\" for \"network\""] } := by
  rfl

end VcStack.StackPreviews
