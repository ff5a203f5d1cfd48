import Mathlib.Data.List.Nodup
import Mathlib.Data.List.Pairwise
import VcStack.KeyedTables
import VcStack.Text

/-!
The action registry of pkg/iam/actions.go with its two derived maps. The source
spells every entry out; here the entries of one legacy resource share that
resource and the service of their new actions, in the order of the source.
Descriptions are left out, nothing modelled reads them.
-/

namespace VcStack.ActionRegistry

open KeyedTables Text

structure ActionMapping where
  legacy : String
  new : String
  resource : String
  action : String

structure ActionGroup where
  resource : String
  service : String
  actions : List (String × String)

def ActionGroup.mapping (group : ActionGroup) (names : String × String) : ActionMapping where
  legacy := group.resource ++ ":" ++ names.1
  new := "vc:" ++ group.service ++ ":" ++ names.2
  resource := group.resource
  action := names.1

def actionGroups : List ActionGroup := [
  ⟨"compute", "compute", [("list", "ListInstances"), ("get", "GetInstance"),
    ("create", "CreateInstance"), ("update", "UpdateInstance"), ("delete", "DeleteInstance"),
    ("start", "StartInstance"), ("stop", "StopInstance"), ("reboot", "RebootInstance"),
    ("console", "GetConsole")]⟩,
  ⟨"flavor", "compute", [("list", "ListFlavors"), ("create", "CreateFlavor"),
    ("delete", "DeleteFlavor")]⟩,
  ⟨"image", "image", [("list", "ListImages"), ("get", "GetImage"), ("create", "CreateImage"),
    ("update", "UpdateImage"), ("delete", "DeleteImage")]⟩,
  ⟨"volume", "storage", [("list", "ListVolumes"), ("get", "GetVolume"),
    ("create", "CreateVolume"), ("update", "UpdateVolume"), ("delete", "DeleteVolume"),
    ("attach", "AttachVolume"), ("detach", "DetachVolume")]⟩,
  ⟨"snapshot", "storage", [("list", "ListSnapshots"), ("get", "GetSnapshot"),
    ("create", "CreateSnapshot"), ("update", "UpdateSnapshot"), ("delete", "DeleteSnapshot")]⟩,
  ⟨"network", "network", [("list", "ListNetworks"), ("get", "GetNetwork"),
    ("create", "CreateNetwork"), ("update", "UpdateNetwork"), ("delete", "DeleteNetwork")]⟩,
  ⟨"security_group", "network", [("list", "ListSecurityGroups"),
    ("create", "CreateSecurityGroup"), ("update", "UpdateSecurityGroup"),
    ("delete", "DeleteSecurityGroup")]⟩,
  ⟨"floating_ip", "network", [("list", "ListFloatingIPs"), ("create", "CreateFloatingIP"),
    ("delete", "DeleteFloatingIP")]⟩,
  ⟨"router", "network", [("list", "ListRouters"), ("create", "CreateRouter"),
    ("update", "UpdateRouter"), ("delete", "DeleteRouter")]⟩,
  ⟨"dns_zone", "dns", [("list", "ListZones"), ("get", "GetZone"), ("create", "CreateZone"),
    ("update", "UpdateZone"), ("delete", "DeleteZone")]⟩,
  ⟨"dns_record", "dns", [("list", "ListRecords"), ("create", "CreateRecord"),
    ("update", "UpdateRecord"), ("delete", "DeleteRecord")]⟩,
  ⟨"user", "iam", [("list", "ListUsers"), ("get", "GetUser"), ("create", "CreateUser"),
    ("update", "UpdateUser"), ("delete", "DeleteUser")]⟩,
  ⟨"role", "iam", [("list", "ListRoles"), ("create", "CreateRole"), ("update", "UpdateRole"),
    ("delete", "DeleteRole")]⟩,
  ⟨"policy", "iam", [("list", "ListPolicies"), ("create", "CreatePolicy"),
    ("update", "UpdatePolicy"), ("delete", "DeletePolicy")]⟩,
  ⟨"project", "iam", [("list", "ListProjects"), ("create", "CreateProject"),
    ("delete", "DeleteProject")]⟩,
  ⟨"service_account", "iam", [("list", "ListServiceAccounts"), ("get", "GetServiceAccount"),
    ("create", "CreateServiceAccount"), ("delete", "DeleteServiceAccount"),
    ("rotate", "RotateServiceAccountKey")]⟩,
  ⟨"group", "iam", [("list", "ListGroups"), ("get", "GetGroup"), ("create", "CreateGroup"),
    ("update", "UpdateGroup"), ("delete", "DeleteGroup")]⟩,
  ⟨"permission_boundary", "iam", [("set", "SetPermissionBoundary"),
    ("get", "GetPermissionBoundary"), ("delete", "DeletePermissionBoundary")]⟩,
  ⟨"host", "infra", [("list", "ListHosts"), ("create", "CreateHost"), ("update", "UpdateHost"),
    ("delete", "DeleteHost"), ("maintenance", "SetHostMaintenance")]⟩,
  ⟨"cluster", "infra", [("list", "ListClusters"), ("create", "CreateCluster"),
    ("update", "UpdateCluster"), ("delete", "DeleteCluster")]⟩,
  ⟨"kms", "kms", [("list", "ListKeys"), ("get", "GetKey"), ("create", "CreateKey"),
    ("update", "UpdateKey"), ("delete", "DeleteKey")]⟩,
  ⟨"encryption", "encryption", [("list", "ListConfigs"), ("get", "GetConfig"),
    ("create", "CreateConfig"), ("update", "UpdateConfig"), ("delete", "DeleteConfig")]⟩,
  ⟨"baremetal", "baremetal", [("list", "ListNodes"), ("get", "GetNode"),
    ("create", "CreateNode"), ("update", "UpdateNode"), ("delete", "DeleteNode")]⟩,
  ⟨"ha", "ha", [("list", "ListPolicies"), ("get", "ListPolicies"), ("create", "CreatePolicy"),
    ("update", "UpdatePolicy"), ("delete", "DeletePolicy")]⟩,
  ⟨"dr", "dr", [("list", "ListPlans"), ("get", "ListPlans"), ("create", "CreatePlan"),
    ("update", "UpdatePlan"), ("delete", "DeletePlan")]⟩,
  ⟨"backup", "backup", [("list", "ListBackups"), ("get", "ListBackups"),
    ("create", "CreateBackup"), ("delete", "DeleteBackup")]⟩,
  ⟨"vpn", "vpn", [("list", "ListConnections"), ("get", "ListConnections"),
    ("create", "CreateConnection"), ("update", "UpdateConnection"),
    ("delete", "DeleteConnection")]⟩,
  ⟨"monitoring", "monitoring", [("list", "ListAlerts"), ("get", "GetMetrics"),
    ("create", "GetMetrics")]⟩,
  ⟨"catalog", "catalog", [("list", "ListItems"), ("get", "ListItems"), ("create", "CreateItem"),
    ("update", "CreateItem"), ("delete", "DeleteItem")]⟩,
  ⟨"notification", "notification", [("list", "ListSubscriptions"),
    ("create", "CreateSubscription"), ("update", "CreateSubscription"),
    ("delete", "DeleteSubscription")]⟩,
  ⟨"autoscale", "autoscale", [("list", "ListPolicies"), ("get", "ListPolicies"),
    ("create", "CreatePolicy"), ("update", "UpdatePolicy"), ("delete", "DeletePolicy")]⟩,
  ⟨"selfheal", "selfheal", [("list", "ListPolicies"), ("get", "GetPolicy"),
    ("create", "CreatePolicy"), ("update", "UpdatePolicy"), ("delete", "DeletePolicy")]⟩,
  ⟨"quota", "quota", [("list", "ListQuotas"), ("get", "GetQuota"), ("create", "SetQuota"),
    ("update", "UpdateQuota"), ("delete", "DeleteQuota")]⟩,
  ⟨"storage", "storage", [("list", "ListResources"), ("get", "GetResource"),
    ("create", "CreateResource"), ("update", "UpdateResource"), ("delete", "DeleteResource")]⟩,
  ⟨"orchestration", "orchestration", [("list", "ListStacks"), ("get", "GetStack"),
    ("create", "CreateStack"), ("update", "UpdateStack"), ("delete", "DeleteStack")]⟩,
  ⟨"task", "task", [("list", "ListTasks"), ("get", "GetTask"), ("create", "CreateTask")]⟩,
  ⟨"tag", "tag", [("list", "ListTags"), ("get", "GetTag"), ("create", "CreateTag"),
    ("update", "UpdateTag"), ("delete", "DeleteTag")]⟩,
  ⟨"audit", "audit", [("list", "ListLogs"), ("get", "GetLog"), ("create", "CreateConfig"),
    ("update", "UpdateConfig"), ("delete", "DeleteConfig")]⟩,
  ⟨"usage", "usage", [("list", "ListRecords"), ("get", "GetRecord")]⟩,
  ⟨"event", "event", [("list", "ListEvents"), ("get", "GetEvent")]⟩,
  ⟨"metadata", "metadata", [("list", "ListConfigs"), ("get", "GetConfig"),
    ("create", "CreateConfig"), ("update", "UpdateConfig"), ("delete", "DeleteConfig")]⟩,
  ⟨"scheduler", "scheduler", [("list", "ListRules"), ("get", "GetRule"),
    ("create", "CreateRule"), ("update", "UpdateRule"), ("delete", "DeleteRule")]⟩,
  ⟨"config", "config", [("list", "ListConfigs"), ("get", "GetConfig"),
    ("create", "CreateConfig"), ("update", "UpdateConfig"), ("delete", "DeleteConfig")]⟩,
  ⟨"ratelimit", "ratelimit", [("list", "ListPolicies"), ("get", "GetPolicy"),
    ("create", "CreatePolicy"), ("update", "UpdatePolicy"), ("delete", "DeletePolicy")]⟩]

def registry : List ActionMapping :=
  actionGroups.flatMap fun group => group.actions.map group.mapping

def legacyToNew : String → Option String :=
  writeAll (registry.map fun mapping => (mapping.legacy, mapping.new))

def newToLegacy : String → Option String :=
  writeAll (registry.map fun mapping => (mapping.new, mapping.legacy))

variable {mapping : ActionMapping}

theorem mem_registry_iff :
    mapping ∈ registry ↔
      ∃ group ∈ actionGroups, ∃ names ∈ group.actions, mapping = group.mapping names := by
  simp [registry, eq_comm]

/-! What the guards rely on: resource and service names are colon-free and not
empty, no resource has two groups, and no operation of a service belongs to two
resources. The tables are checked by evaluation. -/

def ActionGroup.WellNamed (group : ActionGroup) : Prop :=
  (':' ∉ group.resource.toList ∧ group.resource ≠ "") ∧
    ':' ∉ group.service.toList ∧ group.service ≠ ""

instance (group : ActionGroup) : Decidable group.WellNamed :=
  inferInstanceAs (Decidable (_ ∧ _))

def ActionGroup.Apart (left right : ActionGroup) : Prop :=
  left.resource ≠ right.resource ∧
    (left.service ≠ right.service ∨ ∀ one ∈ left.actions, ∀ two ∈ right.actions, one.2 ≠ two.2)

instance (left right : ActionGroup) : Decidable (left.Apart right) :=
  inferInstanceAs (Decidable (_ ∧ _))

theorem groups_well_named : ∀ group ∈ actionGroups, group.WellNamed := by
  decide +kernel

theorem groups_apart : actionGroups.Pairwise ActionGroup.Apart := by
  decide +kernel

theorem group_actions_nodup : ∀ group ∈ actionGroups, (group.actions.map Prod.fst).Nodup := by
  decide +kernel

theorem apart_symm (left right : ActionGroup) (apart : left.Apart right) :
    right.Apart left := by
  refine ⟨apart.1.symm, ?_⟩
  rcases apart.2 with services | operations
  · exact Or.inl services.symm
  · exact Or.inr fun one memberOne two memberTwo same =>
      operations two memberTwo one memberOne same.symm

instance : Std.Symm ActionGroup.Apart := ⟨apart_symm⟩

theorem groups_apart_of_ne {left right : ActionGroup} (memberLeft : left ∈ actionGroups)
    (memberRight : right ∈ actionGroups) (different : left ≠ right) : left.Apart right :=
  groups_apart.forall memberLeft memberRight different

theorem same_legacy_same_new {left right : ActionMapping} (memberLeft : left ∈ registry)
    (memberRight : right ∈ registry) (same : left.legacy = right.legacy) :
    left.new = right.new := by
  obtain ⟨group, listed, names, inside, shape⟩ := mem_registry_iff.mp memberLeft
  obtain ⟨other, otherListed, others, otherInside, otherShape⟩ := mem_registry_iff.mp memberRight
  subst shape otherShape
  -- Equal names split into the same resource, which has one group only.
  have pieces := joined_inj
    (groups_well_named group listed).1.1 (groups_well_named other otherListed).1.1 same
  by_cases sameGroup : group = other
  · subst other
    have sameNames : names = others :=
      List.inj_on_of_nodup_map (group_actions_nodup group listed) inside otherInside pieces.2
    rw [sameNames]
  · exact absurd pieces.1 (groups_apart_of_ne listed otherListed sameGroup).1

theorem same_new_same_resource {left right : ActionMapping} (memberLeft : left ∈ registry)
    (memberRight : right ∈ registry) (same : left.new = right.new) :
    left.resource = right.resource := by
  obtain ⟨group, listed, names, inside, shape⟩ := mem_registry_iff.mp memberLeft
  obtain ⟨other, otherListed, others, otherInside, otherShape⟩ := mem_registry_iff.mp memberRight
  subst shape otherShape
  have rest : group.service ++ ":" ++ names.2 = other.service ++ ":" ++ others.2 := by
    have whole : "vc:" ++ (group.service ++ ":" ++ names.2) =
        "vc:" ++ (other.service ++ ":" ++ others.2) := by
      simpa [ActionGroup.mapping, String.append_assoc] using same
    exact (String.append_right_inj "vc:").mp whole
  have pieces := joined_inj
    (groups_well_named group listed).2.1 (groups_well_named other otherListed).2.1 rest
  by_cases sameGroup : group = other
  · subst other
    rfl
  · rcases (groups_apart_of_ne listed otherListed sameGroup).2 with services | operations
    · exact absurd pieces.1 services
    · exact absurd pieces.2 (operations names inside others otherInside)

theorem legacy_to_new_exact (member : mapping ∈ registry) :
    legacyToNew mapping.legacy = some mapping.new := by
  have entry : (mapping.legacy, mapping.new) ∈
      registry.map fun mapping => (mapping.legacy, mapping.new) :=
    List.mem_map.mpr ⟨mapping, member, rfl⟩
  obtain ⟨stored, found, listed⟩ := write_all_agrees entry
  obtain ⟨other, otherMember, pair⟩ := List.mem_map.mp listed
  have legacy : other.legacy = mapping.legacy := congrArg Prod.fst pair
  have new : other.new = stored := congrArg Prod.snd pair
  rw [← same_legacy_same_new otherMember member legacy, new]
  exact found

/-- Several legacy actions share a new one; the reverse map keeps the last of
them, which is an action of the same resource. -/
theorem new_to_legacy_resource (member : mapping ∈ registry) :
    ∃ kept ∈ registry, newToLegacy mapping.new = some kept.legacy ∧
      kept.resource = mapping.resource := by
  have entry : (mapping.new, mapping.legacy) ∈
      registry.map fun mapping => (mapping.new, mapping.legacy) :=
    List.mem_map.mpr ⟨mapping, member, rfl⟩
  obtain ⟨stored, found, listed⟩ := write_all_agrees entry
  obtain ⟨kept, keptMember, pair⟩ := List.mem_map.mp listed
  have new : kept.new = mapping.new := congrArg Prod.fst pair
  have legacy : kept.legacy = stored := congrArg Prod.snd pair
  refine ⟨kept, keptMember, ?_, same_new_same_resource keptMember member new⟩
  rw [legacy]
  exact found

theorem mapping_legacy (member : mapping ∈ registry) :
    mapping.legacy = mapping.resource ++ ":" ++ mapping.action := by
  obtain ⟨group, _, names, _, shape⟩ := mem_registry_iff.mp member
  subst shape
  rfl

theorem mapping_resource_named (member : mapping ∈ registry) :
    ':' ∉ mapping.resource.toList ∧ mapping.resource ≠ "" := by
  obtain ⟨group, listed, names, _, shape⟩ := mem_registry_iff.mp member
  subst shape
  exact (groups_well_named group listed).1

theorem mapping_new_shape (member : mapping ∈ registry) :
    ∃ service operation, mapping.new = "vc:" ++ service ++ ":" ++ operation ∧
      ':' ∉ service.toList ∧ service ≠ "" := by
  obtain ⟨group, listed, names, _, shape⟩ := mem_registry_iff.mp member
  subst shape
  exact ⟨group.service, names.2, rfl, (groups_well_named group listed).2⟩

end VcStack.ActionRegistry
