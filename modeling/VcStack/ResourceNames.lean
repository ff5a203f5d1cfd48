import VcStack.PolicyEvaluator

/-!
Resource names, `vrn:vcstack:service:project:type/id`: how pkg/iam prints, parses
and matches them, and that its matcher agrees with the one the policy evaluator
runs on the printed names.
-/

namespace VcStack.ResourceNames

open PolicyValues PolicyEvaluator Text

structure VRN where
  partition : String := "vcstack"
  service : String
  projectID : String
  resourceType : String
  resourceID : String
deriving DecidableEq, Repr

def newVRN (service projectID resourceType resourceID : String) : VRN :=
  { service := service, projectID := projectID,
    resourceType := resourceType, resourceID := resourceID }

def allVRN : VRN :=
  {service := "*", projectID := "*", resourceType := "*", resourceID := "*"}

def VRN.toString (v : VRN) : String :=
  "vrn" ++ ":" ++ v.partition ++ ":" ++ v.service ++ ":" ++ v.projectID ++ ":" ++
    v.resourceType ++ "/" ++ v.resourceID

inductive ResourceError where
  | noSlash (s : String)
  | emptyType (s : String)
  | emptyID (s : String)
deriving DecidableEq, Repr

/-- `quote` is the verb `%q`. -/
def ResourceError.text (quote : String → String) : ResourceError → String
  | .noSlash s => "expected 'type/id' format, got " ++ quote s
  | .emptyType s => "resource type cannot be empty in " ++ quote s
  | .emptyID s => "resource ID cannot be empty in " ++ quote s

inductive ParseError where
  | format (parts : Nat) (s : String)
  | lead (got : String)
  | partition (got : String)
  | resource (reason : ResourceError)
deriving DecidableEq, Repr

def ParseError.text (quote : String → String) : ParseError → String
  | .format parts s =>
    "invalid VRN format: expected 5 colon-separated parts, got " ++ ToString.toString parts ++
      " in " ++ quote s
  | .lead got => "invalid VRN prefix: expected " ++ quote "vrn" ++ ", got " ++ quote got
  | .partition got =>
    "invalid VRN partition: expected " ++ quote "vcstack" ++ ", got " ++ quote got
  | .resource reason => "invalid VRN resource: " ++ reason.text quote

def splitResource (s : String) : Except ResourceError (String × String) :=
  if s = "*" ∨ s = "*/*" then .ok ("*", "*")
  else match cutString '/' s with
    | none => .error (.noSlash s)
    | some (resourceType, resourceID) =>
      if resourceType = "" then .error (.emptyType s)
      else if resourceID = "" then .error (.emptyID s)
      else .ok (resourceType, resourceID)

def parseVRN (s : String) : Except ParseError VRN :=
  if s = "*" then .ok allVRN
  else match splitN ':' 5 s with
    | [lead, partition, service, projectID, resourcePart] =>
      if lead ≠ "vrn" then .error (.lead lead)
      else if partition ≠ "vcstack" then .error (.partition partition)
      else match splitResource resourcePart with
        | .error reason => .error (.resource reason)
        | .ok (resourceType, resourceID) =>
          .ok {
            partition := partition, service := service, projectID := projectID,
            resourceType := resourceType, resourceID := resourceID }
    | parts => .error (.format parts.length s)

def matchComponent (pattern value : String) : Bool :=
  if pattern == "*" then true
  else if pattern == value then true
  else if hasSuffix pattern "*" then hasPrefix value (String.ofList pattern.toList.dropLast)
  else false

def VRN.matches (pattern resource : VRN) : Bool :=
  matchComponent pattern.service resource.service &&
    matchComponent pattern.projectID resource.projectID &&
    matchComponent pattern.resourceType resource.resourceType &&
    matchComponent pattern.resourceID resource.resourceID

/-- The name of which the last part is still to be split. -/
def fullName (service projectID resourcePart : String) : String :=
  "vrn" ++ ":" ++ "vcstack" ++ ":" ++ service ++ ":" ++ projectID ++ ":" ++ resourcePart

variable {service projectID s part value r : String} {v resource : VRN} {lib : GoLibrary}

-- Stated, since the equations of long appends are slow to generate.
theorem full_name_eq {resourcePart : String} :
    fullName service projectID resourcePart =
      "vrn" ++ ":" ++ "vcstack" ++ ":" ++ service ++ ":" ++ projectID ++ ":" ++ resourcePart := rfl

theorem to_string_eq :
    v.toString = "vrn" ++ ":" ++ v.partition ++ ":" ++ v.service ++ ":" ++ v.projectID ++ ":" ++
      v.resourceType ++ "/" ++ v.resourceID := rfl

theorem split_name_iff {lead partition resourcePart : String} :
    splitN ':' 5 s = [lead, partition, service, projectID, resourcePart] ↔
      (':' ∉ lead.toList ∧ ':' ∉ partition.toList ∧ ':' ∉ service.toList ∧ ':' ∉ projectID.toList) ∧
      s = lead ++ ":" ++ partition ++ ":" ++ service ++ ":" ++ projectID ++ ":" ++
        resourcePart := by
  have split := split_n_iff ':' [lead, partition, service, projectID] resourcePart s
  have colon : String.singleton ':' = ":" := rfl
  simpa [joinPieces, colon, String.append_assoc] using split

theorem split_full_name {resourcePart : String}
    (serviceFree : ':' ∉ service.toList) (projectFree : ':' ∉ projectID.toList) :
    splitN ':' 5 (fullName service projectID resourcePart) =
      ["vrn", "vcstack", service, projectID, resourcePart] :=
  split_name_iff.mpr ⟨⟨by decide, by decide, serviceFree, projectFree⟩, rfl⟩

theorem leads_ne_star {rest : String} : "vrn" ++ rest ≠ "*" := by
  intro same
  have lengths := congrArg String.length same
  have lead : "vrn".length = 3 := rfl
  have star : "*".length = 1 := rfl
  rw [String.length_append, lead, star] at lengths
  omega

theorem full_name_ne_star {resourcePart : String} :
    fullName service projectID resourcePart ≠ "*" := by
  simp only [full_name_eq, String.append_assoc]
  exact leads_ne_star

theorem cut_slash_iff {left right : String} :
    cutString '/' s = some (left, right) ↔ '/' ∉ left.toList ∧ s = left ++ "/" ++ right :=
  cut_string_some_iff right

theorem split_resource_iff {resourceType resourceID : String} :
    splitResource s = .ok (resourceType, resourceID) ↔
      s = "*" ∧ resourceType = "*" ∧ resourceID = "*" ∨
      cutString '/' s = some (resourceType, resourceID) ∧ resourceType ≠ "" ∧ resourceID ≠ "" := by
  unfold splitResource
  split_ifs with wild
  · rcases wild with rfl | rfl
    · have whole : cutString '/' "*" = none := by decide
      simp [whole, eq_comm]
    · have parts : cutString '/' "*/*" = some ("*", "*") := by decide
      simp only [parts, Except.ok.injEq, Option.some.injEq, Prod.mk.injEq]
      constructor
      · rintro ⟨rfl, rfl⟩
        exact Or.inr ⟨⟨rfl, rfl⟩, by decide, by decide⟩
      · rintro (⟨single, _⟩ | ⟨same, _⟩)
        · exact absurd single (by decide)
        · exact same
  · rw [not_or] at wild
    cases found : cutString '/' s with
    | none => simp [wild.1]
    | some pieces =>
      obtain ⟨left, right⟩ := pieces
      simp only [wild.1, false_and, false_or, Option.some.injEq, Prod.mk.injEq]
      split_ifs with typeEmpty idEmpty
      · constructor
        · intro failed
          contradiction
        · rintro ⟨⟨rfl, _⟩, filled, _⟩
          exact absurd typeEmpty filled
      · constructor
        · intro failed
          contradiction
        · rintro ⟨⟨_, rfl⟩, _, filled⟩
          exact absurd idEmpty filled
      · simp only [Except.ok.injEq, Prod.mk.injEq]
        constructor
        · rintro ⟨rfl, rfl⟩
          exact ⟨⟨rfl, rfl⟩, typeEmpty, idEmpty⟩
        · exact And.left

/-- The universal wildcard apart, the names that parse are the full names whose
last part does. -/
theorem parse_ok_iff :
    parseVRN s = .ok v ↔
      s = "*" ∧ v = allVRN ∨
      ∃ resourcePart, s = fullName v.service v.projectID resourcePart ∧
        v.partition = "vcstack" ∧ ':' ∉ v.service.toList ∧ ':' ∉ v.projectID.toList ∧
        splitResource resourcePart = .ok (v.resourceType, v.resourceID) := by
  by_cases star : s = "*"
  · subst star
    have noName : ∀ resourcePart, "*" ≠ fullName v.service v.projectID resourcePart :=
      fun resourcePart same => full_name_ne_star same.symm
    simp [parseVRN, noName, eq_comm]
  · simp only [star, false_and, false_or]
    constructor
    · intro parsed
      rw [parseVRN, if_neg star] at parsed
      split at parsed
      · rename_i lead partition service projectID resourcePart parts
        split_ifs at parsed with leads partitioned
        obtain ⟨⟨_, _, serviceFree, projectFree⟩, shape⟩ := split_name_iff.mp parts
        rw [ne_eq, not_not] at leads partitioned
        subst leads partitioned
        cases split : splitResource resourcePart with
        | error reason =>
          rw [split] at parsed
          contradiction
        | ok pieces =>
          rw [split] at parsed
          cases parsed
          exact ⟨resourcePart, shape, rfl, serviceFree, projectFree, split⟩
      · contradiction
    · rintro ⟨resourcePart, rfl, partitioned, serviceFree, projectFree, split⟩
      obtain ⟨partition, service, projectID, resourceType, resourceID⟩ := v
      dsimp only at partitioned serviceFree projectFree split
      subst partitioned
      rw [parseVRN, if_neg star, split_full_name serviceFree projectFree]
      simp [split]

theorem to_string_full_name (partitioned : v.partition = "vcstack") :
    v.toString = fullName v.service v.projectID (v.resourceType ++ "/" ++ v.resourceID) := by
  simp only [to_string_eq, full_name_eq, partitioned, String.append_assoc]

theorem full_name_inj {first second : String}
    (same : fullName service projectID first = fullName service projectID second) :
    first = second := by
  have chars := congrArg String.toList same
  simp only [full_name_eq, String.toList_append, List.append_cancel_left_eq] at chars
  exact String.toList_inj.mp chars

theorem to_string_ne_star : v.toString ≠ "*" := by
  simp only [to_string_eq, String.append_assoc]
  exact leads_ne_star

def resourcePart (s : String) : Option String := (splitN ':' 5 s)[4]?

theorem resource_part_full_name
    (serviceFree : ':' ∉ service.toList) (projectFree : ':' ∉ projectID.toList) :
    resourcePart (fullName service projectID part) = some part := by
  rw [resourcePart, split_full_name serviceFree projectFree]
  rfl

theorem printed_name_parses_iff (v : VRN) :
    parseVRN v.toString = .ok v ↔
      v.partition = "vcstack" ∧ ':' ∉ v.service.toList ∧ ':' ∉ v.projectID.toList ∧
        v.resourceType ≠ "" ∧ '/' ∉ v.resourceType.toList ∧ v.resourceID ≠ "" := by
  rw [parse_ok_iff]
  constructor
  · rintro (⟨star, _⟩ | ⟨part, shape, partitioned, serviceFree, projectFree, split⟩)
    · exact absurd star to_string_ne_star
    · rw [to_string_full_name partitioned] at shape
      have whole := full_name_inj shape
      rcases split_resource_iff.mp split with ⟨star, typed, named⟩ | ⟨cut, filled, named⟩
      · rw [← whole, typed, named] at star
        exact absurd star (by decide)
      · exact ⟨partitioned, serviceFree, projectFree, filled, (cut_slash_iff.mp cut).1, named⟩
  · rintro ⟨partitioned, serviceFree, projectFree, filled, slashFree, named⟩
    right
    refine ⟨v.resourceType ++ "/" ++ v.resourceID, to_string_full_name partitioned,
      partitioned, serviceFree, projectFree, split_resource_iff.mpr (Or.inr ?_)⟩
    exact ⟨cut_slash_iff.mpr ⟨slashFree, rfl⟩, filled, named⟩

theorem parsed_name_prints (s : String) (v : VRN) (parsed : parseVRN s = .ok v)
    (notAll : s ≠ "*") (notAny : resourcePart s ≠ some "*") : v.toString = s := by
  rcases parse_ok_iff.mp parsed with
    ⟨star, _⟩ | ⟨part, rfl, partitioned, serviceFree, projectFree, split⟩
  · exact absurd star notAll
  rw [resource_part_full_name serviceFree projectFree] at notAny
  rcases split_resource_iff.mp split with ⟨star, _⟩ | ⟨cut, _⟩
  · exact absurd (congrArg some star) notAny
  · rw [to_string_full_name partitioned, (cut_slash_iff.mp cut).2]

/-- Printing and parsing are inverse to each other: on the names that consist of
separate parts, and on the texts that spell out their resource. -/
theorem print_parse_inverse :
    (∀ v : VRN, parseVRN v.toString = .ok v ↔
      v.partition = "vcstack" ∧ ':' ∉ v.service.toList ∧ ':' ∉ v.projectID.toList ∧
        v.resourceType ≠ "" ∧ '/' ∉ v.resourceType.toList ∧ v.resourceID ≠ "") ∧
    ∀ s v, parseVRN s = .ok v → s ≠ "*" → resourcePart s ≠ some "*" → v.toString = s :=
  ⟨printed_name_parses_iff, parsed_name_prints⟩

theorem instance_name_printed :
    (newVRN "compute" "proj-123" "instance" "i/a:b").toString =
        "vrn:vcstack:compute:proj-123:instance/i/a:b" ∧
      parseVRN "vrn:vcstack:compute:proj-123:instance/i/a:b" =
        .ok (newVRN "compute" "proj-123" "instance" "i/a:b") :=
  ⟨print_parse_inverse.2 "vrn:vcstack:compute:proj-123:instance/i/a:b" _ (by decide +kernel)
      (by decide) (by decide +kernel),
    (print_parse_inverse.1 (newVRN "compute" "proj-123" "instance" "i/a:b")).mpr
      (by decide +kernel)⟩

/-- The two texts that are printed in another way than they were written. -/
example : (parseVRN "vrn:vcstack:iam::*").map VRN.toString = .ok "vrn:vcstack:iam::*/*" ∧
    (parseVRN "*").map VRN.toString = .ok "vrn:vcstack:*:*:*/*" := by
  decide +kernel

theorem match_component_eq {pattern : String} :
    matchVRNComponent pattern value = matchComponent pattern value := rfl

theorem match_self : matchComponent value value = true := by
  simp [matchComponent]

theorem full_name_leads :
    hasPrefix (fullName service projectID part) "vrn:" = true := by
  rw [hasPrefix, List.isPrefixOf_iff_prefix]
  refine ⟨("vcstack" ++ ":" ++ service ++ ":" ++ projectID ++ ":" ++ part).toList, ?_⟩
  simp [full_name_eq]

/-- The resource parts are compared as the resources they stand for, when the
second spells out its type and identifier. -/
theorem match_resource_part
    {pType pID vType vID : String} (split : splitResource part = .ok (pType, pID))
    (named : cutString '/' value = some (vType, vID)) :
    matchVRNResourcePart lib part value =
      (matchComponent pType vType && matchComponent pID vID) := by
  unfold matchVRNResourcePart
  rcases split_resource_iff.mp split with ⟨rfl, rfl, rfl⟩ | ⟨cut, _, _⟩
  · rfl
  · split_ifs with wild
    · have parts : cutString '/' "*/*" = some ("*", "*") := by decide
      have whole : cutString '/' "*" = none := by decide
      rcases Bool.or_eq_true_iff.mp wild with star | both
      · rw [beq_iff_eq.mp star, whole] at cut
        contradiction
      · rw [beq_iff_eq.mp both, parts] at cut
        cases cut
        rfl
    · rw [cut, named]
      rfl

structure Named (r : String) (resource : VRN) (value : String) : Prop where
  shape : r = fullName resource.service resource.projectID value
  serviceFree : ':' ∉ resource.service.toList
  projectFree : ':' ∉ resource.projectID.toList
  cut : cutString '/' value = some (resource.resourceType, resource.resourceID)

theorem named_of_parsed
    (parsed : parseVRN r = .ok resource) (notAll : r ≠ "*")
    (last : resourcePart r = some part) (typed : '/' ∈ part.toList) :
    Named r resource part := by
  rcases parse_ok_iff.mp parsed with
    ⟨star, _⟩ | ⟨value, shape, _, serviceFree, projectFree, split⟩
  · exact absurd star notAll
  rw [shape, resource_part_full_name serviceFree projectFree, Option.some.injEq] at last
  subst last
  rcases split_resource_iff.mp split with ⟨rfl, _⟩ | ⟨cut, _⟩
  · exact absurd typed (by decide)
  · exact ⟨shape, serviceFree, projectFree, cut⟩

theorem match_named {p : String} {pattern : VRN}
    (parsed : parseVRN p = .ok pattern) (named : Named r resource part) :
    matchResourceString lib p r = pattern.matches resource := by
  rw [named.shape]
  rcases parse_ok_iff.mp parsed with
    ⟨rfl, rfl⟩ | ⟨wanted, rfl, _, serviceFree, projectFree, split⟩
  · rfl
  · rw [matchResourceString, full_name_leads, full_name_leads,
      beq_eq_false_iff_ne.mpr full_name_ne_star]
    simp only [Bool.false_eq_true, if_false, Bool.and_self, if_true]
    rw [matchVRN, split_full_name serviceFree projectFree,
      split_full_name named.serviceFree named.projectFree]
    simp only [match_component_eq, match_self, Bool.true_and]
    rw [match_resource_part split named.cut]
    simp only [VRN.matches, Bool.and_assoc]

/-- The evaluator's matcher on two names is the matcher on what they parse to,
when the second is a single resource. -/
theorem matchers_agree (lib : GoLibrary) (p r : String) (pattern resource : VRN)
    (patternParsed : parseVRN p = .ok pattern) (resourceParsed : parseVRN r = .ok resource)
    (notAll : r ≠ "*") (part : String) (last : resourcePart r = some part)
    (typed : '/' ∈ part.toList) :
    matchResourceString lib p r = pattern.matches resource :=
  match_named patternParsed (named_of_parsed resourceParsed notAll last typed)

theorem project_wildcard_agrees :
    let p := "vrn:vcstack:storage:*:vol*/*"
    let r := "vrn:vcstack:storage:proj-1:volume/v-1"
    matchResourceString plainLibrary p r = true ∧
      matchResourceString plainLibrary p r =
        (newVRN "storage" "*" "vol*" "*").matches (newVRN "storage" "proj-1" "volume" "v-1") :=
  ⟨by decide +kernel, matchers_agree plainLibrary "vrn:vcstack:storage:*:vol*/*"
    "vrn:vcstack:storage:proj-1:volume/v-1" _ _ (by decide +kernel) (by decide +kernel) (by decide)
    "volume/v-1" (by decide +kernel) (by decide)⟩

/-- Without the slash the parts are compared as file names. -/
example : matchResourceString plainLibrary "vrn:vcstack:iam::user/u" "vrn:vcstack:iam::*" =
    plainLibrary.filepathMatch "user/u" "*" := by
  decide +kernel

end VcStack.ResourceNames
