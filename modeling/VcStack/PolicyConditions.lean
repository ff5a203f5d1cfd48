import VcStack.PolicyValues
import VcStack.Reordering

/-!
Condition blocks of internal/management/identity/policy_conditions.go: operator
to condition key to values. All operators and all keys must hold; a missing
request context satisfies the empty block only.
-/

namespace VcStack.PolicyConditions

open PolicyValues Text Reordering

structure RequestContext where
  sourceIP : String := ""
  currentTime : GoTime := { instant := 0 }
  userAgent : String := ""
  isSecure : Bool := false
  username : String := ""
  userID : String := ""
  projectID : String := ""
  /-- `none` is the nil map, which the resolver tells from an empty one. -/
  tags : Option (List (String × String)) := none
  extra : Option (List (String × String)) := none

abbrev ConditionBlock := List (String × List (String × Json))

/-- A tag lookup on a non-nil map ends the resolution, present or not; a nil
map falls through to the custom keys. -/
def tagValue (lead key : String) (tags : Option (List (String × String))) : Option String :=
  if hasPrefix key lead then
    tags.map fun entries =>
      (entries.lookup (String.ofList (key.toList.drop lead.length))).getD ""
  else none

def extraValue (key : String) (extra : Option (List (String × String))) : String :=
  match extra with
  | none => ""
  | some entries => (entries.lookup key).getD ""

def conditionKeyResolver (lib : GoLibrary) (key : String) (ctx : RequestContext) : String :=
  match key with
  | "vc:SourceIp" | "aws:SourceIp" => ctx.sourceIP
  | "vc:CurrentTime" | "aws:CurrentTime" => lib.formatRFC3339 ctx.currentTime
  | "vc:UserAgent" => ctx.userAgent
  | "vc:SecureTransport" => if ctx.isSecure then "true" else "false"
  | "vc:Username" | "vc:PrincipalName" => ctx.username
  | "vc:UserId" => ctx.userID
  | "vc:ProjectId" | "vc:TenantId" => ctx.projectID
  | key =>
    -- Request and resource tags are read from the one tag map of the request.
    match tagValue "vc:RequestTag/" key ctx.tags with
    | some value => value
    | none =>
      match tagValue "vc:ResourceTag/" key ctx.tags with
      | some value => value
      | none => extraValue key ctx.extra

def normalizeValues : Json → List String
  | .str value => [value]
  | .arr items => items.filterMap fun item =>
    match item with
    | .str value => some value
    | _ => none
  | _ => []

def stringEquals (lib : GoLibrary) (actual : String) (expected : List String)
    (ignoreCase : Bool) : Bool :=
  expected.any fun exp => if ignoreCase then lib.equalFold actual exp else actual == exp

def star : UInt8 := 42
def question : UInt8 := 63

/-- The arguments are `pattern[pi:]` and `text[ti:]`; a star tries every
remaining suffix of the text, the empty one included. -/
def deepWildcard : List UInt8 → List UInt8 → Bool
  | [], text => text.isEmpty
  | symbol :: pattern, [] => (symbol :: pattern).all (· == star)
  | symbol :: pattern, byte :: text =>
    if symbol == star then (byte :: text).tails.any fun rest => deepWildcard pattern rest
    else if symbol == question then deepWildcard pattern text
    else if symbol != byte then false
    else deepWildcard pattern text

def wildcardMatch (pattern value : String) : Bool :=
  if pattern == "*" then true
  else deepWildcard pattern.toUTF8.data.toList value.toUTF8.data.toList

def stringLike (actual : String) (patterns : List String) : Bool :=
  patterns.any fun pattern => wildcardMatch pattern actual

inductive DateOp where
  | eq | ne | lt | le | gt | ge
  deriving DecidableEq, Repr

def DateOp.holds (op : DateOp) (actual expected : GoTime) : Bool :=
  match op with
  | .eq => decide (actual.instant = expected.instant)
  | .ne => !decide (actual.instant = expected.instant)
  | .lt => decide (actual.instant < expected.instant)
  | .le => !decide (expected.instant < actual.instant)
  | .gt => decide (expected.instant < actual.instant)
  | .ge => !decide (actual.instant < expected.instant)

def dateCompare (lib : GoLibrary) (actual : String) (expected : List String)
    (op : DateOp) : Bool :=
  match lib.parseRFC3339 actual with
  -- A time that does not parse fails every operator, DateNotEquals included.
  | none => false
  | some actualTime => expected.any fun exp =>
    match lib.parseRFC3339 exp with
    | none => false
    | some expTime => op.holds actualTime expTime

def ipInCIDR (lib : GoLibrary) (sourceIP : String) (cidrs : List String) : Bool :=
  match lib.parseIP sourceIP with
  | none => false
  | some ip => cidrs.any fun cidr =>
    -- An address without a mask is compared as text.
    if !cidr.toList.contains '/' then sourceIP == cidr
    else match lib.parseCIDR cidr with
      | none => false
      | some network => network ip

def boolEquals (lib : GoLibrary) (actual : String) (expected : List String) : Bool :=
  expected.any fun exp => lib.equalFold actual exp

def nullCheck (lib : GoLibrary) (actual : String) (expected : List String) : Bool :=
  expected.any fun exp => lib.equalFold exp "true" == (actual == "")

def evaluateOperator (lib : GoLibrary) (operator actual : String)
    (expected : List String) : Bool :=
  match operator with
  | "StringEquals" => stringEquals lib actual expected false
  | "StringNotEquals" => !stringEquals lib actual expected false
  | "StringEqualsIgnoreCase" => stringEquals lib actual expected true
  | "StringNotEqualsIgnoreCase" => !stringEquals lib actual expected true
  | "StringLike" => stringLike actual expected
  | "StringNotLike" => !stringLike actual expected
  | "DateEquals" => dateCompare lib actual expected .eq
  | "DateNotEquals" => dateCompare lib actual expected .ne
  | "DateLessThan" => dateCompare lib actual expected .lt
  | "DateLessThanEquals" => dateCompare lib actual expected .le
  | "DateGreaterThan" => dateCompare lib actual expected .gt
  | "DateGreaterThanEquals" => dateCompare lib actual expected .ge
  | "IpAddress" => ipInCIDR lib actual expected
  | "NotIpAddress" => !ipInCIDR lib actual expected
  | "Bool" => boolEquals lib actual expected
  | "Null" => nullCheck lib actual expected
  -- Unknown operators fail closed.
  | _ => false

def evaluateConditions (lib : GoLibrary) (conditions : ConditionBlock)
    (ctx : Option RequestContext) : Bool :=
  match ctx with
  | none => conditions.isEmpty
  | some ctx => conditions.all fun entry => entry.2.all fun pair =>
    evaluateOperator lib entry.1 (conditionKeyResolver lib pair.1 ctx) (normalizeValues pair.2)

def asConditionKeys : Json → Option (List (String × Json))
  | .obj keyValues => some keyValues
  | _ => none

/-- Operator entries that are not objects are dropped, not reported. -/
def parseConditionBlock : Json → Option ConditionBlock
  | .obj entries => some (entries.filterMap fun entry =>
    (asConditionKeys entry.2).map fun keyValues => (entry.1, keyValues))
  | _ => none

/-! Both contexts read a block entry by entry: a nil context refuses each entry
it meets, so its `len(conditions) == 0` is the same conjunction. -/

def operatorHolds (lib : GoLibrary) (ctx : Option RequestContext)
    (entry : String × List (String × Json)) : Bool :=
  match ctx with
  | none => false
  | some ctx => entry.2.all fun pair =>
    evaluateOperator lib entry.1 (conditionKeyResolver lib pair.1 ctx) (normalizeValues pair.2)

variable {lib : GoLibrary} {ctx : Option RequestContext}

theorem evaluate_conditions_all {block : ConditionBlock} :
    evaluateConditions lib block ctx = block.all (operatorHolds lib ctx) := by
  cases ctx with
  | none => cases block <;> simp [evaluateConditions, operatorHolds]
  | some ctx => rfl

def entryHolds (lib : GoLibrary) (ctx : Option RequestContext) (entry : String × Json) : Bool :=
  match asConditionKeys entry.2 with
  | none => true
  | some keyValues => operatorHolds lib ctx (entry.1, keyValues)

theorem evaluate_parsed_all {entries : List (String × Json)}
    {block : ConditionBlock}
    (parsed : parseConditionBlock (.obj entries) = some block) :
    evaluateConditions lib block ctx = entries.all (entryHolds lib ctx) := by
  rw [evaluate_conditions_all]
  simp only [parseConditionBlock, Option.some.injEq] at parsed
  subst block
  induction entries with
  | nil => rfl
  | cons entry rest ih =>
    cases keys : asConditionKeys entry.2 with
    | none => simpa [keys, entryHolds] using ih
    | some keyValues => simp [keys, entryHolds, ih]

def KeysReordered (left right : String × Json) : Prop :=
  left.1 = right.1 ∧
    (left.2 = right.2 ∨
      ∃ keys others, left.2 = .obj keys ∧ right.2 = .obj others ∧ keys.Perm others)

def ConditionReordered (left right : Json) : Prop :=
  left = right ∨
    ∃ entries others, left = .obj entries ∧ right = .obj others ∧
      Reordered KeysReordered entries others

theorem operator_holds_perm {operator : String}
    {keys others : List (String × Json)} (order : keys.Perm others) :
    operatorHolds lib ctx (operator, keys) = operatorHolds lib ctx (operator, others) := by
  cases ctx with
  | none => rfl
  | some ctx => exact order.all_eq

theorem entry_holds_reordered
    (left right : String × Json) (order : KeysReordered left right) :
    entryHolds lib ctx left = entryHolds lib ctx right := by
  obtain ⟨operator, keyValues⟩ := left
  obtain ⟨name, values⟩ := right
  obtain ⟨sameName, sameValue | ⟨keys, others, leftKeys, rightKeys, permuted⟩⟩ := order
  · subst sameName sameValue
    rfl
  · dsimp only at sameName leftKeys rightKeys
    subst sameName leftKeys rightKeys
    exact operator_holds_perm permuted

end VcStack.PolicyConditions
