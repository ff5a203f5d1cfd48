import VcStack.PolicyEvaluator

/-!
The negated condition operators. Those on texts and on addresses negate the
answer of the operator they are named after. DateNotEquals is a scan of its own:
it asks for an expected time that differs, where its negation would ask that all
of them do.
-/

namespace VcStack.NegatedOperators

open PolicyValues PolicyConditions PolicyEvaluator

def expectedTimes (lib : GoLibrary) (expected : List String) : List GoTime :=
  expected.filterMap lib.parseRFC3339

variable {lib : GoLibrary}

theorem date_compare_times {actual : String} {expected : List String}
    {op : DateOp} {time : GoTime} (parsed : lib.parseRFC3339 actual = some time) :
    dateCompare lib actual expected op = (expectedTimes lib expected).any (op.holds time) := by
  rw [dateCompare, parsed, expectedTimes]
  induction expected with
  | nil => rfl
  | cons text rest ih =>
    cases read : lib.parseRFC3339 text with
    | none =>
      simp only [List.any_cons, read, Bool.false_or, List.filterMap_cons_none read]
      exact ih
    | some entry =>
      simp only [List.any_cons, read, List.filterMap_cons_some read]
      exact congrArg (op.holds time entry || ·) ih

/-- Some item passes a test and some item fails it, unless the test has one answer
for all of them. -/
theorem any_not_iff {Item : Type} (items : List Item) (test : Item → Bool) :
    (items.any fun item => !test item) = !items.any test ↔
      items ≠ [] ∧ ((∀ item ∈ items, test item = true) ∨ ∀ item ∈ items, test item = false) := by
  cases items with
  | nil => simp
  | cons first rest =>
    cases answer : test first with
    | true =>
      simp only [List.any_cons, answer, Bool.not_true, Bool.false_or, Bool.true_or,
        List.any_eq_false, List.mem_cons, forall_eq_or_imp, ne_eq, reduceCtorEq,
        not_false_eq_true, true_and, Bool.true_eq_false, false_and, or_false]
      simp
    | false =>
      simp only [List.any_cons, answer, Bool.not_false, Bool.true_or, Bool.false_or,
        List.mem_cons, forall_eq_or_imp, ne_eq, reduceCtorEq, not_false_eq_true, true_and,
        Bool.false_eq_true, false_and, false_or]
      rw [eq_comm, Bool.not_eq_true', List.any_eq_false]
      simp

def OneSided (lib : GoLibrary) (time : GoTime) (expected : List String) : Prop :=
  expectedTimes lib expected ≠ [] ∧
    ((∀ entry ∈ expectedTimes lib expected, time.instant = entry.instant) ∨
      ∀ entry ∈ expectedTimes lib expected, time.instant ≠ entry.instant)

theorem date_negates_iff {actual : String} {expected : List String}
    {time : GoTime} (parsed : lib.parseRFC3339 actual = some time) :
    dateCompare lib actual expected .ne = (!dateCompare lib actual expected .eq) ↔
      OneSided lib time expected := by
  rw [date_compare_times parsed, date_compare_times parsed]
  have scans := any_not_iff (expectedTimes lib expected) (DateOp.eq.holds time)
  simp only [DateOp.holds, decide_eq_true_eq, decide_eq_false_iff_not] at scans
  exact scans

def negatedPairs : List (String × String) :=
  [("StringEquals", "StringNotEquals"), ("StringEqualsIgnoreCase", "StringNotEqualsIgnoreCase"),
    ("StringLike", "StringNotLike"), ("IpAddress", "NotIpAddress")]

/-- At a time that parses, DateNotEquals negates DateEquals exactly for one-sided
lists; the operators on texts and addresses negate each other on any list. -/
theorem not_equals_negates_iff (lib : GoLibrary) (actual : String) (expected : List String)
    (time : GoTime) (parsed : lib.parseRFC3339 actual = some time) :
    (evaluateOperator lib "DateNotEquals" actual expected =
        (!evaluateOperator lib "DateEquals" actual expected) ↔
      OneSided lib time expected) ∧
    ∀ pair ∈ negatedPairs,
      evaluateOperator lib pair.2 actual expected = !evaluateOperator lib pair.1 actual expected := by
  constructor
  · exact date_negates_iff parsed
  · simp only [negatedPairs, List.forall_mem_cons, List.not_mem_nil, false_imp_iff, implies_true,
      and_true]
    exact ⟨rfl, rfl, rfl, rfl⟩

def midnights : GoLibrary :=
  {plainLibrary with
    formatRFC3339 := fun time =>
      if time.instant = 1767225600000000000 then "2026-01-01T00:00:00Z"
      else "2026-01-02T00:00:00Z"
    parseRFC3339 := fun text =>
      if text = "2026-01-01T00:00:00Z" then some {instant := 1767225600000000000}
      else if text = "2026-01-02T00:00:00Z" then some {instant := 1767312000000000000}
      else none}

theorem single_date_negates :
    evaluateOperator midnights "DateNotEquals" "2026-01-01T00:00:00Z" ["2026-01-02T00:00:00Z"] =
      !evaluateOperator midnights "DateEquals" "2026-01-01T00:00:00Z" ["2026-01-02T00:00:00Z"] :=
  (not_equals_negates_iff midnights "2026-01-01T00:00:00Z" ["2026-01-02T00:00:00Z"]
    {instant := 1767225600000000000} rfl).1.mpr ⟨by decide, Or.inr (by decide)⟩

def neitherDate (first second : String) : Json :=
  .obj [("DateNotEquals", .obj [("vc:CurrentTime", .arr [.str first, .str second])])]

/-- An Allow for every time but two dates applies at the first of them. -/
theorem allowed_at_excluded_date :
    evaluateOperator midnights "DateEquals" "2026-01-01T00:00:00Z"
        ["2026-01-01T00:00:00Z", "2026-01-02T00:00:00Z"] = true ∧
      evaluateOperator midnights "DateNotEquals" "2026-01-01T00:00:00Z"
        ["2026-01-01T00:00:00Z", "2026-01-02T00:00:00Z"] = true ∧
      evaluatePoliciesWithContext midnights
        [policyOf 1 [allowWhen (neitherDate "2026-01-01T00:00:00Z" "2026-01-02T00:00:00Z")]]
        "compute:create" "*" (some {currentTime := {instant := 1767225600000000000}}) = true := by
  decide

end VcStack.NegatedOperators
