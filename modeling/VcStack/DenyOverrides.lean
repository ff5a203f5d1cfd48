import Mathlib.Data.List.Perm.Basic

/-!
Deny-overrides scans over arbitrary items. Each item is read as a verdict; the
scan keeps one accumulated flag and stops at the first denial. The declarative
reading forgets the order of the items, so every scan that is shown exact here
is also invariant under reordering.
-/

namespace VcStack.DenyOverrides

universe u
variable {Item : Type u}

inductive Verdict where
  | allow
  | deny
  | skip
  deriving DecidableEq, Repr

/-- `none` is the early return of the loop; `some` carries the flag on. -/
def scan (verdict : Item → Verdict) : List Item → Bool → Option Bool
  | [], allowed => some allowed
  | item :: rest, allowed =>
    match verdict item with
    | .deny => none
    | .allow => scan verdict rest true
    | .skip => scan verdict rest allowed

def Allowed (verdict : Item → Verdict) (items : List Item) : Prop :=
  ∃ item ∈ items, verdict item = .allow

def Denied (verdict : Item → Verdict) (items : List Item) : Prop :=
  ∃ item ∈ items, verdict item = .deny

def Granted (verdict : Item → Verdict) (items : List Item) : Prop :=
  Allowed verdict items ∧ ¬ Denied verdict items

variable (verdict : Item → Verdict) (front : List Item)

theorem scan_some_iff (items : List Item) (allowed flag : Bool) :
    scan verdict items allowed = some flag ↔
      ¬ Denied verdict items ∧ (flag = true ↔ allowed = true ∨ Allowed verdict items) := by
  induction items generalizing allowed with
  | nil =>
    cases allowed <;> cases flag <;> simp [scan, Denied, Allowed]
  | cons item rest ih =>
    simp only [Denied, Allowed] at ih ⊢
    cases reading : verdict item <;> simp [scan, reading, ih]

theorem scan_none_iff (items : List Item) (allowed : Bool) :
    scan verdict items allowed = none ↔ Denied verdict items := by
  induction items generalizing allowed with
  | nil => simp [scan, Denied]
  | cons item rest ih =>
    simp only [Denied] at ih ⊢
    cases reading : verdict item <;> simp [scan, reading, ih]

theorem scan_granted_iff {items : List Item} :
    scan verdict items false = some true ↔ Granted verdict items := by
  rw [scan_some_iff]
  simp [Granted, and_comm]

variable {back : List Item}

theorem scan_append (allowed : Bool) :
    scan verdict (front ++ back) allowed =
      (scan verdict front allowed).bind (scan verdict back) := by
  induction front generalizing allowed with
  | nil => rfl
  | cons item rest ih =>
    cases reading : verdict item <;> simp [scan, reading, ih]

theorem allowed_append :
    Allowed verdict (front ++ back) ↔ Allowed verdict front ∨ Allowed verdict back := by
  simp only [Allowed, List.mem_append, or_and_right, exists_or]

theorem denied_append :
    Denied verdict (front ++ back) ↔ Denied verdict front ∨ Denied verdict back := by
  simp only [Denied, List.mem_append, or_and_right, exists_or]

/-- Appended items leave the decision unchanged exactly when they neither
deny what stood granted nor grant what stood merely unallowed. -/
theorem granted_append_iff (back : List Item) :
    (Granted verdict (front ++ back) ↔ Granted verdict front) ↔
      Denied verdict front ∨
      (Allowed verdict front ∧ ¬ Denied verdict back) ∨
      (¬ Allowed verdict front ∧ (Denied verdict back ∨ ¬ Allowed verdict back)) := by
  simp only [Granted, allowed_append, denied_append]
  tauto

end VcStack.DenyOverrides
