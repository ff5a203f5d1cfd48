import Mathlib.Data.List.Basic

/-!
Sorting by exchanges: each position is compared with all later ones and takes
every item that belongs before its own.
-/

namespace VcStack.ExchangeSort

open scoped List

universe u
variable {Item : Type u} (after : Item → Item → Prop) [DecidableRel after]

def exchange (item : Item) : List Item → Item × List Item
  | [] => (item, [])
  | other :: rest =>
    if after item other then
      let passed := exchange other rest
      (passed.1, item :: passed.2)
    else
      let passed := exchange item rest
      (passed.1, other :: passed.2)

def exchangeSort : Nat → List Item → List Item
  | _, [] => []
  | 0, items => items
  | positions + 1, item :: rest =>
    let passed := exchange after item rest
    passed.1 :: exchangeSort positions passed.2

theorem exchange_perm (item : Item) (rest : List Item) :
    ((exchange after item rest).1 :: (exchange after item rest).2).Perm (item :: rest) := by
  induction rest generalizing item with
  | nil => exact List.Perm.refl _
  | cons other rest ih =>
    simp only [exchange]
    split
    · calc (exchange after other rest).1 :: item :: (exchange after other rest).2
          _ ~ item :: (exchange after other rest).1 :: (exchange after other rest).2 :=
              List.Perm.swap _ _ _
          _ ~ item :: other :: rest := (ih other).cons item
    · calc (exchange after item rest).1 :: other :: (exchange after item rest).2
          _ ~ other :: (exchange after item rest).1 :: (exchange after item rest).2 :=
              List.Perm.swap _ _ _
          _ ~ other :: item :: rest := (ih item).cons other
          _ ~ item :: other :: rest := List.Perm.swap _ _ _

theorem exchange_sort_perm {positions : Nat} (items : List Item) :
    (exchangeSort after positions items).Perm items := by
  induction positions generalizing items with
  | zero => cases items <;> exact List.Perm.refl _
  | succ positions ih =>
    cases items with
    | nil => exact List.Perm.refl _
    | cons item rest =>
      calc (exchange after item rest).1 ::
            exchangeSort after positions (exchange after item rest).2
        _ ~ (exchange after item rest).1 :: (exchange after item rest).2 := (ih _).cons _
        _ ~ item :: rest := exchange_perm after item rest

section Ordered

variable (asymm : ∀ left right, after left right → ¬ after right left)
variable (trans : ∀ left middle right, ¬ after left middle → ¬ after middle right →
  ¬ after left right)

include asymm trans

theorem exchange_first (item : Item) {rest : List Item} :
    ¬ after (exchange after item rest).1 item ∧
      ∀ other ∈ (exchange after item rest).2, ¬ after (exchange after item rest).1 other := by
  induction rest generalizing item with
  | nil =>
    refine ⟨fun above => asymm item item above above, ?_⟩
    intro other member
    exact absurd member List.not_mem_nil
  | cons first rest ih =>
    simp only [exchange]
    split
    · rename_i above
      obtain ⟨bound, least⟩ := ih first
      have below := trans _ _ _ bound (asymm item first above)
      refine ⟨below, fun other member => ?_⟩
      rcases List.mem_cons.mp member with same | later
      · exact same ▸ below
      · exact least other later
    · rename_i notAbove
      obtain ⟨bound, least⟩ := ih item
      refine ⟨bound, fun other member => ?_⟩
      rcases List.mem_cons.mp member with same | later
      · rw [same]
        exact trans _ _ _ bound notAbove
      · exact least other later

theorem exchange_sort_sorted {positions : Nat} (items : List Item)
    (enough : items.length ≤ positions) :
    (exchangeSort after positions items).Pairwise fun left right => ¬ after left right := by
  induction positions generalizing items with
  | zero =>
    rw [List.eq_nil_of_length_eq_zero (Nat.le_zero.mp enough)]
    exact List.Pairwise.nil
  | succ positions ih =>
    cases items with
    | nil => exact List.Pairwise.nil
    | cons item rest =>
      have shorter : (exchange after item rest).2.length ≤ positions := by
        have same := (exchange_perm after item rest).length_eq
        simp only [List.length_cons] at same enough
        omega
      apply List.Pairwise.cons
      · intro other member
        have among := (exchange_sort_perm after (exchange after item rest).2).mem_iff.mp member
        exact (exchange_first after asymm trans item).2 other among
      · exact ih (exchange after item rest).2 shorter

end Ordered

end VcStack.ExchangeSort
