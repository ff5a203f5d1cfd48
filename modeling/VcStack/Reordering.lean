import Mathlib.Data.List.Forall2
import Mathlib.Data.List.Perm.Basic

/-!
Lists that agree up to the order of their elements and a relation between
matching elements. Go iterates maps in an unspecified order; a computation over
a map is well defined when it gives equal results on reordered entry lists.
-/

namespace VcStack.Reordering

universe u v
variable {Item : Type u} {Other : Type v}

def Reordered (related : Item → Other → Prop) (items : List Item) (others : List Other) : Prop :=
  ∃ arranged, items.Perm arranged ∧ List.Forall₂ related arranged others

variable {related : Item → Other → Prop}

variable {items : List Item} {others : List Other}

theorem forall2_exists_right
    (matched : List.Forall₂ related items others) :
    (∀ item ∈ items, ∃ other ∈ others, related item other) ∧
      ∀ other ∈ others, ∃ item ∈ items, related item other := by
  induction matched with
  | nil => simp
  | cons head _ ih =>
    constructor
    · intro item member
      rcases List.mem_cons.mp member with same | later
      · subst item
        exact ⟨_, List.mem_cons_self, head⟩
      · obtain ⟨other, found, link⟩ := ih.1 item later
        exact ⟨other, List.mem_cons_of_mem _ found, link⟩
    · intro other member
      rcases List.mem_cons.mp member with same | later
      · subst other
        exact ⟨_, List.mem_cons_self, head⟩
      · obtain ⟨item, found, link⟩ := ih.2 other later
        exact ⟨item, List.mem_cons_of_mem _ found, link⟩

theorem reordered_covers
    (order : Reordered related items others) :
    (∀ item ∈ items, ∃ other ∈ others, related item other) ∧
      ∀ other ∈ others, ∃ item ∈ items, related item other := by
  obtain ⟨arranged, permuted, matched⟩ := order
  have covers := forall2_exists_right matched
  constructor
  · intro item member
    exact covers.1 item (permuted.mem_iff.mp member)
  · intro other member
    obtain ⟨item, found, link⟩ := covers.2 other member
    exact ⟨item, permuted.mem_iff.mpr found, link⟩

theorem exists_reordered_iff (left : Item → Prop) {right : Other → Prop}
    (agree : ∀ item other, related item other → (left item ↔ right other))
    (order : Reordered related items others) :
    (∃ item ∈ items, left item) ↔ ∃ other ∈ others, right other := by
  have covers := reordered_covers order
  constructor
  · rintro ⟨item, member, holds⟩
    obtain ⟨other, found, link⟩ := covers.1 item member
    exact ⟨other, found, (agree item other link).mp holds⟩
  · rintro ⟨other, member, holds⟩
    obtain ⟨item, found, link⟩ := covers.2 other member
    exact ⟨item, found, (agree item other link).mpr holds⟩

theorem all_reordered {left : Item → Bool} {right : Other → Bool}
    (agree : ∀ item other, related item other → left item = right other) (order : Reordered related items others) :
    items.all left = others.all right := by
  have covers := reordered_covers order
  apply Bool.eq_iff_iff.mpr
  rw [List.all_eq_true, List.all_eq_true]
  constructor
  · intro holds other member
    obtain ⟨item, found, link⟩ := covers.2 other member
    rw [← agree item other link]
    exact holds item found
  · intro holds item member
    obtain ⟨other, found, link⟩ := covers.1 item member
    rw [agree item other link]
    exact holds other found

end VcStack.Reordering
