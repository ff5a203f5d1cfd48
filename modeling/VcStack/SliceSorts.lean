import Mathlib.Data.List.Sort

/-!
Sorting by a comparison whose ties are broken in any way. What the first item may
be is what a user of such a sort can rely on.
-/

namespace VcStack.SliceSorts

universe u
variable {Item : Type u}

structure StrictWeak (less : Item → Item → Bool) : Prop where
  asymm : ∀ first second, less first second = true → less second first = false
  split : ∀ first middle last, less first last = true →
    less first middle = true ∨ less middle last = true

structure SliceSort (Item : Type u) where
  sort : (Item → Item → Bool) → List Item → List Item
  permuted : ∀ less items, (sort less items).Perm items
  ordered : ∀ less items, StrictWeak less →
    (sort less items).Pairwise fun first second => less second first = false

def Least (less : Item → Item → Bool) (items : List Item) (item : Item) : Prop :=
  item ∈ items ∧ ∀ other ∈ items, less other item = false

instance (less : Item → Item → Bool) [DecidableEq Item] (items : List Item) (item : Item) :
    Decidable (Least less items item) := inferInstanceAs (Decidable (_ ∧ _))

theorem strict_weak_of_measure {Measure : Type} [LinearOrder Measure] (measure : Item → Measure) :
    StrictWeak fun first second => decide (measure first < measure second) := by
  constructor
  · intro first second before
    rw [decide_eq_true_eq] at before
    exact decide_eq_false (not_lt_of_gt before)
  · intro first middle last before
    simp only [decide_eq_true_eq] at before ⊢
    rcases lt_or_ge (measure first) (measure middle) with front | back
    · exact Or.inl front
    · exact Or.inr (lt_of_le_of_lt back before)

variable {less : Item → Item → Bool} {items : List Item}

theorem strict_weak_flip (weak : StrictWeak less) :
    StrictWeak fun first second => less second first :=
  ⟨fun first second => weak.asymm second first,
    fun first middle last before => (weak.split last middle first before).symm⟩

theorem first_least {lib : SliceSort Item} (weak : StrictWeak less)
    {rest : List Item} {first : Item} (sorted : lib.sort less items = first :: rest) :
    Least less items first := by
  have same := lib.permuted less items
  have order := lib.ordered less items weak
  rw [sorted] at same order
  constructor
  · exact same.mem_iff.mp List.mem_cons_self
  · intro other member
    rcases List.mem_cons.mp (same.mem_iff.mpr member) with itself | later
    · rw [itself]
      cases before : less first first with
      | false => rfl
      | true => exact before.symm.trans (weak.asymm first first before)
    · exact (List.pairwise_cons.mp order).1 other later

theorem sort_ne_nil {lib : SliceSort Item}
    (some : items ≠ []) : lib.sort less items ≠ [] := by
  intro empty
  have same := lib.permuted less items
  rw [empty] at same
  exact some same.nil_eq.symm

def insertion (less : Item → Item → Bool) (items : List Item) : List Item :=
  items.insertionSort fun first second => less second first = false

theorem insertion_perm (less : Item → Item → Bool) (items : List Item) :
    (insertion less items).Perm items := List.perm_insertionSort _ items

theorem insertion_ordered (less : Item → Item → Bool) (items : List Item)
    (weak : StrictWeak less) :
    (insertion less items).Pairwise fun first second => less second first = false := by
  have total : Std.Total fun first second : Item => less second first = false := by
    constructor
    intro first second
    cases before : less second first with
    | false => exact Or.inl rfl
    | true => exact Or.inr (weak.asymm second first before)
  have trans : IsTrans Item fun first second => less second first = false := by
    constructor
    intro first middle last front back
    cases before : less last first with
    | false => rfl
    | true =>
      rcases weak.split last middle first before with between | between
      · rw [back] at between
        contradiction
      · rw [front] at between
        contradiction
  exact List.pairwise_insertionSort _ items

def stableSort : SliceSort Item where
  sort := insertion
  permuted := insertion_perm
  ordered := insertion_ordered

variable [DecidableEq Item]

def choose (chosen : Item) (less : Item → Item → Bool) (items : List Item) : List Item :=
  if Least less items chosen then chosen :: insertion less (items.erase chosen)
  else insertion less items

def sortChoosing (chosen : Item) : SliceSort Item where
  sort := choose chosen
  permuted := by
    intro less items
    unfold choose
    split
    case isTrue least =>
        exact ((insertion_perm less _).cons chosen).trans (List.perm_cons_erase least.1).symm
    case isFalse => exact insertion_perm less items
  ordered := by
    intro less items weak
    unfold choose
    split
    case isTrue least =>
        refine List.pairwise_cons.mpr ⟨?_, insertion_ordered less _ weak⟩
        intro other member
        exact least.2 other (List.mem_of_mem_erase ((insertion_perm less _).mem_iff.mp member))
    case isFalse => exact insertion_ordered less items weak

theorem least_iff_first (weak : StrictWeak less)
    {item : Item} :
    (∃ lib : SliceSort Item, (lib.sort less items).head? = some item) ↔ Least less items item := by
  constructor
  · rintro ⟨lib, first⟩
    obtain ⟨rest, sorted⟩ := List.head?_eq_some_iff.mp first
    exact first_least weak sorted
  · intro least
    refine ⟨sortChoosing item, ?_⟩
    change (choose item less items).head? = some item
    rw [choose, if_pos least]
    rfl

end VcStack.SliceSorts
