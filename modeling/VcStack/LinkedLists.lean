import Mathlib.Data.List.Chain

/-!
Lists whose items point back at the item before them, as the entries of a hash
chain do. `front` is what an item offers to its successor, `back` what it keeps
of its predecessor.
-/

namespace VcStack.LinkedLists

universe u v
variable {Item : Type u} {Link : Type v} (front back : Item → Link)

def Linked (items : List Item) : Prop :=
  items.IsChain fun earlier later => back later = front earlier

variable {front back}

variable {items : List Item} {item : Item}

theorem linked_snoc_iff :
    Linked front back (items ++ [item]) ↔
      Linked front back items ∧ ∀ last ∈ items.getLast?, back item = front last := by
  simp [Linked, List.isChain_append]

theorem linked_around_iff {after : List Item} (before : List Item) :
    Linked front back (before ++ item :: after) ↔
      (Linked front back before ∧ Linked front back after) ∧
        (∀ last ∈ before.getLast?, back item = front last) ∧
          ∀ next ∈ after.head?, back next = front item := by
  simp only [Linked, List.isChain_append, List.isChain_cons, List.head?_cons, Option.mem_def,
    Option.some.injEq, forall_eq']
  tauto

/-- An item of a linked list can be exchanged exactly when it keeps its back
link, unless it comes first, and its front link, unless it comes last. -/
theorem linked_exchange_iff {before after : List Item} {original edited : Item}
    (linked : Linked front back (before ++ original :: after)) :
    Linked front back (before ++ edited :: after) ↔
      (before ≠ [] → back edited = back original) ∧
        (after ≠ [] → front edited = front original) := by
  obtain ⟨pieces, links, onward⟩ := (linked_around_iff before).mp linked
  rw [linked_around_iff, and_iff_right pieces]
  refine and_congr ?_ ?_
  · constructor
    · intro kept nonempty
      have last := List.getLast?_eq_some_getLast nonempty
      rw [kept _ last, links _ last]
    · intro kept last found
      have nonempty : before ≠ [] := by
        rintro rfl
        contradiction
      rw [kept nonempty, links last found]
  · constructor
    · intro kept nonempty
      have next := List.head?_eq_some_head nonempty
      rw [← kept _ next, ← onward _ next]
    · intro kept next found
      have nonempty : after ≠ [] := by
        rintro rfl
        contradiction
      rw [kept nonempty, onward next found]

theorem linked_set_iff {index : Nat} {original edited : Item}
    (linked : Linked front back items) (here : items[index]? = some original) :
    Linked front back (items.set index edited) ↔
      (index ≠ 0 → back edited = back original) ∧
        (index + 1 < items.length → front edited = front original) := by
  obtain ⟨inside, found⟩ := List.getElem?_eq_some_iff.mp here
  have split : items = items.take index ++ original :: items.drop (index + 1) := by
    rw [← found, List.getElem_cons_drop, List.take_append_drop]
  have exchanged : items.set index edited =
      items.take index ++ edited :: items.drop (index + 1) := by
    rw [List.set_eq_take_append_cons_drop, if_pos inside]
  have first : items.take index ≠ [] ↔ index ≠ 0 := by
    have nonempty : items ≠ [] := List.ne_nil_of_length_pos (by omega)
    simp [List.take_eq_nil_iff, nonempty]
  have last : items.drop (index + 1) ≠ [] ↔ index + 1 < items.length := by
    rw [Ne, List.drop_eq_nil_iff]
    omega
  rw [split] at linked
  rw [exchanged, linked_exchange_iff linked, first, last]

theorem linked_back {first : Item} {rest : List Item} (linked : Linked front back (first :: rest))
    (member : item ∈ rest) : ∃ earlier ∈ first :: rest, back item = front earlier := by
  obtain ⟨before, after, rfl⟩ := List.append_of_mem member
  obtain ⟨_, links, _⟩ := (linked_around_iff (first :: before)).mp linked
  have last := List.getLast?_eq_some_getLast (List.cons_ne_nil first before)
  refine ⟨_, ?_, links _ last⟩
  exact List.mem_append_left (item :: after) (List.getLast_mem _)

/-- What a linked list keeps behind an item that stays is the beginning of what
came after it. -/
theorem linked_sublist_behind (first : Item) (rest remaining : List Item)
    (linked : Linked front back (first :: rest)) (distinct : ((first :: rest).map front).Nodup)
    (removal : remaining.Sublist rest) (kept : Linked front back (first :: remaining)) :
    remaining <+: rest := by
  induction rest generalizing first remaining with
  | nil => simp [List.sublist_nil.mp removal]
  | cons second rest ih =>
    rw [List.map_cons, List.nodup_cons] at distinct
    have tail := (List.isChain_cons.mp linked).2
    cases removal with
    | cons _ onward =>
      cases remaining with
      | nil => exact List.nil_prefix
      | cons item others =>
        -- The item behind the gap points at its predecessor, not at the first.
        have inside := onward.subset List.mem_cons_self
        obtain ⟨earlier, member, links⟩ := linked_back tail inside
        have link : back item = front first := (List.isChain_cons.mp kept).1 item rfl
        have same : front first = front earlier := link.symm.trans links
        exact absurd (same ▸ List.mem_map_of_mem member) distinct.1
    | cons_cons _ onward =>
      have shorter := ih second _ tail distinct.2 onward (List.isChain_cons.mp kept).2
      exact List.prefix_cons_inj second |>.mpr shorter

/-- Where no two items offer the same link, what is left of a linked list is
linked exactly when nothing between two remaining items is gone. -/
theorem linked_sublist_iff {remaining : List Item} (linked : Linked front back items)
    (distinct : (items.map front).Nodup) (removal : remaining.Sublist items) :
    Linked front back remaining ↔ remaining <:+: items := by
  constructor
  · intro kept
    induction removal with
    | slnil => exact List.nil_infix
    | cons first onward ih =>
      rw [List.map_cons, List.nodup_cons] at distinct
      have inside := ih (List.isChain_cons.mp linked).2 distinct.2 kept
      exact inside.trans (List.suffix_cons first _).isInfix
    | cons_cons first onward _ =>
      have behind := linked_sublist_behind first _ _ linked distinct onward kept
      exact (List.prefix_cons_inj first |>.mpr behind).isInfix
  · rintro ⟨before, after, rfl⟩
    exact (List.isChain_append.mp (List.isChain_append.mp linked).1).2.1

theorem linked_last_distinct {last : Item} {root : Link}
    (linked : Linked front back (items ++ [last])) (distinct : (items.map front).Nodup)
    (begins : ∀ first ∈ items.head?, back first = root)
    (unrooted : ∀ item ∈ items, front item ≠ root)
    (determined : ∀ item ∈ items, front item = front last → back item = back last) :
    front last ∉ items.map front := by
  intro again
  obtain ⟨item, member, same⟩ := List.mem_map.mp again
  have backs := determined item member same
  obtain ⟨before, after, rfl⟩ := List.append_of_mem member
  obtain ⟨inner, ends⟩ := linked_snoc_iff.mp linked
  -- The last item points at the newest of the others, the repeated one at its predecessor.
  have newest : back last = front ((item :: after).getLast (List.cons_ne_nil _ _)) :=
    ends _ (by simp [List.getLast?_eq_some_getLast])
  have inside := List.getLast_mem (List.cons_ne_nil item after)
  obtain ⟨_, links, _⟩ := (linked_around_iff before).mp inner
  cases found : before.getLast? with
  | none =>
    rw [List.getLast?_eq_none_iff] at found
    subst found
    have rooted : back item = root := begins item rfl
    exact unrooted _ (List.mem_append_right _ inside) (newest.symm.trans (backs.symm.trans rooted))
  | some earlier =>
    rw [List.map_append, List.nodup_append] at distinct
    have link : back item = front earlier := links earlier found
    exact distinct.2.2 _ (List.mem_map_of_mem (List.mem_of_getLast? found)) _
      (List.mem_map_of_mem inside) (link.symm.trans (backs.trans newest))

/-- Items whose back link follows from their front link offer no link twice, when
the chain starts from a link that none of them offers. -/
theorem linked_distinct {root : Link} (linked : Linked front back items)
    (begins : ∀ first ∈ items.head?, back first = root)
    (unrooted : ∀ item ∈ items, front item ≠ root)
    (determined : ∀ left ∈ items, ∀ right ∈ items, front left = front right →
      back left = back right) : (items.map front).Nodup := by
  induction items using List.reverseRecOn with
  | nil => exact List.nodup_nil
  | append_singleton items last ih =>
    have start : ∀ first ∈ items.head?, back first = root := by
      intro first found
      exact begins first (List.mem_head?_append_of_mem_head? found)
    have free : ∀ item ∈ items, front item ≠ root :=
      fun item member => unrooted item (List.mem_append_left _ member)
    have inner := ih (List.isChain_append.mp linked).1 start free fun left here right there =>
      determined left (List.mem_append_left _ here) right (List.mem_append_left _ there)
    have fresh := linked_last_distinct linked inner start free
      fun item member =>
        determined item (List.mem_append_left _ member) last List.mem_concat_self
    rw [List.map_append, List.map_singleton, List.nodup_append]
    refine ⟨inner, List.pairwise_singleton _ _, ?_⟩
    intro link member other alone same
    rw [List.mem_singleton] at alone
    exact fresh (alone ▸ same ▸ member)

end VcStack.LinkedLists
