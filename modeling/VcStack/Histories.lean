import Mathlib.Data.List.Basic
import Mathlib.Data.List.Induction

/-!
Append-only histories: what every event may rely on of the events before it, and
the latest event of a kind.
-/

namespace VcStack.Histories

universe u
variable {Event : Type u}

def Each (relies : List Event → Event → Prop) (history : List Event) : Prop :=
  ∀ front event back, history = front ++ event :: back → relies front event

variable {relies : List Event → Event → Prop} (history : List Event) {last : Event}

theorem each_nil : Each relies [] := by
  intro front event back shape
  have lengths := congrArg List.length shape
  simp at lengths

theorem snoc_split {front back : List Event} {event : Event}
    (shape : history ++ [last] = front ++ event :: back) :
    (history = front ∧ last = event) ∨ ∃ middle, history = front ++ event :: middle := by
  rcases List.eq_nil_or_concat back with empty | ⟨middle, final, ends⟩
  · subst empty
    obtain ⟨same, only⟩ := List.append_inj' shape rfl
    exact Or.inl ⟨same, List.head_eq_of_cons_eq only⟩
  · rw [ends, List.concat_eq_append, ← List.cons_append, ← List.append_assoc] at shape
    exact Or.inr ⟨middle, (List.append_inj' shape rfl).1⟩

theorem each_snoc_iff :
    Each relies (history ++ [last]) ↔ Each relies history ∧ relies history last := by
  constructor
  · intro every
    constructor
    · intro front event back shape
      apply every front event (back ++ [last])
      rw [shape, List.append_assoc, List.cons_append]
    · exact every history last [] rfl
  · rintro ⟨earlier, here⟩ front event back shape
    rcases snoc_split history shape with ⟨same, equal⟩ | ⟨middle, inside⟩
    · rw [← same, ← equal]
      exact here
    · exact earlier front event middle inside

theorem each_weaken {weaker : List Event → Event → Prop} (every : Each relies history)
    (enough : ∀ front event, event ∈ history → relies front event → weaker front event) :
    Each weaker history := by
  intro front event back shape
  refine enough front event ?_ (every front event back shape)
  rw [shape]
  exact List.mem_append_right _ List.mem_cons_self

theorem each_append {more : List Event} (every : Each relies history)
    (free : ∀ event ∈ more, ∀ before, relies before event) :
    Each relies (history ++ more) := by
  induction more generalizing history with
  | nil =>
    rw [List.append_nil]
    exact every
  | cons event rest ih =>
    rw [List.append_cons]
    apply ih
    · rw [each_snoc_iff]
      exact ⟨every, free event List.mem_cons_self history⟩
    · intro later member
      exact free later (List.mem_cons_of_mem _ member)

/-- What events may rely on can be exchanged when the two agree wherever the history
so far is tracked, and an event that had what it relies on keeps it tracked. -/
theorem each_iff {left right : List Event → Event → Prop} {tracked : List Event → Prop}
    (initial : tracked [])
    (agree : ∀ front event, tracked front → (left front event ↔ right front event))
    (kept : ∀ front event, tracked front → left front event → tracked (front ++ [event]))
    (history : List Event) : Each left history ↔ Each right history := by
  have both : (Each left history ↔ Each right history) ∧ (Each left history → tracked history) := by
    induction history using List.reverseRecOn with
    | nil => exact ⟨iff_of_true each_nil each_nil, fun _ => initial⟩
    | append_singleton front event ih =>
      obtain ⟨same, tracking⟩ := ih
      constructor
      · rw [each_snoc_iff, each_snoc_iff, same]
        apply and_congr_right
        intro earlier
        exact agree front event (tracking (same.mpr earlier))
      · intro every
        obtain ⟨earlier, here⟩ := (each_snoc_iff front).mp every
        exact kept front event (tracking earlier) here
  exact both.1

/-- A list taken from its end has every event after all the events that relate to
it exactly when no event relates to a later one. -/
theorem each_reverse_iff (relates : Event → Event → Prop) {events : List Event}
    (once : events.Nodup) (apart : ∀ event, ¬ relates event event) :
    Each (fun front event => ∀ other ∈ events, relates other event → other ∈ front)
        events.reverse ↔
      events.Pairwise fun earlier later => ¬ relates earlier later := by
  rw [List.pairwise_iff_forall_sublist]
  constructor
  · intro every earlier later listed related
    obtain ⟨before, after, shape, first, second⟩ := List.cons_sublist_iff.mp listed
    obtain ⟨middle, rest, split⟩ := List.append_of_mem (List.singleton_sublist.mp second)
    have whole : events = (before ++ middle) ++ later :: rest := by
      rw [shape, split, List.append_assoc]
    have found : earlier ∈ rest := by
      apply List.mem_reverse.mp
      apply every rest.reverse later (before ++ middle).reverse (by simp [whole]) earlier _ related
      rw [shape]
      exact List.mem_append_left _ first
    -- The earlier event would stand in two places.
    rw [whole] at once
    exact (List.nodup_append.mp once).2.2 earlier (List.mem_append_left _ first) earlier
      (List.mem_cons_of_mem _ found) rfl
  · intro ordered front event back shape other member related
    have whole : events = back.reverse ++ event :: front.reverse := by
      rw [← List.reverse_reverse events, shape]
      simp
    rw [whole] at member
    rcases List.mem_append.mp member with earlier | later
    · refine absurd related (ordered ?_)
      rw [whole]
      exact List.cons_sublist_iff.mpr ⟨_, _, rfl, earlier,
        List.singleton_sublist.mpr List.mem_cons_self⟩
    · rcases List.mem_cons.mp later with same | after
      · exact absurd (same ▸ related) (apart event)
      · exact List.mem_reverse.mp after

structure Latest (kind : Event → Prop) (history : List Event) (event : Event)
    (after : List Event) : Prop where
  there : ∃ before, history = before ++ event :: after
  only : ∀ later ∈ after, ¬ kind later

theorem latest_snoc_self {kind : Event → Prop} {history : List Event} :
    Latest kind (history ++ [last]) last [] :=
  ⟨⟨history, rfl⟩, fun _ member => absurd member List.not_mem_nil⟩

theorem latest_snoc_other {kind : Event → Prop} {history after : List Event} {event : Event}
    (latest : Latest kind history event after) (other : ¬ kind last) :
    Latest kind (history ++ [last]) event (after ++ [last]) := by
  obtain ⟨before, shape⟩ := latest.there
  constructor
  · exact ⟨before, by rw [shape, List.append_assoc, List.cons_append]⟩
  · intro later member
    rcases List.mem_append.mp member with earlier | final
    · exact latest.only later earlier
    · rw [List.mem_singleton.mp final]
      exact other

end VcStack.Histories
