import Mathlib.Data.List.Infix
import VcStack.PolicyConditions

/-!
The wildcards of StringLike, on the bytes of Go strings. The loops of
wildcardMatch and deepWildcard walk two indices; the language they decide is the
one of patterns cut into pieces.
-/

namespace VcStack.WildcardMatching

open PolicyConditions

/-!
Languages of patterns. Every symbol of a pattern stands for a set of pieces, and
a text belongs to a pattern when it can be cut into consecutive pieces, one for
each symbol in order.
-/

section Pieces

universe u v
variable {Symbol : Type u} {Letter : Type v} {accepts : Symbol → List Letter → Prop}

variable (accepts) in
def Cut (pattern : List Symbol) (text : List Letter) : Prop :=
  ∃ pieces : List (List Letter), pieces.flatten = text ∧ List.Forall₂ accepts pattern pieces

variable {text : List Letter} {symbol : Symbol} {pattern : List Symbol}

theorem cut_nil_iff : Cut accepts [] text ↔ text = [] := by
  constructor
  · rintro ⟨pieces, joined, fit⟩
    cases fit
    exact joined.symm
  · rintro rfl
    exact ⟨[], rfl, .nil⟩

theorem cut_cons_iff :
    Cut accepts (symbol :: pattern) text ↔
      ∃ piece rest, piece ++ rest = text ∧ accepts symbol piece ∧ Cut accepts pattern rest := by
  constructor
  · rintro ⟨pieces, joined, fit⟩
    cases fit with
    | cons first later => exact ⟨_, _, joined, first, _, rfl, later⟩
  · rintro ⟨piece, rest, joined, first, pieces, same, later⟩
    refine ⟨piece :: pieces, ?_, .cons first later⟩
    rw [List.flatten_cons, same]
    exact joined

theorem cut_any_iff (any : ∀ piece, accepts symbol piece) :
    Cut accepts (symbol :: pattern) text ↔ ∃ rest, rest <:+ text ∧ Cut accepts pattern rest := by
  rw [cut_cons_iff]
  constructor
  · rintro ⟨piece, rest, joined, _, later⟩
    exact ⟨rest, ⟨piece, joined⟩, later⟩
  · rintro ⟨rest, ⟨piece, joined⟩, later⟩
    exact ⟨piece, rest, joined, any piece, later⟩

theorem cut_letter_iff {fits : Letter → Prop}
    (single : ∀ piece, accepts symbol piece ↔ ∃ letter, piece = [letter] ∧ fits letter) {letter : Letter} :
    Cut accepts (symbol :: pattern) (letter :: text) ↔ fits letter ∧ Cut accepts pattern text := by
  rw [cut_cons_iff]
  constructor
  · rintro ⟨piece, rest, joined, first, later⟩
    obtain ⟨taken, rfl, fit⟩ := (single piece).mp first
    cases joined
    exact ⟨fit, later⟩
  · rintro ⟨fit, later⟩
    exact ⟨[letter], text, rfl, (single _).mpr ⟨letter, rfl, fit⟩, later⟩

theorem cut_empty_iff :
    Cut accepts pattern [] ↔ ∀ symbol ∈ pattern, accepts symbol [] := by
  induction pattern with
  | nil => simp [cut_nil_iff]
  | cons symbol rest ih =>
    rw [cut_cons_iff, List.forall_mem_cons]
    constructor
    · rintro ⟨piece, remaining, joined, first, later⟩
      obtain ⟨rfl, rfl⟩ := List.append_eq_nil_iff.mp joined
      exact ⟨first, ih.mp later⟩
    · rintro ⟨first, later⟩
      exact ⟨[], [], rfl, first, ih.mpr later⟩

end Pieces

/-- The recursion with its indices. The loop behind a star starts the rest of the
pattern at every later place of the text, its end included. -/
def deepWildcardAt (pattern text : List UInt8) (pi ti : Nat) : Bool :=
  if inside : pi < pattern.length then
    if text.length ≤ ti then (pattern.drop pi).all (· == star)
    else if pattern[pi] = star then
      (List.range' ti (text.length + 1 - ti)).any fun start =>
        deepWildcardAt pattern text (pi + 1) start
    else if pattern[pi] = question then deepWildcardAt pattern text (pi + 1) (ti + 1)
    else if text[ti]? ≠ some pattern[pi] then false
    else deepWildcardAt pattern text (pi + 1) (ti + 1)
  else ti == text.length
termination_by pattern.length - pi

def wildcardMatchBytes (pattern value : List UInt8) : Bool :=
  if pattern = [star] then true else deepWildcardAt pattern value 0 0

theorem any_suffix {text : List UInt8} {ti : Nat} (within : ti ≤ text.length)
    {attempt : Nat → Bool} {accepts : List UInt8 → Bool}
    (agree : ∀ start ≤ text.length, attempt start = accepts (text.drop start)) :
    (List.range' ti (text.length + 1 - ti)).any attempt = (text.drop ti).tails.any accepts := by
  apply Bool.eq_iff_iff.mpr
  simp only [List.any_eq_true, List.mem_range'_1, List.mem_tails]
  constructor
  · rintro ⟨start, ⟨after, before⟩, accepted⟩
    rw [agree start (by omega)] at accepted
    refine ⟨text.drop start, ?_, accepted⟩
    obtain ⟨offset, rfl⟩ := Nat.exists_eq_add_of_le after
    rw [← List.drop_drop]
    exact List.drop_suffix _ _
  · rintro ⟨rest, suffix, accepted⟩
    have length := suffix.length_le
    have shape := List.suffix_iff_eq_drop.mp suffix
    rw [List.length_drop] at length shape
    rw [List.drop_drop] at shape
    refine ⟨ti + (text.length - ti - rest.length), ⟨by omega, by omega⟩, ?_⟩
    rw [agree _ (by omega), ← shape]
    exact accepted

theorem deep_wildcard_at {pattern text : List UInt8} (pi ti : Nat) (within : ti ≤ text.length) :
    deepWildcardAt pattern text pi ti = deepWildcard (pattern.drop pi) (text.drop ti) := by
  -- Every call leaves one byte of the pattern behind.
  induction remaining : pattern.length - pi generalizing pi ti with
  | zero =>
    have ended : ¬ pi < pattern.length := by omega
    rw [deepWildcardAt, dif_neg ended, List.drop_eq_nil_of_le (Nat.le_of_not_lt ended), deepWildcard]
    apply Bool.eq_iff_iff.mpr
    rw [beq_iff_eq, List.isEmpty_iff, List.drop_eq_nil_iff]
    omega
  | succ remaining ih =>
    have inside : pi < pattern.length := by omega
    rw [deepWildcardAt, dif_pos inside]
    split
    · rename_i ended
      rw [List.drop_eq_nil_of_le ended, List.drop_eq_getElem_cons inside, deepWildcard]
    · rename_i before
      have place : ti < text.length := Nat.lt_of_not_le before
      have tries := any_suffix within (fun start bound => ih (pi + 1) start bound (by omega))
      rw [List.drop_eq_getElem_cons inside, List.drop_eq_getElem_cons place, deepWildcard,
        ih (pi + 1) (ti + 1) place (by omega), List.getElem?_eq_getElem place,
        ← List.drop_eq_getElem_cons place, tries]
      simp only [beq_iff_eq, bne_iff_ne, ne_eq, Option.some.injEq, eq_comm (a := text[ti])]

theorem wildcard_match_bytes {pattern value : List UInt8} :
    wildcardMatchBytes pattern value = (pattern == [star] || deepWildcard pattern value) := by
  rw [wildcardMatchBytes, deep_wildcard_at 0 0 (Nat.zero_le _)]
  cases whole : (pattern == [star]) <;> simp_all

def Matches (symbol : UInt8) (piece : List UInt8) : Prop :=
  if symbol = star then True
  else if symbol = question then piece.length = 1
  else piece = [symbol]

theorem star_matches (piece : List UInt8) : Matches star piece := by
  rw [Matches, if_pos rfl]
  trivial

theorem symbol_matches_iff {symbol : UInt8} (single : symbol ≠ star) (piece : List UInt8) :
    Matches symbol piece ↔ ∃ byte, piece = [byte] ∧ (symbol = question ∨ symbol = byte) := by
  rw [Matches, if_neg single]
  split
  · rename_i any
    simp [any, List.length_eq_one_iff]
  · rename_i literal
    simp [literal]

theorem matches_empty_iff {symbol : UInt8} : Matches symbol [] ↔ symbol = star := by
  unfold Matches
  split <;> simp_all

theorem deep_wildcard_iff (pattern text : List UInt8) :
    deepWildcard pattern text = true ↔ Cut Matches pattern text := by
  induction pattern generalizing text with
  | nil =>
    rw [cut_nil_iff, deepWildcard]
    exact List.isEmpty_iff
  | cons symbol pattern ih =>
    cases text with
    | nil => simp only [deepWildcard, cut_empty_iff, matches_empty_iff, List.all_eq_true, beq_iff_eq]
    | cons byte text =>
      rw [deepWildcard]
      by_cases any : symbol = star
      · subst any
        rw [cut_any_iff star_matches]
        simp only [beq_self_eq_true, if_true, List.any_eq_true, List.mem_tails, ih]
      · rw [cut_letter_iff (symbol_matches_iff any), ← ih]
        by_cases one : symbol = question
        · subst one
          simp [any]
        · by_cases same : symbol = byte
          · subst same
            simp [any, one]
          · simp [any, one, same]

/-- StringLike decides the glob language. -/
theorem wildcard_match_iff (pattern value : List UInt8) :
    wildcardMatchBytes pattern value = true ↔
      ∃ pieces : List (List UInt8), pieces.flatten = value ∧ List.Forall₂ Matches pattern pieces := by
  have language := deep_wildcard_iff pattern value
  rw [wildcard_match_bytes, Bool.or_eq_true, beq_iff_eq, language]
  constructor
  · rintro (whole | cut)
    · subst whole
      exact ⟨[value], by simp, .cons (star_matches value) .nil⟩
    · exact cut
  · exact Or.inr

end VcStack.WildcardMatching
