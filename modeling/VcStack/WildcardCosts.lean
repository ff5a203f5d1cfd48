import Mathlib.Algebra.GroupWithZero.Nat
import Mathlib.Data.List.DropRight
import VcStack.WildcardMatching

/-!
What the wildcards of StringLike cost. Behind a star deepWildcard calls itself at
every later place of the text until one call succeeds; the literal bytes and the
question marks of a pattern are consumed by the loop of one call. The calls are
counted beside the answer.
-/

namespace VcStack.WildcardCosts

open PolicyConditions WildcardMatching

/-- The loop behind a star: one call for each place, up to the first that succeeds.
The count is that of all calls made. -/
def attempts (call : List UInt8 → Bool × Nat) : List (List UInt8) → Bool × Nat
  | [] => (false, 0)
  | text :: rest =>
    if (call text).1 then (true, 1 + (call text).2)
    else ((attempts call rest).1, 1 + (call text).2 + (attempts call rest).2)

/-- deepWildcard on `pattern[pi:]` and `text[ti:]`, with the number of calls made
inside it. -/
def deepWildcardCounted : List UInt8 → List UInt8 → Bool × Nat
  | [], text => (text.isEmpty, 0)
  | symbol :: pattern, [] => ((symbol :: pattern).all (· == star), 0)
  | symbol :: pattern, byte :: text =>
    if symbol == star then attempts (deepWildcardCounted pattern) (byte :: text).tails
    else if symbol == question then deepWildcardCounted pattern text
    else if symbol != byte then (false, 0)
    else deepWildcardCounted pattern text

/-- wildcardMatch with the number of calls of deepWildcard, the first included. -/
def wildcardMatchCounted (pattern value : List UInt8) : Bool × Nat :=
  if pattern = [star] then (true, 0)
  else ((deepWildcardCounted pattern value).1, 1 + (deepWildcardCounted pattern value).2)

def invocations (pattern value : List UInt8) : Nat := (wildcardMatchCounted pattern value).2

theorem attempts_answer {call : List UInt8 → Bool × Nat} {texts : List (List UInt8)} :
    (attempts call texts).1 = texts.any fun text => (call text).1 := by
  induction texts with
  | nil => rfl
  | cons text rest ih =>
    rw [attempts, List.any_cons, ← ih]
    cases (call text).1 <;> rfl

variable (pattern : List UInt8)

theorem deep_wildcard_answer (text : List UInt8) :
    (deepWildcardCounted pattern text).1 = deepWildcard pattern text := by
  induction pattern generalizing text with
  | nil => rfl
  | cons symbol pattern ih =>
    cases text with
    | nil => rfl
    | cons byte text =>
      rw [deepWildcardCounted, deepWildcard]
      split
      · rw [attempts_answer]
        simp only [ih]
      · split
        · exact ih text
        · split
          · rfl
          · exact ih text

/-- The ways to place the beginnings of the pattern that end in a star: the places
that what follows the star may start at, for each way to come to the star. -/
def placements : List UInt8 → List UInt8 → Nat
  | [], _ => 0
  | _ :: _, [] => 0
  | symbol :: pattern, byte :: text =>
    if symbol = star then ((byte :: text).tails.map fun rest => 1 + placements pattern rest).sum
    else if symbol = question ∨ symbol = byte then placements pattern text
    else 0

theorem attempts_failed {call : List UInt8 → Bool × Nat} {texts : List (List UInt8)}
    (fails : ∀ text ∈ texts, (call text).1 = false) :
    (attempts call texts).2 = (texts.map fun text => 1 + (call text).2).sum := by
  induction texts with
  | nil => rfl
  | cons text rest ih =>
    obtain ⟨first, later⟩ := List.forall_mem_cons.mp fails
    simp [attempts, first, ih later]

/-- What a byte of the pattern that is no star makes of the next byte of the text. -/
theorem single_cases {symbol : UInt8} (single : symbol ≠ star) (byte : UInt8)
    (text : List UInt8) :
    (deepWildcard (symbol :: pattern) (byte :: text) = deepWildcard pattern text ∧
        deepWildcardCounted (symbol :: pattern) (byte :: text) =
          deepWildcardCounted pattern text ∧
        placements (symbol :: pattern) (byte :: text) = placements pattern text) ∨
      deepWildcard (symbol :: pattern) (byte :: text) = false ∧
        (deepWildcardCounted (symbol :: pattern) (byte :: text)).2 = 0 ∧
        placements (symbol :: pattern) (byte :: text) = 0 := by
  by_cases fits : symbol = question ∨ symbol = byte
  · left
    rcases fits with rfl | rfl
    · simp [deepWildcard, deepWildcardCounted, placements, single]
    · simp [deepWildcard, deepWildcardCounted, placements, single]
  · right
    obtain ⟨one, other⟩ := not_or.mp fits
    simp [deepWildcard, deepWildcardCounted, placements, single, one, other]

theorem star_answer_iff {text : List UInt8} :
    deepWildcard (star :: pattern) text = true ↔
      ∃ rest, rest <:+ text ∧ deepWildcard pattern rest = true := by
  simp only [deep_wildcard_iff]
  exact cut_any_iff star_matches

theorem failed_cost (text : List UInt8) (fails : deepWildcard pattern text = false) :
    (deepWildcardCounted pattern text).2 = placements pattern text := by
  induction pattern generalizing text with
  | nil => rfl
  | cons symbol pattern ih =>
    cases text with
    | nil => rfl
    | cons byte text =>
      by_cases any : symbol = star
      · subst any
        have every : ∀ rest ∈ (byte :: text).tails, deepWildcard pattern rest = false := by
          intro rest inside
          by_contra found
          rw [← Bool.not_eq_true, star_answer_iff] at fails
          exact fails ⟨rest, (List.mem_tails _ _).mp inside, by simpa using found⟩
        rw [deepWildcardCounted, if_pos (beq_self_eq_true _), placements, if_pos rfl,
          attempts_failed fun rest inside => (deep_wildcard_answer pattern rest).trans
            (every rest inside)]
        congr 1
        exact List.map_congr_left fun rest inside => by rw [ih rest (every rest inside)]
      · rcases single_cases pattern any byte text with ⟨answer, cost, placed⟩ | ⟨_, cost, placed⟩
        · rw [answer] at fails
          rw [cost, placed, ih text fails]
        · rw [cost, placed]

/-- A call that fails where a later one succeeds does not come to a star. -/
theorem failed_before (text later : List UInt8) (fails : deepWildcard pattern text = false)
    (suffix : later <:+ text) (succeeds : deepWildcard pattern later = true) :
    (deepWildcardCounted pattern text).2 = 0 := by
  induction pattern generalizing text later with
  | nil => rfl
  | cons symbol pattern ih =>
    cases text with
    | nil => rfl
    | cons byte text =>
      by_cases any : symbol = star
      · subst any
        obtain ⟨rest, inside, found⟩ := (star_answer_iff pattern).mp succeeds
        rw [(star_answer_iff pattern).mpr ⟨rest, inside.trans suffix, found⟩] at fails
        contradiction
      · rcases single_cases pattern any byte text with ⟨answer, cost, _⟩ | ⟨_, cost, _⟩
        · cases later with
          | nil => simp [deepWildcard, any] at succeeds
          | cons first later =>
            rcases List.suffix_cons_iff.mp suffix with same | inside
            · rw [same, fails] at succeeds
              contradiction
            · rcases single_cases pattern any first later with ⟨found, _⟩ | ⟨none, _⟩
              · rw [cost]
                exact ih text later (answer ▸ fails) ((List.suffix_cons _ _).trans inside)
                  (found ▸ succeeds)
              · rw [none] at succeeds
                contradiction
        · exact cost

theorem attempts_matched {cost : Nat} (cheap : ∀ text, deepWildcard pattern text = true →
      (deepWildcardCounted pattern text).2 ≤ text.length + cost) (text : List UInt8)
    (found : ∃ rest, rest <:+ text ∧ deepWildcard pattern rest = true) :
    (attempts (deepWildcardCounted pattern) text.tails).2 ≤ text.length + (cost + 1) := by
  -- Every suffix of the text is tried, the longest first.
  have here := deep_wildcard_answer pattern text
  obtain ⟨rest, suffix, succeeds⟩ := found
  induction text with
  | nil =>
    rw [List.suffix_nil.mp suffix] at succeeds
    have bound := cheap [] succeeds
    rw [succeeds] at here
    simp only [List.tails, attempts, here, if_true, List.length_nil] at bound ⊢
    omega
  | cons byte text ih =>
    cases answer : deepWildcard pattern (byte :: text) with
    | true =>
      have bound := cheap _ answer
      rw [answer] at here
      simp only [List.tails, attempts, here, if_true] at bound ⊢
      omega
    | false =>
      rcases List.suffix_cons_iff.mp suffix with same | inside
      · rw [same, answer] at succeeds
        contradiction
      · have nothing := failed_before pattern _ rest answer suffix succeeds
        have onward := ih (deep_wildcard_answer pattern text) inside
        rw [answer] at here
        simp only [List.tails, attempts, here, Bool.false_eq_true, if_false, nothing,
          List.length_cons]
        omega

theorem matched_cost (text : List UInt8) (found : deepWildcard pattern text = true) :
    (deepWildcardCounted pattern text).2 ≤ text.length + pattern.count star := by
  induction pattern generalizing text with
  | nil => exact Nat.zero_le _
  | cons symbol pattern ih =>
    cases text with
    | nil => exact Nat.zero_le _
    | cons byte text =>
      by_cases any : symbol = star
      · subst any
        rw [deepWildcardCounted, if_pos (beq_self_eq_true _), List.count_cons_self]
        exact attempts_matched pattern ih (byte :: text) ((star_answer_iff pattern).mp found)
      · rw [List.count_cons_of_ne any, List.length_cons]
        rcases single_cases pattern any byte text with ⟨answer, cost, _⟩ | ⟨none, _⟩
        · have rest := ih text (answer ▸ found)
          rw [cost]
          omega
        · rw [none] at found
          contradiction

theorem invocations_cases (value : List UInt8) :
    Cut Matches pattern value ∧
        invocations pattern value ≤ (pattern.length + 1) * (value.length + 1) ∨
      ¬ Cut Matches pattern value ∧ invocations pattern value = 1 + placements pattern value := by
  rw [← deep_wildcard_iff]
  unfold invocations wildcardMatchCounted
  cases answer : deepWildcard pattern value with
  | true =>
    refine Or.inl ⟨rfl, ?_⟩
    have cost := matched_cost pattern value answer
    have stars : pattern.count star ≤ pattern.length := List.count_le_length
    have product : (pattern.length + 1) * (value.length + 1) =
        pattern.length * value.length + pattern.length + value.length + 1 := by
      simp only [Nat.add_mul, Nat.mul_add, Nat.one_mul, Nat.mul_one]
      omega
    split
    · exact Nat.zero_le _
    · dsimp only
      omega
  | false =>
    refine Or.inr ⟨Bool.false_ne_true, ?_⟩
    rw [if_neg, failed_cost pattern value answer]
    rintro rfl
    rw [← Bool.not_eq_true, star_answer_iff] at answer
    exact answer ⟨[], List.nil_suffix, rfl⟩

theorem trailing_succeed (trailing : Nat) (text : List UInt8) :
    deepWildcard (List.replicate (trailing + 1) star) text = true := by
  induction trailing generalizing text with
  | zero =>
    cases text with
    | nil => rfl
    | cons byte text =>
      have last : [] ∈ (byte :: text).tails := (List.mem_tails _ _).mpr List.nil_suffix
      simp only [List.replicate, deepWildcard, beq_self_eq_true, if_true, List.any_eq_true]
      exact ⟨[], last, rfl⟩
  | succ trailing ih =>
    cases text with
    | nil => simp [List.replicate_succ, deepWildcard]
    | cons byte text =>
      have all : byte :: text ∈ (byte :: text).tails := (List.mem_tails _ _).mpr (List.suffix_refl _)
      rw [List.replicate_succ, deepWildcard]
      simp only [beq_self_eq_true, if_true, List.any_eq_true]
      exact ⟨byte :: text, all, ih (byte :: text)⟩

def innerStars (pattern : List UInt8) : Nat := (pattern.rdropWhile (· == star)).count star

theorem pattern_ends :
    ∃ trailing, pattern = pattern.rdropWhile (· == star) ++ List.replicate trailing star := by
  induction pattern using List.reverseRecOn with
  | nil => exact ⟨0, rfl⟩
  | append_singleton pattern symbol ih =>
    by_cases any : symbol = star
    · obtain ⟨trailing, shape⟩ := ih
      refine ⟨trailing + 1, ?_⟩
      rw [List.rdropWhile_concat_pos _ _ _ (by simpa using any), List.replicate_succ',
        ← List.append_assoc, ← shape, any]
    · refine ⟨0, ?_⟩
      rw [List.rdropWhile_concat_neg _ _ _ (by simpa using any)]
      simp

theorem inner_star_length (one : innerStars pattern = 1) :
    2 ≤ (pattern.rdropWhile (· == star)).length := by
  have last := List.rdropWhile_last_not (· == star) pattern
  unfold innerStars at one
  generalize pattern.rdropWhile (· == star) = inner at one last
  match inner with
  | [] => simp at one
  | [symbol] =>
    have other := last (by simp)
    simp only [List.getLast_singleton, beq_iff_eq] at other
    rw [List.count_cons_of_ne other] at one
    simp at one
  | _ :: _ :: rest => simp

/-- Before the stars that end a pattern, which match anything, a failed search has
come to no star if there is none, and to one only once. -/
theorem few_placements (trailing : Nat) (text : List UInt8)
    (fails : deepWildcard (pattern ++ List.replicate trailing star) text = false) :
    (pattern.count star = 0 → placements (pattern ++ List.replicate trailing star) text = 0) ∧
      (pattern.count star = 1 →
        placements (pattern ++ List.replicate trailing star) text ≤ text.length + 1) := by
  induction pattern generalizing text with
  | nil =>
    refine ⟨fun _ => ?_, fun one => by simp at one⟩
    cases trailing with
    | zero => rfl
    | succ trailing =>
      rw [List.nil_append, trailing_succeed] at fails
      contradiction
  | cons symbol pattern ih =>
    cases text with
    | nil => exact ⟨fun _ => rfl, fun _ => Nat.zero_le _⟩
    | cons byte text =>
      rw [List.cons_append] at fails ⊢
      by_cases any : symbol = star
      · subst any
        refine ⟨fun none => by simp at none, fun one => ?_⟩
        have none : pattern.count star = 0 := by simpa using one
        rw [← Bool.not_eq_true, star_answer_iff] at fails
        have nothing : ∀ rest ∈ (byte :: text).tails,
            1 + placements (pattern ++ List.replicate trailing star) rest = 1 := by
          intro rest inside
          have lost : deepWildcard (pattern ++ List.replicate trailing star) rest = false := by
            rw [← Bool.not_eq_true]
            exact fun found => fails ⟨rest, (List.mem_tails _ _).mp inside, found⟩
          rw [(ih rest lost).1 none]
        rw [placements, if_pos rfl, List.map_congr_left nothing, List.map_const',
          List.sum_replicate_nat, List.length_tails, Nat.mul_one]
      · rw [List.count_cons_of_ne any, List.length_cons]
        rcases single_cases (pattern ++ List.replicate trailing (star : UInt8)) any byte text with
          ⟨answer, _, placed⟩ | ⟨_, _, placed⟩
        · have rest := ih text (answer ▸ fails)
          rw [placed]
          exact ⟨rest.1, fun one => Nat.le_succ_of_le (rest.2 one)⟩
        · rw [placed]
          exact ⟨fun _ => rfl, fun _ => Nat.zero_le _⟩

theorem few_stars_bounded {value : List UInt8} (few : innerStars pattern ≤ 1)
    (fails : deepWildcard pattern value = false) :
    1 + placements pattern value ≤ (pattern.length + 1) * (value.length + 1) := by
  obtain ⟨trailing, shape⟩ := pattern_ends pattern
  have length := congrArg List.length shape
  rw [List.length_append, List.length_replicate] at length
  rw [shape] at fails
  have placed := few_placements _ trailing value fails
  rw [← shape] at placed
  rcases Nat.le_one_iff_eq_zero_or_eq_one.mp few with none | one
  · rw [placed.1 none]
    exact Nat.mul_pos (Nat.succ_pos _) (Nat.succ_pos _)
  · have inner := inner_star_length pattern one
    have room : 3 * (value.length + 1) ≤ (pattern.length + 1) * (value.length + 1) :=
      Nat.mul_le_mul_right _ (by omega)
    have search := placed.2 one
    omega

end VcStack.WildcardCosts
