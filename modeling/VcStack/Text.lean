import Mathlib.Data.List.Basic

/-!
Splitting of texts at single separator characters. Texts are character lists
here; the string versions wrap them. A separator below U+0080 is one byte that
occurs inside no other encoded character, so cutting at characters and cutting
at bytes give the same pieces.
-/

namespace VcStack.Text

def cut (separator : Char) : List Char → Option (List Char × List Char)
  | [] => none
  | char :: rest =>
    if char = separator then some ([], rest)
    else (cut separator rest).map fun pieces => (char :: pieces.1, pieces.2)

variable (separator : Char)

theorem cut_some_iff (text left right : List Char) :
    cut separator text = some (left, right) ↔
      separator ∉ left ∧ text = left ++ separator :: right := by
  induction text generalizing left with
  | nil => simp [cut]
  | cons char rest ih =>
    by_cases same : char = separator
    · subst char
      cases left with
      | nil => simp [cut, eq_comm]
      | cons first tail => simp +contextual [cut, eq_comm]
    · cases left with
      | nil => simp [cut, same]
      | cons first tail =>
        simp only [cut, same, ↓reduceIte, Option.map_eq_some_iff, Prod.mk.injEq,
          List.cons.injEq, Prod.exists, List.mem_cons, not_or, List.cons_append]
        constructor
        · rintro ⟨pieces, back, found, ⟨head, front⟩, tailEq⟩
          subst head front tailEq
          obtain ⟨absent, shape⟩ := (ih pieces).mp found
          exact ⟨⟨Ne.symm same, absent⟩, rfl, shape⟩
        · rintro ⟨⟨_, absent⟩, head, shape⟩
          exact ⟨tail, right, (ih tail).mpr ⟨absent, shape⟩, ⟨head, rfl⟩, rfl⟩

/-- `strings.SplitN` for a positive count: the last piece keeps the rest. -/
def splitChars (separator : Char) : Nat → List Char → List (List Char)
  | 0, _ => []
  | 1, text => [text]
  | count + 2, text =>
    match cut separator text with
    | none => [text]
    | some (left, right) => left :: splitChars separator (count + 1) right

def splitN (separator : Char) (count : Nat) (text : String) : List String :=
  (splitChars separator count text.toList).map String.ofList

def joinChars (separator : Char) (pieces : List (List Char)) (last : List Char) : List Char :=
  pieces.foldr (fun piece rest => piece ++ separator :: rest) last

theorem split_chars_iff (pieces : List (List Char)) (last text : List Char) :
    splitChars separator (pieces.length + 1) text = pieces ++ [last] ↔
      (∀ piece ∈ pieces, separator ∉ piece) ∧ text = joinChars separator pieces last := by
  induction pieces generalizing text with
  | nil => simp [splitChars, joinChars]
  | cons piece rest ih =>
    rw [List.length_cons, splitChars, List.forall_mem_cons]
    cases found : cut separator text with
    | none =>
      constructor
      · intro same
        simp at same
      · rintro ⟨⟨free, _⟩, shape⟩
        rw [(cut_some_iff _ _ _ _).mpr ⟨free, shape⟩] at found
        contradiction
    | some pieces =>
      obtain ⟨left, right⟩ := pieces
      obtain ⟨free, shape⟩ := (cut_some_iff _ _ _ _).mp found
      simp only [List.cons_append, List.cons.injEq, ih right]
      constructor
      · rintro ⟨rfl, frees, rfl⟩
        exact ⟨⟨free, frees⟩, shape⟩
      · rintro ⟨⟨own, frees⟩, joined⟩
        have again := (cut_some_iff _ _ _ _).mpr ⟨own, joined⟩
        rw [found, Option.some.injEq, Prod.mk.injEq] at again
        exact ⟨again.1, frees, again.2⟩

def joinPieces (separator : Char) (pieces : List String) (last : String) : String :=
  pieces.foldr (fun piece rest => piece ++ String.singleton separator ++ rest) last

theorem join_pieces_chars {pieces : List String} {last : String} :
    (joinPieces separator pieces last).toList =
      joinChars separator (pieces.map String.toList) last.toList := by
  induction pieces with
  | nil => rfl
  | cons piece rest ih =>
    simp only [joinPieces, joinChars, List.foldr_cons, List.map_cons] at ih ⊢
    simp only [String.toList_append, String.toList_singleton, List.append_assoc,
      List.singleton_append, ih]

theorem split_n_iff (pieces : List String) (last text : String) :
    splitN separator (pieces.length + 1) text = pieces ++ [last] ↔
      (∀ piece ∈ pieces, separator ∉ piece.toList) ∧ text = joinPieces separator pieces last := by
  have chars := split_chars_iff separator (pieces.map String.toList) last.toList text.toList
  rw [List.length_map, List.forall_mem_map, ← join_pieces_chars, String.toList_inj] at chars
  rw [← chars]
  unfold splitN
  constructor
  · intro same
    have back := congrArg (List.map String.toList) same
    simpa [Function.comp_def] using back
  · intro same
    have back := congrArg (List.map String.ofList) same
    simpa [Function.comp_def] using back

def hasPrefix (text lead : String) : Bool := lead.toList.isPrefixOf text.toList

theorem has_prefix_append {lead rest : String} : hasPrefix (lead ++ rest) lead = true := by
  apply List.isPrefixOf_iff_prefix.mpr
  rw [String.toList_append]
  exact List.prefix_append _ _

def hasSuffix (text tail : String) : Bool := tail.toList.isSuffixOf text.toList

def trim (drops : Char → Bool) (text : String) : String :=
  String.ofList ((text.toList.dropWhile drops).reverse.dropWhile drops).reverse

def cutString (separator : Char) (text : String) : Option (String × String) :=
  (cut separator text.toList).map fun pieces =>
    (String.ofList pieces.1, String.ofList pieces.2)

variable {separator}

variable {left : String}

theorem cut_string_some_iff {text : String} (right : String) :
    cutString separator text = some (left, right) ↔
      separator ∉ left.toList ∧ text = left ++ String.singleton separator ++ right := by
  have shape : text = left ++ String.singleton separator ++ right ↔
      text.toList = left.toList ++ separator :: right.toList := by
    rw [← String.toList_inj]
    simp
  rw [shape, ← cut_some_iff]
  simp only [cutString, Option.map_eq_some_iff, Prod.mk.injEq, Prod.exists]
  constructor
  · rintro ⟨front, back, found, rfl, rfl⟩
    simpa using found
  · intro found
    exact ⟨left.toList, right.toList, found, by simp, by simp⟩

theorem joined_inj {right front back : String} (leftFree : separator ∉ left.toList)
    (frontFree : separator ∉ front.toList) (same : left ++ String.singleton separator ++ right =
      front ++ String.singleton separator ++ back) :
    left = front ∧ right = back := by
  have one := (cut_string_some_iff right).mpr ⟨leftFree, rfl⟩
  have two := (cut_string_some_iff back).mpr ⟨frontFree, same⟩
  rw [one, Option.some.injEq, Prod.mk.injEq] at two
  exact two

theorem joined_last_inj {right front back : String} (rightFree : separator ∉ right.toList)
    (backFree : separator ∉ back.toList) (same : left ++ String.singleton separator ++ right =
      front ++ String.singleton separator ++ back) : right = back := by
  have turned : right.toList.reverse ++ separator :: left.toList.reverse =
      back.toList.reverse ++ separator :: front.toList.reverse := by
    simpa using congrArg (fun text => text.toList.reverse) same
  -- Read backwards, the last separator is the first.
  have one := (cut_some_iff separator _ right.toList.reverse left.toList.reverse).mpr
    ⟨by simpa using rightFree, rfl⟩
  have two := (cut_some_iff separator _ back.toList.reverse front.toList.reverse).mpr
    ⟨by simpa using backFree, turned⟩
  rw [one, Option.some.injEq, Prod.mk.injEq, List.reverse_inj] at two
  exact String.toList_inj.mp two.1

theorem decimal_chars {value : Nat} : (toString value).toList = Nat.toDigits 10 value := by
  rw [Nat.toString_eq_repr, Nat.repr, String.toList_ofList]

theorem decimal_inj {left right : Nat} (same : toString left = toString right) : left = right := by
  have digits := congrArg String.toList same
  rw [decimal_chars, decimal_chars] at digits
  have read := congrArg (Nat.ofDigitChars 10 · 0) digits
  simpa only [Nat.ofDigitChars_ten_toDigits] using read

/-- The words of a text between blanks, in groups between the words that are the mark. -/
def wordGroups (mark text : String) : List (List String) :=
  ((text.toList.splitOn ' ').map String.ofList).splitOn mark

theorem intercalate_ne_nil {Item : Type} (separator : List Item) (groups : List (List Item))
    (some : groups ≠ []) (each : ∀ group ∈ groups, group ≠ []) :
    separator.intercalate groups ≠ [] := by
  obtain ⟨group, rest, rfl⟩ := List.exists_cons_of_ne_nil some
  have present := each group List.mem_cons_self
  cases rest with
  | nil => rwa [List.intercalate_singleton]
  | cons next more =>
    rw [List.intercalate_cons_cons, List.append_assoc]
    exact fun empty => present (List.append_eq_nil_iff.mp empty).1

theorem mem_intercalate {Item : Type} {separator : List Item} {groups : List (List Item)}
    {item : Item} (member : item ∈ separator.intercalate groups) :
    item ∈ separator ∨ ∃ group ∈ groups, item ∈ group := by
  induction groups with
  | nil => contradiction
  | cons group rest ih =>
    cases rest with
    | nil =>
      rw [List.intercalate_singleton] at member
      exact Or.inr ⟨group, List.mem_cons_self, member⟩
    | cons next more =>
      rw [List.intercalate_cons_cons, List.mem_append, List.mem_append] at member
      rcases member with (here | between) | later
      · exact Or.inr ⟨group, List.mem_cons_self, here⟩
      · exact Or.inl between
      · rcases ih later with between | ⟨other, listed, there⟩
        · exact Or.inl between
        · exact Or.inr ⟨other, List.mem_cons_of_mem _ listed, there⟩

theorem word_groups_append {mark : String} (whole : ' ' ∉ mark.toList) (left right : String) :
    wordGroups mark (left ++ (" " ++ mark ++ " ") ++ right) =
      wordGroups mark left ++ wordGroups mark right := by
  have blanks : (left ++ (" " ++ mark ++ " ") ++ right).toList =
      left.toList ++ ' ' :: (mark.toList ++ ' ' :: right.toList) := by simp
  rw [wordGroups, blanks, List.splitOn_append_cons_self, List.splitOn_append_cons_self,
    List.splitOn_eq_singleton whole, List.map_append, List.map_append, List.map_singleton,
    String.ofList_toList, List.singleton_append, List.splitOn_append_cons_self]
  rfl

theorem word_groups_words {mark : String} {words : List String} (some : words ≠ [])
    (plain : ∀ word ∈ words, ' ' ∉ word.toList ∧ word ≠ mark) :
    wordGroups mark (" ".intercalate words) = [words] := by
  have same : (words.map String.toList).map String.ofList = words := by
    rw [List.map_map]
    exact List.map_id'' (fun _ => String.ofList_toList) _
  rw [wordGroups, String.toList_intercalate]
  change List.splitOn mark (([' '].intercalate (words.map String.toList)).splitOn ' ' |>.map _) = _
  rw [List.splitOn_intercalate, same, List.splitOn_eq_singleton]
  · exact fun marked => (plain mark marked).2 rfl
  · exact List.forall_mem_map.mpr fun word member => (plain word member).1
  · exact fun empty => some (List.map_eq_nil_iff.mp empty)

end VcStack.Text
