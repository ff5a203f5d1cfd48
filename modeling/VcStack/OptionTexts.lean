import Mathlib.Data.List.Basic

/-!
Option texts of comma-separated `key=value` items, where a literal comma in a
value is written twice and the first item may leave out an implied key. A text
printed without that doubling is read back as written exactly when no value has
a comma.
-/

namespace VcStack.OptionTexts

abbrev Pair := List Char × List Char

/-- A value up to its single comma, and what follows that comma. -/
def readValue : List Char → List Char × List Char
  | [] => ([], [])
  | ',' :: ',' :: rest => (',' :: (readValue rest).1, (readValue rest).2)
  | ',' :: rest => ([], rest)
  | char :: rest => (char :: (readValue rest).1, (readValue rest).2)

def readKey (text : List Char) : List Char := text.takeWhile fun char => char ≠ '=' && char ≠ ','

/-- One item: a pair, the value of the implied key, or a flag that is on. -/
def readItem (implied : Option (List Char)) (text : List Char) : Pair × List Char :=
  match text.drop (readKey text).length, implied with
  | '=' :: rest, _ => ((readKey text, (readValue rest).1), (readValue rest).2)
  | _, some key => ((key, (readValue text).1), (readValue text).2)
  | rest, none => ((readKey text, "on".toList), rest.drop 1)

def readItems : Nat → Option (List Char) → List Char → List Pair
  | 0, _, _ => []
  | _, _, [] => []
  | count + 1, implied, text =>
    (readItem implied text).1 :: readItems count none (readItem implied text).2

def read (implied : Option (List Char)) (text : List Char) : List Pair :=
  readItems (text.length + 1) implied text

def printTail (pairs : List Pair) : List Char :=
  pairs.flatMap fun pair => ',' :: (pair.1 ++ '=' :: pair.2)

def Bare (text : List Char) : Prop := ∀ char ∈ text, char ≠ '=' ∧ char ≠ ','

def GoodKey (key : List Char) : Prop := key ≠ [] ∧ Bare key

instance (text : List Char) : Decidable (Bare text) :=
  List.decidableBAll (fun char => char ≠ '=' ∧ char ≠ ',') text

instance (key : List Char) : Decidable (GoodKey key) := inferInstanceAs (Decidable (_ ∧ Bare key))

variable {value text key name : List Char} {pairs : List Pair}

def Follows (text : List Char) : Prop :=
  text = [] ∨ ∃ char rest, text = ',' :: char :: rest ∧ char ≠ ','

theorem follows_tail (good : ∀ pair ∈ pairs, GoodKey pair.1) : Follows (printTail pairs) := by
  cases pairs with
  | nil => exact .inl rfl
  | cons pair rest =>
    obtain ⟨some, bare⟩ := good pair (List.mem_cons_self ..)
    obtain ⟨char, key, shape⟩ := List.exists_cons_of_ne_nil some
    exact .inr ⟨char, _, by simp [printTail, shape]; rfl, (bare char (by simp [shape])).2⟩

theorem read_value_stop (follows : Follows text) : readValue text = ([], text.drop 1) := by
  rcases follows with rfl | ⟨char, rest, rfl, other⟩
  · rfl
  · simp [readValue, other]

theorem read_value_cons {char : Char} (other : char ≠ ',') :
    readValue (char :: text) = (char :: (readValue text).1, (readValue text).2) := by
  simp [readValue, other]

theorem read_value_free (free : ',' ∉ value) (follows : Follows text) :
    readValue (value ++ text) = (value, text.drop 1) := by
  induction value with
  | nil => exact read_value_stop follows
  | cons char rest ih =>
    rw [List.mem_cons, not_or] at free
    rw [List.cons_append, read_value_cons (Ne.symm free.1), ih free.2]

/-- Each comma read from a value stands for two of the text, so reading never puts more commas
before the value. -/
theorem read_value_ne (follows : Follows text) (value : List Char) (count : Nat) :
    (readValue (value ++ text)).1 ≠ List.replicate (count + 1) ',' ++ value := by
  match value with
  | [] => simp [read_value_stop follows]
  | char :: rest =>
    by_cases comma : char = ','
    · subst comma
      match rest with
      | [] =>
        rcases follows with rfl | ⟨char, rest, rfl, other⟩
        · simp [readValue]
        · cases count <;> simp [readValue, read_value_cons other, List.replicate_succ, other]
      | next :: rest =>
        by_cases doubled : next = ','
        · subst doubled
          have shorter := read_value_ne follows rest (count + 1)
          rw [List.replicate_succ', List.replicate_succ'] at shorter
          simpa [readValue, List.replicate_succ] using shorter
        · simp [readValue, doubled]
    · simp [read_value_cons comma, List.replicate_succ, comma]

theorem read_value_eq_iff (follows : Follows text) :
    (readValue (value ++ text)).1 = value ↔ ',' ∉ value := by
  refine ⟨fun same => ?_, fun free => by rw [read_value_free free follows]⟩
  induction value with
  | nil => simp
  | cons char rest ih =>
    by_cases comma : char = ','
    · subst comma
      match rest with
      | [] =>
        rcases follows with rfl | ⟨char, rest, rfl, other⟩
        · simp [readValue] at same
        · simp [readValue, read_value_cons other] at same
      | next :: rest =>
        by_cases doubled : next = ','
        · subst doubled
          exact absurd (by simpa [readValue] using same) (read_value_ne follows rest 0)
        · simp [readValue, doubled] at same
    · simp only [List.cons_append, read_value_cons comma, List.cons.injEq, true_and] at same
      simp [Ne.symm comma, ih same]

theorem read_key_bare (bare : Bare value) (stops : ∀ char ∈ text.head?, char = '=' ∨ char = ',') :
    readKey (value ++ text) = value := by
  rw [readKey, List.takeWhile_append_of_pos (by simpa [Bare] using bare)]
  cases text with
  | nil => simp
  | cons char rest => rcases stops char rfl with rfl | rfl <;> simp

theorem read_item_pair (good : GoodKey key) (implied : Option (List Char)) :
    readItem implied (key ++ '=' :: text) = ((key, (readValue text).1), (readValue text).2) := by
  have found : readKey (key ++ '=' :: text) = key := read_key_bare good.2 (by simp)
  simp [readItem, found]

theorem read_items_succ (some : text ≠ []) (count : Nat) (implied : Option (List Char)) :
    readItems (count + 1) implied text =
      (readItem implied text).1 :: readItems count none (readItem implied text).2 := by
  rw [readItems]
  exact some

theorem read_items_iff (good : ∀ pair ∈ pairs, GoodKey pair.1) (count : Nat)
    (enough : pairs.length ≤ count) :
    readItems count none ((printTail pairs).drop 1) = pairs ↔ ∀ pair ∈ pairs, ',' ∉ pair.2 := by
  induction pairs generalizing count with
  | nil => cases count <;> simp [readItems, printTail]
  | cons pair rest ih =>
    obtain ⟨own, others⟩ := List.forall_mem_cons.mp good
    obtain ⟨more, rfl⟩ : ∃ more, count = more + 1 := ⟨count - 1, by simp at enough; omega⟩
    have follows := follows_tail others
    have shape : (printTail (pair :: rest)).drop 1 =
        pair.1 ++ '=' :: (pair.2 ++ printTail rest) := by simp [printTail]
    have step : readItems (more + 1) none (pair.1 ++ '=' :: (pair.2 ++ printTail rest)) =
        (pair.1, (readValue (pair.2 ++ printTail rest)).1) ::
          readItems more none (readValue (pair.2 ++ printTail rest)).2 := by
      rw [read_items_succ (by simp), read_item_pair own]
    rw [shape, step, List.cons.injEq, Prod.ext_iff, List.forall_mem_cons,
      read_value_eq_iff follows, and_iff_right rfl]
    refine and_congr_right fun free => ?_
    rw [read_value_free free follows, ih others more (by simpa using enough)]

theorem length_le_tail : pairs.length ≤ (printTail pairs).length := by
  induction pairs with
  | nil => simp
  | cons pair rest ih => simp [printTail] at ih ⊢; omega

theorem read_pairs_iff (good : ∀ pair ∈ pairs, GoodKey pair.1) :
    read none ((printTail pairs).drop 1) = pairs ↔ ∀ pair ∈ pairs, ',' ∉ pair.2 := by
  have enough : pairs.length ≤ (printTail pairs).length := length_le_tail
  exact read_items_iff good _ (by rw [List.length_drop]; omega)

theorem read_implied_iff (some : value ≠ []) (bare : Bare value)
    (good : ∀ pair ∈ pairs, GoodKey pair.1) :
    read (.some name) (value ++ printTail pairs) = (name, value) :: pairs ↔
      ∀ pair ∈ pairs, ',' ∉ pair.2 := by
  have follows := follows_tail good
  have free : ',' ∉ value := fun comma => (bare ',' comma).2 rfl
  have key : readKey (value ++ printTail pairs) = value := read_key_bare bare (by
    rcases follows with none | ⟨char, rest, shape, -⟩
    · simp [none]
    · simp [shape])
  have item : readItem (.some name) (value ++ printTail pairs) =
      ((name, value), (printTail pairs).drop 1) := by
    unfold readItem
    rw [key, List.drop_left]
    have stop := read_value_free free follows
    -- No `=` follows the value, so the item is that of the implied key.
    rcases follows with none | ⟨char, rest, shape, -⟩
    · rw [none] at stop ⊢
      simp only [stop]
    · rw [shape] at stop ⊢
      simp [stop]
  rw [read, read_items_succ (by simp [some]), item, List.cons.injEq, and_iff_right rfl]
  exact read_items_iff good _ (Nat.le_trans length_le_tail (by simp))

theorem read_value_length (text : List Char) : (readValue text).1.length ≤ text.length := by
  fun_induction readValue text with
  | case1 => exact Nat.le_refl 0
  | case2 rest ih =>
    simp only [List.length_cons]
    omega
  | case3 rest single => exact Nat.zero_le _
  | case4 char rest other ih =>
    simp only [List.length_cons]
    omega

theorem bare_or_split (text : List Char) : Bare text ∨ ∃ key char rest, Bare key ∧
    (char = '=' ∨ char = ',') ∧ text = key ++ char :: rest := by
  induction text with
  | nil => exact .inl (by simp [Bare])
  | cons first more ih =>
    by_cases special : first = '=' ∨ first = ','
    · exact .inr ⟨[], first, more, by simp [Bare], special, rfl⟩
    · have plain := not_or.mp special
      rcases ih with bare | ⟨key, char, rest, bare, cause, rfl⟩
      · exact .inl (List.forall_mem_cons.mpr ⟨plain, bare⟩)
      · exact .inr ⟨first :: key, char, rest, List.forall_mem_cons.mpr ⟨plain, bare⟩, cause, rfl⟩

theorem read_alone_iff (some : value ≠ []) :
    read (.some name) value = [(name, value)] ↔ Bare value := by
  refine ⟨fun same => ?_, fun bare => ?_⟩
  rotate_left
  · have implied : read (.some name) (value ++ printTail []) = [(name, value)] :=
      (read_implied_iff some bare (by simp)).mpr (by simp)
    simpa [printTail] using implied
  rcases bare_or_split value with bare | ⟨key, char, rest, bare, cause, shape⟩
  · exact bare
  rw [read, read_items_succ some, List.cons.injEq] at same
  replace same := congrArg Prod.snd same.1
  have found : readKey value = key := shape ▸ read_key_bare bare (by simpa using cause)
  unfold readItem at same
  rw [found] at same
  rcases cause with rfl | rfl
  · -- After a sign the value is what follows it, and shorter than the whole.
    have shorter := read_value_length rest
    simp only [shape, List.drop_left] at same
    rw [same, List.length_append, List.length_cons] at shorter
    omega
  · have free : ',' ∉ value :=
      (read_value_eq_iff (.inl rfl : Follows [])).mp (by simpa [shape] using same)
    simp [shape] at free

end VcStack.OptionTexts
