import Mathlib.Data.List.TakeWhile
import Mathlib.Tactic.SplitIfs
import VcStack.Text

/-!
Lexical file paths as `path/filepath` treats them on Unix: cleaning, joining a
directory and a name, and the last element of a path.
-/

namespace VcStack.FilePaths

def keep (rooted : Bool) (kept : List (List Char)) (element : List Char) : List (List Char) :=
  if element = [] ∨ element = ['.'] then kept
  else if element = ['.', '.'] then
    match kept with
    | [] => if rooted then [] else [element]
    | last :: rest => if last = ['.', '.'] then element :: kept else rest
  else element :: kept

def rooted (path : List Char) : Bool := path.head? = some '/'

def kept (path : List Char) : List (List Char) :=
  (path.splitOn '/').foldl (keep (rooted path)) []

def lead (path : List Char) : List Char := if rooted path then ['/'] else []

def clean (path : String) : String :=
  if rooted path.toList = false ∧ kept path.toList = [] then "."
  else String.ofList
    (lead path.toList ++ List.intercalate ['/'] (kept path.toList).reverse)

/-- `filepath.Join`, which ignores empty elements. -/
def join (dir name : String) : String :=
  if dir = "" then if name = "" then "" else clean name
  else if name = "" then clean dir else clean (dir ++ "/" ++ name)

def within (dir : String) : String :=
  String.ofList (lead dir.toList ++ (kept dir.toList).reverse.flatMap (· ++ ['/']))

def base (path : String) : String :=
  if path = "" then "."
  else
    match (path.toList.reverse.dropWhile (· = '/')).takeWhile (· ≠ '/') with
    | [] => "/"
    | last => String.ofList last.reverse

structure Plain (name : String) : Prop where
  some : name ≠ ""
  notDot : name ≠ "."
  notDots : name ≠ ".."
  single : '/' ∉ name.toList

variable {dir name : String}

theorem intercalate_snoc (elements : List (List Char)) (last : List Char) :
    List.intercalate ['/'] (elements ++ [last]) = elements.flatMap (· ++ ['/']) ++ last := by
  induction elements with
  | nil => simp
  | cons first rest ih => cases rest <;> simp_all [List.intercalate_cons_cons]

theorem keep_plain (plain : Plain name) (top : Bool) (before : List (List Char)) :
    keep top before name.toList = name.toList :: before := by
  have parts : ∀ text, name ≠ text → name.toList ≠ text.toList := fun _ other same =>
    other (String.toList_inj.mp same)
  unfold keep
  rw [if_neg, if_neg]
  · exact parts ".." plain.notDots
  · rintro (none | dot)
    · exact parts "" plain.some none
    · exact parts "." plain.notDot dot

theorem rooted_plain (plain : Plain name) : rooted name.toList = false := by
  rw [rooted, decide_eq_false_iff_not]
  exact fun first => plain.single (List.mem_of_head? first)

theorem join_plain (plain : Plain name) : join dir name = within dir ++ name := by
  have alone := List.splitOn_eq_singleton plain.single
  rw [join, if_neg plain.some, if_neg plain.some, ← String.toList_inj]
  split
  · rename_i empty
    have only : kept name.toList = [name.toList] := by simp [kept, alone, keep_plain plain]
    rw [empty, clean, lead, only, rooted_plain plain]
    simp [within, lead, rooted, kept, keep]
  · rename_i some
    have joined : (dir ++ "/" ++ name).toList = dir.toList ++ '/' :: name.toList := by simp
    have same : rooted (dir.toList ++ '/' :: name.toList) = rooted dir.toList := by
      cases shape : dir.toList with
      | nil => exact absurd (String.toList_inj.mp shape) some
      | cons first rest => rfl
    have last : kept (dir.toList ++ '/' :: name.toList) = name.toList :: kept dir.toList := by
      simp only [kept, List.splitOn_append_cons_self, alone, List.foldl_append, List.foldl_cons,
        List.foldl_nil, keep_plain plain, same]
    rw [clean, joined, last, if_neg (by simp), List.reverse_cons, intercalate_snoc]
    simp [within, lead, same]

theorem base_plain (some : name ≠ "") (single : '/' ∉ name.toList) : base name = name := by
  have differs : ∀ char ∈ name.toList.reverse, char ≠ '/' := fun char member same =>
    single (same ▸ List.mem_reverse.mp member)
  have kept : name.toList.reverse.dropWhile (· = '/') = name.toList.reverse := by
    cases shape : name.toList.reverse with
    | nil => rfl
    | cons first rest => simp [differs first (by simp [shape])]
  have whole : name.toList.reverse.takeWhile (· ≠ '/') = name.toList.reverse :=
    List.takeWhile_eq_self_iff.mpr (by simpa using differs)
  rw [base, if_neg some, kept, whole]
  split
  · rename_i empty
    exact absurd (String.toList_inj.mp (List.reverse_eq_nil_iff.mp empty)) some
  · simp

theorem kept_some (path : List Char) : ∀ element ∈ kept path, element ≠ [] := by
  unfold kept
  refine List.foldlRecOn (motive := fun kept => ∀ element ∈ kept, element ≠ []) _ _
    (fun _ none => by cases none) fun before some element _ => ?_
  unfold keep
  cases before <;> grind

theorem clean_ne_empty (path : String) : clean path ≠ "" := by
  have some := kept_some path.toList
  unfold clean lead
  split_ifs with bare top
  · decide
  · simp
  · cases shape : (kept path.toList).reverse with
    | nil => simp_all
    | cons first rest =>
      have : first ≠ [] := some first (List.mem_reverse.mp (by simp [shape]))
      cases rest <;> simp_all [List.intercalate_cons_cons]

theorem join_ne_empty (some : name ≠ "") : join dir name ≠ "" := by
  rw [join, if_neg some, if_neg some]
  split <;> exact clean_ne_empty _

end VcStack.FilePaths
