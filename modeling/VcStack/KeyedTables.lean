import Mathlib.Algebra.Group.Basic
import Mathlib.Algebra.Group.Nat.Defs
import Mathlib.Algebra.GroupWithZero.Nat
import Mathlib.Data.List.Basic
import Mathlib.Data.List.Induction
import Mathlib.Data.List.Nodup

/-!
Database tables as lists of rows with a unique key, and loops whose rounds each
concern the rows of one key.
-/

namespace VcStack.KeyedTables

universe u v w
variable {Row : Type u} {Key : Type v}

structure Table (key : Row → Key) where
  rows : List Row
  distinct : (rows.map key).Nodup

variable {key : Row → Key}

def Table.change (table : Table key) (change : Row → Row)
    (keeps : ∀ row, key (change row) = key row) : Table key where
  rows := table.rows.map change
  distinct := by
    have same : key ∘ change = key := funext keeps
    rw [List.map_map, same]
    exact table.distinct

theorem keys_change {table : Table key} {change : Row → Row}
    (keeps : ∀ row, key (change row) = key row) :
    (table.change change keeps).rows.map key = table.rows.map key := by
  have same : key ∘ change = key := funext keeps
  rw [Table.change, List.map_map, same]

def Table.single (row : Row) : Table key where
  rows := [row]
  distinct := List.nodup_singleton _

def Table.insert (table : Table key) (row : Row) (fresh : key row ∉ table.rows.map key) :
    Table key where
  rows := table.rows ++ [row]
  distinct := by
    rw [List.map_append, List.nodup_append]
    refine ⟨table.distinct, List.nodup_singleton _, ?_⟩
    intro value member other last same
    rw [List.map_singleton, List.mem_singleton] at last
    exact fresh (last ▸ same ▸ member)

variable [DecidableEq Key]

def Table.find (table : Table key) (value : Key) : Option Row :=
  table.rows.find? fun row => key row = value

section Finding

variable (table : Table key) {value : Key} (change : Row → Row) {row : Row}

theorem find_iff :
    table.find value = some row ↔ row ∈ table.rows ∧ key row = value := by
  constructor
  · intro found
    have matched : key row = value := by simpa using List.find?_some found
    exact ⟨List.mem_of_find?_eq_some found, matched⟩
  · rintro ⟨member, same⟩
    have present : (table.find value).isSome := by
      apply List.find?_isSome.mpr
      exact ⟨row, member, decide_eq_true same⟩
    obtain ⟨other, found⟩ := Option.isSome_iff_exists.mp present
    have matched : key other = value := by simpa using List.find?_some found
    have agree : key other = key row := matched.trans same.symm
    have equal := List.inj_on_of_nodup_map table.distinct (List.mem_of_find?_eq_some found)
      member agree
    rw [found, equal]

theorem find_of_mem (row : Row) (member : row ∈ table.rows) :
    table.find (key row) = some row :=
  (find_iff table).mpr ⟨member, rfl⟩

theorem find_none_iff :
    table.find value = none ↔ value ∉ table.rows.map key := by
  simp [Table.find]

theorem find_insert_other (row : Row) (fresh : key row ∉ table.rows.map key) {value : Key}
    (different : value ≠ key row) :
    (table.insert row fresh).find value = table.find value := by
  rw [Table.find, Table.insert, List.find?_append, List.find?_singleton,
    if_neg (by simpa using different.symm), Option.or_none]
  rfl

theorem find_change (keeps : ∀ row, key (change row) = key row) {value : Key} :
    (table.change change keeps).find value = (table.find value).map change := by
  have same : (fun row => decide (key row = value)) ∘ change =
      fun row => decide (key row = value) := by
    funext row
    simp only [Function.comp_apply, keeps]
  rw [Table.find, Table.change, List.find?_map, same]
  rfl

end Finding

def Table.update (table : Table key) (value : Key) (change : Row → Row)
    (keeps : ∀ row, key (change row) = key row) : Table key :=
  table.change (fun row => if key row = value then change row else row) (by
    intro row
    split
    · exact keeps row
    · rfl)

section Updating

variable (table : Table key) (value : Key) (change : Row → Row)

theorem keys_update (keeps : ∀ row, key (change row) = key row) :
    (table.update value change keeps).rows.map key = table.rows.map key :=
  keys_change _

theorem update_unchanged (keeps : ∀ row, key (change row) = key row)
    (same : ∀ row, change row = row) : table.update value change keeps = table := by
  cases table
  simp [Table.update, Table.change, same]

theorem find_update_same (keeps : ∀ row, key (change row) = key row) :
    (table.update value change keeps).find value = (table.find value).map change := by
  rw [Table.update, find_change]
  cases found : table.find value with
  | none => rfl
  | some row =>
    have same := ((find_iff table).mp found).2
    rw [Option.map_some, Option.map_some, if_pos same]

theorem find_update_other {other : Key} (change : Row → Row)
    (keeps : ∀ row, key (change row) = key row) (different : other ≠ value) :
    (table.update value change keeps).find other = table.find other := by
  rw [Table.update, find_change]
  cases found : table.find other with
  | none => rfl
  | some row =>
    have same := ((find_iff table).mp found).2
    rw [Option.map_some, if_neg (fun equal => different (same.symm.trans equal))]

end Updating

section Sums

variable {Weight : Type w} [AddCommMonoid Weight] (weight : Row → Weight) {row : Row}

theorem sum_update_same {table : Table key} {value : Key} {change : Row → Row}
    (keeps : ∀ row, key (change row) = key row)
    (weighs : ∀ row, weight (change row) = weight row) :
    ((table.update value change keeps).rows.map weight).sum = (table.rows.map weight).sum := by
  rw [Table.update, Table.change, List.map_map]
  congr 1
  apply List.map_congr_left
  intro row _
  simp only [Function.comp_apply]
  split_ifs
  · exact weighs row
  · rfl

theorem sum_update {table : Table key} {value : Key} (change : Row → Row)
    (keeps : ∀ row, key (change row) = key row) (found : table.find value = some row) :
    ((table.update value change keeps).rows.map weight).sum + weight row =
      (table.rows.map weight).sum + weight (change row) := by
  obtain ⟨member, rfl⟩ := (find_iff table).mp found
  obtain ⟨rows, distinct⟩ := table
  simp only [Table.update, Table.change] at member ⊢
  clear found
  induction rows with
  | nil => exact absurd member List.not_mem_nil
  | cons first rest ih =>
    obtain ⟨fresh, onward⟩ := List.nodup_cons.mp distinct
    simp only [List.map_cons, List.sum_cons]
    rcases List.mem_cons.mp member with rfl | later
    · -- The other rows have other keys.
      have untouched : rest.map (fun other => if key other = key row then change other else other) =
          rest := by
        rw [List.map_congr_left (g := id), List.map_id]
        intro other listed
        have different : key other ≠ key row := by
          intro same
          exact fresh (same ▸ List.mem_map_of_mem listed)
        exact if_neg different
      rw [if_pos rfl, untouched, add_right_comm, add_comm (weight (change row)), add_right_comm]
    · have different : key first ≠ key row := by
        intro same
        exact fresh (same ▸ List.mem_map_of_mem later)
      rw [if_neg different, add_assoc, ih onward later, add_assoc]

theorem length_filter_eq_sum {rows : List Row} {chosen : Row → Bool} :
    (rows.filter chosen).length = (rows.map fun row => if chosen row = true then 1 else 0).sum := by
  induction rows with
  | nil => rfl
  | cons row rest ih =>
    rw [List.filter_cons, List.map_cons, List.sum_cons, ← ih]
    split_ifs
    · rw [List.length_cons, Nat.add_comm]
    · rw [Nat.zero_add]

theorem length_filter_update {table : Table key} {value : Key} (change : Row → Row)
    (keeps : ∀ row, key (change row) = key row) (found : table.find value = some row)
    (chosen : Row → Bool) :
    ((table.update value change keeps).rows.filter chosen).length + (if chosen row then 1 else 0) =
      (table.rows.filter chosen).length + (if chosen (change row) then 1 else 0) := by
  rw [length_filter_eq_sum, length_filter_eq_sum]
  exact sum_update (fun row => (if chosen row = true then 1 else 0 : Nat)) change keeps found

end Sums

section Loops

variable {State : Type u} {Item : Type v} {View : Type w} (step : State → Item → State)
variable (keyOf : Item → Key) (view : State → Key → View)
variable (frame : ∀ state item value, value ≠ keyOf item →
  view (step state item) value = view state value)

include frame

omit [DecidableEq Key] in
theorem loop_absent (items : List Item) (state : State) (value : Key)
    (absent : value ∉ items.map keyOf) :
    view (items.foldl step state) value = view state value := by
  induction items generalizing state with
  | nil => rfl
  | cons item rest ih =>
    rw [List.map_cons, List.mem_cons, not_or] at absent
    rw [List.foldl_cons, ih (step state item) absent.2]
    exact frame state item value absent.1

omit [DecidableEq Key] in
/-- The item of a key finds what the loop began with, and what its round leaves
is what the loop ends with. -/
theorem loop_once (items : List Item) (state : State) (item : Item) (member : item ∈ items)
    (distinct : (items.map keyOf).Nodup) :
    ∃ before, view before (keyOf item) = view state (keyOf item) ∧
      view (items.foldl step state) (keyOf item) = view (step before item) (keyOf item) := by
  induction items generalizing state with
  | nil => exact absurd member List.not_mem_nil
  | cons first rest ih =>
    obtain ⟨fresh, onward⟩ := List.nodup_cons.mp distinct
    rw [List.foldl_cons]
    rcases List.mem_cons.mp member with same | later
    · subst same
      exact ⟨state, rfl, loop_absent step keyOf view frame rest _ _ fresh⟩
    · have different : keyOf item ≠ keyOf first := by
        intro equal
        exact fresh (equal ▸ List.mem_map_of_mem later)
      obtain ⟨before, unchanged, ended⟩ := ih (step state first) later onward
      exact ⟨before, unchanged.trans (frame state first _ different), ended⟩

end Loops

/-!
Lookup tables filled by writing entries one after the other, as a Go map is
filled by a loop of assignments: a later entry replaces an earlier one with the
same key.
-/

section WriteTables

variable {Value : Type w}

def write (table : Key → Option Value) (entry : Key × Value) : Key → Option Value :=
  fun key => if key = entry.1 then some entry.2 else table key

def writeAll (entries : List (Key × Value)) : Key → Option Value :=
  entries.foldl write fun _ => none

variable {entries : List (Key × Value)} {key : Key} {value : Value}

theorem write_all_snoc {last : Key × Value} :
    writeAll (entries ++ [last]) = write (writeAll entries) last := by
  simp [writeAll, List.foldl_append]

theorem write_all_mem
    (stored : writeAll entries key = some value) : (key, value) ∈ entries := by
  induction entries using List.reverseRecOn with
  | nil => simp [writeAll] at stored
  | append_singleton entries last ih =>
    rw [write_all_snoc] at stored
    by_cases same : key = last.1
    · have latest : last.2 = value := by simpa [write, same] using stored
      have here : (key, value) = last := by rw [same, ← latest]
      simp [here]
    · have earlier : writeAll entries key = some value := by simpa [write, same] using stored
      exact List.mem_append_left _ (ih earlier)

theorem write_all_present
    (member : (key, value) ∈ entries) : ∃ stored, writeAll entries key = some stored := by
  induction entries using List.reverseRecOn with
  | nil => simp at member
  | append_singleton entries last ih =>
    rw [write_all_snoc]
    by_cases same : key = last.1
    · exact ⟨last.2, by simp [write, same]⟩
    · rcases List.mem_append.mp member with earlier | here
      · obtain ⟨stored, found⟩ := ih earlier
        exact ⟨stored, by simpa [write, same] using found⟩
      · have head : (key, value) = last := List.mem_singleton.mp here
        exact absurd (congrArg Prod.fst head) same

theorem write_all_agrees
    (member : (key, value) ∈ entries) :
    ∃ stored, writeAll entries key = some stored ∧ (key, stored) ∈ entries := by
  obtain ⟨stored, found⟩ := write_all_present member
  exact ⟨stored, found, write_all_mem found⟩

end WriteTables

end VcStack.KeyedTables
