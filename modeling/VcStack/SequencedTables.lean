import VcStack.KeyedTables

/-!
Tables whose rows are numbered by a sequence. A number is assigned once: it does
not come back after its row is deleted.
-/

namespace VcStack.SequencedTables

open KeyedTables

universe u
variable {Row : Type u} {number : Row → Nat}

structure Sequenced (number : Row → Nat) where
  table : Table number
  last : Nat
  assigned : ∀ row ∈ table.rows, number row ≤ last

def Sequenced.empty : Sequenced number where
  table := ⟨[], List.nodup_nil⟩
  last := 0
  assigned _ member := absurd member List.not_mem_nil

def Sequenced.rows (sequenced : Sequenced number) : List Row := sequenced.table.rows

def Sequenced.find (sequenced : Sequenced number) (value : Nat) : Option Row :=
  sequenced.table.find value

section Finding

variable {sequenced : Sequenced number} {row : Row} {value : Nat}

theorem mem_rows_iff :
    row ∈ sequenced.rows ↔ sequenced.find (number row) = some row := by
  constructor
  · exact find_of_mem sequenced.table row
  · intro found
    exact ((find_iff sequenced.table).mp found).1

theorem number_of_find (found : sequenced.find value = some row) :
    number row = value :=
  ((find_iff sequenced.table).mp found).2

theorem find_le_last (found : sequenced.find value = some row) :
    value ≤ sequenced.last := by
  obtain ⟨member, rfl⟩ := (find_iff sequenced.table).mp found
  exact sequenced.assigned row member

theorem find_next : sequenced.find (sequenced.last + 1) = none := by
  apply Option.eq_none_iff_forall_ne_some.mpr
  intro row found
  exact Nat.not_succ_le_self _ (find_le_last found)

theorem unassigned {row : Nat → Row} (assigns : ∀ value, number (row value) = value) :
    number (row (sequenced.last + 1)) ∉ sequenced.table.rows.map number := by
  rw [assigns]
  exact (find_none_iff sequenced.table).mp find_next

end Finding

def Sequenced.create (sequenced : Sequenced number) (row : Nat → Row)
    (assigns : ∀ value, number (row value) = value) : Sequenced number where
  table := sequenced.table.insert (row (sequenced.last + 1)) (unassigned assigns)
  last := sequenced.last + 1
  assigned := by
    intro other member
    rcases List.mem_append.mp member with old | new
    · exact Nat.le_succ_of_le (sequenced.assigned other old)
    · have numbered : number other = sequenced.last + 1 := by
        rw [List.mem_singleton.mp new, assigns]
      exact Nat.le_of_eq numbered

theorem find_create (sequenced : Sequenced number) {value : Nat} {row : Nat → Row}
    (assigns : ∀ value, number (row value) = value) :
    (sequenced.create row assigns).find value =
      if value = sequenced.last + 1 then some (row value) else sequenced.find value := by
  split_ifs with same
  · subst same
    apply (find_iff _).mpr
    exact ⟨List.mem_append_right _ (List.mem_singleton.mpr rfl), assigns _⟩
  · have different : value ≠ number (row (sequenced.last + 1)) := by
      rw [assigns]
      exact same
    exact find_insert_other sequenced.table _ (unassigned assigns) different

def Sequenced.update (sequenced : Sequenced number) (value : Nat) (change : Row → Row)
    (keeps : ∀ row, number (change row) = number row) : Sequenced number where
  table := sequenced.table.update value change keeps
  last := sequenced.last
  assigned := by
    intro row member
    have listed : number row ∈ sequenced.table.rows.map number := by
      rw [← keys_update sequenced.table value change keeps]
      exact List.mem_map_of_mem member
    obtain ⟨before, present, same⟩ := List.mem_map.mp listed
    rw [← same]
    exact sequenced.assigned before present

theorem find_update (sequenced : Sequenced number) {value other : Nat} {change : Row → Row}
    (keeps : ∀ row, number (change row) = number row) :
    (sequenced.update value change keeps).find other =
      if other = value then (sequenced.find other).map change else sequenced.find other := by
  split_ifs with same
  · subst same
    exact find_update_same sequenced.table other change keeps
  · exact find_update_other sequenced.table value change keeps same

def Sequenced.delete (sequenced : Sequenced number) (value : Nat) : Sequenced number where
  table := ⟨sequenced.table.rows.filter (number · ≠ value),
    sequenced.table.distinct.sublist (List.filter_sublist.map number)⟩
  last := sequenced.last
  assigned row member := sequenced.assigned row (List.mem_of_mem_filter member)

theorem find_delete (sequenced : Sequenced number) {value other : Nat} :
    (sequenced.delete value).find other = if other = value then none else sequenced.find other := by
  apply Option.ext
  intro row
  have kept : (sequenced.delete value).find other = some row ↔
      (row ∈ sequenced.table.rows ∧ number row ≠ value) ∧ number row = other := by
    rw [Sequenced.find, find_iff, Sequenced.delete, List.mem_filter, decide_eq_true_eq]
  rw [kept]
  split_ifs with same
  · subst same
    simp only [iff_false]
    exact fun held => held.1.2 held.2
  · rw [Sequenced.find, find_iff]
    constructor
    · exact fun held => ⟨held.1.1, held.2⟩
    · rintro ⟨member, rfl⟩
      exact ⟨⟨member, same⟩, rfl⟩

end VcStack.SequencedTables
