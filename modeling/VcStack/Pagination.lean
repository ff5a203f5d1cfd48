import Mathlib.Data.List.Nodup
import Mathlib.Data.Nat.Basic
import Mathlib.Order.Lattice
import VcStack.TextEncodings

/-!
Marker paging of lists (pkg/pagination): the parameters of a request, the query
they make and the page built from its rows, and the walk of a client that
follows next_marker. The rows of a table and its comparisons are parameters; rows
that the sort column does not tell apart come in any order.
-/

namespace VcStack.Pagination

open TextEncodings

def defaultLimit : Int := 20

def maxLimit : Int := 1000

inductive Direction where
  | asc
  | desc
  deriving DecidableEq

structure Params where
  marker : String := ""
  limit : Int
  sortKey : String
  sortDir : Direction

structure PageResult (Row : Type) where
  items : List Row
  nextMarker : String
  totalCount : Nat
  limit : Int
  hasMore : Bool

/-- `query` has the parameters that the query string names. -/
def parseParams (query : String → Option String) : Params :=
  let parsed := match parseInt ((query "limit").getD "20") with
    | some value => value.toInt
    | none => defaultLimit
  let positive := if parsed ≤ 0 then defaultLimit else parsed
  { marker := (query "marker").getD ""
    limit := if positive > maxLimit then maxLimit else positive
    sortKey := (query "sort_key").getD "created_at"
    sortDir := if query "sort_dir" = some "asc" then .asc else .desc }

structure Query where
  order : Option (String × Direction) := none
  /-- the column, the side of the marker, and the marker -/
  condition : Option (String × Direction × String) := none
  limit : Int

def applyToQuery (params : Params) (markerColumn : String) : Query where
  order := if params.sortKey ≠ "" then some (params.sortKey, params.sortDir) else none
  condition := if params.marker ≠ "" ∧ markerColumn ≠ "" then
      some (markerColumn, params.sortDir, params.marker)
    else none
  limit := params.limit + 1

/-- The items are handed on as they were fetched, the extra one included. -/
def buildResult {Row : Type} (items : List Row) (totalCount : Nat) (params : Params)
    (getID : Nat → String) (length : Nat) : PageResult Row :=
  let hasMore := decide ((length : Int) > params.limit)
  { items := items
    nextMarker := if hasMore then getID (params.limit - 1).toNat else ""
    totalCount := totalCount
    limit := params.limit
    hasMore := hasMore }

/-- The order of a column, in which several rows may be equal. -/
structure Column (Row : Type) where
  le : Row → Row → Bool
  total : ∀ left right, (le left right || le right left) = true
  trans : ∀ left middle right, le left middle = true → le middle right = true →
    le left right = true

/-- A table with a marker column of distinct ids. The database reads the text of
an id as the id, and no id has an empty text. -/
structure Table (Row Id : Type) [LinearOrder Id] where
  rows : List Row
  id : Row → Id
  distinct : (rows.map id).Nodup
  markerColumn : String
  named : markerColumn ≠ ""
  getID : Row → String
  read : String → Id
  reads : ∀ row ∈ rows, read (getID row) = id row
  present : ∀ row ∈ rows, getID row ≠ ""
  column : String → Option (Column Row)

section Paging

variable {Row Id : Type} [LinearOrder Id]

def Direction.before (direction : Direction) (column : Column Row) (left right : Row) : Bool :=
  match direction with
  | .asc => column.le left right
  | .desc => column.le right left

def Direction.past (direction : Direction) (marker id : Id) : Bool :=
  match direction with
  | .asc => decide (marker < id)
  | .desc => decide (id < marker)

def Table.meets (table : Table Row Id) (query : Query) (row : Row) : Bool :=
  match query.condition with
  | none => true
  | some (_, direction, marker) => direction.past (table.read marker) (table.id row)

def Table.Sorted (table : Table Row Id) (query : Query) (rows : List Row) : Prop :=
  match query.order with
  | none => True
  | some (key, direction) => ∃ column, table.column key = some column ∧
      rows.Pairwise fun left right => direction.before column left right = true

def Table.Answers (table : Table Row Id) (query : Query) (items : List Row) : Prop :=
  ∃ ordered, ordered.Perm (table.rows.filter (table.meets query)) ∧ table.Sorted query ordered ∧
    items = ordered.take query.limit.toNat

def Page (table : Table Row Id) (params : Params) (result : PageResult Row) : Prop :=
  ∃ items, table.Answers (applyToQuery params table.markerColumn) items ∧
    result = buildResult items table.rows.length params
      (fun index => (items[index]?.map table.getID).getD "") items.length

/-- A client follows next_marker until has_more is false. -/
inductive Walk (table : Table Row Id) : Params → List (PageResult Row) → Prop where
  | last (params : Params) (result : PageResult Row) (page : Page table params result)
      (ends : result.hasMore = false) : Walk table params [result]
  | next (params : Params) (result : PageResult Row) (rest : List (PageResult Row))
      (page : Page table params result) (more : result.hasMore = true)
      (onward : Walk table {params with marker := result.nextMarker} rest) :
      Walk table params (result :: rest)

structure Partitions (table : Table Row Id) (params : Params) (pages : List (PageResult Row)) :
    Prop where
  once : (pages.flatMap (·.items)).Perm table.rows
  bounded : ∀ page ∈ pages, (page.items.length : Int) ≤ params.limit

def Paged (table : Table Row Id) (params : Params) : Prop :=
  (∃ pages, Walk table params pages) ∧
    ∀ pages, Walk table params pages → Partitions table params pages

def remaining (table : Table Row Id) (params : Params) : List Row :=
  table.rows.filter (table.meets (applyToQuery params table.markerColumn))

variable {table : Table Row Id} {params : Params} {direction : Direction} (column : Column Row)

theorem first_remaining (first : params.marker = "") : remaining table params = table.rows := by
  apply List.filter_eq_self.mpr
  intro row _
  simp [Table.meets, applyToQuery, first]

theorem limit_successor (positive : 1 ≤ params.limit) :
    ∃ count : Nat, params.limit = count + 1 :=
  ⟨(params.limit - 1).toNat, by omega⟩

/-- What a page consists of, for a limit of `count + 1`. -/
theorem page_shape {count : Nat} (limit : params.limit = count + 1) {result : PageResult Row}
    (page : Page table params result) :
    ∃ ordered, ordered.Perm (remaining table params) ∧
      table.Sorted (applyToQuery params table.markerColumn) ordered ∧
      result.items = ordered.take (count + 2) ∧
      (result.hasMore = true ↔ count + 1 < ordered.length) ∧
      ∀ row, ordered[count]? = some row → result.hasMore = true →
        result.nextMarker = table.getID row := by
  obtain ⟨items, ⟨ordered, permuted, sorted, cut⟩, built⟩ := page
  have size : (applyToQuery params table.markerColumn).limit.toNat = count + 2 := by
    simp only [applyToQuery, limit]
    omega
  have index : (params.limit - 1).toNat = count := by omega
  rw [size] at cut
  subst built
  refine ⟨ordered, permuted, sorted, cut, ?_, ?_⟩
  · simp only [buildResult, decide_eq_true_eq, limit, cut, List.length_take]
    omega
  · intro row there more
    have shown : items[count]? = some row := by
      rw [cut, List.getElem?_take_of_lt (by omega), there]
    have more' : decide ((items.length : Int) > params.limit) = true := more
    simp only [buildResult, more', if_true, index, shown, Option.map_some, Option.getD_some]

theorem page_length {count : Nat} (limit : params.limit = count + 1) {result : PageResult Row}
    (page : Page table params result) :
    result.items.length = min (count + 2) (remaining table params).length := by
  obtain ⟨ordered, permuted, _, items, _⟩ := page_shape limit page
  rw [items, List.length_take, permuted.length_eq]

theorem before_total (left right : Row) :
    (direction.before column left right || direction.before column right left) = true := by
  cases direction with
  | asc => exact column.total left right
  | desc => exact column.total right left

theorem before_trans (left middle right : Row) (first : direction.before column left middle = true)
    (second : direction.before column middle right = true) :
    direction.before column left right = true := by
  cases direction with
  | asc => exact column.trans left middle right first second
  | desc => exact column.trans right middle left second first

theorem page_exists (named : table.column params.sortKey = some column) :
    ∃ result, Page table params result := by
  let ordered := (remaining table params).mergeSort (params.sortDir.before column)
  have sorted : table.Sorted (applyToQuery params table.markerColumn) ordered := by
    unfold Table.Sorted
    simp only [applyToQuery]
    by_cases none : params.sortKey = ""
    · simp [none]
    · simp only [none, ne_eq, not_false_eq_true, if_true]
      exact ⟨column, named, List.pairwise_mergeSort (before_trans column) (before_total column) _⟩
  exact ⟨_, _, ⟨ordered, List.mergeSort_perm _ _, sorted, rfl⟩, rfl⟩

theorem past_irrefl {id : Id} : direction.past id id = false := by
  cases direction <;> simp [Direction.past]

theorem past_trans {left middle right : Id} (first : direction.past left middle = true)
    (second : direction.past middle right = true) :
    direction.past left right = true := by
  cases direction with
  | asc => exact decide_eq_true (lt_trans (of_decide_eq_true first) (of_decide_eq_true second))
  | desc => exact decide_eq_true (lt_trans (of_decide_eq_true second) (of_decide_eq_true first))

theorem next_remaining {row : Row} (asked : row ∈ remaining table params) :
    remaining table {params with marker := table.getID row} =
      (remaining table params).filter fun other =>
        params.sortDir.past (table.id row) (table.id other) := by
  obtain ⟨listed, meets⟩ := List.mem_filter.mp asked
  unfold remaining
  rw [List.filter_filter]
  apply List.filter_congr
  intro other _
  have present := table.present row listed
  have marked : table.meets
      (applyToQuery {params with marker := table.getID row} table.markerColumn) other =
      params.sortDir.past (table.id row) (table.id other) := by
    simp [Table.meets, applyToQuery, present, table.named, table.reads row listed]
  rw [marked]
  cases ahead : params.sortDir.past (table.id row) (table.id other) with
  | false => rfl
  | true =>
    -- What is past the row is past the marker that the row is past.
    rw [Bool.true_and, eq_comm]
    unfold Table.meets at meets ⊢
    simp only [applyToQuery] at meets ⊢
    split
    · rfl
    · rename_i condition
      rw [condition] at meets
      obtain ⟨_, same⟩ := Option.ite_none_right_eq_some.mp condition
      cases same
      exact past_trans meets ahead

theorem walk_ends (params : Params) (named : table.column params.sortKey = some column)
    (positive : 1 ≤ params.limit) :
    ∃ pages, Walk table params pages := by
  obtain ⟨count, limit⟩ := limit_successor positive
  -- The rows past the marker become fewer from page to page.
  induction left : (remaining table params).length using Nat.strongRecOn generalizing params with
  | ind size ih =>
    obtain ⟨result, page⟩ := page_exists column named
    cases more : result.hasMore with
    | false => exact ⟨_, .last params result page more⟩
    | true =>
      obtain ⟨ordered, permuted, _, _, longer, marks⟩ := page_shape limit page
      have inside : count < ordered.length := Nat.lt_of_succ_lt (longer.mp more)
      let row := ordered[count]
      have marker := marks row (List.getElem?_eq_getElem inside) more
      have asked : row ∈ remaining table params := permuted.mem_iff.mp (List.getElem_mem inside)
      have fewer : (remaining table {params with marker := result.nextMarker}).length < size := by
        rw [marker, next_remaining asked, ← left]
        exact List.length_filter_lt_length_iff_exists.mpr ⟨row, asked, by simp [past_irrefl]⟩
      obtain ⟨rest, onward⟩ := ih _ fewer {params with marker := result.nextMarker} named positive
        limit rfl
      exact ⟨_, .next params result rest page more onward⟩

/-- Whatever the query string: it names no column to sort by, or its pages end. -/
theorem parsed_walk_ends (query : String → Option String) :
    table.column (parseParams query).sortKey = none ∨
      ∃ pages, Walk table (parseParams query) pages := by
  have positive : 1 ≤ (parseParams query).limit := by
    simp only [parseParams, defaultLimit, maxLimit]
    split_ifs <;> omega
  cases named : table.column (parseParams query).sortKey with
  | none => exact Or.inl rfl
  | some column => exact Or.inr (walk_ends column _ named positive)

theorem walk_first {pages : List (PageResult Row)} (walk : Walk table params pages) :
    ∃ result rest, pages = result :: rest ∧ Page table params result := by
  cases walk with
  | last _ result page ends => exact ⟨result, [], rfl, page⟩
  | next _ result rest page more onward => exact ⟨result, rest, rfl, page⟩

/-- Paging partitions a table exactly when one page takes it. -/
theorem paging_partitions_iff (table : Table Row Id) (params : Params) (column : Column Row)
    (named : table.column params.sortKey = some column) (positive : 1 ≤ params.limit)
    (first : params.marker = "") :
    Paged table params ↔ (table.rows.length : Int) ≤ params.limit := by
  obtain ⟨count, limit⟩ := limit_successor positive
  have whole : remaining table params = table.rows := first_remaining first
  constructor
  · rintro ⟨⟨pages, walk⟩, partitions⟩
    have bounded := (partitions pages walk).bounded
    obtain ⟨result, rest, rfl, page⟩ := walk_first walk
    have shown := bounded result List.mem_cons_self
    have length := page_length limit page
    rw [whole] at length
    omega
  · intro fits
    refine ⟨walk_ends column params named positive, fun pages walk => ?_⟩
    have short : ∀ result, Page table params result →
        result.hasMore = false ∧ result.items.Perm table.rows ∧
          (result.items.length : Int) ≤ params.limit := by
      intro result page
      obtain ⟨ordered, permuted, _, items, longer, _⟩ := page_shape limit page
      rw [whole] at permuted
      have length := permuted.length_eq
      have all : ordered.take (count + 2) = ordered := List.take_of_length_le (by omega)
      rw [items, all]
      refine ⟨?_, permuted, by omega⟩
      rw [← Bool.not_eq_true, longer]
      omega
    cases walk with
    | last _ result page ends =>
      obtain ⟨_, permuted, bounded⟩ := short result page
      refine ⟨?_, ?_⟩
      · simpa using permuted
      · intro other member
        rw [List.mem_singleton.mp member]
        exact bounded
    | next _ result rest page more onward =>
      rw [(short result page).1] at more
      contradiction

end Paging

def numberColumn : Column Nat where
  le left right := decide (left ≤ right)
  total left right := by
    rw [← Bool.decide_or, decide_eq_true_eq]
    exact Nat.le_total left right
  trans left middle right first second :=
    decide_eq_true (Nat.le_trans (of_decide_eq_true first) (of_decide_eq_true second))

def threeRows : Table Nat Nat where
  rows := [1, 2, 3]
  id row := row
  distinct := by decide
  markerColumn := "id"
  named := by decide
  getID row := if row = 1 then "1" else if row = 2 then "2" else "3"
  read text := if text = "1" then 1 else if text = "2" then 2 else 3
  reads := by decide
  present := by decide
  column key := if key = "id" then some numberColumn else none

def pageOf (limit : Int) (marker : String) : Params :=
  {marker := marker, limit := limit, sortKey := "id", sortDir := .asc}

theorem three_rows_paged :
    Paged threeRows (pageOf 3 "") ∧ ¬ Paged threeRows (pageOf 2 "") := by
  constructor
  · exact (paging_partitions_iff threeRows (pageOf 3 "") numberColumn rfl (by decide) rfl).mpr
      (by decide)
  · intro paged
    have fits := (paging_partitions_iff threeRows (pageOf 2 "") numberColumn rfl (by decide)
      rfl).mp paged
    revert fits
    decide

/-- Two rows at most are asked for: the first page has three, and the last row is
on both pages. -/
theorem third_row_on_both_pages :
    ∃ first second, Walk threeRows (pageOf 2 "") [first, second] ∧
      first.items = [1, 2, 3] ∧ first.hasMore = true ∧ first.nextMarker = "2" ∧
      second.items = [3] ∧ second.hasMore = false := by
  have sorted (rows : List Nat) (ascending : rows.Pairwise (· ≤ ·)) (marker : String) :
      threeRows.Sorted (applyToQuery (pageOf 2 marker) "id") rows :=
    ⟨numberColumn, rfl, ascending.imp fun le => decide_eq_true le⟩
  refine ⟨buildResult [1, 2, 3] 3 (pageOf 2 "") (fun index => ["1", "2", "3"].getD index "") 3,
    buildResult [3] 3 (pageOf 2 "2") (fun index => ["3"].getD index "") 1, ?_, rfl, rfl, rfl, rfl, rfl⟩
  refine .next _ _ _ ⟨[1, 2, 3], ⟨[1, 2, 3], .refl _, sorted _ (by decide) "", rfl⟩, ?_⟩ rfl
    (.last _ _ ⟨[3], ⟨[3], .refl _, sorted _ (by decide) "2", rfl⟩, ?_⟩ rfl)
  · rfl
  · rfl

end VcStack.Pagination
