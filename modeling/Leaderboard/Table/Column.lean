/-
# Leaderboard.Table.Column — the columns of a partition's table

A table has the name column, a column for every declared header and the benchmark total. Headers
without a key and the header that only carries links form no column.

Main statements: `mem_columnsOf` (what the columns are) and `defaultSort?_isSome` (every table has a
column to sort by from the start).
-/
import Leaderboard.Feed.Partition
import Leaderboard.Navigation.Link

set_option autoImplicit false

namespace Leaderboard

/-- How the values of a column are shown and filtered. -/
inductive ColumnKind where
  | text
  | number
  | currency
  | duration
  | integer
  | score
deriving DecidableEq, Repr

namespace ColumnKind

/-- The kind that a header declares; a plain number unless it is known. -/
def ofName (s : String) : ColumnKind :=
  let name := Text.trim s
  if name = "text" then .text
  else if name = "currency" then .currency
  else if name = "duration" then .duration
  else if name = "integer" then .integer
  else if name = "score" then .score
  else .number

def ofName? (s? : Option String) : ColumnKind := (s?.map ofName).getD .number

def name : ColumnKind → String
  | .text => "text"
  | .number => "number"
  | .currency => "currency"
  | .duration => "duration"
  | .integer => "integer"
  | .score => "score"

def isNumeric : ColumnKind → Bool
  | .text => false
  | _ => true

/-- What an empty filter field shows. -/
def placeholder : ColumnKind → String
  | .text => "Filter"
  | .currency => "e.g. <=0.05"
  | .duration => "e.g. <10"
  | .score => "e.g. >20"
  | .integer => "e.g. >=1100"
  | .number => "e.g. 5-15"

end ColumnKind

structure Column where
  key : String
  label : String
  kind : ColumnKind
  sortable : Bool := true
  filterable : Bool := true
  sortedFirst : Bool := false
  href? : Option String := none
deriving DecidableEq

namespace Column

def nameKey : String := "name"

def totalKey : String := "benchmarkTotal"

/-- The key of the header that carries a link for each model and forms no column. -/
def linkKey : String := "link"

def nameColumn : Column := { key := nameKey, label := "Model", kind := .text }

/-- The column of a header, if it forms one. -/
def ofHeader? (h : Feed.StatsHeader) : Option Column :=
  if h.key = linkKey ∨ h.key = "" then none
  else some { key := h.key, label := h.label, kind := .ofName? h.valueType?, href? := h.link? }

/-- The benchmark total. It links to the partition's benchmark, or else to the benchmark breakdown
of the mode. -/
def totalColumn (mode : String) (p : Feed.Partition) : Column where
  key := totalKey
  label := (p.benchmark?.bind fun b => Text.nonempty? b.name).getD "Benchmark Score"
  kind := .score
  sortedFirst := true
  href? := (p.benchmark?.bind fun b => b.href?.bind Text.nonempty?).or
    ((Text.nonempty? mode).map Navigation.benchmarkPage)

end Column

/-- The columns of a partition under a mode. -/
def columnsOf (mode : String) (p : Feed.Partition) : List Column :=
  Column.nameColumn :: (p.headers.filterMap Column.ofHeader? ++ [Column.totalColumn mode p])

/-- The column under a key. -/
def findColumn? (columns : List Column) (key : String) : Option Column :=
  columns.find? (·.key == key)

/-- The column that a table is sorted by from the start. -/
def defaultSort? (columns : List Column) : Option Column :=
  (columns.find? (·.sortedFirst)).or (columns.find? (·.sortable))

/-! ## Lemmas -/

/-- A header's column has the header's key and all flags as they are by default. -/
theorem of_ofHeader? {h : Feed.StatsHeader} {c : Column} (e : Column.ofHeader? h = some c) :
    c.key = h.key ∧ c.sortable = true ∧ c.filterable = true ∧ c.sortedFirst = false := by
  unfold Column.ofHeader? at e
  split at e
  · cases e
  · cases e
    exact ⟨rfl, rfl, rfl, rfl⟩

theorem sortedFirst_ofHeader? {h : Feed.StatsHeader} {c : Column}
    (e : Column.ofHeader? h = some c) : c.sortedFirst = false :=
  (of_ofHeader? e).2.2.2

theorem mem_columnsOf {mode : String} {p : Feed.Partition} {c : Column} :
    c ∈ columnsOf mode p ↔ c = Column.nameColumn ∨
      (∃ h ∈ p.headers, Column.ofHeader? h = some c) ∨ c = Column.totalColumn mode p := by
  rw [columnsOf, List.mem_cons, List.mem_append, List.mem_filterMap, List.mem_singleton]

theorem sortable_of_mem_columnsOf {mode : String} {p : Feed.Partition} {c : Column}
    (hc : c ∈ columnsOf mode p) : c.sortable = true := by
  obtain rfl | ⟨h, -, e⟩ | rfl := mem_columnsOf.mp hc
  · rfl
  · exact (of_ofHeader? e).2.1
  · rfl

theorem filterable_of_mem_columnsOf {mode : String} {p : Feed.Partition} {c : Column}
    (hc : c ∈ columnsOf mode p) : c.filterable = true := by
  obtain rfl | ⟨h, -, e⟩ | rfl := mem_columnsOf.mp hc
  · rfl
  · exact (of_ofHeader? e).2.2.1
  · rfl

theorem defaultSort?_columnsOf (mode : String) (p : Feed.Partition) :
    defaultSort? (columnsOf mode p) = some (Column.totalColumn mode p) := by
  have headers : (p.headers.filterMap Column.ofHeader?).find? (·.sortedFirst) = none := by
    rw [List.find?_eq_none]
    intro c hc
    obtain ⟨h, -, e⟩ := List.mem_filterMap.mp hc
    simp [sortedFirst_ofHeader? e]
  unfold defaultSort? columnsOf
  rw [List.find?_cons_of_neg (by decide), List.find?_append, headers]
  rfl

theorem defaultSort?_isSome (mode : String) (p : Feed.Partition) :
    (defaultSort? (columnsOf mode p)).isSome = true := by
  rw [defaultSort?_columnsOf]
  rfl

end Leaderboard
