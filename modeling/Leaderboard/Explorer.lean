/-
# Leaderboard.Explorer — the table page

`TableView.of` computes the table of a partition for a state of the page: the sort and the filters.
An `Explorer` is the page itself: the dataset, the chosen mode and the state, which the reader
changes step by step. Choosing a mode puts the state back.

Main statements: `sortKeyOf_isSome` (a table is always sorted by one of its columns) and `mem_rows`
(a row is shown exactly when it passes the filters).
-/
import Leaderboard.Navigation.Mode
import Leaderboard.Ranking
import Leaderboard.Table.Filter
import Leaderboard.Table.Ordering

set_option autoImplicit false

namespace Leaderboard

open Leaderboard.Feed (Dataset Partition)

/-! ## The state of the page -/

/-- What the reader has chosen: a sort, unless the table's own is to be used, and filters. -/
structure ViewState where
  sortKey? : Option String := none
  direction : Direction := .descending
  filters : Filters := {}
deriving DecidableEq

namespace ViewState

/-- The same column turns the direction, another one starts from the highest. -/
def toggle (s : ViewState) (key : String) : ViewState :=
  if s.sortKey? = some key then { s with direction := s.direction.flip }
  else { s with sortKey? := some key, direction := .descending }

def sort (s : ViewState) (key : String) (direction : Direction) : ViewState :=
  { s with sortKey? := some key, direction }

def filter (s : ViewState) (key text : String) : ViewState :=
  { s with filters := s.filters.set key text }

end ViewState

/-! ## The table -/

/-- The rank of each model by its slug. Models that share a slug have the rank of the last. -/
structure Ranks where
  entries : List (String × Nat)
deriving DecidableEq

namespace Ranks

/-- The rank under a slug. -/
def get? (r : Ranks) (slug : String) : Option Nat := r.entries.reverse.lookup slug

/-- The ranks of rows by their totals. -/
def ofRows [Sorter] (rows : List Row) : Ranks :=
  ⟨(Ranking.rankBy (·.total) rows).map fun e => (e.2.slug, e.1)⟩

end Ranks

/-- A table as it is shown, unless a sort gave up on the way to it. -/
structure TableView where
  mode : String
  columns : List Column
  rows : List Row
  ranks : Ranks
  sortKey? : Option String
  direction : Direction
  filters : Filters
  /-- What the sort told that gave up, if one did. -/
  fault? : Option String
deriving DecidableEq

namespace TableView

/-- The key that a table is sorted by: the chosen one if it names a column, else the table's own. -/
def sortKeyOf (columns : List Column) (chosen? : Option String) : Option String :=
  ((((chosen?.bind (findColumn? columns)).filter (·.sortable)).or (defaultSort? columns))).map
    (·.key)

/-- The rows in the order of a key, if there is one. -/
def arrange [Sorter] (sortKey? : Option String) (d : Direction) (rows : List Row) :
    Sorting.Result Row :=
  match sortKey? with
  | some key => sortByKey key d rows
  | none => { items := rows }

/-- The table of a partition under a mode. Ranks count all rows, whatever the filters, and are found
before the rows are put in order. -/
def of [Sorter] (mode : String) (p : Partition) (s : ViewState) : TableView :=
  let columns := columnsOf mode p
  let sortKey? := sortKeyOf columns s.sortKey?
  let arranged := arrange sortKey? s.direction (filterRows columns s.filters (rowsOf p))
  { mode, columns, sortKey?
    rows := arranged.items
    ranks := .ofRows (rowsOf p)
    direction := s.direction
    filters := s.filters
    fault? := (Ranking.sortByScore (·.total) (rowsOf p)).fault?.or arranged.fault? }

/-- What is shown in place of rows when none passes. -/
def emptyMessage : String := "No models match the applied filters."

def emptyMessage? (v : TableView) : Option String :=
  if v.rows.isEmpty then some emptyMessage else none

def rankOf? (v : TableView) (r : Row) : Option Nat := v.ranks.get? r.slug

/-- The link from a row's score into the benchmark breakdown. -/
def scoreHref (v : TableView) (r : Row) : String := Navigation.scoreLink v.mode r.anchor

end TableView

/-! ## The heading -/

structure Hero where
  title? : Option String
  subtitle? : Option String
  tip? : Option String
deriving DecidableEq

/-- The heading of a partition's page. -/
def Hero.of (p : Partition) : Hero :=
  let label? := p.label?.bind Text.nonempty?
  { title? := (p.title?.bind Text.nonempty?).map (· ++ " Model Explorer")
    subtitle? := label?.map fun l =>
      "Compare generation cost, latency, and scores across " ++ l ++ " models."
    tip? := label?.map fun l =>
      "Tip: Click the vibe score badge to jump directly to that model inside the " ++ l ++
        " benchmark breakdown." }

/-! ## The page -/

/-- The table page of a dataset. -/
structure Explorer where
  dataset : Dataset
  mode : String
  partition : Partition
  state : ViewState

namespace Explorer

/-- The page of a mode as it opens: sorted by the table's own column, highest first. -/
def opened (d : Dataset) (m : String × Partition) : Explorer where
  dataset := d
  mode := m.1
  partition := m.2
  state := { sortKey? := (defaultSort? (columnsOf m.1 m.2)).map (·.key) }

/-- Opens the page; nothing to open without a partition. -/
def open? (d : Dataset) (requested? : Option String) : Option Explorer :=
  (Navigation.resolve? d requested?).map (opened d)

/-- Opens the page of another mode. -/
def select? (e : Explorer) (slug : String) : Option Explorer := open? e.dataset (some slug)

/-- What the reader can do. -/
inductive Step where
  | toggle (key : String)
  | sort (key : String) (direction : Direction)
  | filter (key text : String)
  | select (slug : String)

/-- The page after a step. -/
def step? (e : Explorer) : Step → Option Explorer
  | .toggle key => some { e with state := e.state.toggle key }
  | .sort key direction => some { e with state := e.state.sort key direction }
  | .filter key text => some { e with state := e.state.filter key text }
  | .select slug => e.select? slug

/-- The page after a sequence of steps. -/
def run? (e : Explorer) : List Step → Option Explorer
  | [] => some e
  | s :: r => (e.step? s).bind (·.run? r)

def navigation (e : Explorer) : List Navigation.Entry := Navigation.entries e.dataset e.mode

def hero (e : Explorer) : Hero := Hero.of e.partition

def view [Sorter] (e : Explorer) : TableView := TableView.of e.mode e.partition e.state

end Explorer

/-! ## Lemmas -/

theorem ViewState.sortKey?_toggle (s : ViewState) (key : String) :
    (s.toggle key).sortKey? = some key := by
  unfold ViewState.toggle
  split
  · rename_i same
    exact same
  · rfl

theorem ViewState.direction_toggle (s : ViewState) (key : String) :
    (s.toggle key).direction = if s.sortKey? = some key then s.direction.flip else .descending := by
  unfold ViewState.toggle
  split
  · rfl
  · rfl

theorem TableView.sortKeyOf_isSome (mode : String) (p : Partition) (chosen? : Option String) :
    (TableView.sortKeyOf (columnsOf mode p) chosen?).isSome = true := by
  unfold TableView.sortKeyOf
  rw [Option.isSome_map, Option.isSome_or, defaultSort?_isSome, Bool.or_true]

theorem TableView.mem_rows [Sorter] {mode : String} {p : Partition} {s : ViewState} {r : Row} :
    r ∈ (TableView.of mode p s).rows ↔
      r ∈ rowsOf p ∧ ∀ c ∈ constraints (columnsOf mode p) s.filters, c.accepts r = true := by
  rw [← mem_filterRows]
  change r ∈ (TableView.arrange _ _ _).items ↔ _
  unfold TableView.arrange
  split
  · exact mem_sortRows
  · rfl

end Leaderboard
