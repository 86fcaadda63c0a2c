/-
# Leaderboard.Proofs.FilteredTable — filters select from one order of all rows

A table filters first and sorts what is left. Nothing of that shows: wherever the order of cells is
transitive on the column that the table is sorted by, the rows shown are those that a stable sort
of *all* rows would leave after filtering. The order of places is fixed by the partition, the
column and the direction, so filters can hide rows and never move one past another. Every sorter
does this, and none gives up on the way.

The column is `keyOf`: the chosen one if the table has it, else the benchmark total. That a
partition's cells hold no NaN (`ofModel_get_ne_nan`) makes the condition on the column one that can
be seen: a column without a mix of numbers and texts always meets it.

* `sortKeyOf_eq`: the table reports `keyOf` as its sort key.
* `before_consistent`: on such a column rows can be sorted.
* `fault?_of`: only the sort of the rows that pass can give up; ranking them never does.
* `of_selects`: the table selects from the order of all rows, for any filters.
-/
import Leaderboard.Explorer
import Leaderboard.Proofs.CellOrder
import Leaderboard.Proofs.CompetitionRank

set_option autoImplicit false

namespace Leaderboard

open Leaderboard.Feed (Partition Model)

/-! ## Cells of rows -/

theorem Row.ofModel_get_ne_nan (p : Partition) (m : Model) (key : String) :
    (Row.ofModel p m).get key ≠ .number .nan := by
  unfold Row.get
  split
  · simp
  split
  · intro nan
    have total := p.totalOf_isNan m
    rw [show p.totalOf m = .nan from Cell.number.inj nan] at total
    cases total
  · cases found : (Row.ofModel p m).values.lookup key with
    | none => simp
    | some c =>
        obtain ⟨front, back, whole, -⟩ := List.lookup_eq_some_iff.mp found
        have mem : (key, c) ∈ (Row.ofModel p m).values := by
          rw [whole]
          exact List.mem_append_right front List.mem_cons_self
        obtain ⟨h, -, e⟩ := List.mem_map.mp mem
        rw [Option.getD_some, ← (Prod.mk.inj e).2]
        exact Cell.ofJson_ne_nan _

/-- The cells of rows under a key. -/
def cellsOf (rows : List Row) (key : String) : List Cell := rows.map (·.get key)

theorem cellsOf_rowsOf_ne_nan (p : Partition) (key : String) :
    ∀ c ∈ cellsOf (rowsOf p) key, c ≠ .number .nan := by
  intro c hc
  obtain ⟨r, hr, rfl⟩ := List.mem_map.mp hc
  obtain ⟨m, -, rfl⟩ := List.mem_map.mp hr
  exact Row.ofModel_get_ne_nan p m key

/-- Totals can always be compared. -/
theorem rowsOf_totals (p : Partition) : ∀ r ∈ rowsOf p, r.total.isNan = false := by
  intro r hr
  obtain ⟨m, -, rfl⟩ := List.mem_map.mp hr
  exact p.totalOf_isNan m

/-! ## The column that a table is sorted by -/

namespace TableView

/-- The key that a table of a partition is sorted by: the chosen one if it is the key of a column,
else the benchmark total. -/
def keyOf (mode : String) (p : Partition) (chosen? : Option String) : String :=
  match chosen? with
  | some key => if key ∈ (columnsOf mode p).map (·.key) then key else Column.totalKey
  | none => Column.totalKey

theorem sortKeyOf_eq (mode : String) (p : Partition) (chosen? : Option String) :
    sortKeyOf (columnsOf mode p) chosen? = some (keyOf mode p chosen?) := by
  unfold sortKeyOf keyOf
  rw [defaultSort?_columnsOf]
  cases chosen? with
  | none => rfl
  | some key =>
      rw [Option.bind_some]
      unfold findColumn?
      cases found : (columnsOf mode p).find? (·.key == key) with
      | none =>
          have absent : key ∉ (columnsOf mode p).map (·.key) := by
            intro mem
            obtain ⟨c, hc, e⟩ := List.mem_map.mp mem
            exact List.find?_eq_none.mp found c hc (beq_iff_eq.mpr e)
          dsimp only
          rw [if_neg absent]
          rfl
      | some c =>
          have mem := List.mem_of_find?_eq_some found
          have e := List.find?_some found
          rw [beq_iff_eq] at e
          have present : key ∈ (columnsOf mode p).map (·.key) := List.mem_map.mpr ⟨c, mem, e⟩
          dsimp only
          rw [if_pos present, Option.filter_some, sortable_of_mem_columnsOf mem]
          exact congrArg some e

end TableView

/-! ## Sorting and filtering -/

theorem Row.before_consistent {key : String} {d : Direction} {rows : List Row}
    (transitive : TransitiveOn d (cellsOf rows key)) :
    Sorting.Consistent (Row.before key d) rows where
  trans a ha b hb c hc := by
    have cell : ∀ r ∈ rows, r.get key ∈ cellsOf rows key := fun r hr =>
      List.mem_map.mpr ⟨r, hr, rfl⟩
    exact transitive _ (cell a ha) _ (cell b hb) _ (cell c hc)
  total a _ b _ := by
    unfold Row.before
    rw [(Std.OrientedCmp.eq_swap : compareCells d (b.get key) (a.get key) = _)]
    cases compareCells d (a.get key) (b.get key) <;> rfl

/-- No row with a cell stands after one without. -/
theorem Row.missing_last {key : String} {d : Direction} {a b : Row}
    (before : Row.before key d a b = true) (missing : a.get key = .missing) :
    b.get key = .missing := by
  refine Decidable.byContradiction fun present => ?_
  unfold Row.before at before
  rw [missing, compareCells_missing_left d present] at before
  cases before

namespace TableView

theorem rows_of [Sorter] (mode : String) (p : Partition) (s : ViewState) :
    (TableView.of mode p s).rows = sortRows (keyOf mode p s.sortKey?) s.direction
      (filterRows (columnsOf mode p) s.filters (rowsOf p)) := by
  change (arrange (sortKeyOf (columnsOf mode p) s.sortKey?) s.direction _).items = _
  rw [sortKeyOf_eq]
  rfl

/-- Of the two sorts only that by the chosen column can give up. -/
theorem fault?_of [Sorter] (mode : String) (p : Partition) (s : ViewState) :
    (TableView.of mode p s).fault? = (sortByKey (keyOf mode p s.sortKey?) s.direction
      (filterRows (columnsOf mode p) s.filters (rowsOf p))).fault? := by
  change Option.or _ (arrange (sortKeyOf (columnsOf mode p) s.sortKey?) s.direction _).fault? = _
  rw [Ranking.sortByScore_eq (rowsOf_totals p), sortKeyOf_eq]
  rfl

/-- The tables of a partition under a sort select from an order of the places of all its rows,
whatever their filters. -/
structure Selects [Sorter] (mode : String) (p : Partition) (s : ViewState)
    (order : List (Fin (rowsOf p).length)) : Prop where
  /-- Rows stand in the order of their cells, ties in the order of the partition. -/
  arranges : Sorting.Arranges (Row.before (keyOf mode p s.sortKey?) s.direction) (rowsOf p) order
  /-- Rows without a value stand last. -/
  missingLast : order.Pairwise fun i j =>
    (rowsOf p)[i].get (keyOf mode p s.sortKey?) = .missing →
      (rowsOf p)[j].get (keyOf mode p s.sortKey?) = .missing
  /-- Each table shows the rows that pass its filters, and those only. -/
  rows : ∀ f : Filters, (TableView.of mode p { s with filters := f }).rows =
    (order.filter fun i => (rowsOf p)[i].passes (constraints (columnsOf mode p) f)).map
      fun i => (rowsOf p)[i]
  succeeds : ∀ f : Filters, (TableView.of mode p { s with filters := f }).fault? = none

/-- **Filters select from one order of all rows.** -/
theorem of_selects [Sorter] (mode : String) (p : Partition) (s : ViewState)
    (ordered : Unmixed (cellsOf (rowsOf p) (keyOf mode p s.sortKey?)) ∨
      TransitiveOn s.direction (cellsOf (rowsOf p) (keyOf mode p s.sortKey?))) :
    TransitiveOn s.direction (cellsOf (rowsOf p) (keyOf mode p s.sortKey?)) ∧
      (TableView.of mode p s).sortKey? = some (keyOf mode p s.sortKey?) ∧
      ∃ order, Selects mode p s order := by
  have transitive : TransitiveOn s.direction (cellsOf (rowsOf p) (keyOf mode p s.sortKey?)) := by
    rcases ordered with unmixed | transitive
    · exact transitiveOn_of_unmixed s.direction unmixed (cellsOf_rowsOf_ne_nan p _)
    · exact transitive
  have consistent := Row.before_consistent transitive
  have sorted : ∀ f : Filters, sortByKey (keyOf mode p s.sortKey?) s.direction
      (filterRows (columnsOf mode p) f (rowsOf p)) =
        { items := Sorting.stableSort (Row.before (keyOf mode p s.sortKey?) s.direction)
            (filterRows (columnsOf mode p) f (rowsOf p)) } := fun f =>
    Sorter.sorted (consistent.mono fun r hr => (mem_filterRows.mp hr).1)
  refine ⟨transitive, sortKeyOf_eq mode p s.sortKey?, _, consistent.order_arranges, ?_, ?_, ?_⟩
  · exact consistent.order_arranges.ascending.imp fun precedes => Row.missing_last precedes.1
  · intro f
    rw [rows_of, sortRows, sorted f]
    exact consistent.stableSort_filter _
  · intro f
    rw [fault?_of, sorted f]

/-! ## Poles -/

/-- A model with a price. -/
def priced (slug : String) (price : Json) : Model where
  slug
  name := slug
  stats := [("cost", price)]
  benchmarks := []
  generations := []

/-- Prices of all kinds: two numbers, a text and none. -/
def prices : Partition where
  slug := ""
  label? := none
  title? := none
  benchmark? := none
  headers := [⟨"cost", "Cost", some "currency", none, none⟩]
  models := [priced "acme/five" (.number (.natural 5 (by decide))),
    priced "acme/free" (.text "free"), priced "beta/none" .null, priced "beta/two" (.text " 2 ")]
  prompts := []

/-- The cheapest first. -/
def cheapest : ViewState := { sortKey? := some "cost", direction := .ascending }

/-- The column of prices mixes a text with numbers and can still be sorted. -/
theorem of_selects_prices :
    TransitiveOn .ascending (cellsOf (rowsOf prices) "cost") ∧
      (TableView.of "t2i" prices cheapest).sortKey? = some "cost" ∧
      ∃ order, Selects "t2i" prices cheapest order := by
  have cost : keyOf "t2i" prices cheapest.sortKey? = "cost" := by decide +kernel
  have transitive : TransitiveOn .ascending (cellsOf (rowsOf prices) "cost") := by decide +kernel
  have selects := of_selects "t2i" prices cheapest (.inr (by rw [cost]; exact transitive))
  rw [cost] at selects
  exact selects

example : (TableView.of "t2i" prices cheapest).rows.map (·.slug) =
    ["beta/two", "acme/five", "acme/free", "beta/none"] := by decide +kernel

example : (TableView.of "t2i" prices { cheapest with filters := ⟨[("name", "ACME")]⟩ }).rows.map
    (·.slug) = ["acme/five", "acme/free"] := by decide +kernel

end TableView

end Leaderboard
