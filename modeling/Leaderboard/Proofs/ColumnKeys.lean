/-
# Leaderboard.Proofs.ColumnKeys — what the keys of columns identify

Columns are looked up by their keys: by filters, by sorts and by the line of headings. Headers are
free to repeat a key and to take that of the name or of the benchmark total, and each still forms a
column. So a key stands for the first column that has it, and it stands for one column alone exactly
when the declared keys differ from each other and from the two built-in ones (`nodup_columnKeys`).

An arrow marks the columns under the key that a view is sorted by (`Page.heading_ne_label_iff`); how
many they are is a count of keys, so there is one arrow in every view exactly when keys are
distinct. The column sorted first from the start is one in any case: no header makes such a column.

* `columnsByKey`: all this, for every mode and partition.
-/
import Leaderboard.Page
import Leaderboard.Proofs.FilteredTable
import Leaderboard.Proofs.ReachablePage
import Mathlib.Data.List.Nodup

set_option autoImplicit false

namespace Leaderboard

open Leaderboard.Feed (Partition)

/-- The keys that the headers of a partition give to columns, in order. -/
def Feed.Partition.declaredKeys (p : Partition) : List String :=
  (p.headers.map (·.key)).filter fun key => key != Column.linkKey && key != ""

/-- The keys of the columns of a partition, in order. -/
def columnKeys (mode : String) (p : Partition) : List String := (columnsOf mode p).map (·.key)

/-- The first column with a key. -/
structure FirstUnder (columns : List Column) (key : String) (i : Fin columns.length) : Prop where
  here : columns[i].key = key
  first : ∀ j < i, columns[j].key ≠ key

/-- How many headings of a table have an arrow behind their label. -/
def Page.arrows (v : TableView) : Nat := v.columns.countP fun c => Page.heading v c != c.label

/-! ## Keys of columns -/

theorem Column.keys_ofHeaders (headers : List Feed.StatsHeader) :
    (headers.filterMap Column.ofHeader?).map (·.key) =
      (headers.map (·.key)).filter fun key => key != Column.linkKey && key != "" := by
  induction headers with
  | nil => rfl
  | cons h r ih =>
      rw [List.map_cons, List.filter_cons]
      by_cases unused : h.key = Column.linkKey ∨ h.key = ""
      · have none : Column.ofHeader? h = none := if_pos unused
        rw [List.filterMap_cons_none none, ih, if_neg]
        rcases unused with link | empty
        · simp [link]
        · simp [empty]
      · obtain ⟨c, column, key⟩ : ∃ c, Column.ofHeader? h = some c ∧ c.key = h.key :=
          ⟨_, if_neg unused, rfl⟩
        rw [not_or] at unused
        rw [List.filterMap_cons_some column, List.map_cons, ih, key, if_pos]
        simp [unused.1, unused.2]

theorem columnKeys_eq (mode : String) (p : Partition) :
    columnKeys mode p = Column.nameKey :: (p.declaredKeys ++ [Column.totalKey]) := by
  unfold columnKeys columnsOf Feed.Partition.declaredKeys
  rw [List.map_cons, List.map_append, Column.keys_ofHeaders]
  rfl

theorem nodup_columnKeys (mode : String) (p : Partition) : (columnKeys mode p).Nodup ↔
    p.declaredKeys.Nodup ∧ Column.nameKey ∉ p.declaredKeys ∧ Column.totalKey ∉ p.declaredKeys := by
  have apart : Column.nameKey ≠ Column.totalKey := by decide
  rw [columnKeys_eq, List.nodup_cons, List.mem_append, List.mem_singleton,
    ← List.concat_eq_append, List.nodup_concat]
  constructor
  · rintro ⟨name, total, declared⟩
    exact ⟨declared, fun mem => name (.inl mem), total⟩
  · rintro ⟨declared, name, total⟩
    exact ⟨fun mem => mem.elim name apart, total, declared⟩

/-! ## Looking up a key -/

theorem findColumn?_firstUnder {columns : List Column} {key : String}
    (mem : key ∈ columns.map (·.key)) :
    ∃ i, FirstUnder columns key i ∧ findColumn? columns key = some columns[i] := by
  cases found : findColumn? columns key with
  | none =>
      obtain ⟨c, hc, same⟩ := List.mem_map.mp mem
      exact absurd (beq_iff_eq.mpr same) (List.find?_eq_none.mp found c hc)
  | some c =>
      obtain ⟨same, i, within, here, before⟩ := List.find?_eq_some_iff_getElem.mp found
      refine ⟨⟨i, within⟩, ⟨?_, fun j earlier => ?_⟩, congrArg some here.symm⟩
      · rw [← beq_iff_eq.mp same, ← here]
        rfl
      · have other := before j earlier
        rw [Bool.not_eq_true', beq_eq_false_iff_ne] at other
        exact other

/-- Keys are distinct exactly when every column is the first with its key. -/
theorem nodup_iff_firstUnder (columns : List Column) : (columns.map (·.key)).Nodup ↔
    ∀ i : Fin columns.length, FirstUnder columns columns[i].key i := by
  rw [List.Nodup, List.pairwise_map, List.pairwise_iff_getElem]
  constructor
  · intro distinct i
    exact ⟨rfl, fun j earlier => distinct j i j.isLt i.isLt earlier⟩
  · intro each i j hi hj earlier
    exact (each ⟨j, hj⟩).first ⟨i, hi⟩ earlier

/-- The column sorted first from the start is the only such column. -/
theorem countP_sortedFirst (mode : String) (p : Partition) :
    (columnsOf mode p).countP (·.sortedFirst) = 1 := by
  have headers : (p.headers.filterMap Column.ofHeader?).countP (·.sortedFirst) = 0 := by
    rw [List.countP_eq_zero]
    intro c hc
    obtain ⟨h, -, e⟩ := List.mem_filterMap.mp hc
    simp [sortedFirst_ofHeader? e]
  unfold columnsOf
  rw [List.countP_cons_of_neg (by decide), List.countP_append, headers]
  rfl

theorem findColumn?_total_iff (mode : String) (p : Partition) :
    findColumn? (columnsOf mode p) Column.totalKey = some (Column.totalColumn mode p) ↔
      Column.totalKey ∉ p.declaredKeys := by
  have declared : p.declaredKeys = (p.headers.filterMap Column.ofHeader?).map (·.key) :=
    (Column.keys_ofHeaders p.headers).symm
  have headers : findColumn? (columnsOf mode p) Column.totalKey =
      ((p.headers.filterMap Column.ofHeader?).find? (·.key == Column.totalKey)).or
        (some (Column.totalColumn mode p)) := by
    unfold findColumn? columnsOf
    rw [List.find?_cons_of_neg (by decide), List.find?_append]
    rfl
  rw [headers, declared]
  cases found : (p.headers.filterMap Column.ofHeader?).find? (·.key == Column.totalKey) with
  | none =>
      refine ⟨fun _ mem => ?_, fun _ => rfl⟩
      obtain ⟨c, hc, same⟩ := List.mem_map.mp mem
      exact List.find?_eq_none.mp found c hc (beq_iff_eq.mpr same)
  | some c =>
      have inside := List.mem_of_find?_eq_some found
      have same := List.find?_some found
      rw [beq_iff_eq] at same
      obtain ⟨h, -, e⟩ := List.mem_filterMap.mp inside
      constructor
      · intro total
        have flag := sortedFirst_ofHeader? e
        rw [Option.some_or, Option.some.injEq] at total
        rw [total] at flag
        cases flag
      · exact fun absent => absurd (List.mem_map.mpr ⟨c, inside, same⟩) absent

/-! ## The line of headings -/

theorem Page.heading_ne_label_iff (v : TableView) (c : Column) :
    Page.heading v c ≠ c.label ↔ v.sortKey? = some c.key := by
  unfold Page.heading
  split
  · rename_i sorted
    refine ⟨fun _ => sorted, fun _ same => ?_⟩
    have lengths := congrArg String.length same
    rw [String.length_append, String.length_append, String.length_singleton] at lengths
    omega
  · rename_i other
    exact ⟨fun ne => absurd rfl ne, fun sorted => absurd sorted other⟩

theorem Page.arrows_eq [Sorter] (mode : String) (p : Partition) (s : ViewState) :
    Page.arrows (TableView.of mode p s) =
      (columnKeys mode p).count (TableView.keyOf mode p s.sortKey?) := by
  have sorted : (TableView.of mode p s).sortKey? = some (TableView.keyOf mode p s.sortKey?) :=
    TableView.sortKeyOf_eq mode p s.sortKey?
  unfold Page.arrows columnKeys
  rw [List.count, List.countP_map]
  refine List.countP_congr fun c _ => ?_
  rw [bne_iff_ne, Page.heading_ne_label_iff, sorted, Option.some.injEq, Function.comp_apply,
    beq_iff_eq]
  exact eq_comm

theorem TableView.keyOf_mem (mode : String) (p : Partition) (chosen? : Option String) :
    TableView.keyOf mode p chosen? ∈ columnKeys mode p := by
  obtain ⟨c, mem, key⟩ := TableView.sortKeyOf_mem (TableView.sortKeyOf_eq mode p chosen?)
  exact List.mem_map.mpr ⟨c, mem, key⟩

theorem TableView.keyOf_of_mem {mode : String} {p : Partition} {key : String}
    (mem : key ∈ columnKeys mode p) : TableView.keyOf mode p (some key) = key := if_pos mem

theorem Page.arrows_one_iff [Sorter] (mode : String) (p : Partition) :
    (∀ s : ViewState, Page.arrows (TableView.of mode p s) = 1) ↔ (columnKeys mode p).Nodup := by
  rw [List.nodup_iff_count_eq_one]
  constructor
  · intro one key mem
    have arrow := one { sortKey? := some key }
    rwa [Page.arrows_eq, TableView.keyOf_of_mem mem] at arrow
  · intro one s
    rw [Page.arrows_eq]
    exact one _ (TableView.keyOf_mem mode p s.sortKey?)

/-! ## What keys identify -/

/-- What the keys of a partition's columns identify. -/
structure ColumnsByKey [Sorter] (mode : String) (p : Partition) : Prop where
  keys : columnKeys mode p = Column.nameKey :: (p.declaredKeys ++ [Column.totalKey])
  distinct : (columnKeys mode p).Nodup ↔ p.declaredKeys.Nodup ∧
    Column.nameKey ∉ p.declaredKeys ∧ Column.totalKey ∉ p.declaredKeys
  found : ∀ key ∈ columnKeys mode p, ∃ i, FirstUnder (columnsOf mode p) key i ∧
    findColumn? (columnsOf mode p) key = some (columnsOf mode p)[i]
  /-- Every column is what its key finds exactly when keys are distinct. -/
  itself : (columnKeys mode p).Nodup ↔ ∀ i : Fin (columnsOf mode p).length,
    FirstUnder (columnsOf mode p) (columnsOf mode p)[i].key i
  default : (columnsOf mode p).countP (·.sortedFirst) = 1 ∧
    defaultSort? (columnsOf mode p) = some (Column.totalColumn mode p)
  defaultFound : findColumn? (columnsOf mode p) (Column.totalColumn mode p).key =
    some (Column.totalColumn mode p) ↔ Column.totalKey ∉ p.declaredKeys
  /-- The line of headings has an arrow for each column under the key of the sort. -/
  arrows : ∀ s : ViewState,
    (∃ widths rest, Page.table (TableView.of mode p s) = Page.joinLines
      (Page.tableLine widths ((columnsOf mode p).map (Page.heading (TableView.of mode p s))) ::
        rest)) ∧
    Page.arrows (TableView.of mode p s) =
      (columnKeys mode p).count (TableView.keyOf mode p s.sortKey?) ∧
    0 < Page.arrows (TableView.of mode p s)
  oneArrow : (∀ s : ViewState, Page.arrows (TableView.of mode p s) = 1) ↔
    (columnKeys mode p).Nodup

/-- **A key identifies the first column that has it, and one column when keys are distinct.** -/
theorem columnsByKey [Sorter] (mode : String) (p : Partition) : ColumnsByKey mode p where
  keys := columnKeys_eq mode p
  distinct := nodup_columnKeys mode p
  found _ mem := findColumn?_firstUnder mem
  itself := nodup_iff_firstUnder (columnsOf mode p)
  default := ⟨countP_sortedFirst mode p, defaultSort?_columnsOf mode p⟩
  defaultFound := findColumn?_total_iff mode p
  arrows s := by
    refine ⟨⟨_, _, rfl⟩, Page.arrows_eq mode p s, ?_⟩
    rw [Page.arrows_eq]
    exact List.count_pos_iff.mpr (TableView.keyOf_mem mode p s.sortKey?)
  oneArrow := Page.arrows_one_iff mode p

/-! ## Poles -/

/-- A partition that declares a column under the key of the benchmark total. -/
def shadowed : Partition where
  slug := ""
  label? := none
  title? := none
  benchmark? := none
  headers := [⟨"benchmarkTotal", "Own total", some "text", none, none⟩]
  models := []
  prompts := []

/-- Two columns share a key: the lookup finds the wrong one, and both have an arrow. -/
theorem header_shadows_total :
    ¬(columnKeys "m" shadowed).Nodup ∧
      findColumn? (columnsOf "m" shadowed) (Column.totalColumn "m" shadowed).key ≠
        some (Column.totalColumn "m" shadowed) ∧
      Page.arrows (TableView.of "m" shadowed {}) = 2 := by
  decide +kernel

end Leaderboard
