/-
# Leaderboard.Proofs.SortToggle — toggling a column against the sort that is shown

The page keeps the key that was last sorted by, whether or not a column has it; the table shows the
sort it uses, that of the benchmark total where no column has the kept key. Toggling compares with
what is kept. Over a run the kept key is the last one that a sort or a toggle named since the mode
was chosen (`kept_run`), and it differs from the one shown exactly when it names no column.

So toggling a column always sorts by it, and turns the direction where the column is the one shown,
but for one case: a key without a column is kept, the total is toggled, and it was shown from the
highest. Then it stays so (`toggle_misses_iff`).

* `toggle_over_runs`: this for every dataset, request, run and column.
-/
import Leaderboard.Proofs.ColumnKeys

set_option autoImplicit false

namespace Leaderboard

open Leaderboard.Feed (Dataset Partition)

namespace TableView

/-- The direction that toggling a column of a shown table stands for: the other one for the column
that the table is sorted by, the highest first for any other. -/
def turned (v : TableView) (key : String) : Direction :=
  if v.sortKey? = some key then v.direction.flip else .descending

end TableView

namespace Explorer

/-- The keys of the columns that a page shows. -/
def keys (e : Explorer) : List String := columnKeys e.mode e.partition

/-- The key that sorting has named last, after a step; choosing a mode forgets it. -/
def Step.naming (named? : Option String) : Step → Option String
  | .toggle key => some key
  | .sort key _ => some key
  | .filter _ _ => named?
  | .select _ => none

/-- The key that sorting has named last in a run, since a mode was chosen. -/
def lastNamed? (steps : List Step) : Option String := steps.foldl Step.naming none

/-! ## The kept key -/

/-- The page keeps the key that was named last, the benchmark total where none was. -/
def Keeps (e : Explorer) (named? : Option String) : Prop :=
  e.state.sortKey? = some (named?.getD Column.totalKey)

theorem keeps_open? {d : Dataset} {requested? : Option String} {e : Explorer}
    (opens : open? d requested? = some e) : e.Keeps none := by
  obtain ⟨m, -, rfl⟩ := Option.map_eq_some_iff.mp opens
  change (defaultSort? (columnsOf m.1 m.2)).map (·.key) = some Column.totalKey
  rw [defaultSort?_columnsOf]
  rfl

theorem Keeps.step {e e' : Explorer} {named? : Option String} (keeps : e.Keeps named?) {s : Step}
    (stepped : e.step? s = some e') : e'.Keeps (s.naming named?) := by
  cases s with
  | toggle key =>
      cases stepped
      exact e.state.sortKey?_toggle key
  | sort key direction =>
      cases stepped
      rfl
  | filter key text =>
      cases stepped
      exact keeps
  | select slug => exact keeps_open? stepped

theorem Keeps.run (steps : List Step) : ∀ {e e' : Explorer} {named? : Option String},
    e.Keeps named? → e.run? steps = some e' → e'.Keeps (steps.foldl Step.naming named?) := by
  induction steps with
  | nil =>
      intro e e' named? keeps ran
      cases ran
      exact keeps
  | cons s r ih =>
      intro e e' named? keeps ran
      obtain ⟨next, stepped, rest⟩ := Option.bind_eq_some_iff.mp ran
      exact ih (keeps.step stepped) rest

theorem kept_run {d : Dataset} {requested? : Option String} {first e : Explorer}
    {steps : List Step} (opens : open? d requested? = some first)
    (ran : first.run? steps = some e) : e.Keeps (lastNamed? steps) :=
  (keeps_open? opens).run steps ran

/-! ## Toggling -/

theorem view_sortKey? [Sorter] (e : Explorer) :
    e.view.sortKey? = some (TableView.keyOf e.mode e.partition e.state.sortKey?) :=
  TableView.sortKeyOf_eq e.mode e.partition e.state.sortKey?

/-- A key that is kept is shown exactly when it names a column, and else the benchmark total is. -/
theorem Keeps.shown [Sorter] {e : Explorer} {named? : Option String} (keeps : e.Keeps named?)
    (key : String) :
    e.view.sortKey? = some key ↔
      named?.getD Column.totalKey = key ∧ key ∈ e.keys ∨
        named?.getD Column.totalKey ∉ e.keys ∧ key = Column.totalKey := by
  rw [view_sortKey?, keeps, Option.some.injEq]
  change (if named?.getD Column.totalKey ∈ e.keys then named?.getD Column.totalKey
    else Column.totalKey) = key ↔ _
  split
  · rename_i column
    constructor
    · rintro rfl
      exact .inl ⟨rfl, column⟩
    · rintro (⟨same, -⟩ | ⟨other, -⟩)
      · exact same
      · exact absurd column other
  · rename_i other
    constructor
    · rintro rfl
      exact .inr ⟨other, rfl⟩
    · rintro (⟨rfl, column⟩ | ⟨-, total⟩)
      · exact absurd column other
      · exact total.symm

/-- Toggling a column sorts by it. -/
theorem toggle_sorts [Sorter] (e : Explorer) {key : String} (column : key ∈ e.keys) :
    ∃ e', e.step? (.toggle key) = some e' ∧ e'.view.sortKey? = some key ∧
      e'.view.direction =
        if e.state.sortKey? = some key then e.view.direction.flip else .descending := by
  refine ⟨_, rfl, ?_, e.state.direction_toggle key⟩
  rw [view_sortKey?]
  dsimp only
  rw [e.state.sortKey?_toggle key, TableView.keyOf_of_mem column]

/-- A page that keeps a key without a column and shows the benchmark total from the highest. -/
def Stray [Sorter] (e : Explorer) (named? : Option String) (key : String) : Prop :=
  (∃ other, named? = some other ∧ other ∉ e.keys) ∧ key = Column.totalKey ∧
    e.view.direction = .descending

/-- Toggling turns what is shown, unless the page is astray. -/
theorem toggle_misses_iff [Sorter] {e : Explorer} {named? : Option String} (keeps : e.Keeps named?)
    {key : String} (column : key ∈ e.keys) :
    (if e.state.sortKey? = some key then e.view.direction.flip else .descending) =
        e.view.turned key ↔ ¬e.Stray named? key := by
  have total : Column.totalKey ∈ e.keys := by
    unfold keys
    rw [columnKeys_eq]
    simp
  unfold TableView.turned
  by_cases kept : named?.getD Column.totalKey = key
  · -- the toggled column is the one kept, and so the one shown
    have shown := (keeps.shown key).mpr (.inl ⟨kept, column⟩)
    have same : e.state.sortKey? = some key := by rw [keeps, kept]
    rw [if_pos same, if_pos shown]
    refine ⟨fun _ => ?_, fun _ => rfl⟩
    rintro ⟨⟨other, rfl, absent⟩, -, -⟩
    obtain rfl : other = key := kept
    exact absent column
  · have other : e.state.sortKey? ≠ some key := by
      rw [keeps]
      exact fun same => kept (Option.some.inj same)
    rw [if_neg other]
    by_cases shown : e.view.sortKey? = some key
    · obtain ⟨same, -⟩ | ⟨absent, rfl⟩ := (keeps.shown key).mp shown
      · exact absurd same kept
      have named : ∃ other, named? = some other ∧ other ∉ e.keys := by
        cases named? with
        | none => exact absurd total absent
        | some name => exact ⟨name, rfl, absent⟩
      rw [if_pos shown]
      unfold Stray
      cases e.view.direction with
      | ascending => simp [Direction.flip]
      | descending => simp [Direction.flip, named]
    · rw [if_neg shown]
      refine ⟨fun _ => ?_, fun _ => rfl⟩
      rintro ⟨⟨name, rfl, absent⟩, rfl, -⟩
      exact shown ((keeps.shown _).mpr (.inr ⟨absent, rfl⟩))

/-- **Toggling a column sorts by it, and turns what is shown unless the page is astray.** -/
theorem toggle_over_runs [Sorter] {d : Dataset} (nonempty : d.partitions ≠ [])
    (requested? : Option String) (steps : List Step) :
    ∃ first e, open? d requested? = some first ∧ first.run? steps = some e ∧
      ∀ key ∈ e.keys, ∃ e', e.step? (.toggle key) = some e' ∧ e'.view.sortKey? = some key ∧
        (e'.view.direction = e.view.turned key ↔ ¬e.Stray (lastNamed? steps) key) := by
  obtain ⟨first, opens, start⟩ := open?_sound nonempty requested?
  obtain ⟨e, ran, -⟩ := start.run steps
  refine ⟨first, e, opens, ran, fun key column => ?_⟩
  obtain ⟨e', stepped, sorted, direction⟩ := e.toggle_sorts column
  refine ⟨e', stepped, sorted, ?_⟩
  rw [direction]
  exact toggle_misses_iff (kept_run opens ran) column

/-! ## Poles -/

/-- A feed with one partition and no headers. -/
def bareFeed : Dataset := .ofMembers [("m", .object [])]

/-- The table is shown by its total from the highest, and toggling the total leaves it so. -/
theorem total_stays_astray :
    ((open? bareFeed none).bind (·.run? [.toggle "cost"])).map (fun e =>
        (e.view.sortKey?, e.view.direction, e.view.turned "benchmarkTotal")) =
      some (some "benchmarkTotal", .descending, .ascending) ∧
    ((open? bareFeed none).bind (·.run? [.toggle "cost", .toggle "benchmarkTotal"])).map (fun e =>
        (e.view.sortKey?, e.view.direction)) =
      some (some "benchmarkTotal", .descending) := by
  decide +kernel

theorem toggle_over_runs_sorted :
    bareFeed.partitions ≠ [] ∧ ∃ first e, open? bareFeed (some "m") = some first ∧
      first.run? [.sort "cost" .ascending, .select "m", .sort "name" .ascending] = some e ∧
      "name" ∈ e.keys ∧ ∃ e', e.step? (.toggle "name") = some e' ∧
        e'.view.sortKey? = some "name" ∧
        (e'.view.direction = e.view.turned "name" ↔ ¬e.Stray (some "name") "name") := by
  have nonempty : bareFeed.partitions ≠ [] := List.cons_ne_nil _ _
  obtain ⟨first, e, opens, ran, each⟩ := toggle_over_runs nonempty (some "m")
    [.sort "cost" .ascending, .select "m", .sort "name" .ascending]
  have column : "name" ∈ e.keys := by
    unfold keys
    rw [columnKeys_eq]
    exact List.mem_cons_self
  exact ⟨nonempty, first, e, opens, ran, column, each "name" column⟩

end Explorer

end Leaderboard
