/-
# Leaderboard.Proofs.TableLayout — the cells of a table stand below each other

A line of a table is laid out when each of its cells stands in full at the start of its column,
with nothing but blanks behind it up to the next column. Where the columns start follows from
their widths alone, and a column is as wide as its longest cell, be it the heading, the filter or
the cell of a row. All lengths and places count characters.

* `table_layout`: a table whose cells are not too long is drawn. Its header, its filters and its
  rows are laid out with the same widths before the blanks at their ends are dropped, the line of
  dashes fills these widths, and no line is longer than the dashes.
-/
import Leaderboard.Page
import Mathlib.Algebra.GroupWithZero.Nat
import Mathlib.Data.List.Forall2

set_option autoImplicit false

namespace Leaderboard

namespace Page

/-! ## Cells in a line -/

/-- Where a column starts: behind the columns before it, with two blanks after each. -/
def offset (widths : List Nat) (i : Nat) : Nat := (widths.take i).sum + 2 * i

/-- A line in which every cell stands in full at the start of its column, with nothing but blanks
from its end to the next column. -/
structure Laid (widths : List Nat) (cells : List String) (chars : List Char) : Prop where
  /-- The line ends with its last column, without the two blanks. -/
  length : chars.length = offset widths cells.length - 2
  full : ∀ i cell, cells[i]? = some cell → cell.toList <+: chars.drop (offset widths i)
  blank : ∀ i cell, cells[i]? = some cell → ∀ j c, chars[j]? = some c →
    offset widths i + cell.length ≤ j → j < offset widths (i + 1) → c = ' '

theorem offset_zero (widths : List Nat) : offset widths 0 = 0 := rfl

theorem offset_cons_succ (w : Nat) (widths : List Nat) (i : Nat) :
    offset (w :: widths) (i + 1) = w + 2 + offset widths i := by
  rw [offset, List.take_succ_cons, List.sum_cons, offset]
  omega

/-- A line of a table before the blanks at its end are dropped. -/
def paddedLine (widths : List Nat) (cells : List String) : String :=
  "  ".intercalate (List.zipWith pad widths cells)

theorem trimEnd_paddedLine (widths : List Nat) (cells : List String) :
    Text.trimEnd (paddedLine widths cells) = tableLine widths cells := rfl

section Line

variable {w : Nat} {widths : List Nat} {cell : String} {cells : List String} {chars : List Char}

/-- Behind a cell that is filled up with blanks there are only blanks. -/
theorem blank_behind {n j : Nat} {c : Char}
    (here : (cell.toList ++ List.replicate n ' ')[j]? = some c) (behind : cell.length ≤ j) :
    c = ' ' := by
  rw [← String.length_toList] at behind
  rw [List.getElem?_append_right behind] at here
  exact List.eq_of_mem_replicate (List.mem_of_getElem? here)

theorem laid_nil (widths : List Nat) : Laid widths [] [] where
  length := rfl
  full := by simp
  blank := by simp

theorem laid_single (held : cell.length ≤ w) : Laid [w] [cell] (pad w cell).toList where
  length := by
    rw [String.length_toList, length_pad, Nat.max_eq_left held]
    rfl
  full := by
    rintro (_ | i) _ found
    · cases found
      rw [offset_zero, List.drop_zero, toList_pad]
      exact List.prefix_append _ _
    · cases found
  blank := by
    rintro (_ | i) _ found j c here behind -
    · cases found
      rw [toList_pad] at here
      rw [offset_zero, Nat.zero_add] at behind
      exact blank_behind here behind
    · cases found

/-- A cell before a line that is laid out. -/
theorem Laid.cons (laid : Laid widths cells chars) (held : cell.length ≤ w) (more : cells ≠ []) :
    Laid (w :: widths) (cell :: cells) ((pad w cell).toList ++ ([' ', ' '] ++ chars)) := by
  -- The first column up to the start of the second is the cell and blanks.
  obtain ⟨front, split, whole, long⟩ : ∃ front : List Char,
      (pad w cell).toList ++ ([' ', ' '] ++ chars) = front ++ chars ∧
      front = cell.toList ++ List.replicate (w + 2 - cell.length) ' ' ∧ front.length = w + 2 := by
    refine ⟨_, ?_, rfl, ?_⟩
    · rw [toList_pad, Nat.sub_add_comm held, List.replicate_add, ← List.append_assoc,
        List.append_assoc cell.toList]
      rfl
    · rw [List.length_append, List.length_replicate, String.length_toList]
      omega
  rw [split]
  refine ⟨?_, ?_, ?_⟩
  · have nonempty : 0 < cells.length := List.length_pos_iff.mpr more
    rw [List.length_append, long, laid.length, List.length_cons, offset_cons_succ]
    unfold offset
    omega
  · rintro (_ | i) _ found
    · cases found
      rw [offset_zero, List.drop_zero, whole, List.append_assoc]
      exact List.prefix_append _ _
    · rw [offset_cons_succ, ← long, List.drop_length_add_append]
      exact laid.full i _ found
  · rintro (_ | i) _ found j c here behind before
    · cases found
      rw [offset_cons_succ, offset_zero, Nat.add_zero, ← long] at before
      rw [List.getElem?_append_left before, whole] at here
      rw [offset_zero, Nat.zero_add] at behind
      exact blank_behind here behind
    · rw [offset_cons_succ, ← long] at behind before
      rw [List.getElem?_append_right (by omega)] at here
      exact laid.blank i _ found _ c here (by omega) (by omega)

/-- Cells that their columns hold are laid out when they are padded and put side by side. -/
theorem laid_paddedLine
    (held : List.Forall₂ (fun w (cell : String) => cell.length ≤ w) widths cells) :
    Laid widths cells (paddedLine widths cells).toList := by
  unfold paddedLine
  induction held with
  | nil => exact laid_nil _
  | cons here others ih =>
    cases others with
    | nil =>
      rw [List.zipWith_cons_cons, List.zipWith_nil_left, String.intercalate_singleton]
      exact laid_single here
    | cons next further =>
      rw [List.zipWith_cons_cons, List.zipWith_cons_cons, String.intercalate_cons_cons,
        ← List.zipWith_cons_cons, String.toList_append, String.toList_append, List.append_assoc]
      exact ih.cons here (List.cons_ne_nil _ _)

end Line

/-! ## Widths -/

/-- A width that holds some cells and that one of them reaches. -/
structure Widest (cells : List String) (w : Nat) : Prop where
  holds : ∀ cell ∈ cells, cell.length ≤ w
  reached : ∃ cell ∈ cells, cell.length = w

theorem widest_widthOf {cells : List String} (nonempty : cells ≠ []) :
    Widest cells (widthOf cells) := by
  have holds : ∀ cell ∈ cells, cell.length ≤ widthOf cells := widthOf_le_iff.mp (Nat.le_refl _)
  refine ⟨holds, ?_⟩
  by_contra none
  have below : ∀ cell ∈ cells, cell.length ≤ widthOf cells - 1 := fun cell mem =>
    Nat.le_sub_one_of_lt (Nat.lt_of_le_of_ne (holds cell mem) fun same => none ⟨cell, mem, same⟩)
  -- No smaller width holds the cells, so it is zero and any cell has it.
  have least : widthOf cells ≤ widthOf cells - 1 := widthOf_le_iff.mpr below
  obtain ⟨first, mem⟩ := List.exists_mem_of_ne_nil cells nonempty
  have held := holds first mem
  exact none ⟨first, mem, by omega⟩

theorem columnWidths_widest (v : TableView) :
    List.Forall₂ (fun c w => Widest (columnCells v c) w) v.columns (columnWidths v) := by
  rw [columnWidths_eq, List.forall₂_map_right_iff, List.forall₂_same]
  exact fun c _ => widest_widthOf (List.cons_ne_nil _ _)

/-! ## The table -/

/-- The cell of the line of dashes in a column. -/
def dashCell (w : Nat) : String := String.ofList (List.replicate w '-')

/-- The lines of a table before the blanks at their ends are dropped. -/
structure Layout (v : TableView) (widths : List Nat) (header filters dashes : String)
    (rows : List String) : Prop where
  widest : List.Forall₂ (fun c w => Widest (columnCells v c) w) v.columns widths
  header : Laid widths (v.columns.map (heading v)) header.toList
  filters : Laid widths (v.columns.map (filterCell v)) filters.toList
  /-- The dashes fill their columns. -/
  dashes : Laid widths (widths.map dashCell) dashes.toList
  rows : List.Forall₂ (fun r line => Laid widths (v.columns.map (bodyCell v r)) line.toList)
    v.rows rows

theorem length_dashCell (w : Nat) : (dashCell w).length = w := by
  rw [dashCell, String.length_ofList, List.length_replicate]

theorem laid_dashLine (widths : List Nat) :
    Laid widths (widths.map dashCell) (dashLine widths).toList := by
  have full : widths.map (fun w => pad w (dashCell w)) = widths.map dashCell :=
    List.map_congr_left fun w _ => pad_of_length (length_dashCell w)
  have line : paddedLine widths (widths.map dashCell) = dashLine widths := by
    rw [paddedLine, List.zipWith_map_right, List.zipWith_self, full]
    rfl
  have held : List.Forall₂ (fun w (cell : String) => cell.length ≤ w) widths
      (widths.map dashCell) := by
    rw [List.forall₂_map_right_iff, List.forall₂_same]
    exact fun w _ => Nat.le_of_eq (length_dashCell w)
  exact line ▸ laid_paddedLine held

section

variable {v : TableView} {widths : List Nat} {header filters dashes : String} {rows : List String}

/-- A line with a cell of each column is laid out in widths that hold the columns. -/
theorem laid_line (widest : List.Forall₂ (fun c w => Widest (columnCells v c) w) v.columns widths)
    {f : Column → String} (mem : ∀ c, f c ∈ columnCells v c) :
    Laid widths (v.columns.map f) (paddedLine widths (v.columns.map f)).toList := by
  refine laid_paddedLine (List.forall₂_map_right_iff.mpr (List.Forall₂.flip ?_))
  exact widest.imp fun c w wide => wide.holds _ (mem c)

/-- The dashes are as long as every line before its last blanks are dropped. -/
theorem Layout.longest (layout : Layout v widths header filters dashes rows) :
    ∀ line ∈ header :: filters :: rows, (Text.trimEnd line).length ≤ dashes.length := by
  have bound : ∀ {cells : List String} {line : String}, Laid widths cells line.toList →
      cells.length = v.columns.length → (Text.trimEnd line).length ≤ dashes.length := by
    intro cells line laid same
    have asLong := layout.dashes.length
    rw [List.length_map, ← layout.widest.length_eq, ← same, ← laid.length,
      String.length_toList, String.length_toList] at asLong
    rw [asLong]
    exact Text.length_trimEnd_le line
  intro line mem
  obtain rfl | rfl | mem := List.mem_cons.mp mem |>.imp_right List.mem_cons.mp
  · exact bound layout.header (List.length_map _)
  · exact bound layout.filters (List.length_map _)
  · obtain ⟨i, there, rfl⟩ := List.getElem_of_mem mem
    have here : i < v.rows.length := layout.rows.length_eq ▸ there
    exact bound (layout.rows.get here there) (List.length_map _)

/-- The lines of a table, with the message in place of rows if there is none. -/
theorem table_eq (v : TableView) :
    table v = joinLines (tableLine (columnWidths v) (v.columns.map (heading v)) ::
      tableLine (columnWidths v) (v.columns.map (filterCell v)) :: dashLine (columnWidths v) ::
        if v.rows = [] then [TableView.emptyMessage]
        else v.rows.map fun r => tableLine (columnWidths v) (v.columns.map (bodyCell v r))) := by
  unfold table TableView.emptyMessage?
  cases v.rows with
  | nil => rfl
  | cons r others =>
    rw [if_neg (List.cons_ne_nil r others)]
    dsimp only
    rw [List.map_map]
    rfl

/-- **The cells of a table stand below each other**, whatever they hold: none is cut, and none is
moved by another. -/
theorem table_layout (v : TableView)
    (short : ∀ c ∈ v.columns, ∀ cell ∈ columnCells v c, cell.length ≤ widthLimit) :
    fits v = true ∧ ∃ widths header filters dashes rows,
      Layout v widths header filters dashes rows ∧
      (∀ line ∈ header :: filters :: rows, (Text.trimEnd line).length ≤ dashes.length) ∧
      table v = joinLines (Text.trimEnd header :: Text.trimEnd filters :: dashes ::
        if v.rows = [] then [TableView.emptyMessage] else rows.map Text.trimEnd) := by
  have widest := columnWidths_widest v
  have layout : Layout v (columnWidths v) _ _ _
      (v.rows.map fun r => paddedLine (columnWidths v) (v.columns.map (bodyCell v r))) :=
    { widest
      header := laid_line widest fun c => by simp [columnCells]
      filters := laid_line widest fun c => by simp [columnCells]
      dashes := laid_dashLine _
      rows := by
        rw [List.forall₂_map_right_iff, List.forall₂_same]
        intro r mem
        refine laid_line widest fun c => ?_
        simp only [columnCells, List.mem_cons, List.mem_map]
        exact .inr (.inr ⟨r, mem, rfl⟩) }
  constructor
  · rw [fits_iff]
    intro c mem
    simpa [columnCells] using short c mem
  · refine ⟨_, _, _, _, _, layout, layout.longest, ?_⟩
    rw [table_eq, List.map_map, trimEnd_paddedLine, trimEnd_paddedLine]
    rfl

end

/-- A table with a name of more bytes than characters, sorted by the price. -/
def priceView : TableView where
  mode := "text"
  columns := [Column.nameColumn, { key := "price", label := "Preis", kind := .currency }]
  rows := [
    { slug := "a", anchor := "a", name := "Größe", link? := none, source := "a", total := .zero,
      values := [("price", .number (.ofNat 2))] },
    { slug := "b", anchor := "b", name := "Zwei", link? := some "https://b.example", source := "b",
      total := .zero, values := [] }]
  ranks := ⟨[]⟩
  sortKey? := some "price"
  direction := .descending
  filters := ⟨[("name", " e")]⟩
  fault? := none

theorem table_layout_prices :
    (∀ c ∈ priceView.columns, ∀ cell ∈ columnCells priceView c, cell.length ≤ widthLimit) ∧
    fits priceView = true ∧ ∃ widths header filters dashes rows,
      Layout priceView widths header filters dashes rows ∧
      (∀ line ∈ header :: filters :: rows, (Text.trimEnd line).length ≤ dashes.length) ∧
      table priceView = joinLines (Text.trimEnd header :: Text.trimEnd filters :: dashes ::
        rows.map Text.trimEnd) := by
  have short : ∀ c ∈ priceView.columns, ∀ cell ∈ columnCells priceView c,
      cell.length ≤ widthLimit := by
    decide +kernel
  obtain ⟨fit, widths, header, filters, dashes, rows, layout, longest, drawn⟩ :=
    table_layout priceView short
  have nonempty : priceView.rows ≠ [] := List.cons_ne_nil _ _
  rw [if_neg nonempty] at drawn
  exact ⟨short, fit, widths, header, filters, dashes, rows, layout, longest, drawn⟩

example : table priceView =
    "Model                     Preis ↓\n" ++
    "[e]                       e.g. <=0.05\n" ++
    "------------------------  -----------\n" ++
    "Größe                     $2.000\n" ++
    "Zwei <https://b.example>  –" := by
  decide +kernel

end Page

end Leaderboard
