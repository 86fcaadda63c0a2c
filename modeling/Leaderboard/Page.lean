/-
# Leaderboard.Page — the pages as plain text

The table has a line of headings, a line of filters, a line of dashes and a line for each row, all
with the same column widths, counted in characters. The breakdown lists the prompts and then the
models; when a panel is open only its generations are listed.

Main statements: `length_pad` (padding reaches the width and keeps longer texts), `columnWidths_eq`
(a column is as wide as its longest cell) and `fits_iff` (a table can be laid out when each of its
cells can).
-/
import Leaderboard.Breakdown
import Leaderboard.Explorer
import Leaderboard.Table.Format

set_option autoImplicit false

namespace Leaderboard.Page

open Leaderboard.Navigation (Entry)

/-- Lines as one text. -/
def joinLines (lines : List String) : String := "\n".intercalate lines

/-! ## Navigation and heading -/

/-- The labels of the modes, the active one in brackets. -/
def navigation (entries : List Entry) : String :=
  if entries.isEmpty then "No datasets"
  else "  ".intercalate (entries.map fun e => if e.active then "[" ++ e.label ++ "]" else e.label)

def hero (h : Hero) : String := joinLines ([h.title?, h.subtitle?, h.tip?].filterMap id)

/-! ## The table -/

/-- The label of a column, with an arrow if the table is sorted by its key. -/
def heading (v : TableView) (c : Column) : String :=
  if v.sortKey? = some c.key then
    let arrow := match v.direction with
      | .ascending => Char.ofNat 0x2191
      | .descending => Char.ofNat 0x2193
    c.label ++ " " ++ String.singleton arrow
  else c.label

/-- The filter of a column in brackets, or a hint. -/
def filterCell (v : TableView) (c : Column) : String :=
  match (v.filters.get? c.key).bind fun t => Text.nonempty? (Text.trim t) with
  | some t => "[" ++ t ++ "]"
  | none => c.kind.placeholder

/-- A row in a column. Names and totals carry their links, totals their ranks. -/
def bodyCell (v : TableView) (r : Row) (c : Column) : String :=
  if c.key = Column.nameKey then
    match r.link? with
    | some href => r.name ++ " <" ++ href ++ ">"
    | none => r.name
  else if c.key = Column.totalKey then
    let rank := match v.rankOf? r with
      | some n => " (#" ++ toString n ++ ")"
      | none => ""
    formatScore r.total ++ rank ++ " <" ++ v.scoreHref r ++ ">"
  else formatCell c.kind (r.get c.key)

/-- The widths of columns that hold the cells of all lines. -/
def widthsOf (header : List String) (lines : List (List String)) : List Nat :=
  lines.foldl (fun widths line => List.zipWith max widths (line.map String.length))
    (header.map String.length)

/-- A cell with blanks after it up to a width. -/
def pad (width : Nat) (cell : String) : String :=
  cell ++ String.ofList (List.replicate (width - cell.length) ' ')

/-- The cells of a line side by side, without blanks at the end. -/
def tableLine (widths : List Nat) (cells : List String) : String :=
  Text.trimEnd ("  ".intercalate (List.zipWith pad widths cells))

def dashLine (widths : List Nat) : String :=
  "  ".intercalate (widths.map fun w => String.ofList (List.replicate w '-'))

/-- The widths of the columns of a table. -/
def columnWidths (v : TableView) : List Nat :=
  widthsOf (v.columns.map (heading v))
    (v.columns.map (filterCell v) :: v.rows.map fun r => v.columns.map (bodyCell v r))

def table (v : TableView) : String :=
  let header := v.columns.map (heading v)
  let filters := v.columns.map (filterCell v)
  let body := v.rows.map fun r => v.columns.map (bodyCell v r)
  let widths := columnWidths v
  let lines := match v.emptyMessage? with
    | some message => [message]
    | none => body.map (tableLine widths)
  joinLines (tableLine widths header :: tableLine widths filters :: dashLine widths :: lines)

/-- The widest column that can be laid out. -/
def widthLimit : Nat := 65535

/-- Whether a table can be laid out. -/
def fits (v : TableView) : Bool := (columnWidths v).all (· ≤ widthLimit)

/-! ## The breakdown -/

def promptLines (c : PromptCard) : List String :=
  c.title :: ((if c.text.isEmpty then [] else ["  \"" ++ c.text ++ "\""]) ++
    (c.explanation?.map ("  " ++ ·)).toList ++ c.references.map ("  ref: " ++ ·))

/-- What is shown for a model without generations to show. -/
def noGenerations : String := "No generations captured for this model yet."

def generationLine (g : GenerationCard) : String :=
  "    " ++ g.uid ++ " [" ++ g.media.label ++ "] " ++ g.mediaUrl ++ "  Score: " ++
    formatScore g.score ++ "  " ++ g.comment

/-- The line of a model, marked if its slug is that of the open panel. -/
def modelLine (openSlug? : Option String) (m : ModelPanel) : String :=
  (if openSlug? = some m.slug then ">" else " ") ++ " " ++ m.badge ++ " " ++ m.name ++
    "  Score: " ++ formatScore m.total ++ "  (avg " ++ formatAverage m.average? m.count ++ ")"

/-- The generations of a model, unless another panel is open. -/
def generationLines (openSlug? : Option String) (m : ModelPanel) : List String :=
  if openSlug?.isSome ∧ openSlug? ≠ some m.slug then []
  else if m.generations.isEmpty then ["    " ++ noGenerations]
  else m.generations.map generationLine

def modelLines (openSlug? : Option String) (m : ModelPanel) : List String :=
  "" :: modelLine openSlug? m :: generationLines openSlug? m

def breakdown (b : Breakdown) : String :=
  let openSlug? := b.open?.map (·.slug)
  joinLines ((if b.prompts.isEmpty then ["No prompts available"] else []) ++
    b.prompts.flatMap promptLines ++ b.panels.flatMap (modelLines openSlug?))

/-! ## Lemmas -/

theorem length_pad (width : Nat) (cell : String) :
    (pad width cell).length = max width cell.length := by
  unfold pad
  rw [String.length_append, String.length_ofList, List.length_replicate]
  omega

theorem toList_pad (width : Nat) (cell : String) :
    (pad width cell).toList = cell.toList ++ List.replicate (width - cell.length) ' ' := by
  rw [pad, String.toList_append, String.toList_ofList]

/-- A cell as wide as its column is not padded. -/
theorem pad_of_length {width : Nat} {cell : String} (h : cell.length = width) :
    pad width cell = cell := by
  rw [pad, h, Nat.sub_self, List.replicate_zero, String.ofList_nil, String.append_empty]

/-! ### Widths -/

/-- The cells of a column: its heading, its filter and a cell for each row. -/
def columnCells (v : TableView) (c : Column) : List String :=
  heading v c :: filterCell v c :: v.rows.map fun r => bodyCell v r c

/-- The length of the longest of some cells. -/
def widthOf (cells : List String) : Nat := cells.foldl (fun w cell => max w cell.length) 0

theorem foldl_max_le_iff {n : Nat} (cells : List String) (w : Nat) :
    cells.foldl (fun w cell => max w cell.length) w ≤ n ↔
      w ≤ n ∧ ∀ cell ∈ cells, cell.length ≤ n := by
  induction cells generalizing w with
  | nil => simp
  | cons cell r ih => rw [List.foldl_cons, ih, List.forall_mem_cons, Nat.max_le, and_assoc]

theorem widthOf_le_iff {n : Nat} {cells : List String} :
    widthOf cells ≤ n ↔ ∀ cell ∈ cells, cell.length ≤ n := by
  rw [widthOf, foldl_max_le_iff]
  exact and_iff_right (Nat.zero_le n)

/-- Widths that are found line by line are those found column by column. -/
theorem foldl_zipWith_max {α : Type} (columns : List α) (lines : List (α → String))
    (start : α → Nat) :
    (lines.map columns.map).foldl
        (fun widths line => List.zipWith max widths (line.map String.length))
        (columns.map start) =
      columns.map fun c =>
        (lines.map (· c)).foldl (fun w cell => max w cell.length) (start c) := by
  induction lines generalizing start with
  | nil => rfl
  | cons f r ih =>
    rw [List.map_cons, List.foldl_cons, List.map_map, List.zipWith_map, List.zipWith_self, ih]
    rfl

/-- A column is as wide as its longest cell. -/
theorem columnWidths_eq (v : TableView) :
    columnWidths v = v.columns.map fun c => widthOf (columnCells v c) := by
  have lines : (v.columns.map (filterCell v) :: v.rows.map fun r => v.columns.map (bodyCell v r)) =
      (filterCell v :: v.rows.map (bodyCell v)).map v.columns.map := by
    rw [List.map_cons, List.map_map]
    rfl
  rw [columnWidths, widthsOf, lines, List.map_map, foldl_zipWith_max]
  refine List.map_congr_left fun c _ => ?_
  rw [widthOf, columnCells, List.foldl_cons, Nat.zero_max, List.map_cons, List.map_map]
  rfl

theorem fits_iff (v : TableView) :
    fits v = true ↔ ∀ c ∈ v.columns, (heading v c).length ≤ widthLimit ∧
      (filterCell v c).length ≤ widthLimit ∧
        ∀ r ∈ v.rows, (bodyCell v r c).length ≤ widthLimit := by
  rw [fits, columnWidths_eq, List.all_map, List.all_eq_true]
  simp only [Function.comp_apply, decide_eq_true_eq, widthOf_le_iff, columnCells,
    List.forall_mem_cons, List.forall_mem_map]

end Leaderboard.Page
