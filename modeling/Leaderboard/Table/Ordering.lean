/-
# Leaderboard.Table.Ordering — sorting rows by a column

Cells without a value stand last in both directions. Numbers are ordered as numbers, and all other
pairs by their plain texts, lowered character by character. Sorting is stable: rows with equal cells
keep their order. Where a column mixes numbers and texts the order can contradict itself; what
becomes of its rows then is up to the sorter.

Main statements: `compareCells_missing_left` and `compareCells_missing_right` (a missing cell is
after every other), `sortRows_perm` (sorting keeps the rows) and `mem_sortRows`.
-/
import Leaderboard.Sorting
import Leaderboard.Table.Row
import Leaderboard.Text.Case

set_option autoImplicit false

namespace Leaderboard

inductive Direction where
  | ascending
  | descending
deriving DecidableEq, Repr

namespace Direction

/-- The direction that a text names. -/
def ofText? (s : String) : Option Direction :=
  let name := Text.lowerAscii (Text.trim s)
  if name = "asc" ∨ name = "ascending" then some .ascending
  else if name = "desc" ∨ name = "descending" then some .descending
  else none

def flip : Direction → Direction
  | .ascending => .descending
  | .descending => .ascending

def name : Direction → String
  | .ascending => "asc"
  | .descending => "desc"

/-- An order as it is or reversed. -/
def apply (d : Direction) (o : Ordering) : Ordering :=
  match d with
  | .ascending => o
  | .descending => o.swap

end Direction

/-- The order of two texts, whatever the case of letters. -/
def compareTexts (a b : String) : Ordering :=
  compare (Text.lowerEach a.toList) (Text.lowerEach b.toList)

/-- The order of two cells in a direction. -/
def compareCells (d : Direction) (a b : Cell) : Ordering :=
  match a, b with
  | .missing, .missing => .eq
  | .missing, _ => .gt
  | _, .missing => .lt
  | .number x, .number y => d.apply ((x.compare? y).getD .eq)
  | a, b => d.apply (compareTexts a.plain b.plain)

/-- Whether a row may stand before another when sorted by a key. -/
def Row.before (key : String) (d : Direction) (a b : Row) : Bool :=
  (compareCells d (a.get key) (b.get key)).isLE

/-- What sorting rows by a key leaves. -/
def sortByKey [Sorter] (key : String) (d : Direction) (rows : List Row) : Sorting.Result Row :=
  Sorter.sort (Row.before key d) rows

/-- The rows sorted by a key. -/
def sortRows [Sorter] (key : String) (d : Direction) (rows : List Row) : List Row :=
  (sortByKey key d rows).items

/-! ## Lemmas -/

theorem compareCells_missing_left (d : Direction) {c : Cell} (h : c ≠ .missing) :
    compareCells d .missing c = .gt := by
  cases c with
  | missing => exact absurd rfl h
  | _ => rfl

theorem compareCells_missing_right (d : Direction) {c : Cell} (h : c ≠ .missing) :
    compareCells d c .missing = .lt := by
  cases c with
  | missing => exact absurd rfl h
  | _ => rfl

theorem sortRows_perm [Sorter] (key : String) (d : Direction) (rows : List Row) :
    (sortRows key d rows).Perm rows :=
  Sorter.kept _ rows

theorem mem_sortRows [Sorter] {key : String} {d : Direction} {rows : List Row} {r : Row} :
    r ∈ sortRows key d rows ↔ r ∈ rows :=
  (sortRows_perm key d rows).mem_iff

end Leaderboard
