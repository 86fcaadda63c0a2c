/-
# Leaderboard.Table.Format — how cells are shown

Every kind of column has its way to show a number; a cell without a value is shown as a dash, and
so is a text outside the text columns.

Main statement: `formatCell_of_not_number` (in a numeric column, a cell without a number is shown
as the dash).
-/
import Leaderboard.Table.Column

set_option autoImplicit false

namespace Leaderboard

/-- What is shown for a cell without a value. -/
def missingMark : String := String.singleton (Char.ofNat 0x2013)

def formatCurrency (x : Binary64) : String := "$" ++ x.fixed 3

def formatDuration (x : Binary64) : String := x.fixed 2 ++ " s"

/-- A whole score bare, another with two places. -/
def formatScore (x : Binary64) : String :=
  if x.isNan then "0" else if x.isWhole then x.text else x.fixed 2

def atLeastOne (x : Binary64) : Bool := (Binary64.ofNat 1).le x

/-- A number below one with three places, another with two. -/
def formatPlaces (x : Binary64) : String := if atLeastOne x then x.fixed 2 else x.fixed 3

/-- The average of a number of generations; nothing scored shows zero. -/
def formatAverage (average? : Option Binary64) (count : Nat) : String :=
  match average? with
  | none => "0"
  | some x => if count = 0 ∨ x.isNan then "0" else formatPlaces x

/-- A whole number bare, another with two or three places. -/
def formatNumber (x : Binary64) : String := if x.isWhole then x.text else formatPlaces x

/-- A number in a column. -/
def ColumnKind.formatNumber (kind : ColumnKind) (x : Binary64) : String :=
  match kind with
  | .currency => formatCurrency x
  | .duration => formatDuration x
  | .integer => x.round.text
  | .score => formatScore x
  | .number | .text => Leaderboard.formatNumber x

/-- A cell in a column. -/
def formatCell (kind : ColumnKind) : Cell → String
  | .missing => missingMark
  | .text s => if kind = .text then s else missingMark
  | .number x => kind.formatNumber x

/-! ## Lemmas -/

theorem formatCell_of_not_number {kind : ColumnKind} {c : Cell} (numeric : kind.isNumeric = true)
    (h : ∀ x, c ≠ .number x) : formatCell kind c = missingMark := by
  cases c with
  | missing => rfl
  | number x => exact absurd rfl (h x)
  | text s =>
    change (if kind = .text then s else missingMark) = missingMark
    rw [if_neg]
    rintro rfl
    cases numeric

end Leaderboard
