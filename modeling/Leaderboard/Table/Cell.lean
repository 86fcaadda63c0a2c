/-
# Leaderboard.Table.Cell — what a cell of the table can hold

A cell is missing, a number or a text. `ofJson` coerces a raw value: blank texts are missing,
texts that write a finite number are numbers, and what is neither number nor text is shown as JSON
writes it.

Main statements: `ofText_cases` (a text becomes a missing cell, a finite number, or stays as it is)
and `isFinite_of_ofJson` (the number of a raw value is finite).
-/
import Leaderboard.Json.Printer
import Leaderboard.Text.Blank

set_option autoImplicit false

namespace Leaderboard

/-- The value of a cell. -/
inductive Cell where
  | missing
  | number (x : Binary64)
  | text (s : String)
deriving DecidableEq

namespace Cell

instance : Inhabited Cell := ⟨.missing⟩

/-- The cell of a text. -/
def ofText (s : String) : Cell :=
  let trimmed := Text.trimList s.toList
  if trimmed.isEmpty then .missing
  else
    match Binary64.finiteChars? trimmed with
    | some x => .number x
    | none => .text s

/-- The cell of a raw value. -/
def ofJson : Json → Cell
  | .null => .missing
  | .number n => .number n.toBinary64
  | .text s => ofText s
  | v => .text v.render

/-- The number in a cell, if it is one. -/
def number? : Cell → Option Binary64
  | .number x => if x.isNan then none else some x
  | _ => none

/-- The number in a cell, or zero. -/
def numberOrZero (c : Cell) : Binary64 := c.number?.getD .zero

/-- The plain text of a cell. -/
def plain : Cell → String
  | .missing => ""
  | .number x => x.text
  | .text s => s

/-! ## Lemmas -/

theorem ofText_cases (s : String) :
    ofText s = .missing ∨ (∃ x, ofText s = .number x ∧ x.isFinite = true) ∨ ofText s = .text s := by
  unfold ofText
  dsimp only
  split
  · exact .inl rfl
  · split
    · rename_i x found
      exact .inr (.inl ⟨x, rfl, (Option.filter_eq_some_iff.mp found).2⟩)
    · exact .inr (.inr rfl)

theorem isFinite_of_ofJson {v : Json} {x : Binary64} (h : ofJson v = .number x) :
    x.isFinite = true := by
  unfold ofJson at h
  split at h
  · cases h
  · cases h
    exact Json.Number.toBinary64_isFinite _
  · rename_i s
    rcases ofText_cases s with e | ⟨y, e, finite⟩ | e <;> rw [e] at h <;> cases h
    exact finite
  · cases h

theorem ofJson_ne_nan (v : Json) : ofJson v ≠ .number .nan := fun h => by
  cases isFinite_of_ofJson h

theorem numberOrZero_isNan (c : Cell) : c.numberOrZero.isNan = false := by
  cases c with
  | missing => rfl
  | text => rfl
  | number x => cases x <;> rfl

end Cell

end Leaderboard
