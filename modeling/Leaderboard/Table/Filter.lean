/-
# Leaderboard.Table.Filter — the filters of a table

Filters are the texts typed into the columns, one for each key, kept in the order of keys. A blank
text and a text under a key without a column constrain nothing. A row passes when it passes every
constraint.

Main statement: `mem_filterRows` (a row is kept exactly when it passes all constraints).
-/
import Leaderboard.Table.Query
import Leaderboard.Table.Row

set_option autoImplicit false

namespace Leaderboard

/-- The text typed into each column, in the order of keys. -/
structure Filters where
  entries : List (String × String) := []
deriving DecidableEq

namespace Filters

def setIn (key text : String) : List (String × String) → List (String × String)
  | [] => [(key, text)]
  | (k, t) :: r =>
    if key = k then (key, text) :: r
    else if key < k then (key, text) :: (k, t) :: r
    else (k, t) :: setIn key text r

/-- Types a text into a column. -/
def set (f : Filters) (key text : String) : Filters := ⟨setIn key text f.entries⟩

/-- The text typed into a column. -/
def get? (f : Filters) (key : String) : Option String := f.entries.lookup key

/-- The texts that are not blank, trimmed. -/
def active (f : Filters) : List (String × String) :=
  f.entries.filterMap fun e => (Text.nonempty? (Text.trim e.2)).map fun t => (e.1, t)

end Filters

/-- What a row must pass in one column. -/
inductive Condition where
  | number (query : NumberQuery)
  | text (query : String)
deriving DecidableEq

namespace Condition

/-- The condition that a text typed into a column states. -/
def ofText (kind : ColumnKind) (text : String) : Condition :=
  if kind.isNumeric then .number (.ofText text) else .text text

def accepts (c : Condition) (cell : Cell) (source : String) : Bool :=
  match c with
  | .number q => q.accepts cell
  | .text q => textAccepts q cell source

end Condition

/-- A condition on the cell under a key. -/
structure Constraint where
  key : String
  condition : Condition
deriving DecidableEq

def Constraint.accepts (c : Constraint) (r : Row) : Bool :=
  c.condition.accepts (r.get c.key) r.source

/-- The constraint of one active filter, if its key names a column that can be filtered. -/
def constraint? (columns : List Column) (entry : String × String) : Option Constraint :=
  ((findColumn? columns entry.1).filter (·.filterable)).map fun column =>
    ⟨entry.1, .ofText column.kind entry.2⟩

/-- The constraints of the active filters. -/
def constraints (columns : List Column) (f : Filters) : List Constraint :=
  f.active.filterMap (constraint? columns)

/-- Whether a row passes all constraints. -/
def Row.passes (r : Row) (cs : List Constraint) : Bool := cs.all (·.accepts r)

/-- The rows that pass the filters, in order. -/
def filterRows (columns : List Column) (f : Filters) (rows : List Row) : List Row :=
  rows.filter (·.passes (constraints columns f))

/-! ## Lemmas -/

theorem mem_filterRows {columns : List Column} {f : Filters} {rows : List Row} {r : Row} :
    r ∈ filterRows columns f rows ↔
      r ∈ rows ∧ ∀ c ∈ constraints columns f, c.accepts r = true := by
  unfold filterRows Row.passes
  rw [List.mem_filter, List.all_eq_true]

end Leaderboard
