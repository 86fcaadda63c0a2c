/-
# Leaderboard.Table.Row — one row for each model

A row holds the cells of a model under the keys of the declared headers. The name and the benchmark
total are cells of their own, whatever headers say.

Main statements: `get_name` and `get_total`.
-/
import Leaderboard.Table.Column

set_option autoImplicit false

namespace Leaderboard

structure Row where
  slug : String
  anchor : String
  name : String
  /-- The model's own page, if the feed gives one. -/
  link? : Option String
  /-- The identifier that text filters search besides the cell. -/
  source : String
  total : Binary64
  values : List (String × Cell)
deriving DecidableEq

namespace Row

/-- The cell under a key. -/
def get (r : Row) (key : String) : Cell :=
  if key = Column.nameKey then .text r.name
  else if key = Column.totalKey then .number r.total
  else (r.values.lookup key).getD .missing

/-- The statistic of a model under a key. -/
def statOf (m : Feed.Model) (key : String) : Json := (m.stats.lookup key).getD .null

/-- The link among the statistics of a model. -/
def linkOf? (m : Feed.Model) : Option String :=
  match statOf m Column.linkKey with
  | .text s => Text.nonempty? s
  | _ => none

/-- The row of a model of a partition. -/
def ofModel (p : Feed.Partition) (m : Feed.Model) : Row where
  slug := m.slug
  anchor := Navigation.anchor m.slug
  name := m.name
  link? := linkOf? m
  source := m.slug
  total := p.totalOf m
  values := (p.headers.filter fun h => h.key != Column.linkKey).map fun h =>
    (h.key, Cell.ofJson (statOf m h.key))

end Row

/-- The rows of a partition, in the order of its models. -/
def rowsOf (p : Feed.Partition) : List Row := p.models.map (Row.ofModel p)

/-! ## Lemmas -/

@[simp] theorem Row.get_name (r : Row) : r.get Column.nameKey = .text r.name := rfl

@[simp] theorem Row.get_total (r : Row) : r.get Column.totalKey = .number r.total := by
  unfold Row.get
  rw [if_neg (by decide), if_pos rfl]

end Leaderboard
