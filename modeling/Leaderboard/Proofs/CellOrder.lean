/-
# Leaderboard.Proofs.CellOrder — how far the order of cells is one

Sorting a column takes for granted that `compareCells` is a total preorder. Two thirds of that
hold for all cells and both directions: a cell ties with itself, and comparing the other way round
turns the answer round (`Std.OrientedCmp`). The third, transitivity, holds among numbers and among
texts, but a number is compared with a text by what it prints, so two numbers and a text between
their printed forms can stand in a *circle*: each may stand before the next, and the last stands
before the first.

* `circle_iff`: transitivity fails on three cells exactly when they form such a circle, which takes
  two numbers and a text.
* `transitiveOn_of_unmixed`: a column that does not mix numbers with texts has no circle.
* `compareCells_ofJson`: all laws together, for the cells that raw values give.

Pole: `circle_of_nine_and_ten` (9, 10 and the text 1a stand in a circle).
-/
import Leaderboard.Table.Ordering

set_option autoImplicit false

namespace Leaderboard

/-! ## Numbers and texts apart -/

/-- The order of two numbers; what is no number ties with all. -/
def compareNumbers (x y : Binary64) : Ordering := (x.compare? y).getD .eq

instance : Std.OrientedCmp compareNumbers where
  eq_swap {x y} := by
    unfold compareNumbers Binary64.compare?
    cases x.place? <;> cases y.place?
    case some.some => exact Std.OrientedOrd.eq_swap
    all_goals rfl

/-- Only the number in the middle has to be one. -/
theorem compareNumbers_trans {x y z : Binary64} (number : y.isNan = false)
    (hxy : (compareNumbers x y).isLE = true) (hyz : (compareNumbers y z).isLE = true) :
    (compareNumbers x z).isLE = true := by
  by_cases hx : x.isNan = false
  · by_cases hz : z.isNan = false
    · unfold compareNumbers at *
      rw [Binary64.compare?_eq hx number] at hxy
      rw [Binary64.compare?_eq number hz] at hyz
      rw [Binary64.compare?_eq hx hz]
      exact Std.TransOrd.isLE_trans hxy hyz
    · cases z with
      | nan => cases x <;> rfl
      | number => exact absurd rfl hz
  · cases x with
    | nan => rfl
    | number => exact absurd rfl hx

instance : Std.TransCmp compareTexts where
  eq_swap := Std.OrientedOrd.eq_swap
  isLE_trans := Std.TransOrd.isLE_trans

/-! ## Cells that are not missing -/

namespace Cell

/-- The ascending order of two cells that are not missing. -/
def compareContents (a b : Cell) : Ordering :=
  match a, b with
  | .number x, .number y => compareNumbers x y
  | a, b => compareTexts a.plain b.plain

instance : Std.OrientedCmp compareContents where
  eq_swap {a b} := by
    cases a <;> cases b
    case number.number x y => exact (Std.OrientedCmp.eq_swap : compareNumbers x y = _)
    all_goals exact (Std.OrientedCmp.eq_swap : compareTexts _ _ = _)

theorem compareContents_swap (a b : Cell) : compareContents b a = (compareContents a b).swap :=
  Std.OrientedCmp.eq_swap

/-- Two numbers and a text of which, in ascending order, each may stand before the next, while the
last stands before the first. -/
inductive Circle : Cell → Cell → Cell → Prop
  | textLast {x y : Binary64} {t : String} (numbers : (compareNumbers x y).isLE = true)
      (below : (compareTexts y.text t).isLE = true) (above : compareTexts t x.text = .lt) :
      Circle (.number x) (.number y) (.text t)
  | textMiddle {x y : Binary64} {t : String} (below : (compareTexts x.text t).isLE = true)
      (above : (compareTexts t y.text).isLE = true) (numbers : compareNumbers y x = .lt) :
      Circle (.number x) (.text t) (.number y)
  | textFirst {x y : Binary64} {t : String} (above : (compareTexts t x.text).isLE = true)
      (numbers : (compareNumbers x y).isLE = true) (below : compareTexts y.text t = .lt) :
      Circle (.text t) (.number x) (.number y)

theorem compareContents_not_isLE_iff_swap_lt {a b : Cell} :
    ¬ (compareContents a b).isLE = true ↔ compareContents b a = .lt := by
  rw [compareContents_swap a b]
  cases compareContents a b <;> simp

/-- The contents of cells are in a circle exactly where their order is not transitive. -/
theorem contents_circle_iff {a b c : Cell} (ha : a ≠ .missing) (hb : b ≠ .missing)
    (hc : c ≠ .missing) (number : b ≠ .number .nan) :
    (compareContents a b).isLE = true ∧ (compareContents b c).isLE = true ∧
      ¬ (compareContents a c).isLE = true ↔ Circle a b c := by
  have texts : ∀ {s t u : String}, (compareTexts s t).isLE = true → (compareTexts t u).isLE = true →
      (compareTexts s u).isLE = true := Std.TransCmp.isLE_trans
  constructor
  · rintro ⟨hab, hbc, hac⟩
    cases a <;> cases b <;> cases c
    case number.number.number x y z =>
      have : y.isNan = false := by
        cases y with
        | nan => exact absurd rfl number
        | number => rfl
      exact absurd (compareNumbers_trans this hab hbc) hac
    case number.number.text =>
      exact .textLast hab hbc (compareContents_not_isLE_iff_swap_lt.mp hac)
    case number.text.number =>
      exact .textMiddle hab hbc (compareContents_not_isLE_iff_swap_lt.mp hac)
    case text.number.number =>
      exact .textFirst hab hbc (compareContents_not_isLE_iff_swap_lt.mp hac)
    -- What is left has a missing cell, or at most one number, so that all pairs compare as texts.
    all_goals
      first
      | exact absurd rfl ha
      | exact absurd rfl hb
      | exact absurd rfl hc
      | exact absurd (texts hab hbc) hac
  · rintro (⟨numbers, below, above⟩ | ⟨below, above, numbers⟩ | ⟨above, numbers, below⟩)
    · exact ⟨numbers, below, compareContents_not_isLE_iff_swap_lt.mpr above⟩
    · exact ⟨below, above, compareContents_not_isLE_iff_swap_lt.mpr numbers⟩
    · exact ⟨above, numbers, compareContents_not_isLE_iff_swap_lt.mpr below⟩

end Cell

/-! ## All cells, both directions -/

theorem compareCells_eq_apply (d : Direction) {a b : Cell} (ha : a ≠ .missing)
    (hb : b ≠ .missing) : compareCells d a b = d.apply (a.compareContents b) := by
  cases a <;> cases b <;> first | rfl | exact absurd rfl ha | exact absurd rfl hb

instance (d : Direction) : Std.OrientedCmp (compareCells d) where
  eq_swap {a b} := by
    by_cases ha : a = .missing
    · by_cases hb : b = .missing
      · rw [ha, hb]
        rfl
      · rw [ha, compareCells_missing_left d hb, compareCells_missing_right d hb]
        rfl
    · by_cases hb : b = .missing
      · rw [hb, compareCells_missing_left d ha, compareCells_missing_right d ha]
        rfl
      · rw [compareCells_eq_apply d ha hb, compareCells_eq_apply d hb ha, a.compareContents_swap b]
        cases d <;> simp [Direction.apply]

theorem compareCells_ascending_isLE {a b : Cell} (ha : a ≠ .missing) (hb : b ≠ .missing) :
    (compareCells .ascending a b).isLE = (a.compareContents b).isLE := by
  rw [compareCells_eq_apply .ascending ha hb]
  rfl

theorem compareCells_descending_isLE {a b : Cell} (ha : a ≠ .missing) (hb : b ≠ .missing) :
    (compareCells .descending a b).isLE = (b.compareContents a).isLE := by
  rw [compareCells_eq_apply .descending ha hb, a.compareContents_swap b]
  rfl

/-- Three cells in a circle, in the order in which the direction goes round it. -/
def Direction.Circle : Direction → Cell → Cell → Cell → Prop
  | .ascending, a, b, c => Cell.Circle a b c
  | .descending, a, b, c => Cell.Circle c b a

theorem Direction.Circle.contents {d : Direction} {a b c : Cell} (circle : d.Circle a b c) :
    a ≠ .missing ∧ b ≠ .missing ∧ c ≠ .missing := by
  cases d <;> cases circle <;> simp

/-- **Transitivity fails on circles and nowhere else.** -/
theorem circle_iff (d : Direction) {a b c : Cell} (number : b ≠ .number .nan) :
    (compareCells d a b).isLE = true ∧ (compareCells d b c).isLE = true ∧
      ¬ (compareCells d a c).isLE = true ↔ d.Circle a b c := by
  by_cases hc : c = .missing
  · subst hc
    constructor
    · rintro ⟨-, -, late⟩
      cases a <;> exact absurd rfl late
    · exact fun circle => absurd rfl circle.contents.2.2
  by_cases hb : b = .missing
  · subst hb
    constructor
    · rintro ⟨-, late, -⟩
      rw [compareCells_missing_left d hc] at late
      cases late
    · exact fun circle => absurd rfl circle.contents.2.1
  by_cases ha : a = .missing
  · subst ha
    constructor
    · rintro ⟨late, -, -⟩
      rw [compareCells_missing_left d hb] at late
      cases late
    · exact fun circle => absurd rfl circle.contents.1
  cases d with
  | ascending =>
      rw [compareCells_ascending_isLE ha hb, compareCells_ascending_isLE hb hc,
        compareCells_ascending_isLE ha hc]
      exact Cell.contents_circle_iff ha hb hc number
  | descending =>
      rw [compareCells_descending_isLE ha hb, compareCells_descending_isLE hb hc,
        compareCells_descending_isLE ha hc]
      refine Iff.trans ?_ (Cell.contents_circle_iff hc hb ha number)
      exact ⟨fun ⟨ba, cb, ca⟩ => ⟨cb, ba, ca⟩, fun ⟨cb, ba, ca⟩ => ⟨ba, cb, ca⟩⟩

/-- **The order of the cells that raw values give.** Transitivity is the one law with an exception:
it fails on circles, which take two numbers and a text. -/
theorem compareCells_ofJson (d : Direction) (u v w : Json) :
    compareCells d (.ofJson u) (.ofJson u) = .eq ∧
      compareCells d (.ofJson v) (.ofJson u) = (compareCells d (.ofJson u) (.ofJson v)).swap ∧
      compareCells d .missing (.ofJson u) = (if Cell.ofJson u = .missing then .eq else .gt) ∧
      ((compareCells d (.ofJson u) (.ofJson v)).isLE = true ∧
          (compareCells d (.ofJson v) (.ofJson w)).isLE = true ∧
          ¬ (compareCells d (.ofJson u) (.ofJson w)).isLE = true ↔
        d.Circle (.ofJson u) (.ofJson v) (.ofJson w)) := by
  refine ⟨Std.ReflCmp.compare_self, Std.OrientedCmp.eq_swap, ?_,
    circle_iff d (Cell.ofJson_ne_nan v)⟩
  split
  · rename_i missing
    rw [missing]
    rfl
  · rename_i present
    exact compareCells_missing_left d present

/-- The circle of 9, 10 and the text 1a: as numbers 9 is below 10, as texts 10 is below 1a and 1a
below 9. -/
theorem circle_of_nine_and_ten :
    let nine := Cell.ofJson (.number (.natural 9 (by decide)))
    let ten := Cell.ofJson (.number (.natural 10 (by decide)))
    let tag := Cell.ofJson (.text "1a")
    compareCells .ascending nine ten = .lt ∧ compareCells .ascending ten tag = .lt ∧
      compareCells .ascending nine tag = .gt := by
  decide +kernel

/-! ## Columns -/

/-- The order of the cells is transitive among these. -/
def TransitiveOn (d : Direction) (cells : List Cell) : Prop :=
  ∀ a ∈ cells, ∀ b ∈ cells, ∀ c ∈ cells, (compareCells d a b).isLE = true →
    (compareCells d b c).isLE = true → (compareCells d a c).isLE = true

instance (d : Direction) (cells : List Cell) : Decidable (TransitiveOn d cells) :=
  inferInstanceAs (Decidable (∀ a ∈ cells, ∀ b ∈ cells, ∀ c ∈ cells, _ → _ → _))

/-- Whether the first cell is a number and the second a text. -/
def Cell.mixes : Cell → Cell → Bool
  | .number _, .text _ => true
  | _, _ => false

/-- No number stands beside a text. -/
def Unmixed (cells : List Cell) : Prop := ∀ a ∈ cells, ∀ b ∈ cells, a.mixes b = false

instance (cells : List Cell) : Decidable (Unmixed cells) :=
  inferInstanceAs (Decidable (∀ a ∈ cells, ∀ b ∈ cells, _))

theorem not_circle_of_unmixed {cells : List Cell} (unmixed : Unmixed cells) {d : Direction}
    {a b c : Cell} (ha : a ∈ cells) (hb : b ∈ cells) (hc : c ∈ cells) : ¬ d.Circle a b c := by
  have ascending : ∀ {a b c : Cell}, a ∈ cells → b ∈ cells → c ∈ cells → ¬ Cell.Circle a b c := by
    intro a b c ha hb hc circle
    cases circle with
    | textLast => cases unmixed _ ha _ hc
    | textMiddle => cases unmixed _ ha _ hb
    | textFirst => cases unmixed _ hb _ ha
  cases d with
  | ascending => exact ascending ha hb hc
  | descending => exact ascending hc hb ha

/-- Without a mix of numbers and texts there is no circle. -/
theorem transitiveOn_of_unmixed (d : Direction) {cells : List Cell} (unmixed : Unmixed cells)
    (numbers : ∀ c ∈ cells, c ≠ .number .nan) : TransitiveOn d cells := by
  intro a ha b hb c hc hab hbc
  refine Decidable.byContradiction fun hac => ?_
  have circle := (circle_iff d (numbers b hb)).mp ⟨hab, hbc, hac⟩
  exact not_circle_of_unmixed unmixed ha hb hc circle

end Leaderboard
