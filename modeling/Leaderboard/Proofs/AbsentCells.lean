/-
# Leaderboard.Proofs.AbsentCells — what is shown as missing is what the word `null` finds

A numeric column decides twice that a value is missing: when it shows the value, by the kind of
cell, and when it filters, by the number in the cell. For raw values the two agree. What coercion
gives is missing, a finite number or a text (`Cell.Settled`). Only the finite number has a number in
it, and however a column rounds it, what is shown has a digit
(`ColumnKind.hasDigit_formatNumber`) and so is not the mark for a missing value. Rounding to whole
numbers stays finite: far out all magnitudes are whole (`Binary64.isFinite_round`).

The word is read in any case of letters and with any blanks around it
(`NumberQuery.ofText_eq_null_iff`), and no other query finds a cell without a number.

* `absent_shown_iff_found`: shown as missing if and only if found as missing, and what other
  queries find is shown with a digit.
-/
import Leaderboard.Proofs.CellText
import Leaderboard.Table.Format

set_option autoImplicit false

namespace Leaderboard

/-! ## Rounding to a whole number stays finite -/

namespace Binary64

/-- A magnitude that is not far beyond the mantissas is small, and any other is whole. -/
theorem units_lt_or_whole (place : Nat) : units place < Nat.pow 2 53 * unitsPerOne ∨
    ∃ whole, units place = whole * unitsPerOne := by
  obtain ⟨k, order, one⟩ := unitsPerOne_eq
  obtain ⟨mantissa, size, -⟩ := units_eq place
  rw [one]
  by_cases far : k ≤ (units place).log2 - 52
  · right
    refine ⟨mantissa * Nat.pow 2 ((units place).log2 - 52 - k), ?_⟩
    have parts : Nat.pow 2 ((units place).log2 - 52 - k) * Nat.pow 2 k =
        Nat.pow 2 ((units place).log2 - 52) := by
      rw [Nat.pow_eq, Nat.pow_eq, Nat.pow_eq, ← Nat.pow_add, Nat.sub_add_cancel far]
    rw [Nat.mul_assoc, parts]
    exact size
  · left
    calc units place < Nat.pow 2 ((units place).log2 + 1) := Nat.lt_log2_self
      _ ≤ Nat.pow 2 (53 + k) := Nat.pow_le_pow_right (by decide) (by omega)
      _ = Nat.pow 2 53 * Nat.pow 2 k := Nat.pow_add 2 53 k

theorem nearest_round_lt_top {place : Nat} (below : place < top) :
    nearest ((2 * units place + unitsPerOne) / (2 * unitsPerOne)) 1 < top := by
  have pos := unitsPerOne_pos
  rcases units_lt_or_whole place with small | ⟨whole, size⟩
  · apply nearest_lt_top
    have word : Nat.pow 2 64 = 2048 * Nat.pow 2 53 := by decide
    have large : unitsPerOne ≤ Nat.pow 2 53 * unitsPerOne := Nat.le_mul_of_pos_left _ (by decide)
    rw [Nat.div_lt_iff_lt_mul (by omega), word, Nat.mul_assoc, Nat.mul_left_comm (Nat.pow 2 53)]
    generalize Nat.pow 2 53 * unitsPerOne = bound at *
    omega
  · -- Half a unit more does not reach the next whole number.
    have rounded : (2 * units place + unitsPerOne) / (2 * unitsPerOne) = whole := by
      have half : unitsPerOne / (2 * unitsPerOne) = 0 := Nat.div_eq_of_lt (by omega)
      rw [size, Nat.add_comm, Nat.mul_comm whole, ← Nat.mul_assoc,
        Nat.add_mul_div_left _ _ (by omega), half, Nat.zero_add]
    have same : nearest (whole * unitsPerOne) (1 * unitsPerOne) = nearest whole 1 :=
      nearest_mul pos
    rw [Nat.one_mul, ← size, nearest_units (Nat.le_of_lt below)] at same
    rw [rounded, ← same]
    exact below

theorem isFinite_round {x : Binary64} (finite : x.isFinite = true) : x.round.isFinite = true := by
  cases x with
  | nan => cases finite
  | number negative place bounded =>
    have below : place < top := of_decide_eq_true finite
    have rounded : round (number negative place bounded) =
        ofRatio negative ((2 * units place + unitsPerOne) / (2 * unitsPerOne)) 1 := if_pos below
    rw [rounded, ofRatio, isFinite, decide_eq_true_iff]
    exact nearest_round_lt_top below

end Binary64

/-! ## The texts of numbers have digits -/

/-- Whether there is a digit in a text. -/
def HasDigit (s : String) : Prop := ∃ c ∈ s.toList, c.isDigit = true

theorem HasDigit.append_left {s : String} (digit : HasDigit s) (t : String) :
    HasDigit (t ++ s) := by
  obtain ⟨c, mem, isDigit⟩ := digit
  exact ⟨c, by simp [mem], isDigit⟩

theorem HasDigit.append_right {s : String} (digit : HasDigit s) (t : String) :
    HasDigit (s ++ t) := by
  obtain ⟨c, mem, isDigit⟩ := digit
  exact ⟨c, by simp [mem], isDigit⟩

theorem Decimal.Literal.hasDigit (l : Literal) : HasDigit (String.ofList l.chars) := by
  obtain ⟨c, r, first, digit⟩ := l.unsignedChars_eq_cons
  refine ⟨c, ?_, digit⟩
  rw [String.toList_ofList, chars, first]
  cases l.negative <;> simp [signed]

namespace Binary64

variable {x : Binary64} (finite : x.isFinite = true)
include finite

theorem hasDigit_text : HasDigit x.text := by
  obtain ⟨l, written, -⟩ := exists_literal finite
  rw [text, written]
  exact l.hasDigit

theorem hasDigit_fixed (places : Nat) : HasDigit (x.fixed places) := by
  cases x with
  | nan => cases finite
  | number negative place bounded =>
    have below : place < top := of_decide_eq_true finite
    obtain ⟨l, written, -⟩ := Decimal.exists_literal_positional
      ⟨negative, roundPlaces places place, -(places : Int)⟩
    have digits : fixedChars places (number negative place bounded) = l.chars :=
      (if_pos below).trans written
    rw [fixed, digits]
    exact l.hasDigit

end Binary64

/-- However a column shows a finite number, there is a digit in it. -/
theorem ColumnKind.hasDigit_formatNumber {x : Binary64} (finite : x.isFinite = true)
    (kind : ColumnKind) : HasDigit (kind.formatNumber x) := by
  have places : HasDigit (formatPlaces x) := by
    unfold formatPlaces
    split
    · exact Binary64.hasDigit_fixed finite 2
    · exact Binary64.hasDigit_fixed finite 3
  have plain : HasDigit (Leaderboard.formatNumber x) := by
    unfold Leaderboard.formatNumber
    split
    · exact Binary64.hasDigit_text finite
    · exact places
  cases kind with
  | text => exact plain
  | number => exact plain
  | currency => exact (Binary64.hasDigit_fixed finite 3).append_left "$"
  | duration => exact (Binary64.hasDigit_fixed finite 2).append_right " s"
  | integer => exact Binary64.hasDigit_text (Binary64.isFinite_round finite)
  | score =>
    change HasDigit (formatScore x)
    unfold formatScore
    rw [Binary64.isNan_of_isFinite finite]
    split
    · exact ⟨'0', by decide, by decide⟩
    · split
      · exact Binary64.hasDigit_text finite
      · exact Binary64.hasDigit_fixed finite 2

theorem not_hasDigit_missingMark : ¬HasDigit missingMark := by
  rintro ⟨c, mem, digit⟩
  obtain rfl : c = Char.ofNat 0x2013 := by simpa [missingMark] using mem
  exact absurd digit (by decide)

/-! ## The word `null` -/

namespace NumberQuery

/-- The word `null` in letters of any case, with any blanks around it. -/
def SpellsNull (s : String) : Prop := ∃ front word back : List Char,
  s.toList = front ++ (word ++ back) ∧ (∀ c ∈ front, Text.isBlank c = true) ∧
    (∀ c ∈ back, Text.isBlank c = true) ∧ word.map Char.toLower = "null".toList

theorem ofText_eq_null_iff_null? {s : String} :
    ofText s = .null ↔ null? (Text.trim s) = some .null := by
  constructor
  · intro null
    rw [ofText_eq_findSome?] at null
    cases found : readings.findSome? fun read => read (Text.trim s) with
    | none =>
      rw [found] at null
      cases null
    | some q =>
      rw [found] at null
      obtain rfl : q = .null := null
      obtain ⟨read, mem, reads⟩ := List.exists_of_findSome?_eq_some found
      obtain ⟨word, -⟩ | ⟨_, _, e⟩ | ⟨_, _, e⟩ | ⟨_, e⟩ := forms_of_reading mem reads
      · exact word
      all_goals cases e
  · intro word
    rw [ofText, word]
    rfl

/-- Letters of the word are not blank. -/
theorem trimList_word {word : List Char} (null : word.map Char.toLower = "null".toList) :
    Text.trimList word = word := by
  have solid : ∀ c ∈ word, Text.isBlank c = false := fun c mem =>
    (plain_of_isLower_toLower (isLower_of_spells null c mem)).1
  exact Text.trimList_of_ends (fun c first => solid c (List.mem_of_head? first))
    (fun c last => solid c (List.mem_of_getLast? last))

theorem ofText_eq_null_iff {s : String} : ofText s = .null ↔ SpellsNull s := by
  have chars : (Text.trim s).toList = Text.trimList s.toList := String.toList_ofList
  rw [ofText_eq_null_iff_null?, null?_eq_some_iff, chars, eq_self, true_and]
  constructor
  · intro null
    obtain ⟨front, back, split, blank, blank'⟩ := Text.trimList_split s.toList
    exact ⟨front, Text.trimList s.toList, back, by rwa [← List.append_assoc], blank, blank', null⟩
  · rintro ⟨front, word, back, split, blank, blank', null⟩
    rw [split, Text.trimList_padded blank blank', trimList_word null]
    exact null

end NumberQuery

/-! ## Shown as missing, found as missing -/

section Cells

variable {c : Cell} (settled : c.Settled)
include settled

/-- A cell with a number in it is shown with a digit. -/
theorem formatCell_of_number {x : Binary64} (number : c.number? = some x) (kind : ColumnKind) :
    c = .number x ∧ formatCell kind c = kind.formatNumber x ∧ HasDigit (formatCell kind c) := by
  obtain rfl := settled.number?_eq_some_iff.mp number
  cases settled with
  | number finite => exact ⟨rfl, rfl, kind.hasDigit_formatNumber finite⟩

theorem formatCell_eq_missingMark_iff {kind : ColumnKind} (numeric : kind.isNumeric = true) :
    formatCell kind c = missingMark ↔ c.number? = none := by
  constructor
  · intro shown
    cases number : c.number? with
    | none => rfl
    | some x =>
      obtain ⟨-, -, digit⟩ := formatCell_of_number settled number kind
      exact absurd (shown ▸ digit) not_hasDigit_missingMark
  · intro none
    apply formatCell_of_not_number numeric
    intro x number
    rw [settled.number?_eq_some_iff.mpr number] at none
    cases none

end Cells

/-- **A raw value is shown as missing in a numeric column if and only if the word `null` finds it**,
however the word is spelt. Every other query finds only what is shown as a number, with a digit. -/
theorem absent_shown_iff_found (v : Json) {kind : ColumnKind} (numeric : kind.isNumeric = true)
    (s : String) :
    (NumberQuery.SpellsNull s → (formatCell kind (Cell.ofJson v) = missingMark ↔
      (NumberQuery.ofText s).accepts (Cell.ofJson v) = true)) ∧
    (¬NumberQuery.SpellsNull s → (NumberQuery.ofText s).accepts (Cell.ofJson v) = true →
      ∃ x, Cell.ofJson v = .number x ∧ formatCell kind (Cell.ofJson v) = kind.formatNumber x ∧
        HasDigit (formatCell kind (Cell.ofJson v))) := by
  have settled := Cell.settled_ofJson v
  rw [← NumberQuery.ofText_eq_null_iff]
  constructor
  · intro null
    rw [null, formatCell_eq_missingMark_iff settled numeric, NumberQuery.accepts_null_iff]
  · intro other found
    obtain ⟨x, number⟩ :=
      Option.isSome_iff_exists.mp (NumberQuery.number?_isSome_of_accepts other found)
    exact ⟨x, formatCell_of_number settled number kind⟩

theorem spellsNull_padded : NumberQuery.SpellsNull "\tNuLL " :=
  ⟨['\t'], "NuLL".toList, [' '], by decide, List.forall_mem_singleton.mpr (by decide),
    List.forall_mem_singleton.mpr (by decide), by decide⟩

/-- A text in a column of prices is missing in both ways. A price is found by its text and shown
with its digits. -/
theorem absent_shown_iff_found_prices : ColumnKind.currency.isNumeric = true ∧
    NumberQuery.SpellsNull "\tNuLL " ∧ ¬NumberQuery.SpellsNull "0.5" ∧
    (NumberQuery.ofText "\tNuLL ").accepts (Cell.ofJson (.text "n/a")) = true ∧
    formatCell .currency (Cell.ofJson (.text "n/a")) = missingMark ∧
    (NumberQuery.ofText "0.5").accepts (Cell.ofJson (.text "0.50")) = true ∧
    HasDigit (formatCell .currency (Cell.ofJson (.text "0.50"))) := by
  have numeric : ColumnKind.currency.isNumeric = true := rfl
  have other : ¬NumberQuery.SpellsNull "0.5" := by
    rw [← NumberQuery.ofText_eq_null_iff]
    decide +kernel
  have nothing : (NumberQuery.ofText "\tNuLL ").accepts (Cell.ofJson (.text "n/a")) = true := by
    decide +kernel
  have found : (NumberQuery.ofText "0.5").accepts (Cell.ofJson (.text "0.50")) = true := by
    decide +kernel
  obtain ⟨-, -, -, digit⟩ := (absent_shown_iff_found (.text "0.50") numeric "0.5").2 other found
  exact ⟨numeric, spellsNull_padded, other, nothing,
    ((absent_shown_iff_found (.text "n/a") numeric "\tNuLL ").1 spellsNull_padded).mpr nothing,
    found, digit⟩

end Leaderboard
