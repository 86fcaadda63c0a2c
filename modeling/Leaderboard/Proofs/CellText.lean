/-
# Leaderboard.Proofs.CellText — what a cell shows is read back as the same cell

A raw value is coerced once, and what the cell then shows can be coerced again: nothing changes.
So the texts that cells show are a normal form of raw values.

The cells with this property can be told by their kind (`Cell.Settled`): a missing cell, a finite
number, and a text that is neither blank nor, without the blanks at its ends, a finite number. Read
back they stay as they are, and no other cell does (`settled_iff_reread`). Coercion gives settled
cells only. For texts this is its definition; every JSON number is finite; and what JSON writes for
a truth value, an array or an object begins with none of the characters that begin a number.

* `ofJson_settled`: what coercion gives is settled, is read back from its own text, sign of zero
  included, and holds a number exactly when it is one.
-/
import Leaderboard.Proofs.FilterHistory
import Leaderboard.Proofs.OwnText

set_option autoImplicit false

namespace Leaderboard

/-! ## Blank ends -/

theorem Text.isBlankText_eq_false_iff {s : String} :
    isBlankText s = false ↔ trimList s.toList ≠ [] := by
  rw [ne_eq, trimList_eq_nil_iff, Bool.not_eq_true]
  rfl

/-! ## Numbers and their texts -/

namespace Binary64

theorem finiteChars?_nil : finiteChars? [] = none := by decide

/-- The text of a finite number reads back as the number. -/
theorem finiteChars?_chars {x : Binary64} (finite : x.isFinite = true) :
    finiteChars? x.chars = some x := by
  obtain ⟨l, written, value⟩ := exists_literal finite
  rw [written, finiteChars?_of_numeral l.ofText?_chars]
  exact Option.filter_eq_some_iff.mpr ⟨congrArg some value, finite⟩

/-- Nothing in the text of a finite number is blank. -/
theorem isBlank_of_mem_chars {x : Binary64} (finite : x.isFinite = true) {c : Char}
    (mem : c ∈ x.chars) : Text.isBlank c = false := by
  obtain ⟨l, written, -⟩ := exists_literal finite
  exact Text.isBlank_of_isPlain (l.isPlain_of_mem (written ▸ mem))

end Binary64

/-! ## Texts -/

namespace Cell

variable {s : String} {x : Binary64} {c : Cell}

theorem ofText_eq_number_iff :
    ofText s = .number x ↔ Binary64.finiteChars? (Text.trimList s.toList) = some x := by
  unfold ofText
  dsimp only
  split
  · rename_i empty
    rw [List.isEmpty_iff.mp empty, Binary64.finiteChars?_nil]
    simp
  · split <;> simp_all

theorem ofText_eq_text_iff : ofText s = .text s ↔
    Text.isBlankText s = false ∧ Binary64.finiteChars? (Text.trimList s.toList) = none := by
  rw [Text.isBlankText_eq_false_iff]
  unfold ofText
  dsimp only
  split
  · rename_i empty
    simp [List.isEmpty_iff.mp empty]
  · rename_i written
    split <;> simp_all

/-! ## Settled cells -/

/-- A cell that coercion leaves as it is. -/
inductive Settled : Cell → Prop where
  | missing : Settled .missing
  | number {x : Binary64} (finite : x.isFinite = true) : Settled (.number x)
  | text {s : String} (written : Text.isBlankText s = false)
      (other : Binary64.finiteChars? (Text.trimList s.toList) = none) : Settled (.text s)

/-- The text of a finite number is read as that number, with its sign. -/
theorem ofText_text (finite : x.isFinite = true) : ofText x.text = .number x := by
  have solid : Text.trimList x.chars = x.chars := by
    apply Text.trimList_of_ends
    · intro c first
      exact Binary64.isBlank_of_mem_chars finite (List.mem_of_head? first)
    · intro c last
      exact Binary64.isBlank_of_mem_chars finite (List.mem_of_getLast? last)
  rw [ofText_eq_number_iff, Binary64.text, String.toList_ofList, solid]
  exact Binary64.finiteChars?_chars finite

/-- The settled cells are those that are read back from what they show. -/
theorem settled_iff_reread : c.Settled ↔ ofText c.plain = c := by
  constructor
  · intro settled
    cases settled with
    | missing => rfl
    | number finite => exact ofText_text finite
    | text written other => exact ofText_eq_text_iff.mpr ⟨written, other⟩
  · intro reread
    cases c with
    | missing => exact .missing
    | number x => exact .number (isFinite_of_ofJson (v := .text x.text) reread)
    | text s =>
        obtain ⟨written, other⟩ := ofText_eq_text_iff.mp reread
        exact .text written other

theorem settled_ofText (s : String) : (ofText s).Settled := by
  rcases ofText_cases s with missing | ⟨x, number, finite⟩ | text
  · rw [missing]
    exact .missing
  · rw [number]
    exact .number finite
  · rw [text]
    exact settled_iff_reread.mpr text

/-! ## What JSON writes for values that are neither texts nor numbers -/

/-- A text between two marks, neither of which is blank, is no number if the first begins none. -/
theorem ofText_between {first last : Char} (inside : List Char)
    (solid : Text.isBlank first = false ∧ Text.isBlank last = false)
    (other : first ≠ '-' ∧ first ≠ '+' ∧ first ≠ '.' ∧ first.toLower.isLower = false ∧
      first.isDigit = false) :
    (Cell.text (String.ofList (first :: (inside ++ [last])))).Settled := by
  obtain ⟨minus, plus, point, letter, digit⟩ := other
  have ends : Text.trimList (first :: (inside ++ [last])) = first :: (inside ++ [last]) := by
    apply Text.trimList_of_ends
    · simp [solid.1]
    · simp [List.getLast?_cons, solid.2]
  constructor
  · rw [Text.isBlankText_eq_false_iff, String.toList_ofList, ends]
    exact List.cons_ne_nil _ _
  · rw [String.toList_ofList, ends, Binary64.finiteChars?,
      Binary64.ofChars?_of_unsigned minus plus letter
        (Decimal.unsigned?_of_other false _ digit point)]
    rfl

theorem settled_ofJson (v : Json) : (ofJson v).Settled := by
  cases v with
  | null => exact .missing
  | bool b =>
      have words : ∀ b, ofText (Json.render (.bool b)) = .text (Json.render (.bool b)) := by decide
      exact settled_iff_reread.mpr (words b)
  | number n => exact .number n.toBinary64_isFinite
  | text s => exact settled_ofText s
  | array items => exact ofText_between _ (by decide) (by decide)
  | object members => exact ofText_between _ (by decide) (by decide)

theorem Settled.number?_eq_some_iff (settled : c.Settled) : c.number? = some x ↔ c = .number x := by
  cases settled with
  | missing => simp [number?]
  | text => simp [number?]
  | number finite =>
      rename_i y
      rw [number?, Binary64.isNan_of_isFinite finite]
      simp

/-- **What coercion gives is settled**: coerced again from its own text it is the same cell. -/
theorem ofJson_settled (v : Json) : (ofJson v).Settled ∧
    ofJson (.text (ofJson v).plain) = ofJson v ∧
    ∀ x, (ofJson v).number? = some x ↔ ofJson v = .number x :=
  have settled := settled_ofJson v
  ⟨settled, settled_iff_reread.mp settled, fun _ => settled.number?_eq_some_iff⟩

/-- The sign of zero is kept, a number too large to be finite stays a text. -/
example : (ofText "\t-0.00 ").plain = "-0" ∧ ofText "1e999" = .text "1e999" := by decide +kernel

end Cell

end Leaderboard
