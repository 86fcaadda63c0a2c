/-
# Leaderboard.Proofs.OwnText — a number is found by its own text

The text of a finite number can be typed into a column of numbers: alone it finds the cells with
that number, behind the token of a comparator those in that relation to it, and with a dash and the
text of another number those between the two, whichever of them stands first.

That text is a literal of the number's own value (`Binary64.exists_literal`). So it goes through
all that is known of literals: nothing in it is blank or lowered (`compact_plain`), what can be read
in one way is read in no other (`ofText_of_reading`), and a dash behind it is not a part of it
(`Decimal.Literal.stops_dash`), even where the second number begins with a dash of its own. Of the
two numbers at the ends of a range only the places count (`accepts_between`).

* `found_by_own_text`: what the texts of two numbers find.
-/
import Leaderboard.Proofs.LiteralCut
import Leaderboard.Proofs.NumberText
import Leaderboard.Proofs.QueryGrammar

set_option autoImplicit false

namespace Leaderboard

open Leaderboard.Decimal (Literal)

/-! ## The text of a number -/

theorem Text.isBlank_of_isPlain {c : Char} (plain : isPlain c = true) : isBlank c = false := by
  rcases Bool.or_eq_true_iff.mp plain with digit | mark
  · have range := isDigit_iff.mp digit
    simp only [isBlank, Bool.or_eq_false_iff, Bool.and_eq_false_iff, decide_eq_false_iff_not,
      beq_eq_false_iff_ne]
    omega
  · have each : (['-', '.', '<', '>', '=', '!'].all fun c => !isBlank c) = true := by decide
    simpa using List.all_eq_true.mp each c (List.contains_iff_mem.mp mark)

theorem Binary64.isNan_of_isFinite {x : Binary64} (finite : x.isFinite = true) :
    x.isNan = false := by
  cases x with
  | nan => cases finite
  | number => rfl

namespace NumberQuery

variable {v w : Binary64} {l m : Literal}

/-- All characters of the text of a number count. -/
theorem compact_plain (written : v.chars = l.chars) :
    compact (Cell.number v).plain = l.chars := by
  have solid : Text.squeezeList (Cell.number v).plain.toList = l.chars := by
    show Text.squeezeList (String.ofList v.chars).toList = l.chars
    rw [String.toList_ofList, written]
    apply Text.squeezeList_eq_self
    intro c mem
    exact Text.isBlank_of_isPlain (l.isPlain_of_mem mem)
  exact compact_spaced ⟨_, solid⟩ fun _ => l.isPlain_of_mem

theorem ofText_plain (finite : v.isFinite = true) : ofText (Cell.number v).plain = .exact v := by
  obtain ⟨l, written, value⟩ := Binary64.exists_literal finite
  apply ofText_exact
  rw [compact_plain written, Binary64.finiteChars?_of_numeral l.ofText?_chars]
  exact Option.filter_eq_some_iff.mpr ⟨congrArg some value, finite⟩

theorem ofText_token_plain (finite : v.isFinite = true) {token : String × Comparator}
    (mem : token ∈ Comparator.tokens) :
    ofText (token.1 ++ (Cell.number v).plain) = .compare token.2 v := by
  obtain ⟨l, written, value⟩ := Binary64.exists_literal finite
  have counts := compact_behind_token mem (Cell.number v).plain
  rw [compact_plain written] at counts
  rw [ofText_comparison mem counts l.scan?_chars]
  exact congrArg (compare token.2) value

theorem ofText_plain_dash (hv : v.isFinite = true) (hw : w.isFinite = true) :
    ofText ((Cell.number v).plain ++ "-" ++ (Cell.number w).plain) =
      .range (v.min w) (v.max w) := by
  obtain ⟨l, written, value⟩ := Binary64.exists_literal hv
  obtain ⟨m, written', value'⟩ := Binary64.exists_literal hw
  have counts := compact_dash (Cell.number v).plain (Cell.number w).plain
  rw [compact_plain written, compact_plain written'] at counts
  rw [ofText_range counts (l.stops_dash m.chars).scan? m.scan?_chars]
  rw [← value, ← value']
  rfl

/-! ## What it finds -/

/-- Between two numbers lies what lies between the smaller and the larger one. -/
theorem accepts_between {c : Cell} {x : Binary64} (hv : v.isNan = false) (hw : w.isNan = false)
    (number : c.number? = some x) : (range (v.min w) (v.max w)).accepts c = true ↔
      v.le x = true ∧ x.le w = true ∨ w.le x = true ∧ x.le v = true := by
  have hx := Cell.isNan_of_number? number
  have spans := Binary64.spans_min_max hv hw
  have ordered := spans.ordered
  have both := spans.both
  obtain ⟨low, high⟩ := spans.numbers
  simp only [Binary64.same_eq low hv, Binary64.same_eq low hw, Binary64.same_eq high hv,
    Binary64.same_eq high hw, decide_eq_true_iff] at both
  rw [Binary64.le_iff_place low high] at ordered
  unfold accepts
  rw [number]
  show ((v.min w).le x && x.le (v.max w)) = true ↔ _
  rw [Bool.and_eq_true, Binary64.le_iff_place low hx, Binary64.le_iff_place hx high,
    Binary64.le_iff_place hv hx, Binary64.le_iff_place hx hw, Binary64.le_iff_place hw hx,
    Binary64.le_iff_place hx hv]
  omega

/-- What a column of numbers finds by the texts of two numbers. -/
structure FindsByText (v w : Binary64) : Prop where
  /-- Alone a text finds its number. -/
  alone : ∀ {c : Cell} {x : Binary64}, c.number? = some x →
    (ofText (Cell.number v).plain).accepts c = x.same v
  /-- Behind a token it finds the numbers in that relation to its own. -/
  compared : ∀ token ∈ Comparator.tokens, ∀ {c : Cell} {x : Binary64}, c.number? = some x →
    (ofText (token.1 ++ (Cell.number v).plain)).accepts c = token.2.holds x v
  /-- With a dash between them the two texts find the numbers between the smaller and the larger. -/
  between : ∀ {c : Cell} {x : Binary64}, c.number? = some x →
    ((ofText ((Cell.number v).plain ++ "-" ++ (Cell.number w).plain)).accepts c = true ↔
      v.le x = true ∧ x.le w = true ∨ w.le x = true ∧ x.le v = true)
  /-- It does not matter which of the texts stands first. -/
  either : ∀ c : Cell,
    (ofText ((Cell.number v).plain ++ "-" ++ (Cell.number w).plain)).accepts c =
      (ofText ((Cell.number w).plain ++ "-" ++ (Cell.number v).plain)).accepts c

/-- **Every finite number is found by its own text.** -/
theorem found_by_own_text (hv : v.isFinite = true) (hw : w.isFinite = true) : FindsByText v w := by
  have nv := Binary64.isNan_of_isFinite hv
  have nw := Binary64.isNan_of_isFinite hw
  constructor
  case alone =>
    intro c x number
    rw [ofText_plain hv, accepts_exact, number]
    rfl
  case compared =>
    intro token mem c x number
    rw [ofText_token_plain hv mem, accepts_compare, number]
    rfl
  case between =>
    intro c x number
    rw [ofText_plain_dash hv hw]
    exact accepts_between nv nw number
  case either =>
    intro c
    rw [ofText_plain_dash hv hw, ofText_plain_dash hw hv]
    cases number : c.number? with
    | none =>
        unfold accepts
        rw [number]
    | some x =>
        rw [Bool.eq_iff_iff, accepts_between nv nw number, accepts_between nw nv number]
        exact Or.comm

/-- The number next to zero from below. -/
def underZero : Binary64 := .number true 1 (by decide)

/-- A dash between two signs, and hundreds of digits. -/
theorem found_by_own_text_underZero : Binary64.zero.neg.isFinite = true ∧
    underZero.isFinite = true ∧ FindsByText Binary64.zero.neg underZero := by
  have zero : Binary64.zero.neg.isFinite = true := by decide
  have under : underZero.isFinite = true := by decide
  exact ⟨zero, under, found_by_own_text zero under⟩

example : (Cell.number Binary64.zero.neg).plain = "-0" ∧ underZero.chars.length = 327 := by
  decide +kernel

end NumberQuery

end Leaderboard
