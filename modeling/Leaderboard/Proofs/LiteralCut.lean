/-
# Leaderboard.Proofs.LiteralCut — a literal cuts the rows of a table

A literal `L` typed into a numeric column behind the tokens `<`, `=` and `>` parts the rows into
those before it, those at it and those behind it; the rows without a number are left, and the word
`null` finds them. The other tokens join two of these classes, and `L`, `==L` and the range `L-L`
find those at `L`. Blanks may stand anywhere in these queries.

Every route of reading ends at the same value of the literal (`Decimal.Literal.toBinary64`): the
tokens and the range scan it, and alone it is a numeral (`Decimal.Literal.ofText?_chars`). What is
left is the order of numbers, by places (`Comparator.holds_one`). A literal beyond the largest
number stands for infinity behind a token and is no number alone, so the last part needs a finite
value.

* `literal_cuts_column`: this, for every column that is found as numeric, every literal and every
  row.
-/
import Leaderboard.Proofs.LiteralQueries
import Leaderboard.Table.Filter

set_option autoImplicit false

namespace Leaderboard

open Leaderboard.Feed (Partition)

/-! ## The order of numbers -/

namespace Binary64

variable {x y : Binary64}

theorem same_comm (x y : Binary64) : x.same y = y.same x := by
  rw [Bool.eq_iff_iff, same_iff, same_iff]
  exact exists_congr fun _ => And.comm

theorem le_eq (x y : Binary64) : x.le y = (x.lt y || x.same y) := rfl

end Binary64

theorem Cell.isNan_of_number? {c : Cell} {x : Binary64} (found : c.number? = some x) :
    x.isNan = false := by
  cases c with
  | missing => cases found
  | text => cases found
  | number y =>
      cases y with
      | nan => cases found
      | number =>
          cases found
          rfl

namespace Comparator

variable {x y : Binary64}

/-- Two numbers stand in one of three relations. -/
theorem holds_one (hx : x.isNan = false) (hy : y.isNan = false) :
    [less.holds x y, equal.holds x y, greater.holds x y].count true = 1 := by
  unfold holds
  dsimp only
  rw [Binary64.lt_eq hx hy, Binary64.lt_eq hy hx, Binary64.same_eq hx hy]
  rcases Int.lt_trichotomy x.place y.place with before | same | behind
  · have apart : ¬x.place = y.place := by omega
    have other : ¬y.place < x.place := by omega
    simp [before, apart, other]
  · simp [same]
  · have apart : ¬x.place = y.place := by omega
    have other : ¬x.place < y.place := by omega
    simp [behind, apart, other]

theorem holds_atLeast (x y : Binary64) :
    atLeast.holds x y = (greater.holds x y || equal.holds x y) := by
  unfold holds
  dsimp only
  rw [Binary64.le_eq, Binary64.same_comm y x]

theorem holds_atMost (x y : Binary64) :
    atMost.holds x y = (less.holds x y || equal.holds x y) := rfl

theorem holds_different (hx : x.isNan = false) (hy : y.isNan = false) :
    different.holds x y = (less.holds x y || greater.holds x y) := by
  have one := holds_one hx hy
  have apart : different.holds x y = !equal.holds x y := rfl
  rw [apart]
  revert one
  cases less.holds x y <;> cases equal.holds x y <;> cases greater.holds x y <;> decide

end Comparator

/-! ## Texts with blanks in them -/

namespace Text

/-- A text that writes characters with blanks anywhere among them. -/
def Spaced (cs : List Char) : Type := { s : String // squeezeList s.toList = cs }

/-- Whether a character is kept when a query is lowered: it stands in a literal or a token. -/
def isPlain (c : Char) : Bool := c.isDigit || ['-', '.', '<', '>', '=', '!'].contains c

theorem lowerChar_of_isPlain {c : Char} (plain : isPlain c = true) : lowerChar c = [c] := by
  rcases Bool.or_eq_true_iff.mp plain with digit | mark
  · have range := isDigit_iff.mp digit
    unfold lowerChar
    rw [if_pos (by omega), toLower_of_isDigit digit]
  · have each : (['-', '.', '<', '>', '=', '!'].all fun c => lowerChar c = [c]) = true := by decide
    exact of_decide_eq_true (List.all_eq_true.mp each c (List.contains_iff_mem.mp mark))

theorem lowerEach_of_isPlain {cs : List Char} (plain : ∀ c ∈ cs, isPlain c = true) :
    lowerEach cs = cs := by
  unfold lowerEach
  induction cs with
  | nil => rfl
  | cons c r ih =>
      rw [List.flatMap_cons, lowerChar_of_isPlain (plain c List.mem_cons_self),
        ih fun d hd => plain d (List.mem_cons_of_mem c hd)]
      rfl

end Text

open Leaderboard.Text (Spaced)

theorem Decimal.Literal.isPlain_of_mem (l : Decimal.Literal) {c : Char} (mem : c ∈ l.chars) :
    Text.isPlain c = true := by
  have digit : ∀ {d : Char}, d.isDigit = true → Text.isPlain d = true := fun h => by
    rw [Text.isPlain, h, Bool.true_or]
  have unsigned : c ∈ l.unsignedChars → Text.isPlain c = true := by
    intro inside
    rcases List.mem_append.mp inside with whole | fraction
    · exact digit (l.whole_digits c whole)
    · have digits := l.fraction_digits
      cases written : l.fraction with
      | nil =>
          rw [written] at fraction
          cases fraction
      | cons d r =>
          rw [written] at fraction digits
          rcases List.mem_cons.mp fraction with rfl | inDigits
          · decide
          · exact digit (digits c inDigits)
  unfold chars signed at mem
  split at mem
  · rcases List.mem_cons.mp mem with rfl | inside
    · decide
    · exact unsigned inside
  · exact unsigned mem

theorem Comparator.isPlain_of_mem_token {token : String × Comparator}
    (mem : token ∈ Comparator.tokens) {c : Char} (inside : c ∈ token.1.toList) :
    Text.isPlain c = true := by
  have each : (Comparator.tokens.all fun token => token.1.toList.all Text.isPlain) = true := by
    decide
  exact List.all_eq_true.mp (List.all_eq_true.mp each token mem) c inside

namespace NumberQuery

variable (l : Decimal.Literal)

theorem compact_spaced {cs : List Char} (text : Spaced cs)
    (plain : ∀ c ∈ cs, Text.isPlain c = true) : compact text.1 = cs := by
  unfold compact
  rw [text.2, Text.lowerEach_of_isPlain plain]

/-! ## The queries on a literal -/

theorem ofText_token {token : String × Comparator} (mem : token ∈ Comparator.tokens)
    (text : Spaced (token.1.toList ++ l.chars)) :
    ofText (Text.trim text.1) = .compare token.2 l.toBinary64 := by
  have plain : ∀ c ∈ token.1.toList ++ l.chars, Text.isPlain c = true :=
    List.forall_mem_append.mpr
      ⟨fun _ => Comparator.isPlain_of_mem_token mem, fun _ => l.isPlain_of_mem⟩
  refine ofText_comparison mem ?_ l.scan?_chars
  rw [compact_trim, compact_spaced text plain]

theorem ofText_bare (finite : l.toBinary64.isFinite = true) (text : Spaced l.chars) :
    ofText (Text.trim text.1) = .exact l.toBinary64 := by
  refine ofText_exact ?_
  rw [compact_trim, compact_spaced text fun _ => l.isPlain_of_mem,
    Binary64.finiteChars?_of_numeral l.ofText?_chars]
  exact Option.filter_eq_some_iff.mpr ⟨rfl, finite⟩

theorem ofText_twice (text : Spaced (l.chars ++ '-' :: l.chars)) :
    ofText (Text.trim text.1) =
      .range (l.toBinary64.min l.toBinary64) (l.toBinary64.max l.toBinary64) := by
  have plain : ∀ c ∈ l.chars ++ '-' :: l.chars, Text.isPlain c = true :=
    List.forall_mem_append.mpr ⟨fun _ => l.isPlain_of_mem,
      List.forall_mem_cons.mpr ⟨by decide, fun _ => l.isPlain_of_mem⟩⟩
  refine ofText_range ?_ (l.stops_dash l.chars).scan? l.scan?_chars
  rw [compact_trim, compact_spaced text plain]

theorem accepts_compare (c : Comparator) (target : Binary64) (cell : Cell) :
    (compare c target).accepts cell = cell.number?.any (c.holds · target) := by
  unfold accepts
  cases cell.number? <;> rfl

theorem accepts_exact (target : Binary64) (cell : Cell) :
    (exact target).accepts cell = cell.number?.any (Comparator.equal.holds · target) := by
  unfold accepts
  cases cell.number? <;> rfl

/-- The range from a number to itself. -/
theorem accepts_range_self {v : Binary64} (number : v.isNan = false) (cell : Cell) :
    (range (v.min v) (v.max v)).accepts cell =
      cell.number?.any (Comparator.equal.holds · v) := by
  have ends : v.min v = v ∧ v.max v = v := ⟨ite_self v, ite_self v⟩
  rw [ends.1, ends.2]
  unfold accepts
  cases found : cell.number? with
  | none => rfl
  | some x =>
      have finite := Cell.isNan_of_number? found
      change (v.le x && x.le v) = x.same v
      rw [Binary64.le_eq, Binary64.le_eq, Binary64.lt_eq number finite,
        Binary64.lt_eq finite number, Binary64.same_eq number finite,
        Binary64.same_eq finite number, Bool.eq_iff_iff]
      simp only [Bool.and_eq_true, Bool.or_eq_true, decide_eq_true_iff]
      omega

end NumberQuery

/-! ## One column -/

/-- Whether a row passes a text typed into one column, with nothing typed into the others. -/
def Row.passesText (columns : List Column) (key text : String) (r : Row) : Bool :=
  r.passes (constraints columns (({} : Filters).set key text))

/-- In a numeric column the text is a query on the cell. -/
theorem Row.passesText_eq {mode : String} {p : Partition} {key : String} {column : Column}
    (found : findColumn? (columnsOf mode p) key = some column)
    (numeric : column.kind.isNumeric = true) {text : String}
    (written : Text.squeezeList text.toList ≠ []) (r : Row) :
    r.passesText (columnsOf mode p) key text =
      (NumberQuery.ofText (Text.trim text)).accepts (r.get key) := by
  have nonempty : Text.nonempty? (Text.trim text) = some (Text.trim text) := by
    refine if_neg fun empty => written ?_
    rw [← Text.squeezeList_trimList, ← String.toList_ofList (l := Text.trimList text.toList)]
    rw [String.isEmpty_iff] at empty
    rw [show String.ofList (Text.trimList text.toList) = "" from empty]
    rfl
  have filterable := filterable_of_mem_columnsOf (List.mem_of_find?_eq_some found)
  have only : constraints (columnsOf mode p) (({} : Filters).set key text) =
      [⟨key, .number (NumberQuery.ofText (Text.trim text))⟩] := by
    have active : (({} : Filters).set key text).active = [(key, Text.trim text)] := by
      simp [Filters.active, Filters.set, Filters.setIn, nonempty]
    have constraint : constraint? (columnsOf mode p) (key, Text.trim text) =
        some ⟨key, .number (NumberQuery.ofText (Text.trim text))⟩ := by
      unfold constraint?
      rw [found, Option.filter_some, if_pos filterable, Option.map_some, Condition.ofText,
        if_pos numeric]
    rw [constraints, active, List.filterMap_cons_some constraint, List.filterMap_nil]
  unfold passesText passes
  rw [only, List.all_cons, List.all_nil, Bool.and_true, Constraint.accepts, Condition.accepts]

/-- How the queries on a literal cut what passes in a column. -/
structure Cuts (passes : String → Bool) (l : Decimal.Literal) : Prop where
  /-- A row has no number, or is before, at or behind the literal. -/
  one : ∀ (less : Spaced ("<".toList ++ l.chars)) (equal : Spaced ("=".toList ++ l.chars))
    (greater : Spaced (">".toList ++ l.chars)),
    [passes "null", passes less.1, passes equal.1, passes greater.1].count true = 1
  atLeast : ∀ (joined : Spaced (">=".toList ++ l.chars)) (greater : Spaced (">".toList ++ l.chars))
    (equal : Spaced ("=".toList ++ l.chars)),
    passes joined.1 = (passes greater.1 || passes equal.1)
  atMost : ∀ (joined : Spaced ("<=".toList ++ l.chars)) (less : Spaced ("<".toList ++ l.chars))
    (equal : Spaced ("=".toList ++ l.chars)),
    passes joined.1 = (passes less.1 || passes equal.1)
  different : ∀ (joined : Spaced ("!=".toList ++ l.chars)) (less : Spaced ("<".toList ++ l.chars))
    (greater : Spaced (">".toList ++ l.chars)),
    passes joined.1 = (passes less.1 || passes greater.1)
  /-- The rows at the literal have four queries. -/
  same : l.toBinary64.isFinite = true → ∀ (bare : Spaced l.chars)
    (equal : Spaced ("=".toList ++ l.chars)) (double : Spaced ("==".toList ++ l.chars))
    (twice : Spaced (l.chars ++ '-' :: l.chars)),
    passes bare.1 = passes equal.1 ∧ passes double.1 = passes equal.1 ∧
      passes twice.1 = passes equal.1

section Column

variable {mode : String} {p : Partition} {key : String} {column : Column}
  (found : findColumn? (columnsOf mode p) key = some column)
  (numeric : column.kind.isNumeric = true) (l : Decimal.Literal) (r : Row)

include found numeric

theorem Row.passesText_null :
    r.passesText (columnsOf mode p) key "null" = (r.get key).number?.isNone := by
  have null : NumberQuery.ofText (Text.trim "null") = .null := by decide +kernel
  rw [Row.passesText_eq found numeric (by decide), null]
  unfold NumberQuery.accepts
  cases (r.get key).number? <;> rfl

theorem Row.passesText_token {token : String × Comparator} (mem : token ∈ Comparator.tokens)
    (text : Spaced (token.1.toList ++ l.chars)) :
    r.passesText (columnsOf mode p) key text.1 =
      (r.get key).number?.any (token.2.holds · l.toBinary64) := by
  have written : Text.squeezeList text.1.toList ≠ [] := by
    rw [text.2]
    exact List.append_ne_nil_of_right_ne_nil _ l.chars_ne_nil
  rw [Row.passesText_eq found numeric written, NumberQuery.ofText_token l mem text,
    NumberQuery.accepts_compare]

theorem Row.passesText_bare (finite : l.toBinary64.isFinite = true) (text : Spaced l.chars) :
    r.passesText (columnsOf mode p) key text.1 =
      (r.get key).number?.any (Comparator.equal.holds · l.toBinary64) := by
  have written : Text.squeezeList text.1.toList ≠ [] := by
    rw [text.2]
    exact l.chars_ne_nil
  rw [Row.passesText_eq found numeric written, NumberQuery.ofText_bare l finite text,
    NumberQuery.accepts_exact]

theorem Row.passesText_twice (text : Spaced (l.chars ++ '-' :: l.chars)) :
    r.passesText (columnsOf mode p) key text.1 =
      (r.get key).number?.any (Comparator.equal.holds · l.toBinary64) := by
  have written : Text.squeezeList text.1.toList ≠ [] := by
    rw [text.2]
    exact List.append_ne_nil_of_left_ne_nil l.chars_ne_nil _
  rw [Row.passesText_eq found numeric written, NumberQuery.ofText_twice l text,
    NumberQuery.accepts_range_self rfl]

/-- **A literal cuts the rows of every numeric column**, however its queries are spaced. -/
theorem literal_cuts_column : Cuts (r.passesText (columnsOf mode p) key) l := by
  have value : l.toBinary64.isNan = false := rfl
  have token : ∀ (sign : String) (c : Comparator), (sign, c) ∈ Comparator.tokens →
      ∀ text : Spaced (sign.toList ++ l.chars), r.passesText (columnsOf mode p) key text.1 =
        (r.get key).number?.any (c.holds · l.toBinary64) :=
    fun _ _ mem text => Row.passesText_token found numeric l r mem text
  have before := token "<" .less (by decide)
  have level := token "=" .equal (by decide)
  have behind := token ">" .greater (by decide)
  constructor
  case one =>
    intro less equal greater
    rw [Row.passesText_null found numeric r, before less, level equal, behind greater]
    cases number : (r.get key).number? with
    | none => rfl
    | some x => exact Comparator.holds_one (Cell.isNan_of_number? number) value
  case atLeast =>
    intro joined greater equal
    rw [token ">=" .atLeast (by decide) joined, behind greater, level equal]
    cases (r.get key).number? with
    | none => rfl
    | some x => exact Comparator.holds_atLeast x l.toBinary64
  case atMost =>
    intro joined less equal
    rw [token "<=" .atMost (by decide) joined, before less, level equal]
    cases (r.get key).number? with
    | none => rfl
    | some x => exact Comparator.holds_atMost x l.toBinary64
  case different =>
    intro joined less greater
    rw [token "!=" .different (by decide) joined, before less, behind greater]
    cases number : (r.get key).number? with
    | none => rfl
    | some x => exact Comparator.holds_different (Cell.isNan_of_number? number) value
  case same =>
    intro finite bare equal double twice
    rw [Row.passesText_bare found numeric l r finite bare, level equal,
      token "==" .equal (by decide) double, Row.passesText_twice found numeric l r twice]
    exact ⟨rfl, rfl, rfl⟩

end Column

/-! ## Poles -/

/-- A model with a latency. -/
def timed (slug : String) (latency : Json) : Feed.Model where
  slug
  name := slug
  stats := [("latency", latency)]
  benchmarks := []
  generations := []

/-- Latencies of all kinds: numbers, a text that writes one, a text and none. -/
def latencies : Partition where
  slug := ""
  label? := none
  title? := none
  benchmark? := none
  headers := [⟨"latency", "Latency", some "duration", none, none⟩]
  models := [timed "a/seven" (.number (.natural 7 (by decide))), timed "b/written" (.text " 07.50"),
    timed "c/unknown" (.text "n/a"), timed "d/none" .null]
  prompts := []

def latencyColumn : Column := { key := "latency", label := "Latency", kind := .duration }

/-- `-0.5`. -/
def belowZero : Decimal.Literal :=
  ⟨true, ['0'], ['5'], List.cons_ne_nil _ _, by simp, by simp⟩

theorem literal_cuts_column_latencies :
    findColumn? (columnsOf "t2i" latencies) "latency" = some latencyColumn ∧
      latencyColumn.kind.isNumeric = true ∧
      Cuts (Row.passesText (columnsOf "t2i" latencies) "latency" ·
        (Row.ofModel latencies (timed "b/written" (.text " 07.50")))) belowZero := by
  have found : findColumn? (columnsOf "t2i" latencies) "latency" = some latencyColumn := by
    decide +kernel
  have numeric : latencyColumn.kind.isNumeric = true := rfl
  exact ⟨found, numeric, literal_cuts_column found numeric belowZero _⟩

example : (["null", "<7.5", " = 7.50", ">7 .5", "7.5-7.5"].map fun text =>
    ((rowsOf latencies).filter (·.passesText (columnsOf "t2i" latencies) "latency" text)).map
      (·.slug)) =
    [["c/unknown", "d/none"], ["a/seven"], ["b/written"], [], ["b/written"]] := by
  decide +kernel

end Leaderboard
