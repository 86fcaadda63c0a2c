/-
# Leaderboard.Table.Query — what is typed into a column's filter

A numeric column reads a query as, in this order: the word `null`, a comparison such as `>=0.05`, a
range such as `5-10`, a bare number, and else a part of the printed number. Blanks do not count in
comparisons, ranges and numbers, and neither does what follows the numbers of a comparison or a
range. A text column looks for the query in the cell and in the row's source.

Main statements: `Comparator.token_split` (a comparison begins with the token of its comparator),
`accepts_null_iff` (the word `null` finds the cells without a number) and
`number?_isSome_of_accepts` (every other query finds numbers only).
-/
import Leaderboard.Table.Cell
import Leaderboard.Text.Case
import Leaderboard.Text.Search

set_option autoImplicit false

namespace Leaderboard

inductive Comparator where
  | greater
  | atLeast
  | less
  | atMost
  | equal
  | different
deriving DecidableEq, Repr

namespace Comparator

/-- Whether a value stands in the relation to a target. -/
def holds (c : Comparator) (value target : Binary64) : Bool :=
  match c with
  | .greater => target.lt value
  | .atLeast => target.le value
  | .less => value.lt target
  | .atMost => value.le target
  | .equal => value.same target
  | .different => !value.same target

/-- The comparator at the start of a text, and what follows it. Two characters are read before
one. -/
def scan? : List Char → Option (Comparator × List Char)
  | '>' :: '=' :: r => some (.atLeast, r)
  | '<' :: '=' :: r => some (.atMost, r)
  | '!' :: '=' :: r => some (.different, r)
  | '=' :: '=' :: r => some (.equal, r)
  | '>' :: r => some (.greater, r)
  | '<' :: r => some (.less, r)
  | '=' :: r => some (.equal, r)
  | _ => none

def sign : Comparator → String
  | .greater => ">"
  | .atLeast => ">="
  | .less => "<"
  | .atMost => "<="
  | .equal => "="
  | .different => "!="

end Comparator

/-- A query on a numeric column. -/
inductive NumberQuery where
  | null
  | compare (comparator : Comparator) (target : Binary64)
  /-- Both ends count, and the first is not the larger. -/
  | range (low high : Binary64)
  | exact (target : Binary64)
  /-- A part of the printed number, in lower case. -/
  | part (needle : String)
deriving DecidableEq

namespace NumberQuery

/-- The characters of a query that count: no blanks, lowered one by one. -/
def compact (s : String) : List Char := Text.lowerEach (Text.squeezeList s.toList)

def null? (s : String) : Option NumberQuery :=
  if s.toList.map Char.toLower = "null".toList then some .null else none

/-- A comparator and a number; what follows them is not read. -/
def comparison? (s : String) : Option NumberQuery :=
  match Comparator.scan? (compact s) with
  | none => none
  | some (comparator, r) =>
    (Decimal.scan? r).map fun found => .compare comparator found.1.toBinary64

/-- Two numbers with a dash between them; what follows them is not read. -/
def range? (s : String) : Option NumberQuery :=
  match Decimal.scan? (compact s) with
  | some (a, '-' :: r) =>
    (Decimal.scan? r).map fun found =>
      .range (a.toBinary64.min found.1.toBinary64) (a.toBinary64.max found.1.toBinary64)
  | _ => none

/-- A finite number. -/
def equal? (s : String) : Option NumberQuery := (Binary64.finiteChars? (compact s)).map .exact

/-- Reads a query. -/
def ofText (s : String) : NumberQuery :=
  let s := Text.trim s
  ((((null? s).or (comparison? s)).or (range? s)).or (equal? s)).getD (.part (Text.lower s))

/-- Whether a cell passes. A cell without a number passes the word `null` only. -/
def accepts (q : NumberQuery) (c : Cell) : Bool :=
  match q, c.number? with
  | .null, number? => number?.isNone
  | _, none => false
  | .compare comparator target, some x => comparator.holds x target
  | .range low high, some x => low.le x && x.le high
  | .exact target, some x => x.same target
  | .part needle, some _ =>
    Text.contains needle.toList (Text.lower c.plain).toList

end NumberQuery

/-- Whether a cell of a text column, or the source of its row, has a query as a part, whatever the
case of letters. -/
def textAccepts (q : String) (c : Cell) (source : String) : Bool :=
  let needle := (Text.lower (Text.trim q)).toList
  Text.contains needle (Text.lower c.plain).toList ||
    Text.contains needle (Text.lower source).toList

/-! ## Lemmas -/

theorem Comparator.token_split {cs r : List Char} {c : Comparator}
    (h : Comparator.scan? cs = some (c, r)) :
    cs = c.sign.toList ++ r ∨ c = .equal ∧ cs = '=' :: '=' :: r := by
  unfold Comparator.scan? at h
  split at h <;> cases h
  all_goals first | exact .inl rfl | exact .inr ⟨rfl, rfl⟩

theorem NumberQuery.accepts_null_iff (c : Cell) :
    NumberQuery.null.accepts c = true ↔ c.number? = none := by
  cases h : c.number? <;> simp [NumberQuery.accepts, h]

theorem NumberQuery.number?_isSome_of_accepts {q : NumberQuery} {c : Cell} (ne : q ≠ .null)
    (h : q.accepts c = true) : c.number?.isSome = true := by
  cases e : c.number? with
  | some _ => rfl
  | none =>
    cases q with
    | null => exact absurd rfl ne
    | _ => simp [NumberQuery.accepts, e] at h

end Leaderboard
