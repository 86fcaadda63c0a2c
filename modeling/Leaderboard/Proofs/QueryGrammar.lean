/-
# Leaderboard.Proofs.QueryGrammar — the grammar of comparisons and ranges

A comparison is a token, a literal `-?d+(.d+)?` and a tail; a range is a literal, a dash, a literal
and a tail. Readers are greedy: they take the first token that fits, the longest literals, and never
go back. The grammar has no turns. Both say the same, because no choice is left open: behind a token
no sign of equality can follow (`Comparator.scan?_token`), so that of `>` and `>=` at most one fits,
and a dash ends a literal (`Decimal.Literal.stops_dash`), so that the first dash behind digits parts
a range and any other is a sign.

A text can be cut into a token, a literal and a tail in several ways, as a literal may be cut short;
with the longest literals there is one way (`Decimal.Literal.Leads.unique`).

* `reads_unambiguous_grammar`: what is a comparison and what is a range, how each is read, and that
  there is one way to read it.
-/
import Leaderboard.Proofs.LiteralQueries

set_option autoImplicit false

namespace Leaderboard

open Leaderboard.Decimal (Literal)

/-! ## Tokens -/

namespace Comparator

/-- What is read as a comparator is one of the tokens. -/
theorem exists_token_of_scan? {cs r : List Char} {c : Comparator} (scan : scan? cs = some (c, r)) :
    ∃ token ∈ tokens, token.2 = c ∧ cs = token.1.toList ++ r := by
  have split := token_split scan
  rcases split with split | ⟨rfl, split⟩
  · exact ⟨(c.sign, c), by cases c <;> decide, rfl, split⟩
  · exact ⟨("==", .equal), by decide, rfl, split⟩

/-- A literal begins with no sign of equality. -/
theorem ne_equal_of_literal (l : Literal) (tail s : List Char) : l.chars ++ tail ≠ '=' :: s := by
  intro same
  obtain ⟨d, rest, scan, -⟩ := l.scan?_append tail
  rw [same, Decimal.scan?_of_other s (by decide) (by decide)] at scan
  cases scan

theorem scan?_token_literal {token : String × Comparator} (mem : token ∈ tokens) (l : Literal)
    (tail : List Char) :
    scan? (token.1.toList ++ (l.chars ++ tail)) = some (token.2, l.chars ++ tail) :=
  scan?_token mem (ne_equal_of_literal l tail)

end Comparator

/-! ## The ends of a range -/

namespace Binary64

/-- A range between two numbers. -/
structure Spans (a b low high : Binary64) : Prop where
  ordered : low.le high = true
  numbers : low.isNan = false ∧ high.isNan = false
  /-- Each end is one of the two. -/
  ends : (low = a ∨ low = b) ∧ (high = a ∨ high = b)
  /-- Both of them are ends. -/
  both : low.same a = true ∧ high.same b = true ∨ low.same b = true ∧ high.same a = true

theorem min_eq {a b : Binary64} (ha : a.isNan = false) :
    a.min b = if b.lt a then b else a := by
  rw [min, ha, Bool.false_or]

theorem max_eq {a b : Binary64} (ha : a.isNan = false) :
    a.max b = if a.lt b then b else a := by
  rw [max, ha, Bool.false_or]

theorem same_self {a : Binary64} (ha : a.isNan = false) : a.same a = true := by
  rw [same_eq ha ha, decide_eq_true_iff]

theorem spans_min_max {a b : Binary64} (ha : a.isNan = false) (hb : b.isNan = false) :
    Spans a b (a.min b) (a.max b) := by
  rw [min_eq ha, max_eq ha]
  rcases Int.lt_trichotomy a.place b.place with before | level | behind
  · have lt : a.lt b = true := (lt_iff_place ha hb).mpr before
    have not : b.lt a = false := by rw [lt_eq hb ha, decide_eq_false_iff_not]; omega
    rw [lt, not]
    exact ⟨(le_iff_place ha hb).mpr (by omega), ⟨ha, hb⟩, ⟨.inl rfl, .inr rfl⟩,
      .inl ⟨same_self ha, same_self hb⟩⟩
  · have not : a.lt b = false := by rw [lt_eq ha hb, decide_eq_false_iff_not]; omega
    have not' : b.lt a = false := by rw [lt_eq hb ha, decide_eq_false_iff_not]; omega
    have same : a.same b = true := by rw [same_eq ha hb, decide_eq_true_iff]; exact level
    rw [not, not']
    exact ⟨(le_iff_place ha ha).mpr (by omega), ⟨ha, ha⟩, ⟨.inl rfl, .inl rfl⟩,
      .inl ⟨same_self ha, same⟩⟩
  · have lt : b.lt a = true := (lt_iff_place hb ha).mpr behind
    have not : a.lt b = false := by rw [lt_eq ha hb, decide_eq_false_iff_not]; omega
    rw [lt, not]
    exact ⟨(le_iff_place hb ha).mpr (by omega), ⟨hb, ha⟩, ⟨.inr rfl, .inl rfl⟩,
      .inr ⟨same_self hb, same_self ha⟩⟩

end Binary64

namespace NumberQuery

/-! ## Comparisons -/

/-- A way to cut a text into a token, a literal and what is not read. -/
structure WrittenComparison where
  token : String × Comparator
  literal : Literal
  tail : List Char

/-- The characters are cut in this way, with the longest literal. -/
structure WrittenComparison.Cuts (d : WrittenComparison) (cs : List Char) : Prop where
  token_mem : d.token ∈ Comparator.tokens
  literal_leads : ∃ r, cs = d.token.1.toList ++ r ∧ d.literal.Leads r d.tail

theorem WrittenComparison.Cuts.scan? {d : WrittenComparison} {cs : List Char} (cuts : d.Cuts cs) :
    ∃ r, cs = d.token.1.toList ++ r ∧ d.literal.Leads r d.tail ∧
      Comparator.scan? cs = some (d.token.2, r) := by
  obtain ⟨mem, r, split, leads⟩ := cuts
  refine ⟨r, split, leads, ?_⟩
  rw [split, leads.split]
  exact Comparator.scan?_token_literal mem d.literal d.tail

theorem WrittenComparison.Cuts.unique {d e : WrittenComparison} {cs : List Char}
    (cuts : d.Cuts cs) (also : e.Cuts cs) : d = e := by
  obtain ⟨r, split, leads, scan⟩ := cuts.scan?
  obtain ⟨r', split', leads', scan'⟩ := also.scan?
  rw [scan, Option.some.injEq, Prod.mk.injEq] at scan'
  obtain ⟨comparator, rfl⟩ := scan'
  have text : d.token.1.toList = e.token.1.toList :=
    List.append_cancel_right (split.symm.trans split')
  obtain ⟨literal, tail⟩ := leads.unique leads'
  cases d
  cases e
  simp only [WrittenComparison.mk.injEq]
  exact ⟨Prod.ext (String.toList_injective text) comparator, literal, tail⟩

theorem WrittenComparison.Cuts.read {d : WrittenComparison} {s : String}
    (cuts : d.Cuts (compact s)) :
    comparison? s = some (.compare d.token.2 d.literal.toBinary64) := by
  obtain ⟨r, -, leads, scan⟩ := cuts.scan?
  have number := Decimal.scan?_eq_some_iff.mpr ⟨d.literal, leads, rfl⟩
  unfold comparison?
  simp [scan, number, Literal.toBinary64]

theorem exists_cuts_of_comparison? {s : String} (read : (comparison? s).isSome = true) :
    ∃ d : WrittenComparison, d.Cuts (compact s) := by
  unfold comparison? at read
  split at read
  · cases read
  · rename_i c r scan
    obtain ⟨found, number⟩ := Option.isSome_iff_exists.mp (Option.isSome_map ▸ read)
    obtain ⟨token, mem, -, split⟩ := Comparator.exists_token_of_scan? scan
    obtain ⟨l, leads, -⟩ := Decimal.scan?_eq_some_iff.mp number
    exact ⟨⟨token, l, found.2⟩, mem, r, split, leads⟩

/-! ## Ranges -/

/-- A way to cut a text into two literals with a dash between them and what is not read. -/
structure WrittenRange where
  first : Literal
  second : Literal
  tail : List Char

/-- The characters are cut in this way, with the longest literals. -/
def WrittenRange.Cuts (d : WrittenRange) (cs : List Char) : Prop :=
  ∃ r, d.first.Leads cs ('-' :: r) ∧ d.second.Leads r d.tail

theorem WrittenRange.Cuts.unique {d e : WrittenRange} {cs : List Char} (cuts : d.Cuts cs)
    (also : e.Cuts cs) : d = e := by
  obtain ⟨r, first, second⟩ := cuts
  obtain ⟨r', first', second'⟩ := also
  obtain ⟨same, rest⟩ := first.unique first'
  obtain ⟨-, rfl⟩ := List.cons.inj rest
  obtain ⟨same', tail⟩ := second.unique second'
  cases d
  cases e
  simp only [WrittenRange.mk.injEq]
  exact ⟨same, same', tail⟩

theorem WrittenRange.Cuts.read {d : WrittenRange} {s : String} (cuts : d.Cuts (compact s)) :
    range? s = some (.range (d.first.toBinary64.min d.second.toBinary64)
      (d.first.toBinary64.max d.second.toBinary64)) := by
  obtain ⟨r, first, second⟩ := cuts
  have low := Decimal.scan?_eq_some_iff.mpr ⟨d.first, first, rfl⟩
  have high := Decimal.scan?_eq_some_iff.mpr ⟨d.second, second, rfl⟩
  unfold range?
  simp [low, high, Literal.toBinary64]

/-- A dash behind a literal makes the literal the longest one. -/
theorem leads_dash (l : Literal) (r : List Char) : l.Leads (l.chars ++ '-' :: r) ('-' :: r) := by
  obtain ⟨k, leads, value⟩ := Decimal.scan?_eq_some_iff.mp (l.stops_dash r).scan?
  have same := leads.split
  rw [List.append_cancel_right_eq] at same
  obtain rfl := Literal.chars_injective same
  exact leads

/-! ## The grammar -/

/-- The comparisons among queries. -/
structure ReadsComparisons (s : String) : Prop where
  /-- A query is a comparison exactly when a token stands first in it and a literal behind that. -/
  accepts : (comparison? s).isSome = true ↔ ∃ token ∈ Comparator.tokens, ∃ (l : Literal)
    (tail : List Char), compact s = token.1.toList ++ (l.chars ++ tail)
  one : (comparison? s).isSome = true → ∃ d : WrittenComparison, d.Cuts (compact s) ∧
    ∀ e : WrittenComparison, e.Cuts (compact s) → e = d
  /-- It means the comparator of the token and the value of the longest literal. -/
  answer : ∀ d : WrittenComparison, d.Cuts (compact s) →
    comparison? s = some (.compare d.token.2 d.literal.toBinary64)

/-- The ranges among queries. -/
structure ReadsRanges (s : String) : Prop where
  /-- A query is a range exactly when two longest literals stand first in it with a dash between
  them. -/
  accepts : (range? s).isSome = true ↔ ∃ d : WrittenRange, d.Cuts (compact s)
  one : (range? s).isSome = true → ∃ d : WrittenRange, d.Cuts (compact s) ∧
    ∀ e : WrittenRange, e.Cuts (compact s) → e = d
  /-- It means the range between the values of the literals. -/
  answer : ∀ d : WrittenRange, d.Cuts (compact s) → ∃ low high, range? s = some (.range low high) ∧
    Binary64.Spans d.first.toBinary64 d.second.toBinary64 low high

theorem readsComparisons (s : String) : ReadsComparisons s where
  accepts := by
    constructor
    · intro read
      obtain ⟨d, mem, r, split, leads⟩ := exists_cuts_of_comparison? read
      exact ⟨d.token, mem, d.literal, d.tail, by rw [split, leads.split]⟩
    · rintro ⟨token, mem, l, tail, split⟩
      obtain ⟨value, rest, number, -⟩ := l.scan?_append tail
      unfold comparison?
      rw [split, Comparator.scan?_token_literal mem l tail]
      simp [number]
  one read := by
    obtain ⟨d, cuts⟩ := exists_cuts_of_comparison? read
    exact ⟨d, cuts, fun _ also => also.unique cuts⟩
  answer _ cuts := cuts.read

theorem readsRanges (s : String) : ReadsRanges s := by
  have exists_cuts : (range? s).isSome = true → ∃ d : WrittenRange, d.Cuts (compact s) := by
    intro read
    obtain ⟨q, read⟩ := Option.isSome_iff_exists.mp read
    obtain ⟨l, m, r, rest, split, leads⟩ := exists_of_range? read
    exact ⟨⟨l, m, rest⟩, r, split ▸ leads_dash l r, leads⟩
  constructor
  case accepts =>
    refine ⟨exists_cuts, ?_⟩
    rintro ⟨d, cuts⟩
    rw [cuts.read]
    rfl
  case one =>
    intro read
    obtain ⟨d, cuts⟩ := exists_cuts read
    exact ⟨d, cuts, fun _ also => also.unique cuts⟩
  case answer =>
    intro d cuts
    exact ⟨_, _, cuts.read, Binary64.spans_min_max rfl rfl⟩

/-- **Comparisons and ranges have an unambiguous grammar.** -/
theorem reads_unambiguous_grammar (s : String) : ReadsComparisons s ∧ ReadsRanges s :=
  ⟨readsComparisons s, readsRanges s⟩

/-- A point without digits and other tails, a minus that is a sign, and a sign too many. -/
example : comparison? "> = -5.kg" = some (.compare .atLeast (.neg (.ofNat 5))) ∧
    comparison? "=>5" = none ∧ range? "-5--3x" = some (.range (.neg (.ofNat 5)) (.neg (.ofNat 3))) ∧
    range? "5.-3" = none ∧ range? "5---3" = none := by
  decide +kernel

end NumberQuery

end Leaderboard
