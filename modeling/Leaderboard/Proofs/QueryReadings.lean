/-
# Leaderboard.Proofs.QueryReadings — a query on a numeric column has one reading

Four readings of a query are tried in turn: the word `null`, a comparison, a range and a bare
number. No text has two of them, so the turn does not matter.

Which reading can succeed is mostly seen from the first character that counts. A comparison begins
with the sign of a comparator, which begins no number (`Comparator.begins_no_number`), and the word
`null` is none of the three others. A range and a bare number may begin alike. What tells them
apart is the dash of the range: it follows a numeral, while inside a bare number a dash can only
follow the mark of an exponent (`Binary64.ofChars?_of_scan?_dash`).

* `ofText_any_order`: at most one reading succeeds, and any order of the readings gives the answer
  of `ofText`.
-/
import Leaderboard.Number.Literal
import Leaderboard.Table.Query
import Leaderboard.Text.Ascii

set_option autoImplicit false

namespace Leaderboard

/-! ## Letters and digits -/

theorem toLower_of_isDigit {c : Char} (digit : c.isDigit = true) : c.toLower = c := by
  have range := Text.isDigit_iff.mp digit
  refine Char.toNat_inj.mp ?_
  rw [Text.toNat_toLower, if_neg]
  rw [Text.isUpper_iff]
  omega

/-- A digit is neither a sign nor a letter. -/
theorem unsigned_of_isDigit {c : Char} (digit : c.isDigit = true) :
    c ≠ '-' ∧ c ≠ '+' ∧ c.toLower.isLower = false := by
  rw [toLower_of_isDigit digit]
  refine ⟨?_, ?_, ?_⟩
  · rintro rfl
    exact absurd digit (by decide)
  · rintro rfl
    exact absurd digit (by decide)
  · rw [Text.isDigit_iff] at digit
    rw [Bool.eq_false_iff, ne_eq, Text.isLower_iff]
    omega

/-- What is lowered to a small letter is an ASCII letter. -/
theorem plain_of_isLower_toLower {c : Char} (small : c.toLower.isLower = true) :
    Text.isBlank c = false ∧ Text.lowerChar c = [c.toLower] := by
  have range : 65 ≤ c.toNat ∧ c.toNat ≤ 122 := by
    rw [Text.isLower_iff, Text.toNat_toLower] at small
    split at small
    · omega
    · omega
  refine ⟨?_, if_pos (by omega)⟩
  simp only [Text.isBlank, Bool.or_eq_false_iff, Bool.and_eq_false_iff, decide_eq_false_iff_not,
    beq_eq_false_iff_ne]
  omega

/-! ## Numbers and what cannot begin or go on in them -/

namespace Decimal

/-- A text that begins with neither a digit nor a point is no numeral without a sign. -/
theorem unsigned?_of_other (negative : Bool) {c : Char} (r : List Char) (other : c.isDigit = false)
    (point : c ≠ '.') : unsigned? negative (c :: r) = none := by
  have fraction : takeFraction (c :: r) = ([], c :: r) := by
    unfold takeFraction
    split
    · rename_i same
      exact absurd (List.cons.inj same).1 point
    · rfl
  unfold unsigned?
  rw [takeDigits_of_not_digit r other]
  dsimp only
  rw [fraction]
  rfl

/-- A text that begins with neither a digit nor a dash begins with no scanned numeral. -/
theorem scan?_of_other {c : Char} (r : List Char) (digit : c.isDigit = false) (minus : c ≠ '-') :
    scan? (c :: r) = none := by
  unfold scan?
  split
  · rename_i same
    exact absurd (List.cons.inj same).1 minus
  · unfold scanUnsigned?
    rw [takeDigits_of_not_digit r digit]
    rfl

theorem takeFraction_of_scanFraction_dash {cs r : List Char}
    (scan : (scanFraction cs).2 = '-' :: r) : (takeFraction cs).2 = '-' :: r := by
  unfold scanFraction at scan
  split at scan
  · split at scan
    · exact scan
    · cases scan
  · change cs = '-' :: r at scan
    rw [scan]
    rfl

theorem exponent?_dash (r : List Char) : exponent? ('-' :: r) = none := by
  unfold exponent?
  exact if_neg (by decide)

/-- A text in which a scan stops at a dash begins with a digit, and the whole text is no numeral: a
numeral goes on with an exponent only. -/
theorem unsigned?_of_scanUnsigned?_dash {scanned : Bool} {cs r : List Char} {d : Decimal}
    (scan : scanUnsigned? scanned cs = some (d, '-' :: r)) (negative : Bool) :
    (∃ c tail, cs = c :: tail ∧ c.isDigit = true) ∧ unsigned? negative cs = none := by
  unfold scanUnsigned? at scan
  dsimp only at scan
  split at scan
  · cases scan
  rename_i whole
  rw [Option.some.injEq, Prod.mk.injEq] at scan
  have rest := takeFraction_of_scanFraction_dash scan.2
  constructor
  · cases cs with
    | nil => exact absurd rfl whole
    | cons c tail =>
        cases digit : c.isDigit with
        | true => exact ⟨c, tail, rfl, digit⟩
        | false =>
            rw [takeDigits_of_not_digit tail digit] at whole
            exact absurd rfl whole
  · unfold unsigned?
    dsimp only
    rw [rest, exponent?_dash]
    split <;> rfl

end Decimal

namespace Binary64

/-- Words begin with a letter. -/
theorem ofWord?_of_not_letter (negative : Bool) {c : Char} (r : List Char)
    (other : c.toLower.isLower = false) : ofWord? negative (c :: r) = none := by
  have different : ∀ word : List Char, word.head?.any Char.isLower = true →
      (c :: r).map Char.toLower ≠ word := by
    rintro word small rfl
    rw [List.map_cons, List.head?_cons, Option.any_some, other] at small
    cases small
  have short : ¬((c :: r).map Char.toLower = "inf".toList ∨
      (c :: r).map Char.toLower = "infinity".toList) := by
    rintro (short | long)
    · exact different "inf".toList (by decide) short
    · exact different "infinity".toList (by decide) long
  unfold ofWord?
  dsimp only
  rw [if_neg short, if_neg (different "nan".toList (by decide))]

/-- A text without a sign that is no numeral and does not begin like a word is no number. -/
theorem ofChars?_of_unsigned {c : Char} {r : List Char} (minus : c ≠ '-') (plus : c ≠ '+')
    (letter : c.toLower.isLower = false) (numeral : Decimal.unsigned? false (c :: r) = none) :
    ofChars? (c :: r) = none := by
  unfold ofChars?
  rw [Decimal.ofText?_of_ne_sign r minus plus, numeral]
  dsimp only
  split
  · rename_i same
    exact absurd (List.cons.inj same).1 minus
  · rename_i same
    exact absurd (List.cons.inj same).1 plus
  · exact ofWord?_of_not_letter false r letter

/-- A text in which a scan stops at a dash is no number. -/
theorem ofChars?_of_scan?_dash {cs r : List Char} {d : Decimal}
    (scan : Decimal.scan? cs = some (d, '-' :: r)) : ofChars? cs = none := by
  unfold Decimal.scan? at scan
  split at scan
  · obtain ⟨⟨c, tail, rfl, digit⟩, numeral⟩ := Decimal.unsigned?_of_scanUnsigned?_dash scan true
    unfold ofChars?
    rw [show Decimal.ofText? ('-' :: c :: tail) = none from numeral]
    exact ofWord?_of_not_letter true tail (unsigned_of_isDigit digit).2.2
  · obtain ⟨⟨c, tail, rfl, digit⟩, numeral⟩ := Decimal.unsigned?_of_scanUnsigned?_dash scan false
    obtain ⟨minus, plus, letter⟩ := unsigned_of_isDigit digit
    exact ofChars?_of_unsigned minus plus letter numeral

end Binary64

namespace Comparator

/-- The characters that comparators begin with. -/
def signs : List Char := ['>', '<', '!', '=']

theorem sign_of_scan? {cs r : List Char} {comparator : Comparator}
    (scan : scan? cs = some (comparator, r)) : ∃ c tail, cs = c :: tail ∧ c ∈ signs := by
  unfold scan? at scan
  split at scan
  case h_8 => cases scan
  all_goals exact ⟨_, _, rfl, by decide⟩

theorem begins_no_number {c : Char} (sign : c ∈ signs) : c ≠ '-' ∧ c ≠ '+' ∧ c ≠ '.' ∧
    c.toLower.isLower = false ∧ c.isDigit = false := by
  have each : signs.all (fun c => c ≠ '-' ∧ c ≠ '+' ∧ c ≠ '.' ∧
      c.toLower.isLower = false ∧ c.isDigit = false) = true := by decide
  exact of_decide_eq_true (List.all_eq_true.mp each c sign)

end Comparator

/-! ## Readings -/

namespace NumberQuery

theorem lowerEach_of_letters {cs : List Char} (small : ∀ c ∈ cs, c.toLower.isLower = true) :
    Text.lowerEach cs = cs.map Char.toLower := by
  unfold Text.lowerEach
  induction cs with
  | nil => rfl
  | cons c r ih =>
      rw [List.flatMap_cons, (plain_of_isLower_toLower (small c List.mem_cons_self)).2,
        ih fun d hd => small d (List.mem_cons_of_mem c hd)]
      rfl

theorem compact_of_letters {s : String} (small : ∀ c ∈ s.toList, c.toLower.isLower = true) :
    compact s = s.toList.map Char.toLower := by
  unfold compact
  rw [Text.squeezeList_eq_self fun c hc => (plain_of_isLower_toLower (small c hc)).1,
    lowerEach_of_letters small]

theorem null?_eq_some_iff {s : String} {q : NumberQuery} :
    null? s = some q ↔ q = .null ∧ s.toList.map Char.toLower = "null".toList := by
  unfold null?
  split <;> simp_all [eq_comm]

/-- The word has letters only. -/
theorem isLower_of_spells {word : List Char} (null : word.map Char.toLower = "null".toList) :
    ∀ c ∈ word, c.toLower.isLower = true := by
  intro c mem
  have small : "null".toList.all Char.isLower = true := by decide
  exact List.all_eq_true.mp small c.toLower (null ▸ List.mem_map_of_mem mem)

theorem compact_of_null? {s : String} {q : NumberQuery} (read : null? s = some q) :
    compact s = "null".toList := by
  obtain ⟨-, word⟩ := null?_eq_some_iff.mp read
  rw [compact_of_letters (isLower_of_spells word), word]

/-- The readings of a query, in the order in which they are tried. -/
def readings : List (String → Option NumberQuery) := [null?, comparison?, range?, equal?]

theorem ofText_eq_findSome? (s : String) : ofText s =
    (readings.findSome? fun read => read (Text.trim s)).getD
      (.part (Text.lower (Text.trim s))) := by
  unfold ofText readings
  dsimp only
  simp only [List.findSome?_cons, List.findSome?_nil]
  cases null? (Text.trim s) <;> cases comparison? (Text.trim s) <;>
    cases range? (Text.trim s) <;> cases equal? (Text.trim s) <;> rfl

/-- What a reading gives: the word comes from the first, and none gives a text to search. -/
theorem forms_of_reading {read : String → Option NumberQuery} (mem : read ∈ readings) {s : String}
    {q : NumberQuery} (reads : read s = some q) :
    (null? s = some q ∧ q = .null) ∨ (∃ comparator target, q = .compare comparator target) ∨
      (∃ low high, q = .range low high) ∨ ∃ target, q = .exact target := by
  simp only [readings, List.mem_cons, List.not_mem_nil, or_false] at mem
  rcases mem with rfl | rfl | rfl | rfl
  · exact .inl ⟨reads, (null?_eq_some_iff.mp reads).1⟩
  · unfold comparison? at reads
    split at reads
    · cases reads
    · obtain ⟨found, -, rfl⟩ := Option.map_eq_some_iff.mp reads
      exact .inr (.inl ⟨_, _, rfl⟩)
  · unfold range? at reads
    split at reads
    · obtain ⟨found, -, rfl⟩ := Option.map_eq_some_iff.mp reads
      exact .inr (.inr (.inl ⟨_, _, rfl⟩))
    · cases reads
  · obtain ⟨found, -, rfl⟩ := Option.map_eq_some_iff.mp reads
    exact .inr (.inr (.inr ⟨_, rfl⟩))

theorem of_null? {s : String} {q : NumberQuery} (read : null? s = some q) :
    comparison? s = none ∧ range? s = none ∧ equal? s = none := by
  unfold comparison? range? equal?
  rw [compact_of_null? read]
  exact ⟨rfl, rfl, rfl⟩

/-- What begins with the sign of a comparator is neither a range nor a number. -/
theorem of_sign {s : String} {c : Char} {tail : List Char} (begins : compact s = c :: tail)
    (sign : c ∈ Comparator.signs) : range? s = none ∧ equal? s = none := by
  obtain ⟨minus, plus, point, letter, digit⟩ := Comparator.begins_no_number sign
  unfold range? equal? Binary64.finiteChars?
  rw [begins, Decimal.scan?_of_other tail digit minus,
    Binary64.ofChars?_of_unsigned minus plus letter
      (Decimal.unsigned?_of_other false tail digit point)]
  exact ⟨rfl, rfl⟩

theorem of_comparison? {s : String} {q : NumberQuery} (read : comparison? s = some q) :
    range? s = none ∧ equal? s = none := by
  unfold comparison? at read
  split at read
  · cases read
  rename_i scan
  obtain ⟨c, tail, begins, sign⟩ := Comparator.sign_of_scan? scan
  exact of_sign begins sign

theorem equal?_of_range? {s : String} {q : NumberQuery} (read : range? s = some q) :
    equal? s = none := by
  unfold range? at read
  split at read
  · rename_i scan
    unfold equal? Binary64.finiteChars?
    rw [Binary64.ofChars?_of_scan?_dash scan]
    rfl
  · cases read

theorem readings_length_le (s : String) : (readings.filterMap fun read => read s).length ≤ 1 := by
  unfold readings
  cases null : null? s with
  | some q =>
      obtain ⟨comparison, range, equal⟩ := of_null? null
      simp [null, comparison, range, equal]
  | none =>
      cases comparison : comparison? s with
      | some q =>
          obtain ⟨range, equal⟩ := of_comparison? comparison
          simp [null, comparison, range, equal]
      | none =>
          cases range : range? s with
          | some q => simp [null, comparison, range, equal?_of_range? range]
          | none => cases equal : equal? s <;> simp [null, comparison, range, equal]

/-- What is found first in any order, where there is at most one thing to find. -/
theorem findSome?_perm {α β : Type} {f : α → Option β} {l l' : List α} (perm : l'.Perm l)
    (one : (l.filterMap f).length ≤ 1) : l'.findSome? f = l.findSome? f := by
  have found := perm.filterMap f
  rw [← List.head?_filterMap, ← List.head?_filterMap]
  cases all : l.filterMap f with
  | nil => rw [all] at found; rw [found.eq_nil]
  | cons b r =>
      have alone : r = [] := by simpa [all] using one
      rw [all, alone] at found
      rw [found.eq_singleton, alone]

/-- **A query has at most one reading, so the readings may be tried in any order.** -/
theorem ofText_any_order (s : String) :
    (readings.filterMap fun read => read s).length ≤ 1 ∧
      ∀ order : List (String → Option NumberQuery), order.Perm readings →
        (order.findSome? fun read => read (Text.trim s)).getD
          (.part (Text.lower (Text.trim s))) = ofText s := by
  refine ⟨readings_length_le s, fun order perm => ?_⟩
  rw [findSome?_perm perm (readings_length_le (Text.trim s)), ofText_eq_findSome?]

/-- The readings of a range tried from the last to the first. -/
theorem ofText_backwards :
    readings.reverse.Perm readings ∧
      (readings.reverse.findSome? fun read => read (Text.trim " -1.5 - 2 ")).getD
        (.part (Text.lower (Text.trim " -1.5 - 2 "))) = ofText " -1.5 - 2 " :=
  ⟨List.reverse_perm readings,
    (ofText_any_order " -1.5 - 2 ").2 readings.reverse (List.reverse_perm readings)⟩

/-- A dash parts the ends of a range, or follows the mark of an exponent. -/
example : (readings.map fun read => (read "1-5").isSome) = [false, false, true, false] ∧
    (readings.map fun read => (read "1e-5").isSome) = [false, false, false, true] := by
  decide +kernel

end NumberQuery

end Leaderboard
