/-
# Leaderboard.Number.Literal — the literals that a scan takes

A literal is an optional minus, digits, and an optional point with digits after it. `Decimal.scan?`
reads the start of a text and leaves the rest; here it is pinned down without its loops. It finds
the longest literal at the start (`Literal.Leads`), and nothing exactly when no literal is there.

That it finds the longest one needs no comparison of literals: whatever literal the text begins
with, a scan goes at least as far (`Literal.scan?_append`), and what it takes is itself a literal.

Main statements: `scan?_eq_some_iff` (a scan finds the longest literal and its value),
`Literal.Leads.unique` (there is one such literal) and `Literal.ofText?_chars` (a literal alone is a
numeral of the same value).
-/
import Leaderboard.Number.Decimal

set_option autoImplicit false

namespace Leaderboard.Decimal

/-- `-?d+(.d+)?`; without a fraction there is no point. -/
structure Literal where
  negative : Bool
  whole : List Char
  fraction : List Char
  whole_ne : whole ≠ []
  whole_digits : ∀ c ∈ whole, c.isDigit = true
  fraction_digits : ∀ c ∈ fraction, c.isDigit = true

/-- Digits after a point, if there are any. -/
def pointed : List Char → List Char
  | [] => []
  | d :: r => '.' :: d :: r

namespace Literal

def unsignedChars (l : Literal) : List Char := l.whole ++ pointed l.fraction

/-- The characters of a literal. -/
def chars (l : Literal) : List Char := signed l.negative l.unsignedChars

def value (l : Literal) : Decimal :=
  ⟨l.negative, ofDigits (l.whole ++ l.fraction), -(l.fraction.length : Int)⟩

def toBinary64 (l : Literal) : Binary64 := l.value.toBinary64

/-- The longest literal at the start of a text, and what follows it. -/
structure Leads (l : Literal) (cs rest : List Char) : Prop where
  split : cs = l.chars ++ rest
  longest : ∀ (k : Literal) (other : List Char), cs = k.chars ++ other →
    k.chars.length ≤ l.chars.length

/-- A text that does not go on with a literal. -/
structure Stops (l : Literal) (rest : List Char) : Prop where
  digit : ∀ c r, rest = c :: r → c.isDigit = false
  point : ∀ c r, l.fraction = [] → rest = '.' :: c :: r → c.isDigit = false

end Literal

/-! ## Runs of digits -/

theorem takeDigits_digits_append {ds : List Char} (digits : ∀ c ∈ ds, c.isDigit = true)
    (r : List Char) :
    takeDigits (ds ++ r) = (ds ++ (takeDigits r).1, (takeDigits r).2) := by
  unfold takeDigits
  rw [List.takeWhile_append_of_pos digits, List.dropWhile_append_of_pos digits]

theorem takeDigits_of_not_digit {c : Char} (r : List Char) (other : c.isDigit = false) :
    takeDigits (c :: r) = ([], c :: r) := by
  simp [takeDigits, other]

theorem takeDigits_of_stop {r : List Char} (stop : ∀ c s, r = c :: s → c.isDigit = false) :
    takeDigits r = ([], r) := by
  cases r with
  | nil => rfl
  | cons c s => exact takeDigits_of_not_digit s (stop c s rfl)

theorem length_takeDigits_le (r : List Char) : (takeDigits r).2.length ≤ r.length :=
  (List.dropWhile_sublist _).length_le

theorem isDigit_of_mem_takeDigits {c : Char} {r : List Char} (h : c ∈ (takeDigits r).1) :
    c.isDigit = true :=
  List.all_eq_true.mp List.all_takeWhile c h

/-- A scan and a reading of the fraction differ only at a point without digits: the reading takes
it, the scan does not. -/
theorem takeFraction_cases (r : List Char) :
    takeFraction r = scanFraction r ∨
      ∃ s, r = '.' :: s ∧ scanFraction r = ([], r) ∧ takeFraction r = ([], s) := by
  cases r with
  | nil => exact .inl rfl
  | cons c s =>
      by_cases point : c = '.'
      · subst point
        cases s with
        | nil => exact .inr ⟨[], rfl, rfl, rfl⟩
        | cons d t =>
            cases digit : d.isDigit with
            | true => exact .inl (by simp [takeFraction, scanFraction, digit])
            | false =>
                exact .inr ⟨d :: t, rfl, by simp [scanFraction, digit],
                  by simp [takeFraction, takeDigits, digit]⟩
      · left
        unfold takeFraction scanFraction
        simp [point]

/-! ## A scan takes a literal -/

theorem scan?_of_ne_minus {c : Char} (r : List Char) (minus : c ≠ '-') :
    scan? (c :: r) = scanUnsigned? false (c :: r) := by
  unfold scan?
  split
  · rename_i same
    exact absurd (List.cons.inj same).1 minus
  · rfl

namespace Literal

variable (l : Literal)

/-- The first character of a literal without its sign is a digit. -/
theorem unsignedChars_eq_cons : ∃ c r, l.unsignedChars = c :: r ∧ c.isDigit = true := by
  unfold unsignedChars
  cases whole : l.whole with
  | nil => exact absurd whole l.whole_ne
  | cons c r =>
      exact ⟨c, r ++ pointed l.fraction, rfl, l.whole_digits c (whole ▸ List.mem_cons_self)⟩

/-- Behind the whole part the scan takes the fraction, and then goes as far as digits go. -/
theorem scanUnsigned?_append (other : List Char) :
    ∃ d rest, scanUnsigned? l.negative (l.unsignedChars ++ other) = some (d, rest) ∧
      rest.length ≤ other.length ∧ (l.Stops other → d = l.value ∧ rest = other) := by
  unfold scanUnsigned? unsignedChars
  rw [List.append_assoc, takeDigits_digits_append l.whole_digits]
  dsimp only
  rw [if_neg (by simp [l.whole_ne])]
  refine ⟨_, _, rfl, ?_⟩
  cases fraction : l.fraction with
  | nil =>
      rw [pointed, List.nil_append]
      constructor
      · have digits := length_takeDigits_le other
        rcases scanFraction_append (takeDigits other).2 with ⟨-, same⟩ | split
        · rw [same]
          exact digits
        · have taken := congrArg List.length split
          simp only [List.cons_append, List.length_cons, List.length_append] at taken
          omega
      · intro stops
        have untaken : scanFraction other = ([], other) := by
          unfold scanFraction
          split
          · rename_i d r
            rw [if_neg (by rw [stops.point d r fraction rfl]; decide)]
          · rfl
        rw [takeDigits_of_stop stops.digit, untaken, List.append_nil]
        refine ⟨?_, rfl⟩
        rw [value, fraction]
  | cons c r =>
      have digits : ∀ d ∈ c :: r, d.isDigit = true := fraction ▸ l.fraction_digits
      have point : takeDigits (pointed (c :: r) ++ other) = ([], '.' :: c :: (r ++ other)) := by
        refine takeDigits_of_stop fun d s same => ?_
        rw [← (List.cons.inj same).1]
        decide
      have taken : scanFraction ('.' :: c :: (r ++ other)) =
          (c :: r ++ (takeDigits other).1, (takeDigits other).2) := by
        refine (if_pos (digits c List.mem_cons_self)).trans ?_
        rw [← List.cons_append, takeDigits_digits_append digits]
      rw [point, taken]
      refine ⟨length_takeDigits_le other, fun stops => ?_⟩
      rw [takeDigits_of_stop stops.digit, List.append_nil, List.append_nil]
      refine ⟨?_, rfl⟩
      rw [value, fraction]

/-- Where a text begins with a literal a scan goes at least to its end, and no further if what
follows stops it. -/
theorem scan?_append (other : List Char) :
    ∃ d rest, scan? (l.chars ++ other) = some (d, rest) ∧ rest.length ≤ other.length ∧
      (l.Stops other → d = l.value ∧ rest = other) := by
  obtain ⟨d, rest, scan, reached⟩ := l.scanUnsigned?_append other
  refine ⟨d, rest, ?_, reached⟩
  rw [← scan]
  unfold chars signed
  cases l.negative with
  | true => rfl
  | false =>
      obtain ⟨c, r, begins, digit⟩ := l.unsignedChars_eq_cons
      rw [if_neg Bool.false_ne_true, begins]
      exact scan?_of_ne_minus _ (by rintro rfl; exact absurd digit (by decide))

end Literal

theorem exists_of_scanUnsigned? {negative : Bool} {cs rest : List Char} {d : Decimal}
    (scan : scanUnsigned? negative cs = some (d, rest)) :
    ∃ l : Literal, l.negative = negative ∧ cs = l.unsignedChars ++ rest ∧ l.value = d := by
  unfold scanUnsigned? at scan
  dsimp only at scan
  split at scan
  · cases scan
  rename_i whole
  rw [Option.some.injEq, Prod.mk.injEq] at scan
  obtain ⟨rfl, rfl⟩ := scan
  have fraction_digits : ∀ c ∈ (scanFraction (takeDigits cs).2).1, c.isDigit = true := by
    intro c hc
    unfold scanFraction at hc
    split at hc
    · split at hc
      · exact isDigit_of_mem_takeDigits hc
      · cases hc
    · cases hc
  refine ⟨⟨negative, (takeDigits cs).1, (scanFraction (takeDigits cs).2).1, by simpa using whole,
    fun _ => isDigit_of_mem_takeDigits, fraction_digits⟩, rfl, ?_, rfl⟩
  unfold Literal.unsignedChars
  dsimp only
  rw [List.append_assoc]
  refine (takeDigits_append cs).symm.trans (congrArg _ ?_)
  generalize (takeDigits cs).2 = r
  unfold scanFraction
  split
  · rename_i c s
    split
    · rename_i digit
      have more : (takeDigits (c :: s)).1 = c :: (takeDigits s).1 := by simp [takeDigits, digit]
      refine (congrArg _ (takeDigits_append (c :: s)).symm).trans ?_
      rw [more]
      rfl
    · rfl
  · rfl

theorem exists_of_scan? {cs rest : List Char} {d : Decimal} (scan : scan? cs = some (d, rest)) :
    ∃ l : Literal, cs = l.chars ++ rest ∧ l.value = d := by
  unfold Literal.chars
  unfold scan? at scan
  split at scan
  · obtain ⟨l, negative, split, value⟩ := exists_of_scanUnsigned? scan
    exact ⟨l, by rw [negative, split]; rfl, value⟩
  · obtain ⟨l, negative, split, value⟩ := exists_of_scanUnsigned? scan
    exact ⟨l, by rw [negative, split]; rfl, value⟩

/-! ## It is the longest one -/

namespace Literal

variable {l : Literal} {cs rest : List Char}

/-- What follows the longest literal cannot lengthen it. -/
theorem Leads.stops (leads : l.Leads cs rest) : l.Stops rest := by
  have longer : ∀ (k : Literal) (other : List Char), k.chars ++ other = l.chars ++ rest →
      ¬l.chars.length < k.chars.length := fun k other same =>
    Nat.not_lt.mpr (leads.longest k other (leads.split.trans same.symm))
  constructor
  case digit =>
    rintro c r rfl
    refine Bool.eq_false_iff.mpr fun digit => ?_
    have one : ∀ d ∈ [c], d.isDigit = true := by simpa using digit
    cases fraction : l.fraction with
    | nil =>
        refine longer ⟨l.negative, l.whole ++ [c], [], by simp, ?_, by simp⟩ r ?_ ?_
        · exact List.forall_mem_append.mpr ⟨l.whole_digits, one⟩
        all_goals cases sign : l.negative <;>
          simp [chars, unsignedChars, signed, pointed, fraction, sign]
    | cons d s =>
        refine longer ⟨l.negative, l.whole, l.fraction ++ [c], l.whole_ne, l.whole_digits, ?_⟩
          r ?_ ?_
        · exact List.forall_mem_append.mpr ⟨l.fraction_digits, one⟩
        all_goals cases sign : l.negative <;>
          simp [chars, unsignedChars, signed, pointed, fraction, sign]
  case point =>
    rintro c r fraction rfl
    refine Bool.eq_false_iff.mpr fun digit => ?_
    refine longer ⟨l.negative, l.whole, [c], l.whole_ne, l.whole_digits, by simpa using digit⟩
      r ?_ ?_
    all_goals cases sign : l.negative <;>
      simp [chars, unsignedChars, signed, pointed, fraction, sign]

theorem Stops.scan? (stops : l.Stops rest) :
    Decimal.scan? (l.chars ++ rest) = some (l.value, rest) := by
  obtain ⟨d, r, scan, -, exact⟩ := l.scan?_append rest
  obtain ⟨rfl, rfl⟩ := exact stops
  exact scan

theorem scan?_chars (l : Literal) : Decimal.scan? l.chars = some (l.value, []) := by
  have stops : l.Stops [] := by constructor <;> simp
  have scan := stops.scan?
  rwa [List.append_nil] at scan

theorem chars_ne_nil (l : Literal) : l.chars ≠ [] := by
  intro empty
  have scan := l.scan?_chars
  rw [empty] at scan
  cases scan

theorem takeDigits_unsignedChars (l : Literal) :
    takeDigits l.unsignedChars = (l.whole, pointed l.fraction) := by
  have point : takeDigits (pointed l.fraction) = ([], pointed l.fraction) := by
    apply takeDigits_of_stop
    intro c r same
    cases fraction : l.fraction with
    | nil => simp [fraction, pointed] at same
    | cons d s =>
        simp only [fraction, pointed, List.cons.injEq] at same
        rw [← same.1]
        decide
  rw [unsignedChars, takeDigits_digits_append l.whole_digits, point, List.append_nil]

/-- A literal is known by its characters. -/
theorem chars_injective {l m : Literal} (same : l.chars = m.chars) : l = m := by
  obtain ⟨c, r, begins, digit⟩ := l.unsignedChars_eq_cons
  obtain ⟨d, s, begins', digit'⟩ := m.unsignedChars_eq_cons
  have minus : ∀ {c : Char}, c.isDigit = true → c ≠ '-' := by
    rintro c digit rfl
    exact absurd digit (by decide)
  have parts : l.negative = m.negative ∧ l.unsignedChars = m.unsignedChars := by
    unfold chars signed at same
    cases sign : l.negative <;> cases sign' : m.negative <;>
      simp only [sign, sign', Bool.false_eq_true, if_true, if_false] at same
    case false.false => exact ⟨rfl, same⟩
    case true.true => exact ⟨rfl, (List.cons.inj same).2⟩
    case false.true => exact absurd (List.cons.inj (begins.symm.trans same)).1 (minus digit)
    case true.false => exact absurd (List.cons.inj (begins'.symm.trans same.symm)).1 (minus digit')
  have digits := congrArg takeDigits parts.2
  rw [takeDigits_unsignedChars, takeDigits_unsignedChars, Prod.mk.injEq] at digits
  have fraction : l.fraction = m.fraction := by
    have pointed_eq := digits.2
    cases fraction : l.fraction <;> cases fraction' : m.fraction <;>
      simp_all [pointed]
  cases l
  cases m
  simp only [Literal.mk.injEq]
  exact ⟨parts.1, digits.1, fraction⟩

/-- A text has one longest literal at its start. -/
theorem Leads.unique {l m : Literal} {cs rest other : List Char} (leads : l.Leads cs rest)
    (also : m.Leads cs other) : l = m ∧ rest = other := by
  have short := leads.longest m other also.split
  have long := also.longest l rest leads.split
  have split := List.append_inj (leads.split.symm.trans also.split) (by omega)
  exact ⟨chars_injective split.1, split.2⟩

/-- A dash ends a literal. -/
theorem stops_dash (l : Literal) (r : List Char) : l.Stops ('-' :: r) := by
  constructor
  case digit =>
    intro c s same
    rw [← (List.cons.inj same).1]
    decide
  case point =>
    intro c s _ same
    cases same

end Literal

/-- **A scan finds the longest literal at the start of a text.** -/
theorem scan?_eq_some_iff {cs rest : List Char} {d : Decimal} :
    scan? cs = some (d, rest) ↔ ∃ l : Literal, l.Leads cs rest ∧ l.value = d := by
  constructor
  · intro scan
    obtain ⟨l, split, value⟩ := exists_of_scan? scan
    refine ⟨l, ⟨split, fun k other same => ?_⟩, value⟩
    obtain ⟨d', r, scan', short, -⟩ := k.scan?_append other
    rw [← same, scan, Option.some.injEq, Prod.mk.injEq] at scan'
    obtain ⟨-, rfl⟩ := scan'
    have lengths := congrArg List.length (split.symm.trans same)
    rw [List.length_append, List.length_append] at lengths
    omega
  · rintro ⟨l, leads, rfl⟩
    rw [leads.split]
    exact leads.stops.scan?

theorem scan?_eq_none {cs : List Char}
    (other : ∀ (l : Literal) (rest : List Char), ¬l.Leads cs rest) : scan? cs = none := by
  cases scanned : scan? cs with
  | none => rfl
  | some found =>
      obtain ⟨l, leads, -⟩ := scan?_eq_some_iff.mp scanned
      exact absurd leads (other l found.2)

/-! ## Literals and numerals -/

/-- A numeral goes on from the literal at its start with an exponent, or with a bare point and an
exponent. -/
theorem unsigned?_of_scanUnsigned? {negative : Bool} {cs rest : List Char} {d : Decimal}
    (scan : scanUnsigned? negative cs = some (d, rest)) :
    ∃ tail, (tail = rest ∨ rest = '.' :: tail) ∧
      unsigned? negative cs =
        (exponent? tail).map fun e => { d with exponent := e + d.exponent } := by
  unfold scanUnsigned? at scan
  unfold unsigned?
  dsimp only at scan ⊢
  split at scan
  · cases scan
  rename_i whole
  rw [Option.some.injEq, Prod.mk.injEq] at scan
  obtain ⟨rfl, rfl⟩ := scan
  refine ⟨(takeFraction (takeDigits cs).2).2, ?_, ?_⟩
  · rcases takeFraction_cases (takeDigits cs).2 with same | ⟨s, point, scanned, taken⟩
    · exact .inl (congrArg Prod.snd same)
    · right
      rw [scanned, taken]
      exact point
  · have fraction : (takeFraction (takeDigits cs).2).1 = (scanFraction (takeDigits cs).2).1 := by
      rcases takeFraction_cases (takeDigits cs).2 with same | ⟨s, -, scanned, taken⟩
      · rw [same]
      · rw [scanned, taken]
    rw [fraction, if_neg (by simp [whole])]
    simp only [Int.sub_eq_add_neg]

/-- A numeral that goes on with nothing or a bare point has the value of its literal. -/
theorem eq_of_scanUnsigned? {negative : Bool} {cs rest : List Char} {d n : Decimal}
    (scan : scanUnsigned? negative cs = some (d, rest)) (numeral : unsigned? negative cs = some n)
    (bare : rest = [] ∨ rest = ['.']) : n = d := by
  obtain ⟨tail, follows, read⟩ := unsigned?_of_scanUnsigned? scan
  have ends : tail = [] ∨ tail = ['.'] := by
    rcases follows with rfl | pointed
    · exact bare
    · rcases bare with none | point
      · rw [none] at pointed
        cases pointed
      · exact .inl (List.cons.inj (pointed.symm.trans point)).2
  rw [read] at numeral
  rcases ends with rfl | rfl
  · rw [exponent?, Option.map_some, Option.some.injEq, Int.zero_add] at numeral
    exact numeral.symm
  · cases numeral

/-- A numeral without a sign that begins with no literal begins with a point. -/
theorem point_of_scanUnsigned?_none {negative : Bool} {cs : List Char} {n : Decimal}
    (scan : scanUnsigned? negative cs = none) (numeral : unsigned? negative cs = some n) :
    ∃ r, cs = '.' :: r := by
  unfold scanUnsigned? at scan
  unfold unsigned? at numeral
  dsimp only at scan numeral
  split at scan
  · rename_i whole
    rw [List.isEmpty_iff] at whole
    have rest : (takeDigits cs).2 = cs := by
      have append := takeDigits_append cs
      rwa [whole] at append
    rw [whole, rest] at numeral
    unfold takeFraction at numeral
    split at numeral
    · rename_i r
      exact ⟨r, rfl⟩
    · cases numeral
  · cases scan

theorem ofText?_of_ne_sign {c : Char} (r : List Char) (minus : c ≠ '-') (plus : c ≠ '+') :
    ofText? (c :: r) = unsigned? false (c :: r) := by
  unfold ofText?
  split
  · rename_i same
    exact absurd (List.cons.inj same).1 minus
  · rename_i same
    exact absurd (List.cons.inj same).1 plus
  · rfl

/-- Behind a minus, or without a sign, the same text is read and scanned. A plus is no sign of a
literal. -/
theorem sign_cases (cs : List Char) :
    (∃ negative ds, (cs = ds ∨ cs = '-' :: ds) ∧ ofText? cs = unsigned? negative ds ∧
      scan? cs = scanUnsigned? negative ds) ∨ ∃ r, cs = '+' :: r ∧ scan? cs = none := by
  cases cs with
  | nil => exact .inl ⟨false, [], .inl rfl, rfl, rfl⟩
  | cons c r =>
      by_cases minus : c = '-'
      · subst minus
        exact .inl ⟨true, r, .inr rfl, rfl, rfl⟩
      · by_cases plus : c = '+'
        · subst plus
          exact .inr ⟨r, rfl, rfl⟩
        · exact .inl ⟨false, c :: r, .inl rfl, ofText?_of_ne_sign r minus plus,
            scan?_of_ne_minus r minus⟩

/-- **The literal at the start of a numeral has the value of the numeral, unless an exponent
follows.** -/
theorem Literal.Leads.eq_of_numeral {l : Literal} {cs rest : List Char} {n : Decimal}
    (leads : l.Leads cs rest) (numeral : ofText? cs = some n) (bare : rest = [] ∨ rest = ['.']) :
    n = l.value := by
  have scan := scan?_eq_some_iff.mpr ⟨l, leads, rfl⟩
  rcases sign_cases cs with ⟨negative, ds, -, read, scanned⟩ | ⟨r, -, none⟩
  · exact eq_of_scanUnsigned? (scanned.symm.trans scan) (read.symm.trans numeral) bare
  · rw [none] at scan
    cases scan

/-- A numeral that begins with no literal begins with a plus or with a point, maybe behind a
minus. -/
theorem begins_of_no_literal {cs : List Char} {n : Decimal} (numeral : ofText? cs = some n)
    (other : ∀ (l : Literal) (rest : List Char), ¬l.Leads cs rest) :
    ∃ r, cs = '+' :: r ∨ cs = '.' :: r ∨ cs = '-' :: '.' :: r := by
  have scan := scan?_eq_none other
  rcases sign_cases cs with ⟨negative, ds, signed, read, scanned⟩ | ⟨r, plus, -⟩
  · obtain ⟨r, rfl⟩ :=
      point_of_scanUnsigned?_none (scanned.symm.trans scan) (read.symm.trans numeral)
    exact ⟨r, .inr signed⟩
  · exact ⟨r, .inl plus⟩

/-- A literal alone is a numeral of its value. -/
theorem Literal.ofText?_chars (l : Literal) : ofText? l.chars = some l.value := by
  have scan := l.scan?_chars
  rcases sign_cases l.chars with ⟨negative, ds, -, read, scanned⟩ | ⟨r, -, none⟩
  · obtain ⟨tail, rfl | pointed, numeral⟩ := unsigned?_of_scanUnsigned? (scanned.symm.trans scan)
    · rw [read, numeral, exponent?, Option.map_some, Int.zero_add]
    · cases pointed
  · rw [none] at scan
    cases scan

end Leaderboard.Decimal
