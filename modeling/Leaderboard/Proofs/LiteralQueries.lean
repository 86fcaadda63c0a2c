/-
# Leaderboard.Proofs.LiteralQueries — numbers behind a comparator and between dashes

A bare number is read as a whole, with a plus, a point at either end or an exponent where it has
them. Behind the token of a comparator, and at the ends of a range, only the longest literal
`-?d+(.d+)?` counts (`Decimal.scan?_eq_some_iff`). So the same number can be read in two ways. They
agree where the number is a literal, or a literal and a bare point behind a token; an exponent is
left out, and a number that begins with a plus or a point is found by neither a comparison nor a
range.

What a query reads as rests on what counts in it, and that goes through joining
(`compact_append`). That a number with a dash behind it is no number any more
(`Decimal.ofText?_append_dash`) settles what a range is: its dash stands behind the whole first
number.

* `number_beside_literal`: how a bare number reads behind each token and as either end of a range.
-/
import Leaderboard.Number.Literal
import Leaderboard.Proofs.QueryReadings

set_option autoImplicit false

namespace Leaderboard

/-! ## A dash behind a number -/

namespace Decimal

theorem takeDigits_append_dash (cs r : List Char) :
    takeDigits (cs ++ '-' :: r) = ((takeDigits cs).1, (takeDigits cs).2 ++ '-' :: r) := by
  induction cs with
  | nil => exact takeDigits_of_not_digit r (by decide)
  | cons c s ih =>
      cases digit : c.isDigit with
      | false =>
          rw [List.cons_append, takeDigits_of_not_digit _ digit, takeDigits_of_not_digit _ digit]
          rfl
      | true =>
          unfold takeDigits at ih ⊢
          rw [Prod.mk.injEq] at ih
          simp [digit, ih.1, ih.2]

theorem takeFraction_append_dash (cs r : List Char) :
    takeFraction (cs ++ '-' :: r) = ((takeFraction cs).1, (takeFraction cs).2 ++ '-' :: r) := by
  cases cs with
  | nil => rfl
  | cons c s =>
      by_cases point : c = '.'
      · subst point
        exact takeDigits_append_dash s r
      · unfold takeFraction
        simp [point]

theorem exponent?_append_dash {cs : List Char} {e : Int} (read : exponent? cs = some e)
    (r : List Char) : exponent? (cs ++ '-' :: r) = none := by
  have undone : ∀ ds : List Char, (ds ++ '-' :: r).all Char.isDigit = false := by
    intro ds
    rw [List.all_append, List.all_cons, show Char.isDigit '-' = false by decide,
      Bool.false_and, Bool.and_false]
  cases cs with
  | nil => exact exponent?_dash r
  | cons c s =>
      unfold exponent? at read
      rw [List.cons_append]
      unfold exponent?
      dsimp only at read ⊢
      split
      · rename_i mark
        rw [if_pos mark] at read
        cases s with
        | nil => cases read
        | cons d t =>
            by_cases minus : d = '-'
            · subst minus
              simp [undone t]
            · by_cases plus : d = '+'
              · subst plus
                simp [undone t]
              · have more := undone (d :: t)
                rw [List.cons_append] at more
                simp [minus, plus, more]
      · rfl

theorem unsigned?_append_dash {negative : Bool} {cs : List Char} {n : Decimal}
    (numeral : unsigned? negative cs = some n) (r : List Char) :
    unsigned? negative (cs ++ '-' :: r) = none := by
  unfold unsigned? at numeral ⊢
  dsimp only at numeral ⊢
  rw [takeDigits_append_dash]
  dsimp only
  rw [takeFraction_append_dash]
  dsimp only
  split at numeral
  · cases numeral
  · rename_i some_digit
    obtain ⟨e, read, -⟩ := Option.map_eq_some_iff.mp numeral
    rw [if_neg some_digit, exponent?_append_dash read]
    rfl

/-- A numeral without a sign begins with a digit or a point. -/
theorem begins_of_unsigned? {negative : Bool} {cs : List Char} {n : Decimal}
    (numeral : unsigned? negative cs = some n) :
    ∃ c r, cs = c :: r ∧ (c.isDigit = true ∨ c = '.') := by
  cases cs with
  | nil => cases numeral
  | cons c r =>
      refine ⟨c, r, rfl, ?_⟩
      by_cases point : c = '.'
      · exact .inr point
      · cases digit : c.isDigit with
        | true => exact .inl rfl
        | false =>
            rw [unsigned?_of_other negative r digit point] at numeral
            cases numeral

/-- A numeral with a dash behind it is a numeral no more. -/
theorem ofText?_append_dash {cs : List Char} {n : Decimal} (numeral : ofText? cs = some n)
    (r : List Char) : ofText? (cs ++ '-' :: r) = none := by
  cases cs with
  | nil => cases numeral
  | cons c s =>
      rw [List.cons_append]
      by_cases minus : c = '-'
      · subst minus
        exact unsigned?_append_dash numeral r
      · by_cases plus : c = '+'
        · subst plus
          exact unsigned?_append_dash numeral r
        · rw [ofText?_of_ne_sign s minus plus] at numeral
          rw [ofText?_of_ne_sign _ minus plus, ← List.cons_append]
          exact unsigned?_append_dash numeral r

/-- What a numeral can begin with. -/
theorem begins_of_ofText? {cs : List Char} {n : Decimal} (numeral : ofText? cs = some n) :
    ∃ c r, cs = c :: r ∧ (c.isDigit = true ∨ c ∈ ['-', '+', '.']) := by
  cases cs with
  | nil => cases numeral
  | cons c r =>
      refine ⟨c, r, rfl, ?_⟩
      by_cases minus : c = '-'
      · exact .inr (by simp [minus])
      · by_cases plus : c = '+'
        · exact .inr (by simp [plus])
        · rw [ofText?_of_ne_sign r minus plus] at numeral
          obtain ⟨d, s, begins, first⟩ := begins_of_unsigned? numeral
          obtain ⟨rfl, -⟩ := List.cons.inj begins
          exact first.imp id fun point => by simp [point]

end Decimal

namespace Binary64

/-- Words name no finite number, so a finite number is written by a numeral. -/
theorem exists_numeral {cs : List Char} {v : Binary64} (number : finiteChars? cs = some v) :
    ∃ n, Decimal.ofText? cs = some n ∧ n.toBinary64 = v := by
  obtain ⟨read, finite⟩ := Option.filter_eq_some_iff.mp number
  have words : ∀ {negative : Bool} {ds : List Char} {w : Binary64},
      ofWord? negative ds = some w → w.isFinite = false := by
    intro negative ds w word
    unfold ofWord? at word
    dsimp only at word
    split at word
    · cases word
      exact decide_eq_false (Nat.lt_irrefl top)
    · split at word
      · cases word
        rfl
      · cases word
  unfold ofChars? at read
  cases numeral : Decimal.ofText? cs with
  | some n =>
      rw [numeral] at read
      exact ⟨n, rfl, Option.some.inj read⟩
  | none =>
      rw [numeral] at read
      dsimp only at read
      have infinite : v.isFinite = false := by
        split at read
        · exact words read
        · exact words read
        · exact words read
      rw [infinite] at finite
      cases finite

theorem finiteChars?_of_numeral {cs : List Char} {n : Decimal}
    (numeral : Decimal.ofText? cs = some n) :
    finiteChars? cs = (some n.toBinary64).filter isFinite := by
  unfold finiteChars? ofChars?
  rw [numeral]

/-- A number with a dash behind it is a number no more. -/
theorem finiteChars?_append_dash {cs : List Char} {v : Binary64}
    (number : finiteChars? cs = some v) (r : List Char) : finiteChars? (cs ++ '-' :: r) = none := by
  obtain ⟨n, numeral, -⟩ := exists_numeral number
  cases more : finiteChars? (cs ++ '-' :: r) with
  | none => rfl
  | some w =>
      obtain ⟨m, again, -⟩ := exists_numeral more
      rw [Decimal.ofText?_append_dash numeral r] at again
      cases again

end Binary64

/-! ## What counts in a query -/

namespace Text

theorem squeezeList_dropWhile (cs : List Char) :
    squeezeList (cs.dropWhile isBlank) = squeezeList cs := by
  unfold squeezeList
  induction cs with
  | nil => rfl
  | cons c r ih =>
      cases blank : isBlank c with
      | true => simpa [blank] using ih
      | false => rw [List.dropWhile_cons_of_neg (by simp [blank])]

theorem squeezeList_trimList (cs : List Char) : squeezeList (trimList cs) = squeezeList cs := by
  have reversed : ∀ ds : List Char, squeezeList ds.reverse = (squeezeList ds).reverse :=
    fun ds => List.filter_reverse
  rw [trimList, trimEndList, reversed, squeezeList_dropWhile, reversed, List.reverse_reverse,
    squeezeList_dropWhile]

end Text

namespace Comparator

/-- What comparators are written as; of two tokens at the start of a text the longer one counts. -/
def tokens : List (String × Comparator) :=
  [(">=", .atLeast), ("<=", .atMost), ("!=", .different), ("==", .equal), (">", .greater),
    ("<", .less), ("=", .equal)]

theorem scan?_token {token : String × Comparator} (mem : token ∈ tokens) {r : List Char}
    (next : ∀ s, r ≠ '=' :: s) : scan? (token.1.toList ++ r) = some (token.2, r) := by
  simp only [tokens, List.mem_cons, List.not_mem_nil, or_false] at mem
  rcases mem with rfl | rfl | rfl | rfl | rfl | rfl | rfl
  · rfl
  · rfl
  · rfl
  · rfl
  -- a token of one character ends where no sign of equality follows
  · exact scan?.eq_5 r next
  · exact scan?.eq_6 r next
  · exact scan?.eq_7 r next

theorem begins_of_token {token : String × Comparator} (mem : token ∈ tokens) :
    ∃ c tail, token.1.toList = c :: tail ∧ c ∈ signs := by
  simp only [tokens, List.mem_cons, List.not_mem_nil, or_false] at mem
  rcases mem with rfl | rfl | rfl | rfl | rfl | rfl | rfl
  all_goals exact ⟨_, _, rfl, by decide⟩

end Comparator

namespace NumberQuery

theorem compact_append (s t : String) : compact (s ++ t) = compact s ++ compact t := by
  unfold compact
  rw [String.toList_append, Text.squeezeList, List.filter_append, Text.lowerEach_append]
  rfl

theorem compact_trim (s : String) : compact (Text.trim s) = compact s := by
  unfold compact Text.trim
  rw [String.toList_ofList, Text.squeezeList_trimList]

theorem compact_token {token : String × Comparator} (mem : token ∈ Comparator.tokens) :
    compact token.1 = token.1.toList := by
  have each : (Comparator.tokens.all fun token => compact token.1 = token.1.toList) = true := by
    decide +kernel
  exact of_decide_eq_true (List.all_eq_true.mp each token mem)

/-- A query reads as the one reading that succeeds. -/
theorem ofText_of_reading {s : String} (read : String → Option NumberQuery) {q : NumberQuery}
    (mem : read ∈ readings) (succeeds : read (Text.trim s) = some q) : ofText s = q := by
  have found : q ∈ readings.filterMap fun read => read (Text.trim s) :=
    List.mem_filterMap.mpr ⟨read, mem, succeeds⟩
  obtain ⟨other, all⟩ : ∃ other, (readings.filterMap fun read => read (Text.trim s)) = [other] :=
    List.length_eq_one_iff.mp (Nat.le_antisymm (readings_length_le _)
      (List.length_pos_of_mem found))
  rw [all, List.mem_singleton] at found
  rw [ofText_eq_findSome?, ← List.head?_filterMap, all, found]
  rfl

theorem ofText_comparison {s : String} {token : String × Comparator} {cs rest : List Char}
    {d : Decimal} (mem : token ∈ Comparator.tokens) (counts : compact s = token.1.toList ++ cs)
    (scan : Decimal.scan? cs = some (d, rest)) : ofText s = .compare token.2 d.toBinary64 := by
  refine ofText_of_reading comparison? (by simp [readings]) ?_
  have next : ∀ r, cs ≠ '=' :: r := by
    rintro r rfl
    rw [Decimal.scan?_of_other r (by decide) (by decide)] at scan
    cases scan
  unfold comparison?
  rw [compact_trim, counts, Comparator.scan?_token mem next]
  dsimp only
  rw [scan]
  rfl

theorem ofText_range {s : String} {cs r rest : List Char} {a b : Decimal}
    (counts : compact s = cs) (first : Decimal.scan? cs = some (a, '-' :: r))
    (second : Decimal.scan? r = some (b, rest)) :
    ofText s = .range (a.toBinary64.min b.toBinary64) (a.toBinary64.max b.toBinary64) := by
  refine ofText_of_reading range? (by simp [readings]) ?_
  unfold range?
  rw [compact_trim, counts, first]
  simp only [second, Option.map_some]

theorem ofText_exact {s : String} {v : Binary64}
    (number : Binary64.finiteChars? (compact s) = some v) : ofText s = .exact v := by
  refine ofText_of_reading equal? (by simp [readings]) ?_
  unfold equal?
  rw [compact_trim, number]
  rfl

/-- A query that has no reading is looked for as it is. -/
theorem ofText_part {s : String} (none : ∀ read ∈ readings, read (Text.trim s) = none) :
    ofText s = .part (Text.lower (Text.trim s)) := by
  rw [ofText_eq_findSome?, List.findSome?_eq_none_iff.mpr none]
  rfl

theorem null?_of_begins {s : String} {c : Char} {tail : List Char}
    (begins : compact s = c :: tail) (other : c ≠ 'n') : null? s = none := by
  cases read : null? s with
  | none => rfl
  | some q => exact absurd (List.cons.inj (begins.symm.trans (compact_of_null? read))).1 other

theorem comparison?_of_begins {s : String} {c : Char} {tail : List Char}
    (begins : compact s = c :: tail) (other : c ∉ Comparator.signs) : comparison? s = none := by
  unfold comparison?
  rw [begins]
  cases scan : Comparator.scan? (c :: tail) with
  | none => rfl
  | some found =>
      obtain ⟨d, r, same, sign⟩ := Comparator.sign_of_scan? scan
      exact absurd ((List.cons.inj same).1 ▸ sign) other

/-- A range is a literal, a dash and a text that begins with a literal. -/
theorem exists_of_range? {s : String} {q : NumberQuery} (read : range? s = some q) :
    ∃ (l m : Decimal.Literal) (r rest : List Char),
      compact s = l.chars ++ '-' :: r ∧ m.Leads r rest := by
  unfold range? at read
  split at read
  · rename_i a r first
    obtain ⟨found, second, -⟩ := Option.map_eq_some_iff.mp read
    obtain ⟨l, leads, -⟩ := Decimal.scan?_eq_some_iff.mp first
    obtain ⟨m, follows, -⟩ := Decimal.scan?_eq_some_iff.mp second
    exact ⟨l, m, r, found.2, leads.split, follows⟩
  · cases read

/-- A dash behind a number ends a literal only if the number is that literal. -/
theorem literal_of_dash {l : Decimal.Literal} {cs r s : List Char} {v : Binary64}
    (number : Binary64.finiteChars? cs = some v)
    (split : cs ++ '-' :: r = l.chars ++ '-' :: s) : cs = l.chars ∧ r = s := by
  obtain ⟨n, numeral, -⟩ := Binary64.exists_numeral number
  rcases List.append_eq_append_iff.mp split with ⟨more, longer, rest⟩ | ⟨more, shorter, rest⟩
  · cases more with
    | nil => exact ⟨by rw [longer, List.append_nil], (List.cons.inj rest).2⟩
    | cons c x =>
        -- the literal would go on behind a dash
        obtain ⟨rfl, -⟩ := List.cons.inj rest
        have whole := l.ofText?_chars
        rw [longer, Decimal.ofText?_append_dash numeral x] at whole
        cases whole
  · cases more with
    | nil => exact ⟨by rw [shorter, List.append_nil], (List.cons.inj rest).2.symm⟩
    | cons c x =>
        -- the number would go on behind a dash
        obtain ⟨rfl, -⟩ := List.cons.inj rest
        rw [shorter, Decimal.ofText?_append_dash l.ofText?_chars x] at numeral
        cases numeral

/-- A token with no literal behind it makes no comparison, and nothing else. -/
theorem ofText_token_part {s : String} {token : String × Comparator} {cs : List Char}
    (mem : token ∈ Comparator.tokens) (counts : compact s = token.1.toList ++ cs)
    (next : ∀ r, cs ≠ '=' :: r) (scan : Decimal.scan? cs = none) :
    ofText s = .part (Text.lower (Text.trim s)) := by
  refine ofText_part fun read reading => ?_
  rw [← compact_trim] at counts
  obtain ⟨c, tail, first, sign⟩ := Comparator.begins_of_token mem
  have front : compact (Text.trim s) = c :: (tail ++ cs) := by
    rw [counts, first]
    rfl
  obtain ⟨range, equal⟩ := of_sign front sign
  simp only [readings, List.mem_cons, List.not_mem_nil, or_false] at reading
  rcases reading with rfl | rfl | rfl | rfl
  · exact null?_of_begins front (by rintro rfl; exact absurd sign (by decide))
  · unfold comparison?
    rw [counts, Comparator.scan?_token mem next]
    simp only [scan, Option.map_none]
  · exact range
  · exact equal

/-- A number with a dash behind it is at most a range, and that only between literals. -/
theorem ofText_dash_part {s : String} {cs r : List Char} {v : Binary64}
    (number : Binary64.finiteChars? cs = some v) (counts : compact s = cs ++ '-' :: r)
    (other : ¬∃ (l m : Decimal.Literal) (rest : List Char), cs = l.chars ∧ m.Leads r rest) :
    ofText s = .part (Text.lower (Text.trim s)) := by
  refine ofText_part fun read reading => ?_
  rw [← compact_trim] at counts
  obtain ⟨n, numeral, -⟩ := Binary64.exists_numeral number
  obtain ⟨c, tail, begins, kind⟩ := Decimal.begins_of_ofText? numeral
  have front : compact (Text.trim s) = c :: (tail ++ '-' :: r) := by
    rw [counts, begins]
    rfl
  simp only [readings, List.mem_cons, List.not_mem_nil, or_false] at reading
  rcases reading with rfl | rfl | rfl | rfl
  · refine null?_of_begins front ?_
    rintro rfl
    exact absurd kind (by decide)
  · refine comparison?_of_begins front fun sign => ?_
    obtain ⟨minus, plus, point, -, digit⟩ := Comparator.begins_no_number sign
    simp [minus, plus, point, digit] at kind
  · cases range : range? (Text.trim s) with
    | none => rfl
    | some q =>
        obtain ⟨l, m, x, rest, split, leads⟩ := exists_of_range? range
        obtain ⟨literal, rfl⟩ := literal_of_dash number (counts.symm.trans split)
        exact absurd ⟨l, m, rest, literal, leads⟩ other
  · unfold equal?
    rw [counts, Binary64.finiteChars?_append_dash number]
    rfl

/-! ## Numbers beside literals -/

/-- How a text that writes the number `v` reads behind the token of a comparator. -/
structure BehindToken (t : String) (v : Binary64) : Prop where
  /-- The literal at its start counts. -/
  literal : ∀ (l : Decimal.Literal) (rest : List Char), l.Leads (compact t) rest →
    ∀ token ∈ Comparator.tokens, ofText (token.1 ++ t) = .compare token.2 l.toBinary64
  /-- That is the number itself, unless an exponent follows. -/
  same : ∀ (l : Decimal.Literal) (rest : List Char), l.Leads (compact t) rest →
    rest = [] ∨ rest = ['.'] → l.toBinary64 = v
  /-- A number with a plus or a point in front is not compared with. -/
  part : (∀ (l : Decimal.Literal) (rest : List Char), ¬l.Leads (compact t) rest) →
    (∃ r, compact t = '+' :: r ∨ compact t = '.' :: r ∨ compact t = '-' :: '.' :: r) ∧
      ∀ token ∈ Comparator.tokens,
        ofText (token.1 ++ t) = .part (Text.lower (Text.trim (token.1 ++ t)))

/-- How a text that writes the number `v` reads with a dash and another number behind it. -/
structure BeforeDash (t u : String) (v : Binary64) : Prop where
  /-- It must be a literal; of the other number the literal at its start counts. -/
  range : ∀ (l m : Decimal.Literal) (rest : List Char), compact t = l.chars →
    m.Leads (compact u) rest →
      ofText (t ++ "-" ++ u) = .range (v.min m.toBinary64) (v.max m.toBinary64)
  /-- Otherwise there is no range. -/
  part : (¬∃ (l m : Decimal.Literal) (rest : List Char),
      compact t = l.chars ∧ m.Leads (compact u) rest) →
    ofText (t ++ "-" ++ u) = .part (Text.lower (Text.trim (t ++ "-" ++ u)))

variable {t u : String} {v w : Binary64}

theorem number_of_equal? (number : equal? t = some (.exact v)) :
    Binary64.finiteChars? (compact t) = some v := by
  obtain ⟨x, read, same⟩ := Option.map_eq_some_iff.mp number
  rw [read, NumberQuery.exact.inj same]

theorem compact_behind_token {token : String × Comparator} (mem : token ∈ Comparator.tokens)
    (t : String) : compact (token.1 ++ t) = token.1.toList ++ compact t := by
  rw [compact_append, compact_token mem]

theorem compact_dash (t u : String) : compact (t ++ "-" ++ u) = compact t ++ '-' :: compact u := by
  rw [compact_append, compact_append, show compact "-" = ['-'] by decide +kernel, List.append_assoc]
  rfl

theorem behindToken (number : equal? t = some (.exact v)) : BehindToken t v := by
  obtain ⟨n, numeral, value⟩ := Binary64.exists_numeral (number_of_equal? number)
  constructor
  case literal =>
    intro l rest leads token mem
    exact ofText_comparison mem (compact_behind_token mem t)
      (Decimal.scan?_eq_some_iff.mpr ⟨l, leads, rfl⟩)
  case same =>
    intro l rest leads bare
    rw [← value, leads.eq_of_numeral numeral bare]
    rfl
  case part =>
    intro other
    obtain ⟨r, begins⟩ := Decimal.begins_of_no_literal numeral other
    refine ⟨⟨r, begins⟩, fun token mem => ?_⟩
    refine ofText_token_part mem (compact_behind_token mem t) ?_ (Decimal.scan?_eq_none other)
    intro s same
    rw [same] at begins
    rcases begins with plus | point | minus
    · cases plus
    · cases point
    · cases minus

theorem beforeDash (first : equal? t = some (.exact v)) : BeforeDash t u v := by
  have number := number_of_equal? first
  constructor
  case range =>
    intro l m rest literal leads
    have value : v = l.toBinary64 := by
      obtain ⟨n, numeral, rfl⟩ := Binary64.exists_numeral number
      rw [literal, l.ofText?_chars] at numeral
      rw [← Option.some.inj numeral]
      rfl
    have counts : compact (t ++ "-" ++ u) = l.chars ++ '-' :: compact u := by
      rw [compact_dash, literal]
    rw [value]
    exact ofText_range counts (l.stops_dash _).scan?
      (Decimal.scan?_eq_some_iff.mpr ⟨m, leads, rfl⟩)
  case part => exact fun other => ofText_dash_part number (compact_dash t u) other

/-- **Behind tokens and around dashes numbers count as far as they are literals.** -/
theorem number_beside_literal (first : equal? t = some (.exact v))
    (second : equal? u = some (.exact w)) :
    BehindToken t v ∧ BehindToken u w ∧ BeforeDash t u v :=
  ⟨behindToken first, behindToken second, beforeDash first⟩

/-! ## Poles -/

/-- An exponent counts in a bare number, and neither behind a token nor before a dash. -/
theorem exponent_lost :
    equal? "1e3" = some (.exact (.ofNat 1000)) ∧ equal? "2000" = some (.exact (.ofNat 2000)) ∧
      ofText ">1e3" = .compare .greater (.ofNat 1) ∧
      ofText ">1e3" ≠ .compare .greater (.ofNat 1000) ∧
      ofText "1e3-2000" = .part "1e3-2000" := by
  decide +kernel

/-- An exponent, blanks and a bare point. -/
theorem number_beside_literal_spelt :
    equal? " 1E 3" = some (.exact (.ofNat 1000)) ∧ equal? "-2." = some (.exact (.neg (.ofNat 2))) ∧
      BehindToken " 1E 3" (.ofNat 1000) ∧ BehindToken "-2." (.neg (.ofNat 2)) ∧
      BeforeDash " 1E 3" "-2." (.ofNat 1000) := by
  have first : equal? " 1E 3" = some (.exact (.ofNat 1000)) := by decide +kernel
  have second : equal? "-2." = some (.exact (.neg (.ofNat 2))) := by decide +kernel
  exact ⟨first, second, number_beside_literal first second⟩

end NumberQuery

end Leaderboard
