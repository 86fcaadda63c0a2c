/-
# Leaderboard.Proofs.NumberText — a finite number is written by a literal of its own value

The text of a finite number is an optional minus, digits, and an optional point with digits after
it, and it reads back as the same number, sign of zero included.

What is read depends on the *quotient* that a numeral stands for and on nothing else
(`Binary64.nearest_mul`, `Decimal.steps_eq_nearest`: the powers of ten that are not computed change
no answer). So zeros may be dropped from the end of the digits (`steps_stripZeros`). The search for
the fewest digits accepts only what reads back; where it finds nothing all digits are written, and
they stand for the number exactly (`steps_exactDigits`).

* `exists_literal`: the text of a finite number is a literal of its own value.
-/
import Leaderboard.Number.Literal
import Leaderboard.Number.Text

set_option autoImplicit false

namespace Leaderboard

namespace Binary64

/-! ## Rounding a quotient -/

/-- The power of two that counts the units in one, which is not to be computed. -/
theorem unitsPerOne_eq : ∃ k, k = 1074 ∧ unitsPerOne = Nat.pow 2 k := by
  unfold unitsPerOne
  generalize 1074 = k
  exact ⟨k, rfl, rfl⟩

theorem unitsPerOne_pos : 0 < unitsPerOne := by
  obtain ⟨k, -, one⟩ := unitsPerOne_eq
  rw [one]
  exact Nat.two_pow_pos k

/-- The nearest magnitude to a quotient is the same however the quotient is written. -/
theorem nearest_mul {num den k : Nat} (pos : 0 < k) :
    nearest (num * k) (den * k) = nearest num den := by
  have scaled : num * k * unitsPerOne = num * unitsPerOne * k := Nat.mul_right_comm _ _ _
  have whole : num * unitsPerOne * k / (den * k) = num * unitsPerOne / den :=
    Nat.mul_div_mul_right _ _ pos
  unfold nearest
  dsimp only
  rw [scaled, whole]
  generalize num * unitsPerOne = s
  generalize s / den = n
  generalize Nat.pow 2 (n.log2 - 52) = p
  generalize n / p = m
  have step : p * (den * k) = p * den * k := (Nat.mul_assoc p den k).symm
  have rest : 2 * (s * k - m * (p * (den * k))) = 2 * (s - m * (p * den)) * k := by
    rw [step, ← Nat.mul_assoc m, ← Nat.sub_mul, Nat.mul_assoc 2]
  rw [rest, step]
  simp only [gt_iff_lt, Nat.mul_lt_mul_right pos, Nat.mul_left_inj (Nat.ne_of_gt pos)]

theorem nearest_eq_top {num den : Nat} (large : 2099 ≤ (num * unitsPerOne / den).log2) :
    nearest num den = top := by
  unfold nearest
  apply Nat.min_eq_left
  have binades : top ≤ ((num * unitsPerOne / den).log2 - 52) * binade :=
    Nat.mul_le_mul_right binade (by omega)
  exact Nat.le_trans binades (by rw [Nat.add_assoc]; exact Nat.le_add_right _ _)

theorem nearest_eq_zero {num den : Nat} (small : 2 * (num * unitsPerOne) < den) :
    nearest num den = 0 := by
  have whole : num * unitsPerOne / den = 0 := Nat.div_eq_of_lt (by omega)
  have below : ¬2 * (num * unitsPerOne) > den := by omega
  have apart : ¬2 * (num * unitsPerOne) = den := by omega
  unfold nearest
  dsimp only
  rw [whole]
  simp [below, apart]

/-- The mantissa and the shift of a finite magnitude are read off its place. -/
theorem units_eq (place : Nat) : ∃ mantissa,
    units place = mantissa * Nat.pow 2 ((units place).log2 - 52) ∧
      ((units place).log2 - 52) * binade + mantissa = place := by
  by_cases subnormal : place < binade
  · have size : units place = place := if_pos subnormal
    have shift : place.log2 - 52 = 0 := by
      by_cases zero : place = 0
      · rw [zero, Nat.log2_zero]
      · have order : place.log2 < 52 := (Nat.log2_lt zero).mpr subnormal
        omega
    exact ⟨place, by rw [size, shift]; exact (Nat.mul_one place).symm,
      by rw [size, shift, Nat.zero_mul, Nat.zero_add]⟩
  · have size : units place =
        (binade + place % binade) * Nat.pow 2 (place / binade - 1) := if_neg subnormal
    have positive : 0 < binade := by decide
    have rest := Nat.mod_lt place positive
    have whole := Nat.div_add_mod place binade
    have binades : 1 ≤ place / binade := (Nat.one_le_div_iff positive).mpr (by omega)
    generalize place / binade = q at *
    generalize place % binade = r at *
    have order : (units place).log2 = 52 + (q - 1) := by
      have pos := Nat.two_pow_pos (q - 1)
      have low : Nat.pow 2 52 ≤ binade + r := Nat.le_add_right _ _
      have high : binade + r < Nat.pow 2 53 := by
        have twice : Nat.pow 2 53 = binade + binade := by decide
        omega
      rw [size]
      simp only [Nat.pow_eq] at low high ⊢
      have nonzero : (binade + r) * 2 ^ (q - 1) ≠ 0 := Nat.ne_of_gt (Nat.mul_pos (by omega) pos)
      rw [Nat.log2_eq_iff nonzero]
      constructor
      · rw [Nat.pow_add]
        exact Nat.mul_le_mul_right _ low
      · rw [Nat.add_right_comm, Nat.pow_add]
        exact Nat.mul_lt_mul_of_pos_right high pos
    refine ⟨binade + r, ?_, ?_⟩
    · rw [order, Nat.add_sub_cancel_left]
      exact size
    · rw [order, Nat.add_sub_cancel_left, Nat.mul_comm, ← Nat.add_assoc, ← Nat.mul_add_one,
        Nat.sub_add_cancel binades]
      exact whole

/-- What is a magnitude need not be rounded. -/
theorem nearest_units {place : Nat} (bounded : place ≤ top) :
    nearest (units place) unitsPerOne = place := by
  obtain ⟨mantissa, size, whole⟩ := units_eq place
  unfold nearest
  dsimp only
  rw [Nat.mul_div_cancel _ unitsPerOne_pos]
  generalize (units place).log2 - 52 = shift at *
  have pos : 0 < Nat.pow 2 shift := Nat.two_pow_pos shift
  have quotient : units place / Nat.pow 2 shift = mantissa := by
    rw [size, Nat.mul_div_cancel _ pos]
  have rest : 2 * (units place * unitsPerOne - mantissa * (Nat.pow 2 shift * unitsPerOne)) = 0 := by
    rw [size, Nat.mul_assoc, Nat.sub_self]
  have step : 0 < Nat.pow 2 shift * unitsPerOne := Nat.mul_pos pos unitsPerOne_pos
  rw [quotient, rest, if_neg (Nat.not_lt_zero _), if_neg (Nat.ne_of_lt step), Nat.add_zero, whole]
  exact Nat.min_eq_right bounded

end Binary64

namespace Decimal

/-! ## What numerals stand for -/

theorem two_pow_le_ten_pow (n : Nat) : Nat.pow 2 (3 * n) ≤ Nat.pow 10 n :=
  calc Nat.pow 2 (3 * n) = Nat.pow 8 n := Nat.pow_mul 2 3 n
    _ ≤ Nat.pow 10 n := Nat.pow_le_pow_left (by decide) n

/-- A numeral with a large power of ten is beyond the largest finite magnitude. -/
theorem nearest_of_large {digits n : Nat} (pos : 0 < digits) (large : 400 < n) :
    Binary64.nearest (digits * Nat.pow 10 n) 1 = Binary64.top := by
  obtain ⟨k, order, one⟩ := Binary64.unitsPerOne_eq
  have bound : Nat.pow 2 (3 * n + k) ≤ digits * Nat.pow 10 n * Nat.pow 2 k := by
    rw [Nat.pow_eq, Nat.pow_add]
    apply Nat.mul_le_mul_right
    exact Nat.le_trans (two_pow_le_ten_pow n) (Nat.le_mul_of_pos_left _ pos)
  have nonzero : digits * Nat.pow 10 n * Nat.pow 2 k ≠ 0 :=
    Nat.ne_of_gt (Nat.lt_of_lt_of_le (Nat.two_pow_pos _) bound)
  have log := (Nat.le_log2 nonzero).mpr bound
  apply Binary64.nearest_eq_top
  rw [Nat.div_one, one]
  omega

/-- A numeral far below one has no magnitude but zero near it. -/
theorem nearest_of_small {digits n : Nat} (small : digits.log2 + 400 < n) :
    Binary64.nearest digits (Nat.pow 10 n) = 0 := by
  obtain ⟨k, order, one⟩ := Binary64.unitsPerOne_eq
  apply Binary64.nearest_eq_zero
  rw [one]
  calc 2 * (digits * Nat.pow 2 k) = digits * Nat.pow 2 (k + 1) := by
        rw [Nat.mul_left_comm, Nat.pow_eq, Nat.pow_eq, ← Nat.pow_succ']
    _ < Nat.pow 2 (digits.log2 + 1) * Nat.pow 2 (k + 1) :=
      Nat.mul_lt_mul_of_pos_right Nat.lt_log2_self (Nat.two_pow_pos _)
    _ = Nat.pow 2 (digits.log2 + 1 + (k + 1)) := (Nat.pow_add 2 _ _).symm
    _ ≤ Nat.pow 2 (3 * n) := Nat.pow_le_pow_right (by decide) (by omega)
    _ ≤ Nat.pow 10 n := two_pow_le_ten_pow n

/-- A numeral is rounded as the quotient that it stands for: the powers of ten that are not computed
would give infinity and zero. -/
theorem steps_eq_nearest (digits : Nat) (exponent : Int) : steps digits exponent =
    Binary64.nearest (digits * Nat.pow 10 exponent.toNat) (Nat.pow 10 (-exponent).toNat) := by
  unfold steps
  simp only [Nat.pow_eq]
  split
  · rename_i zero
    rw [zero, Nat.zero_mul, Binary64.nearest_eq_zero]
    rw [Nat.zero_mul]
    exact Nat.pow_pos (by decide)
  rename_i nonzero
  split
  · rename_i large
    rw [show (-exponent).toNat = 0 by omega, Nat.pow_zero]
    exact (nearest_of_large (Nat.pos_of_ne_zero nonzero) (by omega)).symm
  split
  · rename_i small
    rw [show exponent.toNat = 0 by omega, Nat.pow_zero, Nat.mul_one]
    exact (nearest_of_small (by omega)).symm
  split
  · rw [show (-exponent).toNat = 0 by omega, Nat.pow_zero]
  · rw [show exponent.toNat = 0 by omega, Nat.pow_zero, Nat.mul_one]

/-- A zero at the end of the digits counts as much as one in the power of ten. -/
theorem steps_ten (digits : Nat) (exponent : Int) :
    steps (digits * 10) exponent = steps digits (exponent + 1) := by
  rw [steps_eq_nearest, steps_eq_nearest]
  simp only [Nat.pow_eq]
  by_cases whole : 0 ≤ exponent
  · rw [show (exponent + 1).toNat = exponent.toNat + 1 by omega,
      show (-exponent).toNat = 0 by omega, show (-(exponent + 1)).toNat = 0 by omega]
    rw [Nat.pow_succ', Nat.mul_assoc]
  · rw [show (exponent + 1).toNat = 0 by omega, show exponent.toNat = 0 by omega,
      show (-exponent).toNat = (-(exponent + 1)).toNat + 1 by omega]
    rw [Nat.pow_zero, Nat.mul_one, Nat.mul_one, Nat.pow_succ]
    exact Binary64.nearest_mul (by decide)

theorem steps_stripZeros (limit digits : Nat) (exponent : Int) :
    steps (stripZeros limit digits exponent).1 (stripZeros limit digits exponent).2 =
      steps digits exponent := by
  fun_induction stripZeros limit digits exponent with
  | case1 => rfl
  | case2 limit digits exponent zero ih =>
      have whole : digits / 10 * 10 = digits := by omega
      rw [ih, ← steps_ten, whole]
  | case3 => rfl

end Decimal

namespace Binary64

/-! ## The shortest digits -/

/-- All digits of a magnitude stand for it exactly. -/
theorem steps_exactDigits {place : Nat} (bounded : place ≤ top) :
    Decimal.steps (exactDigits place).1 (exactDigits place).2 = place := by
  obtain ⟨k, order, one⟩ := unitsPerOne_eq
  have parts : 10 ^ k = unitsPerOne * 5 ^ k := by
    rw [one]
    exact Nat.mul_pow 2 5 k
  unfold exactDigits
  dsimp only
  rw [Decimal.steps_eq_nearest, show (-1074 : Int).toNat = 0 by decide,
    show (- -1074 : Int).toNat = 1074 by decide, ← order]
  simp only [Nat.pow_eq]
  rw [Nat.pow_zero, Nat.mul_one, parts, nearest_mul (Nat.pow_pos (by decide))]
  exact nearest_units bounded

/-- A search that accepts what reads back finds what reads back, and so do all digits. -/
theorem steps_found {place : Nat} (bounded : place ≤ top) {candidates : List Nat}
    {search : Nat → Option (Nat × Int)}
    (accepts : ∀ i pair, search i = some pair → Decimal.steps pair.1 pair.2 = place) :
    Decimal.steps ((candidates.findSome? search).getD (exactDigits place)).1
      ((candidates.findSome? search).getD (exactDigits place)).2 = place := by
  cases found : candidates.findSome? search with
  | none =>
      rw [Option.getD_none]
      exact steps_exactDigits bounded
  | some pair =>
      obtain ⟨i, -, candidate⟩ := List.exists_of_findSome?_eq_some found
      rw [Option.getD_some]
      exact accepts i pair candidate

theorem steps_stripped {limit place : Nat} {pair : Nat × Int}
    (reads : Decimal.steps pair.1 pair.2 = place) :
    Decimal.steps
      (match pair with | (digits, exponent) => Decimal.stripZeros limit digits exponent).1
      (match pair with | (digits, exponent) => Decimal.stripZeros limit digits exponent).2 =
    place := by
  obtain ⟨digits, exponent⟩ := pair
  exact (Decimal.steps_stripZeros limit digits exponent).trans reads

/-- The candidates, the search and the limit become variables here: left as they are, they would be
computed when a proof is checked. -/
theorem shortest_eq (tie : Tie) {place : Nat} (nonzero : place ≠ 0) :
    ∃ (candidates : List Nat) (search : Nat → Option (Nat × Int)) (limit : Nat),
      (∀ i, i ∈ candidates ↔ i < 17) ∧
      (∀ i, search i = (candidate? tie place (decimalOrder place - i)).map
        fun digits => (digits, decimalOrder place - i)) ∧
      shortest tie place =
        match (candidates.findSome? search).getD (exactDigits place) with
        | (digits, exponent) => Decimal.stripZeros limit digits exponent :=
  ⟨List.range 17, _, 1100, fun _ => List.mem_range, fun _ => rfl, if_neg nonzero⟩

/-- The shortest digits of a finite magnitude read back as it. -/
theorem steps_shortest (tie : Tie) {place : Nat} (bounded : place ≤ top) :
    Decimal.steps (shortest tie place).1 (shortest tie place).2 = place := by
  by_cases zero : place = 0
  · rw [shortest, if_pos zero]
    exact zero.symm
  · obtain ⟨candidates, search, limit, -, here, same⟩ := shortest_eq tie zero
    rw [same]
    apply steps_stripped
    apply steps_found bounded
    intro i pair found
    rw [here] at found
    obtain ⟨digits, accepted, rfl⟩ := Option.map_eq_some_iff.mp found
    exact candidate?_reads accepted

end Binary64

/-! ## Positional writing -/

namespace Decimal

theorem isDigit_of_mem_toDigits {n : Nat} {c : Char} (mem : c ∈ Nat.toDigits 10 n) :
    c.isDigit = true :=
  Nat.isDigit_of_mem_toDigits (by decide) (by decide) mem

theorem length_padded {width n : Nat} (pos : 0 < width) (fits : n < Nat.pow 10 width) :
    (padded width n).length = width := by
  have short := (Nat.length_toDigits_le_iff (b := 10) (by decide) pos).mpr fits
  unfold padded
  simp
  omega

theorem isDigit_of_mem_padded {width n : Nat} {c : Char} (mem : c ∈ padded width n) :
    c.isDigit = true := by
  rcases List.mem_append.mp mem with zero | digit
  · rw [(List.mem_replicate.mp zero).2]
    decide
  · exact isDigit_of_mem_toDigits digit

theorem ofDigits_padded (width n : Nat) : ofDigits (padded width n) = n := by
  unfold ofDigits padded
  rw [Nat.ofDigitChars_append, Nat.ofDigitChars_replicate_zero, Nat.mul_zero,
    Nat.ofDigitChars_ten_toDigits]

theorem ofDigits_append (cs ds : List Char) :
    ofDigits (cs ++ ds) = Nat.pow 10 ds.length * ofDigits cs + ofDigits ds := by
  unfold ofDigits
  rw [Nat.ofDigitChars_append, Nat.ofDigitChars_eq_ofDigitChars_zero]
  rfl

theorem ofDigits_toDigits (n : Nat) : ofDigits (Nat.toDigits 10 n) = n :=
  Nat.ofDigitChars_ten_toDigits

namespace Literal

/-- A whole number as a literal. -/
def ofWhole (negative : Bool) (n : Nat) : Literal where
  negative
  whole := Nat.toDigits 10 n
  fraction := []
  whole_ne := Nat.toDigits_ne_nil
  whole_digits _ := isDigit_of_mem_toDigits
  fraction_digits _ := nofun

/-- A number with places behind the point as a literal. -/
def ofPlaces (negative : Bool) (places n : Nat) : Literal where
  negative
  whole := Nat.toDigits 10 (n / Nat.pow 10 places)
  fraction := padded places (n % Nat.pow 10 places)
  whole_ne := Nat.toDigits_ne_nil
  whole_digits _ := isDigit_of_mem_toDigits
  fraction_digits _ := isDigit_of_mem_padded

theorem unsignedChars_ofWhole (negative : Bool) (n : Nat) :
    (ofWhole negative n).unsignedChars = Nat.toDigits 10 n :=
  List.append_nil _

theorem value_ofWhole (negative : Bool) (n : Nat) :
    (ofWhole negative n).value = ⟨negative, n, 0⟩ := by
  have digits : ofDigits (Nat.toDigits 10 n ++ []) = n := by
    rw [List.append_nil, ofDigits_toDigits]
  unfold value ofWhole
  dsimp only
  rw [digits]
  rfl

variable {places : Nat} (pos : 0 < places)
include pos

theorem length_fraction_ofPlaces (negative : Bool) (n : Nat) :
    (ofPlaces negative places n).fraction.length = places :=
  length_padded pos (Nat.mod_lt n (Nat.pow_pos (by decide)))

theorem unsignedChars_ofPlaces (negative : Bool) (n : Nat) :
    (ofPlaces negative places n).unsignedChars = Nat.toDigits 10 (n / Nat.pow 10 places) ++
      '.' :: padded places (n % Nat.pow 10 places) := by
  have length := length_fraction_ofPlaces pos negative n
  unfold unsignedChars
  cases written : (ofPlaces negative places n).fraction with
  | nil =>
      rw [written, List.length_nil] at length
      omega
  | cons c r =>
      have digits : padded places (n % Nat.pow 10 places) = c :: r := written
      rw [digits]
      rfl

theorem value_ofPlaces (negative : Bool) (n : Nat) :
    (ofPlaces negative places n).value = ⟨negative, n, -(places : Int)⟩ := by
  have length := length_fraction_ofPlaces pos negative n
  have digits : ofDigits (Nat.toDigits 10 (n / Nat.pow 10 places) ++
      padded places (n % Nat.pow 10 places)) = n := by
    rw [ofDigits_append, ofDigits_toDigits, ofDigits_padded,
      show (padded places (n % Nat.pow 10 places)).length = places from length]
    exact Nat.div_add_mod n (Nat.pow 10 places)
  unfold value
  rw [length]
  unfold ofPlaces
  dsimp only
  rw [digits]

end Literal

/-- A numeral without an exponent is a literal of the same value. Behind its point stand some of
the digits. -/
theorem exists_literal_positional (d : Decimal) :
    ∃ l : Literal, d.positional = l.chars ∧ l.toBinary64 = d.toBinary64 ∧
      ofDigits l.fraction ≤ d.digits := by
  obtain ⟨negative, digits, exponent⟩ := d
  unfold positional positionalUnsigned
  by_cases whole : 0 ≤ exponent
  · refine ⟨.ofWhole negative (digits * Nat.pow 10 exponent.toNat), ?_, ?_, Nat.zero_le _⟩
    · rw [Literal.chars, Literal.unsignedChars_ofWhole, if_pos whole]
      rfl
    · have same : steps (digits * Nat.pow 10 exponent.toNat) 0 = steps digits exponent := by
        rw [steps_eq_nearest, steps_eq_nearest, show (-exponent).toNat = 0 by omega]
        congr 1
        exact Nat.mul_one _
      unfold Literal.toBinary64 toBinary64
      rw [Literal.value_ofWhole]
      simp only [same]
  · have pos : 0 < (-exponent).toNat := by omega
    have power : -((-exponent).toNat : Int) = exponent := by omega
    refine ⟨.ofPlaces negative (-exponent).toNat digits, ?_, ?_, ?_⟩
    · rw [Literal.chars, Literal.unsignedChars_ofPlaces pos, if_neg whole]
      rfl
    · unfold Literal.toBinary64
      rw [Literal.value_ofPlaces pos, power]
    · exact Nat.le_trans (Nat.le_of_eq (ofDigits_padded _ _)) (Nat.mod_le _ _)

end Decimal

/-- The shortest digits of a finite number make a literal of its own value. -/
theorem Binary64.exists_literal_shortest (negative : Bool) {place : Nat} (bounded : place ≤ top)
    (below : place < top) :
    ∃ l : Decimal.Literal, (number negative place bounded).chars = l.chars ∧
      l.toBinary64 = number negative place bounded ∧
      Decimal.ofDigits l.fraction ≤ (shortest .up place).1 := by
  have reads := steps_shortest .up bounded
  obtain ⟨l, written, value, digits⟩ := Decimal.exists_literal_positional
    ⟨negative, (shortest .up place).1, (shortest .up place).2⟩
  refine ⟨l, ?_, ?_, digits⟩
  · rw [← written]
    exact if_pos below
  · rw [value]
    unfold Decimal.toBinary64
    simp only [reads]

/-- **The text of a finite number is a literal of its own value, with its sign.** -/
theorem Binary64.exists_literal {x : Binary64} (finite : x.isFinite = true) :
    ∃ l : Decimal.Literal, x.chars = l.chars ∧ l.toBinary64 = x := by
  cases x with
  | nan => cases finite
  | number negative place bounded =>
      have below : place < top := by simpa [isFinite] using finite
      obtain ⟨l, written, value, -⟩ := exists_literal_shortest negative bounded below
      exact ⟨l, written, value⟩

end Leaderboard
