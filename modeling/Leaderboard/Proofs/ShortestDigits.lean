/-
# Leaderboard.Proofs.ShortestDigits — seventeen digits are enough for every finite number

Rounding a quotient keeps the order of quotients (`Binary64.nearest_mono`), and what lies closer to
a magnitude than half of the step to the next one is rounded to it. Below the first magnitude of a
binade the step is half as wide (`nearest_of_close`).

Seventeen decimal digits make a grid that is finer than this: a magnitude is at least 10^16 steps of
the grid, and less than 2^53 of its own steps (`grid_finer`). So the nearer of the two neighbours on
the grid reads back, the search for the fewest digits ends at seventeen at the latest
(`candidate?_isSome`), and the digits of a number never exceed 10^17.

* `nearest_mono`: the larger of two quotients is rounded to the larger magnitude.
* `shortest_le`: the digits of a finite magnitude are at most 10^17.
-/
import Leaderboard.Proofs.NumberText
import Mathlib.Tactic.Linarith
import Mathlib.Tactic.Ring

set_option autoImplicit false

namespace Leaderboard.Binary64

/-! ## Rounding keeps the order -/

/-- One more place for more than half a step, or for half a step behind an odd mantissa. -/
def carry (twiceRest step mantissa : Nat) : Nat :=
  if twiceRest > step then 1 else if twiceRest = step then mantissa % 2 else 0

theorem carry_le (twiceRest step mantissa : Nat) : carry twiceRest step mantissa ≤ 1 := by
  unfold carry
  split
  · exact Nat.le_refl 1
  · split <;> omega

/-- The larger part of a step has the larger carry. -/
theorem carry_mono {rest step rest' step' : Nat} (pos : 0 < step) (pos' : 0 < step')
    (le : rest * step' ≤ rest' * step) (mantissa : Nat) :
    carry rest step mantissa ≤ carry rest' step' mantissa := by
  unfold carry
  rcases Nat.lt_trichotomy rest step with less | rfl | more
  · rw [if_neg (by omega), if_neg (by omega)]
    exact Nat.zero_le _
  · have level : step' ≤ rest' := by nlinarith
    rw [if_neg (Nat.lt_irrefl _), if_pos rfl]
    rcases Nat.lt_or_eq_of_le level with exceeds | rfl
    · rw [if_pos exceeds]
      omega
    · rw [if_neg (Nat.lt_irrefl _), if_pos rfl]
  · have strict := Nat.mul_lt_mul_of_pos_right more pos'
    have exceeds : step' < rest' := by nlinarith
    rw [if_pos more, if_pos exceeds]

/-- The place of a quotient whose whole part in units has the given mantissa and shift. -/
def roundedPlace (scaled den shift mantissa : Nat) : Nat :=
  Nat.min top (shift * binade + mantissa +
    carry (2 * (scaled - mantissa * (Nat.pow 2 shift * den))) (Nat.pow 2 shift * den) mantissa)

section Rounding

variable {num den num' den' : Nat}

theorem nearest_eq (num den : Nat) : nearest num den =
    roundedPlace (num * unitsPerOne) den ((num * unitsPerOne / den).log2 - 52)
      (num * unitsPerOne / den / Nat.pow 2 ((num * unitsPerOne / den).log2 - 52)) := rfl

/-- Behind the first binade a mantissa has all its digits. -/
theorem binade_le_mantissa {whole : Nat} (normal : whole.log2 - 52 ≠ 0) :
    binade ≤ whole / Nat.pow 2 (whole.log2 - 52) := by
  have nonzero : whole ≠ 0 := by
    rintro rfl
    simp at normal
  have low := Nat.log2_self_le nonzero
  simp only [binade, Nat.pow_eq] at *
  rw [Nat.le_div_iff_mul_le (Nat.two_pow_pos _), ← Nat.pow_add]
  rwa [show 52 + (whole.log2 - 52) = whole.log2 by omega]

theorem log2_mono {a b : Nat} (le : a ≤ b) : a.log2 ≤ b.log2 := by
  by_cases zero : a = 0
  · simp [zero]
  · have low := Nat.log2_self_le zero
    exact (Nat.le_log2 (by omega)).mpr (by omega)

theorem roundedPlace_le (scaled den shift mantissa : Nat) :
    roundedPlace scaled den shift mantissa ≤ shift * binade + mantissa + 1 :=
  Nat.le_trans (Nat.min_le_right _ _) (Nat.add_le_add_left (carry_le _ _ _) _)

theorem le_roundedPlace {place shift mantissa : Nat} (bounded : place ≤ top)
    (le : place ≤ shift * binade + mantissa) (scaled den : Nat) :
    place ≤ roundedPlace scaled den shift mantissa :=
  Nat.le_min.mpr ⟨bounded, Nat.le_trans le (Nat.le_add_right _ _)⟩

/-- Behind the same mantissa the rests decide. -/
theorem roundedPlace_mono {s s' shift mantissa : Nat} (pos : 0 < den) (pos' : 0 < den')
    (le : s * den' ≤ s' * den) (reached : mantissa * (Nat.pow 2 shift * den) ≤ s)
    (reached' : mantissa * (Nat.pow 2 shift * den') ≤ s') :
    roundedPlace s den shift mantissa ≤ roundedPlace s' den' shift mantissa := by
  have step := Nat.mul_pos (Nat.two_pow_pos shift) pos
  have step' := Nat.mul_pos (Nat.two_pow_pos shift) pos'
  refine Nat.le_min.mpr ⟨Nat.min_le_left _ _, Nat.le_trans (Nat.min_le_right _ _) ?_⟩
  apply Nat.add_le_add_left
  apply carry_mono step step'
  obtain ⟨rest, rfl⟩ := Nat.exists_eq_add_of_le reached
  obtain ⟨rest', rfl⟩ := Nat.exists_eq_add_of_le reached'
  simp only [Nat.add_sub_cancel_left, Nat.pow_eq] at *
  generalize 2 ^ shift = p at *
  have rests : rest * den' ≤ rest' * den := by nlinarith
  nlinarith

theorem mantissa_mul_le (scaled den shift : Nat) :
    scaled / den / Nat.pow 2 shift * (Nat.pow 2 shift * den) ≤ scaled := by
  rw [← Nat.mul_assoc]
  exact Nat.le_trans (Nat.mul_le_mul_right _ (Nat.div_mul_le_self _ _)) (Nat.div_mul_le_self _ _)

theorem div_le_div_of_mul_le {s s' : Nat} (pos : 0 < den) (pos' : 0 < den')
    (le : s * den' ≤ s' * den) : s / den ≤ s' / den' := by
  rw [Nat.le_div_iff_mul_le pos']
  apply Nat.le_of_mul_le_mul_right _ pos
  calc s / den * den' * den = s / den * den * den' := Nat.mul_right_comm _ _ _
    _ ≤ s * den' := Nat.mul_le_mul_right _ (Nat.div_mul_le_self s den)
    _ ≤ s' * den := le

/-- **The larger of two quotients is rounded to the larger magnitude.** -/
theorem nearest_mono (pos : 0 < den) (pos' : 0 < den') (le : num * den' ≤ num' * den) :
    nearest num den ≤ nearest num' den' := by
  have scaled : num * unitsPerOne * den' ≤ num' * unitsPerOne * den := by
    rw [Nat.mul_right_comm num, Nat.mul_right_comm num']
    exact Nat.mul_le_mul_right _ le
  have bounded := nearest_le_top num den
  have bound := nearest_le num den
  rw [nearest_eq num' den']
  rw [nearest_eq] at bounded bound ⊢
  generalize num * unitsPerOne = s at *
  generalize num' * unitsPerOne = s' at *
  have whole := div_le_div_of_mul_le pos pos' scaled
  have order := Nat.sub_le_sub_right (log2_mono whole) 52
  rcases Nat.lt_or_eq_of_le order with shorter | same
  · -- A later binade begins where the earlier ends.
    apply le_roundedPlace bounded
    apply Nat.le_trans bound
    have full : binade ≤ s' / den' / Nat.pow 2 ((s' / den').log2 - 52) :=
      binade_le_mantissa (by omega)
    have next := Nat.mul_le_mul_right binade (Nat.succ_le_of_lt shorter)
    have two : Nat.pow 2 53 = binade + binade := by decide
    rw [Nat.succ_mul] at next
    omega
  · rw [same]
    have mantissas := Nat.div_le_div_right (c := Nat.pow 2 ((s' / den').log2 - 52)) whole
    rcases Nat.lt_or_eq_of_le mantissas with smaller | level
    · apply le_roundedPlace (Nat.min_le_left _ _)
      apply Nat.le_trans (roundedPlace_le _ _ _ _)
      omega
    · have reached := mantissa_mul_le s den ((s' / den').log2 - 52)
      rw [level] at reached ⊢
      exact roundedPlace_mono pos pos' scaled reached (mantissa_mul_le _ _ _)

end Rounding

/-! ## What is close to a magnitude -/

section Close

variable {num den shift mantissa : Nat}

/-- The mantissa and the shift of a quotient are known from the step that it lies in. -/
theorem nearest_of_step (pos : 0 < den) (small : mantissa < Nat.pow 2 53)
    (normal : shift = 0 ∨ binade ≤ mantissa)
    (low : mantissa * (Nat.pow 2 shift * den) ≤ num * unitsPerOne)
    (high : num * unitsPerOne < (mantissa + 1) * (Nat.pow 2 shift * den)) :
    nearest num den = roundedPlace (num * unitsPerOne) den shift mantissa := by
  have step := Nat.two_pow_pos shift
  have reached : mantissa * Nat.pow 2 shift ≤ num * unitsPerOne / den := by
    rw [Nat.le_div_iff_mul_le pos, Nat.mul_assoc]
    exact low
  have before : num * unitsPerOne / den < (mantissa + 1) * Nat.pow 2 shift := by
    rw [Nat.div_lt_iff_lt_mul pos, Nat.mul_assoc]
    exact high
  rw [nearest_eq]
  generalize num * unitsPerOne / den = whole at *
  have digits : whole / Nat.pow 2 shift = mantissa :=
    Nat.div_eq_of_lt_le (by simpa using reached) (by simpa using before)
  have order : whole.log2 - 52 = shift := by
    rcases normal with rfl | normal
    · have short : whole < 2 ^ 53 := by
        simp only [Nat.pow_eq, Nat.pow_zero, Nat.mul_one] at *
        omega
      by_cases zero : whole = 0
      · simp [zero]
      · have := (Nat.log2_lt zero).mpr short
        omega
    · have low' : 2 ^ (52 + shift) ≤ whole := by
        rw [Nat.pow_add]
        exact Nat.le_trans (Nat.mul_le_mul_right _ normal) reached
      have high' : whole < 2 ^ (52 + shift + 1) := by
        rw [Nat.add_right_comm, Nat.pow_add]
        exact Nat.lt_of_lt_of_le before (Nat.mul_le_mul_right _ small)
      have nonzero : whole ≠ 0 := by
        have := Nat.two_pow_pos (52 + shift)
        omega
      rw [(Nat.log2_eq_iff nonzero).mpr ⟨low', high'⟩]
      omega
  rw [order, digits]

/-- A quotient less than half a step above a magnitude is rounded to it. -/
theorem nearest_of_above (pos : 0 < den) (small : mantissa < Nat.pow 2 53)
    (normal : shift = 0 ∨ binade ≤ mantissa)
    (low : mantissa * (Nat.pow 2 shift * den) ≤ num * unitsPerOne)
    (close : 2 * (num * unitsPerOne - mantissa * (Nat.pow 2 shift * den)) < Nat.pow 2 shift * den) :
    nearest num den = Nat.min top (shift * binade + mantissa) := by
  have high : num * unitsPerOne < (mantissa + 1) * (Nat.pow 2 shift * den) := by
    rw [Nat.succ_mul]
    omega
  rw [nearest_of_step pos small normal low high, roundedPlace, carry, if_neg (by omega),
    if_neg (by omega), Nat.add_zero]

/-- A quotient less than half a step below a magnitude is rounded to it. -/
theorem nearest_of_below (pos : 0 < den) (small : mantissa < Nat.pow 2 53)
    (normal : shift = 0 ∨ binade ≤ mantissa)
    (high : num * unitsPerOne < (mantissa + 1) * (Nat.pow 2 shift * den))
    (close : 2 * ((mantissa + 1) * (Nat.pow 2 shift * den) - num * unitsPerOne) <
      Nat.pow 2 shift * den) :
    nearest num den = Nat.min top (shift * binade + mantissa + 1) := by
  have next : (mantissa + 1) * (Nat.pow 2 shift * den) =
      mantissa * (Nat.pow 2 shift * den) + Nat.pow 2 shift * den := Nat.add_one_mul _ _
  have low : mantissa * (Nat.pow 2 shift * den) ≤ num * unitsPerOne := by omega
  rw [nearest_of_step pos small normal low high, roundedPlace, carry, if_pos (by omega)]

end Close

/-! ## Seventeen digits -/

/-- A place in the terms of its mantissa and shift. -/
structure Parts (place mantissa shift : Nat) : Prop where
  size : units place = mantissa * Nat.pow 2 shift
  whole : shift * binade + mantissa = place
  small : mantissa < Nat.pow 2 53
  normal : shift = 0 ∨ binade ≤ mantissa

theorem exists_parts (place : Nat) : ∃ mantissa shift, Parts place mantissa shift := by
  obtain ⟨mantissa, size, whole⟩ := units_eq place
  have pos : 0 < Nat.pow 2 ((units place).log2 - 52) := Nat.two_pow_pos _
  have digits : units place / Nat.pow 2 ((units place).log2 - 52) = mantissa :=
    Nat.div_eq_of_eq_mul_left pos size
  refine ⟨mantissa, (units place).log2 - 52, size, whole, ?_, ?_⟩
  · rw [← digits]
    exact mantissa_lt _
  · by_cases zero : (units place).log2 - 52 = 0
    · exact .inl zero
    · rw [← digits]
      exact .inr (binade_le_mantissa zero)

/-- A quotient is rounded to a magnitude if it is closer to it than a quarter of the step, or than
half of the step and the mantissa is not the first of its binade. -/
theorem nearest_of_close {place mantissa shift num den : Nat} (error : Nat)
    (parts : Parts place mantissa shift) (bounded : place ≤ top) (pos : 0 < den)
    (positive : 0 < mantissa)
    (near : num * unitsPerOne = mantissa * (Nat.pow 2 shift * den) + error ∨
      num * unitsPerOne + error = mantissa * (Nat.pow 2 shift * den))
    (half : 2 * error < Nat.pow 2 shift * den)
    (quarter : mantissa = binade → 4 * error < Nat.pow 2 shift * den) :
    nearest num den = place := by
  obtain ⟨-, whole, small, normal⟩ := parts
  have placed : Nat.min top (shift * binade + mantissa) = place := by
    rw [whole]
    exact Nat.min_eq_right bounded
  by_cases above : mantissa * (Nat.pow 2 shift * den) ≤ num * unitsPerOne
  · rw [nearest_of_above pos small normal above (by omega), placed]
  have below : num * unitsPerOne + error = mantissa * (Nat.pow 2 shift * den) := by omega
  obtain ⟨before, rfl⟩ := Nat.exists_eq_add_one.mpr positive
  by_cases first : shift = 0 ∨ binade ≤ before
  · rw [nearest_of_below pos (by omega) first (by omega) (by omega), Nat.add_assoc, placed]
  · -- The step below the first mantissa of a binade is that of the binade before.
    obtain ⟨k, rfl⟩ : ∃ k, shift = k + 1 := Nat.exists_eq_succ_of_ne_zero (by omega)
    have start : before + 1 = binade := by omega
    have two : Nat.pow 2 53 = binade + binade := by decide
    have step : Nat.pow 2 (k + 1) * den = Nat.pow 2 k * den + Nat.pow 2 k * den := by
      simp only [Nat.pow_eq, Nat.pow_succ]
      ring
    have twice : (2 * binade - 1 + 1) * (Nat.pow 2 k * den) =
        (before + 1) * (Nat.pow 2 (k + 1) * den) := by
      rw [step, start, show 2 * binade - 1 + 1 = binade + binade by omega]
      ring
    have same : k * binade + (2 * binade - 1) + 1 = (k + 1) * binade + (before + 1) := by
      have next : (k + 1) * binade = k * binade + binade := Nat.add_one_mul _ _
      omega
    have close := quarter start
    have last : 2 * binade - 1 < Nat.pow 2 53 := by omega
    have near : 2 * ((2 * binade - 1 + 1) * (Nat.pow 2 k * den) - num * unitsPerOne) <
        Nat.pow 2 k * den := by omega
    rw [nearest_of_below pos last (.inr (by omega)) (by omega) near, same, placed]

/-- Of the two neighbours of a magnitude on a grid the nearer one is rounded to it, if the step of
the grid is smaller than the step between magnitudes and, at the first mantissa of a binade, smaller
than half of it. The magnitude is `units place * fine` and the step of the grid `coarse` units, both
`fine` times finer than units. -/
theorem nearest_of_grid {place mantissa shift fine coarse : Nat}
    (parts : Parts place mantissa shift) (bounded : place ≤ top) (positive : 0 < mantissa)
    (pos : 0 < fine) {step : Nat} (grid : step = coarse * unitsPerOne) (posStep : 0 < step)
    (finer : step < Nat.pow 2 shift * fine)
    (twice : mantissa = binade → 2 * step < Nat.pow 2 shift * fine) :
    nearest (units place * fine / step * coarse) fine = place ∨
      nearest ((units place * fine / step + 1) * coarse) fine = place := by
  have size : units place * fine = mantissa * (Nat.pow 2 shift * fine) := by
    rw [parts.size, Nat.mul_assoc]
  have split := Nat.div_add_mod' (units place * fine) step
  have rest := Nat.mod_lt (units place * fine) posStep
  rw [size] at *
  generalize mantissa * (Nat.pow 2 shift * fine) / step = below at *
  generalize mantissa * (Nat.pow 2 shift * fine) % step = error at *
  have scaled : ∀ digits, digits * coarse * unitsPerOne = digits * step := by
    intro digits
    rw [grid, Nat.mul_assoc]
  by_cases nearer : 2 * error ≤ step
  · left
    refine nearest_of_close error parts bounded pos positive (.inr ?_) ?_ ?_
    · rw [scaled]
      exact split
    · omega
    · intro first
      have := twice first
      omega
  · right
    refine nearest_of_close (step - error) parts bounded pos positive (.inl ?_) ?_ ?_
    · rw [scaled, Nat.add_one_mul]
      omega
    · omega
    · intro first
      have := twice first
      omega

/-- The search on one grid looks at the two neighbours of a magnitude and finds one of them, unless
neither reads back. -/
theorem candidate?_spec (tie : Tie) {place : Nat} {exponent : Int} {below : Nat}
    (floor : units place * Nat.pow 10 (-exponent).toNat /
      (unitsPerOne * Nat.pow 10 exponent.toNat) = below) :
    (Decimal.steps below exponent = place ∨ Decimal.steps (below + 1) exponent = place →
      (candidate? tie place exponent).isSome = true) ∧
    ∀ digits, candidate? tie place exponent = some digits → digits ≤ below + 1 := by
  have magnitude : (if 0 ≤ exponent then units place
      else units place * Nat.pow 10 (-exponent).toNat) =
        units place * Nat.pow 10 (-exponent).toNat := by
    split
    · rw [show (-exponent).toNat = 0 by omega, Nat.pow_eq, Nat.pow_zero, Nat.mul_one]
    · rfl
  have grid : (if 0 ≤ exponent then unitsPerOne * Nat.pow 10 exponent.toNat else unitsPerOne) =
      unitsPerOne * Nat.pow 10 exponent.toNat := by
    split
    · rfl
    · rw [show exponent.toNat = 0 by omega, Nat.pow_eq, Nat.pow_zero, Nat.mul_one]
  have choose : tie.choose below ≤ below + 1 := by
    cases tie with
    | up => exact Nat.le_refl _
    | even =>
        have odd := Nat.mod_lt below (show 0 < 2 by decide)
        exact Nat.add_le_add_left (Nat.le_of_lt_succ odd) below
  unfold candidate?
  dsimp only
  rw [magnitude, grid, floor]
  cases low : Decimal.steps below exponent == place <;>
    cases high : Decimal.steps (below + 1) exponent == place
  case false.false => simp_all
  case true.true =>
    dsimp only
    split
    · simp
    · split
      · simpa using choose
      · simp
  all_goals simp

theorem unitsPerOne_le : ∃ scale, scale = 400 ∧ unitsPerOne ≤ Nat.pow 10 scale := by
  obtain ⟨k, order, one⟩ := unitsPerOne_eq
  obtain ⟨scale, large⟩ : ∃ scale, scale = 400 := ⟨400, rfl⟩
  refine ⟨scale, large, ?_⟩
  rw [one]
  calc Nat.pow 2 k ≤ Nat.pow 2 (3 * scale) := Nat.pow_le_pow_right (by decide) (by omega)
    _ ≤ Nat.pow 10 scale := Decimal.two_pow_le_ten_pow scale

/-- The digits of a positive number are bounded by powers of ten. -/
theorem length_toDigits_bounds {n : Nat} (positive : 0 < n) :
    ∃ before, (Nat.toDigits 10 n).length = before + 1 ∧
      Nat.pow 10 before ≤ n ∧ n < Nat.pow 10 (before + 1) := by
  have some : (Nat.toDigits 10 n).length ≠ 0 := by
    rw [ne_eq, List.length_eq_zero_iff]
    exact Nat.toDigits_ne_nil
  obtain ⟨before, length⟩ := Nat.exists_eq_succ_of_ne_zero some
  have digits : ∀ {k}, 0 < k → ((Nat.toDigits 10 n).length ≤ k ↔ n < 10 ^ k) :=
    Nat.length_toDigits_le_iff (by decide)
  refine ⟨before, length, ?_, (digits (Nat.succ_pos before)).mp (by omega)⟩
  rcases Nat.eq_zero_or_pos before with rfl | some
  · exact positive
  · exact Nat.le_of_not_lt fun less => absurd ((digits some).mpr less) (by omega)

/-- The order of a magnitude is the power of ten of its first digit. -/
theorem decimalOrder_bounds {place : Nat} (nonzero : units place ≠ 0) :
    ∃ first scale : Nat, decimalOrder place = (first : Int) - scale ∧
      unitsPerOne * Nat.pow 10 first ≤ units place * Nat.pow 10 scale ∧
      units place * Nat.pow 10 scale < unitsPerOne * Nat.pow 10 (first + 1) := by
  have one := unitsPerOne_pos
  obtain ⟨scale, large, le⟩ := unitsPerOne_le
  have positive : 0 < units place * Nat.pow 10 scale / unitsPerOne :=
    Nat.div_pos (Nat.le_trans le (Nat.le_mul_of_pos_left _ (by omega))) one
  obtain ⟨first, length, low, high⟩ := length_toDigits_bounds positive
  refine ⟨first, scale, ?_, ?_, ?_⟩
  · unfold decimalOrder
    rw [← large, length]
    omega
  · rw [Nat.mul_comm]
    exact (Nat.le_div_iff_mul_le one).mp low
  · rw [Nat.mul_comm unitsPerOne]
    exact (Nat.div_lt_iff_lt_mul one).mp high

/-- A magnitude over the unit of the grid that gives it `i` digits behind the first: more than
`10 ^ i` and less than ten times as much. -/
theorem grid_bounds {place : Nat} (nonzero : units place ≠ 0) {i : Nat} {exponent : Int}
    (order : exponent = decimalOrder place - i) :
    Nat.pow 10 i * (unitsPerOne * Nat.pow 10 exponent.toNat) ≤
        units place * Nat.pow 10 (-exponent).toNat ∧
      units place * Nat.pow 10 (-exponent).toNat <
        Nat.pow 10 (i + 1) * (unitsPerOne * Nat.pow 10 exponent.toNat) := by
  obtain ⟨first, scale, placed, low, high⟩ := decimalOrder_bounds nonzero
  have powers : first + (-exponent).toNat = scale + i + exponent.toNat := by omega
  generalize (-exponent).toNat = behind at *
  generalize exponent.toNat = before at *
  generalize units place = u at *
  generalize unitsPerOne = one at *
  have pos : 0 < 10 ^ scale := Nat.pow_pos (by decide)
  simp only [Nat.pow_eq] at *
  have shifted : one * 10 ^ first * 10 ^ behind = 10 ^ scale * (10 ^ i * (one * 10 ^ before)) := by
    rw [Nat.mul_assoc, ← Nat.pow_add, powers, Nat.pow_add, Nat.pow_add]
    ring
  constructor
  · apply Nat.le_of_mul_le_mul_left _ pos
    rw [← shifted]
    calc one * 10 ^ first * 10 ^ behind ≤ u * 10 ^ scale * 10 ^ behind :=
          Nat.mul_le_mul_right _ low
      _ = 10 ^ scale * (u * 10 ^ behind) := by ring
  · apply Nat.lt_of_mul_lt_mul_left (a := 10 ^ scale)
    calc 10 ^ scale * (u * 10 ^ behind) = u * 10 ^ scale * 10 ^ behind := by ring
      _ < one * 10 ^ (first + 1) * 10 ^ behind :=
          Nat.mul_lt_mul_of_pos_right high (Nat.pow_pos (by decide))
      _ = 10 * (one * 10 ^ first * 10 ^ behind) := by ring
      _ = 10 ^ scale * (10 ^ (i + 1) * (one * 10 ^ before)) := by
          rw [shifted]
          ring

theorem Parts.positive {place mantissa shift : Nat} (parts : Parts place mantissa shift)
    (nonzero : place ≠ 0) : 0 < mantissa := by
  obtain ⟨-, whole, -, normal⟩ := parts
  have binade_pos : 0 < binade := Nat.two_pow_pos 52
  rcases normal with rfl | normal <;> omega

/-- The grid of seventeen digits is finer than the steps between magnitudes, and twice as fine as
those behind the first mantissa of a binade. -/
theorem grid_finer {mantissa step grid : Nat} (pos : 0 < step) (small : mantissa < Nat.pow 2 53)
    (coarse : Nat.pow 10 16 * grid ≤ mantissa * step) :
    grid < step ∧ (mantissa = binade → 2 * grid < step) := by
  have ten : Nat.pow 10 16 = 10000000000000000 := by decide
  have digits : Nat.pow 2 53 = 9007199254740992 := by decide
  have first : binade = 4503599627370496 := by decide
  rw [ten] at coarse
  constructor
  · have bound : mantissa * step ≤ 9007199254740992 * step := Nat.mul_le_mul_right _ (by omega)
    omega
  · rintro rfl
    rw [first] at coarse
    omega

theorem units_ne_zero {place : Nat} (nonzero : place ≠ 0) : units place ≠ 0 := by
  obtain ⟨mantissa, shift, parts⟩ := exists_parts place
  rw [parts.size]
  exact Nat.ne_of_gt (Nat.mul_pos (parts.positive nonzero) (Nat.two_pow_pos shift))

section Search

variable (tie : Tie) {place : Nat}

/-- **Seventeen digits are enough**: the search finds some that read back. -/
theorem candidate?_isSome (nonzero : place ≠ 0) (bounded : place ≤ top) :
    (candidate? tie place (decimalOrder place - (16 : Nat))).isSome = true := by
  obtain ⟨mantissa, shift, parts⟩ := exists_parts place
  have positive := parts.positive nonzero
  have coarse := (grid_bounds (units_ne_zero nonzero) (i := 16) rfl).1
  generalize decimalOrder place - (16 : Nat) = exponent at *
  apply (candidate?_spec tie rfl).1
  simp only [Decimal.steps_eq_nearest]
  have fine : 0 < Nat.pow 10 (-exponent).toNat := Nat.pow_pos (by decide)
  have grid : 0 < unitsPerOne * Nat.pow 10 exponent.toNat :=
    Nat.mul_pos unitsPerOne_pos (Nat.pow_pos (by decide))
  rw [parts.size, Nat.mul_assoc] at coarse
  obtain ⟨finer, twice⟩ :=
    grid_finer (Nat.mul_pos (Nat.two_pow_pos shift) fine) parts.small coarse
  exact nearest_of_grid parts bounded positive fine (Nat.mul_comm _ _) grid finer twice

theorem stripZeros_le (limit digits : Nat) (exponent : Int) :
    (Decimal.stripZeros limit digits exponent).1 ≤ digits := by
  fun_induction Decimal.stripZeros limit digits exponent with
  | case1 => exact Nat.le_refl _
  | case2 limit digits exponent zero ih => omega
  | case3 => exact Nat.le_refl _

/-- The shortest digits are found on a grid of at most seventeen digits. -/
theorem exists_shortest (nonzero : place ≠ 0) (bounded : place ≤ top) :
    ∃ i digits, i < 17 ∧ candidate? tie place (decimalOrder place - (i : Nat)) = some digits ∧
      (shortest tie place).1 ≤ digits := by
  obtain ⟨candidates, search, limit, mem_candidates, here, whole⟩ :=
    shortest_eq tie nonzero
  cases found : candidates.findSome? search with
  | none =>
      have missed := List.findSome?_eq_none_iff.mp found 16 ((mem_candidates 16).mpr (by decide))
      have seventeen := candidate?_isSome tie nonzero bounded
      rw [here, Option.map_eq_none_iff] at missed
      rw [missed] at seventeen
      cases seventeen
  | some pair =>
      obtain ⟨i, mem, accepted⟩ := List.exists_of_findSome?_eq_some found
      rw [here] at accepted
      obtain ⟨digits, candidate, rfl⟩ := Option.map_eq_some_iff.mp accepted
      refine ⟨i, digits, (mem_candidates i).mp mem, candidate, ?_⟩
      rw [whole, found, Option.getD_some]
      exact stripZeros_le limit digits _

/-- **The digits of a finite magnitude are at most 10^17.** -/
theorem shortest_le (bounded : place ≤ top) : (shortest tie place).1 ≤ Nat.pow 10 17 := by
  by_cases nonzero : place = 0
  · rw [shortest, if_pos nonzero]
    exact Nat.zero_le _
  obtain ⟨i, digits, few, candidate, le⟩ := exists_shortest tie nonzero bounded
  have neighbour := (candidate?_spec tie rfl).2 digits candidate
  have bound := (grid_bounds (units_ne_zero nonzero) (i := i) rfl).2
  have grid : 0 < unitsPerOne * Nat.pow 10 (decimalOrder place - (i : Nat)).toNat :=
    Nat.mul_pos unitsPerOne_pos (Nat.pow_pos (by decide))
  rw [← Nat.div_lt_iff_lt_mul grid] at bound
  have width : Nat.pow 10 (i + 1) ≤ Nat.pow 10 17 := Nat.pow_le_pow_right (by decide) few
  omega

end Search

end Leaderboard.Binary64
