/-
# Leaderboard.Number.Binary64 — double precision numbers, exactly

A magnitude is known by its place among all magnitudes: `steps` counts the representable
magnitudes below it, and the place `top` after the last finite one is infinity. Every finite
magnitude is a whole number of units of 2^-1074 (`units`), so order is the order of places and all
arithmetic is on natural numbers. `nearest` rounds a quotient of naturals to the nearest place, a
tie to the even one.

Main statements: `lt_iff_place`, `le_iff_place` and `same_iff` (between numbers, order and equality
are those of the signed places) and `nearest_le_top` (rounding never passes infinity).
-/
set_option autoImplicit false

namespace Leaderboard

namespace Binary64

/-- Mantissas below this are subnormal; it is also the number of places in a binade. -/
def binade : Nat := Nat.pow 2 52

/-- The place of infinity. -/
def top : Nat := 2047 * binade

/-- The number of units in one. -/
def unitsPerOne : Nat := Nat.pow 2 1074

/-- The size of the magnitude at a place, in units of 2^-1074. -/
def units (steps : Nat) : Nat :=
  if steps < binade then steps else (binade + steps % binade) * Nat.pow 2 (steps / binade - 1)

/-- The place of the magnitude nearest to `num / den`; of two nearest the one with the even
mantissa. Beyond the largest finite magnitude this is infinity. -/
def nearest (num den : Nat) : Nat :=
  let scaled := num * unitsPerOne
  let whole := scaled / den
  let shift := Nat.log2 whole - 52
  let mantissa := whole / Nat.pow 2 shift
  let twiceRest := 2 * (scaled - mantissa * (Nat.pow 2 shift * den))
  let carry := if twiceRest > Nat.pow 2 shift * den then 1
    else if twiceRest = Nat.pow 2 shift * den then mantissa % 2 else 0
  min top (shift * binade + mantissa + carry)

theorem nearest_le_top (num den : Nat) : nearest num den ≤ top := Nat.min_le_left _ _

/-- A mantissa has at most 53 binary digits. -/
theorem mantissa_lt (whole : Nat) :
    whole / Nat.pow 2 (whole.log2 - 52) < Nat.pow 2 53 := by
  rw [Nat.pow_eq, Nat.pow_eq, Nat.div_lt_iff_lt_mul (Nat.two_pow_pos _), ← Nat.pow_add]
  calc whole < Nat.pow 2 (whole.log2 + 1) := Nat.lt_log2_self
    _ ≤ Nat.pow 2 (53 + (whole.log2 - 52)) := Nat.pow_le_pow_right (by decide) (by omega)

/-- A rounded quotient lies in the binade of its whole part, or at the start of the next. -/
theorem nearest_le (num den : Nat) :
    nearest num den ≤ ((num * unitsPerOne / den).log2 - 52) * binade + Nat.pow 2 53 := by
  have carry : ∀ a b m : Nat, (if a > b then 1 else if a = b then m % 2 else 0) ≤ 1 := by
    intro a b m
    split
    · exact Nat.le_refl 1
    · split <;> omega
  unfold nearest
  refine Nat.le_trans (Nat.min_le_right _ _) ?_
  rw [Nat.add_assoc]
  exact Nat.add_le_add_left
    (Nat.le_trans (Nat.add_le_add_left (carry _ _ _) _) (mantissa_lt _)) _

theorem log2_mul_lt {n : Nat} (h : n < Nat.pow 2 64) (k : Nat) :
    (n * Nat.pow 2 k).log2 < 64 + k := by
  by_cases zero : n * Nat.pow 2 k = 0
  · rw [zero, Nat.log2_zero]
    omega
  · rw [Nat.log2_lt zero, Nat.pow_add]
    exact Nat.mul_lt_mul_of_pos_right h (Nat.two_pow_pos k)

/-- Whole numbers of 64 bits are far below infinity. -/
theorem nearest_lt_top {n : Nat} (h : n < Nat.pow 2 64) : nearest n 1 < top := by
  have order : (n * unitsPerOne).log2 < 64 + 1074 := by
    unfold unitsPerOne
    apply log2_mul_lt h
  have bound := nearest_le n 1
  have size : binade = 4503599627370496 := by decide
  have twice : Nat.pow 2 53 = 9007199254740992 := by decide
  rw [Nat.div_one, size, twice] at bound
  rw [top, size]
  generalize (n * unitsPerOne).log2 = order at *
  omega

end Binary64

/-- A double precision number: a sign and the place of a magnitude, or no number at all. -/
inductive Binary64 where
  | number (negative : Bool) (steps : Nat) (bounded : steps ≤ Binary64.top)
  | nan
deriving DecidableEq

namespace Binary64

def zero : Binary64 := .number false 0 (Nat.zero_le _)

instance : Inhabited Binary64 := ⟨zero⟩

/-- The number with a sign that is nearest to `num / den`. -/
def ofRatio (negative : Bool) (num den : Nat) : Binary64 :=
  .number negative (nearest num den) (nearest_le_top num den)

/-- The nearest number to a natural number. -/
def ofNat (n : Nat) : Binary64 := ofRatio false n 1

def infinite (negative : Bool) : Binary64 := .number negative top (Nat.le_refl _)

def neg : Binary64 → Binary64
  | .number negative steps bounded => .number (!negative) steps bounded
  | .nan => .nan

def isNan : Binary64 → Bool
  | .nan => true
  | .number .. => false

def isFinite : Binary64 → Bool
  | .nan => false
  | .number _ steps _ => steps < top

/-- The place with its sign. Both zeros are at place zero. -/
def place? : Binary64 → Option Int
  | .nan => none
  | .number negative steps _ => some (if negative then -(steps : Int) else steps)

/-- The order of two numbers; none when one of them is not a number. -/
def compare? (a b : Binary64) : Option Ordering :=
  match a.place?, b.place? with
  | some i, some j => some (compare i j)
  | _, _ => none

def lt (a b : Binary64) : Bool := a.compare? b == some .lt

def le (a b : Binary64) : Bool := a.compare? b == some .lt || a.compare? b == some .eq

/-- Equality of values: the two zeros are the same, and what is not a number is not the same as
itself. -/
def same (a b : Binary64) : Bool := a.compare? b == some .eq

/-- The smaller of two numbers, the first when they are the same. -/
def min (a b : Binary64) : Binary64 := if a.isNan || b.lt a then b else a

/-- The larger of two numbers, the first when they are the same. -/
def max (a b : Binary64) : Binary64 := if a.isNan || a.lt b then b else a

/-- Whether a number is finite and whole. -/
def isWhole : Binary64 → Bool
  | .nan => false
  | .number _ steps _ => steps < top && units steps % unitsPerOne == 0

/-- The nearest whole number, halves away from zero. -/
def round : Binary64 → Binary64
  | .nan => .nan
  | .number negative steps bounded =>
    if steps < top then
      ofRatio negative ((2 * units steps + unitsPerOne) / (2 * unitsPerOne)) 1
    else .number negative steps bounded

/-- The whole part, kept between zero and `limit`. -/
def toNatUpTo (limit : Nat) : Binary64 → Nat
  | .number false steps _ =>
    if steps < top then Nat.min limit (units steps / unitsPerOne) else limit
  | _ => 0

/-- The place of the product of two finite magnitudes. -/
def productSteps (a b : Nat) : Nat :=
  nearest (units a * units b) (unitsPerOne * unitsPerOne)

/-- The place of the quotient of two finite magnitudes. -/
def quotientSteps (a b : Nat) : Nat := nearest (units a) (units b)

/-! ## Finite numbers -/

@[simp] theorem isFinite_neg (x : Binary64) : x.neg.isFinite = x.isFinite := by
  cases x <;> rfl

theorem isFinite_ofNat {n : Nat} (h : n < Nat.pow 2 64) : (ofNat n).isFinite = true := by
  unfold ofNat ofRatio isFinite
  exact decide_eq_true (nearest_lt_top h)

/-! ## Order is the order of signed places -/

/-- The place of a number with its sign; what is no number counts as zero. -/
def place (x : Binary64) : Int := x.place?.getD 0

theorem place?_eq {x : Binary64} (h : x.isNan = false) : x.place? = some x.place := by
  cases x with
  | nan => cases h
  | number => rfl

theorem compare?_eq {a b : Binary64} (ha : a.isNan = false) (hb : b.isNan = false) :
    a.compare? b = some (compare a.place b.place) := by
  rw [compare?, place?_eq ha, place?_eq hb]

theorem lt_eq {a b : Binary64} (ha : a.isNan = false) (hb : b.isNan = false) :
    a.lt b = decide (a.place < b.place) := by
  rw [lt, compare?_eq ha hb, Bool.eq_iff_iff, beq_iff_eq, Option.some.injEq, Int.compare_eq_lt,
    decide_eq_true_iff]

theorem lt_iff_place {a b : Binary64} (ha : a.isNan = false) (hb : b.isNan = false) :
    a.lt b = true ↔ a.place < b.place := by
  rw [lt_eq ha hb, decide_eq_true_iff]

theorem le_iff_place {a b : Binary64} (ha : a.isNan = false) (hb : b.isNan = false) :
    a.le b = true ↔ a.place ≤ b.place := by
  have le : a.le b = (a.compare? b == some .lt || a.compare? b == some .eq) := rfl
  rw [le, compare?_eq ha hb]
  simp only [Bool.or_eq_true, beq_iff_eq, Option.some.injEq, Int.compare_eq_lt, Int.compare_eq_eq]
  omega

theorem same_eq {a b : Binary64} (ha : a.isNan = false) (hb : b.isNan = false) :
    a.same b = decide (a.place = b.place) := by
  rw [same, compare?_eq ha hb, Bool.eq_iff_iff, beq_iff_eq, Option.some.injEq, Int.compare_eq_eq,
    decide_eq_true_iff]

theorem same_iff (a b : Binary64) :
    a.same b = true ↔ ∃ i, a.place? = some i ∧ b.place? = some i := by
  cases ha : a.place? with
  | none => simp [same, compare?, ha]
  | some i =>
    cases hb : b.place? with
    | none => simp [same, compare?, ha, hb]
    | some j => simpa [same, compare?, ha, hb] using eq_comm

end Binary64

end Leaderboard
