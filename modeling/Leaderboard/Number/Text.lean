/-
# Leaderboard.Number.Text — reading and writing double precision numbers

`Binary64.ofText?` reads a decimal numeral or a word for infinity or for no number.
`Binary64.shortest` gives the fewest decimal digits that read back as the same magnitude and, of
those, the nearest; `Binary64.text` writes them positionally. `Binary64.fixed` writes a set number
of places, a half going to the even neighbour.

Main statement: `candidate?_reads` (what the search for digits accepts reads back as the
magnitude).
-/
import Leaderboard.Number.Decimal

set_option autoImplicit false

namespace Leaderboard.Binary64

/-! ## Reading -/

/-- The words for values that no numeral writes, in any case of letters. -/
def ofWord? (negative : Bool) (cs : List Char) : Option Binary64 :=
  let word := cs.map Char.toLower
  if word = "inf".toList ∨ word = "infinity".toList then some (infinite negative)
  else if word = "nan".toList then some .nan
  else none

/-- The number that the characters of a text write. -/
def ofChars? (cs : List Char) : Option Binary64 :=
  match Decimal.ofText? cs with
  | some d => some d.toBinary64
  | none =>
    match cs with
    | '-' :: r => ofWord? true r
    | '+' :: r => ofWord? false r
    | r => ofWord? false r

/-- The number that a text writes: a numeral, infinity or no number. -/
def ofText? (s : String) : Option Binary64 := ofChars? s.toList

/-- The finite number that the characters of a text write. -/
def finiteChars? (cs : List Char) : Option Binary64 := (ofChars? cs).filter isFinite

/-- The finite number that a text writes. -/
def finite? (s : String) : Option Binary64 := finiteChars? s.toList

/-! ## Writing -/

/-- Where a value goes that lies halfway between two decimals. -/
inductive Tie where
  | up
  | even
deriving DecidableEq

def Tie.choose (tie : Tie) (below : Nat) : Nat :=
  match tie with
  | .up => below + 1
  | .even => below + below % 2

/-- The power of ten of the first digit of a magnitude. -/
def decimalOrder (place : Nat) : Int :=
  ((Nat.toDigits 10 (units place * Nat.pow 10 400 / unitsPerOne)).length : Int) - 401

/-- The multiple of ten to the power `exponent` that lies nearest to a magnitude, among its two
neighbours that read back as the magnitude. -/
def candidate? (tie : Tie) (place : Nat) (exponent : Int) : Option Nat :=
  let num := if 0 ≤ exponent then units place else units place * Nat.pow 10 (-exponent).toNat
  let den := if 0 ≤ exponent then unitsPerOne * Nat.pow 10 exponent.toNat else unitsPerOne
  let below := num / den
  let rest := num % den
  let readsBelow := Decimal.steps below exponent == place
  let readsAbove := Decimal.steps (below + 1) exponent == place
  match readsBelow, readsAbove with
  | true, true =>
    if 2 * rest < den then some below
    else if 2 * rest = den then some (tie.choose below)
    else some (below + 1)
  | true, false => some below
  | false, true => some (below + 1)
  | false, false => none

/-- All digits of a finite magnitude: a unit of 2^-1074 is 5^1074 units of 10^-1074. -/
def exactDigits (place : Nat) : Nat × Int := (units place * Nat.pow 5 1074, -1074)

/-- The fewest digits that read back as a finite magnitude, with their power of ten. Zero has the
digit zero. -/
def shortest (tie : Tie) (place : Nat) : Nat × Int :=
  if place = 0 then (0, 0) else
  let order := decimalOrder place
  let found := (List.range 17).findSome? fun (i : Nat) =>
    (candidate? tie place (order - i)).map fun digits => (digits, order - i)
  let (digits, exponent) := found.getD (exactDigits place)
  Decimal.stripZeros 1100 digits exponent

/-- The shortest numeral of a finite number, written positionally; `NaN`, `inf` and `-inf` for the
others. -/
def chars : Binary64 → List Char
  | .nan => "NaN".toList
  | .number negative place _ =>
    if place < top then
      let (digits, exponent) := shortest .up place
      Decimal.positional ⟨negative, digits, exponent⟩
    else Decimal.signed negative "inf".toList

def text (x : Binary64) : String := String.ofList x.chars

/-- The multiple of `10 ^ -places` nearest to a magnitude, a half going to the even neighbour. -/
def roundPlaces (places steps : Nat) : Nat :=
  let num := units steps * Nat.pow 10 places
  let below := num / unitsPerOne
  let rest := num % unitsPerOne
  if 2 * rest < unitsPerOne then below
  else if 2 * rest = unitsPerOne then Tie.even.choose below
  else below + 1

/-- A finite number with a set number of places; `NaN`, `inf` and `-inf` for the others. -/
def fixedChars (places : Nat) : Binary64 → List Char
  | .nan => "NaN".toList
  | .number negative steps _ =>
    if steps < top then
      Decimal.positional ⟨negative, roundPlaces places steps, -(places : Int)⟩
    else Decimal.signed negative "inf".toList

def fixed (places : Nat) (x : Binary64) : String := String.ofList (x.fixedChars places)

/-! ## Lemmas -/

theorem candidate?_reads {tie : Tie} {place digits : Nat} {exponent : Int}
    (h : candidate? tie place exponent = some digits) : Decimal.steps digits exponent = place := by
  unfold candidate? at h
  dsimp only at h
  generalize (if 0 ≤ exponent then units place
    else units place * Nat.pow 10 (-exponent).toNat) = num at h
  generalize (if 0 ≤ exponent then unitsPerOne * Nat.pow 10 exponent.toNat
    else unitsPerOne) = den at h
  have choose_mem : ∀ below, tie.choose below = below ∨ tie.choose below = below + 1 := by
    intro below
    cases tie with
    | up => exact .inr rfl
    | even => simp only [Tie.choose]; omega
  split at h
  · rename_i low high
    rw [beq_iff_eq] at low high
    split at h
    · simp only [Option.some.injEq] at h; rw [← h, low]
    split at h
    · simp only [Option.some.injEq] at h
      rcases choose_mem (num / den) with e | e <;> rw [← h, e]
      · exact low
      · exact high
    · simp only [Option.some.injEq] at h; rw [← h, high]
  · rename_i low _
    rw [beq_iff_eq] at low
    simp only [Option.some.injEq] at h; rw [← h, low]
  · rename_i _ high
    rw [beq_iff_eq] at high
    simp only [Option.some.injEq] at h; rw [← h, high]
  · cases h

end Leaderboard.Binary64
