/-
# Leaderboard.Number.Decimal — decimal numerals

A numeral is a sign, a natural number of digits and a power of ten. This module reads numerals
from text (`ofText?` a whole text with an optional exponent, `scan?` the longest `-?d+(.d+)?` at
the start of a text), rounds them to double precision (`toBinary64`) and writes them positionally
without an exponent (`positional`).

Main statements: `takeDigits_append` and `scanFraction_append` (splitting off the digits of either
part loses nothing).
-/
import Leaderboard.Number.Binary64

set_option autoImplicit false

namespace Leaderboard

/-- Plus or minus `digits` times ten to the power `exponent`. -/
structure Decimal where
  negative : Bool
  digits : Nat
  exponent : Int
deriving DecidableEq, Repr

namespace Decimal

/-- The place of the magnitude nearest to `digits` times ten to the power `exponent`. Powers so
large or small that the answer is infinity or zero are not computed. -/
def steps (digits : Nat) (exponent : Int) : Nat :=
  if digits = 0 then 0
  else if exponent > 400 then Binary64.top
  else if exponent + Nat.log2 digits < -400 then 0
  else if 0 ≤ exponent then Binary64.nearest (digits * Nat.pow 10 exponent.toNat) 1
  else Binary64.nearest digits (Nat.pow 10 (-exponent).toNat)

theorem steps_le_top (digits : Nat) (exponent : Int) : steps digits exponent ≤ Binary64.top := by
  unfold steps
  split
  · exact Nat.zero_le _
  split
  · exact Nat.le_refl _
  split
  · exact Nat.zero_le _
  split
  · exact Binary64.nearest_le_top _ _
  · exact Binary64.nearest_le_top _ _

/-- The double precision number nearest to a numeral. -/
def toBinary64 (d : Decimal) : Binary64 :=
  .number d.negative (steps d.digits d.exponent) (steps_le_top _ _)

/-! ## Reading -/

/-- The leading decimal digits of a text, and what follows them. -/
def takeDigits (cs : List Char) : List Char × List Char :=
  (cs.takeWhile Char.isDigit, cs.dropWhile Char.isDigit)

theorem takeDigits_append (cs : List Char) : (takeDigits cs).1 ++ (takeDigits cs).2 = cs :=
  List.takeWhile_append_dropWhile

/-- The natural number that a run of digits writes. -/
def ofDigits (cs : List Char) : Nat := Nat.ofDigitChars 10 cs 0

/-- The digits after a point at the start of a text, and what follows them. -/
def takeFraction : List Char → List Char × List Char
  | '.' :: r => takeDigits r
  | r => ([], r)

/-- The power of ten that ends a numeral: none written counts as zero. -/
def exponent? : List Char → Option Int
  | [] => some 0
  | c :: r =>
    if c = 'e' ∨ c = 'E' then
      let (negative, ds) := match r with
        | '-' :: ds => (true, ds)
        | '+' :: ds => (false, ds)
        | ds => (false, ds)
      if ds.isEmpty || !ds.all Char.isDigit then none
      else some (if negative then -(ofDigits ds : Int) else ofDigits ds)
    else none

/-- The numeral that the characters `cs` write without a sign: digits, with a point before, among
or after them, and an optional exponent. -/
def unsigned? (negative : Bool) (cs : List Char) : Option Decimal :=
  let (whole, r) := takeDigits cs
  let (fraction, r) := takeFraction r
  if whole.isEmpty && fraction.isEmpty then none
  else (exponent? r).map fun e => ⟨negative, ofDigits (whole ++ fraction), e - fraction.length⟩

/-- The numeral that a text writes, sign included. -/
def ofText? : List Char → Option Decimal
  | '-' :: r => unsigned? true r
  | '+' :: r => unsigned? false r
  | r => unsigned? false r

/-- The digits after a point, if there is a point with a digit after it; else nothing is taken. -/
def scanFraction : List Char → List Char × List Char
  | '.' :: d :: r => if d.isDigit then takeDigits (d :: r) else ([], '.' :: d :: r)
  | r => ([], r)

/-- The longest unsigned `d+(.d+)?` at the start of a text, and what follows it. -/
def scanUnsigned? (negative : Bool) (cs : List Char) : Option (Decimal × List Char) :=
  let (whole, r) := takeDigits cs
  if whole.isEmpty then none
  else
    let (fraction, r) := scanFraction r
    some (⟨negative, ofDigits (whole ++ fraction), -(fraction.length : Int)⟩, r)

/-- The longest `-?d+(.d+)?` at the start of a text, and what follows it. -/
def scan? : List Char → Option (Decimal × List Char)
  | '-' :: r => scanUnsigned? true r
  | r => scanUnsigned? false r

/-! ## Writing -/

/-- The digits of a natural number, with zeros in front up to a width. -/
def padded (width n : Nat) : List Char :=
  let ds := Nat.toDigits 10 n
  List.replicate (width - ds.length) '0' ++ ds

/-- The characters of `digits` times ten to the power `exponent` without an exponent: zeros are
appended, or the last `-exponent` digits stand after a point. -/
def positionalUnsigned (digits : Nat) (exponent : Int) : List Char :=
  if 0 ≤ exponent then Nat.toDigits 10 (digits * Nat.pow 10 exponent.toNat)
  else
    let places := (-exponent).toNat
    Nat.toDigits 10 (digits / Nat.pow 10 places) ++
      '.' :: padded places (digits % Nat.pow 10 places)

def signed (negative : Bool) (cs : List Char) : List Char := if negative then '-' :: cs else cs

def positional (d : Decimal) : List Char :=
  signed d.negative (positionalUnsigned d.digits d.exponent)

/-- Drops the zeros at the end of the digits, at most `limit` of them. -/
def stripZeros : (limit digits : Nat) → (exponent : Int) → Nat × Int
  | 0, digits, exponent => (digits, exponent)
  | limit + 1, digits, exponent =>
    if digits ≠ 0 ∧ digits % 10 = 0 then stripZeros limit (digits / 10) (exponent + 1)
    else (digits, exponent)

/-! ## Lemmas -/

theorem scanFraction_append (cs : List Char) :
    (scanFraction cs).1 = [] ∧ (scanFraction cs).2 = cs ∨
      cs = '.' :: (scanFraction cs).1 ++ (scanFraction cs).2 := by
  unfold scanFraction
  split
  · split
    · right
      rw [List.cons_append, takeDigits_append]
    · left; exact ⟨rfl, rfl⟩
  · left; exact ⟨rfl, rfl⟩

end Decimal

end Leaderboard
