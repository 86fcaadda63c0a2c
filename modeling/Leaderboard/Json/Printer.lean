/-
# Leaderboard.Json.Printer — compact JSON text

Values are written without blanks. Whole numbers are written bare. A double precision number takes
the shortest digits, with at least one place where its first digit stands between the fifth place
after the point and the sixteenth before it, and with an exponent elsewhere.
-/
import Leaderboard.Json.Value
import Leaderboard.Number.Text

set_option autoImplicit false

namespace Leaderboard.Json

/-- The escape of a character inside a quoted text, or the character. -/
def escapeChar (c : Char) : List Char :=
  let n := c.toNat
  if n = 0x22 then "\\\"".toList
  else if n = 0x5C then "\\\\".toList
  else if n = 8 then "\\b".toList
  else if n = 9 then "\\t".toList
  else if n = 10 then "\\n".toList
  else if n = 12 then "\\f".toList
  else if n = 13 then "\\r".toList
  else if n < 0x20 then "\\u00".toList ++ [Nat.digitChar (n / 16), Nat.digitChar (n % 16)]
  else [c]

/-- A text between quotes. -/
def quoted (s : String) : List Char := '"' :: (s.toList.flatMap escapeChar ++ ['"'])

/-- `digits` times ten to the power `exponent` with one digit before the point and an exponent. -/
def scientific (digits : Nat) (exponent : Int) : List Char :=
  let ds := Nat.toDigits 10 digits
  let order := exponent + (ds.length : Int) - 1
  let mantissa := match ds with
    | d :: e :: r => d :: '.' :: e :: r
    | ds => ds
  let sign := if order < 0 then '-' else '+'
  mantissa ++ 'e' :: sign :: Nat.toDigits 10 order.natAbs

/-- A finite magnitude as JSON writes it. -/
def magnitudeChars (place : Nat) : List Char :=
  let (digits, exponent) := Binary64.shortest .even place
  let order := exponent + ((Nat.toDigits 10 digits).length : Int) - 1
  if place ≠ 0 ∧ ¬(-5 ≤ order ∧ order < 16) then scientific digits exponent
  else if 0 ≤ exponent then Decimal.positionalUnsigned digits exponent ++ ['.', '0']
  else Decimal.positionalUnsigned digits exponent

def Number.chars : Number → List Char
  | .natural n _ => Nat.toDigits 10 n
  | .negated n _ => '-' :: Nat.toDigits 10 n
  | .finite negative place _ => Decimal.signed negative (magnitudeChars place)

def boolChars (b : Bool) : List Char := (if b then "true" else "false").toList

mutual

/-- A value without blanks. -/
def chars : Json → List Char
  | .null => "null".toList
  | .bool b => boolChars b
  | .number n => n.chars
  | .text s => quoted s
  | .array items => '[' :: (itemChars items ++ [']'])
  | .object members => Char.ofNat 0x7B :: (memberChars members ++ [Char.ofNat 0x7D])

def itemChars : List Json → List Char
  | [] => []
  | [v] => chars v
  | v :: r => chars v ++ ',' :: itemChars r

def memberChars : List (String × Json) → List Char
  | [] => []
  | [(k, v)] => quoted k ++ ':' :: chars v
  | (k, v) :: r => quoted k ++ ':' :: (chars v ++ ',' :: memberChars r)

end

/-- A value as text. -/
def render (v : Json) : String := String.ofList v.chars

end Leaderboard.Json
