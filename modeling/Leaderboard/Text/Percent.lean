/-
# Leaderboard.Text.Percent — percent escapes

Bytes that an alphabet does not keep are written as a percent sign and two capital hexadecimal
digits. Decoding undoes every complete escape and keeps a percent sign that begins none.

Main statement: `decode_escape` (an escape decodes to its byte, whatever follows).
-/
import Leaderboard.Text.Utf8

set_option autoImplicit false

namespace Leaderboard.Text.Percent

/-- A hexadecimal digit, as a byte. -/
def digit (n : Nat) : UInt8 := UInt8.ofNat (if n < 10 then 0x30 + n else 0x37 + n)

/-- The value of a hexadecimal digit. -/
def digit? (b : UInt8) : Option Nat :=
  if 0x30 ≤ b ∧ b ≤ 0x39 then some (b.toNat - 0x30)
  else if 0x41 ≤ b ∧ b ≤ 0x46 then some (b.toNat - 0x37)
  else if 0x61 ≤ b ∧ b ≤ 0x66 then some (b.toNat - 0x57)
  else none

/-- The escape of a byte. -/
def escape (b : UInt8) : List UInt8 := [0x25, digit (b.toNat / 16), digit (b.toNat % 16)]

/-- Escapes the bytes that `keeps` refuses. -/
def encodeBytes (keeps : UInt8 → Bool) (bs : List UInt8) : List UInt8 :=
  bs.flatMap fun b => if keeps b then [b] else escape b

/-- Escapes a text byte by byte. The alphabet `keeps` must be of ASCII bytes, so that the outcome
is ASCII. -/
def encode (keeps : UInt8 → Bool) (cs : List Char) : List Char :=
  (encodeBytes keeps (Utf8.encode cs)).map fun b => Char.ofNat b.toNat

/-- Undoes the complete escapes. -/
def decode : List UInt8 → List UInt8
  | [] => []
  | [b] => [b]
  | [b, c] => [b, c]
  | b :: hi :: lo :: r =>
    match b == 0x25, digit? hi, digit? lo with
    | true, some h, some l => UInt8.ofNat (16 * h + l) :: decode r
    | _, _, _ => b :: decode (hi :: lo :: r)

/-! ## Lemmas -/

theorem digit?_digit (n : Nat) (h : n < 16) : digit? (digit n) = some n := by
  have : ∀ n : Fin 16, digit? (digit n) = some n.val := by decide
  exact this ⟨n, h⟩

theorem decode_escape (b : UInt8) (r : List UInt8) : decode (escape b ++ r) = b :: decode r := by
  have hb : b.toNat < 256 := b.toNat_lt
  simp only [escape, List.cons_append, List.nil_append, decode,
    digit?_digit (b.toNat / 16) (by omega), digit?_digit (b.toNat % 16) (by omega),
    beq_self_eq_true]
  rw [show 16 * (b.toNat / 16) + b.toNat % 16 = b.toNat by omega]
  simp

end Leaderboard.Text.Percent
