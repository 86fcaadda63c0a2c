/-
# Leaderboard.Text.Ascii — letters and digits of ASCII

The letter classes of the core library and its lower case know ASCII only. Here they are bounds on
code points, so that arithmetic decides what can stand where.

Main statements: `toNat_toLower` (capitals are lowered by thirty-two, all else is kept) and
`toNat_ofNat` (a code point before the surrogates is that of its character).
-/
set_option autoImplicit false

namespace Leaderboard.Text

theorem toNat_ofNat {n : Nat} (h : n < 0xD800) : (Char.ofNat n).toNat = n := by
  unfold Char.ofNat
  rw [dif_pos (show n.isValidChar from Or.inl h)]
  rfl

theorem decide_le_iff {a b : UInt32} : decide (a ≤ b) = true ↔ a.toNat ≤ b.toNat :=
  decide_eq_true_iff.trans UInt32.le_iff_toNat_le

theorem isUpper_iff {c : Char} : c.isUpper = true ↔ 65 ≤ c.toNat ∧ c.toNat ≤ 90 :=
  decide_eq_true_iff.trans (and_congr UInt32.le_iff_toNat_le UInt32.le_iff_toNat_le)

theorem isLower_iff {c : Char} : c.isLower = true ↔ 97 ≤ c.toNat ∧ c.toNat ≤ 122 :=
  Bool.and_eq_true_iff.trans (and_congr decide_le_iff decide_le_iff)

theorem isDigit_iff {c : Char} : c.isDigit = true ↔ 48 ≤ c.toNat ∧ c.toNat ≤ 57 :=
  Bool.and_eq_true_iff.trans (and_congr decide_le_iff decide_le_iff)

theorem isAlphanum_iff {c : Char} : c.isAlphanum = true ↔
    (65 ≤ c.toNat ∧ c.toNat ≤ 90 ∨ 97 ≤ c.toNat ∧ c.toNat ≤ 122) ∨
      48 ≤ c.toNat ∧ c.toNat ≤ 57 := by
  have letter : c.isAlpha = true ↔ c.isUpper = true ∨ c.isLower = true := Bool.or_eq_true_iff
  rw [Char.isAlphanum, Bool.or_eq_true, letter, isUpper_iff, isLower_iff, isDigit_iff]

theorem toNat_toLower (c : Char) :
    c.toLower.toNat = if c.isUpper then c.toNat + 32 else c.toNat := by
  split
  · rename_i upper
    have range := isUpper_iff.mp upper
    unfold Char.toLower
    rw [dif_pos (of_decide_eq_true upper)]
    change (c.val + ('a'.val - 'A'.val)).toNat = c.val.toNat + 32
    have code : c.val.toNat = c.toNat := rfl
    rw [UInt32.toNat_add, code]
    simp
    omega
  · rename_i other
    unfold Char.toLower
    rw [dif_neg fun upper => other (decide_eq_true upper)]

end Leaderboard.Text
