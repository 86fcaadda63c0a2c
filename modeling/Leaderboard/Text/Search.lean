/-
# Leaderboard.Text.Search — one text inside another

Main statement: `contains_iff` (what is found is a contiguous part).
-/
set_option autoImplicit false

namespace Leaderboard.Text

/-- Whether `needle` is a contiguous part of the characters. -/
def contains (needle : List Char) : List Char → Bool
  | [] => needle.isEmpty
  | c :: r => needle.isPrefixOf (c :: r) || contains needle r

/-! ## Lemmas -/

theorem contains_iff {needle cs : List Char} : contains needle cs = true ↔ needle <:+: cs := by
  induction cs with
  | nil => simp [contains, List.isEmpty_iff]
  | cons c r ih =>
    rw [contains, Bool.or_eq_true, ih, List.isPrefixOf_iff_prefix, List.infix_cons_iff]

end Leaderboard.Text
