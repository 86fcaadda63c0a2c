/-
# Leaderboard.Text.Cut — cutting a text at a mark

`cutAt` parts a text at the first place of a character: what is before it, and what is after it if
it is there at all.

Main statements: `cutAt_append` (the cut of two texts with the mark between them, the first without
one) and `cutAt_of_not_mem` (a text without the mark).
-/
set_option autoImplicit false

namespace Leaderboard.Text

/-- What is before the first `mark`, and what is after it. -/
def cutAt (mark : Char) : List Char → List Char × Option (List Char)
  | [] => ([], none)
  | c :: r => if c = mark then ([], some r) else (c :: (cutAt mark r).1, (cutAt mark r).2)

/-! ## Lemmas -/

theorem cutAt_append {mark : Char} {front : List Char} (h : mark ∉ front) (back : List Char) :
    cutAt mark (front ++ mark :: back) = (front, some back) := by
  induction front with
  | nil => simp [cutAt]
  | cons c r ih =>
    rw [List.mem_cons, not_or] at h
    simp [cutAt, Ne.symm h.1, ih h.2]

theorem cutAt_of_not_mem {mark : Char} {cs : List Char} (h : mark ∉ cs) :
    cutAt mark cs = (cs, none) := by
  induction cs with
  | nil => rfl
  | cons c r ih =>
    rw [List.mem_cons, not_or] at h
    simp [cutAt, Ne.symm h.1, ih h.2]

end Leaderboard.Text
