/-
# Leaderboard.Ranking — competition ranks

Items are ranked by their scores from the highest down. Equal scores share a rank, and the next
rank counts all items before it: scores 10, 10, 8, 5 have ranks 1, 1, 3, 4.

Main statements: `ranks_length` (every score gets a rank) and `rankBy_perm` (ranking keeps the
items).
-/
import Leaderboard.Number.Binary64
import Leaderboard.Sorting

set_option autoImplicit false

namespace Leaderboard.Ranking

/-- The ranks of the scores that follow `index` others, the last of which had the rank `current`. -/
def ranksFrom (index current : Nat) (previous? : Option Binary64) : List Binary64 → List Nat
  | [] => []
  | s :: r =>
    if previous?.any (·.same s) then current :: ranksFrom (index + 1) current previous? r
    else (index + 1) :: ranksFrom (index + 1) (index + 1) (some s) r

/-- The ranks of scores that are already in order, highest first. -/
def ranks (scores : List Binary64) : List Nat := ranksFrom 0 0 none scores

/-- A score may stand before another unless it is lower. -/
def notBelow {α : Type} (score : α → Binary64) (a b : α) : Bool := !(score a).lt (score b)

/-- What sorting items by their scores leaves. -/
def sortByScore [Sorter] {α : Type} (score : α → Binary64) (items : List α) : Sorting.Result α :=
  Sorter.sort (notBelow score) items

/-- The items by their scores, highest first, equal scores in the given order. -/
def byScore [Sorter] {α : Type} (score : α → Binary64) (items : List α) : List α :=
  (sortByScore score items).items

/-- The items by their scores, with their ranks. -/
def rankBy [Sorter] {α : Type} (score : α → Binary64) (items : List α) : List (Nat × α) :=
  let ordered := byScore score items
  (ranks (ordered.map score)).zip ordered

/-! ## Lemmas -/

theorem ranksFrom_length (scores : List Binary64) : ∀ (index current : Nat)
    (previous? : Option Binary64), (ranksFrom index current previous? scores).length =
      scores.length := by
  induction scores with
  | nil => intro _ _ _; rfl
  | cons s r ih =>
    intro index current previous?
    unfold ranksFrom
    split <;> rw [List.length_cons, List.length_cons, ih]

@[simp] theorem ranks_length (scores : List Binary64) : (ranks scores).length = scores.length :=
  ranksFrom_length scores 0 0 none

theorem byScore_perm [Sorter] {α : Type} (score : α → Binary64) (items : List α) :
    (byScore score items).Perm items :=
  Sorter.kept _ items

theorem rankBy_map_snd [Sorter] {α : Type} (score : α → Binary64) (items : List α) :
    (rankBy score items).map (·.2) = byScore score items := by
  unfold rankBy
  exact List.map_snd_zip (by simp)

theorem rankBy_perm [Sorter] {α : Type} (score : α → Binary64) (items : List α) :
    ((rankBy score items).map (·.2)).Perm items := by
  rw [rankBy_map_snd]
  exact byScore_perm score items

end Leaderboard.Ranking
