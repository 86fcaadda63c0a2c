/-
# Leaderboard.Proofs.StableOrder — what a stable sort does to places

A sorted list tells its items apart by value only. This module follows the *places* of the items
instead: `order le items` lists the places in the order in which the sort puts them, and
`Arranges le items order` says what a stable order of places is. Every place occurs once, an item
stands before another only if it may precede it, and where two items may precede each other the
earlier place comes first.

That insertion arranges the places needs `le` to be transitive and total, but only on the items at
hand (`Consistent`). Of other items the law of a sorter says nothing, and it could not say more:
some sorters give up on all of them (`Sorter.strict`).

* `stableSort_eq_map_order`: the sorted list is read off the order of places.
* `order_arranges`: on consistent items the order of places is a stable one.
* `stableSort_filter`: the sort of a selection of the items is the selection, in the same order of
  places, of the sort of all items.
* `Sorter.strict_fault?`: a sorter that gives up on all other items.
-/
import Leaderboard.Sorting

set_option autoImplicit false

namespace Leaderboard.Sorting

variable {α β : Type} {le : α → α → Bool}

/-! ## Selections -/

theorem insert_filter (trans : ∀ a b c, le a b = true → le b c = true → le a c = true)
    {keep : α → Bool} {a : α} {items : List α}
    (sorted : items.Pairwise fun b c => le b c = true) :
    (insert le a items).filter keep =
      if keep a then insert le a (items.filter keep) else items.filter keep := by
  induction items with
  | nil => cases h : keep a <;> simp [insert, h]
  | cons b r ih =>
      obtain ⟨first, rest⟩ := List.pairwise_cons.mp sorted
      by_cases before : le a b = true
      · rw [insert, if_pos before, List.filter_cons]
        split
        · -- All that is kept comes from `b` on, so the new item stops at once here too.
          have stops : ∀ c ∈ (b :: r).filter keep, le a c = true := by
            intro c hc
            rcases List.mem_cons.mp (List.mem_filter.mp hc).1 with rfl | inRest
            · exact before
            · exact trans a b c before (first c inRest)
          exact (insert_append (fun c hc => absurd hc List.not_mem_nil) stops).symm
        · rfl
      · rw [insert, if_neg before, List.filter_cons, List.filter_cons, ih rest]
        by_cases kept : keep b = true
        · rw [if_pos kept, if_pos kept, insert, if_neg before]
          split <;> rfl
        · rw [if_neg kept, if_neg kept]

/-! ## Orders of places -/

/-- The item at a place may precede the item at another, and the places settle a tie. -/
def Precedes (le : α → α → Bool) (items : List α) (i j : Fin items.length) : Prop :=
  le items[i] items[j] = true ∧ (le items[j] items[i] = true → i < j)

/-- A stable order of the places of items. -/
structure Arranges (le : α → α → Bool) (items : List α) (order : List (Fin items.length)) :
    Prop where
  places : order.Perm (List.finRange items.length)
  ascending : order.Pairwise (Precedes le items)

/-- The places of the items, in the order in which sorting puts them. -/
def order (le : α → α → Bool) (items : List α) : List (Fin items.length) :=
  stableSort (atPlaces le items) (List.finRange items.length)

theorem order_perm (le : α → α → Bool) (items : List α) :
    (order le items).Perm (List.finRange items.length) :=
  stableSort_perm _ _

theorem stableSort_eq_map_order (le : α → α → Bool) (items : List α) :
    stableSort le items = (order le items).map fun i => items[i] := by
  have mapped : (order le items).map items.get =
      stableSort le ((List.finRange items.length).map items.get) :=
    stableSort_map fun _ _ _ _ => rfl
  rw [map_finRange] at mapped
  exact mapped.symm

namespace Consistent

variable {items : List α} (consistent : Consistent le items)
include consistent

/-- On consistent items the sort arranges the places. -/
theorem order_arranges : Arranges le items (order le items) where
  places := order_perm le items
  ascending := stableSort_refines consistent.atPlaces_trans consistent.atPlaces_total
    (List.pairwise_lt_finRange items.length)

theorem stableSort_pairwise : (stableSort le items).Pairwise fun a b => le a b = true := by
  rw [stableSort_eq_map_order, List.pairwise_map]
  exact consistent.order_arranges.ascending.imp fun precedes => precedes.1

theorem stableSort_places_filter (keep : Fin items.length → Bool) (l : List (Fin items.length)) :
    (stableSort (atPlaces le items) l).filter keep =
      stableSort (atPlaces le items) (l.filter keep) := by
  induction l with
  | nil => rfl
  | cons i r ih =>
      have sorted : (stableSort (atPlaces le items) r).Pairwise
          fun j k => atPlaces le items j k = true := by
        rw [stableSort_eq_mergeSort consistent.atPlaces_trans consistent.atPlaces_total]
        exact List.pairwise_mergeSort consistent.atPlaces_trans consistent.atPlaces_total r
      rw [stableSort_cons, insert_filter consistent.atPlaces_trans sorted, ih, List.filter_cons]
      split <;> rfl

/-- Sorting a selection of the items selects from the order of all places. -/
theorem stableSort_filter (keep : α → Bool) :
    stableSort le (items.filter keep) =
      ((order le items).filter fun i => keep items[i]).map fun i => items[i] := by
  let kept := (List.finRange items.length).filter fun i => keep items[i]
  have selection : items.filter keep = kept.map fun i => items[i] := by
    have whole := congrArg (List.filter keep) (map_finRange items)
    rw [List.filter_map] at whole
    exact whole.symm
  have mapped : (stableSort (atPlaces le items) kept).map (fun i => items[i]) =
      stableSort le (kept.map fun i => items[i]) := stableSort_map fun _ _ _ _ => rfl
  rw [selection, ← mapped, order, consistent.stableSort_places_filter]

end Consistent

end Leaderboard.Sorting

namespace Leaderboard.Sorter

open Leaderboard.Sorting

open Classical in
/-- A sorter that gives up, with a message, wherever precedence contradicts itself. -/
noncomputable abbrev strict (message : String) : Sorter where
  sort le items :=
    if Consistent le items then { items := stableSort le items }
    else { items, fault? := some message }
  kept le items := by
    split
    · exact stableSort_perm le items
    · rfl
  sorted consistent := if_pos consistent

theorem strict_fault? {α : Type} (message : String) {le : α → α → Bool} {items : List α}
    (contradictory : ¬Consistent le items) :
    ((strict message).sort le items).fault? = some message :=
  congrArg Result.fault? (if_neg contradictory)

end Leaderboard.Sorter
