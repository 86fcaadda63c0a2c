/-
# Leaderboard.Sorting — stable sorting

A stable sort puts items in order and keeps those that may precede each other as they are given.
Where precedence is transitive and total on the items (`Consistent`) exactly one order does this,
and `stableSort` finds it by inserting each item before the first one that it may precede.

Where precedence contradicts itself there need be no such order, and what becomes of the items is
up to the sort at hand: it may leave them in any order, and it may give up with a message. So no
sort is fixed here. A `Sorter` is any sort that loses no item and agrees with `stableSort` on
consistent items. What the library says of a sorted list it says of every sorter.

Main statements: `stableSort_perm` (sorting keeps the items, whatever precedes what),
`eq_stableSort` (a sorted order that settles ties as given is the one that sorting finds) and
`Consistent.insertOrMerge_eq` (the sort that programs are run with is a sorter).
-/
set_option autoImplicit false

namespace Leaderboard

namespace Sorting

variable {α β : Type}

/-- Puts an item before the first one that it may precede. -/
def insert (le : α → α → Bool) (a : α) : List α → List α
  | [] => [a]
  | b :: r => if le a b then a :: b :: r else b :: insert le a r

/-- The items in order, those that may precede each other in the given order. -/
def stableSort (le : α → α → Bool) (items : List α) : List α := items.foldr (insert le) []

/-- The comparison is transitive and total on the items. -/
structure Consistent (le : α → α → Bool) (items : List α) : Prop where
  trans : ∀ a ∈ items, ∀ b ∈ items, ∀ c ∈ items, le a b = true → le b c = true → le a c = true
  total : ∀ a ∈ items, ∀ b ∈ items, (le a b || le b a) = true

variable {le : α → α → Bool}

theorem Consistent.mono {items some : List α} (consistent : Consistent le items)
    (among : ∀ a ∈ some, a ∈ items) : Consistent le some where
  trans a ha b hb c hc := consistent.trans a (among a ha) b (among b hb) c (among c hc)
  total a ha b hb := consistent.total a (among a ha) b (among b hb)

theorem Consistent.map {le' : β → β → Bool} {f : α → β} {items : List α}
    (consistent : Consistent le items)
    (agree : ∀ a ∈ items, ∀ b ∈ items, le a b = le' (f a) (f b)) :
    Consistent le' (items.map f) where
  trans := by
    simp only [List.forall_mem_map]
    intro a ha b hb c hc hab hbc
    rw [← agree a ha b hb] at hab
    rw [← agree b hb c hc] at hbc
    rw [← agree a ha c hc]
    exact consistent.trans a ha b hb c hc hab hbc
  total := by
    simp only [List.forall_mem_map]
    intro a ha b hb
    rw [← agree a ha b hb, ← agree b hb a ha]
    exact consistent.total a ha b hb

/-! ## Insertion -/

theorem stableSort_cons (le : α → α → Bool) (a : α) (r : List α) :
    stableSort le (a :: r) = insert le a (stableSort le r) := rfl

theorem insert_perm (le : α → α → Bool) (a : α) (items : List α) :
    (insert le a items).Perm (a :: items) := by
  fun_induction insert le a items with
  | case1 => rfl
  | case2 => rfl
  | case3 b r _ ih => exact (ih.cons b).trans (.swap a b r)

theorem insert_append {a : α} {front back : List α} (passes : ∀ b ∈ front, le a b = false)
    (stops : ∀ b ∈ back, le a b = true) : insert le a (front ++ back) = front ++ a :: back := by
  induction front with
  | nil =>
    cases back with
    | nil => rfl
    | cons b r => simp [insert, stops b List.mem_cons_self]
  | cons b r ih =>
    simp [insert, passes b List.mem_cons_self,
      ih fun c h => passes c (List.mem_cons_of_mem b h)]

theorem insert_map {le' : β → β → Bool} {f : α → β} {a : α} {items : List α}
    (agree : ∀ b ∈ items, le a b = le' (f a) (f b)) :
    (insert le a items).map f = insert le' (f a) (items.map f) := by
  induction items with
  | nil => rfl
  | cons b r ih =>
      have head := agree b List.mem_cons_self
      rw [insert, List.map_cons, insert, ← head]
      split
      · rfl
      · rw [List.map_cons, ih fun c h => agree c (List.mem_cons_of_mem b h)]

theorem stableSort_perm (le : α → α → Bool) (items : List α) :
    (stableSort le items).Perm items := by
  induction items with
  | nil => rfl
  | cons a r ih => exact (insert_perm le a _).trans (ih.cons a)

/-- Sorting goes through a map, if items are ordered as their images are. -/
theorem stableSort_map {le' : β → β → Bool} {f : α → β} {items : List α}
    (agree : ∀ a ∈ items, ∀ b ∈ items, le a b = le' (f a) (f b)) :
    (stableSort le items).map f = stableSort le' (items.map f) := by
  induction items with
  | nil => rfl
  | cons a r ih =>
      have rest : ∀ b ∈ r, ∀ c ∈ r, le b c = le' (f b) (f c) := fun b hb c hc =>
        agree b (List.mem_cons_of_mem a hb) c (List.mem_cons_of_mem a hc)
      rw [stableSort_cons, List.map_cons, stableSort_cons, ← ih rest]
      apply insert_map
      intro b hb
      have inRest : b ∈ r := (stableSort_perm le r).mem_iff.mp hb
      exact agree a List.mem_cons_self b (List.mem_cons_of_mem a inRest)

/-! ## Total preorders -/

/-- An item may precede another, and where either may be first the relation `R` puts it there. -/
def Refines (le : α → α → Bool) (R : α → α → Prop) (a b : α) : Prop :=
  le a b = true ∧ (le b a = true → R a b)

section Preorder

variable (trans : ∀ a b c, le a b = true → le b c = true → le a c = true)
variable (total : ∀ a b, (le a b || le b a) = true)
include trans total

theorem stableSort_eq_mergeSort (items : List α) : stableSort le items = items.mergeSort le := by
  induction items with
  | nil => simp [stableSort]
  | cons a r ih =>
    obtain ⟨front, back, whole, rest, passes⟩ := List.mergeSort_cons trans total a r
    have sorted := List.pairwise_mergeSort trans total (a :: r)
    rw [whole, List.pairwise_append] at sorted
    rw [stableSort_cons, ih, rest, whole]
    exact insert_append (fun b h => by simpa using passes b h)
      (List.pairwise_cons.mp sorted.2.1).1

/-- An item that comes first of all is inserted where it refines the order of the others. -/
theorem insert_refines {R : α → α → Prop} {a : α} {items : List α}
    (sorted : items.Pairwise (Refines le R)) (first : ∀ b ∈ items, R a b) :
    (insert le a items).Pairwise (Refines le R) := by
  induction items with
  | nil => exact List.pairwise_singleton _ a
  | cons b r ih =>
      obtain ⟨head, rest⟩ := List.pairwise_cons.mp sorted
      unfold insert
      split
      · rename_i before
        refine List.pairwise_cons.mpr ⟨fun c hc => ⟨?_, fun _ => first c hc⟩, sorted⟩
        rcases List.mem_cons.mp hc with rfl | inRest
        · exact before
        · exact trans a b c before (head c inRest).1
      · rename_i notBefore
        have behind : le b a = true := by simpa [notBefore] using total a b
        have inserted := ih rest fun c hc => first c (List.mem_cons_of_mem b hc)
        refine List.pairwise_cons.mpr ⟨fun c hc => ?_, inserted⟩
        rcases List.mem_cons.mp ((insert_perm le a r).mem_iff.mp hc) with rfl | inRest
        · exact ⟨behind, fun before => absurd before notBefore⟩
        · exact head c inRest

/-- **Sorting refines the order in which the items are given.** -/
theorem stableSort_refines {R : α → α → Prop} {items : List α} (given : items.Pairwise R) :
    (stableSort le items).Pairwise (Refines le R) := by
  induction items with
  | nil => exact .nil
  | cons a r ih =>
      obtain ⟨first, rest⟩ := List.pairwise_cons.mp given
      apply insert_refines trans total (ih rest)
      intro b hb
      exact first b ((stableSort_perm le r).mem_iff.mp hb)

/-- Only one order of the items refines that in which they are given. -/
theorem eq_stableSort {R : α → α → Prop} (asymm : ∀ a b, R a b → ¬R b a) {items sorted : List α}
    (given : items.Pairwise R) (perm : sorted.Perm items)
    (refined : sorted.Pairwise (Refines le R)) : sorted = stableSort le items := by
  have antisymm : ∀ a b, Refines le R a b → Refines le R b a → a = b := fun a b before behind =>
    absurd (behind.2 before.1) (asymm a b (before.2 behind.1))
  exact List.Perm.eq_of_pairwise (fun a b _ _ => antisymm a b) refined
    (stableSort_refines trans total given) (perm.trans (stableSort_perm le items).symm)

end Preorder

/-! ## Places -/

/-- Whether the item at a place may precede the item at another. -/
def atPlaces (le : α → α → Bool) (items : List α) (i j : Fin items.length) : Bool :=
  le (items.get i) (items.get j)

theorem map_finRange (items : List α) :
    (List.finRange items.length).map items.get = items := by
  apply List.ext_getElem
  · simp
  · intro i _ _
    simp

namespace Consistent

variable {items : List α} (consistent : Consistent le items)
include consistent

theorem atPlaces_trans (i j k : Fin items.length) (hij : atPlaces le items i j = true)
    (hjk : atPlaces le items j k = true) : atPlaces le items i k = true :=
  consistent.trans _ (List.getElem_mem i.2) _ (List.getElem_mem j.2) _ (List.getElem_mem k.2)
    hij hjk

theorem atPlaces_total (i j : Fin items.length) :
    (atPlaces le items i j || atPlaces le items j i) = true :=
  consistent.total _ (List.getElem_mem i.2) _ (List.getElem_mem j.2)

end Consistent

/-! ## A sort for programs -/

/-- The longest list that is sorted by insertion. -/
def shortLimit : Nat := 20

/-- Inserts the items from the first on, each behind the last one that it may follow. -/
def insertFromFirst (le : α → α → Bool) (items : List α) : List α :=
  (stableSort (fun a b => le b a) items.reverse).reverse

/-- Short lists by insertion, long ones by merging. -/
def insertOrMerge (le : α → α → Bool) (items : List α) : List α :=
  if items.length ≤ shortLimit then insertFromFirst le items else items.mergeSort le

theorem insertFromFirst_perm (le : α → α → Bool) (items : List α) :
    (insertFromFirst le items).Perm items :=
  (List.reverse_perm _).trans ((stableSort_perm _ _).trans (List.reverse_perm items))

theorem insertOrMerge_perm (le : α → α → Bool) (items : List α) :
    (insertOrMerge le items).Perm items := by
  unfold insertOrMerge
  split
  · exact insertFromFirst_perm le items
  · exact List.mergeSort_perm items le

theorem insertOrMerge_map {le' : β → β → Bool} {f : α → β} {items : List α}
    (agree : ∀ a ∈ items, ∀ b ∈ items, le a b = le' (f a) (f b)) :
    (insertOrMerge le items).map f = insertOrMerge le' (items.map f) := by
  unfold insertOrMerge insertFromFirst
  rw [List.length_map]
  split
  · rw [List.map_reverse, ← List.map_reverse (l := items), stableSort_map]
    intro a ha b hb
    exact agree b (List.mem_reverse.mp hb) a (List.mem_reverse.mp ha)
  · exact List.map_mergeSort agree

/-- Inserting from the first item on settles ties as inserting from the last one does. -/
theorem insertFromFirst_eq (trans : ∀ a b c, le a b = true → le b c = true → le a c = true)
    (total : ∀ a b, (le a b || le b a) = true) {R : α → α → Prop}
    (asymm : ∀ a b, R a b → ¬R b a) {items : List α} (given : items.Pairwise R) :
    insertFromFirst le items = stableSort le items := by
  have backwards := stableSort_refines (fun a b c hab hbc => trans c b a hbc hab)
    (fun a b => total b a) (List.pairwise_reverse.mpr given)
  exact eq_stableSort trans total asymm given (insertFromFirst_perm le items)
    (List.pairwise_reverse.mpr backwards)

theorem Consistent.insertOrMerge_eq {items : List α} (consistent : Consistent le items) :
    insertOrMerge le items = stableSort le items := by
  have atPlaces_eq : insertOrMerge (atPlaces le items) (List.finRange items.length) =
      stableSort (atPlaces le items) (List.finRange items.length) := by
    unfold insertOrMerge
    split
    · exact insertFromFirst_eq consistent.atPlaces_trans consistent.atPlaces_total
        (fun _ _ => Nat.lt_asymm) (List.pairwise_lt_finRange items.length)
    · exact (stableSort_eq_mergeSort consistent.atPlaces_trans consistent.atPlaces_total _).symm
  have mapped := congrArg (List.map items.get) atPlaces_eq
  have agree : ∀ i ∈ List.finRange items.length, ∀ j ∈ List.finRange items.length,
      atPlaces le items i j = le (items.get i) (items.get j) := fun _ _ _ _ => rfl
  rwa [insertOrMerge_map agree, stableSort_map agree, map_finRange] at mapped

/-- What a sort leaves: the items, and a message if it gave up. -/
structure Result (α : Type) where
  items : List α
  fault? : Option String := none

end Sorting

/-- A stable sort. It never loses an item, and it succeeds where precedence is transitive and total
on the items. Of other items nothing is known: they may end in any order, and the sort may give
up. -/
class Sorter where
  sort {α : Type} (le : α → α → Bool) (items : List α) : Sorting.Result α
  kept {α : Type} (le : α → α → Bool) (items : List α) : (sort le items).items.Perm items
  sorted {α : Type} {le : α → α → Bool} {items : List α} :
    Sorting.Consistent le items → sort le items = { items := Sorting.stableSort le items }

/-- The sort that programs are run with. It takes precedence as it finds it and never gives up. -/
instance Sorter.lenient : Sorter where
  sort le items := { items := Sorting.insertOrMerge le items }
  kept := Sorting.insertOrMerge_perm
  sorted consistent := by rw [consistent.insertOrMerge_eq]

end Leaderboard
