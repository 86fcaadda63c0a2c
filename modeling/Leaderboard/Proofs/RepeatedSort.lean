/-
# Leaderboard.Proofs.RepeatedSort — what earlier sorts leave behind

Rows are often sorted several times: by name, then by price. A sort does not move rows past each
other that it cannot tell apart, so the earlier sorts show wherever the later ones tie. After any
sequence of sorts the rows stand in the order of the last one, where that ties in the order of the
one before it, and so on (`compareInTurn`); where all of them tie they stand as they were given.

One sort refines the order in which it finds the rows (`Sorting.stableSort_refines`). The sequence
is an induction over that step, and what it carries is the order of the *places* of the rows: rows
can be equal, places cannot, so there is one order only (`Layers.unique`). Two cells tie in one
direction exactly when they tie in the other (`compareCells_eq_iff`), which is why nothing is left
of a sort that is followed by another one on the same key.

Every sort of the sequence has to find a transitive order of the cells under its key. Then every
sorter makes the same of it, and none gives up.

* `sortInTurn_layers`: the order that a sequence of sorts leaves.
-/
import Leaderboard.Proofs.FilteredTable

set_option autoImplicit false

namespace Leaderboard

open Leaderboard.Feed (Partition Model)

/-! ## Sequences of sorts -/

/-- A sort of rows by the cells under a key. -/
structure RowSort where
  key : String
  direction : Direction

/-- How a sort compares two rows. -/
def RowSort.compare (s : RowSort) (a b : Row) : Ordering :=
  compareCells s.direction (a.get s.key) (b.get s.key)

/-- The rows after sorts, made one after the other. -/
def sortInTurn [Sorter] (sorts : List RowSort) (rows : List Row) : List Row :=
  sorts.foldl (fun rows s => sortRows s.key s.direction rows) rows

/-- Sorts keep the rows, whatever the cells under their keys. -/
theorem sortInTurn_perm [Sorter] (sorts : List RowSort) (rows : List Row) :
    (sortInTurn sorts rows).Perm rows := by
  induction sorts generalizing rows with
  | nil => rfl
  | cons s later ih => exact (ih _).trans (sortRows_perm s.key s.direction rows)

/-- The last sort decides; where it ties, the one before it; and so on to the first. -/
def compareInTurn : List RowSort → Row → Row → Ordering
  | [], _, _ => .eq
  | s :: later, a, b => (compareInTurn later a b).then (s.compare a b)

/-- The order of two places among rows: that of the sorts, and where all of them tie that of the
places themselves. -/
def comparePlaces (sorts : List RowSort) (rows : List Row) (i j : Fin rows.length) : Ordering :=
  (compareInTurn sorts rows[i] rows[j]).then (compare i.val j.val)

/-! ## Ties -/

/-- Cells that tie in one direction tie in the other. -/
theorem compareCells_eq_iff (d d' : Direction) (a b : Cell) :
    compareCells d a b = .eq ↔ compareCells d' a b = .eq := by
  have apply_eq : ∀ (d : Direction) (o : Ordering), d.apply o = .eq ↔ o = .eq := by
    intro d o
    cases d with
    | ascending => rfl
    | descending => exact Ordering.swap_eq_eq
  by_cases ha : a = .missing
  · subst ha
    cases b <;> rfl
  · by_cases hb : b = .missing
    · subst hb
      rw [compareCells_missing_right d ha, compareCells_missing_right d' ha]
    · rw [compareCells_eq_apply d ha hb, compareCells_eq_apply d' ha hb, apply_eq, apply_eq]

theorem RowSort.compare_swap (s : RowSort) (a b : Row) : s.compare b a = (s.compare a b).swap :=
  (Std.OrientedCmp.eq_swap : compareCells s.direction (b.get s.key) (a.get s.key) = _)

theorem compareInTurn_swap (sorts : List RowSort) (a b : Row) :
    compareInTurn sorts b a = (compareInTurn sorts a b).swap := by
  induction sorts with
  | nil => rfl
  | cons s later ih => rw [compareInTurn, compareInTurn, ih, s.compare_swap, Ordering.swap_then]

theorem compareInTurn_append (earlier later : List RowSort) (a b : Row) :
    compareInTurn (earlier ++ later) a b =
      (compareInTurn later a b).then (compareInTurn earlier a b) := by
  induction earlier with
  | nil => simp [compareInTurn]
  | cons s rest ih => rw [List.cons_append, compareInTurn, compareInTurn, ih, Ordering.then_assoc]

/-- Of sorts on one key the last one alone counts. -/
theorem compareInTurn_one_key {same : List RowSort} {last : RowSort}
    (key : ∀ s ∈ same, s.key = last.key) (a b : Row) :
    compareInTurn (same ++ [last]) a b = compareInTurn [last] a b := by
  induction same with
  | nil => rfl
  | cons s rest ih =>
      have tie : compareInTurn [last] a b = .eq → s.compare a b = .eq := by
        intro level
        have level : last.compare a b = .eq := level
        unfold RowSort.compare at level ⊢
        rw [key s List.mem_cons_self]
        exact (compareCells_eq_iff _ _ _ _).mp level
      rw [List.cons_append, compareInTurn, ih fun t ht => key t (List.mem_cons_of_mem s ht)]
      cases decided : compareInTurn [last] a b with
      | eq => exact tie decided
      | lt => rfl
      | gt => rfl

/-! ## The places of the rows -/

section Places

variable (rows : List Row)

/-- Places after sorts of the rows at them. -/
def placesInTurn (sorts : List RowSort) (places : List (Fin rows.length)) :
    List (Fin rows.length) :=
  sorts.foldl (fun places s =>
    Sorting.stableSort (Sorting.atPlaces (Row.before s.key s.direction) rows) places) places

/-- Rows at places can be sorted by a key if all rows can. -/
theorem sortRows_map [Sorter] {key : String} {d : Direction}
    (transitive : TransitiveOn d (cellsOf rows key)) (places : List (Fin rows.length)) :
    sortRows key d (places.map fun i => rows[i]) =
      (Sorting.stableSort (Sorting.atPlaces (Row.before key d) rows) places).map
        fun i => rows[i] := by
  have among : ∀ r ∈ places.map (fun i => rows[i]), r ∈ rows :=
    List.forall_mem_map.mpr fun i _ => List.getElem_mem i.2
  have consistent := (Row.before_consistent transitive).mono among
  have agree : ∀ i ∈ places, ∀ j ∈ places,
      Sorting.atPlaces (Row.before key d) rows i j = Row.before key d rows[i] rows[j] :=
    fun _ _ _ _ => rfl
  rw [sortRows, sortByKey, Sorter.sorted consistent, Sorting.stableSort_map agree]

theorem sortInTurn_map [Sorter] {sorts : List RowSort}
    (transitive : ∀ s ∈ sorts, TransitiveOn s.direction (cellsOf rows s.key))
    (places : List (Fin rows.length)) :
    sortInTurn sorts (places.map fun i => rows[i]) =
      (placesInTurn rows sorts places).map fun i => rows[i] := by
  induction sorts generalizing places with
  | nil => rfl
  | cons s later ih =>
      change sortInTurn later (sortRows s.key s.direction _) = _
      rw [sortRows_map rows (transitive s List.mem_cons_self),
        ih fun t ht => transitive t (List.mem_cons_of_mem s ht)]
      rfl

theorem placesInTurn_perm (sorts : List RowSort) (places : List (Fin rows.length)) :
    (placesInTurn rows sorts places).Perm places := by
  induction sorts generalizing places with
  | nil => rfl
  | cons s later ih => exact (ih _).trans (Sorting.stableSort_perm _ places)

variable {rows}

/-- A sort decides before the order in which it finds the places. -/
theorem refines_before {s : RowSort} {R : Fin rows.length → Fin rows.length → Prop}
    {i j : Fin rows.length}
    (refines : Sorting.Refines (Sorting.atPlaces (Row.before s.key s.direction) rows) R i j) :
    s.compare rows[i] rows[j] = .lt ∨ s.compare rows[i] rows[j] = .eq ∧ R i j := by
  have before : (s.compare rows[i] rows[j]).isLE = true := refines.1
  have either : (s.compare rows[j] rows[i]).isLE = true → R i j := refines.2
  rw [s.compare_swap] at either
  cases decided : s.compare rows[i] rows[j] with
  | lt => exact .inl rfl
  | eq => exact .inr ⟨rfl, either (by rw [decided]; rfl)⟩
  | gt =>
      rw [decided] at before
      cases before

/-- All sorts decide before the order in which the first of them finds the places. -/
theorem placesInTurn_pairwise {sorts : List RowSort}
    (transitive : ∀ s ∈ sorts, TransitiveOn s.direction (cellsOf rows s.key))
    {R : Fin rows.length → Fin rows.length → Prop} {places : List (Fin rows.length)}
    (given : places.Pairwise R) :
    (placesInTurn rows sorts places).Pairwise fun i j =>
      compareInTurn sorts rows[i] rows[j] = .lt ∨
        compareInTurn sorts rows[i] rows[j] = .eq ∧ R i j := by
  induction sorts generalizing R places with
  | nil => exact given.imp fun placed => .inr ⟨rfl, placed⟩
  | cons s later ih =>
      have consistent := Row.before_consistent (transitive s List.mem_cons_self)
      have step := Sorting.stableSort_refines consistent.atPlaces_trans
        consistent.atPlaces_total given
      have rest := ih (fun t ht => transitive t (List.mem_cons_of_mem s ht))
        (step.imp refines_before)
      apply rest.imp
      intro i j layered
      -- where the later sorts tie, `s` decides, and where it ties too the places it found
      rcases layered with later | ⟨tie, first | ⟨tied, placed⟩⟩
      · exact .inl (by rw [compareInTurn, later]; rfl)
      · exact .inl (by rw [compareInTurn, tie, first]; rfl)
      · exact .inr ⟨by rw [compareInTurn, tie, tied]; rfl, placed⟩

theorem comparePlaces_lt_iff {sorts : List RowSort} {i j : Fin rows.length} :
    comparePlaces sorts rows i j = .lt ↔ compareInTurn sorts rows[i] rows[j] = .lt ∨
      compareInTurn sorts rows[i] rows[j] = .eq ∧ i < j := by
  unfold comparePlaces
  rw [Ordering.then_eq_lt, Nat.compare_eq_lt, Fin.lt_def]

/-- Places in the order that sorts leave. -/
structure Layers (sorts : List RowSort) (rows : List Row) (order : List (Fin rows.length)) :
    Prop where
  places : order.Perm (List.finRange rows.length)
  ascending : order.Pairwise fun i j => comparePlaces sorts rows i j = .lt

theorem placesInTurn_layers {sorts : List RowSort}
    (transitive : ∀ s ∈ sorts, TransitiveOn s.direction (cellsOf rows s.key)) :
    Layers sorts rows (placesInTurn rows sorts (List.finRange rows.length)) where
  places := placesInTurn_perm rows sorts _
  ascending := (placesInTurn_pairwise transitive (List.pairwise_lt_finRange rows.length)).imp
    comparePlaces_lt_iff.mpr

/-- There is one such order. -/
theorem Layers.unique {sorts : List RowSort} {order other : List (Fin rows.length)}
    (layers : Layers sorts rows order) (others : Layers sorts rows other) : order = other := by
  refine List.Perm.eq_of_pairwise ?_ layers.ascending others.ascending
    (layers.places.trans others.places.symm)
  intro i j _ _ hij hji
  -- of two places one comes first
  have swapped : comparePlaces sorts rows j i = (comparePlaces sorts rows i j).swap := by
    unfold comparePlaces
    rw [compareInTurn_swap, ← Nat.compare_swap i.val, Ordering.swap_then]
  rw [swapped, hij] at hji
  cases hji

/-- The sorted rows are read off the order of places. -/
theorem sortInTurn_eq_map [Sorter] {sorts : List RowSort}
    (transitive : ∀ s ∈ sorts, TransitiveOn s.direction (cellsOf rows s.key)) :
    sortInTurn sorts rows =
      (placesInTurn rows sorts (List.finRange rows.length)).map fun i => rows[i] := by
  have mapped := sortInTurn_map rows transitive (List.finRange rows.length)
  have whole : ((List.finRange rows.length).map fun i => rows[i]) = rows :=
    Sorting.map_finRange rows
  rwa [whole] at mapped

/-- Sorts that compare alike leave the same rows. -/
theorem sortInTurn_congr [Sorter] {sorts others : List RowSort}
    (transitive : ∀ s ∈ sorts, TransitiveOn s.direction (cellsOf rows s.key))
    (transitive' : ∀ s ∈ others, TransitiveOn s.direction (cellsOf rows s.key))
    (alike : ∀ a b, compareInTurn sorts a b = compareInTurn others a b) :
    sortInTurn sorts rows = sortInTurn others rows := by
  have layers := placesInTurn_layers transitive'
  have same : ∀ i j, comparePlaces others rows i j = comparePlaces sorts rows i j := by
    intro i j
    rw [comparePlaces, comparePlaces, alike]
  have others : Layers sorts rows _ := ⟨layers.places, layers.ascending.imp fun {i j} before => by
    rwa [same] at before⟩
  rw [sortInTurn_eq_map transitive, sortInTurn_eq_map transitive',
    (placesInTurn_layers transitive).unique others]

end Places

/-! ## The outcome of a sequence of sorts -/

/-- What a sequence of sorts makes of rows. -/
structure SortedInTurn [Sorter] (sorts : List RowSort) (rows : List Row) : Prop where
  /-- Every sort finds an order of the cells under its key. -/
  transitive : ∀ s ∈ sorts, TransitiveOn s.direction (cellsOf rows s.key)
  succeeds : ∀ (earlier : List RowSort) (s : RowSort) (later : List RowSort),
    sorts = earlier ++ s :: later →
      (sortByKey s.key s.direction (sortInTurn earlier rows)).fault? = none
  perm : (sortInTurn sorts rows).Perm rows
  /-- The rows stand by the last sort, then by the one before it, and so on to the first, and at
  last by the places at which they were given. -/
  layers : ∃ order, Layers sorts rows order ∧ sortInTurn sorts rows = order.map fun i => rows[i]
  /-- Of sorts on one key that follow each other the last one alone counts. -/
  lastOfKey : ∀ (earlier same : List RowSort) (last : RowSort),
    sorts = earlier ++ (same ++ [last]) → (∀ s ∈ same, s.key = last.key) →
      sortInTurn sorts rows = sortInTurn (earlier ++ [last]) rows

/-- **Sorts one after the other.** Each needs a transitive order of the cells under its key, which
the rows of models have wherever they do not mix numbers with texts. -/
theorem sortInTurn_layers [Sorter] (rows : List Row) (sorts : List RowSort)
    (ordered : ∀ s ∈ sorts, TransitiveOn s.direction (cellsOf rows s.key) ∨
      (∀ r ∈ rows, ∃ (p : Partition) (m : Model), r = Row.ofModel p m) ∧
        Unmixed (cellsOf rows s.key)) :
    SortedInTurn sorts rows := by
  have transitive : ∀ s ∈ sorts, TransitiveOn s.direction (cellsOf rows s.key) := by
    intro s hs
    rcases ordered s hs with transitive | ⟨ofModels, unmixed⟩
    · exact transitive
    · apply transitiveOn_of_unmixed s.direction unmixed
      intro c hc
      obtain ⟨r, hr, rfl⟩ := List.mem_map.mp hc
      obtain ⟨p, m, rfl⟩ := ofModels r hr
      exact Row.ofModel_get_ne_nan p m s.key
  constructor
  case transitive => exact transitive
  case perm => exact sortInTurn_perm sorts rows
  case succeeds =>
    rintro earlier s later rfl
    have consistent := Row.before_consistent
      (transitive s (List.mem_append_right earlier List.mem_cons_self))
    rw [sortByKey,
      Sorter.sorted (consistent.mono fun r => (sortInTurn_perm earlier rows).mem_iff.mp)]
  case layers => exact ⟨_, placesInTurn_layers transitive, sortInTurn_eq_map transitive⟩
  case lastOfKey =>
    rintro earlier same last rfl key
    apply sortInTurn_congr transitive
    · intro s hs
      apply transitive s
      simp only [List.mem_append, List.mem_singleton] at hs ⊢
      rcases hs with early | rfl
      · exact .inl early
      · exact .inr (.inr rfl)
    · intro a b
      rw [compareInTurn_append earlier, compareInTurn_append earlier, compareInTurn_one_key key]

/-! ## Poles -/

/-- A model with a price and a tier. -/
def offer (slug : String) (price tier : Json) : Model where
  slug
  name := slug
  stats := [("price", price), ("tier", tier)]
  benchmarks := []
  generations := []

/-- Prices that tie, and tiers that mix a number with texts. -/
def offers : Partition where
  slug := ""
  label? := none
  title? := none
  benchmark? := none
  headers := [⟨"price", "Price", some "currency", none, none⟩, ⟨"tier", "Tier", none, none, none⟩]
  models := [offer "acme/one" (.text "3.5") (.text "pro"),
    offer "acme/two" (.text "1") (.text "Basic"), offer "beta/one" .null (.text "pro"),
    offer "beta/two" (.text "3.50") (.text "basic"), offer "gamma" (.text " 1 ") (.text "16")]
  prompts := []

/-- By tier, then by price and by price again. -/
def offerSorts : List RowSort :=
  [⟨"tier", .ascending⟩, ⟨"price", .descending⟩, ⟨"price", .ascending⟩]

theorem sortInTurn_layers_offers :
    (∀ s ∈ offerSorts, TransitiveOn s.direction (cellsOf (rowsOf offers) s.key) ∨
      (∀ r ∈ rowsOf offers, ∃ (p : Partition) (m : Model), r = Row.ofModel p m) ∧
        Unmixed (cellsOf (rowsOf offers) s.key)) ∧
      SortedInTurn offerSorts (rowsOf offers) := by
  have ofModels : ∀ r ∈ rowsOf offers, ∃ (p : Partition) (m : Model), r = Row.ofModel p m := by
    intro r hr
    obtain ⟨m, -, rfl⟩ := List.mem_map.mp hr
    exact ⟨offers, m, rfl⟩
  have tiers : TransitiveOn .ascending (cellsOf (rowsOf offers) "tier") := by decide +kernel
  have prices : Unmixed (cellsOf (rowsOf offers) "price") := by decide +kernel
  have ordered : ∀ s ∈ offerSorts, TransitiveOn s.direction (cellsOf (rowsOf offers) s.key) ∨
      (∀ r ∈ rowsOf offers, ∃ (p : Partition) (m : Model), r = Row.ofModel p m) ∧
        Unmixed (cellsOf (rowsOf offers) s.key) := by
    simp only [offerSorts, List.forall_mem_cons, List.not_mem_nil, false_imp_iff, implies_true,
      and_true]
    exact ⟨.inl tiers, .inr ⟨ofModels, prices⟩, .inr ⟨ofModels, prices⟩⟩
  exact ⟨ordered, sortInTurn_layers (rowsOf offers) offerSorts ordered⟩

example : (sortInTurn offerSorts (rowsOf offers)).map (·.slug) =
    ["gamma", "acme/two", "beta/two", "acme/one", "beta/one"] := by decide +kernel

end Leaderboard
