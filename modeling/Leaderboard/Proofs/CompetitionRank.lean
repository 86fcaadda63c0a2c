/-
# Leaderboard.Proofs.CompetitionRank — a rank counts the higher scores

`ranks` walks once over scores that are in order and keeps the last rank and score. Among numbers
that walk has a meaning of its own: the rank of a score is one more than the number of scores above
it (`ranks_eq`). The invariant of the walk, `Counted`, is that the rank at hand is that count for
the last distinct score, among the scores passed so far.

* `rankBy_eq`: ranking is sorting by score, each item with its `rankOf` among the unsorted items.
* `rankOf_lt_iff` and `rankOf_eq_iff`: a better rank is a higher score, a shared rank an equal one.
* `rank_of_first`: the first item of a rank stands at the place that the rank counts.
* `rankBy_competition`: this together, for all items and all scores that are numbers.
-/
import Leaderboard.Proofs.StableOrder
import Leaderboard.Ranking

set_option autoImplicit false

namespace Leaderboard.Ranking

/-! ## The walk over scores in order -/

/-- One more than the number of scores above a score. -/
def countRank (scores : List Binary64) (s : Binary64) : Nat := 1 + scores.countP (s.lt ·)

/-- What the walk knows after the scores `above`: nothing at the start; later a lowest score with
its rank. -/
def Counted (above : List Binary64) (current : Nat) : Option Binary64 → Prop
  | none => above = []
  | some q => q ∈ above ∧ (∀ t ∈ above, q.place ≤ t.place) ∧ current = countRank above q

section Walk

variable {above rest : List Binary64} {s : Binary64}
  (numbers : ∀ t ∈ above ++ s :: rest, t.isNan = false)
  (ordered : (above ++ s :: rest).Pairwise fun t u => u.place ≤ t.place)

include ordered in
theorem place_le_of_above {t : Binary64} (ht : t ∈ above) : s.place ≤ t.place :=
  (List.pairwise_append.mp ordered).2.2 t ht s List.mem_cons_self

include numbers ordered in
/-- The scores from `s` on do not count for `s`. -/
theorem countRank_append : countRank (above ++ s :: rest) s = countRank above s := by
  have later : (s :: rest).countP (s.lt ·) = 0 := by
    rw [List.countP_eq_zero]
    intro t ht
    have hs := numbers s (List.mem_append_right above List.mem_cons_self)
    have le : t.place ≤ s.place := by
      rcases List.mem_cons.mp ht with rfl | inRest
      · exact Int.le_refl _
      · exact (List.pairwise_cons.mp (List.pairwise_append.mp ordered).2.1).1 t inRest
    rw [Binary64.lt_iff_place hs (numbers t (List.mem_append_right above ht))]
    omega
  rw [countRank, List.countP_append, later, countRank, Nat.add_zero]

include numbers in
theorem countRank_congr {q : Binary64} (hq : q ∈ above) (same : q.place = s.place) :
    countRank above q = countRank above s := by
  have hs := numbers s (List.mem_append_right above List.mem_cons_self)
  have hq := numbers q (List.mem_append_left _ hq)
  unfold countRank
  congr 1
  apply List.countP_congr
  intro t ht
  have ht := numbers t (List.mem_append_left _ ht)
  rw [Binary64.lt_eq hq ht, Binary64.lt_eq hs ht, same]

include numbers in
theorem countRank_of_below (below : ∀ t ∈ above, s.place < t.place) :
    countRank above s = above.length + 1 := by
  have hs := numbers s (List.mem_append_right above List.mem_cons_self)
  have all : above.countP (s.lt ·) = above.length := by
    rw [List.countP_eq_length]
    intro t ht
    rw [Binary64.lt_iff_place hs (numbers t (List.mem_append_left _ ht))]
    exact below t ht
  rw [countRank, all, Nat.add_comm]

include numbers in
/-- Passing a score keeps the count of a score that is not below it. -/
theorem countRank_concat {q : Binary64} (hq : q ∈ above ++ [s]) (le : s.place ≤ q.place) :
    countRank (above ++ [s]) q = countRank above q := by
  have inWhole : ∀ t ∈ above ++ [s], t ∈ above ++ s :: rest := by
    intro t ht
    rcases List.mem_append.mp ht with h | h
    · exact List.mem_append_left _ h
    · rw [List.mem_singleton.mp h]
      exact List.mem_append_right above List.mem_cons_self
  have hs := numbers s (List.mem_append_right above List.mem_cons_self)
  have nothing : [s].countP (q.lt ·) = 0 := by
    rw [List.countP_eq_zero]
    intro t ht
    rw [List.mem_singleton.mp ht, Binary64.lt_iff_place (numbers q (inWhole q hq)) hs]
    omega
  rw [countRank, List.countP_append, nothing, countRank, Nat.add_zero]

include numbers in
/-- A score below all others takes the next rank, and the walk goes on from it. -/
theorem counted_restart (below : ∀ t ∈ above, s.place < t.place) :
    Counted (above ++ [s]) (above.length + 1) (some s) := by
  have inConcat : s ∈ above ++ [s] := List.mem_append_right above (List.mem_singleton.mpr rfl)
  refine ⟨inConcat, fun t ht => ?_, ?_⟩
  · rcases List.mem_append.mp ht with h | h
    · exact Int.le_of_lt (below t h)
    · have same : s = t := (List.mem_singleton.mp h).symm
      exact Int.le_of_eq (congrArg Binary64.place same)
  · rw [countRank_concat numbers inConcat (Int.le_refl _), countRank_of_below numbers below]

include numbers in
/-- A score that equals the lowest keeps its rank. -/
theorem counted_keep {q : Binary64} {current : Nat} (counted : Counted above current (some q))
    (same : q.place = s.place) : Counted (above ++ [s]) current (some q) := by
  obtain ⟨hq, lowest, rank⟩ := counted
  have inConcat : q ∈ above ++ [s] := List.mem_append_left [s] hq
  refine ⟨inConcat, fun t ht => ?_, ?_⟩
  · rcases List.mem_append.mp ht with h | h
    · exact lowest t h
    · rw [List.mem_singleton.mp h]
      exact Int.le_of_eq same
  · rw [countRank_concat numbers inConcat (Int.le_of_eq same.symm), rank]

end Walk

/-- The walk gives every score that is left its count among all scores. -/
theorem ranksFrom_eq (rest : List Binary64) : ∀ (above : List Binary64) (current : Nat)
    (previous? : Option Binary64), (∀ t ∈ above ++ rest, t.isNan = false) →
    (above ++ rest).Pairwise (fun t u => u.place ≤ t.place) → Counted above current previous? →
    ranksFrom above.length current previous? rest = rest.map (countRank (above ++ rest)) := by
  induction rest with
  | nil => exact fun _ _ _ _ _ _ => rfl
  | cons s rest ih =>
      intro above current previous? numbers ordered counted
      have next := ih (above ++ [s])
      rw [List.length_append, List.length_singleton, List.append_assoc,
        List.singleton_append] at next
      have rank := countRank_append numbers ordered
      have restart (below : ∀ t ∈ above, s.place < t.place) :
          (above.length + 1) :: ranksFrom (above.length + 1) (above.length + 1) (some s) rest =
            (s :: rest).map (countRank (above ++ s :: rest)) := by
        rw [next _ _ numbers ordered (counted_restart numbers below), List.map_cons, rank,
          countRank_of_below numbers below]
      unfold ranksFrom
      cases previous? with
      | none =>
          -- Only the first score has none before it.
          have start : above = [] := counted
          exact restart fun t ht => by simp [start] at ht
      | some q =>
          have hs := numbers s (List.mem_append_right above List.mem_cons_self)
          have hq := numbers q (List.mem_append_left _ counted.1)
          rw [Option.any_some, Binary64.same_eq hq hs]
          by_cases same : q.place = s.place
          · rw [if_pos (decide_eq_true same),
              next _ _ numbers ordered (counted_keep numbers counted same), List.map_cons, rank,
              counted.2.2, countRank_congr numbers counted.1 same]
          · rw [if_neg (by simpa using same)]
            apply restart
            intro t ht
            have := place_le_of_above ordered counted.1
            have := counted.2.1 t ht
            omega

/-- **Competition ranks count the higher scores.** -/
theorem ranks_eq {scores : List Binary64} (numbers : ∀ s ∈ scores, s.isNan = false)
    (ordered : scores.Pairwise fun s t => t.place ≤ s.place) :
    ranks scores = scores.map (countRank scores) :=
  ranksFrom_eq scores [] 0 none numbers ordered rfl

/-! ## Items and their scores -/

variable {α : Type} {score : α → Binary64} {items : List α}

/-- The rank of an item: one more than the number of items with a higher score. -/
def rankOf (score : α → Binary64) (items : List α) (a : α) : Nat :=
  1 + items.countP fun b => (score a).lt (score b)

/-- A condition that a further item passes holds more often. -/
theorem countP_lt_countP {p q : α → Bool} (weaker : ∀ c ∈ items, p c = true → q c = true) {a : α}
    (ha : a ∈ items) (hp : p a = false) (hq : q a = true) : items.countP p < items.countP q := by
  obtain ⟨front, back, rfl⟩ := List.append_of_mem ha
  have inFront := List.countP_mono_left fun c hc => weaker c (List.mem_append_left _ hc)
  have inBack := List.countP_mono_left fun c hc =>
    weaker c (List.mem_append_right front (List.mem_cons_of_mem a hc))
  rw [List.countP_append, List.countP_append, List.countP_cons_of_pos hq,
    List.countP_cons_of_neg (Bool.eq_false_iff.mp hp)]
  omega

section Scored

variable (numbers : ∀ a ∈ items, (score a).isNan = false)
include numbers

theorem notBelow_iff {a b : α} (ha : a ∈ items) (hb : b ∈ items) :
    notBelow score a b = true ↔ (score b).place ≤ (score a).place := by
  rw [notBelow, Binary64.lt_eq (numbers a ha) (numbers b hb)]
  simp

theorem notBelow_consistent : Sorting.Consistent (notBelow score) items where
  trans a ha b hb c hc hab hbc := by
    rw [notBelow_iff numbers ha hb] at hab
    rw [notBelow_iff numbers hb hc] at hbc
    rw [notBelow_iff numbers ha hc]
    omega
  total a ha b hb := by
    rw [Bool.or_eq_true, notBelow_iff numbers ha hb, notBelow_iff numbers hb ha]
    omega

/-- Scores that are numbers are sorted by every sorter alike. -/
theorem sortByScore_eq [Sorter] :
    sortByScore score items = { items := Sorting.stableSort (notBelow score) items } :=
  Sorter.sorted (notBelow_consistent numbers)

theorem byScore_eq [Sorter] : byScore score items = Sorting.stableSort (notBelow score) items := by
  rw [byScore, sortByScore_eq numbers]

theorem byScore_pairwise [Sorter] :
    (byScore score items).Pairwise fun a b => (score b).place ≤ (score a).place := by
  have sorted : (byScore score items).Pairwise fun a b => notBelow score a b = true := by
    rw [byScore_eq numbers]
    exact (notBelow_consistent numbers).stableSort_pairwise
  refine sorted.imp_of_mem fun {a b} ha hb before => ?_
  have given : ∀ c ∈ byScore score items, c ∈ items := fun c hc =>
    (byScore_perm score items).mem_iff.mp hc
  exact (notBelow_iff numbers (given a ha) (given b hb)).mp before

/-- **Ranking is sorting by score, with the count of higher scores beside each item.** -/
theorem rankBy_eq [Sorter] :
    rankBy score items = (byScore score items).map fun a => (rankOf score items a, a) := by
  have ordered := byScore_pairwise numbers
  have perm := byScore_perm score items
  unfold rankBy
  dsimp only
  rw [ranks_eq, List.map_map, ← List.map_prod_right_eq_zip]
  · refine List.map_congr_left fun a _ => ?_
    rw [Function.comp_apply, countRank, List.countP_map, perm.countP_eq]
    rfl
  · intro s hs
    obtain ⟨a, ha, rfl⟩ := List.mem_map.mp hs
    exact numbers a (perm.mem_iff.mp ha)
  · exact List.pairwise_map.mpr ordered

/-- What is above an item is above all that are not higher than it. -/
theorem above_of_above {a b c : α} (ha : a ∈ items) (hb : b ∈ items) (hc : c ∈ items)
    (le : (score b).place ≤ (score a).place) (above : (score a).lt (score c) = true) :
    (score b).lt (score c) = true := by
  rw [Binary64.lt_iff_place (numbers a ha) (numbers c hc)] at above
  rw [Binary64.lt_iff_place (numbers b hb) (numbers c hc)]
  omega

theorem rankOf_le_of_le {a b : α} (ha : a ∈ items) (hb : b ∈ items)
    (le : (score b).place ≤ (score a).place) : rankOf score items a ≤ rankOf score items b :=
  Nat.add_le_add_left
    (List.countP_mono_left fun _ hc above => above_of_above numbers ha hb hc le above) 1

theorem rankOf_lt_of_lt {a b : α} (ha : a ∈ items) (hb : b ∈ items)
    (lt : (score b).place < (score a).place) : rankOf score items a < rankOf score items b := by
  have weaker : ∀ c ∈ items, (score a).lt (score c) = true → (score b).lt (score c) = true :=
    fun c hc above => above_of_above numbers ha hb hc (Int.le_of_lt lt) above
  have notItself : (score a).lt (score a) = false := by
    rw [Binary64.lt_eq (numbers a ha) (numbers a ha)]
    exact decide_eq_false (Int.lt_irrefl _)
  have itself : (score b).lt (score a) = true :=
    (Binary64.lt_iff_place (numbers b hb) (numbers a ha)).mpr lt
  exact Nat.add_lt_add_left (countP_lt_countP weaker ha notItself itself) 1

/-- A better rank is a higher score. -/
theorem rankOf_lt_iff {a b : α} (ha : a ∈ items) (hb : b ∈ items) :
    rankOf score items a < rankOf score items b ↔ (score b).lt (score a) = true := by
  rw [Binary64.lt_iff_place (numbers b hb) (numbers a ha)]
  constructor
  · intro better
    have := fun le => rankOf_le_of_le numbers hb ha le
    omega
  · exact rankOf_lt_of_lt numbers ha hb

/-- A shared rank is an equal score. -/
theorem rankOf_eq_iff {a b : α} (ha : a ∈ items) (hb : b ∈ items) :
    rankOf score items a = rankOf score items b ↔ (score a).same (score b) = true := by
  rw [Binary64.same_eq (numbers a ha) (numbers b hb), decide_eq_true_iff]
  constructor
  · intro shared
    have := fun lt => rankOf_lt_of_lt numbers ha hb lt
    have := fun lt => rankOf_lt_of_lt numbers hb ha lt
    omega
  · intro same
    exact Nat.le_antisymm (rankOf_le_of_le numbers ha hb (Int.le_of_eq same.symm))
      (rankOf_le_of_le numbers hb ha (Int.le_of_eq same))

/-! ## Places and ranks -/

theorem mem_rankBy [Sorter] {e : Nat × α} :
    e ∈ rankBy score items ↔ e.2 ∈ items ∧ e.1 = rankOf score items e.2 := by
  rw [rankBy_eq numbers, List.mem_map]
  constructor
  · rintro ⟨a, ha, rfl⟩
    exact ⟨(byScore_perm score items).mem_iff.mp ha, rfl⟩
  · rintro ⟨he, rank⟩
    exact ⟨e.2, (byScore_perm score items).mem_iff.mpr he, by rw [← rank]⟩

theorem rankBy_pairwise [Sorter] : (rankBy score items).Pairwise fun e f => e.1 ≤ f.1 := by
  rw [rankBy_eq numbers, List.pairwise_map]
  refine (byScore_pairwise numbers).imp_of_mem fun {a b} ha hb le => ?_
  exact rankOf_le_of_le numbers ((byScore_perm score items).mem_iff.mp ha)
    ((byScore_perm score items).mem_iff.mp hb) le

/-- The rank of an entry counts the entries of smaller rank. -/
theorem rank_eq_countP [Sorter] {e : Nat × α} (he : e ∈ rankBy score items) :
    e.1 = 1 + (rankBy score items).countP fun f => f.1 < e.1 := by
  obtain ⟨mem, rank⟩ := (mem_rankBy numbers).mp he
  calc e.1 = 1 + items.countP fun b => (score e.2).lt (score b) := rank
    _ = 1 + (rankBy score items).countP fun f => (score e.2).lt (score f.2) := by
      rw [← (rankBy_perm score items).countP_eq, List.countP_map]
      rfl
    _ = 1 + (rankBy score items).countP fun f => f.1 < e.1 := by
      congr 1
      refine List.countP_congr fun f hf => ?_
      obtain ⟨other, rank'⟩ := (mem_rankBy numbers).mp hf
      rw [← rankOf_lt_iff numbers other mem, ← rank', ← rank, decide_eq_true_iff]

/-- The first entry of a rank stands at the place that the rank counts. -/
theorem rank_of_first [Sorter] {front back : List (Nat × α)} {e : Nat × α}
    (ranked : rankBy score items = front ++ e :: back) (first : ∀ f ∈ front, f.1 ≠ e.1) :
    e.1 = front.length + 1 := by
  have ascending := rankBy_pairwise numbers
  have here : e ∈ rankBy score items := by
    rw [ranked]
    exact List.mem_append_right front List.mem_cons_self
  have count := rank_eq_countP numbers here
  rw [ranked] at ascending count
  obtain ⟨-, behind, ahead⟩ := List.pairwise_append.mp ascending
  have all : front.countP (fun f => f.1 < e.1) = front.length := by
    rw [List.countP_eq_length]
    intro f hf
    have := first f hf
    have := ahead f hf e List.mem_cons_self
    exact decide_eq_true (by omega)
  have nothing : (e :: back).countP (fun f => f.1 < e.1) = 0 := by
    rw [List.countP_eq_zero]
    intro f hf
    rcases List.mem_cons.mp hf with rfl | later
    · simp
    · have := (List.pairwise_cons.mp behind).1 f later
      simpa using this
  rw [List.countP_append, all, nothing] at count
  omega

/-- The entry after all the entries of a rank has the rank that counts them too. -/
theorem rank_after [Sorter] {front group back : List (Nat × α)} {e : Nat × α} {r : Nat}
    (ranked : rankBy score items = front ++ group ++ e :: back) (others : ∀ f ∈ front, f.1 ≠ r)
    (nonempty : group ≠ []) (shared : ∀ g ∈ group, g.1 = r) (next : e.1 ≠ r) :
    e.1 = r + group.length := by
  obtain ⟨g, rest, rfl⟩ := List.exists_cons_of_ne_nil nonempty
  have hg : g.1 = r := shared g List.mem_cons_self
  have start : g.1 = front.length + 1 := by
    have split : rankBy score items = front ++ g :: (rest ++ e :: back) := by
      rw [ranked]
      simp
    exact rank_of_first numbers split fun f hf => hg ▸ others f hf
  have ascending := rankBy_pairwise numbers
  rw [ranked, List.append_assoc, List.pairwise_append] at ascending
  obtain ⟨-, behind, ahead⟩ := ascending
  have above : g.1 ≤ e.1 := (List.pairwise_cons.mp behind).1 e (by simp)
  have place : e.1 = (front ++ g :: rest).length + 1 := by
    refine rank_of_first numbers ranked fun f hf => ?_
    rcases List.mem_append.mp hf with inFront | inGroup
    · have := ahead f inFront g List.mem_cons_self
      have := others f inFront
      omega
    · rw [shared f inGroup]
      exact next.symm
  rw [List.length_append] at place
  omega

end Scored

/-- Items in the order of a competition. -/
structure Competition (score : α → Binary64) (items : List α) (ranked : List (Nat × α)) :
    Prop where
  /-- Every item stands once, highest score first and equal scores in the given order, beside one
  more than the number of items with a higher score. -/
  ordered : ∃ order : List (Fin items.length), Sorting.Arranges (notBelow score) items order ∧
    ranked = order.map fun i =>
      (1 + items.countP fun b => (score (items.get i)).lt (score b), items.get i)
  starts : ∀ e, ranked.head? = some e → e.1 = 1
  ascending : ranked.Pairwise fun e f => e.1 ≤ f.1
  shared : ∀ e ∈ ranked, ∀ f ∈ ranked, e.1 = f.1 ↔ (score e.2).same (score f.2) = true
  /-- After all the items that share a rank, the next rank is higher by their number. -/
  skips : ∀ (front group : List (Nat × α)) (e : Nat × α) (back : List (Nat × α)) (r : Nat),
    ranked = front ++ group ++ e :: back → (∀ f ∈ front, f.1 ≠ r) → group ≠ [] →
      (∀ g ∈ group, g.1 = r) → e.1 ≠ r → e.1 = r + group.length

theorem competition [Sorter] (numbers : ∀ a ∈ items, (score a).isNan = false) :
    Competition score items (rankBy score items) where
  ordered := by
    have consistent := notBelow_consistent numbers
    refine ⟨_, consistent.order_arranges, ?_⟩
    rw [rankBy_eq numbers, byScore_eq numbers, Sorting.stableSort_eq_map_order, List.map_map]
    rfl
  starts e head := by
    obtain ⟨back, whole⟩ := List.head?_eq_some_iff.mp head
    have split : rankBy score items = [] ++ e :: back := whole
    exact rank_of_first numbers split fun _ absent => absurd absent List.not_mem_nil
  ascending := rankBy_pairwise numbers
  shared e he f hf := by
    obtain ⟨inItems, rank⟩ := (mem_rankBy numbers).mp he
    obtain ⟨inItems', rank'⟩ := (mem_rankBy numbers).mp hf
    rw [rank, rank', rankOf_eq_iff numbers inItems inItems']
  skips _ _ _ _ _ ranked others nonempty shared next :=
    rank_after numbers ranked others nonempty shared next

/-- **Ranking by scores that are numbers succeeds and is a competition**, whatever the sorter. -/
theorem rankBy_competition [Sorter] (score : α → Binary64) (items : List α)
    (numbers : ∀ a ∈ items, (score a).isNan = false) :
    (sortByScore score items).fault? = none ∧ Competition score items (rankBy score items) :=
  ⟨by rw [sortByScore_eq numbers], competition numbers⟩

/-- Ties of the two zeros, at the start and at the end. -/
def heats : List Binary64 :=
  [.neg .zero, .ofNat 3, .zero, .ofNat 12, .neg (.ofNat 3), .ofNat 12, .neg (.ofNat 3)]

/-- Heats that end in ties. -/
theorem heats_competition :
    (∀ s ∈ heats, s.isNan = false) ∧ (sortByScore id heats).fault? = none ∧
      Competition id heats (rankBy id heats) := by
  have numbers : ∀ s ∈ heats, s.isNan = false := by decide +kernel
  exact ⟨numbers, rankBy_competition id heats numbers⟩

example : (rankBy id heats).map (·.1) = [1, 1, 3, 4, 4, 6, 6] := by decide +kernel

end Leaderboard.Ranking
