/-
# Leaderboard.Proofs.RankMap — ranks by slug, whatever the order of the models

The table keeps its ranks by slug. They are written in the order of ranks, and within a rank in the
order of the models, so what a slug is left with looks like a matter of order. It is not: the entry
that stays is the one of the worst rank under the slug (`get?_ofRows_iff`), and a rank counts the
models with a higher total, which no reordering changes (`rankOf_perm`). Sort and filters never
reach the ranks.

* `ranks_reordered`: this, with the slugs that have a rank and the range of the ranks.
-/
import Leaderboard.Proofs.SharedRanking

set_option autoImplicit false

namespace Leaderboard

open Leaderboard.Feed (Partition Model)

/-! ## Ranks of models -/

namespace Feed.Partition

/-- A partition with its models in another order, or with other models. -/
def withModels (p : Partition) (models : List Model) : Partition := { p with models }

variable {p : Partition} {models : List Model}

@[simp] theorem withModels_models : (p.withModels models).models = models := rfl

/-- The rank of a model counts totals, in whatever order they stand. -/
theorem rankOf_perm (reordered : models.Perm p.models) (m : Model) :
    (p.withModels models).rankOf m = p.rankOf m := by
  unfold rankOf
  rw [withModels_models, reordered.countP_eq]
  rfl

/-- No model is above itself, so its rank counts at most the others. -/
theorem rankOf_le {m : Model} (hm : m ∈ p.models) : p.rankOf m ≤ p.models.length := by
  have notItself : (p.totalOf m).lt (p.totalOf m) = false := by
    rw [Binary64.lt_eq (p.totalOf_isNan m) (p.totalOf_isNan m)]
    exact decide_eq_false (Int.lt_irrefl _)
  have fewer : p.models.countP (fun other => (p.totalOf m).lt (p.totalOf other)) <
      p.models.countP fun _ => true :=
    Ranking.countP_lt_countP (fun _ _ _ => rfl) hm notItself rfl
  rw [List.countP_true] at fewer
  unfold rankOf
  omega

/-- The worst rank among the models under a slug. -/
def WorstUnder (p : Partition) (slug : String) (rank : Nat) : Prop :=
  (∃ m ∈ p.models, m.slug = slug ∧ p.rankOf m = rank) ∧
    ∀ other ∈ p.models, other.slug = slug → p.rankOf other ≤ rank

theorem worstUnder_perm (reordered : models.Perm p.models) {slug : String} {rank : Nat} :
    (p.withModels models).WorstUnder slug rank ↔ p.WorstUnder slug rank := by
  unfold WorstUnder
  simp only [withModels_models, rankOf_perm reordered, reordered.mem_iff]

theorem WorstUnder.unique {slug : String} {rank rank' : Nat} (worst : p.WorstUnder slug rank)
    (worst' : p.WorstUnder slug rank') : rank = rank' := by
  obtain ⟨⟨m, hm, under, rfl⟩, largest⟩ := worst
  obtain ⟨⟨m', hm', under', rfl⟩, largest'⟩ := worst'
  exact Nat.le_antisymm (largest' m hm under) (largest m' hm' under')

end Feed.Partition

/-! ## What the table keeps -/

theorem get?_ofRows_of_mem [Sorter] {p : Partition} {slug : String}
    (present : ∃ m ∈ p.models, m.slug = slug) :
    ∃ rank, (Ranks.ofRows (rowsOf p)).get? slug = some rank ∧ p.WorstUnder slug rank := by
  obtain ⟨m, hm, under⟩ := present
  obtain ⟨worst, mem, under', found, largest⟩ :=
    lookup_reverse_map (ranked_pairwise p) ⟨m, mem_ranked.mpr hm, under⟩
  refine ⟨p.rankOf worst, ?_, ⟨worst, mem_ranked.mp mem, under', rfl⟩, ?_⟩
  · unfold Ranks.get?
    rw [ofRows_entries, found]
  · exact fun other ho => largest other (mem_ranked.mpr ho)

theorem get?_ofRows_of_not_mem [Sorter] {p : Partition} {slug : String}
    (absent : slug ∉ p.models.map (·.slug)) : (Ranks.ofRows (rowsOf p)).get? slug = none := by
  unfold Ranks.get?
  rw [ofRows_entries, List.lookup_eq_none_iff]
  intro e he
  obtain ⟨m, hm, rfl⟩ := List.mem_map.mp (List.mem_reverse.mp he)
  refine bne_iff_ne.mpr fun same => absent ?_
  exact List.mem_map.mpr ⟨m, mem_ranked.mp hm, same.symm⟩

/-- What stays under a slug is the worst rank of its models. -/
theorem get?_ofRows_iff [Sorter] {p : Partition} {slug : String} {rank : Nat} :
    (Ranks.ofRows (rowsOf p)).get? slug = some rank ↔ p.WorstUnder slug rank := by
  constructor
  · intro found
    by_cases present : slug ∈ p.models.map (·.slug)
    · obtain ⟨kept, found', worst⟩ := get?_ofRows_of_mem (List.mem_map.mp present)
      rw [found, Option.some.injEq] at found'
      rwa [found']
    · rw [get?_ofRows_of_not_mem present] at found
      cases found
  · intro worst
    obtain ⟨m, hm, under, -⟩ := worst.1
    obtain ⟨kept, found, worst'⟩ := get?_ofRows_of_mem ⟨m, hm, under⟩
    rw [found, worst.unique worst']

theorem get?_ofRows_isSome_iff [Sorter] {p : Partition} {slug : String} :
    ((Ranks.ofRows (rowsOf p)).get? slug).isSome = true ↔ slug ∈ p.models.map (·.slug) := by
  constructor
  · intro isSome
    refine Decidable.byContradiction fun absent => ?_
    rw [get?_ofRows_of_not_mem absent] at isSome
    cases isSome
  · intro present
    obtain ⟨_, found, -⟩ := get?_ofRows_of_mem (List.mem_map.mp present)
    rw [found]
    rfl

/-- **The ranks of a table do not depend on the order of the models**, nor on its sort and its
filters. The slugs of the models, and no others, have a rank: the worst among the models under the
slug, from one to the number of models. -/
theorem ranks_reordered [Sorter] (p : Partition) (models : List Model)
    (reordered : models.Perm p.models) :
    (∀ (mode mode' : String) (s s' : ViewState) (slug : String),
      (TableView.of mode' (p.withModels models) s').ranks.get? slug =
        (TableView.of mode p s).ranks.get? slug) ∧
    ∀ (mode : String) (s : ViewState),
      (∀ slug, ((TableView.of mode p s).ranks.get? slug).isSome = true ↔
        slug ∈ p.models.map (·.slug)) ∧
      ∀ slug rank, (TableView.of mode p s).ranks.get? slug = some rank →
        p.WorstUnder slug rank ∧ 1 ≤ rank ∧ rank ≤ p.models.length := by
  refine ⟨fun mode mode' s s' slug => ?_, fun mode s => ⟨fun slug => ?_, ?_⟩⟩
  · change (Ranks.ofRows (rowsOf (p.withModels models))).get? slug =
      (Ranks.ofRows (rowsOf p)).get? slug
    apply Option.ext
    intro rank
    rw [get?_ofRows_iff, get?_ofRows_iff, Feed.Partition.worstUnder_perm reordered]
  · exact get?_ofRows_isSome_iff
  · intro slug rank found
    have worst : p.WorstUnder slug rank := get?_ofRows_iff.mp found
    obtain ⟨m, hm, -, rfl⟩ := worst.1
    exact ⟨worst, Nat.le_add_right 1 _, Feed.Partition.rankOf_le hm⟩

/-- Three totals under one slug and two under the empty one. -/
def namesakes : Partition :=
  contest [scored "a" "middle" (.number (.natural 13 (by decide))), scored "" "word" (.text "none"),
    scored "a" "low" .null, scored "" "high" (.text " 21 "),
    scored "a" "top" (.number (.natural 34 (by decide)))]

/-- The namesakes from the last to the first. -/
theorem ranks_reordered_namesakes :
    namesakes.models.reverse.Perm namesakes.models ∧
      (∀ (mode mode' : String) (s s' : ViewState) (slug : String),
        (TableView.of mode' (namesakes.withModels namesakes.models.reverse) s').ranks.get? slug =
          (TableView.of mode namesakes s).ranks.get? slug) ∧
      ∀ (mode : String) (s : ViewState),
        (∀ slug, ((TableView.of mode namesakes s).ranks.get? slug).isSome = true ↔
          slug ∈ namesakes.models.map (·.slug)) ∧
        ∀ slug rank, (TableView.of mode namesakes s).ranks.get? slug = some rank →
          namesakes.WorstUnder slug rank ∧ 1 ≤ rank ∧ rank ≤ namesakes.models.length :=
  ⟨List.reverse_perm _, ranks_reordered namesakes _ (List.reverse_perm _)⟩

/-- The lowest total of the three ties with the word. -/
example : (TableView.of "m" (namesakes.withModels namesakes.models.reverse) {}).ranks.get? "a" =
    some 4 := by
  decide +kernel

end Leaderboard
