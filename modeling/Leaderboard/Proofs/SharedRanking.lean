/-
# Leaderboard.Proofs.SharedRanking — the table and the breakdown rank the same models

The table ranks rows, the breakdown ranks models; both sort by the benchmark total and count the
higher totals. A row has the total of its model, so the two orders are one order of models
(`byScore_rowsOf`), and in its default state the table lists the models as the breakdown does
(`default_rows_eq_panels`).

The ranks themselves agree with one exception. The breakdown keeps them by place and the table by
slug, where later entries hide earlier ones. Entries come in the order of ranks, so a slug shows the
worst rank among its models (`lookup_reverse_map`), and a row shows the rank of its own model
exactly when no model under the same slug has a lower total (`rank_shown_iff`).

Pole: `twins_share_a_rank` (two models under one slug, of which the better shows the rank of the
other).
-/
import Leaderboard.Breakdown
import Leaderboard.Proofs.CompetitionRank
import Leaderboard.Proofs.FilteredTable

set_option autoImplicit false

namespace Leaderboard

open Leaderboard.Feed (Partition Model)

/-! ## One order of models -/

/-- The rank of a model: one more than the number of models with a higher total. -/
def Feed.Partition.rankOf (p : Partition) (m : Model) : Nat :=
  1 + p.models.countP fun other => (p.totalOf m).lt (p.totalOf other)

/-- The models by their totals, highest first. -/
def Feed.Partition.ranked (p : Partition) : List Model :=
  Sorting.stableSort (Ranking.notBelow p.totalOf) p.models

theorem Feed.Partition.totals (p : Partition) : ∀ m ∈ p.models, (p.totalOf m).isNan = false :=
  fun m _ => p.totalOf_isNan m

theorem mem_ranked {p : Partition} {m : Model} : m ∈ p.ranked ↔ m ∈ p.models :=
  (Sorting.stableSort_perm _ p.models).mem_iff

theorem byScore_rowsOf [Sorter] (p : Partition) :
    Ranking.byScore (·.total) (rowsOf p) = p.ranked.map (Row.ofModel p) := by
  have mapped : p.ranked.map (Row.ofModel p) =
      Sorting.stableSort (Ranking.notBelow (·.total)) (p.models.map (Row.ofModel p)) :=
    Sorting.stableSort_map fun _ _ _ _ => rfl
  rw [Ranking.byScore_eq (rowsOf_totals p), mapped, rowsOf]

theorem rankOf_ofModel (p : Partition) (m : Model) :
    Ranking.rankOf (·.total) (rowsOf p) (Row.ofModel p m) = p.rankOf m := by
  unfold Ranking.rankOf rowsOf
  rw [List.countP_map]
  rfl

theorem modelPanels_eq [Sorter] (p : Partition) :
    modelPanels p = p.ranked.map fun m => ModelPanel.of p (p.rankOf m) m := by
  unfold modelPanels
  rw [Ranking.rankBy_eq p.totals, Ranking.byScore_eq p.totals, List.map_map]
  rfl

/-- Models can always be ranked. -/
theorem Breakdown.fault?_of [Sorter] (p : Partition) (e : Feed.Explanations)
    (fragment? : Option String) : (Breakdown.of p e fragment?).fault? = none := by
  change (Ranking.sortByScore p.totalOf p.models).fault? = none
  rw [Ranking.sortByScore_eq p.totals]

theorem ofRows_entries [Sorter] (p : Partition) :
    (Ranks.ofRows (rowsOf p)).entries = p.ranked.map fun m => (m.slug, p.rankOf m) := by
  unfold Ranks.ofRows
  rw [Ranking.rankBy_eq (rowsOf_totals p), byScore_rowsOf, List.map_map, List.map_map]
  refine List.map_congr_left fun m _ => ?_
  exact congrArg (Prod.mk m.slug) (rankOf_ofModel p m)

theorem ranked_pairwise (p : Partition) :
    p.ranked.Pairwise fun a b => p.rankOf a ≤ p.rankOf b :=
  (Ranking.notBelow_consistent p.totals).stableSort_pairwise.imp_of_mem fun ha hb before =>
    have ha := mem_ranked.mp ha
    have hb := mem_ranked.mp hb
    Ranking.rankOf_le_of_le p.totals ha hb ((Ranking.notBelow_iff p.totals ha hb).mp before)

/-! ## Ranks by slug -/

/-- Of entries in ascending order, the last under a key has the largest value under that key. -/
theorem lookup_reverse_map {α : Type} {key : α → String} {value : α → Nat} {items : List α}
    (ascending : items.Pairwise fun a b => value a ≤ value b) {k : String}
    (present : ∃ a ∈ items, key a = k) :
    ∃ a ∈ items, key a = k ∧
      (items.map fun b => (key b, value b)).reverse.lookup k = some (value a) ∧
      ∀ b ∈ items, key b = k → value b ≤ value a := by
  induction items with
  | nil =>
      obtain ⟨a, ha, -⟩ := present
      exact absurd ha List.not_mem_nil
  | cons b r ih =>
      obtain ⟨first, rest⟩ := List.pairwise_cons.mp ascending
      rw [List.map_cons, List.reverse_cons]
      by_cases later : ∃ a ∈ r, key a = k
      · obtain ⟨a, ha, hk, found, largest⟩ := ih rest later
        refine ⟨a, List.mem_cons_of_mem b ha, hk, ?_, ?_⟩
        · rw [List.lookup_append, found]
          rfl
        · intro c hc same
          rcases List.mem_cons.mp hc with rfl | inRest
          · exact first a ha
          · exact largest c inRest same
      · obtain ⟨a, ha, hk⟩ := present
        have here : key b = k := by
          rcases List.mem_cons.mp ha with rfl | inRest
          · exact hk
          · exact absurd ⟨a, inRest, hk⟩ later
        have hidden : (r.map fun c => (key c, value c)).reverse.lookup k = none := by
          rw [List.lookup_eq_none_iff]
          intro e he
          obtain ⟨c, hc, rfl⟩ := List.mem_map.mp (List.mem_reverse.mp he)
          exact bne_iff_ne.mpr fun same => later ⟨c, hc, same.symm⟩
        refine ⟨b, List.mem_cons_self, here, ?_, ?_⟩
        · rw [List.lookup_append, hidden, Option.none_or, ← here]
          exact List.lookup_cons_self
        · intro c hc same
          rcases List.mem_cons.mp hc with rfl | inRest
          · exact Nat.le_refl _
          · exact absurd ⟨c, inRest, same⟩ later

/-- A row shows the worst rank among the models under its slug. -/
theorem rankOf?_eq [Sorter] (mode : String) {p : Partition} (s : ViewState) {m : Model}
    (hm : m ∈ p.models) :
    ∃ worst ∈ p.models, worst.slug = m.slug ∧
      (TableView.of mode p s).rankOf? (Row.ofModel p m) = some (p.rankOf worst) ∧
      ∀ other ∈ p.models, other.slug = m.slug → p.rankOf other ≤ p.rankOf worst := by
  obtain ⟨worst, mem, slug, found, largest⟩ :=
    lookup_reverse_map (ranked_pairwise p) ⟨m, mem_ranked.mpr hm, rfl⟩
  refine ⟨worst, mem_ranked.mp mem, slug, ?_, fun other ho => largest other (mem_ranked.mpr ho)⟩
  change (Ranks.ofRows (rowsOf p)).entries.reverse.lookup m.slug = _
  rw [ofRows_entries, found]

theorem ranked_eq_map_order (p : Partition) : p.ranked =
    (Sorting.order (Ranking.notBelow p.totalOf) p.models).map fun i => p.models[i] :=
  Sorting.stableSort_eq_map_order (Ranking.notBelow p.totalOf) p.models

/-- A row shows the rank of its model unless a model under the same slug has a lower total. -/
theorem rankOf?_eq_iff [Sorter] (mode : String) {p : Partition} (s : ViewState) {m : Model}
    (hm : m ∈ p.models) :
    (TableView.of mode p s).rankOf? (Row.ofModel p m) = some (p.rankOf m) ↔
      ∀ other ∈ p.models, other.slug = m.slug → (p.totalOf other).lt (p.totalOf m) = false := by
  obtain ⟨worst, mem, slug, shown, largest⟩ := rankOf?_eq mode s hm
  have lower (other : Model) (ho : other ∈ p.models) :
      p.rankOf m < p.rankOf other ↔ (p.totalOf other).lt (p.totalOf m) = true :=
    Ranking.rankOf_lt_iff p.totals hm ho
  rw [shown, Option.some.injEq]
  constructor
  · intro same other ho slug'
    rw [← Bool.not_eq_true, ← lower other ho]
    have := largest other ho slug'
    omega
  · intro noneLower
    have notLower := noneLower worst mem slug
    rw [← Bool.not_eq_true, ← lower worst mem] at notLower
    have := largest m hm rfl
    omega

/-- **Where the ranks agree.** The breakdown gives each model the count of the totals above its
own. The table shows the worst rank under a row's slug, which is the rank of the row's own model
unless a model under the same slug has a lower total. -/
theorem rank_shown_iff [Sorter] (mode : String) (p : Partition) (s : ViewState) :
    ∃ order : List (Fin p.models.length), order.Perm (List.finRange p.models.length) ∧
      modelPanels p = order.map (fun i => ModelPanel.of p (p.rankOf p.models[i]) p.models[i]) ∧
      ∀ i : Fin p.models.length,
        (∃ worst ∈ p.models, worst.slug = p.models[i].slug ∧
          (TableView.of mode p s).rankOf? (Row.ofModel p p.models[i]) = some (p.rankOf worst) ∧
          ∀ other ∈ p.models, other.slug = p.models[i].slug → p.rankOf other ≤ p.rankOf worst) ∧
        ((TableView.of mode p s).rankOf? (Row.ofModel p p.models[i]) =
            some (p.rankOf p.models[i]) ↔
          ∀ other ∈ p.models, other.slug = p.models[i].slug →
            (p.totalOf other).lt (p.totalOf p.models[i]) = false) := by
  refine ⟨_, Sorting.order_perm (Ranking.notBelow p.totalOf) p.models, ?_, fun i => ?_⟩
  · rw [modelPanels_eq, ranked_eq_map_order, List.map_map]
    rfl
  · have hm := List.getElem_mem i.2
    exact ⟨rankOf?_eq mode s hm, rankOf?_eq_iff mode s hm⟩

/-! ## The table as it opens -/

theorem before_total_eq (p : Partition) (a b : Model) :
    Row.before Column.totalKey .descending (Row.ofModel p a) (Row.ofModel p b) =
      Ranking.notBelow p.totalOf a b := by
  unfold Row.before Ranking.notBelow Binary64.lt
  rw [Row.get_total, Row.get_total]
  change (Ordering.swap (((p.totalOf a).compare? (p.totalOf b)).getD .eq)).isLE = _
  cases (p.totalOf a).compare? (p.totalOf b) with
  | none => rfl
  | some o => cases o <;> rfl

theorem sortByKey_total [Sorter] (p : Partition) :
    sortByKey Column.totalKey .descending (rowsOf p) =
      { items := p.ranked.map (Row.ofModel p) } := by
  have agree : ∀ a ∈ p.models, ∀ b ∈ p.models, Ranking.notBelow p.totalOf a b =
      Row.before Column.totalKey .descending (Row.ofModel p a) (Row.ofModel p b) :=
    fun a _ b _ => (before_total_eq p a b).symm
  have consistent := (Ranking.notBelow_consistent p.totals).map agree
  rw [Feed.Partition.ranked, Sorting.stableSort_map agree]
  exact Sorter.sorted consistent

theorem filterRows_of_no_active {columns : List Column} {f : Filters} {rows : List Row}
    (quiet : f.active = []) : filterRows columns f rows = rows := by
  unfold filterRows constraints
  rw [quiet]
  exact List.filter_eq_self.mpr fun _ _ => rfl

/-- **The table opens with the models in the order of the breakdown**, whatever the explanations
and the fragment, and neither can fail. -/
theorem default_rows_eq_panels [Sorter] (mode : String) (p : Partition) (s : ViewState)
    (e : Feed.Explanations) (fragment? : Option String)
    (column : s.sortKey? = none ∨ s.sortKey? = some Column.totalKey)
    (highest : s.direction = .descending) (quiet : s.filters.active = []) :
    (TableView.of mode p s).fault? = none ∧ (Breakdown.of p e fragment?).fault? = none ∧
      (TableView.of mode p s).rows.map (fun r => (r.slug, r.name, r.total)) =
        (Breakdown.of p e fragment?).panels.map fun m => (m.slug, m.name, m.total) := by
  have key : TableView.keyOf mode p s.sortKey? = Column.totalKey := by
    unfold TableView.keyOf
    rcases column with unset | total
    · rw [unset]
    · rw [total]
      exact ite_self _
  have sorted := sortByKey_total p
  refine ⟨?_, Breakdown.fault?_of p e fragment?, ?_⟩
  · rw [TableView.fault?_of, key, highest, filterRows_of_no_active quiet, sorted]
  · change _ = (modelPanels p).map _
    rw [TableView.rows_of, key, highest, filterRows_of_no_active quiet, sortRows, sorted,
      modelPanels_eq, List.map_map, List.map_map]
    rfl

/-! ## Poles -/

/-- A model with a total in the benchmark that partitions have by default. -/
def scored (slug name : String) (total : Json) : Model where
  slug
  name
  stats := []
  benchmarks := [("vibe", ⟨total, .null, .null⟩)]
  generations := []

/-- A partition that has models only. -/
def contest (models : List Model) : Partition where
  slug := ""
  label? := none
  title? := none
  benchmark? := none
  headers := []
  models
  prompts := []

/-- Two models under one slug. -/
def twins : Partition :=
  contest [scored "a" "A" (.number (.natural 10 (by decide))),
    scored "a" "B" (.number (.natural 8 (by decide)))]

/-- The better of two models under one slug is first in the breakdown, and the table shows it as
second. -/
theorem twins_share_a_rank :
    (modelPanels twins).map (fun m => (m.name, m.rank)) = [("A", 1), ("B", 2)] ∧
      (TableView.of "m" twins {}).rows.map
          (fun r => (r.name, (TableView.of "m" twins {}).rankOf? r)) =
        [("A", some 2), ("B", some 2)] := by
  decide +kernel

/-- Ties of all kinds: a negative zero, a zero, a text that is no number and no total at all, under
repeated and empty slugs. -/
def tied : Partition :=
  contest [scored "a" "minus" (.number (.finite true 0 (by decide))), scored "" "none" .null,
    scored "a" "zero" (.text " 0 "), scored "b" "best" (.text "7"),
    scored "" "word" (.text "seven")]

/-- The benchmark total chosen by hand, and a blank filter. -/
def totalChosen : ViewState :=
  { sortKey? := some Column.totalKey, filters := ⟨[("name", " ")]⟩ }

/-- A blank filter and the benchmark total chosen by hand change nothing. -/
theorem default_rows_eq_panels_tied :
    (TableView.of "m" tied totalChosen).fault? = none ∧
      (Breakdown.of tied ⟨[]⟩ (some "#b")).fault? = none ∧
      (TableView.of "m" tied totalChosen).rows.map (fun r => (r.slug, r.name, r.total)) =
        (Breakdown.of tied ⟨[]⟩ (some "#b")).panels.map fun m => (m.slug, m.name, m.total) :=
  default_rows_eq_panels "m" tied _ ⟨[]⟩ (some "#b") (.inr rfl) rfl (by decide +kernel)

example : (modelPanels tied).map (·.name) = ["best", "minus", "none", "zero", "word"] := by
  decide +kernel

end Leaderboard
