/-
# Leaderboard.Proofs.ReachablePage — the page stays at one partition of its dataset

Whatever the reader does, the page shows a partition of the dataset under its key (`Sound`): sorting
and filtering leave mode and partition as they are, and choosing a mode opens the page anew, for
which a partition is always found once there is one. `Sound.step` is this for one step, `Sound.run`
for a run.

The rest follows from it and from the keys of a decoded feed, which differ: the mode is the key of
one partition alone (`Sound.isAt`), so the navigation has one active entry, and choosing the mode of
an entry finds the partition of that entry and no earlier one (`find?_of_mem`).

* `run_isAt`: this, for every feed, every requested mode and every run.
-/
import Leaderboard.Explorer
import Leaderboard.Proofs.FeedPartitions

set_option autoImplicit false

namespace Leaderboard

open Leaderboard.Feed (Dataset Partition)

/-! ## Distinct keys -/

theorem Feed.keys_nodup {bytes : List UInt8} {d : Dataset}
    (decoded : Dataset.ofBytes? bytes = .ok d) : d.keys.Nodup := by
  obtain ⟨entries, -, rfl⟩ := Feed.ofBytes?_eq_ok_iff.mp decoded
  exact Dataset.ofMembers_keys_nodup (Json.nodup_keys_ofWrites entries)

/-- Looking up the key of a partition finds that partition. -/
theorem Feed.find?_of_mem {d : Dataset} (distinct : d.keys.Nodup) {m : String × Partition}
    (mem : m ∈ d.partitions) : d.find? m.1 = some m := by
  cases found : d.find? m.1 with
  | none => exact absurd (beq_self_eq_true m.1) (List.find?_eq_none.mp found m mem)
  | some n =>
      obtain ⟨there, key⟩ := Dataset.mem_of_find? found
      rw [List.inj_on_of_nodup_map distinct there mem key]

namespace TableView

theorem sortKeyOf_mem {columns : List Column} {chosen? : Option String} {key : String}
    (sorted : sortKeyOf columns chosen? = some key) : ∃ c ∈ columns, c.key = key := by
  obtain ⟨c, from?, rfl⟩ := Option.map_eq_some_iff.mp sorted
  refine ⟨c, ?_, rfl⟩
  rcases Option.or_eq_some_iff.mp from? with chosen | ⟨-, default⟩
  · obtain ⟨_, -, found⟩ := Option.bind_eq_some_iff.mp (Option.filter_eq_some_iff.mp chosen).1
    exact List.mem_of_find?_eq_some found
  · rcases Option.or_eq_some_iff.mp default with first | ⟨-, other⟩
    · exact List.mem_of_find?_eq_some first
    · exact List.mem_of_find?_eq_some other

end TableView

namespace Explorer

variable {d : Dataset} {e : Explorer}

/-! ## The invariant -/

/-- The page shows a partition of a dataset under its key. -/
structure Sound (d : Dataset) (e : Explorer) : Prop where
  dataset : e.dataset = d
  shown : (e.mode, e.partition) ∈ d.partitions

theorem open?_sound (nonempty : d.partitions ≠ []) (requested? : Option String) :
    ∃ e, open? d requested? = some e ∧ e.Sound d := by
  have some : (Navigation.resolve? d requested?).isSome = true := by
    rw [Navigation.resolve?_isSome, List.isEmpty_eq_false_iff.mpr nonempty]
    rfl
  obtain ⟨m, resolved⟩ := Option.isSome_iff_exists.mp some
  refine ⟨opened d m, ?_, rfl, Navigation.resolve?_mem resolved⟩
  unfold open?
  rw [resolved]
  rfl

theorem Sound.select? (sound : e.Sound d) (slug : String) :
    ∃ e', e.select? slug = some e' ∧ open? d (some slug) = some e' ∧ e'.Sound d := by
  obtain ⟨e', opened, next⟩ := open?_sound (List.ne_nil_of_mem sound.shown) (some slug)
  refine ⟨e', ?_, opened, next⟩
  unfold Explorer.select?
  rw [sound.dataset]
  exact opened

/-- A step never fails and leaves the page at a partition. -/
theorem Sound.step (sound : e.Sound d) (s : Step) : ∃ e', e.step? s = some e' ∧ e'.Sound d := by
  cases s with
  | toggle key => exact ⟨_, rfl, sound.dataset, sound.shown⟩
  | sort key direction => exact ⟨_, rfl, sound.dataset, sound.shown⟩
  | filter key text => exact ⟨_, rfl, sound.dataset, sound.shown⟩
  | select slug =>
      obtain ⟨e', selected, -, next⟩ := sound.select? slug
      exact ⟨e', selected, next⟩

theorem Sound.run (steps : List Step) :
    ∀ {e : Explorer}, e.Sound d → ∃ e', e.run? steps = some e' ∧ e'.Sound d := by
  induction steps with
  | nil => exact fun sound => ⟨_, rfl, sound⟩
  | cons s r ih =>
      intro e sound
      obtain ⟨next, stepped, there⟩ := sound.step s
      obtain ⟨last, ran, here⟩ := ih there
      refine ⟨last, ?_, here⟩
      unfold run?
      rw [stepped]
      exact ran

/-! ## What the page shows -/

/-- The page is at one partition of the dataset. -/
structure IsAt [Sorter] (d : Dataset) (i : Fin d.partitions.length) (e : Explorer) : Prop where
  current : d.partitions[i] = (e.mode, e.partition)
  /-- No other partition has the key. -/
  only : ∀ j : Fin d.partitions.length, d.partitions[j].1 = e.mode → j = i
  /-- All partitions in order; the current one, and it alone, is active. -/
  navigation : e.navigation = d.partitions.mapIdx fun j m =>
    { slug := m.1, label := m.2.shownLabel m.1, href := Navigation.modeUrl m.1, active := j == i }
  sorted : ∃ c ∈ e.view.columns, e.view.sortKey? = some c.key
  /-- Choosing a mode forgets what was done before. -/
  select : ∀ slug, ∃ e', e.select? slug = some e' ∧ open? d (some slug) = some e'
  entries : ∀ (j : Nat) (n : Navigation.Entry), e.navigation[j]? = some n →
    ∃ e', e.select? n.slug = some e' ∧ d.partitions[j]? = some (e'.mode, e'.partition)

theorem select?_of_mem (distinct : d.keys.Nodup) (sound : e.Sound d) {m : String × Partition}
    (mem : m ∈ d.partitions) :
    ∃ e', e.select? m.1 = some e' ∧ (e'.mode, e'.partition) = m := by
  refine ⟨opened d m, ?_, rfl⟩
  unfold select? open? Navigation.resolve?
  rw [sound.dataset, Option.bind_some, Feed.find?_of_mem distinct mem]
  rfl

theorem Sound.navigation_eq (sound : e.Sound d) :
    e.navigation = d.partitions.map (Navigation.Entry.ofMode e.mode) := by
  unfold navigation Navigation.entries
  rw [sound.dataset]

theorem Sound.isAt [Sorter] (distinct : d.keys.Nodup) (sound : e.Sound d) : ∃ i, e.IsAt d i := by
  obtain ⟨i, hi, here⟩ := List.getElem_of_mem sound.shown
  have keyAt : ∀ j (hj : j < d.partitions.length), d.keys[j]? = some d.partitions[j].1 := by
    intro j hj
    simp [Dataset.keys, hj]
  have key_iff : ∀ j (hj : j < d.partitions.length), d.partitions[j].1 = e.mode ↔ j = i := by
    intro j hj
    constructor
    · intro key
      have within : j < d.keys.length := by simpa [Dataset.keys] using hj
      exact (List.getElem?_inj within distinct).mp (by rw [keyAt j hj, keyAt i hi, key, here])
    · rintro rfl
      rw [here]
  refine ⟨⟨i, hi⟩, ?_⟩
  constructor
  case current => exact here
  case only => exact fun j key => Fin.ext ((key_iff j j.isLt).mp key)
  case navigation =>
    rw [sound.navigation_eq]
    refine List.ext_getElem (by simp) fun j hj _ => ?_
    have inside : j < d.partitions.length := by simpa using hj
    rw [List.getElem_map, List.getElem_mapIdx]
    unfold Navigation.Entry.ofMode
    congr 1
    rw [Bool.eq_iff_iff, beq_iff_eq, beq_iff_eq]
    exact key_iff j inside
  case sorted =>
    obtain ⟨key, sorted⟩ := Option.isSome_iff_exists.mp
      (TableView.sortKeyOf_isSome e.mode e.partition e.state.sortKey?)
    obtain ⟨c, mem, rfl⟩ := TableView.sortKeyOf_mem sorted
    exact ⟨c, mem, sorted⟩
  case select =>
    intro slug
    obtain ⟨e', selected, opened, -⟩ := sound.select? slug
    exact ⟨e', selected, opened⟩
  case entries =>
    intro j n entry
    rw [sound.navigation_eq, List.getElem?_map] at entry
    obtain ⟨m, place, rfl⟩ := Option.map_eq_some_iff.mp entry
    obtain ⟨e', selected, current⟩ := select?_of_mem distinct sound (List.mem_of_getElem? place)
    exact ⟨e', selected, place.trans (congrArg some current.symm)⟩

/-- **The page is always at one partition of its dataset**, and choosing a mode opens that mode
anew. -/
theorem run_isAt [Sorter] {bytes : List UInt8} (decoded : Dataset.ofBytes? bytes = .ok d)
    (nonempty : d.partitions ≠ []) (requested? : Option String) (steps : List Step) :
    ∃ first e, open? d requested? = some first ∧ first.run? steps = some e ∧ ∃ i, e.IsAt d i := by
  obtain ⟨first, opened, start⟩ := open?_sound nonempty requested?
  obtain ⟨e, ran, sound⟩ := start.run steps
  exact ⟨first, e, opened, ran, sound.isAt (Feed.keys_nodup decoded)⟩

/-! ## Poles -/

/-- A feed with a repeated key, and what remains under it. -/
def repeatedText : List UInt8 :=
  Text.Utf8.bytes (Json.object [("a", .null), ("b", .object []), ("a", .object [])]).render

def repeated : Dataset := .ofMembers [("a", .object []), ("b", .object [])]

set_option maxRecDepth 4096 in
theorem ofBytes?_repeatedText : Dataset.ofBytes? repeatedText = .ok repeated := by
  with_unfolding_all rfl

theorem run_isAt_repeated :
    Dataset.ofBytes? repeatedText = .ok repeated ∧ repeated.partitions ≠ [] ∧
      ∃ first e, open? repeated (some "c") = some first ∧
        first.run? [.toggle "name", .filter "name" "x", .select "b"] = some e ∧
        ∃ i, e.IsAt repeated i :=
  ⟨ofBytes?_repeatedText, List.cons_ne_nil _ _,
    run_isAt ofBytes?_repeatedText (List.cons_ne_nil _ _) (some "c")
      [.toggle "name", .filter "name" "x", .select "b"]⟩

end Explorer

end Leaderboard
