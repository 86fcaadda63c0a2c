/-
# Leaderboard.Navigation.Mode — choosing a partition

A mode is a partition under its key. A requested key that the dataset has is taken, any other
request, and none, gives the first partition.

Main statements: `resolve?_mem` (what is chosen is a partition of the dataset) and
`resolve?_isSome` (a choice fails only for an empty dataset).
-/
import Leaderboard.Feed.Dataset
import Leaderboard.Navigation.Link

set_option autoImplicit false

namespace Leaderboard.Navigation

open Leaderboard.Feed (Dataset Partition)

/-- The key and the partition that a request chooses. -/
def resolve? (d : Dataset) (requested? : Option String) : Option (String × Partition) :=
  (requested?.bind d.find?).or d.partitions.head?

/-- An entry of the navigation. -/
structure Entry where
  slug : String
  label : String
  href : String
  active : Bool
deriving DecidableEq

def Entry.ofMode (active : String) (m : String × Partition) : Entry where
  slug := m.1
  label := m.2.shownLabel m.1
  href := modeUrl m.1
  active := m.1 == active

/-- An entry for every partition, in order. -/
def entries (d : Dataset) (active : String) : List Entry := d.partitions.map (Entry.ofMode active)

/-! ## Lemmas -/

theorem resolve?_mem {d : Dataset} {requested? : Option String} {m : String × Partition}
    (h : resolve? d requested? = some m) : m ∈ d.partitions := by
  unfold resolve? at h
  rw [Option.or_eq_some_iff] at h
  rcases h with h | ⟨-, h⟩
  · obtain ⟨key, -, found⟩ := Option.bind_eq_some_iff.mp h
    exact (Dataset.mem_of_find? found).1
  · exact List.mem_of_head? h

theorem resolve?_isSome (d : Dataset) (requested? : Option String) :
    (resolve? d requested?).isSome = !d.partitions.isEmpty := by
  unfold resolve?
  rw [Option.isSome_or]
  cases e : d.partitions with
  | cons m r => simp
  | nil =>
    cases requested? with
    | none => rfl
    | some key => simp [Dataset.find?, e]

end Leaderboard.Navigation
