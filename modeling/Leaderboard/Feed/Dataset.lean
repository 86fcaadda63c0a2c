/-
# Leaderboard.Feed.Dataset — the whole feed

The feed is an object; each member is a partition under its key. The order of the members is the
order in which partitions are offered. Members that are no partition are left out and noted.

Why a feed or a part of it cannot be read is told in the words of whatever library reads the JSON.
They are not fixed here (`Wording`).

Main statements: `ofMembers_keys_nodup` (the keys of a dataset differ if those of the feed do) and
`mem_of_find?` (looking up a key finds one of the partitions).
-/
import Leaderboard.Feed.Partition
import Leaderboard.Json.Reader

set_option autoImplicit false

namespace Leaderboard.Feed

/-- The partitions of a feed with their keys, in order. -/
structure Dataset where
  partitions : List (String × Partition)

/-- What is left out while a feed is decoded, with the value that is no such thing. -/
inductive Skip where
  | record (kind : RecordKind) (value : Json)
  | partition (key : String) (value : Json)

/-- A partition that names no slug takes its key. -/
def Partition.named (key : String) (p : Partition) : Partition :=
  if p.slug.isEmpty then { p with slug := key } else p

namespace Dataset

/-- The partition of one member of the feed. -/
def partitionOf? (m : String × Json) : Option (String × Partition) :=
  (Partition.ofJson? m.2).map fun p => (m.1, p.named m.1)

def ofMembers (members : List (String × Json)) : Dataset := ⟨members.filterMap partitionOf?⟩

/-- The records and partitions left out, in the order in which they are met. -/
def skipsOf (members : List (String × Json)) : List Skip :=
  members.flatMap fun m =>
    (Partition.skips m.2).map (fun s => .record s.1 s.2) ++
      if (Partition.ofJson? m.2).isSome then [] else [.partition m.1 m.2]

/-- Decodes a feed. -/
def ofBytes? (bytes : List UInt8) : Except Json.Fault Dataset :=
  (Json.readObject? bytes).map ofMembers

/-- What decoding a feed leaves out; nothing when the feed is no JSON object. -/
def skipsOfBytes (bytes : List UInt8) : List Skip :=
  match Json.readObject? bytes with
  | .ok members => skipsOf members
  | .error _ => []

def keys (d : Dataset) : List String := d.partitions.map (·.1)

/-- The partition under a key. -/
def find? (d : Dataset) (key : String) : Option (String × Partition) :=
  d.partitions.find? (·.1 == key)

/-! ## Lemmas -/

theorem ofMembers_keys_sublist (members : List (String × Json)) :
    List.Sublist (ofMembers members).keys (members.map (·.1)) := by
  unfold keys ofMembers
  induction members with
  | nil => exact List.Sublist.refl _
  | cons m r ih =>
    unfold partitionOf? at ih ⊢
    cases h : Partition.ofJson? m.2 with
    | none =>
      rw [List.filterMap_cons_none (by simp [h])]
      exact ih.cons _
    | some p =>
      rw [List.filterMap_cons_some (by rw [h]; rfl)]
      exact ih.cons_cons _

theorem ofMembers_keys_nodup {members : List (String × Json)}
    (distinct : (members.map (·.1)).Nodup) : (ofMembers members).keys.Nodup :=
  (ofMembers_keys_sublist members).nodup distinct

theorem mem_of_find? {d : Dataset} {key : String} {m : String × Partition}
    (h : d.find? key = some m) : m ∈ d.partitions ∧ m.1 = key :=
  ⟨List.mem_of_find?_eq_some h, by simpa using List.find?_some h⟩

end Dataset

end Leaderboard.Feed

namespace Leaderboard

/-- The words in which the library that reads JSON tells what is wrong. -/
class Wording where
  /-- Why bytes are no JSON object. -/
  unread : List UInt8 → String
  /-- Why a value is left out. -/
  unfit : Feed.Skip → String

/-- The words that programs are run with. -/
instance Wording.plain : Wording where
  unread _ := "not a JSON object"
  unfit
    | .record kind _ => "not a " ++ kind.name ++ " record"
    | .partition _ _ => "not a partition"

end Leaderboard
