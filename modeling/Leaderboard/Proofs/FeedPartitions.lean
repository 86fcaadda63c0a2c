/-
# Leaderboard.Proofs.FeedPartitions — which partitions a feed has

A feed is decoded whenever its bytes are a document with an object at the top; what is inside never
fails it. In that document a key may come more than once: its last value counts, at the place of its
first entry. The value is a partition or is left out, by its kind alone (`partitionOf?_isSome`):
the fields of a partition have one spelling each, so no object gives one of them twice.

Decoding goes through the members one by one and their keys differ, so looking up a key decodes the
value under that key and no other (`find?_ofMembers`).

* `partitions_of_document`: this, for all bytes.
-/
import Leaderboard.Feed.Dataset
import Leaderboard.Proofs.ObjectRecord

set_option autoImplicit false

namespace Leaderboard.Feed

/-! ## Entries of a document -/

/-- The value of the last entry under a key. -/
def lastUnder? (entries : List (String × Json)) (key : String) : Option Json :=
  entries.reverse.lookup key

/-- Entries under other keys may be replaced by others, added or removed. -/
theorem lastUnder?_edit {key : String} {front mid mid' back : List (String × Json)}
    (others : key ∉ mid.map (·.1)) (others' : key ∉ mid'.map (·.1)) :
    lastUnder? (front ++ mid ++ back) key = lastUnder? (front ++ mid' ++ back) key := by
  have skipped : ∀ {l : List (String × Json)}, key ∉ l.map (·.1) → l.reverse.lookup key = none :=
    fun other => lookup_of_not_mem (by rwa [List.map_reverse, List.mem_reverse])
  unfold lastUnder?
  simp only [List.reverse_append, List.lookup_append, skipped others, skipped others',
    Option.none_or]

/-! ## Members as partitions -/

/-- A value that is read as a partition: an object, or an array of at most seven items. -/
def isPartition : Json → Bool
  | .object _ => true
  | .array items => items.length ≤ 7
  | _ => false

theorem partitionOf?_isSome {v : Json} (distinct : v.Distinct) (key : String) :
    (Dataset.partitionOf? (key, v)).isSome = isPartition v := by
  unfold Dataset.partitionOf? Partition.ofJson?
  rw [Option.isSome_map, Reading.build?_isSome]
  cases v with
  | object members =>
      exact Reading.object_complete_of_plain (by decide) distinct.of_object.1
  | array items => rfl
  | _ => rfl

theorem key_of_partitionOf? {m : String × Json} {p : String × Partition}
    (decoded : Dataset.partitionOf? m = some p) : p.1 = m.1 := by
  obtain ⟨_, -, rfl⟩ := Option.map_eq_some_iff.mp decoded
  rfl

theorem keys_ofMembers {members : List (String × Json)} (each : ∀ m ∈ members, m.2.Distinct) :
    (Dataset.ofMembers members).keys = (members.filter fun m => isPartition m.2).map (·.1) := by
  change (members.filterMap Dataset.partitionOf?).map (·.1) = _
  induction members with
  | nil => rfl
  | cons m r ih =>
      have kind := partitionOf?_isSome (each m List.mem_cons_self) m.1
      have rest := ih fun m' hm' => each m' (List.mem_cons_of_mem _ hm')
      cases decoded : Dataset.partitionOf? m with
      | none =>
          rw [decoded] at kind
          rw [List.filterMap_cons_none decoded, List.filter_cons_of_neg (by simp [← kind]), rest]
      | some p =>
          rw [decoded] at kind
          rw [List.filterMap_cons_some decoded, List.filter_cons_of_pos (by simp [← kind]),
            List.map_cons, List.map_cons, rest, key_of_partitionOf? decoded]

/-- Looking up a key decodes the value under it. -/
theorem find?_ofMembers {members : List (String × Json)} (distinct : (members.map (·.1)).Nodup)
    (key : String) :
    (Dataset.ofMembers members).find? key =
      (Json.get? members key).bind fun v => Dataset.partitionOf? (key, v) := by
  change (members.filterMap Dataset.partitionOf?).find? (·.1 == key) =
    (members.lookup key).bind fun v => Dataset.partitionOf? (key, v)
  induction members with
  | nil => rfl
  | cons m r ih =>
      obtain ⟨once, rest⟩ := List.nodup_cons.mp distinct
      rw [List.lookup_cons]
      by_cases same : key = m.1
      · subst same
        have absent : r.lookup m.1 = none := lookup_of_not_mem once
        rw [beq_self_eq_true]
        change _ = Dataset.partitionOf? m
        cases decoded : Dataset.partitionOf? m with
        | none => rw [List.filterMap_cons_none decoded, ih rest, absent, Option.bind_none]
        | some p =>
            have found : (p.1 == m.1) = true := beq_iff_eq.mpr (key_of_partitionOf? decoded)
            rw [List.filterMap_cons_some decoded, List.find?_cons, found]
      · rw [beq_eq_false_iff_ne.mpr same]
        change _ = (r.lookup key).bind fun v => Dataset.partitionOf? (key, v)
        cases decoded : Dataset.partitionOf? m with
        | none => rw [List.filterMap_cons_none decoded, ih rest]
        | some p =>
            have other : (p.1 == key) = false := by
              rw [key_of_partitionOf? decoded]
              exact beq_eq_false_iff_ne.mpr (Ne.symm same)
            rw [List.filterMap_cons_some decoded, List.find?_cons, other]
            exact ih rest

/-! ## The partitions of a document -/

theorem Partition.named_slug {key : String} {p : Partition} (empty : (p.named key).slug = "") :
    key = "" := by
  unfold Partition.named at empty
  split at empty
  · exact empty
  · rename_i given
    exact absurd (by simp [empty]) given

/-- What a dataset has of the entries that it was read from. -/
structure Dataset.ReadFrom (entries : List (String × Json)) (d : Dataset) : Prop where
  distinct : d.keys.Nodup
  /-- Keys stand where they came first, and are kept by the kind of their last value. -/
  keys : d.keys = (entries.map (·.1)).eraseDups.filter fun key =>
    (lastUnder? entries key).any isPartition
  /-- A partition comes from its key and the last value under it. -/
  own : ∀ key, d.find? key =
    (lastUnder? entries key).bind fun v => Dataset.partitionOf? (key, v)
  slug : ∀ m ∈ d.partitions, m.2.slug = "" → m.1 = ""

theorem readFrom_ofWrites {entries : List (String × Json)}
    (distinct : (Json.object (Json.ofWrites entries)).Distinct) :
    (Dataset.ofMembers (Json.ofWrites entries)).ReadFrom entries where
  distinct := Dataset.ofMembers_keys_nodup (Json.nodup_keys_ofWrites entries)
  keys := by
    have value : ∀ m ∈ Json.ofWrites entries, lastUnder? entries m.1 = some m.2 := fun m hm =>
      (Json.get?_ofWrites entries m.1).symm.trans
        (lookup_of_mem (Json.nodup_keys_ofWrites entries) hm)
    rw [keys_ofMembers distinct.of_object.2, ← Json.keys_ofWrites, List.filter_map]
    congr 1
    refine List.filter_congr fun m hm => ?_
    change _ = (lastUnder? entries m.1).any isPartition
    rw [value m hm, Option.any_some]
  own key := by
    rw [find?_ofMembers (Json.nodup_keys_ofWrites entries), Json.get?_ofWrites]
    rfl
  slug m hm empty := by
    obtain ⟨w, -, decoded⟩ := List.mem_filterMap.mp hm
    obtain ⟨p, -, rfl⟩ := Option.map_eq_some_iff.mp decoded
    exact Partition.named_slug empty

theorem ofBytes?_eq_ok_iff {bytes : List UInt8} {d : Dataset} :
    Dataset.ofBytes? bytes = .ok d ↔
      ∃ entries, Json.WritesObject entries (Json.Token.sequence bytes) ∧
        Dataset.ofMembers (Json.ofWrites entries) = d := by
  unfold Dataset.ofBytes?
  constructor
  · intro ok
    cases read : Json.readObject? bytes with
    | error fault =>
        rw [read] at ok
        cases ok
    | ok members =>
        rw [read] at ok
        cases ok
        obtain ⟨entries, written, rfl⟩ := Json.readObject?_eq_ok_iff.mp read
        exact ⟨entries, written, rfl⟩
  · rintro ⟨entries, written, rfl⟩
    rw [Json.readObject?_eq_ok_iff.mpr ⟨entries, written, rfl⟩]
    rfl

theorem exists_readFrom {bytes : List UInt8} {entries : List (String × Json)}
    (written : Json.WritesObject entries (Json.Token.sequence bytes)) :
    ∃ d, Dataset.ofBytes? bytes = .ok d ∧ d.ReadFrom entries := by
  have read := Json.readObject?_eq_ok_iff.mpr ⟨entries, written, rfl⟩
  exact ⟨_, ofBytes?_eq_ok_iff.mpr ⟨entries, written, rfl⟩,
    readFrom_ofWrites (Json.distinct_of_readObject? read)⟩

/-- **A feed is decoded exactly when it is a document with an object at the top**, and then each of
its partitions comes from the last value under its own key. -/
theorem partitions_of_document (bytes : List UInt8) :
    ((∃ d, Dataset.ofBytes? bytes = .ok d) ↔
      ∃ entries, Json.WritesObject entries (Json.Token.sequence bytes)) ∧
    ∀ entries, Json.WritesObject entries (Json.Token.sequence bytes) →
      ∃ d, Dataset.ofBytes? bytes = .ok d ∧ d.ReadFrom entries ∧
        -- Another document, whose entries under a key are the same.
        ∀ (key : String) (front mid mid' back : List (String × Json)),
          entries = front ++ mid ++ back → key ∉ mid.map (·.1) → key ∉ mid'.map (·.1) →
          ∀ bytes', Json.WritesObject (front ++ mid' ++ back) (Json.Token.sequence bytes') →
            ∃ d', Dataset.ofBytes? bytes' = .ok d' ∧ d'.find? key = d.find? key := by
  refine ⟨⟨?_, ?_⟩, ?_⟩
  · rintro ⟨d, ok⟩
    obtain ⟨entries, written, -⟩ := ofBytes?_eq_ok_iff.mp ok
    exact ⟨entries, written⟩
  · rintro ⟨entries, written⟩
    obtain ⟨d, ok, -⟩ := exists_readFrom written
    exact ⟨d, ok⟩
  · intro entries written
    obtain ⟨d, ok, readFrom⟩ := exists_readFrom written
    refine ⟨d, ok, readFrom, ?_⟩
    rintro key front mid mid' back rfl others others' bytes' written'
    obtain ⟨d', ok', readFrom'⟩ := exists_readFrom written'
    exact ⟨d', ok', by rw [readFrom.own, readFrom'.own, lastUnder?_edit others others']⟩

/-- A key that comes again keeps its place and takes the later value. -/
example : (Dataset.ofMembers (Json.ofWrites
    [("a", .null), ("b", .object []), ("c", .null), ("a", .object [])])).keys = ["a", "b"] := by
  decide

end Leaderboard.Feed
