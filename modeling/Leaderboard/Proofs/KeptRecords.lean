/-
# Leaderboard.Proofs.KeptRecords — which objects of the feed become records

The lists of a partition are decoded item by item, and an item that is no record leaves its list
without a trace. For objects there is one way to be none: to give a field twice, through two of its
spellings. Wrong kinds of values, unknown fields and absent ones never cost a record, so the two
kinds without aliases, headers and prompts, keep every object, and the others, models and
generations, keep all but those.

* `lost_iff_given_twice`: this, for every partition object of every feed, with the order of the
  records and the number of generations that the breakdown shows.

Pole: `spelt_twice_is_lost` (a model with both spellings of its generations, and a generation with
two spellings of its media, are lost although the spellings agree).
-/
import Leaderboard.Breakdown
import Leaderboard.Feed.Dataset
import Leaderboard.Proofs.ObjectRecord
import Leaderboard.Proofs.SharedRanking

set_option autoImplicit false

namespace Leaderboard.Feed

/-! ## Objects in a list -/

/-- Records are those of the items of a list, in order, and an object among the items gives none
exactly when it is lost. -/
structure Decodes {α : Type} (decode? : Json → Option α) (lost : List (String × Json) → Prop)
    (items : List Json) (records : List α) : Prop where
  inOrder : records = items.filterMap decode?
  objects : ∀ members, Json.object members ∈ items →
    (decode? (.object members) = none ↔ lost members)

theorem build?_object_eq_none_iff {α : Type} {shape : Shape} (unambiguous : shape.Unambiguous)
    {members : List (String × Json)} (distinct : (members.map (·.1)).Nodup) (build : Reading → α) :
    (Reading.ofJson shape (.object members)).build? build = none ↔ shape.GivenTwice members := by
  rw [← Option.not_isSome_iff_eq_none, Reading.build?_isSome, Reading.object_complete_iff,
    Shape.nodup_given_iff unambiguous distinct, not_not]

theorem decodes_list {α : Type} {shape : Shape} (unambiguous : shape.Unambiguous)
    (build : Reading → α) {items : List Json} (distinct : ∀ v ∈ items, v.Distinct) :
    Decodes (fun v => (Reading.ofJson shape v).build? build) shape.GivenTwice items
      (items.filterMap fun v => (Reading.ofJson shape v).build? build) where
  inOrder := rfl
  objects _ mem := build?_object_eq_none_iff unambiguous (distinct _ mem).of_object.1 build

/-- Without aliases nothing is given twice. -/
theorem Shape.not_givenTwice {shape : Shape} (plain : ∀ f ∈ shape, f.aliases = [])
    (members : List (String × Json)) : ¬ shape.GivenTwice members := by
  rintro ⟨f, hf, s, hs, t, ht, ne, -⟩
  unfold Field.spellings at hs ht
  rw [plain f hf] at hs ht
  exact ne ((List.mem_singleton.mp hs).trans (List.mem_singleton.mp ht).symm)

theorem decodes_plain_list {α : Type} {shape : Shape} (unambiguous : shape.Unambiguous)
    (plain : ∀ f ∈ shape, f.aliases = []) (build : Reading → α) {items : List Json}
    (distinct : ∀ v ∈ items, v.Distinct) :
    Decodes (fun v => (Reading.ofJson shape v).build? build) (fun _ => False) items
      (items.filterMap fun v => (Reading.ofJson shape v).build? build) where
  inOrder := rfl
  objects members mem := ((decodes_list unambiguous build distinct).objects members mem).trans
    (iff_false_intro (Shape.not_givenTwice plain members))

/-- An item that is an object. -/
def isObject : Json → Bool
  | .object _ => true
  | _ => false

/-- An object that gives a field of the shape twice. -/
def isTwiceGiven (shape : Shape) : Json → Bool
  | .object members => decide (shape.GivenTwice members)
  | _ => false

theorem countP_le_add {α : Type} {p q r : α → Bool} {l : List α}
    (covered : ∀ a ∈ l, p a = true → q a = true ∨ r a = true) :
    l.countP p ≤ l.countP q + l.countP r := by
  induction l with
  | nil => exact Nat.le_refl _
  | cons a l ih =>
      have rest := ih fun b hb => covered b (List.mem_cons_of_mem a hb)
      simp only [List.countP_cons]
      by_cases counted : p a = true
      · rcases covered a List.mem_cons_self counted with left | right
        · rw [if_pos counted, if_pos left]
          omega
        · rw [if_pos counted, if_pos right]
          omega
      · rw [if_neg counted]
        omega

/-- A list of records is short of the objects among its items by those given twice at most. -/
theorem Decodes.count_le {α : Type} {decode? : Json → Option α} {shape : Shape}
    {items : List Json} {records : List α}
    (decodes : Decodes decode? shape.GivenTwice items records) :
    items.countP isObject ≤ records.length + items.countP (isTwiceGiven shape) := by
  rw [decodes.inOrder, List.length_filterMap_eq_countP]
  refine countP_le_add fun v mem kind => ?_
  cases v with
  | object members =>
      by_cases twice : shape.GivenTwice members
      · exact .inr (decide_eq_true twice)
      · have kept := mt (decodes.objects members mem).mp twice
        exact .inl (Option.isSome_iff_ne_none.mpr kept)
  | _ => cases kind

/-! ## The records of a partition -/

/-- The feed's list of generations in an item of the list of models: under one of two keys in an
object, the fifth item of an array. -/
def generationItems : Json → List Json
  | .object members => itemsOf (valueUnder members ["generations", "images"])
  | .array items => itemsOf (items[4]?.getD .null)
  | _ => []

theorem raw_generations {v : Json} (complete : (Reading.ofJson Model.shape v).complete = true) :
    itemsOf ((Reading.ofJson Model.shape v).raw "generations") = generationItems v := by
  cases v with
  | object members =>
      exact congrArg itemsOf (Reading.object_raw
        (f := { name := "generations", aliases := ["images"] }) (by decide) (by simp [Model.shape])
        complete)
  | array items =>
      match items with
      | [] | [_] | [_, _] | [_, _, _] | [_, _, _, _] => rfl
      | _ :: _ :: _ :: _ :: _ :: _ => rfl
  | _ => cases complete

theorem model_givenTwice_iff (members : List (String × Json)) :
    Model.shape.GivenTwice members ↔
      "generations" ∈ members.map (·.1) ∧ "images" ∈ members.map (·.1) := by
  constructor
  · rintro ⟨f, hf, s, hs, t, ht, ne, smem, tmem⟩
    have only : ∀ g ∈ Model.shape, g.aliases ≠ [] →
        g = { name := "generations", aliases := ["images"] } := by simp [Model.shape]
    by_cases plain : f.aliases = []
    · unfold Field.spellings at hs ht
      rw [plain] at hs ht
      exact absurd ((List.mem_singleton.mp hs).trans (List.mem_singleton.mp ht).symm) ne
    · obtain rfl := only f hf plain
      simp only [Field.spellings, List.mem_cons, List.not_mem_nil, or_false] at hs ht
      rcases hs with rfl | rfl <;> rcases ht with rfl | rfl
      · exact absurd rfl ne
      · exact ⟨smem, tmem⟩
      · exact ⟨tmem, smem⟩
      · exact absurd rfl ne
  · rintro ⟨generations, images⟩
    exact ⟨{ name := "generations", aliases := ["images"] }, by simp [Model.shape],
      "generations", by simp [Field.spellings], "images", by simp [Field.spellings], by decide,
      generations, images⟩

/-- What a partition has of the object that it was read from. -/
structure Partition.Keeps (members : List (String × Json)) (p : Partition) : Prop where
  headers : Decodes StatsHeader.ofJson? (fun _ => False)
    (itemsOf (valueUnder members ["statsHeaders"])) p.headers
  prompts : Decodes Prompt.ofJson? (fun _ => False) (itemsOf (valueUnder members ["prompts"]))
    p.prompts
  models : Decodes Model.ofJson?
    (fun ms => "generations" ∈ ms.map (·.1) ∧ "images" ∈ ms.map (·.1))
    (itemsOf (valueUnder members ["models"])) p.models
  generations : ∀ v ∈ itemsOf (valueUnder members ["models"]), ∀ m, Model.ofJson? v = some m →
    Decodes Generation.ofJson? Generation.shape.GivenTwice (generationItems v) m.generations
  /-- Each panel of the breakdown is that of an item of the list of models, and the number of
  generations that it shows is short of the objects in the feed's list by those given twice. -/
  panels : ∀ [Sorter], ∀ panel ∈ modelPanels p, ∃ v ∈ itemsOf (valueUnder members ["models"]), ∃ m,
    Model.ofJson? v = some m ∧ panel.slug = m.slug ∧
      (generationItems v).countP isObject ≤
        panel.generationCount + (generationItems v).countP (isTwiceGiven Generation.shape)

theorem items_distinct {v : Json} (distinct : v.Distinct) : ∀ i ∈ itemsOf v, i.Distinct := by
  intro i hi
  cases v with
  | array items => exact distinct.of_array i hi
  | _ => cases hi

theorem generations_decode {v : Json} (distinct : v.Distinct) {m : Model}
    (decoded : Model.ofJson? v = some m) :
    Decodes Generation.ofJson? Generation.shape.GivenTwice (generationItems v) m.generations := by
  obtain ⟨complete, rfl⟩ := Reading.build?_eq_some_iff.mp decoded
  rw [← raw_generations complete]
  exact decodes_list (by decide) Generation.ofReading
    (items_distinct (Reading.raw_distinct distinct complete "generations"))

section PartitionObject

variable {members : List (String × Json)}

theorem partition_list {α : Type} (decode? : Json → Option α)
    (complete : (Reading.ofJson Partition.shape (.object members)).complete = true) {name : String}
    (mem : { name := name } ∈ Partition.shape) :
    (Reading.ofJson Partition.shape (.object members)).list name decode? =
      (itemsOf (valueUnder members [name])).filterMap decode? :=
  congrArg (fun v => (itemsOf v).filterMap decode?) (Reading.object_raw (by decide) mem complete)

theorem partition_items_distinct (distinct : (Json.object members).Distinct)
    (complete : (Reading.ofJson Partition.shape (.object members)).complete = true) {name : String}
    (mem : { name := name } ∈ Partition.shape) :
    ∀ v ∈ itemsOf (valueUnder members [name]), v.Distinct := by
  change ∀ v ∈ itemsOf (valueUnder members (Field.spellings { name := name })), _
  rw [← Reading.object_raw (by decide) mem complete]
  exact items_distinct (Reading.raw_distinct distinct complete name)

/-- A partition object is a partition, and its lists hold a record for each object in them that
gives no field twice. -/
theorem partition_keeps (distinct : (Json.object members).Distinct) :
    ∃ p, Partition.ofJson? (.object members) = some p ∧ p.Keeps members := by
  have complete : (Reading.ofJson Partition.shape (.object members)).complete = true :=
    Reading.object_complete_of_plain (by decide) distinct.of_object.1
  have headersField : { name := "statsHeaders" } ∈ Partition.shape := by simp [Partition.shape]
  have modelsField : { name := "models" } ∈ Partition.shape := by simp [Partition.shape]
  have promptsField : { name := "prompts" } ∈ Partition.shape := by simp [Partition.shape]
  have models := partition_list Model.ofJson? complete modelsField
  have modelItems := partition_items_distinct distinct complete modelsField
  have generations : ∀ v ∈ itemsOf (valueUnder members ["models"]), ∀ m, Model.ofJson? v = some m →
      Decodes Generation.ofJson? Generation.shape.GivenTwice (generationItems v) m.generations :=
    fun v mem m decoded => generations_decode (modelItems v mem) decoded
  refine ⟨_, Reading.build?_eq_some_iff.mpr ⟨complete, rfl⟩, ?_⟩
  constructor
  case headers =>
    change Decodes _ _ _ (Reading.list _ "statsHeaders" StatsHeader.ofJson?)
    rw [partition_list StatsHeader.ofJson? complete headersField]
    exact decodes_plain_list (by decide) (by decide) StatsHeader.ofReading
      (partition_items_distinct distinct complete headersField)
  case prompts =>
    change Decodes _ _ _ (Reading.list _ "prompts" Prompt.ofJson?)
    rw [partition_list Prompt.ofJson? complete promptsField]
    exact decodes_plain_list (by decide) (by decide) Prompt.ofReading
      (partition_items_distinct distinct complete promptsField)
  case models =>
    have kept := decodes_list (show Model.shape.Unambiguous by decide) Model.ofReading modelItems
    exact ⟨models, fun ms mem => (kept.objects ms mem).trans (model_givenTwice_iff ms)⟩
  case generations => exact generations
  case panels =>
    intro _ panel shown
    rw [modelPanels_eq] at shown
    obtain ⟨m, ranked, rfl⟩ := List.mem_map.mp shown
    have mem := mem_ranked.mp ranked
    change m ∈ Reading.list _ "models" Model.ofJson? at mem
    rw [models] at mem
    obtain ⟨v, hv, decoded⟩ := List.mem_filterMap.mp mem
    exact ⟨v, hv, m, decoded, rfl, (generations v hv m decoded).count_le⟩

end PartitionObject

theorem Partition.Keeps.named {members : List (String × Json)} {p : Partition}
    (keeps : p.Keeps members) (key : String) : (p.named key).Keeps members := by
  unfold Partition.named
  split
  · exact ⟨keeps.headers, keeps.prompts, keeps.models, keeps.generations, keeps.panels⟩
  · exact keeps

/-- **Only objects that give a field twice are lost.** -/
theorem lost_iff_given_twice {bytes : List UInt8} {feed : List (String × Json)} {key : String}
    {members : List (String × Json)} (read : Json.readObject? bytes = .ok feed)
    (mem : (key, .object members) ∈ feed) :
    ∃ d p, Dataset.ofBytes? bytes = .ok d ∧ (key, p) ∈ d.partitions ∧ p.Keeps members := by
  have distinct := (Json.distinct_of_readObject? read).of_object.2 _ mem
  obtain ⟨p, decoded, keeps⟩ := partition_keeps distinct
  refine ⟨.ofMembers feed, p.named key, ?_, ?_, keeps.named key⟩
  · unfold Dataset.ofBytes?
    rw [read]
    rfl
  · refine List.mem_filterMap.mpr ⟨_, mem, ?_⟩
    unfold Dataset.partitionOf?
    rw [decoded]
    rfl

/-! ## Poles -/

/-- A partition with two models: one has its generations under both of their keys, the other has a
generation with its media under two. -/
def speltTwice : List (String × Json) :=
  [("models", .array [
    .object [("slug", .text "a"), ("generations", .array []), ("images", .array [])],
    .object [("slug", .text "b"), ("generations", .array [
      .object [("mediaUrl", .text "x.png"), ("url", .text "x.png")]])]])]

/-- The text of the feed with that partition. -/
def speltTwiceText : List UInt8 :=
  Text.Utf8.bytes (Json.object [("m", .object speltTwice)]).render

set_option maxRecDepth 4096 in
theorem readObject?_speltTwiceText :
    Json.readObject? speltTwiceText = .ok [("m", .object speltTwice)] := by
  with_unfolding_all rfl

/-- The first model and the generation of the second are lost. -/
theorem spelt_twice_is_lost :
    ((Dataset.ofBytes? speltTwiceText).toOption.map fun d => d.partitions.map fun m =>
      (modelPanels m.2).map fun panel => (panel.slug, panel.generationCount)) =
        some [[("b", 0)]] := by
  unfold Dataset.ofBytes?
  rw [readObject?_speltTwiceText]
  decide +kernel

theorem lost_iff_given_twice_spelt :
    Json.readObject? speltTwiceText = .ok [("m", .object speltTwice)] ∧
      ∃ d p, Dataset.ofBytes? speltTwiceText = .ok d ∧ ("m", p) ∈ d.partitions ∧
        p.Keeps speltTwice :=
  ⟨readObject?_speltTwiceText,
    lost_iff_given_twice readObject?_speltTwiceText List.mem_cons_self⟩

end Leaderboard.Feed
