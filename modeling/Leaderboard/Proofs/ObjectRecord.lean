/-
# Leaderboard.Proofs.ObjectRecord — objects as records

A reading goes through the members of an object and stops at a field that it has seen. `Shape.given`
says what it sees without stopping: the members whose keys spell a field, under the name of that
field. An object is a record exactly when no name comes twice among them
(`Reading.object_complete_iff`), and then they are its fields (`Reading.object_field?`).

Keys of an object differ, so a name comes twice only through two spellings of one field
(`nodup_given_iff`); for a shape without aliases that cannot be. The value of a field is the one
under whichever of its spellings the object has (`object_raw`).
-/
import Leaderboard.Feed.Partition
import Leaderboard.Proofs.JsonDocument
import Mathlib.Data.List.Nodup
import Mathlib.Data.List.Pairwise

set_option autoImplicit false

namespace Leaderboard.Feed

/-! ## What the members of an object give -/

/-- The fields that members give, in order, under their names. -/
def Shape.given (shape : Shape) (members : List (String × Json)) : List (String × Json) :=
  members.filterMap fun m => (shape.name? m.1).map (·, m.2)

namespace Shape

variable {shape : Shape}

theorem given_cons_of_none {m : String × Json} (r : List (String × Json))
    (spelt : shape.name? m.1 = none) : shape.given (m :: r) = shape.given r := by
  unfold given
  rw [List.filterMap_cons_none (by rw [spelt]; rfl)]

theorem given_cons_of_some {m : String × Json} {name : String} (r : List (String × Json))
    (spelt : shape.name? m.1 = some name) :
    shape.given (m :: r) = (name, m.2) :: shape.given r := by
  unfold given
  rw [List.filterMap_cons_some (by rw [spelt]; rfl)]

theorem given_append (a b : List (String × Json)) :
    shape.given (a ++ b) = shape.given a ++ shape.given b :=
  List.filterMap_append

theorem mem_given {members : List (String × Json)} {name : String} {v : Json} :
    (name, v) ∈ shape.given members ↔ ∃ key, (key, v) ∈ members ∧ shape.name? key = some name := by
  unfold given
  rw [List.mem_filterMap]
  constructor
  · rintro ⟨⟨key, w⟩, mem, e⟩
    obtain ⟨n, spelt, e⟩ := Option.map_eq_some_iff.mp e
    cases e
    exact ⟨key, mem, spelt⟩
  · rintro ⟨key, mem, spelt⟩
    exact ⟨(key, v), mem, by rw [spelt]; rfl⟩

theorem names_given (members : List (String × Json)) :
    (shape.given members).map (·.1) = (members.map (·.1)).filterMap shape.name? := by
  induction members with
  | nil => rfl
  | cons m r ih =>
      cases spelt : shape.name? m.1 with
      | none => rw [given_cons_of_none r spelt, ih, List.map_cons, List.filterMap_cons_none spelt]
      | some name =>
          rw [given_cons_of_some r spelt, List.map_cons, ih, List.map_cons,
            List.filterMap_cons_some spelt]

end Shape

namespace Reading

/-- A reading is complete when no name comes twice or was seen before. -/
theorem ofMembers_complete_iff (shape : Shape) (members : List (String × Json)) :
    ∀ seen : List String, (ofMembers shape seen members).complete = true ↔
      ((shape.given members).map (·.1)).Nodup ∧
        ∀ name ∈ (shape.given members).map (·.1), name ∉ seen := by
  induction members with
  | nil => intro seen; simp [ofMembers, Shape.given]
  | cons m r ih =>
      obtain ⟨key, v⟩ := m
      intro seen
      unfold ofMembers
      split
      · rename_i spelt
        rw [Shape.given_cons_of_none r spelt]
        exact ih seen
      · rename_i name spelt
        rw [Shape.given_cons_of_some r spelt, List.map_cons, List.nodup_cons]
        by_cases again : name ∈ seen
        · rw [if_pos (by simpa using again)]
          constructor
          · intro h
            cases h
          · rintro ⟨-, fresh⟩
            exact absurd again (fresh name List.mem_cons_self)
        · rw [if_neg (by simpa using again)]
          change (ofMembers shape (name :: seen) r).complete = true ↔ _
          rw [ih (name :: seen)]
          constructor
          · rintro ⟨distinct, fresh⟩
            refine ⟨⟨fun h => fresh name h List.mem_cons_self, distinct⟩, ?_⟩
            intro n hn
            rcases List.mem_cons.mp hn with rfl | later
            · exact again
            · exact fun h => fresh n later (List.mem_cons_of_mem _ h)
          · rintro ⟨⟨once, distinct⟩, fresh⟩
            refine ⟨distinct, fun n hn h => ?_⟩
            rcases List.mem_cons.mp h with rfl | before
            · exact once hn
            · exact fresh n (List.mem_cons_of_mem _ hn) before

/-- A complete reading holds all that the members give. -/
theorem ofMembers_given (shape : Shape) (members : List (String × Json)) :
    ∀ seen : List String, (ofMembers shape seen members).complete = true →
      (ofMembers shape seen members).given = shape.given members := by
  induction members with
  | nil => intro seen _; rfl
  | cons m r ih =>
      obtain ⟨key, v⟩ := m
      intro seen complete
      unfold ofMembers at complete ⊢
      split
      · rename_i spelt
        rw [spelt] at complete
        rw [Shape.given_cons_of_none r spelt]
        exact ih seen complete
      · rename_i name spelt
        rw [spelt] at complete
        rw [Shape.given_cons_of_some r spelt]
        dsimp only at complete
        split at complete
        · cases complete
        · rename_i fresh
          rw [if_neg fresh]
          exact congrArg _ (ih (name :: seen) complete)

/-- **An object is a record exactly when it gives no field twice.** -/
theorem object_complete_iff {shape : Shape} {members : List (String × Json)} :
    (ofJson shape (.object members)).complete = true ↔
      ((shape.given members).map (·.1)).Nodup :=
  (ofMembers_complete_iff shape members []).trans
    (and_iff_left fun _ _ => List.not_mem_nil)

/-- Where each field has one spelling, keys that differ are enough. -/
theorem object_complete_of_plain {shape : Shape} (plain : ∀ f ∈ shape, f.aliases = [])
    {members : List (String × Json)} (distinct : (members.map (·.1)).Nodup) :
    (ofJson shape (.object members)).complete = true :=
  ofMembers_complete plain members [] distinct fun _ _ => List.not_mem_nil

theorem object_field? {shape : Shape} {members : List (String × Json)}
    (complete : (ofJson shape (.object members)).complete = true) (name : String) :
    (ofJson shape (.object members)).field? name = (shape.given members).lookup name :=
  congrArg (List.lookup name) (ofMembers_given shape members [] complete)

theorem build?_eq_some_iff {α : Type} {r : Reading} {build : Reading → α} {a : α} :
    r.build? build = some a ↔ r.complete = true ∧ build r = a := by
  unfold build?
  cases r.complete <;> simp

end Reading

/-! ## Spellings -/

namespace Shape

variable {shape : Shape}

/-- No key spells two fields. -/
def Unambiguous (shape : Shape) : Prop := (shape.flatMap Field.spellings).Nodup

instance (shape : Shape) : Decidable shape.Unambiguous :=
  inferInstanceAs (Decidable (shape.flatMap Field.spellings).Nodup)

/-- An object gives a field under two of its spellings. -/
def GivenTwice (shape : Shape) (members : List (String × Json)) : Prop :=
  ∃ f ∈ shape, ∃ s ∈ f.spellings, ∃ t ∈ f.spellings,
    s ≠ t ∧ s ∈ members.map (·.1) ∧ t ∈ members.map (·.1)

instance (shape : Shape) (members : List (String × Json)) :
    Decidable (shape.GivenTwice members) := by
  unfold GivenTwice
  infer_instance

theorem find?_of_spelt (unambiguous : shape.Unambiguous) {f : Field} (hf : f ∈ shape)
    {key : String} (spelt : key ∈ f.spellings) :
    (shape.find? fun g => g.spellings.contains key) = some f := by
  induction shape with
  | nil => cases hf
  | cons g r ih =>
      obtain ⟨-, rest, apart⟩ := List.nodup_append.mp unambiguous
      rcases List.mem_cons.mp hf with rfl | later
      · rw [List.find?_cons_of_pos (by simpa using spelt)]
      · have other : key ∉ g.spellings := fun h =>
          apart key h key (List.mem_flatMap.mpr ⟨f, later, spelt⟩) rfl
        rw [List.find?_cons_of_neg (by simpa using other)]
        exact ih rest later

theorem name?_eq_some_iff (unambiguous : shape.Unambiguous) {f : Field} (hf : f ∈ shape)
    {key : String} : shape.name? key = some f.name ↔ key ∈ f.spellings := by
  unfold name?
  constructor
  · intro h
    obtain ⟨g, found, name⟩ := Option.map_eq_some_iff.mp h
    have spelt : key ∈ g.spellings := by simpa using List.find?_some found
    -- The name of a field is one of its spellings, so fields of one name are one field.
    have own : f.name ∈ f.spellings := List.mem_cons_self
    have also : f.name ∈ g.spellings := name ▸ List.mem_cons_self
    have here := find?_of_spelt unambiguous hf own
    have there := find?_of_spelt unambiguous (List.mem_of_find?_eq_some found) also
    obtain rfl := Option.some.inj (here.symm.trans there)
    exact spelt
  · intro spelt
    rw [find?_of_spelt unambiguous hf spelt]
    rfl

theorem exists_of_name? {key name : String} (h : shape.name? key = some name) :
    ∃ f ∈ shape, f.name = name ∧ key ∈ f.spellings := by
  obtain ⟨f, found, rfl⟩ := Option.map_eq_some_iff.mp h
  exact ⟨f, List.mem_of_find?_eq_some found, rfl, by simpa using List.find?_some found⟩

theorem nodup_filterMap_iff {α β : Type} {f : α → Option β} {l : List α} (distinct : l.Nodup) :
    (l.filterMap f).Nodup ↔ ∀ a ∈ l, ∀ b ∈ l, a ≠ b → ∀ c, f a = some c → f b ≠ some c := by
  unfold List.Nodup
  rw [List.pairwise_filterMap]
  constructor
  · intro apart a ha b hb ne c hac hbc
    have : Std.Symm fun a a' => ∀ c, f a = some c → ∀ d, f a' = some d → c ≠ d :=
      ⟨fun _ _ h c hc d hd e => h d hd c hc e.symm⟩
    exact apart.forall ha hb ne c hac c hbc rfl
  · intro apart
    refine distinct.pairwise_of_forall_ne fun a ha b hb ne c hac d hbd e => ?_
    exact apart a ha b hb ne c hac (e ▸ hbd)

/-- Keys differ, so a field comes twice only through two of its spellings. -/
theorem nodup_given_iff (unambiguous : shape.Unambiguous) {members : List (String × Json)}
    (distinct : (members.map (·.1)).Nodup) :
    ((shape.given members).map (·.1)).Nodup ↔ ¬ shape.GivenTwice members := by
  rw [names_given, nodup_filterMap_iff distinct]
  constructor
  · rintro apart ⟨f, hf, s, hs, t, ht, ne, smem, tmem⟩
    exact apart s smem t tmem ne f.name ((name?_eq_some_iff unambiguous hf).mpr hs)
      ((name?_eq_some_iff unambiguous hf).mpr ht)
  · intro once s smem t tmem ne name hs ht
    obtain ⟨f, hf, rfl, spelt⟩ := exists_of_name? hs
    exact once ⟨f, hf, s, spelt, t, (name?_eq_some_iff unambiguous hf).mp ht, ne, smem, tmem⟩

end Shape

/-! ## The values of fields -/

/-- The value that an object has under the first of some keys, null under none. -/
def valueUnder (members : List (String × Json)) (keys : List String) : Json :=
  (keys.findSome? (Json.get? members)).getD .null

theorem lookup_of_mem {α : Type} {l : List (String × α)} (distinct : (l.map (·.1)).Nodup)
    {key : String} {v : α} (mem : (key, v) ∈ l) : l.lookup key = some v := by
  induction l with
  | nil => cases mem
  | cons first r ih =>
      obtain ⟨once, rest⟩ := List.nodup_cons.mp distinct
      rw [List.lookup_cons]
      rcases List.mem_cons.mp mem with rfl | later
      · rw [beq_self_eq_true]
      · have other : key ≠ first.1 := fun e => once (List.mem_map.mpr ⟨_, later, e⟩)
        rw [beq_eq_false_iff_ne.mpr other]
        exact ih rest later

theorem lookup_of_not_mem {α : Type} {l : List (String × α)} {key : String}
    (absent : key ∉ l.map (·.1)) : l.lookup key = none :=
  List.lookup_eq_none_iff.mpr fun m hm =>
    bne_iff_ne.mpr fun e => absent (List.mem_map.mpr ⟨m, hm, e.symm⟩)

theorem mem_of_lookup {α : Type} {l : List (String × α)} {key : String} {v : α}
    (found : l.lookup key = some v) : (key, v) ∈ l := by
  obtain ⟨front, back, rfl, -⟩ := List.lookup_eq_some_iff.mp found
  exact List.mem_append_right front List.mem_cons_self

namespace Reading

/-- The value of a field is the one under whichever of its spellings the object has. -/
theorem object_raw {shape : Shape} (unambiguous : shape.Unambiguous) {f : Field} (hf : f ∈ shape)
    {members : List (String × Json)} (complete : (ofJson shape (.object members)).complete = true) :
    (ofJson shape (.object members)).raw f.name = valueUnder members f.spellings := by
  have spelt : ∀ {key}, shape.name? key = some f.name ↔ key ∈ f.spellings :=
    Shape.name?_eq_some_iff unambiguous hf
  unfold raw valueUnder
  rw [object_field? complete]
  cases found : f.spellings.findSome? (Json.get? members) with
  | some v =>
      obtain ⟨key, hkey, value⟩ := List.exists_of_findSome?_eq_some found
      have given := Shape.mem_given.mpr ⟨key, mem_of_lookup value, spelt.mpr hkey⟩
      rw [lookup_of_mem (object_complete_iff.mp complete) given]
  | none =>
      have absent : (shape.given members).lookup f.name = none := by
        refine lookup_of_not_mem fun h => ?_
        obtain ⟨⟨_, v⟩, given, rfl⟩ := List.mem_map.mp h
        obtain ⟨key, mem, name?⟩ := Shape.mem_given.mp given
        have unset := List.findSome?_eq_none_iff.mp found key (spelt.mp name?)
        exact bne_iff_ne.mp (List.lookup_eq_none_iff.mp unset (key, v) mem) rfl
      rw [absent]

/-- The values of a record's fields are values inside what is read, or null. -/
theorem raw_distinct {shape : Shape} {v : Json} (distinct : v.Distinct)
    (complete : (ofJson shape v).complete = true) (name : String) :
    ((ofJson shape v).raw name).Distinct := by
  have inside : ∀ m ∈ (ofJson shape v).given, m.2.Distinct := by
    rintro ⟨n, w⟩ hm
    cases v with
    | object members =>
        rw [show (ofJson shape (.object members)).given = shape.given members from
          ofMembers_given shape members [] complete] at hm
        obtain ⟨key, mem, -⟩ := Shape.mem_given.mp hm
        exact distinct.of_object.2 (key, w) mem
    | array items => exact distinct.of_array w (List.of_mem_zip hm).2
    | _ => cases hm
  unfold raw field?
  cases found : (ofJson shape v).given.lookup name with
  | none => exact .scalar trivial
  | some w => exact inside _ (mem_of_lookup found)

end Reading

end Leaderboard.Feed
