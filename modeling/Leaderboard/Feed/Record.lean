/-
# Leaderboard.Feed.Record — reading a JSON value as a record

A record is written as an object, whose members are its fields under one of their spellings, or as
an array, whose items are its fields in order. A `Reading` holds the fields that were given. It is
complete unless a field is given twice, through two of its spellings, or an array is longer than
the list of fields; it then holds the fields before the fault. A value that is neither object nor
array gives an empty, incomplete reading.

The coercions of a field never fail: a field that is absent or of the wrong kind reads as its
default.

Main statement: `ofMembers_complete` (an object whose fields all have a single spelling is complete
when its keys differ).
-/
import Leaderboard.Json.Value
import Leaderboard.Json.Printer

set_option autoImplicit false

namespace Leaderboard.Feed

/-- A field of a record: its name and its other spellings. -/
structure Field where
  name : String
  aliases : List String := []

def Field.spellings (f : Field) : List String := f.name :: f.aliases

/-- The fields of a kind of record, in order. -/
abbrev Shape := List Field

/-- The name of the field that a key spells. -/
def Shape.name? (shape : Shape) (key : String) : Option String :=
  (shape.find? fun f => f.spellings.contains key).map (·.name)

/-- The fields that a value gives, in order, and whether it gives them without fault. -/
structure Reading where
  given : List (String × Json)
  complete : Bool

namespace Reading

/-- Reads members whose fields must not be among those `seen`. -/
def ofMembers (shape : Shape) (seen : List String) : List (String × Json) → Reading
  | [] => ⟨[], true⟩
  | (key, v) :: r =>
    match shape.name? key with
    | none => ofMembers shape seen r
    | some name =>
      if seen.contains name then ⟨[], false⟩
      else
        let rest := ofMembers shape (name :: seen) r
        ⟨(name, v) :: rest.given, rest.complete⟩

/-- Reads a value as a record. -/
def ofJson (shape : Shape) : Json → Reading
  | .object members => ofMembers shape [] members
  | .array items => ⟨(shape.map (·.name)).zip items, items.length ≤ shape.length⟩
  | _ => ⟨[], false⟩

/-- The record that a complete reading builds. -/
def build? {α : Type} (r : Reading) (build : Reading → α) : Option α :=
  if r.complete then some (build r) else none

/-- The value given for a field. -/
def field? (r : Reading) (name : String) : Option Json := r.given.lookup name

end Reading

/-! ## Coercions of a field -/

/-- The text of a value: texts, numbers and truth values have one. -/
def textOf? : Json → Option String
  | .text s => some s
  | .number n => some (String.ofList n.chars)
  | .bool b => some (String.ofList (Json.boolChars b))
  | _ => none

/-- The members of a value; none if it is no object. -/
def membersOf : Json → List (String × Json)
  | .object members => members
  | _ => []

/-- The items of a value; none if it is no array. -/
def itemsOf : Json → List Json
  | .array items => items
  | _ => []

namespace Reading

/-- The value of a field, null if it is absent. -/
def raw (r : Reading) (name : String) : Json := (r.field? name).getD .null

/-- The text of a field, if it has one. -/
def text? (r : Reading) (name : String) : Option String := textOf? (r.raw name)

/-- The text of a field, or the empty text. -/
def text (r : Reading) (name : String) : String := (r.text? name).getD ""

/-- The items of a field that can be decoded. -/
def list {α : Type} (r : Reading) (name : String) (decode? : Json → Option α) : List α :=
  (itemsOf (r.raw name)).filterMap decode?

end Reading

/-! ## Lemmas -/

/-- Without aliases a field has one spelling, so different keys spell different fields. -/
theorem Reading.ofMembers_complete {shape : Shape} (plain : ∀ f ∈ shape, f.aliases = []) :
    ∀ (members : List (String × Json)) (seen : List String),
      (members.map (·.1)).Nodup → (∀ k ∈ members.map (·.1), k ∉ seen) →
      (Reading.ofMembers shape seen members).complete = true := by
  have same : ∀ key name, shape.name? key = some name → name = key := by
    intro key name h
    unfold Shape.name? at h
    rw [Option.map_eq_some_iff] at h
    obtain ⟨f, found, rfl⟩ := h
    have spelt := List.find?_some found
    have mem := List.mem_of_find?_eq_some found
    simp [Field.spellings, plain f mem] at spelt
    exact spelt.symm
  intro members
  induction members with
  | nil => intro _ _ _; rfl
  | cons m r ih =>
    obtain ⟨key, v⟩ := m
    intro seen distinct fresh
    simp only [List.map_cons, List.nodup_cons, List.mem_cons, forall_eq_or_imp] at distinct fresh
    unfold Reading.ofMembers
    split
    · exact ih seen distinct.2 fresh.2
    · rename_i name spelt
      have e := same key name spelt
      subst e
      rw [if_neg (by simpa using fresh.1)]
      exact ih (name :: seen) distinct.2 (by
        intro k hk
        rw [List.mem_cons, not_or]
        exact ⟨fun e => distinct.1 (e ▸ hk), fresh.2 k hk⟩)

end Leaderboard.Feed
