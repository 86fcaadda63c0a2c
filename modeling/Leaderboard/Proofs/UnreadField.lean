/-
# Leaderboard.Proofs.UnreadField — a field that cannot be read is as good as absent

Every field reads values of some kinds (`reads`). The law compares two objects that differ in one
member: one that alone spells its field, with null or a value of a kind that the field does not
read (`Unread`). Both objects are records or neither is, because no name comes twice through that
member; their readings give the same fields but for this one (`Unread.agrees`); and each record is
built from its fields by coercions that take such a value for null, as they take an absent field.

One kind of record breaks the law. A benchmark has defaults that are not those of its coercions:
its slug and its name are `vibe` and `Vibe Eval` when absent, and empty when they cannot be read.

* `ignores_unread`: the law for a kind of records, from what its builder sees of a reading.
* `unread_as_absent`: the law for six kinds of records, and where it holds for benchmarks.

Pole: `null_slug_is_not_absent`.
-/
import Leaderboard.Proofs.ObjectRecord
import Mathlib.Data.List.Perm.Basic

set_option autoImplicit false

namespace Leaderboard

/-! ## Kinds of values -/

namespace Json

inductive Kind where
  | null
  | bool
  | number
  | text
  | array
  | object
deriving DecidableEq

def kind : Json → Kind
  | .null => .null
  | .bool _ => .bool
  | .number _ => .number
  | .text _ => .text
  | .array _ => .array
  | .object _ => .object

namespace Kind

/-- The kinds of values that have a text. -/
def textual : List Kind := [.text, .number, .bool]

/-- All kinds but null. -/
def present : List Kind := [.bool, .number, .text, .array, .object]

end Kind

end Json

namespace Feed

open Json (Kind)

/-! ## Coercions of values that are not read -/

theorem textOf?_eq_none_iff {v : Json} : textOf? v = none ↔ v.kind ∉ Kind.textual := by
  cases v <;> simp [textOf?, Json.kind, Kind.textual]

theorem itemsOf_unread {v : Json} (unread : v.kind ∉ [Kind.array]) :
    itemsOf v = itemsOf .null := by
  cases v with
  | array items => exact absurd (List.mem_singleton.mpr rfl) unread
  | _ => rfl

theorem membersOf_unread {v : Json} (unread : v.kind ∉ [Kind.object]) :
    membersOf v = membersOf .null := by
  cases v with
  | object members => exact absurd (List.mem_singleton.mpr rfl) unread
  | _ => rfl

theorem media_unread {v : Json} (unread : v.kind ∉ [Kind.text, Kind.object]) :
    Media.ofJson v = Media.ofJson .null := by
  cases v with
  | text s => exact absurd List.mem_cons_self unread
  | object members => exact absurd (.tail _ (.head _)) unread
  | _ => rfl

theorem benchmark_unread {v : Json} (unread : v.kind ∉ [Kind.array, Kind.object]) :
    Benchmark.ofJson? v = Benchmark.ofJson? .null := by
  cases v with
  | array items => exact absurd List.mem_cons_self unread
  | object members => exact absurd (.tail _ (.head _)) unread
  | _ => rfl

theorem eq_null_of_unread {v : Json} (unread : v.kind ∉ Kind.present) : v = .null := by
  cases v with
  | null => rfl
  | _ => simp [Json.kind, Kind.present] at unread

/-! ## Two readings -/

/-- Two readings give the same fields, but the first may give more, with values that these fields
do not read. -/
def Reading.Agrees (reads : String → List Kind) (r r' : Reading) : Prop :=
  ∀ name, r.field? name = r'.field? name ∨
    r'.field? name = none ∧ ∃ v, r.field? name = some v ∧ (v = .null ∨ v.kind ∉ reads name)

namespace Reading.Agrees

variable {reads : String → List Kind} {r r' : Reading}

/-- A coercion that takes what a field does not read for null sees no difference. -/
theorem raw (agrees : r.Agrees reads r') {β : Type} (coerce : Json → β) (name : String)
    (unread : ∀ {v : Json}, v.kind ∉ reads name → coerce v = coerce .null) :
    coerce (r.raw name) = coerce (r'.raw name) := by
  unfold Reading.raw
  rcases agrees name with same | ⟨absent, v, given, rfl | kind⟩
  · rw [same]
  · rw [absent, given]
    rfl
  · rw [absent, given]
    exact unread kind

theorem text? (agrees : r.Agrees reads r') (name : String) (textual : reads name = Kind.textual) :
    r.text? name = r'.text? name :=
  agrees.raw textOf? name fun unread => textOf?_eq_none_iff.mpr (textual ▸ unread)

theorem text (agrees : r.Agrees reads r') (name : String) (textual : reads name = Kind.textual) :
    r.text name = r'.text name :=
  congrArg (·.getD "") (agrees.text? name textual)

theorem list (agrees : r.Agrees reads r') {α : Type} (decode? : Json → Option α) (name : String)
    (array : reads name = [.array]) : r.list name decode? = r'.list name decode? :=
  congrArg (·.filterMap decode?)
    (agrees.raw itemsOf name fun unread => itemsOf_unread (array ▸ unread))

theorem raw_eq (agrees : r.Agrees reads r') (name : String) (present : reads name = Kind.present) :
    r.raw name = r'.raw name :=
  agrees.raw id name fun unread => eq_null_of_unread (present ▸ unread)

end Reading.Agrees

/-! ## What the fields of each kind of record read -/

def StatsHeader.reads (_ : String) : List Kind := Kind.textual

def BenchmarkEntry.reads (_ : String) : List Kind := Kind.present

def Benchmark.reads (_ : String) : List Kind := Kind.textual

def Prompt.reads (name : String) : List Kind :=
  if name = "references" then [.array] else Kind.textual

def Generation.reads (name : String) : List Kind :=
  if name = "score" then Kind.present
  else if name = "mediaType" then [.text, .object]
  else Kind.textual

def Model.reads (name : String) : List Kind :=
  if name = "stats" ∨ name = "benchmarks" then [.object]
  else if name = "generations" then [.array]
  else Kind.textual

def Partition.reads (name : String) : List Kind :=
  if name = "benchmark" then [.array, .object]
  else if name = "statsHeaders" ∨ name = "models" ∨ name = "prompts" then [.array]
  else Kind.textual

section Builders

variable {r r' : Reading}

theorem StatsHeader.ofReading_eq (agrees : r.Agrees StatsHeader.reads r') :
    StatsHeader.ofReading r = StatsHeader.ofReading r' := by
  unfold StatsHeader.ofReading
  rw [agrees.text "key" rfl, agrees.text "label" rfl, agrees.text? "value_type" rfl,
    agrees.text? "href" rfl, agrees.text? "url" rfl]

theorem BenchmarkEntry.ofReading_eq (agrees : r.Agrees BenchmarkEntry.reads r') :
    BenchmarkEntry.ofReading r = BenchmarkEntry.ofReading r' := by
  unfold BenchmarkEntry.ofReading
  rw [agrees.raw_eq "total" rfl, agrees.raw_eq "average" rfl, agrees.raw_eq "count" rfl]

theorem Prompt.ofReading_eq (agrees : r.Agrees Prompt.reads r') :
    Prompt.ofReading r = Prompt.ofReading r' := by
  unfold Prompt.ofReading
  rw [agrees.text "uid" rfl, agrees.text "prompt" rfl, agrees.list textOf? "references" rfl,
    agrees.text? "explanation" rfl]

theorem Generation.ofReading_eq (agrees : r.Agrees Generation.reads r') :
    Generation.ofReading r = Generation.ofReading r' := by
  have media := agrees.raw Media.ofJson "mediaType" media_unread
  unfold Generation.ofReading
  rw [agrees.text "uid" rfl, agrees.text? "prompt" rfl, agrees.raw_eq "score" rfl,
    agrees.text? "comment" rfl, agrees.text? "mediaUrl" rfl, agrees.text? "path" rfl, media]

theorem Model.ofReading_eq (agrees : r.Agrees Model.reads r') :
    Model.ofReading r = Model.ofReading r' := by
  have stats := agrees.raw membersOf "stats" membersOf_unread
  have benchmarks := agrees.raw Model.entriesOf "benchmarks"
    fun unread => congrArg (List.filter _) (membersOf_unread unread)
  unfold Model.ofReading
  rw [agrees.text "slug" rfl, agrees.text "name" rfl, stats, benchmarks,
    agrees.list Generation.ofJson? "generations" rfl]

theorem Partition.ofReading_eq (agrees : r.Agrees Partition.reads r') :
    Partition.ofReading r = Partition.ofReading r' := by
  have absent : ∀ q : Reading, (q.field? "benchmark").bind Benchmark.ofJson? =
      Benchmark.ofJson? (q.raw "benchmark") := by
    intro q
    unfold Reading.raw
    cases q.field? "benchmark" <;> rfl
  have benchmark := agrees.raw Benchmark.ofJson? "benchmark" benchmark_unread
  unfold Partition.ofReading
  rw [agrees.text "slug" rfl, agrees.text? "label" rfl, agrees.text? "title" rfl,
    absent, absent, benchmark, agrees.list StatsHeader.ofJson? "statsHeaders" rfl,
    agrees.list Model.ofJson? "models" rfl, agrees.list Prompt.ofJson? "prompts" rfl]

end Builders

/-! ## One member more -/

/-- A member that alone spells its field, with a value that the field does not read: null, or one of
another kind. -/
structure Unread (shape : Shape) (reads : String → List Kind) (others : List (String × Json))
    (name : String) (member : String × Json) : Prop where
  spelt : shape.name? member.1 = some name
  alone : ∀ m ∈ others, shape.name? m.1 ≠ some name
  unread : member.2 = .null ∨ member.2.kind ∉ reads name

namespace Unread

variable {shape : Shape} {reads : String → List Kind} {a b : List (String × Json)} {name : String}
  {member : String × Json}

theorem given (h : Unread shape reads (a ++ b) name member) :
    shape.given (a ++ member :: b) = shape.given a ++ (name, member.2) :: shape.given b := by
  rw [Shape.given_append, Shape.given_cons_of_some b h.spelt]

theorem not_mem (h : Unread shape reads (a ++ b) name member) :
    name ∉ (shape.given (a ++ b)).map (·.1) := by
  intro mem
  obtain ⟨⟨_, v⟩, given, rfl⟩ := List.mem_map.mp mem
  obtain ⟨key, there, spelt⟩ := Shape.mem_given.mp given
  exact h.alone (key, v) there spelt

theorem complete (h : Unread shape reads (a ++ b) name member) :
    (Reading.ofJson shape (.object (a ++ member :: b))).complete =
      (Reading.ofJson shape (.object (a ++ b))).complete := by
  rw [Bool.eq_iff_iff, Reading.object_complete_iff, Reading.object_complete_iff, h.given,
    List.map_append, List.map_cons, List.nodup_middle, ← List.map_append, ← Shape.given_append,
    List.nodup_cons]
  exact and_iff_right h.not_mem

section Fields

variable (h : Unread shape reads (a ++ b) name member)
  (complete : (Reading.ofJson shape (.object (a ++ b))).complete = true)
include h complete

theorem field?_absent : (Reading.ofJson shape (.object (a ++ b))).field? name = none := by
  rw [Reading.object_field? complete]
  exact lookup_of_not_mem h.not_mem

theorem field?_given :
    (Reading.ofJson shape (.object (a ++ member :: b))).field? name = some member.2 := by
  have whole := h.complete.trans complete
  rw [Reading.object_field? whole]
  refine lookup_of_mem (Reading.object_complete_iff.mp whole) ?_
  rw [h.given]
  exact List.mem_append_right _ List.mem_cons_self

theorem field?_other {n : String} (ne : n ≠ name) :
    (Reading.ofJson shape (.object (a ++ member :: b))).field? n =
      (Reading.ofJson shape (.object (a ++ b))).field? n := by
  rw [Reading.object_field? (h.complete.trans complete), Reading.object_field? complete, h.given,
    Shape.given_append, List.lookup_append, List.lookup_append, List.lookup_cons,
    beq_eq_false_iff_ne.mpr ne]

theorem agrees :
    (Reading.ofJson shape (.object (a ++ member :: b))).Agrees reads
      (Reading.ofJson shape (.object (a ++ b))) := by
  intro n
  by_cases e : n = name
  · subst e
    exact .inr ⟨h.field?_absent complete, member.2, h.field?_given complete, h.unread⟩
  · exact .inl (h.field?_other complete e)

end Fields

end Unread

/-- An object with one member more, if it is unread, decodes as without it. -/
def IgnoresUnread {α : Type} (shape : Shape) (reads : String → List Kind)
    (decode? : Json → Option α) (a b : List (String × Json)) (name : String)
    (member : String × Json) : Prop :=
  Unread shape reads (a ++ b) name member →
    decode? (.object (a ++ member :: b)) = decode? (.object (a ++ b))

theorem ignores_unread {α : Type} {shape : Shape} {reads : String → List Kind}
    {build : Reading → α} (same : ∀ {r r' : Reading}, r.Agrees reads r' → build r = build r')
    (a b : List (String × Json)) (name : String) (member : String × Json) :
    IgnoresUnread shape reads (fun v => (Reading.ofJson shape v).build? build) a b name member := by
  intro h
  dsimp only
  unfold Reading.build?
  rw [h.complete]
  split
  · rename_i complete
    rw [same (h.agrees complete)]
  · rfl

/-! ## Benchmarks -/

/-- The benchmark with an empty text in a field whose default is not empty. -/
def Benchmark.emptied (name : String) (b : Benchmark) : Benchmark :=
  if name = "slug" then { b with slug := "" }
  else if name = "name" then { b with name := "" }
  else b

section Benchmarks

variable {a b : List (String × Json)} {name : String} {member : String × Json}
  (h : Unread Benchmark.shape Benchmark.reads (a ++ b) name member)
  (complete : (Reading.ofJson Benchmark.shape (.object (a ++ b))).complete = true)
include h complete

theorem Unread.textOr (n absent : String) :
    Benchmark.textOr (Reading.ofJson Benchmark.shape (.object (a ++ member :: b))) n absent =
      if name = n then ""
      else Benchmark.textOr (Reading.ofJson Benchmark.shape (.object (a ++ b))) n absent := by
  unfold Benchmark.textOr
  by_cases e : name = n
  · subst e
    rw [h.field?_given complete, if_pos rfl]
    have noText : textOf? member.2 = none := by
      rcases h.unread with null | kind
      · rw [null]
        rfl
      · exact textOf?_eq_none_iff.mpr kind
    change (textOf? member.2).getD "" = ""
    rw [noText]
    rfl
  · rw [h.field?_other complete (Ne.symm e), if_neg e]

theorem Unread.textOr_absent (absent : String) :
    Benchmark.textOr (Reading.ofJson Benchmark.shape (.object (a ++ b))) name absent = absent := by
  unfold Benchmark.textOr
  rw [h.field?_absent complete]

theorem Unread.ofReading_emptied :
    Benchmark.ofReading (Reading.ofJson Benchmark.shape (.object (a ++ member :: b))) =
      (Benchmark.ofReading (Reading.ofJson Benchmark.shape (.object (a ++ b)))).emptied name := by
  have href := (h.agrees complete).text? "href" rfl
  unfold Benchmark.ofReading Benchmark.emptied
  rw [h.textOr complete, h.textOr complete, href]
  by_cases slug : name = "slug"
  · subst slug
    rfl
  · by_cases title : name = "name"
    · subst title
      rfl
    · rw [if_neg slug, if_neg title, if_neg slug, if_neg title]

end Benchmarks

/-- A benchmark with an unread member is the one without it, emptied in that field. -/
theorem benchmark_with_unread {a b : List (String × Json)} {name : String} {member : String × Json}
    (h : Unread Benchmark.shape Benchmark.reads (a ++ b) name member) :
    Benchmark.ofJson? (.object (a ++ member :: b)) =
      (Benchmark.ofJson? (.object (a ++ b))).map (Benchmark.emptied name) := by
  unfold Benchmark.ofJson? Reading.build?
  rw [h.complete]
  split
  · rename_i complete
    rw [h.ofReading_emptied complete, Option.map_some]
  · rfl

/-- Without the member that field has its default, so emptying it shows. -/
theorem benchmark_emptied_iff {a b : List (String × Json)} {name : String}
    {member : String × Json} (h : Unread Benchmark.shape Benchmark.reads (a ++ b) name member) :
    Benchmark.ofJson? (.object (a ++ member :: b)) = Benchmark.ofJson? (.object (a ++ b)) ↔
      name = "href" ∨ Benchmark.ofJson? (.object (a ++ b)) = none := by
  obtain ⟨f, hf, named, -⟩ := Shape.exists_of_name? h.spelt
  rw [benchmark_with_unread h]
  cases decoded : Benchmark.ofJson? (.object (a ++ b)) with
  | none => simp
  | some p =>
      obtain ⟨complete, built⟩ := Reading.build?_eq_some_iff.mp decoded
      have default := h.textOr_absent complete
      have fields : name = "slug" ∨ name = "name" ∨ name = "href" := by
        rw [← named]
        have mem := List.mem_map_of_mem (f := Field.name) hf
        simpa [Benchmark.shape] using mem
      subst built
      rw [Option.map_some, Option.some.injEq, or_iff_left (by simp)]
      rcases fields with rfl | rfl | rfl
      · refine iff_of_false (fun e => ?_) (by decide)
        have empty := congrArg Benchmark.slug e
        change "" = Benchmark.textOr _ "slug" _ at empty
        rw [default] at empty
        exact absurd empty (by decide)
      · refine iff_of_false (fun e => ?_) (by decide)
        have empty := congrArg Benchmark.name e
        change "" = Benchmark.textOr _ "name" _ at empty
        rw [default] at empty
        exact absurd empty (by decide)
      · exact iff_of_true rfl rfl

/-! ## The law -/

/-- **A field that cannot be read is as good as absent**, in records of six kinds. In a benchmark
it reads as empty, which is as good as absent for the link alone. -/
theorem unread_as_absent (a b : List (String × Json)) (name : String) (member : String × Json) :
    IgnoresUnread Partition.shape Partition.reads Partition.ofJson? a b name member ∧
    IgnoresUnread StatsHeader.shape StatsHeader.reads StatsHeader.ofJson? a b name member ∧
    IgnoresUnread Model.shape Model.reads Model.ofJson? a b name member ∧
    IgnoresUnread BenchmarkEntry.shape BenchmarkEntry.reads BenchmarkEntry.ofJson? a b name member ∧
    IgnoresUnread Generation.shape Generation.reads Generation.ofJson? a b name member ∧
    IgnoresUnread Prompt.shape Prompt.reads Prompt.ofJson? a b name member ∧
    (Unread Benchmark.shape Benchmark.reads (a ++ b) name member →
      Benchmark.ofJson? (.object (a ++ member :: b)) =
          (Benchmark.ofJson? (.object (a ++ b))).map (Benchmark.emptied name) ∧
        (Benchmark.ofJson? (.object (a ++ member :: b)) = Benchmark.ofJson? (.object (a ++ b)) ↔
          name = "href" ∨ Benchmark.ofJson? (.object (a ++ b)) = none)) :=
  ⟨ignores_unread Partition.ofReading_eq a b name member,
    ignores_unread StatsHeader.ofReading_eq a b name member,
    ignores_unread Model.ofReading_eq a b name member,
    ignores_unread BenchmarkEntry.ofReading_eq a b name member,
    ignores_unread Generation.ofReading_eq a b name member,
    ignores_unread Prompt.ofReading_eq a b name member,
    fun h => ⟨benchmark_with_unread h, benchmark_emptied_iff h⟩⟩

/-- An object with a list for its slug. -/
def listedSlug : List (String × Json) :=
  [("name", .text "Alpha"), ("slug", .array []), ("label", .text "A")]

/-- The same object without its slug. -/
def noSlug : List (String × Json) := [("name", .text "Alpha"), ("label", .text "A")]

/-- A partition and a model are as without their slug, and a benchmark has an empty one. -/
theorem unread_as_absent_slug :
    Unread Partition.shape Partition.reads noSlug "slug" ("slug", .array []) ∧
      Unread Model.shape Model.reads noSlug "slug" ("slug", .array []) ∧
      Unread Benchmark.shape Benchmark.reads noSlug "slug" ("slug", .array []) ∧
      Partition.ofJson? (.object listedSlug) = Partition.ofJson? (.object noSlug) ∧
      Model.ofJson? (.object listedSlug) = Model.ofJson? (.object noSlug) ∧
      Benchmark.ofJson? (.object listedSlug) =
        (Benchmark.ofJson? (.object noSlug)).map (Benchmark.emptied "slug") := by
  have partition : Unread Partition.shape Partition.reads noSlug "slug" ("slug", .array []) :=
    ⟨by decide, by decide, .inr (by decide)⟩
  have model : Unread Model.shape Model.reads noSlug "slug" ("slug", .array []) :=
    ⟨by decide, by decide, .inr (by decide)⟩
  have benchmark : Unread Benchmark.shape Benchmark.reads noSlug "slug" ("slug", .array []) :=
    ⟨by decide, by decide, .inr (by decide)⟩
  obtain ⟨partitions, -, models, -, -, -, benchmarks⟩ := unread_as_absent
    [("name", .text "Alpha")] [("label", .text "A")] "slug" ("slug", .array [])
  exact ⟨partition, model, benchmark, partitions partition, models model,
    (benchmarks benchmark).1⟩

/-- A benchmark whose slug is null has an empty slug; without the slug it would be the standard
one. -/
theorem null_slug_is_not_absent :
    Benchmark.ofJson? (.object [("slug", .null)]) = some { Benchmark.standard with slug := "" } ∧
      Benchmark.ofJson? (.object []) = some .standard ∧
      Benchmark.ofJson? (.object [("slug", .null)]) ≠ Benchmark.ofJson? (.object []) := by
  decide

end Feed

end Leaderboard
