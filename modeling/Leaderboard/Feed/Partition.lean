/-
# Leaderboard.Feed.Partition — the records of the feed

A partition is one selectable slice of the leaderboard: its columns, its models with their
statistics, benchmark entries and generations, and its prompts. Records are decoded one by one: a
record that cannot be read is left out of its list and noted as skipped, a field that cannot be
read is as good as absent.

Each kind of record has its `shape`, its decoder `ofJson?` and, where it holds lists of records,
`skips`, the records that were left out in it with their kinds, in the order of the feed.

Main statement: `Reading.build?_isSome` (a record decodes exactly when its reading is complete).
-/
import Leaderboard.Feed.Record
import Leaderboard.Table.Cell
import Leaderboard.Text.Case

set_option autoImplicit false

namespace Leaderboard.Feed

/-- The kinds of records that lists hold. -/
inductive RecordKind where
  | model
  | prompt
  | statsHeader
  | generation
  | benchmarkEntry
deriving DecidableEq, Repr

def RecordKind.name : RecordKind → String
  | .model => "Model"
  | .prompt => "Prompt"
  | .statsHeader => "StatsHeader"
  | .generation => "Generation"
  | .benchmarkEntry => "BenchmarkEntry"

/-- The records left out while decoding the items of a list: those inside an item before the item
itself. -/
def skipsIn {α : Type} (kind : RecordKind) (decode? : Json → Option α)
    (inside : Json → List (RecordKind × Json)) (items : List Json) : List (RecordKind × Json) :=
  items.flatMap fun item => inside item ++ if (decode? item).isSome then [] else [(kind, item)]

/-! ## Benchmarks -/

/-- The benchmark that a partition ranks by. -/
structure Benchmark where
  slug : String
  name : String
  href? : Option String
deriving DecidableEq

namespace Benchmark

/-- The benchmark of a partition that names none. -/
def standard : Benchmark := ⟨"vibe", "Vibe Eval", none⟩

def shape : Shape := [{ name := "slug" }, { name := "name" }, { name := "href" }]

/-- The text of a field, or a default where the field is absent. -/
def textOr (r : Reading) (name absent : String) : String :=
  match r.field? name with
  | none => absent
  | some v => (textOf? v).getD ""

def ofReading (r : Reading) : Benchmark where
  slug := textOr r "slug" standard.slug
  name := textOr r "name" standard.name
  href? := r.text? "href"

def ofJson? (v : Json) : Option Benchmark := (Reading.ofJson shape v).build? ofReading

end Benchmark

/-- What a model achieved in a benchmark, as the feed has it. -/
structure BenchmarkEntry where
  rawTotal : Json
  rawAverage : Json
  rawCount : Json

namespace BenchmarkEntry

def shape : Shape := [{ name := "total" }, { name := "average" }, { name := "count" }]

def ofReading (r : Reading) : BenchmarkEntry := ⟨r.raw "total", r.raw "average", r.raw "count"⟩

def ofJson? (v : Json) : Option BenchmarkEntry := (Reading.ofJson shape v).build? ofReading

/-- The total; what is no number counts as zero. -/
def total (e : BenchmarkEntry) : Binary64 := (Cell.ofJson e.rawTotal).numberOrZero

def average? (e : BenchmarkEntry) : Option Binary64 := (Cell.ofJson e.rawAverage).number?

/-- The largest count. -/
def countLimit : Nat := Nat.pow 2 64 - 1

/-- How many generations were scored: the whole part of a positive number, else zero. -/
def count (e : BenchmarkEntry) : Nat :=
  match (Cell.ofJson e.rawCount).number? with
  | some x => x.toNatUpTo countLimit
  | none => 0

end BenchmarkEntry

/-! ## Columns -/

/-- A column that the feed declares. -/
structure StatsHeader where
  key : String
  label : String
  valueType? : Option String
  href? : Option String
  url? : Option String
deriving DecidableEq

namespace StatsHeader

def shape : Shape :=
  [{ name := "key" }, { name := "label" }, { name := "value_type" }, { name := "href" },
    { name := "url" }]

def ofReading (r : Reading) : StatsHeader where
  key := r.text "key"
  label := r.text "label"
  valueType? := r.text? "value_type"
  href? := r.text? "href"
  url? := r.text? "url"

def ofJson? (v : Json) : Option StatsHeader := (Reading.ofJson shape v).build? ofReading

/-- The link of a column. An empty `href` hides the `url`. -/
def link? (h : StatsHeader) : Option String := (h.href?.or h.url?).bind Text.nonempty?

end StatsHeader

/-! ## Generations -/

/-- The kind of a generation's media. -/
inductive Media where
  | image
  | video
  | unknown
deriving DecidableEq, Repr

namespace Media

def ofName (s : String) : Media :=
  if s = "image" then .image else if s = "video" then .video else .unknown

/-- The kind that a value names: a text, or an object with a null under the name. -/
def ofJson : Json → Media
  | .text s => ofName s
  | .object [(s, .null)] => ofName s
  | _ => .unknown

def label : Media → String
  | .image => "Image"
  | .video => "Video"
  | .unknown => "Unknown"

end Media

/-- One output of a model for a prompt. -/
structure Generation where
  uid : String
  prompt? : Option String
  rawScore : Json
  comment? : Option String
  mediaUrl? : Option String
  path? : Option String
  media : Media

namespace Generation

def shape : Shape :=
  [{ name := "uid" }, { name := "prompt" }, { name := "score" }, { name := "comment" },
    { name := "mediaUrl", aliases := ["media_url", "url"] }, { name := "path" },
    { name := "mediaType", aliases := ["media_type"] }]

def ofReading (r : Reading) : Generation where
  uid := r.text "uid"
  prompt? := r.text? "prompt"
  rawScore := r.raw "score"
  comment? := r.text? "comment"
  mediaUrl? := r.text? "mediaUrl"
  path? := r.text? "path"
  media := Media.ofJson (r.raw "mediaType")

def ofJson? (v : Json) : Option Generation := (Reading.ofJson shape v).build? ofReading

/-- Where the media is: the first of its address and its path that is not blank. -/
def source? (g : Generation) : Option String :=
  (g.mediaUrl?.bind Text.nonblank?).or (g.path?.bind Text.nonblank?)

/-- The score; what is no number counts as zero. -/
def score (g : Generation) : Binary64 := (Cell.ofJson g.rawScore).numberOrZero

end Generation

/-! ## Prompts -/

structure Prompt where
  uid : String
  text : String
  references : List String
  explanation? : Option String
deriving DecidableEq

namespace Prompt

def shape : Shape :=
  [{ name := "uid" }, { name := "prompt" }, { name := "references" }, { name := "explanation" }]

def ofReading (r : Reading) : Prompt where
  uid := r.text "uid"
  text := r.text "prompt"
  references := r.list "references" textOf?
  explanation? := r.text? "explanation"

def ofJson? (v : Json) : Option Prompt := (Reading.ofJson shape v).build? ofReading

end Prompt

/-! ## Models -/

structure Model where
  slug : String
  name : String
  stats : List (String × Json)
  benchmarks : List (String × BenchmarkEntry)
  generations : List Generation

namespace Model

def shape : Shape :=
  [{ name := "slug" }, { name := "name" }, { name := "stats" }, { name := "benchmarks" },
    { name := "generations", aliases := ["images"] }]

/-- The benchmark entries that are not null. -/
def entriesOf (v : Json) : List (String × Json) :=
  (membersOf v).filter fun m => !(m.2 matches .null)

def ofReading (r : Reading) : Model where
  slug := r.text "slug"
  name := r.text "name"
  stats := membersOf (r.raw "stats")
  benchmarks := (entriesOf (r.raw "benchmarks")).filterMap fun m =>
    (BenchmarkEntry.ofJson? m.2).map fun e => (m.1, e)
  generations := r.list "generations" Generation.ofJson?

def ofJson? (v : Json) : Option Model := (Reading.ofJson shape v).build? ofReading

/-- The records left out in a field. -/
def fieldSkips (name : String) (v : Json) : List (RecordKind × Json) :=
  if name = "benchmarks" then
    skipsIn .benchmarkEntry BenchmarkEntry.ofJson? (fun _ => []) ((entriesOf v).map (·.2))
  else if name = "generations" then
    skipsIn .generation Generation.ofJson? (fun _ => []) (itemsOf v)
  else []

def skips (v : Json) : List (RecordKind × Json) :=
  (Reading.ofJson shape v).given.flatMap fun f => fieldSkips f.1 f.2

/-- What the model achieved in a benchmark. -/
def resultIn? (m : Model) (benchmark : String) : Option BenchmarkEntry :=
  m.benchmarks.lookup benchmark

/-- The total of a benchmark, zero without an entry. -/
def total (m : Model) (benchmark : String) : Binary64 :=
  ((m.resultIn? benchmark).map (·.total)).getD .zero

end Model

/-! ## Partitions -/

structure Partition where
  slug : String
  label? : Option String
  title? : Option String
  benchmark? : Option Benchmark
  headers : List StatsHeader
  models : List Model
  prompts : List Prompt

namespace Partition

def shape : Shape :=
  [{ name := "slug" }, { name := "label" }, { name := "title" }, { name := "benchmark" },
    { name := "statsHeaders" }, { name := "models" }, { name := "prompts" }]

def ofReading (r : Reading) : Partition where
  slug := r.text "slug"
  label? := r.text? "label"
  title? := r.text? "title"
  benchmark? := (r.field? "benchmark").bind Benchmark.ofJson?
  headers := r.list "statsHeaders" StatsHeader.ofJson?
  models := r.list "models" Model.ofJson?
  prompts := r.list "prompts" Prompt.ofJson?

def ofJson? (v : Json) : Option Partition := (Reading.ofJson shape v).build? ofReading

/-- The records left out in a field. -/
def fieldSkips (name : String) (v : Json) : List (RecordKind × Json) :=
  if name = "statsHeaders" then
    skipsIn .statsHeader StatsHeader.ofJson? (fun _ => []) (itemsOf v)
  else if name = "models" then skipsIn .model Model.ofJson? Model.skips (itemsOf v)
  else if name = "prompts" then skipsIn .prompt Prompt.ofJson? (fun _ => []) (itemsOf v)
  else []

def skips (v : Json) : List (RecordKind × Json) :=
  (Reading.ofJson shape v).given.flatMap fun f => fieldSkips f.1 f.2

/-- The benchmark that the partition ranks by. -/
def benchmark (p : Partition) : Benchmark := p.benchmark?.getD .standard

/-- A model's total in the benchmark that the partition ranks by. -/
def totalOf (p : Partition) (m : Model) : Binary64 := m.total p.benchmark.slug

/-- The label shown for the partition under a key: its own, or the key in capitals. -/
def shownLabel (p : Partition) (key : String) : String :=
  (p.label?.bind Text.nonempty?).getD (Text.upper key)

end Partition

/-! ## Lemmas -/

theorem Reading.build?_isSome {α : Type} (r : Reading) (build : Reading → α) :
    (r.build? build).isSome = r.complete := by
  unfold Reading.build?
  cases r.complete <;> rfl

theorem Model.total_isNan (m : Model) (benchmark : String) : (m.total benchmark).isNan = false := by
  unfold Model.total
  cases m.resultIn? benchmark with
  | none => rfl
  | some e => exact Cell.numberOrZero_isNan _

/-- A total can always be compared. -/
theorem Partition.totalOf_isNan (p : Partition) (m : Model) : (p.totalOf m).isNan = false :=
  m.total_isNan _

end Leaderboard.Feed
