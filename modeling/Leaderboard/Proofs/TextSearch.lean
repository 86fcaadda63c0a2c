/-
# Leaderboard.Proofs.TextSearch — what a column of texts finds

A query on a column of texts is looked for in the text of the cell and in the source of the row,
all of them in lower case. Query and text are lowered apart from each other. So a part of a text is
found wherever it keeps its capital sigmas (`accepts_of_place`), and the parts found in every text
are those with fixed sigmas: a letter beside another part changes one of its sigmas, and then the
lower case of the text has fewer of the sigmas that the query asks for.

What a cell shows is not always what the feed says. A text that is a number is shown as one, the
name and the benchmark total have cells of their own whatever headers say, and of two headers with
one key the first gives the column. All that a cell shows is found (`found_by_shown_text`).

* `accepts_parts_iff`: which queries find every text that they are a part of.
* `found_by_shown_text`: which parts of which text find a model under the key of a column of texts.
-/
import Leaderboard.Proofs.CellText
import Leaderboard.Proofs.FinalSigma

set_option autoImplicit false

namespace Leaderboard

open Leaderboard.Text (KeepsSigmas FixedSigmas sigma trimList lowerAfter)

/-! ## Parts of a text -/

section Parts

variable {q : String} {c : Cell} {source : String}

theorem textAccepts_iff : textAccepts q c source = true ↔
    lowerAfter [] (trimList q.toList) <:+: lowerAfter [] c.plain.toList ∨
      lowerAfter [] (trimList q.toList) <:+: lowerAfter [] source.toList := by
  simp [textAccepts, Text.contains_iff, Text.lower, Text.trim]

/-- A query is found where it keeps its capital sigmas. -/
theorem accepts_of_place {a b : List Char} (split : c.plain.toList = a ++ trimList q.toList ++ b)
    (keeps : KeepsSigmas a.reverse (trimList q.toList) b) : textAccepts q c source = true := by
  rw [textAccepts_iff, split]
  exact .inl keeps.lower_part

/-- A query with fixed sigmas is found in every text that it is a part of. -/
theorem lower_part_of_fixedSigmas {cs ds : List Char} (fixed : FixedSigmas cs)
    (inside : cs <:+: ds) : lowerAfter [] (trimList cs) <:+: lowerAfter [] ds := by
  obtain ⟨a, b, rfl⟩ := inside
  exact (Text.lower_trimList_part cs).trans (fixed.keeps a.reverse b).lower_part

/-- **The queries that find every text and every source that they are a part of.** -/
theorem accepts_parts_iff (q : String) :
    (∀ v source : String, q.toList <:+: v.toList ∨ q.toList <:+: source.toList →
      textAccepts q (.text v) source = true) ↔ FixedSigmas q.toList := by
  constructor
  · intro found
    by_contra loose
    obtain ⟨before, after, mark, front, back, less⟩ := Text.exists_count_lt loose
    rw [← Text.count_lower_between front back, ← Text.count_lower_trimList q.toList] at less
    have inside := found (String.ofList (before.reverse ++ q.toList ++ after)) ""
      (.inl (by rw [String.toList_ofList]; exact ⟨_, _, rfl⟩))
    rw [textAccepts_iff, Cell.plain, String.toList_ofList] at inside
    rcases inside with inside | inside
    · have le := inside.sublist.count_le (sigma mark)
      omega
    · have le := inside.sublist.count_le (sigma mark)
      have empty : (lowerAfter [] "".toList).count (sigma mark) = 0 := rfl
      omega
  · rintro fixed v source (inside | inside)
    · exact textAccepts_iff.mpr (.inl (lower_part_of_fixedSigmas fixed inside))
    · exact textAccepts_iff.mpr (.inr (lower_part_of_fixedSigmas fixed inside))

/-- The last letter of a word in capitals is not found in it. Lowered one by one, as in a query
on numbers, its letters are. -/
theorem last_sigma_missed : "Σ".toList <:+: "ΟΔΟΣ".toList ∧
    textAccepts "Σ" (.text "ΟΔΟΣ") "" = false ∧
      NumberQuery.compact "Σ" <:+: NumberQuery.compact "ΟΔΟΣ" := by
  decide +kernel

end Parts

/-! ## What a column of texts shows -/

open Leaderboard.Feed (Partition Model)

/-- Values given by their keys are found under them. -/
theorem lookup_map_key {α β : Type} (key : α → String) (value : String → β) {items : List α}
    {a : α} (mem : a ∈ items) :
    (items.map fun a => (key a, value (key a))).lookup (key a) = some (value (key a)) := by
  induction items with
  | nil => cases mem
  | cons first rest ih =>
      rw [List.map_cons, List.lookup_cons]
      split
      · rename_i same
        rw [beq_iff_eq.mp same]
      · rename_i other
        rcases List.mem_cons.mp mem with rfl | later
        · simp at other
        · exact ih later

section Shown

variable {mode : String} {p : Partition} {key : String} {column : Column} {m : Model}

/-- Under the key of a column other than the name and the total stands what the stats give. -/
theorem Row.get_ofModel (found : findColumn? (columnsOf mode p) key = some column)
    (name : key ≠ Column.nameKey) (total : key ≠ Column.totalKey) :
    (Row.ofModel p m).get key = Cell.ofJson (Row.statOf m key) := by
  have same : column.key = key := by simpa using List.find?_some found
  subst same
  rcases mem_columnsOf.mp (List.mem_of_find?_eq_some found) with rfl | ⟨h, mem, header⟩ | rfl
  · exact absurd rfl name
  · have declared := (of_ofHeader? header).1
    have kept : h ∈ p.headers.filter fun h => h.key != Column.linkKey := by
      rw [List.mem_filter]
      refine ⟨mem, ?_⟩
      unfold Column.ofHeader? at header
      split at header
      · cases header
      · simp_all
    have value := lookup_map_key (·.key) (fun key => Cell.ofJson (Row.statOf m key)) kept
    rw [← declared] at value
    rw [Row.get, if_neg name, if_neg total, Row.ofModel, value]
    rfl
  · exact absurd rfl total

/-- A model is found under a key by the parts of a text: by every query that, without the blanks at
its ends, stands somewhere in the text and keeps its capital sigmas there. -/
def FoundByParts (mode : String) (p : Partition) (key : String) (m : Model) (text : String) :
    Prop :=
  ∀ (q : String) (a b : List Char), Text.isBlankText q = false →
    text.toList = a ++ trimList q.toList ++ b → KeepsSigmas a.reverse (trimList q.toList) b →
      Row.ofModel p m ∈ filterRows (columnsOf mode p) (({} : Filters).set key q) (rowsOf p)

/-- A model is found by the parts of what its cell shows. -/
theorem foundByParts_plain (found : findColumn? (columnsOf mode p) key = some column)
    (textual : column.kind = .text) (mem : m ∈ p.models) :
    FoundByParts mode p key m ((Row.ofModel p m).get key).plain := by
  intro q a b written split keeps
  have one : filterRows (columnsOf mode p) (({} : Filters).set key q) (rowsOf p) = _ :=
    filterRows_one (columnsOf mode p) (key, q) (rowsOf p)
  have filterable := filterable_of_mem_columnsOf (List.mem_of_find?_eq_some found)
  rw [one, List.mem_filter]
  refine ⟨List.mem_map_of_mem mem, ?_⟩
  rw [written, Bool.false_or, Row.satisfies, found, Option.filter_some, if_pos filterable,
    Option.all_some, textual]
  exact accepts_of_place split keeps

/-- The text of a blank stat has no part to search for. -/
theorem foundByParts_of_blank {s : String} (blank : Text.isBlankText s = true) :
    FoundByParts mode p key m s := by
  intro q a b written split _
  rw [Text.isBlankText_eq_false_iff, ← Text.trimList_trimList, ne_eq, Text.trimList_eq_nil_iff]
    at written
  rw [Text.isBlankText, split, List.all_append, List.all_append] at blank
  simp_all

/-- What of a model is found under the key of a column of texts. -/
structure FindsShown (mode : String) (p : Partition) (key : String) (m : Model) : Prop where
  /-- A stat that is a text is shown and found as it is, unless it is a number. -/
  given : ∀ s, Row.statOf m key = .text s → key ≠ Column.nameKey → key ≠ Column.totalKey →
    Binary64.finiteChars? (trimList s.toList) = none → FoundByParts mode p key m s
  /-- Of a stat that is the text of a number the plain text of the number is found. -/
  number : ∀ s x, Row.statOf m key = .text s → key ≠ Column.nameKey → key ≠ Column.totalKey →
    Binary64.finiteChars? (trimList s.toList) = some x → FoundByParts mode p key m x.text
  /-- Under the key of names the name is found, whatever the stats say. -/
  name : key = Column.nameKey → FoundByParts mode p key m m.name
  /-- Under the key of totals the total is found, whatever the stats say. -/
  total : key = Column.totalKey → FoundByParts mode p key m (p.totalOf m).text

/-- **A column of texts finds all that its cells show.** -/
theorem found_by_shown_text (found : findColumn? (columnsOf mode p) key = some column)
    (textual : column.kind = .text) (mem : m ∈ p.models) : FindsShown mode p key m := by
  have shown := foundByParts_plain found textual mem
  constructor
  case given =>
    intro s stat name total other
    cases blank : Text.isBlankText s with
    | true => exact foundByParts_of_blank blank
    | false =>
        rwa [Row.get_ofModel found name total, stat, Cell.ofJson,
          Cell.ofText_eq_text_iff.mpr ⟨blank, other⟩] at shown
  case number =>
    intro s x stat name total number
    rwa [Row.get_ofModel found name total, stat, Cell.ofJson,
      Cell.ofText_eq_number_iff.mpr number] at shown
  case name =>
    rintro rfl
    rwa [Row.get_name] at shown
  case total =>
    rintro rfl
    rwa [Row.get_total] at shown

/-- A model whose stats are not all shown as they are given. -/
def retold : Model where
  slug := "m"
  name := "New"
  stats := [("street", .text "ΟΔΟΣ 7"), ("release", .text "1.50"), ("name", .text "Old"),
    ("cost", .text "n/a"), ("benchmarkTotal", .text "n/a")]
  benchmarks := []
  generations := []

def retoldHeader (key kind : String) : Feed.StatsHeader where
  key
  label := key
  valueType? := some kind
  href? := none
  url? := none

def retoldTable : Partition where
  slug := "m"
  label? := none
  title? := none
  benchmark? := none
  headers := [retoldHeader "street" "text", retoldHeader "release" "text",
    retoldHeader "name" "text", retoldHeader "cost" "currency", retoldHeader "cost" "text",
    retoldHeader "benchmarkTotal" "text"]
  models := [retold]
  prompts := []

/-- Keys with the stat under them and a part of it. -/
def retoldParts : List (String × String × String) :=
  [("release", "1.50", "50"), ("name", "Old", "Old"), ("cost", "n/a", "n/a"),
    ("benchmarkTotal", "n/a", "n/a")]

/-- A part of a stat does not find a number that is written in another way, nor what stands under a
key of the table's own or of an earlier column of numbers. -/
theorem raw_text_missed :
    (∀ e ∈ retoldParts, Row.statOf retold e.1 = .text e.2.1 ∧ e.2.2.toList <:+: e.2.1.toList ∧
      Text.isBlankText e.2.2 = false) ∧
    ∀ e ∈ retoldParts, (∃ c ∈ columnsOf "m" retoldTable, c.key = e.1 ∧ c.kind = .text) ∧
      Row.ofModel retoldTable retold ∉ filterRows (columnsOf "m" retoldTable)
        (({} : Filters).set e.1 e.2.2) (rowsOf retoldTable) := by
  refine ⟨?_, by decide +kernel⟩
  simp only [retoldParts, List.forall_mem_cons]
  refine ⟨⟨rfl, ?_, ?_⟩, ⟨rfl, ?_, ?_⟩, ⟨rfl, ?_, ?_⟩, ⟨rfl, ?_, ?_⟩, nofun⟩ <;> decide +kernel

/-- A text that ends in a capital sigma, and its parts on both sides of it. -/
theorem found_by_shown_text_retold :
    (findColumn? (columnsOf "m" retoldTable) "street").map (·.kind) = some .text ∧
      retold ∈ retoldTable.models ∧ FindsShown "m" retoldTable "street" retold ∧
      ∀ q ∈ ["ΔΟ", " 7 "], Row.ofModel retoldTable retold ∈
        filterRows (columnsOf "m" retoldTable) (({} : Filters).set "street" q)
          (rowsOf retoldTable) := by
  have found : findColumn? (columnsOf "m" retoldTable) "street" =
      some { key := "street", label := "street", kind := .text } := by decide +kernel
  have mem : retold ∈ retoldTable.models := List.mem_cons_self
  have shown := found_by_shown_text found rfl mem
  have parts := shown.given "ΟΔΟΣ 7" rfl (by decide) (by decide) (by decide +kernel)
  refine ⟨by rw [found]; rfl, mem, shown, ?_⟩
  simp only [List.forall_mem_cons]
  refine ⟨?_, ?_, nofun⟩
  · apply parts "ΔΟ" "Ο".toList "Σ 7".toList (by decide) (by decide +kernel)
    exact Text.keepsSigmas_of_not_mem (by decide +kernel)
  · apply parts " 7 " "ΟΔΟΣ ".toList [] (by decide) (by decide +kernel)
    exact Text.keepsSigmas_of_not_mem (by decide +kernel)

end Shown

end Leaderboard
