/-
# Leaderboard.Proofs.NamedColumns — which columns a command can name

A sort names a column and a direction with a colon between them, a filter a column and a query with
an equals sign between them. Both are cut at their first mark, since queries may hold marks
themselves, and keys are whatever the headers of a feed say. So a key without the mark is read back
with all that follows it. A key with a colon is never read back: what follows its first colon holds
another one, and no name of a direction does (`Direction.not_mem_of_ofText?`), so the command is
refused. A key with an equals sign names the column under its front instead.

* `columns_named`: this for every column, direction and query, and what the page makes of it.

Pole: `marks_part_keys` (two headers whose keys hold a mark).
-/
import Leaderboard.Proofs.ColumnKeys
import Leaderboard.Proofs.CommandGroups
import Leaderboard.Session

set_option autoImplicit false

namespace Leaderboard

open Leaderboard.Feed (Partition)

/-! ## Names of directions -/

namespace Direction

theorem ofText?_name (d : Direction) : ofText? d.name = some d := by
  cases d <;> decide

/-- No name of a direction has a colon, whatever its case and the blanks around it. -/
theorem not_mem_of_ofText? {s : String} {d : Direction} (names : ofText? s = some d) :
    ':' ∉ s.toList := by
  intro colon
  obtain ⟨front, back, split, blank, blank'⟩ := Text.trimList_split s.toList
  have kept : ':' ∈ (Text.lowerAscii (Text.trim s)).toList := by
    rw [split, List.mem_append, List.mem_append] at colon
    have inside : ':' ∈ Text.trimList s.toList := by
      rcases colon with (ahead | inside) | behind
      · exact absurd (blank _ ahead) (by decide)
      · exact inside
      · exact absurd (blank' _ behind) (by decide)
    rw [Text.lowerAscii, Text.trim, String.toList_ofList, String.toList_ofList]
    exact List.mem_map.mpr ⟨':', inside, rfl⟩
  unfold ofText? at names
  dsimp only at names
  split at names
  · rename_i name
    rcases name with same | same <;> exact absurd (same ▸ kept) (by decide)
  · split at names
    · rename_i name
      rcases name with same | same <;> exact absurd (same ▸ kept) (by decide)
    · cases names

end Direction

/-! ## What is read -/

namespace Arguments

/-- A command that sorts by a column. -/
def sortWords (key direction : String) : List String := ["--sort", key ++ ":" ++ direction]

/-- A command that filters a column. -/
def filterWords (key query : String) : List String := ["--filter", key ++ "=" ++ query]

theorem ofWords?_sortWords {key : String} (plain : ':' ∉ key.toList) (direction : String) :
    ofWords? (sortWords key direction) =
      match Direction.ofText? direction with
      | some d => .ok { sort? := some (key, some d) }
      | none => .error (.badDirection direction) := by
  change ofWords? (Group.words (.set .sort (key ++ ":" ++ direction))) = _
  rw [ofWords?_words, Group.apply, Arguments.set, sortOf?_cut plain]
  cases Direction.ofText? direction <;> rfl

theorem ofWords?_filterWords {key : String} (plain : '=' ∉ key.toList) (query : String) :
    ofWords? (filterWords key query) = .ok { filters := [(key, query)] } := by
  change ofWords? (Group.words (.set .filter (key ++ "=" ++ query))) = _
  rw [ofWords?_words, Group.apply, Arguments.set, filterOf?_cut plain]
  rfl

/-- What is behind the first colon of a key is taken for a direction and names none. -/
theorem ofWords?_sortWords_cut {front : String} (plain : ':' ∉ front.toList)
    (back direction : String) : ofWords? (sortWords (front ++ ":" ++ back) direction) =
      .error (.badDirection (back ++ ":" ++ direction)) := by
  have regrouped : sortWords (front ++ ":" ++ back) direction =
      sortWords front (back ++ ":" ++ direction) := by
    simp [sortWords, String.append_assoc]
  rw [regrouped, ofWords?_sortWords plain]
  cases names : Direction.ofText? (back ++ ":" ++ direction) with
  | none => rfl
  | some d => exact absurd (by simp) (Direction.not_mem_of_ofText? names)

/-- What is behind the first equals sign of a key is taken for the start of the query. -/
theorem ofWords?_filterWords_cut {front : String} (plain : '=' ∉ front.toList)
    (back query : String) : ofWords? (filterWords (front ++ "=" ++ back) query) =
      .ok { filters := [(front, back ++ "=" ++ query)] } := by
  have regrouped : filterWords (front ++ "=" ++ back) query =
      filterWords front (back ++ "=" ++ query) := by
    simp [filterWords, String.append_assoc]
  rw [regrouped, ofWords?_filterWords plain]

end Arguments

/-! ## What is named -/

open Arguments (ofWords? sortWords filterWords)

/-- What commands that name a column of a partition come to. -/
structure ColumnNamed [Sorter] (mode : String) (p : Partition) (key : String) (d : Direction)
    (query : String) : Prop where
  sort : ofWords? (sortWords key d.name) = .ok { sort? := some (key, some d) } ↔ ':' ∉ key.toList
  refused : ∀ front back, key = front ++ ":" ++ back → ':' ∉ front.toList →
    ofWords? (sortWords key d.name) = .error (.badDirection (back ++ ":" ++ d.name))
  filter : ofWords? (filterWords key query) = .ok { filters := [(key, query)] } ↔ '=' ∉ key.toList
  /-- The filter goes to another key, with a query that was not meant. -/
  misled : ∀ front back, key = front ++ "=" ++ back → '=' ∉ front.toList →
    ofWords? (filterWords key query) = .ok { filters := [(front, back ++ "=" ++ query)] }
  /-- A page of the partition is sorted by the column when the command is read. -/
  sorted : ∀ (e : Explorer) (a : Arguments), e.mode = mode → e.partition = p →
    ofWords? (sortWords key d.name) = .ok a → ∃ e', e.run? (Session.steps a) = some e' ∧
      e'.view.sortKey? = some key ∧ e'.view.direction = d

/-- A page takes over a sort by one of its columns. -/
theorem Explorer.sort_shown [Sorter] (e : Explorer) {key : String} (d : Direction)
    (column : key ∈ columnKeys e.mode e.partition) :
    ∃ e', e.run? [.sort key d] = some e' ∧ e'.view.sortKey? = some key ∧ e'.view.direction = d := by
  refine ⟨_, rfl, ?_, rfl⟩
  change TableView.sortKeyOf (columnsOf e.mode e.partition) (some key) = some key
  rw [TableView.sortKeyOf_eq, TableView.keyOf_of_mem column]

/-- **A command can sort by the columns whose keys have no colon, and filter those whose keys have
no equals sign.** -/
theorem columns_named [Sorter] {mode : String} {p : Partition} {key : String}
    (column : key ∈ columnKeys mode p) (d : Direction) (query : String) :
    ColumnNamed mode p key d query := by
  have read (plain : ':' ∉ key.toList) :
      ofWords? (sortWords key d.name) = .ok { sort? := some (key, some d) } := by
    rw [Arguments.ofWords?_sortWords plain, Direction.ofText?_name]
  have refused : ∀ front back, key = front ++ ":" ++ back → ':' ∉ front.toList →
      ofWords? (sortWords key d.name) = .error (.badDirection (back ++ ":" ++ d.name)) := by
    rintro front back rfl plain
    exact Arguments.ofWords?_sortWords_cut plain back d.name
  have misled : ∀ front back, key = front ++ "=" ++ back → '=' ∉ front.toList →
      ofWords? (filterWords key query) = .ok { filters := [(front, back ++ "=" ++ query)] } := by
    rintro front back rfl plain
    exact Arguments.ofWords?_filterWords_cut plain back query
  -- A key with a mark is cut at the first one.
  have colon (marked : ':' ∈ key.toList) :
      ∃ fault, ofWords? (sortWords key d.name) = .error fault := by
    obtain ⟨front, back, same, plain⟩ := Arguments.exists_cut marked
    exact ⟨_, refused front back same plain⟩
  constructor
  case refused => exact refused
  case misled => exact misled
  case sort =>
    refine ⟨fun accepted marked => ?_, read⟩
    obtain ⟨fault, refused⟩ := colon marked
    rw [refused] at accepted
    cases accepted
  case filter =>
    refine ⟨fun accepted marked => ?_, fun plain => Arguments.ofWords?_filterWords plain query⟩
    obtain ⟨front, back, same, plain⟩ := Arguments.exists_cut marked
    rw [misled front back same plain] at accepted
    simp only [Except.ok.injEq, Arguments.mk.injEq, List.cons.injEq, Prod.mk.injEq] at accepted
    have whole := accepted.2.2.2.2.1.1.1
    rw [whole] at plain
    exact plain marked
  case sorted =>
    rintro e a rfl rfl accepted
    by_cases marked : ':' ∈ key.toList
    · obtain ⟨fault, refused⟩ := colon marked
      rw [refused] at accepted
      cases accepted
    · rw [read marked] at accepted
      cases accepted
      exact e.sort_shown d column

/-! ## Poles -/

/-- A partition with two headers whose keys hold marks. -/
def markedKeys : Partition where
  slug := ""
  label? := none
  title? := none
  benchmark? := none
  headers := [⟨"p:95", "P95", none, none, none⟩, ⟨"a=b", "A is B", some "text", none, none⟩]
  models := []
  prompts := []

/-- A key with one of the marks is named where only the other one is looked for. -/
theorem columns_named_marked :
    "p:95" ∈ columnKeys "m" markedKeys ∧ "a=b" ∈ columnKeys "m" markedKeys ∧
      ofWords? (filterWords "p:95" "<=2") = .ok { filters := [("p:95", "<=2")] } ∧
      ofWords? (sortWords "a=b" "asc") = .ok { sort? := some ("a=b", some .ascending) } := by
  have latency : "p:95" ∈ columnKeys "m" markedKeys := by decide +kernel
  have equation : "a=b" ∈ columnKeys "m" markedKeys := by decide +kernel
  exact ⟨latency, equation, (columns_named latency .ascending "<=2").filter.mpr (by decide),
    (columns_named equation .ascending "").sort.mpr (by decide)⟩

/-- A column with a colon in its key cannot be sorted by, and one with an equals sign loses its
filter to another key. -/
theorem marks_part_keys :
    "p:95" ∈ columnKeys "m" markedKeys ∧ "a=b" ∈ columnKeys "m" markedKeys ∧
      ofWords? ["--sort", "p:95:asc"] = .error (.badDirection "95:asc") ∧
      ofWords? ["--filter", "a=b=c"] = .ok { filters := [("a", "b=c")] } := by
  refine ⟨by decide +kernel, by decide +kernel, rfl, rfl⟩

end Leaderboard
