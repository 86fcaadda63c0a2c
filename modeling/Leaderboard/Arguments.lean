/-
# Leaderboard.Arguments — the words of a command

A command names options. Most of them take the next word as their value, whatever it looks like; of
an option that is given twice the last value counts, but filters are gathered in order. The first
word that cannot be read refuses the command.

Main statements: `read_append` (a command that continues another one continues its reading),
`sortOf_direction` (a sort without a colon names a key only), and `sortOf?_cut` and `filterOf?_cut`
(what is read where the key has no mark).
-/
import Leaderboard.Table.Ordering
import Leaderboard.Text.Cut
import Leaderboard.Url.Reader

set_option autoImplicit false

namespace Leaderboard

/-- What a command asks for. -/
structure Arguments where
  base? : Option String := none
  mode? : Option String := none
  /-- The address of the page. -/
  address? : Option Url := none
  sort? : Option (String × Option Direction) := none
  filters : List (String × String) := []
  /-- Whether the breakdown is asked for in place of the table. -/
  detail : Bool := false
  /-- The fragment of the panel to open. -/
  opened? : Option String := none

namespace Arguments

def usage : String :=
  "usage: vibeboard [--base <url|dir>] [--mode <slug>] [--url <page-url>] " ++
    "[--sort <key>[:asc|desc]] [--filter <key>=<query>]... [--detail [--open <anchor>]]"

/-! ## Options -/

/-- The options that take a value. -/
inductive Setter where
  | base
  | mode
  | address
  | sort
  | filter
  | opened
deriving DecidableEq, Repr

def Setter.name : Setter → String
  | .base => "--base"
  | .mode => "--mode"
  | .address => "--url"
  | .sort => "--sort"
  | .filter => "--filter"
  | .opened => "--open"

inductive Flag where
  | set (s : Setter)
  | detail
  | help
deriving DecidableEq, Repr

namespace Flag

def setters : List Setter := [.base, .mode, .address, .sort, .filter, .opened]

def ofText? (s : String) : Option Flag :=
  if s = "--detail" then some .detail
  else if s = "-h" ∨ s = "--help" then some .help
  else (setters.find? (·.name == s)).map .set

end Flag

/-- Why a command is refused. -/
inductive Fault where
  | missingValue (s : Setter)
  | badAddress (fault : Url.Fault)
  | badDirection (text : String)
  | badFilter (text : String)
  | help
  | unknown (word : String)
deriving DecidableEq, Repr

def Fault.message : Fault → String
  | .missingValue s => s.name ++ " needs a value\n" ++ usage
  | .badAddress fault => fault.message
  | .badDirection text => "bad sort direction: " ++ text
  | .badFilter text => "filter must look like key=query: " ++ text
  | .help => usage
  | .unknown word => "unknown argument: " ++ word ++ "\n" ++ usage

/-! ## Values -/

/-- A key, and a direction after the first colon. -/
def sortOf? (value : String) : Except Fault (String × Option Direction) :=
  match Text.cutAt ':' value.toList with
  | (_, none) => .ok (value, none)
  | (key, some direction) =>
    match Direction.ofText? (String.ofList direction) with
    | some d => .ok (String.ofList key, some d)
    | none => .error (.badDirection (String.ofList direction))

/-- A key, and a query after the first equals sign. -/
def filterOf? (value : String) : Except Fault (String × String) :=
  match Text.cutAt '=' value.toList with
  | (_, none) => .error (.badFilter value)
  | (key, some query) => .ok (String.ofList key, String.ofList query)

/-- The arguments after an option with its value. -/
def set (a : Arguments) (value : String) : Setter → Except Fault Arguments
  | .base => .ok { a with base? := some value }
  | .mode => .ok { a with mode? := some value }
  | .address =>
    match Url.ofText? value with
    | .ok url => .ok { a with address? := some url }
    | .error fault => .error (.badAddress fault)
  | .sort => (sortOf? value).map fun sort => { a with sort? := some sort }
  | .filter => (filterOf? value).map fun filter => { a with filters := a.filters ++ [filter] }
  | .opened => .ok { a with opened? := some value }

/-! ## Commands -/

/-- The arguments after more words. -/
def read (a : Arguments) : List String → Except Fault Arguments
  | [] => .ok a
  | word :: r =>
    match Flag.ofText? word with
    | none => .error (.unknown word)
    | some .help => .error .help
    | some .detail => read { a with detail := true } r
    | some (.set s) =>
      match r with
      | [] => .error (.missingValue s)
      | value :: r =>
        match a.set value s with
        | .ok a => read a r
        | .error fault => .error fault

/-- The arguments of a command. -/
def ofWords? (words : List String) : Except Fault Arguments := read {} words

/-! ## Lemmas -/

theorem sortOf_direction {value : String} (h : ':' ∉ value.toList) :
    sortOf? value = .ok (value, none) := by
  simp [sortOf?, Text.cutAt_of_not_mem h]

/-- A text with a mark in it is what is before the first one, the mark and what is after it. -/
theorem exists_cut {mark : Char} {s : String} (there : mark ∈ s.toList) :
    ∃ front back : String, s = front ++ String.singleton mark ++ back ∧ mark ∉ front.toList := by
  obtain ⟨front, back, chars, before⟩ := List.eq_append_cons_of_mem there
  refine ⟨.ofList front, .ofList back, ?_, by rwa [String.toList_ofList]⟩
  apply String.toList_injective
  simp [chars]

theorem sortOf?_cut {key : String} (plain : ':' ∉ key.toList) (direction : String) :
    sortOf? (key ++ ":" ++ direction) =
      match Direction.ofText? direction with
      | some d => .ok (key, some d)
      | none => .error (.badDirection direction) := by
  have chars : (key ++ ":" ++ direction).toList = key.toList ++ ':' :: direction.toList := by
    simp
  unfold sortOf?
  rw [chars, Text.cutAt_append plain]
  simp only [String.ofList_toList]

theorem filterOf?_cut {key : String} (plain : '=' ∉ key.toList) (query : String) :
    filterOf? (key ++ "=" ++ query) = .ok (key, query) := by
  have chars : (key ++ "=" ++ query).toList = key.toList ++ '=' :: query.toList := by
    simp
  unfold filterOf?
  rw [chars, Text.cutAt_append plain]
  simp only [String.ofList_toList]

theorem filterOf?_of_not_mem {value : String} (plain : '=' ∉ value.toList) :
    filterOf? value = .error (.badFilter value) := by
  simp [filterOf?, Text.cutAt_of_not_mem plain]

theorem read_append (b : List String) : ∀ (a : List String) (start middle : Arguments),
    read start a = .ok middle → read start (a ++ b) = read middle b := by
  intro a start middle h
  fun_induction read start a with
  | case1 start => rw [Except.ok.inj h]; rfl
  | case2 | case3 | case5 | case7 => cases h
  | case4 start word r detail ih =>
    simp only [List.cons_append, read, detail]
    exact ih h
  | case6 start word s found value r next ok ih =>
    simp only [List.cons_append, read, found, ok]
    exact ih h

end Arguments

end Leaderboard
