/-
# Leaderboard.Feed.Explanations — the explanation feed

One line for each prompt: its identifier, a comma, the explanation. Fields may stand between double
quotes, with a quote inside written twice. The first line that is not blank is a heading. Commas in
an explanation need no quotes. The last line of an identifier counts.

Main statements: `fieldsFrom_ne_nil` (a line has at least one field) and `get?_append`
(later lines take precedence over earlier ones).
-/
import Leaderboard.Text.Blank
import Leaderboard.Text.Utf8

set_option autoImplicit false

namespace Leaderboard.Feed

/-! ## Lines and fields -/

/-- The fields of the rest of a line. `current` is the field so far, last character first. Inside
quotes a comma is a character like any other and a doubled quote stands for one. -/
def fieldsFrom (quoted : Bool) (current : List Char) : List Char → List (List Char)
  | [] => [current.reverse]
  | c :: r =>
    if c = '"' then
      match quoted, r with
      | true, d :: q =>
        if d = '"' then fieldsFrom true ('"' :: current) q else fieldsFrom false current (d :: q)
      | true, [] => fieldsFrom false current []
      | false, r => fieldsFrom true current r
    else if c = ',' ∧ !quoted then current.reverse :: fieldsFrom false [] r
    else fieldsFrom quoted (c :: current) r

/-- The fields of a line. -/
def fields (line : String) : List String := (fieldsFrom false [] line.toList).map String.ofList

/-- The lines of the rest of a text; `current` is the line so far, last character first. A line ends
at a line feed, and a carriage return before it belongs to the end. What follows the last end is a
line unless it is empty. -/
def linesFrom (current : List Char) : List Char → List (List Char)
  | [] => if current.isEmpty then [] else [current.reverse]
  | '\n' :: r =>
    (match current with
      | '\r' :: ds => ds.reverse
      | ds => ds.reverse) :: linesFrom [] r
  | c :: r => linesFrom (c :: current) r

/-- The lines of a text. -/
def lines (s : String) : List String := (linesFrom [] s.toList).map String.ofList

/-! ## Explanations -/

/-- The explanations by prompt, in the order of their lines. -/
structure Explanations where
  entries : List (String × String) := []

namespace Explanations

/-- The explanation of a prompt: that of its last line. -/
def get? (e : Explanations) (uid : String) : Option String := e.entries.reverse.lookup uid

/-- The entry of a line, if it names a prompt. -/
def entryOf? (line : String) : Option (String × String) :=
  match fields line with
  | [] => none
  | uid :: rest =>
    if Text.isBlankText uid then none
    else some (Text.trim uid, Text.trim (",".intercalate rest))

/-- Reads the explanation feed. -/
def ofText (s : String) : Explanations :=
  ⟨(((lines s).filter fun line => !Text.isBlankText line).drop 1).filterMap entryOf?⟩

/-- Reads the bytes of the explanation feed, whatever their encoding. -/
def ofBytes (bytes : List UInt8) : Explanations :=
  ofText (String.ofList (Text.Utf8.decodeLossy bytes))

end Explanations

/-! ## Lemmas -/

theorem fieldsFrom_ne_nil (cs : List Char) : ∀ (quoted : Bool) (current : List Char),
    fieldsFrom quoted current cs ≠ [] := by
  intro quoted current
  fun_induction fieldsFrom quoted current cs <;> simp_all

theorem Explanations.get?_append (a b : List (String × String)) (uid : String) :
    Explanations.get? ⟨a ++ b⟩ uid =
      (Explanations.get? ⟨b⟩ uid).or (Explanations.get? ⟨a⟩ uid) := by
  unfold Explanations.get?
  rw [List.reverse_append]
  induction b.reverse with
  | nil => simp
  | cons e r ih =>
    obtain ⟨k, t⟩ := e
    rw [List.cons_append, List.lookup_cons, List.lookup_cons]
    split
    · rfl
    · exact ih

end Leaderboard.Feed
