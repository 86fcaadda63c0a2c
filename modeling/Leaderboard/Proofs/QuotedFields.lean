/-
# Leaderboard.Proofs.QuotedFields — reading a line undoes the writing of its fields

A field is written in one of two ways: as it is, when there is neither a comma nor a quote in it,
or between quotes, with every quote inside written twice. The fields of a line stand between commas.

The reader goes through a line character by character and keeps two things, whether it is inside
quotes and the field so far. Behind a written field it is outside again and has that field
(`fieldsFrom_written`). A field without marks never takes it inside. In a quoted one every two
quotes are read as one, and the quote that closes is told from them by what comes next: behind a
written field there is a comma or the end of the line, never a quote.

* `fields_of_written`: the fields of a line are those that were written, in whatever way each was.
-/
import Leaderboard.Feed.Explanations
import Mathlib.Data.List.Forall2

set_option autoImplicit false

namespace Leaderboard.Feed

/-! ## Writing a field -/

/-- Every quote twice, all else once. -/
def doubled (cs : List Char) : List Char :=
  cs.flatMap fun c => if c = '"' then ['"', '"'] else [c]

/-- A text between quotes. -/
def quote (s : String) : String := "\"" ++ String.ofList (doubled s.toList) ++ "\""

/-- The ways to write a field. -/
inductive Writes : (field written : String) → Prop where
  | bare {s : String} (comma : ',' ∉ s.toList) (mark : '"' ∉ s.toList) : Writes s s
  | quoted (s : String) : Writes s (quote s)

theorem toList_quote (s : String) : (quote s).toList = '"' :: (doubled s.toList ++ ['"']) := by
  simp [quote]

/-! ## Reading it back -/

variable {cs current rest : List Char}

theorem fieldsFrom_comma (current rest : List Char) :
    fieldsFrom false current (',' :: rest) = current.reverse :: fieldsFrom false [] rest := rfl

theorem fieldsFrom_open (current rest : List Char) :
    fieldsFrom false current ('"' :: rest) = fieldsFrom true current rest := rfl

theorem fieldsFrom_pair (current rest : List Char) :
    fieldsFrom true current ('"' :: '"' :: rest) = fieldsFrom true ('"' :: current) rest := rfl

/-- A quote closes if no quote follows it. -/
theorem fieldsFrom_close (next : rest.head? ≠ some '"') :
    fieldsFrom true current ('"' :: rest) = fieldsFrom false current rest := by
  cases rest with
  | nil => rfl
  | cons d r => exact if_neg fun e => next (congrArg some e)

/-- A character without a meaning where it stands belongs to the field. -/
theorem fieldsFrom_other {quoted : Bool} {c : Char} (mark : c ≠ '"')
    (comma : c = ',' → quoted = true) :
    fieldsFrom quoted current (c :: rest) = fieldsFrom quoted (c :: current) rest := by
  have inside : ¬(c = ',' ∧ (!quoted) = true) := by
    rintro ⟨e, outside⟩
    simp [comma e] at outside
  rw [fieldsFrom.eq_def]
  exact (if_neg mark).trans (if_neg inside)

/-- Outside quotes nothing but commas and quotes has a meaning. -/
theorem fieldsFrom_plain (comma : ',' ∉ cs) (mark : '"' ∉ cs) :
    fieldsFrom false current (cs ++ rest) = fieldsFrom false (cs.reverse ++ current) rest := by
  induction cs generalizing current with
  | nil => rfl
  | cons c r ih =>
    rw [List.mem_cons, not_or] at comma mark
    rw [List.cons_append, fieldsFrom_other (Ne.symm mark.1) (fun e => absurd e.symm comma.1),
      ih comma.2 mark.2, List.reverse_cons, List.append_assoc, List.singleton_append]

/-- Inside quotes everything up to the closing quote is taken, two quotes as one. -/
theorem fieldsFrom_doubled (next : rest.head? ≠ some '"') :
    fieldsFrom true current (doubled cs ++ '"' :: rest) =
      fieldsFrom false (cs.reverse ++ current) rest := by
  induction cs generalizing current with
  | nil => exact fieldsFrom_close next
  | cons c r ih =>
    rw [List.reverse_cons, List.append_assoc]
    by_cases mark : c = '"'
    · subst mark
      exact (fieldsFrom_pair _ _).trans ih
    · have once : doubled (c :: r) = c :: doubled r := by simp [doubled, mark]
      rw [once, List.cons_append, fieldsFrom_other mark (fun _ => rfl)]
      exact ih

/-- Behind a written field the reader is outside quotes and has the field. -/
theorem fieldsFrom_written {s w : String} (writes : Writes s w) (next : rest.head? ≠ some '"') :
    fieldsFrom false [] (w.toList ++ rest) = fieldsFrom false s.toList.reverse rest := by
  cases writes with
  | bare comma mark => rw [fieldsFrom_plain comma mark, List.append_nil]
  | quoted =>
    rw [toList_quote, List.cons_append, List.append_assoc, List.singleton_append]
    rw [fieldsFrom_open, fieldsFrom_doubled next, List.append_nil]

/-- Fields between commas are read one after the other. -/
theorem fieldsFrom_intercalate {s w : String} {fs ws : List String} (first : Writes s w)
    (others : List.Forall₂ Writes fs ws) :
    fieldsFrom false [] ([','].intercalate ((w :: ws).map String.toList)) =
      (s :: fs).map String.toList := by
  induction others generalizing s w with
  | nil =>
    have read : fieldsFrom false [] (w.toList ++ []) = [s.toList.reverse.reverse] :=
      fieldsFrom_written first (by simp)
    rw [List.append_nil, List.reverse_reverse] at read
    rw [List.map_singleton, List.intercalate_singleton, read, List.map_singleton]
  | cons next _ ih =>
    rw [List.map_cons, List.map_cons, List.intercalate_cons_cons, List.append_assoc,
      List.singleton_append, fieldsFrom_written first (by simp), fieldsFrom_comma,
      List.reverse_reverse, ← List.map_cons, ih next]
    rfl

theorem fields_intercalate {s w : String} {fs ws : List String} (first : Writes s w)
    (others : List.Forall₂ Writes fs ws) : fields (",".intercalate (w :: ws)) = s :: fs := by
  have comma : ",".toList = [','] := rfl
  rw [fields, String.toList_intercalate, comma, fieldsFrom_intercalate first others, List.map_map]
  simp [Function.comp_def]

/-- **The fields of a line are those that were written**, each as it is or between quotes. -/
theorem fields_of_written {fs ws : List String} (nonempty : fs ≠ [])
    (writes : List.Forall₂ Writes fs ws) : fields (",".intercalate ws) = fs := by
  cases writes with
  | nil => exact absurd rfl nonempty
  | cons first others => exact fields_intercalate first others

/-- Fields that are easily mistaken: nothing, bare and between quotes, a quote at the end, and
nothing but marks. -/
def markedFields : List String := ["", "p1", "", "say \"hi\"", "\",\","]

def markedForms : List String := ["", "p1", quote "", quote "say \"hi\"", quote "\",\","]

theorem writes_markedForms : List.Forall₂ Writes markedFields markedForms :=
  .cons (.bare (by decide) (by decide)) <| .cons (.bare (by decide) (by decide)) <|
    .cons (.quoted _) <| .cons (.quoted _) <| .cons (.quoted _) .nil

theorem fields_of_written_marked :
    markedFields ≠ [] ∧ List.Forall₂ Writes markedFields markedForms ∧
    ",".intercalate markedForms = ",p1,\"\",\"say \"\"hi\"\"\",\"\"\",\"\",\"" ∧
    fields (",".intercalate markedForms) = markedFields :=
  ⟨by decide, writes_markedForms, by decide +kernel,
    fields_of_written (by decide) writes_markedForms⟩

end Leaderboard.Feed
