/-
# Leaderboard.Text.Blank — blank characters and trimming

A character is blank when it has the property White_Space: twenty-five code points, among them
the no-break space and the ideographic space. `trim` removes the blanks at both ends of a text,
`squeeze` removes all of them.

Main statements: `trimList_of_ends` (a text with no blank at either end is its own trimming),
`trimList_split` and `trimList_padded` (blanks around a text are what trimming removes, and they do
not count) and `squeezeList_eq_self` (a text without blanks is its own squeezing).
-/
set_option autoImplicit false

namespace Leaderboard.Text

/-- Whether a character is blank. -/
def isBlank (c : Char) : Bool :=
  let n := c.toNat
  (9 ≤ n && n ≤ 13) || n == 0x20 || n == 0x85 || n == 0xA0 || n == 0x1680 ||
    (0x2000 ≤ n && n ≤ 0x200A) || n == 0x2028 || n == 0x2029 || n == 0x202F || n == 0x205F ||
    n == 0x3000

/-- The characters without the blanks at their end. -/
def trimEndList (cs : List Char) : List Char := (cs.reverse.dropWhile isBlank).reverse

/-- The characters without the blanks at their two ends. -/
def trimList (cs : List Char) : List Char := trimEndList (cs.dropWhile isBlank)

/-- The characters that are not blank. -/
def squeezeList (cs : List Char) : List Char := cs.filter fun c => !isBlank c

/-- A text without the blanks at its two ends. -/
def trim (s : String) : String := String.ofList (trimList s.toList)

/-- A text without the blanks at its end. -/
def trimEnd (s : String) : String := String.ofList (trimEndList s.toList)

/-- Whether a text holds nothing but blanks. -/
def isBlankText (s : String) : Bool := s.toList.all isBlank

/-- A text, unless it is empty. -/
def nonempty? (s : String) : Option String := if s.isEmpty then none else some s

/-- A text, unless it is blank. -/
def nonblank? (s : String) : Option String := if isBlankText s then none else some s

/-! ## Lemmas -/

theorem bind_nonblank?_eq_some_iff {s? : Option String} {t : String} :
    s?.bind nonblank? = some t ↔ s? = some t ∧ isBlankText t = false := by
  cases s? with
  | none => simp
  | some s =>
    rw [Option.bind_some, nonblank?, Option.some.injEq]
    split
    · rename_i blank
      exact iff_of_false nofun (by rintro ⟨rfl, full⟩; rw [blank] at full; cases full)
    · rename_i full
      rw [Option.some.injEq, eq_comm, and_iff_left_of_imp]
      rintro rfl
      exact Bool.eq_false_iff.mpr full

theorem bind_nonblank?_eq_none_iff {s? : Option String} :
    s?.bind nonblank? = none ↔ ∀ s, s? = some s → isBlankText s = true := by
  cases s? <;> simp [nonblank?]

theorem squeezeList_eq_self {cs : List Char} (h : ∀ c ∈ cs, isBlank c = false) :
    squeezeList cs = cs := by
  rw [squeezeList, List.filter_eq_self]
  intro c hc
  simp [h c hc]

/-- Around a trimmed text there are the blanks that were there. -/
theorem trimList_split (cs : List Char) : ∃ front back, cs = front ++ trimList cs ++ back ∧
    (∀ c ∈ front, isBlank c = true) ∧ ∀ c ∈ back, isBlank c = true := by
  refine ⟨cs.takeWhile isBlank, ((cs.dropWhile isBlank).reverse.takeWhile isBlank).reverse,
    ?_, List.all_eq_true.mp List.all_takeWhile, ?_⟩
  · rw [trimList, trimEndList, List.append_assoc, ← List.reverse_append,
      List.takeWhile_append_dropWhile, List.reverse_reverse, List.takeWhile_append_dropWhile]
  · intro c mem
    exact List.all_eq_true.mp List.all_takeWhile c (List.mem_reverse.mp mem)

theorem length_trimEnd_le (s : String) : (trimEnd s).length ≤ s.length := by
  rw [trimEnd, trimEndList, String.length_ofList, List.length_reverse]
  calc (s.toList.reverse.dropWhile isBlank).length
    _ ≤ s.toList.reverse.length := (List.dropWhile_suffix _).length_le
    _ = s.length := by rw [List.length_reverse, String.length_toList]

theorem trimEndList_append {back : List Char} (blank : ∀ c ∈ back, isBlank c = true)
    (cs : List Char) : trimEndList (cs ++ back) = trimEndList cs := by
  have reversed : ∀ c ∈ back.reverse, isBlank c = true := by simpa using blank
  rw [trimEndList, List.reverse_append, List.dropWhile_append_of_pos reversed, trimEndList]

/-- Blanks around a text do not count. -/
theorem trimList_padded {front back : List Char} (blank : ∀ c ∈ front, isBlank c = true)
    (blank' : ∀ c ∈ back, isBlank c = true) (cs : List Char) :
    trimList (front ++ (cs ++ back)) = trimList cs := by
  have gone : (back ++ []).dropWhile isBlank = [] := List.dropWhile_append_of_pos blank'
  rw [List.append_nil] at gone
  rw [trimList, List.dropWhile_append_of_pos blank, List.dropWhile_append, trimList]
  split
  · rename_i none
    rw [List.isEmpty_iff.mp none, gone]
  · exact trimEndList_append blank' _

theorem trimList_of_ends {cs : List Char} (first : ∀ c, cs.head? = some c → isBlank c = false)
    (last : ∀ c, cs.getLast? = some c → isBlank c = false) : trimList cs = cs := by
  have keep : ∀ ds : List Char, (∀ c, ds.head? = some c → isBlank c = false) →
      ds.dropWhile isBlank = ds := by
    intro ds h
    cases ds with
    | nil => rfl
    | cons d r => simp [h d rfl]
  rw [trimList, keep cs first, trimEndList, keep cs.reverse (by simpa using last),
    List.reverse_reverse]

end Leaderboard.Text
