/-
# Leaderboard.Text.Case — lower and upper case

Lower case comes in two forms. `lowerEach` lowers every character on its own and serves orders and
keys. `lower` lowers a whole text and writes a capital sigma at the end of a word as the final
sigma. A dotted capital I becomes two characters in both. `upper` may lengthen a text too.

Main statements: `lowerEach_append` (lowering character by character goes through concatenation;
`lower` does not) and `lower_eq_lowerEach` (without a capital sigma the two agree).
-/
import Leaderboard.Text.CaseTable

set_option autoImplicit false

namespace Leaderboard.Text

/-- The code point that a table of shifts gives for a character. -/
def shifted (table : List Shift) (c : Char) : Char :=
  match table.find? (·.covers c.toNat) with
  | some s => Char.ofNat (c.toNat + s.offset).toNat
  | none => c

/-- The lower case of one character. -/
def lowerChar (c : Char) : List Char :=
  if c.toNat < 0x80 then [c.toLower]
  else if c.toNat = 0x130 then [Char.ofNat 0x69, Char.ofNat 0x307]
  else [shifted lowerShifts c]

/-- The upper case of one character. -/
def upperChar (c : Char) : List Char :=
  if c.toNat < 0x80 then [c.toUpper]
  else
    match upperExpansions.find? (·.1 == c.toNat) with
    | some e => e.2.map Char.ofNat
    | none => [shifted upperShifts c]

/-- Lower case, character by character. -/
def lowerEach (cs : List Char) : List Char := cs.flatMap lowerChar

def inRanges (ranges : List (Nat × Nat)) (c : Char) : Bool :=
  ranges.any fun r => r.1 ≤ c.toNat && c.toNat ≤ r.2

/-- Whether the first character that is not case-ignorable is a cased letter. -/
def leadsToCased (cs : List Char) : Bool :=
  match cs.dropWhile (inRanges caseIgnorableRanges) with
  | [] => false
  | c :: _ => inRanges casedRanges c

def capitalSigma : Char := Char.ofNat 0x3A3

/-- The lower case of the characters `cs` that follow the characters `before`, nearest first. A
capital sigma that ends a word of at least two letters becomes a final sigma. -/
def lowerAfter (before : List Char) : List Char → List Char
  | [] => []
  | c :: r =>
    (if c = capitalSigma then
        [Char.ofNat (if leadsToCased before && !leadsToCased r then 0x3C2 else 0x3C3)]
      else lowerChar c) ++ lowerAfter (c :: before) r

/-- The lower case of a text. -/
def lower (s : String) : String := String.ofList (lowerAfter [] s.toList)

/-- The upper case of a text. -/
def upper (s : String) : String := String.ofList (s.toList.flatMap upperChar)

/-- A text with the ASCII capitals lowered and all else kept. -/
def lowerAscii (s : String) : String := String.ofList (s.toList.map Char.toLower)

/-! ## Lemmas -/

@[simp] theorem lowerEach_append (a b : List Char) :
    lowerEach (a ++ b) = lowerEach a ++ lowerEach b := by
  simp [lowerEach]

theorem lowerAfter_eq_lowerEach {cs : List Char} (h : capitalSigma ∉ cs) :
    ∀ before, lowerAfter before cs = lowerEach cs := by
  induction cs with
  | nil => intro _; rfl
  | cons c r ih =>
    intro before
    rw [List.mem_cons, not_or] at h
    rw [lowerAfter, if_neg (fun e => h.1 e.symm), ih h.2]
    rfl

theorem lower_eq_lowerEach {s : String} (h : capitalSigma ∉ s.toList) :
    lower s = String.ofList (lowerEach s.toList) := by
  rw [lower, lowerAfter_eq_lowerEach h]

end Leaderboard.Text
