/-
# Leaderboard.Text.Canonical — canonical composition

A letter with marks can be written in several ways that say the same. `composed` gives the one in
which every character falls into its parts, marks that follow one another stand in the order of
their classes, and each part is then put together with the letter before it wherever a character
for both exists.
-/
import Leaderboard.Text.Ascii
import Leaderboard.Text.CanonicalTable

set_option autoImplicit false

namespace Leaderboard.Text.Canonical

/-! ## Hangul -/

namespace Hangul

def firstSyllable : Nat := 0xAC00
def firstLead : Nat := 0x1100
def firstVowel : Nat := 0x1161

/-- The code point before the first letter that can end a syllable. -/
def noTail : Nat := 0x11A7

def leadCount : Nat := 19
def vowelCount : Nat := 21

/-- How many ends a syllable may have, none being one of them. -/
def tailCount : Nat := 28

/-- The place of a syllable among all. -/
def index? (c : Char) : Option Nat :=
  if firstSyllable ≤ c.toNat ∧ c.toNat < firstSyllable + leadCount * vowelCount * tailCount then
    some (c.toNat - firstSyllable)
  else none

/-- The letters of the syllable at a place. -/
def letters (index : Nat) : List Char :=
  let open_ := index / tailCount
  let tail := index % tailCount
  Char.ofNat (firstLead + open_ / vowelCount) :: Char.ofNat (firstVowel + open_ % vowelCount) ::
    (if tail = 0 then [] else [Char.ofNat (noTail + tail)])

/-- The syllable of a first letter and a vowel, or of a syllable without an end and an end. -/
def composite? (a b : Char) : Option Char :=
  if firstLead ≤ a.toNat ∧ a.toNat < firstLead + leadCount ∧
      firstVowel ≤ b.toNat ∧ b.toNat < firstVowel + vowelCount then
    some (Char.ofNat (firstSyllable +
      ((a.toNat - firstLead) * vowelCount + (b.toNat - firstVowel)) * tailCount))
  else
    (index? a).bind fun index =>
      if index % tailCount = 0 ∧ noTail < b.toNat ∧ b.toNat < noTail + tailCount then
        some (Char.ofNat (a.toNat + (b.toNat - noTail)))
      else none

end Hangul

/-! ## Parts -/

/-- The parts of a character. -/
def parts (c : Char) : List Char :=
  match Hangul.index? c with
  | some index => Hangul.letters index
  | none => (decompositions.target? c).getD [c]

/-- The class of a mark; zero for characters that marks do not pass. -/
def combiningClass (c : Char) : Nat :=
  if c.toNat < 0x300 then 0 else (classes.value? c).getD 0

/-- A character with its class. -/
abbrev Classed := Char × Nat

/-- Puts a character before others, after the marks of lower classes that it must follow. -/
def settle (m : Classed) : List Classed → List Classed
  | [] => [m]
  | n :: r => if 0 < n.2 ∧ n.2 < m.2 then n :: settle m r else m :: n :: r

/-- Marks that follow one another in the order of their classes. -/
def ordered (ms : List Classed) : List Classed := ms.foldr settle []

/-! ## Composition -/

/-- The character that two compose. -/
def composite? (a b : Char) : Option Char :=
  (Hangul.composite? a b).orElse fun _ =>
    (composites.entries.find? (·.values == [a.toNat, b.toNat])).map fun e => Char.ofNat e.first

/-- Composes the characters that follow `start` and the marks since then, nearest first. A mark
reaches `start` past marks of lower classes only. -/
def composedFrom (start : Char) (since : List Classed) : List Classed → List Char
  | [] => start :: (since.map (·.1)).reverse
  | m :: r =>
    let reaches := match since with
      | [] => true
      | n :: _ => n.2 < m.2
    match (composite? start m.1).filter fun _ => reaches with
    | some c => composedFrom c since r
    | none =>
      if m.2 = 0 then start :: ((since.map (·.1)).reverse ++ composedFrom m.1 [] r)
      else composedFrom start (m :: since) r

/-- Marks with no character to stand on stay; from the first character on all is composed. -/
def composedClassed (ms : List Classed) : List Char :=
  (ms.takeWhile (·.2 ≠ 0)).map (·.1) ++
    match ms.dropWhile (·.2 ≠ 0) with
    | [] => []
    | m :: r => composedFrom m.1 [] r

/-- The composed form of a text. Nothing before U+0300 composes or decomposes in such a text. -/
def composed (cs : List Char) : List Char :=
  if cs.all (·.toNat < 0x300) then cs
  else composedClassed (ordered ((cs.flatMap parts).map fun c => (c, combiningClass c)))

end Leaderboard.Text.Canonical
