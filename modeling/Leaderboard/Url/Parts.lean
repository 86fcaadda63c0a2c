/-
# Leaderboard.Url.Parts — the parts of a text that is read as a URL

Controls and spaces around the text do not count, nor do the line ends and tabs within. A fragment
begins at the first number sign, a query at the first question mark before it, a scheme ends at the
first colon.

Main statement: `Parts.fragment_of` (the fragment is what follows the first number sign).
-/
import Leaderboard.Text.Cut
import Leaderboard.Url.Path

set_option autoImplicit false

namespace Leaderboard.Url

/-! ## Characters that do not count -/

def isEdge (c : Char) : Bool := c.toNat ≤ 0x20

def isBreak (c : Char) : Bool := c == '\t' || c == '\n' || c == '\r'

/-- The text without what surrounds it. -/
def trimmed (s : String) : List Char :=
  ((s.toList.dropWhile isEdge).reverse.dropWhile isEdge).reverse

/-- The characters that count. -/
def unbroken (cs : List Char) : List Char := cs.filter fun c => !isBreak c

/-! ## Parts -/

/-- A text before its query, with its line ends and tabs, the query and the fragment. -/
structure Parts where
  front : List Char
  query? : Option (List Char)
  fragment? : Option (List Char)

namespace Parts

def of (cs : List Char) : Parts :=
  let whole := Text.cutAt '#' cs
  let front := Text.cutAt '?' whole.1
  { front := front.1, query? := front.2.map unbroken, fragment? := whole.2.map unbroken }

/-- What counts of the text before the query. -/
def main (p : Parts) : List Char := unbroken p.front

/-- The text between the first colon and the query, with its line ends and tabs. -/
def afterColon (p : Parts) : List Char := (Text.cutAt ':' p.front).2.getD []

def query (p : Parts) (scheme : List Char) : Option (List Char) :=
  p.query?.map (Text.Percent.encode (keptInQuery (isSpecial scheme)))

def fragment (p : Parts) : Option (List Char) :=
  p.fragment?.map (Text.Percent.encode keptInFragment)

/-- Whether nothing follows the text before the query. -/
def isBare (p : Parts) : Bool := p.query?.isNone && p.fragment?.isNone

theorem fragment_of {front : List Char} (h : '#' ∉ front) (back : List Char) :
    (of (front ++ '#' :: back)).fragment? = some (unbroken back) := by
  simp [of, Text.cutAt_append h]

end Parts

/-- The scheme in small letters and the text after its colon. -/
def scheme? : List Char → Option (List Char × List Char)
  | [] => none
  | c :: r =>
    match Text.cutAt ':' (c :: r) with
    | (_, none) => none
    | (front, some back) =>
      if c.isAlpha && front.all fun d => d.isAlphanum || d == '+' || d == '-' || d == '.' then
        some (front.map Char.toLower, back)
      else none

end Leaderboard.Url
