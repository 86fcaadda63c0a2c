/-
# Leaderboard.Url.Name — internationalised domain names

A name is written in ASCII. Its characters first count as what they stand for, in composed form; the
labels between the dots are then checked, and a label that is not ASCII is written in Punycode after
a mark. A label that comes with the mark says what its Punycode says, which must count as itself. No
label begins with a combining mark, joiners stand where letters join, and as soon as one character
of the name runs from right to left, every label keeps to one direction.
-/
import Leaderboard.Text.BidiClass
import Leaderboard.Text.Canonical
import Leaderboard.Text.Joining
import Leaderboard.Text.Mark
import Leaderboard.Text.Percent
import Leaderboard.Url.NameTable
import Leaderboard.Url.Punycode

set_option autoImplicit false

namespace Leaderboard.Url.Name

open Leaderboard.Text (BidiClass)

/-! ## What characters count as -/

/-- What a character counts as in a name, if a name may hold it. -/
def standsFor? (c : Char) : Option (List Char) :=
  if c.toNat < 0x80 then some [c.toLower]
  else if !known.contains c then none
  else if ignored.contains c then some []
  else some ((standIns.target? c).getD [c])

/-- What a text counts as in a name. -/
def counted? (cs : List Char) : Option (List Char) :=
  (cs.mapM standsFor?).map fun parts => Text.Canonical.composed parts.flatten

/-- The ASCII characters that no name may have. -/
def isForbidden (c : Char) : Bool :=
  c.toNat ≤ 0x20 || c.toNat == 0x7F || ("%#/:<>?@[\\]^|".toList).contains c

/-! ## Labels -/

/-- How a label that is written in Punycode begins. -/
def mark : List Char := ['x', 'n', '-', '-']

/-- The most characters that are read as Punycode. -/
def writtenLimit : Nat := 2000

/-- The most characters of a label that is not ASCII. -/
def labelLimit : Nat := 1000

/-- What Punycode says, if it is what a name counts it as. -/
def decoded? (cs : List Char) : Option (List Char) :=
  if cs.isEmpty || cs.getLast? == some '-' || writtenLimit < cs.length ||
      !cs.all Punycode.isAscii then none
  else
    (Punycode.decode? cs).filter fun ds =>
      counted? ds == some ds && ds.all fun c => c != '.' && !isForbidden c

/-- What a label says. -/
def said? (label : List Char) : Option (List Char) :=
  if mark.isPrefixOf label then decoded? (label.drop mark.length) else some label

/-- A label in ASCII. -/
def written (label : List Char) : List Char :=
  if label.all Punycode.isAscii then label else mark ++ Punycode.encode label

/-! ## Joiners -/

def nonJoiner : Char := Char.ofNat 0x200C
def joiner : Char := Char.ofNat 0x200D

/-- The combining class of the marks that take a letter its vowel. -/
def virama : Nat := 9

/-- Whether a joiner may stand between the characters `before`, nearest first, and `after`. -/
def mayJoin (c : Char) (before after : List Char) : Bool :=
  (before.head?.map Text.Canonical.combiningClass) == some virama ||
    (c == nonJoiner && Text.Joining.leadsTo [Text.Joining.left, Text.Joining.dual] before &&
      Text.Joining.leadsTo [Text.Joining.right, Text.Joining.dual] after)

/-- Whether all joiners may stand where they stand, after the characters `before`. -/
def joinersFit (before : List Char) : List Char → Bool
  | [] => true
  | c :: r =>
    (if c = nonJoiner ∨ c = joiner then mayJoin c before r else true) && joinersFit (c :: before) r

/-- Whether a label is fit for a name by itself. -/
def isLabel (label : List Char) : Bool :=
  !(label.head?.map Text.isMark).getD false && joinersFit [] label &&
    (label.length ≤ labelLimit || label.all Punycode.isAscii)

/-! ## Direction -/

/-- The classes of a label without the marks at its end. -/
def classesOf (label : List Char) : List BidiClass :=
  ((label.map BidiClass.of).reverse.dropWhile (· == .nonspacingMark)).reverse

/-- What a label of either direction may hold. -/
def neutral : List BidiClass :=
  [.europeanNumber, .europeanSeparator, .europeanTerminator, .commonSeparator, .nonspacingMark,
    .boundaryNeutral, .otherNeutral]

/-- Whether classes are those of a label that runs from left to right. -/
def runsLeftToRight (classes : List BidiClass) : Bool :=
  classes.head? == some .leftToRight &&
    classes.all (fun k => k == .leftToRight || neutral.contains k) &&
    (classes.getLast?.map [.leftToRight, .europeanNumber].contains).getD false

/-- Whether classes are those of a label that runs from right to left. Its numbers are all European
or all Arabic. -/
def runsRightToLeft (classes : List BidiClass) : Bool :=
  let letters := [.rightToLeft, .arabicLetter]
  let numbers := [.europeanNumber, .arabicNumber]
  (classes.head?.map letters.contains).getD false &&
    classes.all (fun k => (letters ++ numbers ++ neutral).contains k) &&
    (classes.getLast?.map (letters ++ numbers).contains).getD false &&
    !numbers.all classes.contains

/-- Whether a label keeps to one direction. -/
def keepsDirection (label : List Char) : Bool :=
  label.isEmpty || runsLeftToRight (classesOf label) || runsRightToLeft (classesOf label)

/-! ## Names -/

/-- Whether labels make a name. -/
def fit (labels : List (List Char)) : Bool :=
  labels.all isLabel &&
    (!labels.any (·.any Text.isRightToLeft) || labels.all keepsDirection)

/-- The name in ASCII of what a name counts as. -/
def ofCounted? (name : List Char) : Option (List Char) :=
  if name.any isForbidden then none
  else
    let labels := name.splitOn '.'
    ((labels.mapM said?).filter fit).map fun _ => List.intercalate ['.'] (labels.map written)

/-- The name in ASCII. Escapes are undone first. -/
def ofText? (cs : List Char) : Option (List Char) :=
  ((Text.Utf8.decode? (Text.Percent.decode (Text.Utf8.encode cs))).bind counted?).bind ofCounted?

end Leaderboard.Url.Name
