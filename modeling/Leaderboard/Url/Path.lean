/-
# Leaderboard.Url.Path — reading a path

A path is read segment by segment onto the path so far. A single dot stands for the segment itself,
two dots for the one above it; dots may be escaped. A segment that begins with the letter of a drive
is never left upwards.
-/
import Leaderboard.Url.Basic

set_option autoImplicit false

namespace Leaderboard.Url

/-! ## Alphabets -/

/-- The bytes that stand for themselves in a fragment. -/
def keptInFragment (b : UInt8) : Bool :=
  0x21 ≤ b && b < 0x7F && !([0x22, 0x3C, 0x3E, 0x60].contains b)

/-- The bytes that stand for themselves in a segment. -/
def keptInPath (b : UInt8) : Bool :=
  keptInFragment b && !([0x23, 0x3F, 0x7B, 0x7D].contains b)

/-- The bytes that stand for themselves in a name or a password. -/
def keptInUserinfo (b : UInt8) : Bool :=
  keptInPath b &&
    !([0x2F, 0x3A, 0x3B, 0x3D, 0x40, 0x5B, 0x5C, 0x5D, 0x5E, 0x7C].contains b)

/-- The bytes that stand for themselves in a query; an apostrophe does not where `special`. -/
def keptInQuery (special : Bool) (b : UInt8) : Bool :=
  0x21 ≤ b && b < 0x7F && !([0x22, 0x23, 0x3C, 0x3E].contains b) && !(special && b == 0x27)

/-! ## Segments -/

def isSlash (scheme : List Char) (c : Char) : Bool := c == '/' || (c == '\\' && isSpecial scheme)

/-- A segment with its escaped dots written plainly. -/
def plainDots : List Char → List Char
  | [] => []
  | '%' :: '2' :: 'e' :: r => '.' :: plainDots r
  | '%' :: '2' :: 'E' :: r => '.' :: plainDots r
  | c :: r => c :: plainDots r

/-- Whether a segment is the letter of a drive with its mark. -/
def isDrive : List Char → Bool
  | [c, mark] => c.isAlpha && (mark == ':' || mark == '|')
  | _ => false

/-- Whether a segment is a drive, or names one before a backslash. -/
def startsDrive (segment : List Char) : Bool :=
  isDrive (segment.take 2) && (segment.drop 2).take 1 ∈ [[], ['\\']]

/-- The path without its last segment, unless that is a drive. -/
def shorten (path : List (List Char)) : List (List Char) :=
  if (path.getLast?.map startsDrive).getD false then path else path.dropLast

/-- A segment as it is written in the path. -/
def written (segment : List Char) : List Char := Text.Percent.encode keptInPath segment

/-- The path after a segment; dots at the end lead to an empty segment. -/
def enter (path : List (List Char)) (segment : List Char) (last : Bool) : List (List Char) :=
  let ending := if last then [[]] else []
  if plainDots segment = ['.', '.'] then shorten path ++ ending
  else if plainDots segment = ['.'] then path ++ ending
  else path ++ [written segment]

/-- The path after segments. -/
def walk (path : List (List Char)) : List (List Char) → List (List Char)
  | [] => path
  | [s] => enter path s true
  | s :: t :: r => walk (enter path s false) (t :: r)

/-- The segments that a text leads to from a path. -/
def segmentsFrom (scheme : List Char) (path : List (List Char)) (cs : List Char) :
    List (List Char) :=
  walk path (cs.splitOnP (isSlash scheme))

/-- The segments of a text that begins with a slash or, where that must not be, with none. -/
def segmentsOf (scheme : List Char) : List Char → List (List Char)
  | [] => if isSpecial scheme then [[]] else []
  | c :: r => segmentsFrom scheme [] (if isSlash scheme c then r else c :: r)

end Leaderboard.Url
