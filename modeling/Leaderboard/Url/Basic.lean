/-
# Leaderboard.Url.Basic — URLs

A URL has a scheme, perhaps an authority, a path, and perhaps a query and a fragment; all of them
are held as they are written, with their escapes. Some schemes are special: they have an authority,
their path is not empty, and a backslash counts as a slash in them.
-/
import Leaderboard.Url.Host

set_option autoImplicit false

namespace Leaderboard

namespace Url

/-! ## Schemes -/

/-- The special schemes with the number of the service that each of them means by itself. -/
def specialSchemes : List (List Char × Option Nat) :=
  [("http".toList, some 80), ("https".toList, some 443), ("ws".toList, some 80),
    ("wss".toList, some 443), ("ftp".toList, some 21), ("file".toList, none)]

def isSpecial (scheme : List Char) : Bool := (specialSchemes.lookup scheme).isSome

/-- The scheme of local files. -/
def isFile (scheme : List Char) : Bool := scheme == "file".toList

/-- The number that need not be written. -/
def defaultNumber? (scheme : List Char) : Option Nat := (specialSchemes.lookup scheme).bind id

/-! ## Parts -/

/-- Who is asked: with what name and password, at which host and which service. -/
structure Authority where
  username : List Char := []
  password : List Char := []
  host : Host
  portNumber? : Option Nat := none
deriving DecidableEq, Repr

/-- A path is plain, or a list of segments with a slash before each. -/
inductive Path where
  | plain (text : List Char)
  | segments (list : List (List Char))
deriving DecidableEq, Repr

end Url

structure Url where
  scheme : List Char
  authority? : Option Url.Authority
  path : Url.Path
  query? : Option (List Char)
  fragment? : Option (List Char)
deriving DecidableEq, Repr

namespace Url

/-! ## Written form -/

def Authority.credentials (a : Authority) : List Char :=
  if a.username.isEmpty && a.password.isEmpty then []
  else a.username ++ ((if a.password.isEmpty then [] else ':' :: a.password) ++ ['@'])

def Authority.text (a : Authority) : List Char :=
  a.credentials ++ (a.host.text ++
    match a.portNumber? with
    | none => []
    | some n => ':' :: numeral 10 n)

def Path.text : Path → List Char
  | .plain cs => cs
  | .segments list => list.flatMap ('/' :: ·)

/-- The segments of a path; a plain one has none. -/
def Path.list : Path → List (List Char)
  | .plain _ => []
  | .segments list => list

/-- What stands between scheme and path. A path that begins with two slashes is kept from being
taken for an authority. -/
def leading (authority? : Option Authority) (path : Path) : List Char :=
  match authority?, path with
  | some a, _ => '/' :: '/' :: a.text
  | none, .segments ([] :: _ :: _) => ['/', '.']
  | none, _ => []

/-- A part that may be absent, after its mark. -/
def marked (mark : Char) : Option (List Char) → List Char
  | none => []
  | some cs => mark :: cs

/-- The text of a URL without its fragment. -/
def textToQuery (u : Url) : List Char :=
  u.scheme ++ (':' :: (leading u.authority? u.path ++ (u.path.text ++ marked '?' u.query?)))

def chars (u : Url) : List Char := u.textToQuery ++ marked '#' u.fragment?

/-- The text of a URL. -/
def text (u : Url) : String := String.ofList u.chars

/-- A URL with another fragment. -/
def withFragment (u : Url) (fragment? : Option (List Char)) : Url := { u with fragment? }

end Url

end Leaderboard
