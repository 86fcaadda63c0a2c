/-
# Leaderboard.Site.Folder — files held in memory

A folder holds files under the names that lead to them. A path is followed name by name: a single
dot and an empty name stay, two dots go up, and only what a file or a directory is named leads to
it. A path from the root starts at the machine's own directories; of what lies around a folder
nothing is known but that it is a directory.
-/
import Leaderboard.Site.Error

set_option autoImplicit false

namespace Leaderboard.Site

/-- Files with the names that lead to them, and directories that may hold none. -/
structure Folder where
  files : List (List String × List UInt8)
  directories : List (List String) := []

namespace Folder

/-- The most bytes that a name may have. -/
def nameLimit : Nat := 255

/-- A path has fewer bytes than this. -/
def pathLimit : Nat := 4096

/-- The names of a path. -/
def namesOf (path : String) : List String := (path.toList.splitOn '/').map String.ofList

/-- The folder with files at some paths. -/
def ofFiles (files : List (String × List UInt8)) : Folder :=
  { files := files.map fun f => ((namesOf f.1).filter fun n => n != "" && n != ".", f.2) }

/-- What every machine has at its root: its directories, and a device that is always empty. -/
def machine : Folder :=
  { files := [(["dev", "null"], [])]
    directories := ["bin", "boot", "dev", "etc", "home", "lib", "media", "mnt", "opt", "proc",
      "root", "run", "sbin", "srv", "sys", "tmp", "usr", "var"].map ([·]) }

/-- What is known of the place around a folder. -/
def surroundings : Folder := { files := [] }

/-- The file at a place. -/
def fileAt? (f : Folder) (place : List String) : Option (List UInt8) := f.files.lookup place

/-- Whether a place is a directory: it is listed, or files lie below it. The folder itself always
is one. -/
def isDirectory (f : Folder) (place : List String) : Bool :=
  place.isEmpty || f.directories.contains place ||
    f.files.any fun e => place.isPrefixOf e.1 && place.length < e.1.length

/-- Follows names from a directory of a folder that lies in `outer`. -/
def follow (outer f : Folder) (place : List String) : List String → Except ReadFault (List UInt8)
  | [] => .error .isDirectory
  | name :: r =>
    if name = "" ∨ name = "." then follow outer f place r
    else if name = ".." then
      if place = [] then follow outer outer [] r else follow outer f place.dropLast r
    else if nameLimit < name.utf8ByteSize then .error .nameTooLong
    else
      let next := place ++ [name]
      match f.fileAt? next with
      | some bytes => if r = [] then .ok bytes else .error .notDirectory
      | none => if f.isDirectory next then follow outer f next r else .error .notFound

/-- Reads the file at a path. -/
def read (f : Folder) (path : String) : Except ReadFault (List UInt8) :=
  if path.isEmpty then .error .notFound
  else if pathLimit ≤ path.utf8ByteSize then .error .nameTooLong
  else if path.toList.head? = some '/' then follow machine machine [] (namesOf path)
  else follow surroundings f [] (namesOf path)

end Folder

end Leaderboard.Site
