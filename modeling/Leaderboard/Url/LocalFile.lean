/-
# Leaderboard.Url.LocalFile — URLs of local files

A local file is on a host, which is mostly empty, or on a drive of this machine, which takes the
place of the host. A drive is the first segment of the path, a letter with a colon or a bar; it is
written with a colon. A tab or line end parts a drive from what follows it in the same segment, and
then the drive takes no host's place.

Main statement: `localFile_fragment` (the fragment is kept as it is).
-/
import Leaderboard.Url.Parts

set_option autoImplicit false

namespace Leaderboard.Url

/-! ## The path -/

/-- The path of a local file. -/
structure LocalPath where
  segments : List (List Char) := []
  /-- Whether the drive that the path begins with stands for the host. -/
  onDrive : Bool := false

namespace LocalPath

/-- A drive and what a tab or line end parts from it. -/
def cutDrive? (segment : List Char) : Option (List Char × List Char) :=
  match Text.cutAt ':' segment with
  | (front, some (c :: r)) =>
    let drive := unbroken front ++ [':']
    if isDrive drive && isBreak c && !(unbroken r).isEmpty then some (drive, unbroken r) else none
  | _ => none

/-- The path after a segment, which may hold tabs and line ends. -/
def enter (p : LocalPath) (segment : List Char) (last : Bool) : LocalPath :=
  match p.segments, isDrive (unbroken segment), cutDrive? segment with
  | [], true, _ => { segments := [(unbroken segment).take 1 ++ [':']], onDrive := true }
  | [], false, some (drive, rest) => { p with segments := [drive, written rest] }
  | segments, _, _ => { p with segments := Url.enter segments (unbroken segment) last }

/-- The path after segments. -/
def walk (p : LocalPath) : List (List Char) → LocalPath
  | [] => p
  | [s] => p.enter s true
  | s :: t :: r => walk (p.enter s false) (t :: r)

/-- The path of a text. -/
def ofText (scheme cs : List Char) : LocalPath := walk {} (cs.splitOnP (isSlash scheme))

/-- The segments less the empty ones in front, if more follow. -/
def withoutEmptyFront : List (List Char) → List (List Char)
  | [] :: s :: r => withoutEmptyFront (s :: r)
  | [] => [[]]
  | path => path

/-- The path as a URL has it. -/
def path (p : LocalPath) : Path := .segments (withoutEmptyFront p.segments)

end LocalPath

/-! ## The host -/

/-- The host of a local file. This machine goes without saying. -/
def fileHost? (cs : List Char) : Except Fault Host :=
  if cs.isEmpty then .ok .empty
  else (Host.ofText? true cs).map fun h => if h = .name "localhost".toList then .empty else h

/-- The text after the slash that it begins with. -/
def afterSlash? (scheme cs : List Char) : Option (List Char) :=
  match cs.dropWhile isBreak with
  | [] => none
  | c :: r => if isSlash scheme c then some r else none

/-- The host and the path of a text after two slashes. A drive needs no host; after a host its
slash is not part of the path, after an empty one it is. -/
def hostAndPath (scheme cs : List Char) : Except Fault (Host × LocalPath) :=
  let name := unbroken (cs.takeWhile fun c => !isSlash scheme c)
  let path := cs.dropWhile fun c => !isSlash scheme c
  if isDrive name then .ok (.empty, .ofText scheme cs)
  else
    (fileHost? name).map fun host =>
      (host, .ofText scheme (if host = .empty then path else path.drop 1))

/-- The host and the path of a text after the scheme. -/
def cutFile (scheme cs : List Char) : Except Fault (Host × LocalPath) :=
  match afterSlash? scheme cs with
  | none => .ok (.empty, .ofText scheme cs)
  | some r =>
    match afterSlash? scheme r with
    | none => .ok (.empty, .ofText scheme r)
    | some r => hostAndPath scheme r

/-! ## The URL -/

/-- The URL of a local file. -/
def localFile (scheme : List Char) (p : Parts) : Except Fault Url :=
  (cutFile scheme p.afterColon).map fun file =>
    { scheme, authority? := some { host := if file.2.onDrive then .empty else file.1 }
      path := file.2.path
      query? := p.query scheme, fragment? := p.fragment }

/-! ## Lemmas -/

theorem localFile_fragment {scheme : List Char} {p : Parts} {u : Url}
    (h : localFile scheme p = .ok u) : u.fragment? = p.fragment := by
  unfold localFile at h
  cases e : cutFile scheme p.afterColon with
  | error f => simp [e, Except.map] at h
  | ok file =>
    simp only [e, Except.map, Except.ok.injEq] at h
    rw [← h]

end Leaderboard.Url
