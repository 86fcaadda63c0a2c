/-
# Leaderboard.Site.Source — where the files of a site are

A site is on the web below a URL, or in a directory. `locate` names the place of one of its files:
the URL that its path leads to from the base, or the path below the directory.
-/
import Leaderboard.Settings
import Leaderboard.Site.Error
import Leaderboard.Url.Reader

set_option autoImplicit false

namespace Leaderboard.Site

inductive Source where
  | web (base : Url)
  | directory (root : String)

/-- A text that ends with a slash. -/
def slashed (s : String) : String := if s.toList.getLast? = some '/' then s else s ++ "/"

/-- A path below a directory, unless it starts from the root. -/
def below (root path : String) : String :=
  if path.toList.head? = some '/' then path
  else if root.isEmpty then path
  else slashed root ++ path

namespace Source

/-- The site below a URL, which ends with a slash. -/
def ofUrl? (base : String) : Except LoadError Source :=
  match Url.ofText? (slashed base) with
  | .ok url => .ok (.web url)
  | .error fault => .error (.badLocation (slashed base) fault)

/-- The source that the settings name. -/
def ofSettings? (s : Settings) : Except LoadError Source :=
  if s.isRemote then ofUrl? s.base else .ok (.directory s.base)

/-- The place of a file; a path that leads nowhere names itself. -/
def locate : Source → String → String
  | .web base, path =>
    match base.join path with
    | .ok url => url.text
    | .error _ => path
  | .directory root, path => below root path

end Source

end Leaderboard.Site
