/-
# Leaderboard.Settings — where the site is and what it opens with

The settings come from the environment; what it leaves out has a default.
-/
import Leaderboard.Text.Blank

set_option autoImplicit false

namespace Leaderboard

/-- The variables that are set, with their values. -/
abbrev Environment := List (String × String)

structure Settings where
  /-- The address of the site: a URL of the web, or a directory. -/
  base : String := "."
  dataPath : String := "data/site-data.json"
  explanationsPath : String := "prompt_explanations.csv"
  /-- The mode of a page whose address names none. -/
  defaultMode? : Option String := none
deriving DecidableEq, Repr

namespace Settings

def baseVariable : String := "SITE_BASE"

def dataVariable : String := "SITE_DATA_PATH"

def explanationsVariable : String := "SITE_EXPLANATIONS_PATH"

def modeVariable : String := "SITE_DEFAULT_MODE"

def ofEnvironment (env : Environment) : Settings :=
  let given : Settings := {}
  { base := (env.lookup baseVariable).getD given.base
    dataPath := (env.lookup dataVariable).getD given.dataPath
    explanationsPath := (env.lookup explanationsVariable).getD given.explanationsPath
    defaultMode? := (env.lookup modeVariable).bind Text.nonblank? }

/-- Whether the site is on the web. -/
def isRemote (s : Settings) : Bool :=
  "http://".toList.isPrefixOf s.base.toList || "https://".toList.isPrefixOf s.base.toList

end Settings

end Leaderboard
