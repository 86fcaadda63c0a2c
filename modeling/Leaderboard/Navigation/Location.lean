/-
# Leaderboard.Navigation.Location — what the address of a page asks for

The query of a page address may name a mode, its fragment a model in the benchmark breakdown.
-/
import Leaderboard.Navigation.Link
import Leaderboard.Text.Blank
import Leaderboard.Url.Query

set_option autoImplicit false

namespace Leaderboard.Navigation

/-- The mode that the query names first, if the name is not empty. -/
def modeOfQuery? (pairs : List (String × String)) : Option String :=
  (pairs.find? fun p => p.1 == modeParameter && !p.2.isEmpty).map (·.2)

/-- The mode that an address asks for, else the default one, if that has a name. -/
def requestedMode (address : Url) (default? : Option String) : Option String :=
  (modeOfQuery? address.queryPairs).or (default?.bind Text.nonempty?)

/-- The fragment of an address, unless it is empty. -/
def deepLink (address : Url) : Option String :=
  address.fragment?.bind fun cs => if cs.isEmpty then none else some (String.ofList cs)

end Leaderboard.Navigation
