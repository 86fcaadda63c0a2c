/-
# Leaderboard.Site.World — what a run finds around it

Around a run there are files, and there may be a client of the web. Neither changes while it runs.
A site in a directory is read from the files; a site below a URL is asked for through the client,
which answers with a status and a body, or fails. Only a status of success counts.

Main statement: `connect?_of_local` (there is always a way to a site in a directory, and it leads to
the files below it).
-/
import Leaderboard.Site.Cache
import Leaderboard.Site.Source

set_option autoImplicit false

namespace Leaderboard.Site

/-- An answer of the web. Its body may break off. -/
structure Response where
  status : Nat
  body : Except WebFault (List UInt8)

def Response.success (r : Response) : Bool := 200 ≤ r.status && r.status < 300

/-- How a client of the web is answered. -/
abbrev Client := Url → Except WebFault Response

structure World where
  read : String → Except ReadFault (List UInt8)
  /-- The client, unless none can be had. -/
  client? : Except WebFault Client

/-- A client without a connection. -/
def Client.unconnected : Client := fun _ => .error { text := "no connection" }

/-- Files, and no connection to the web. -/
def World.ofFiles (read : String → Except ReadFault (List UInt8)) : World where
  read
  client? := .ok Client.unconnected

/-- Fetches a file below a URL. -/
def Client.fetch (client : Client) (base : Url) (path : String) : Except LoadError (List UInt8) :=
  match base.join path with
  | .error fault => .error (.badLocation path fault)
  | .ok url =>
    match client url with
    | .error fault => .error (.ofWeb fault)
    | .ok r => if r.success then r.body.mapError .ofWeb else .error (.status r.status)

/-- The way to the files of a site. -/
def Source.connect? (w : World) (source : Source) : Except LoadError Carrier :=
  match source with
  | .directory root =>
    .ok { fetch := fun path => (w.read (below root path)).mapError .unreadable
          locate := source.locate }
  | .web base => (w.client?.mapError .ofWeb).map fun client =>
    { fetch := client.fetch base, locate := source.locate }

/-- The way to the files of the site that settings name. -/
def connect? (s : Settings) (w : World) : Except LoadError Carrier :=
  (Source.ofSettings? s).bind (Source.connect? w)

/-! ## Lemmas -/

theorem connect?_of_local (w : World) {s : Settings} (near : s.isRemote = false) :
    ∃ c, connect? s w = .ok c ∧
      ∀ path, c.fetch path = (w.read (below s.base path)).mapError .unreadable := by
  have found : Source.ofSettings? s = .ok (.directory s.base) := if_neg (by simp [near])
  rw [connect?, found]
  exact ⟨_, rfl, fun _ => rfl⟩

end Leaderboard.Site
