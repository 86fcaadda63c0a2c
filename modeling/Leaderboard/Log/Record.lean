/-
# Leaderboard.Log.Record — what the program reports

A record has a level, a domain, an event, a message and data. A setting admits the records of at
least its level in its domains. Each event has one function that makes its record.
-/
import Leaderboard.Feed.Dataset
import Leaderboard.Log.Sha256

set_option autoImplicit false

namespace Leaderboard.Log

/-! ## Levels and domains -/

inductive Level where
  | trace
  | debug
  | info
  | warn
  | error
  | fatal
deriving DecidableEq, Repr

namespace Level

/-- Levels are ordered by weight. -/
def weight : Level → Nat
  | .trace => 0
  | .debug => 1
  | .info => 2
  | .warn => 3
  | .error => 4
  | .fatal => 5

def name : Level → String
  | .trace => "trace"
  | .debug => "debug"
  | .info => "info"
  | .warn => "warn"
  | .error => "error"
  | .fatal => "fatal"

def all : List Level := [.trace, .debug, .info, .warn, .error, .fatal]

/-- The level that a text names exactly; else the level of information. -/
def ofName (s : String) : Level := (all.find? (·.name == s)).getD .info

/-- The name in capitals. -/
def tag (l : Level) : String := Text.upper l.name

end Level

inductive Domain where
  | load
  | mode
  | query
  | detail
  | system
  | profile
deriving DecidableEq, Repr

def Domain.name : Domain → String
  | .load => "load"
  | .mode => "mode"
  | .query => "query"
  | .detail => "detail"
  | .system => "system"
  | .profile => "profile"

/-! ## Settings -/

/-- The records that are wanted: from a level on, in all domains or in those named. -/
structure Setting where
  level : Level := .info
  domains? : Option (List String) := none

namespace Setting

/-- The setting of two texts: a level, and `all` or domains with commas between them. -/
def ofTexts (level? domains? : Option String) : Setting where
  level := (level?.map Level.ofName).getD .info
  domains? := (domains?.filter (· != "all")).map fun s =>
    (s.toList.splitOn ',').map fun d => String.ofList (Text.trimList d)

end Setting

/-! ## Records -/

structure Record where
  level : Level
  domain : Domain
  event : String
  message : String := ""
  data : List (String × Json) := []

def Setting.enables (s : Setting) (d : Domain) : Bool :=
  match s.domains? with
  | none => true
  | some names => names.contains d.name

/-- Whether a setting wants a record. -/
def Setting.admits (s : Setting) (r : Record) : Bool :=
  s.level.weight ≤ r.level.weight && s.enables r.domain

/-- Data from a sequence of entries, a repeated key taking its last value at its first place. -/
def dataOf (entries : List (String × Json)) : List (String × Json) := Json.ofWrites entries

def optional (s? : Option String) : Json := (s?.map Json.text).getD .null

/-- A count, in 64 bits. -/
def count (n : Nat) : Json := .number (.natural (min n Json.wordLimit) (Nat.min_le_right _ _))

namespace Record

/-- The program starts on a site, with a mode if one is requested. -/
def startup (base : String) (mode? : Option String) : Record where
  level := .info
  domain := .system
  event := "startup"
  data := dataOf [("site_base", .text base), ("mode", optional mode?)]

/-- A feed has been fetched. -/
def fetched (location : String) (bytes : List UInt8) : Record where
  level := .info
  domain := .load
  event := "fetch"
  data := dataOf [("location", .text location), ("bytes", count bytes.length),
    ("sha256", .text (Sha256.hex bytes))]

/-- The feed is at hand from an earlier load. -/
def cacheHit (path : String) : Record where
  level := .trace
  domain := .load
  event := "cache_hit"
  data := dataOf [("path", .text path)]

/-- A part of the feed is left out. -/
def skipped [Wording] (s : Feed.Skip) : Record where
  level := .warn
  domain := .load
  event := match s with
    | .record _ _ => "record_skipped"
    | .partition _ _ => "partition_skipped"
  message := Wording.unfit s
  data := match s with
    | .record kind _ => dataOf [("kind", .text kind.name)]
    | .partition key _ => dataOf [("mode", .text key)]

/-- There are no explanations, for a reason. -/
def explanationsUnavailable (path reason : String) : Record where
  level := .warn
  domain := .load
  event := "explanations_unavailable"
  message := reason
  data := dataOf [("path", .text path)]

/-- A mode has been chosen among some. -/
def resolved (requested? : Option String) (key : String) (available : Nat) : Record where
  level := .debug
  domain := .mode
  event := "resolve"
  data := dataOf [("requested", optional requested?), ("resolved", .text key),
    ("available", count available)]

/-- A table has been computed. -/
def viewed (mode : String) (total shown : Nat) (sortKey? : Option String) : Record where
  level := .debug
  domain := .query
  event := "view"
  data := dataOf [("mode", .text mode), ("rows_total", count total), ("rows_shown", count shown),
    ("sort_key", optional sortKey?)]

/-- A fragment names no model. -/
def anchorNotFound (fragment : String) : Record where
  level := .debug
  domain := .detail
  event := "anchor_not_found"
  data := dataOf [("fragment", .text fragment)]

/-- A breakdown has been computed. -/
def detailed (slug : String) (models prompts : Nat) : Record where
  level := .debug
  domain := .detail
  event := "detail"
  data := dataOf [("slug", .text slug), ("models", count models), ("prompts", count prompts)]

/-- A computation has ended. -/
def profiled (label : String) (context : List (String × Json)) : Record where
  level := .trace
  domain := .profile
  event := "profile"
  data := dataOf (context ++ [("label", .text label)])

/-- The run has failed. -/
def failed (reason : String) : Record where
  level := .fatal
  domain := .system
  event := "load_failed"
  message := reason

/-- The line of a record, the `number`th of a run. -/
def line (run : String) (number : Nat) (r : Record) : Json :=
  .object [("run_id", .text run), ("seq", count number), ("lvl", .text r.level.tag),
    ("component", .text r.domain.name), ("event", .text r.event), ("msg", .text r.message),
    ("data", .object r.data)]

end Record

end Leaderboard.Log
