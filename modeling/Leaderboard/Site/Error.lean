/-
# Leaderboard.Site.Error — what can go wrong while a site is opened

A load fails by a status, a web that does not answer, an unreadable file, a feed that is no JSON
object or an address that is no URL. A page fails by a failed load or for want of a partition; its
reader sees the same words either way. Missing explanations never fail a page, but are reported.

What the web, the system or the reader of JSON tells of a failure is part of the error.
-/
import Leaderboard.Json.Token
import Leaderboard.Url.Fault

set_option autoImplicit false

namespace Leaderboard.Site

/-- Why a file cannot be read. -/
inductive ReadFault where
  | notFound
  | denied
  | notDirectory
  | isDirectory
  | nameTooLong
  /-- Any other reason, as the system tells it. -/
  | other (code : Nat) (text : String)
deriving DecidableEq, Repr

namespace ReadFault

/-- The reason behind a code of the system, with the system's text for it. -/
def ofCode (text : String) : Nat → ReadFault
  | 2 => .notFound
  | 13 => .denied
  | 20 => .notDirectory
  | 21 => .isDirectory
  | 36 => .nameTooLong
  | code => .other code text

def code : ReadFault → Nat
  | .notFound => 2
  | .denied => 13
  | .notDirectory => 20
  | .isDirectory => 21
  | .nameTooLong => 36
  | .other code _ => code

def text : ReadFault → String
  | .notFound => "No such file or directory"
  | .denied => "Permission denied"
  | .notDirectory => "Not a directory"
  | .isDirectory => "Is a directory"
  | .nameTooLong => "File name too long"
  | .other _ text => text

def message (f : ReadFault) : String := f.text ++ " (os error " ++ toString f.code ++ ")"

end ReadFault

/-- Why the web gives no answer, and what lies behind that, one cause behind the other. -/
structure WebFault where
  text : String
  causes : List String := []
deriving DecidableEq, Repr

/-- Why a feed cannot be loaded. -/
inductive LoadError where
  | status (code : Nat)
  | offline {fault : WebFault}
  | unreadable (fault : ReadFault)
  /-- The reader of JSON tells its reason beside the fault. -/
  | notJson {reason : String} (fault : Json.Fault)
  | badLocation (place : String) (fault : Url.Fault)
deriving DecidableEq

namespace LoadError

def ofWeb (fault : WebFault) : LoadError := @offline fault

def message : LoadError → String
  | .status code => "failed to load site data: " ++ toString code
  | @offline fault => "failed to load site data: " ++ fault.text
  | .unreadable fault => "failed to read site data: " ++ fault.message
  | @notJson reason _ => "site data is not valid JSON: " ++ reason
  | .badLocation place fault => "invalid site location: " ++ place ++ ": " ++ fault.message

/-- What lies behind the error, one cause behind the other. -/
def causes : LoadError → List String
  | @offline fault => fault.text :: fault.causes
  | .unreadable fault => [fault.message]
  | @notJson reason _ => [reason]
  | _ => []

/-- The message of the error when it concerns the explanations. -/
def auxiliaryMessage (e : LoadError) : String := "failed to load prompt explanations: " ++ e.message

end LoadError

/-- Why a page cannot be shown. -/
inductive SiteError where
  | load (e : LoadError)
  | noData
deriving DecidableEq

namespace SiteError

def message : SiteError → String
  | .load e => e.message
  | .noData => "No model data available."

def causes : SiteError → List String
  | .load e => e.causes
  | .noData => []

/-- What the reader of the page is told. -/
def userMessage : SiteError → String
  | .load _ => "Failed to load model data."
  | .noData => "Failed to load model data."

end SiteError

end Leaderboard.Site
