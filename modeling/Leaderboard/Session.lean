/-
# Leaderboard.Session — one run of the program

A run reads its words and its environment, opens the site, and shows the table page or the
benchmark breakdown of a mode. It prints and reports as it goes, and ends with a status, what it
has printed, what it complains of, and the records that were wanted of what it did.

What a run finds around it (`Site.World`), the sort that it runs on and the words of the reader of
JSON are given to it.

Main statements: `says_loadBoth` (both fetches are answered, whichever arrives first) and
`Outcome.of_says` (what a script says ends a run the same way under every setting).
-/
import Leaderboard.Arguments
import Leaderboard.Navigation.Location
import Leaderboard.Page
import Leaderboard.Script
import Leaderboard.Site.World

set_option autoImplicit false

namespace Leaderboard

open Leaderboard.Feed (Dataset Explanations)
open Leaderboard.Log (Record Setting)
open Leaderboard.Script (Says failPage report reportAll say says_pure says_reportAll stop)
open Leaderboard.Site (Cache Carrier LoadError ReadFault SiteError Source World)

/-! ## What is asked for -/

/-- The words and the environment of a run, as they are understood. -/
structure Session where
  arguments : Arguments
  settings : Settings

namespace Session

/-- A base among the words goes before the one of the environment. -/
def of (a : Arguments) (env : Environment) : Session where
  arguments := a
  settings :=
    let given := Settings.ofEnvironment env
    { given with base := a.base?.getD given.base }

/-- The mode that the address of the page asks for, else the default one. -/
def pageMode? (s : Session) : Option String :=
  match s.arguments.address? with
  | some url => Navigation.requestedMode url s.settings.defaultMode?
  | none => s.settings.defaultMode?

/-- A mode among the words is chosen on top of the page. -/
def requested? (s : Session) : Option String := s.arguments.mode?.or s.pageMode?

/-- The fragment of the panel to open. -/
def fragment? (s : Session) : Option String :=
  s.arguments.opened?.or (s.arguments.address?.bind Navigation.deepLink)

def cache (s : Session) : Cache where
  dataPath := s.settings.dataPath
  explanationsPath := s.settings.explanationsPath

/-! ## How a run ends -/

structure Outcome where
  status : Nat
  output : String
  complaint : String
  /-- What was reported and wanted. -/
  records : List Record

/-- A text behind a mark, its further lines below its first. -/
def indented (mark below text : String) : String :=
  mark ++ ("\n" ++ below).intercalate ((text.toList.splitOn '\n').map String.ofList)

/-- One of several causes with its number, which takes five places. -/
def numbered (number : Nat) (cause : String) : String :=
  let digits := toString number
  let padding := String.ofList (List.replicate (5 - digits.length) ' ')
  indented (padding ++ digits ++ ": ") "       " cause

/-- An error with what lies behind it. A cause that stands alone has no number. -/
def complaintOf (message : String) (causes : List String) : String :=
  "Error: " ++ message ++
    match causes with
    | [] => ""
    | [cause] => "\n\nCaused by:\n" ++ indented "    " "    " cause
    | _ => "\n\nCaused by:\n" ++ "\n".intercalate (causes.mapIdx numbered)

/-- The end of a run by the end of its script and its journal. -/
def Outcome.of (ended : Except Stop Unit × Journal) : Outcome :=
  let (status, complaint) := match ended.1 with
    | .ok () => (0, "")
    | .error (.failed message causes) => (1, complaintOf message causes)
    | .error (.panicked message) => (101, message)
  { status, complaint, output := ended.2.output, records := ended.2.records }

/-- The records that a setting wants. -/
def Outcome.wanted (o : Outcome) (setting : Setting) : List Record :=
  o.records.filter setting.admits

/-! ## The pages -/

/-- What the words make of the page once it is open. -/
def steps (a : Arguments) : List Explorer.Step :=
  (a.mode?.map .select).toList ++
    ((a.sort?.map fun sort =>
        match sort.2 with
        | some direction => .sort sort.1 direction
        | none => .toggle sort.1).toList ++
      a.filters.map fun f => .filter f.1 f.2)

def resolvedRecord (d : Dataset) (requested? : Option String) (mode : String) : Record :=
  .resolved requested? mode d.partitions.length

/-- What there is to show, unless there is nothing. -/
def given {α : Type} : Option α → Script α
  | some a => pure a
  | none => failPage .noData

/-- The dataset of a load that succeeded. -/
def loaded : Except LoadError Dataset → Script Dataset
  | .ok d => pure d
  | .error e => failPage (.load e)

/-- What stands above the table. -/
def printHead (e : Explorer) : Script Unit := do
  say (Page.navigation e.navigation ++ "\n")
  let hero := Page.hero e.hero
  unless hero.isEmpty do
    say (hero ++ "\n")
  say "\n"

/-- Ends a computation that breaks off. Of what it would have reported there is only its end. -/
def breakOff (ended : Record) (message : String) : Script Unit := do
  report ended
  stop (.panicked message)

/-- What a column tells that is wider than a line can be laid out. -/
def overrun : String := "Formatting argument out of range"

/-- Prints the table, unless a sort gave up or a column is too wide. -/
def printTable [Sorter] (e : Explorer) : Script Unit :=
  let v := e.view
  let ended := Record.profiled "compute_view" [("mode", .text e.mode)]
  match v.fault? with
  | some message => breakOff ended message
  | none => do
    report (.viewed e.mode (rowsOf e.partition).length v.rows.length v.sortKey?)
    report ended
    unless Page.fits v do
      stop (.panicked overrun)
    say (Page.table v ++ "\n")

/-- Shows the table page. It is opened for the address and then changed as the words say. -/
def showTable [Sorter] (s : Session) (d : Dataset) : Script Unit := do
  let opened ← given (Explorer.open? d s.pageMode?)
  report (resolvedRecord d s.pageMode? opened.mode)
  let e ← given (opened.run? (steps s.arguments))
  reportAll (s.arguments.mode?.map fun m => resolvedRecord d (some m) e.mode).toList
  printHead e
  printTable e

/-- Prints a breakdown of a partition, unless the sort of its models gave up. -/
def printBreakdown (fragment? : Option String) (p : Feed.Partition) (b : Breakdown) : Script Unit :=
  let ended := Record.profiled "compute_detail" []
  match b.fault? with
  | some message => breakOff ended message
  | none => do
    if b.openAt?.isNone then
      reportAll (fragment?.map Record.anchorNotFound).toList
    report (.detailed p.slug b.panels.length b.prompts.length)
    report ended
    say (Page.breakdown b ++ "\n")

/-- Shows the benchmark breakdown. -/
def showBreakdown [Sorter] (s : Session) (d : Dataset) (explanations : Explanations) :
    Script Unit := do
  let (mode, p) ← given (Navigation.resolve? d s.requested?)
  report (resolvedRecord d s.requested? mode)
  printBreakdown s.fragment? p (Breakdown.of p explanations s.fragment?)

/-! ## The run -/

def loadFeed [Wording] (s : Session) (c : Carrier) : Script (Except LoadError Dataset) := do
  let reply := s.cache.load c
  reportAll reply.records
  return reply.answer

def loadExplanations (s : Session) (c : Carrier) : Script Explanations := do
  let reply := s.cache.explanations c
  reportAll reply.records
  return reply.answer

/-- The feed and the explanations are fetched at once; this is which of them arrives first. -/
inductive Arrival where
  | feed
  | explanations
deriving DecidableEq, Repr

def loadBoth [Wording] (s : Session) (c : Carrier) :
    Arrival → Script (Except LoadError Dataset × Explanations)
  | .feed => do
    let answer ← s.loadFeed c
    let explanations ← s.loadExplanations c
    return (answer, explanations)
  | .explanations => do
    let explanations ← s.loadExplanations c
    let answer ← s.loadFeed c
    return (answer, explanations)

/-- Loads what the page needs and shows it. -/
def present [Sorter] [Wording] (s : Session) (first : Arrival) (c : Carrier) : Script Unit :=
  if s.arguments.detail then do
    let (answer, explanations) ← s.loadBoth c first
    let d ← loaded answer
    s.showBreakdown d explanations
  else do
    let answer ← s.loadFeed c
    let d ← loaded answer
    s.showTable d

/-- The whole of a run. -/
def script [Sorter] [Wording] (first : Arrival) (words : List String) (env : Environment)
    (w : World) : Script Unit :=
  match Arguments.ofWords? words with
  | .error fault => stop (.failed fault.message [])
  | .ok a => do
    let s := of a env
    report (.startup s.settings.base s.requested?)
    match Site.connect? s.settings w with
    | .error e => stop (.failed e.message e.causes)
    | .ok c => s.present first c

/-- The setting that the environment asks for. -/
def settingOf (env : Environment) : Setting :=
  .ofTexts (env.lookup "LOG_LEVEL") (env.lookup "LOG_DOMAINS")

/-- A run in which one of the two fetches of a breakdown arrives first. -/
def runAs [Sorter] [Wording] (first : Arrival) (words : List String) (env : Environment)
    (w : World) : Outcome :=
  .of ((script first words env w).play (settingOf env) {})

/-- A run of the program with files at hand. -/
def run [Sorter] [Wording] (words : List String) (env : Environment)
    (read : String → Except ReadFault (List UInt8)) : Outcome :=
  runAs .feed words env (.ofFiles read)

/-- The places that a run reads. -/
def places (words : List String) (env : Environment) : List String :=
  match Arguments.ofWords? words with
  | .error _ => []
  | .ok a =>
    let s := of a env
    match Source.ofSettings? s.settings with
    | .ok (.directory root) =>
      Site.below root s.settings.dataPath ::
        (if a.detail then [Site.below root s.settings.explanationsPath] else [])
    | _ => []

/-! ## Lemmas -/

theorem says_loadFeed [Wording] (s : Session) (c : Carrier) :
    Says (s.loadFeed c) (.ok (s.cache.load c).answer) "" :=
  (says_reportAll _).after (says_pure _)

theorem says_loadExplanations (s : Session) (c : Carrier) :
    Says (s.loadExplanations c) (.ok (s.cache.explanations c).answer) "" :=
  (says_reportAll _).after (says_pure _)

/-- Whichever arrives first, both are there in the end. -/
theorem says_loadBoth [Wording] (s : Session) (c : Carrier) (first : Arrival) :
    Says (s.loadBoth c first) (.ok ((s.cache.load c).answer, (s.cache.explanations c).answer))
      "" := by
  cases first with
  | feed => exact (says_loadFeed s c).after ((says_loadExplanations s c).after (says_pure _))
  | explanations =>
    exact (says_loadExplanations s c).after ((says_loadFeed s c).after (says_pure _))

/-- A script that says something ends a run the same way under every setting. -/
theorem Outcome.of_says {m : Script Unit} {result : Except Stop Unit} {output : String}
    (said : Says m result output) : ∃ records : List Record, ∀ setting : Setting,
      Outcome.of (m.play setting {}) = .of (result, ⟨output, records.filter setting.admits⟩) := by
  obtain ⟨records, said⟩ := said
  refine ⟨records, fun setting => ?_⟩
  rw [said setting, String.empty_append, List.nil_append]

end Session

end Leaderboard
