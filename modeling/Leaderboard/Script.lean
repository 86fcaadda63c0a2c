/-
# Leaderboard.Script — what a run says as it goes

A script prints, reports what it does, and may stop before its end. Each report is weighed against
the setting at the moment it is made, and is lost if the setting does not want it. A journal keeps
what has been printed and what was reported and wanted.

`Says m result output` is what a script comes to whatever the setting: it ends with `result` and
prints `output`, and of the records that it has to report it loses those that are not wanted. A
script is `Discreet` if it says something in this sense.

Main statements: `Says.bind` and `Says.bind_stop` (what follows a script is said after it, unless it
stops) and `Discreet.bind` (a script put together of discreet ones is discreet).
-/
import Leaderboard.Log.Record
import Leaderboard.Site.Error

set_option autoImplicit false

namespace Leaderboard

open Leaderboard.Log (Record Setting)
open Leaderboard.Site (SiteError)

/-- What has been said so far. -/
structure Journal where
  output : String := ""
  records : List Record := []

/-- Why a script stops before its end. -/
inductive Stop where
  /-- Something failed, with what lies behind it. -/
  | failed (message : String) (causes : List String)
  /-- A computation broke off. -/
  | panicked (message : String)

/-- A part of a run. -/
abbrev Script := ReaderT Setting (ExceptT Stop (StateM Journal))

namespace Script

/-- How a script ends under a setting, and the journal after it. -/
def play {α : Type} (m : Script α) (setting : Setting) (journal : Journal) :
    Except Stop α × Journal :=
  ((m.run setting).run.run journal).run

/-- Prints a text. -/
def say (text : String) : Script Unit :=
  modify fun journal => { journal with output := journal.output ++ text }

/-- Reports what is done, if it is wanted. -/
def report (r : Record) : Script Unit := do
  let setting ← read
  if setting.admits r then
    modify fun journal => { journal with records := journal.records ++ [r] }

/-- Reports one after the other. -/
def reportAll : List Record → Script Unit
  | [] => pure ()
  | r :: rest => do
    report r
    reportAll rest

def stop {α : Type} (s : Stop) : Script α := throw s

/-- Ends a page that cannot be shown: the failure is reported and its reader is told. -/
def failPage {α : Type} (e : SiteError) : Script α := do
  report (.failed e.message)
  say (e.userMessage ++ "\n")
  stop (.failed e.message e.causes)

/-! ## What a script says -/

/-- A script ends with `result` and prints `output`, under every setting and after every journal.
There are records of which the settings decide only which are kept. -/
def Says {α : Type} (m : Script α) (result : Except Stop α) (output : String) : Prop :=
  ∃ records : List Record, ∀ (setting : Setting) (journal : Journal), m.play setting journal =
    (result, ⟨journal.output ++ output, journal.records ++ records.filter setting.admits⟩)

/-- The setting changes nothing but which records are kept. -/
def Discreet {α : Type} (m : Script α) : Prop := ∃ result output, Says m result output

variable {α β : Type} {m : Script α} {f : α → Script β}

theorem play_bind (m : Script α) (f : α → Script β) (setting : Setting) (journal : Journal) :
    (m >>= f).play setting journal =
      match m.play setting journal with
      | (.ok a, after) => (f a).play setting after
      | (.error s, after) => (.error s, after) := by
  change (match m setting journal with | (r, after) => ExceptT.bindCont (f · setting) r after) = _
  unfold play
  change _ = match m setting journal with
    | (.ok a, after) => (f a).play setting after
    | (.error s, after) => (.error s, after)
  rcases m setting journal with ⟨_ | _, after⟩ <;> rfl

theorem play_report (r : Record) (setting : Setting) (journal : Journal) :
    (report r).play setting journal =
      (.ok (), { journal with records := journal.records ++ [r].filter setting.admits }) := by
  have weighed : (report r).play setting journal =
      (.ok (), if setting.admits r then { journal with records := journal.records ++ [r] }
        else journal) := by
    unfold report
    change ((if setting.admits r then _ else _ : Script Unit).play setting journal) = _
    split <;> rfl
  rw [weighed, List.filter_cons, List.filter_nil]
  split
  · rfl
  · rw [List.append_nil]

theorem says_pure (a : α) : Says (pure a) (.ok a) "" := by
  refine ⟨[], fun setting journal => ?_⟩
  rw [String.append_empty, List.filter_nil, List.append_nil]
  rfl

theorem says_stop (s : Stop) : Says (stop s : Script α) (.error s) "" := by
  refine ⟨[], fun setting journal => ?_⟩
  rw [String.append_empty, List.filter_nil, List.append_nil]
  rfl

theorem says_say (text : String) : Says (say text) (.ok ()) text := by
  refine ⟨[], fun setting journal => ?_⟩
  rw [List.filter_nil, List.append_nil]
  rfl

theorem says_report (r : Record) : Says (report r) (.ok ()) "" := by
  refine ⟨[r], fun setting journal => ?_⟩
  rw [play_report, String.append_empty]

/-- What follows a script is said after it. -/
theorem Says.bind {a : α} {result : Except Stop β} {output output' : String}
    (first : Says m (.ok a) output) (next : Says (f a) result output') :
    Says (m >>= f) result (output ++ output') := by
  obtain ⟨records, first⟩ := first
  obtain ⟨records', next⟩ := next
  refine ⟨records ++ records', fun setting journal => ?_⟩
  rw [play_bind, first setting journal]
  dsimp only
  rw [next setting, String.append_assoc, List.append_assoc, List.filter_append]

/-- Nothing follows a script that stops. -/
theorem Says.bind_stop {s : Stop} {output : String} (stopped : Says m (.error s) output) :
    Says (m >>= f) (.error s) output := by
  obtain ⟨records, stopped⟩ := stopped
  refine ⟨records, fun setting journal => ?_⟩
  rw [play_bind, stopped setting journal]

/-- After a script that prints nothing. -/
theorem Says.after {a : α} {result : Except Stop β} {output : String}
    (first : Says m (.ok a) "") (next : Says (f a) result output) :
    Says (m >>= f) result output := by
  have said := first.bind next
  rwa [String.empty_append] at said

theorem says_reportAll (records : List Record) : Says (reportAll records) (.ok ()) "" := by
  induction records with
  | nil => exact says_pure ()
  | cons r rest ih => exact (says_report r).after ih

theorem says_failPage (e : SiteError) : Says (failPage e : Script α)
    (.error (.failed e.message e.causes)) (e.userMessage ++ "\n") := by
  have said : Says (failPage e : Script α) (.error (.failed e.message e.causes))
      (e.userMessage ++ "\n" ++ "") := by
    refine (says_report _).after (Says.bind (says_say _) ?_)
    exact says_stop _
  rwa [String.append_empty] at said

/-! ## Discretion -/

theorem Says.discreet {result : Except Stop α} {output : String} (said : Says m result output) :
    Discreet m :=
  ⟨result, output, said⟩

theorem Discreet.bind (first : Discreet m) (next : ∀ a, Discreet (f a)) : Discreet (m >>= f) := by
  obtain ⟨result, output, first⟩ := first
  cases result with
  | error s => exact first.bind_stop.discreet
  | ok a =>
    obtain ⟨_, _, next⟩ := next a
    exact (first.bind next).discreet

end Script

end Leaderboard
