/-
# Leaderboard.Proofs.Screens — what a run shows

A run that has a dataset with a partition comes to a screen: the table page or a breakdown
(`screen?_eq_none_iff`). The screen breaks off in two ways. A sort may give up, which only that of
the rows can, and only where their cells mix numbers with texts so that their order contradicts
itself (`mixed_of_fault?`). And a cell may be longer than a line can be laid out (`Overlong`). The
heading of the page has been printed by then.

Each part of a run says something in the sense of `Script.Says`, and says it part by part.

* `says_showOf`: what is said to show a screen, whole or broken off.
* `says_present`: what a run says once it has fetched what it needs.
-/
import Leaderboard.Proofs.ReachablePage
import Leaderboard.Proofs.SharedRanking
import Leaderboard.Session

set_option autoImplicit false

namespace Leaderboard.Session

open Leaderboard.Feed (Dataset Explanations)
open Leaderboard.Script
open Leaderboard.Site (Carrier SiteError)

/-! ## Screens -/

/-- What a run shows when nothing hinders it. -/
inductive Screen where
  | table (e : Explorer)
  | breakdown (b : Breakdown)

namespace Screen

/-- What stands above the table. -/
def head : Screen → String
  | .table e =>
    let hero := Page.hero e.hero
    Page.navigation e.navigation ++ "\n" ++ ((if hero.isEmpty then "" else hero ++ "\n") ++ "\n")
  | .breakdown _ => ""

def body [Sorter] : Screen → String
  | .table e => Page.table e.view ++ "\n"
  | .breakdown b => Page.breakdown b ++ "\n"

/-- The whole screen. -/
def text [Sorter] (v : Screen) : String := v.head ++ v.body

/-- What a sort told that gave up on the way to the screen. -/
def fault? [Sorter] : Screen → Option String
  | .table e => e.view.fault?
  | .breakdown b => b.fault?

/-- A breakdown has no columns. -/
def fits [Sorter] : Screen → Bool
  | .table e => Page.fits e.view
  | .breakdown _ => true

/-- A cell of the table, a heading or a filter is too long to be laid out. -/
def Overlong [Sorter] : Screen → Prop
  | .table e => ∃ c ∈ e.view.columns, Page.widthLimit < (Page.heading e.view c).length ∨
      Page.widthLimit < (Page.filterCell e.view c).length ∨
        ∃ r ∈ e.view.rows, Page.widthLimit < (Page.bodyCell e.view r c).length
  | .breakdown _ => False

theorem fits_iff [Sorter] (v : Screen) : v.fits = true ↔ ¬v.Overlong := by
  cases v with
  | breakdown b => simp [fits, Overlong]
  | table e =>
    change Page.fits e.view = true ↔ _
    rw [Page.fits_iff]
    simp only [Overlong, not_exists, not_and, not_or, Nat.not_lt]

/-- The message with which the screen breaks off, if it does. -/
def broken? [Sorter] (v : Screen) : Option String :=
  v.fault?.or (if v.fits then none else some overrun)

theorem broken?_eq_none_iff [Sorter] (v : Screen) :
    v.broken? = none ↔ v.fault? = none ∧ ¬v.Overlong := by
  rw [broken?, Option.or_eq_none_iff, ← v.fits_iff]
  simp

theorem broken?_ne_none_iff [Sorter] (v : Screen) :
    v.broken? ≠ none ↔ v.fault? ≠ none ∨ v.Overlong := by
  rw [ne_eq, broken?_eq_none_iff, not_and_or, not_not]

/-- How a run ends that comes to show a screen. -/
def ended [Sorter] (v : Screen) : Except Stop Unit :=
  match v.broken? with
  | some message => .error (.panicked message)
  | none => .ok ()

/-- What such a run prints. -/
def shown [Sorter] (v : Screen) : String :=
  match v.broken? with
  | some _ => v.head
  | none => v.text

/-- The table is sorted by a key under which the cells that it shows mix numbers with texts, and
their order contradicts itself. -/
def Mixed [Sorter] : Screen → Prop
  | .table e => ∃ key, e.view.sortKey? = some key ∧
      ¬TransitiveOn e.view.direction (cellsOf e.view.rows key) ∧ ¬Unmixed (cellsOf e.view.rows key)
  | .breakdown _ => False

/-- Of the two sorts of a table only that of the rows can give up. -/
theorem table_mixed [Sorter] {e : Explorer} (fault : (Screen.table e).fault? ≠ none) :
    (Screen.table e).Mixed := by
  have rows : ∀ r, r ∈ e.view.rows ↔
      r ∈ filterRows (columnsOf e.mode e.partition) e.state.filters (rowsOf e.partition) := by
    intro r
    change r ∈ (TableView.of e.mode e.partition e.state).rows ↔ _
    rw [TableView.rows_of]
    exact mem_sortRows
  have circular : ¬TransitiveOn e.view.direction (cellsOf e.view.rows
      (TableView.keyOf e.mode e.partition e.state.sortKey?)) := by
    intro transitive
    have consistent := (Row.before_consistent transitive).mono fun r hr => (rows r).mpr hr
    apply fault
    change (TableView.of e.mode e.partition e.state).fault? = none
    rw [TableView.fault?_of]
    exact congrArg Sorting.Result.fault? (Sorter.sorted consistent)
  refine ⟨_, TableView.sortKeyOf_eq .., circular, fun unmixed => circular ?_⟩
  apply transitiveOn_of_unmixed _ unmixed
  intro c hc
  obtain ⟨r, hr, rfl⟩ := List.mem_map.mp hc
  have given : r ∈ rowsOf e.partition := (mem_filterRows.mp ((rows r).mp hr)).1
  exact cellsOf_rowsOf_ne_nan e.partition _ _ (List.mem_map.mpr ⟨r, given, rfl⟩)

end Screen

/-- The screen that a session makes of a dataset. -/
def screen? [Sorter] (s : Session) (d : Dataset) (explanations : Explanations) : Option Screen :=
  if s.arguments.detail then
    (Navigation.resolve? d s.requested?).map fun m =>
      .breakdown (.of m.2 explanations s.fragment?)
  else ((Explorer.open? d s.pageMode?).bind (·.run? (steps s.arguments))).map .table

variable {s : Session} {d : Dataset} {v : Screen}

theorem resolve?_eq_none_iff {requested? : Option String} :
    Navigation.resolve? d requested? = none ↔ d.partitions = [] := by
  rw [← Option.not_isSome_iff_eq_none, Navigation.resolve?_isSome]
  simp

/-- Only a dataset without a partition gives no screen. -/
theorem screen?_eq_none_iff [Sorter] (explanations : Explanations) :
    s.screen? d explanations = none ↔ d.partitions = [] := by
  unfold screen?
  split
  · rw [Option.map_eq_none_iff, resolve?_eq_none_iff]
  · constructor
    · intro none
      by_contra nonempty
      obtain ⟨_, opened, start⟩ := Explorer.open?_sound nonempty s.pageMode?
      obtain ⟨_, ran, -⟩ := start.run (steps s.arguments)
      rw [opened, Option.bind_some, ran] at none
      cases none
    · intro empty
      rw [Explorer.open?, resolve?_eq_none_iff.mpr empty]
      rfl

/-- A sort that gave up was that of the rows of a table. -/
theorem mixed_of_fault? [Sorter] {explanations : Explanations}
    (there : s.screen? d explanations = some v) (fault : v.fault? ≠ none) : v.Mixed := by
  unfold screen? at there
  split at there
  · obtain ⟨m, -, rfl⟩ := Option.map_eq_some_iff.mp there
    exact absurd (Breakdown.fault?_of m.2 explanations s.fragment?) fault
  · obtain ⟨e, -, rfl⟩ := Option.map_eq_some_iff.mp there
    exact Screen.table_mixed fault

/-- Other explanations give another breakdown at most. -/
theorem screen?_explained [Sorter] {explanations : Explanations}
    (there : s.screen? d explanations = some v) (others : Explanations) :
    ∃ v', s.screen? d others = some v' ∧ v'.broken? = v.broken? ∧ v'.head = v.head := by
  unfold screen? at there ⊢
  cases detail : s.arguments.detail with
  | true =>
    rw [if_pos detail] at there
    obtain ⟨m, resolved, rfl⟩ := Option.map_eq_some_iff.mp there
    refine ⟨.breakdown (.of m.2 others s.fragment?), ?_, rfl, rfl⟩
    rw [if_pos rfl, resolved]
    rfl
  | false =>
    rw [if_neg (by simp [detail])] at there
    exact ⟨v, there, rfl, rfl⟩

/-! ## What a run says, part by part -/

/-- What the reader is told when there is nothing to show. -/
def failure : String := "Failed to load model data.\n"

theorem says_failure {α : Type} (e : SiteError) :
    Says (failPage e : Script α) (.error (.failed e.message e.causes)) failure := by
  cases e <;> exact says_failPage _

theorem says_printHead (e : Explorer) : Says (printHead e) (.ok ()) (Screen.table e).head := by
  unfold printHead
  refine (says_say _).bind ?_
  dsimp only
  split
  · exact says_say "\n"
  · exact (says_say _).bind (says_say _)

theorem says_printTable [Sorter] (e : Explorer) : Says (printTable e) (Screen.table e).ended
    (match (Screen.table e).broken? with | some _ => "" | none => (Screen.table e).body) := by
  unfold printTable Screen.ended Screen.broken? Screen.fault? Screen.fits
  dsimp only
  cases e.view.fault? with
  | some message => exact (says_report _).after (says_stop _)
  | none =>
    refine (says_report _).after ((says_report _).after ?_)
    by_cases fits : Page.fits e.view = true
    · simp only [Option.none_or, if_pos fits]
      exact says_say _
    · simp only [Option.none_or, if_neg fits]
      exact (says_stop _).bind_stop

/-- A page is printed, or its heading if the table breaks off. -/
theorem says_page [Sorter] (e : Explorer) :
    Says (do printHead e; printTable e) (Screen.table e).ended (Screen.table e).shown := by
  have said := (says_printHead e).bind (f := fun _ => printTable e) (says_printTable e)
  unfold Screen.shown Screen.text
  cases broken : (Screen.table e).broken? with
  | some message => rwa [broken, String.append_empty] at said
  | none => rwa [broken] at said

theorem says_showTable [Sorter] {opened e : Explorer}
    (start : Explorer.open? d s.pageMode? = some opened)
    (ran : opened.run? (steps s.arguments) = some e) :
    Says (s.showTable d) (Screen.table e).ended (Screen.table e).shown := by
  unfold showTable
  rw [start]
  refine (says_pure opened).after ((says_report _).after ?_)
  rw [ran]
  exact (says_pure e).after ((says_reportAll _).after (says_page e))

theorem says_printBreakdown [Sorter] (fragment? : Option String) (p : Feed.Partition)
    (b : Breakdown) : Says (printBreakdown fragment? p b) (Screen.breakdown b).ended
      (Screen.breakdown b).shown := by
  unfold printBreakdown Screen.ended Screen.shown Screen.broken? Screen.fault? Screen.fits
  dsimp only
  cases b.fault? with
  | some message => exact (says_report _).after (says_stop _)
  | none =>
    have said : Says (do report (.detailed p.slug b.panels.length b.prompts.length)
                         report (.profiled "compute_detail" [])
                         say (Page.breakdown b ++ "\n")) (.ok ()) (Screen.breakdown b).text := by
      rw [Screen.text, Screen.head, Screen.body, String.empty_append]
      exact (says_report _).after ((says_report _).after (says_say _))
    dsimp only
    split
    · exact (says_reportAll _).after said
    · exact said

theorem says_showBreakdown [Sorter] {m : String × Feed.Partition}
    (resolved : Navigation.resolve? d s.requested? = some m) (explanations : Explanations) :
    Says (s.showBreakdown d explanations)
      (Screen.breakdown (.of m.2 explanations s.fragment?)).ended
      (Screen.breakdown (.of m.2 explanations s.fragment?)).shown := by
  unfold showBreakdown
  rw [resolved]
  exact (says_pure m).after ((says_report _).after (says_printBreakdown _ _ _))

/-- Shows a dataset as the words ask. -/
def showOf [Sorter] (s : Session) (d : Dataset) (explanations : Explanations) : Script Unit :=
  if s.arguments.detail then s.showBreakdown d explanations else s.showTable d

theorem says_showOf [Sorter] {explanations : Explanations}
    (there : s.screen? d explanations = some v) :
    Says (s.showOf d explanations) v.ended v.shown := by
  unfold screen? at there
  unfold showOf
  split
  · rw [if_pos ‹_›] at there
    obtain ⟨m, resolved, rfl⟩ := Option.map_eq_some_iff.mp there
    exact says_showBreakdown resolved explanations
  · rw [if_neg ‹_›] at there
    obtain ⟨e, ran, rfl⟩ := Option.map_eq_some_iff.mp there
    obtain ⟨opened, start, ran⟩ := Option.bind_eq_some_iff.mp ran
    exact says_showTable start ran

theorem says_showOf_empty [Sorter] (empty : d.partitions = []) (explanations : Explanations) :
    Says (s.showOf d explanations)
      (.error (.failed SiteError.noData.message SiteError.noData.causes)) failure := by
  unfold showOf
  split
  · unfold showBreakdown
    rw [resolve?_eq_none_iff.mpr empty]
    exact (says_failure _).bind_stop
  · unfold showTable Explorer.open?
    rw [resolve?_eq_none_iff.mpr empty]
    exact (says_failure _).bind_stop

variable {c : Carrier} {result : Except Stop Unit} {output : String}

theorem says_present [Sorter] [Wording] (first : Arrival)
    (said : Says (loaded (s.cache.load c).answer >>= fun d =>
      s.showOf d (s.cache.explanations c).answer) result output) :
    Says (s.present first c) result output := by
  unfold showOf at said
  unfold present
  split
  · simp only [if_pos ‹_›] at said
    exact (says_loadBoth s c first).after said
  · simp only [if_neg ‹_›] at said
    exact (says_loadFeed s c).after said

end Leaderboard.Session
