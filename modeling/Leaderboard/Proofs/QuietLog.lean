/-
# Leaderboard.Proofs.QuietLog — logging does not interfere

The setting of the log is read where a report is weighed and nowhere else. So every part of a run is
discreet in the sense of `Script.Discreet`, and a run is put together of such parts: whatever
`LOG_LEVEL` and `LOG_DOMAINS` say, it prints the same, complains of the same and ends the same. Of
the records that it has to report, a setting keeps those that it wants, in their order.

* `runAs_quiet`: this, for all words, environments and worlds.
-/
import Leaderboard.Proofs.RunEndings

set_option autoImplicit false

namespace Leaderboard

open Leaderboard.Feed (Dataset Explanations)
open Leaderboard.Log (Level Record Setting)
open Leaderboard.Script
open Leaderboard.Site (Carrier LoadError World)

/-! ## The variables of the log -/

namespace Environment

/-- The environment with a variable set anew, or unset. -/
def put (env : Environment) (name : String) (value? : Option String) : Environment :=
  (value?.map fun value => (name, value)).toList ++ env.filter fun v => v.1 != name

/-- The environment with other settings of the log. -/
def logging (env : Environment) (level? domains? : Option String) : Environment :=
  (env.put "LOG_LEVEL" level?).put "LOG_DOMAINS" domains?

variable (env : Environment) {name : String} (value? level? domains? : Option String)

theorem lookup_put_self : (env.put name value?).lookup name = value? := by
  have unset : (env.filter fun v => v.1 != name).lookup name = none := by
    rw [List.lookup_eq_none_iff]
    intro v kept
    rw [bne_comm]
    exact (List.mem_filter.mp kept).2
  unfold put
  rw [List.lookup_append, unset, Option.or_none]
  cases value? <;> simp

theorem lookup_put_of_ne {other : String} (ne : other ≠ name) :
    (env.put name value?).lookup other = env.lookup other := by
  have kept : (env.filter fun v => v.1 != name).lookup other = env.lookup other := by
    induction env with
    | nil => rfl
    | cons v r ih =>
      obtain ⟨key, value⟩ := v
      by_cases dropped : key = name
      · rw [List.filter_cons_of_neg (by simp [dropped]), ih, List.lookup_cons, dropped,
          beq_eq_false_iff_ne.mpr ne]
      · rw [List.filter_cons_of_pos (by simp [dropped]), List.lookup_cons, List.lookup_cons, ih]
  unfold put
  rw [List.lookup_append, kept]
  cases value? with
  | none => rfl
  | some value => simp [List.lookup_cons, beq_eq_false_iff_ne.mpr ne]

theorem lookup_logging {other : String} (level : other ≠ "LOG_LEVEL")
    (domains : other ≠ "LOG_DOMAINS") :
    (env.logging level? domains?).lookup other = env.lookup other := by
  rw [logging, lookup_put_of_ne _ _ domains, lookup_put_of_ne _ _ level]

theorem ofEnvironment_logging :
    Settings.ofEnvironment (env.logging level? domains?) = Settings.ofEnvironment env := by
  unfold Settings.ofEnvironment
  rw [lookup_logging env level? domains? (by decide) (by decide),
    lookup_logging env level? domains? (by decide) (by decide),
    lookup_logging env level? domains? (by decide) (by decide),
    lookup_logging env level? domains? (by decide) (by decide)]

theorem settingOf_logging :
    Session.settingOf (env.logging level? domains?) = .ofTexts level? domains? := by
  rw [Session.settingOf, logging, lookup_put_self, lookup_put_of_ne _ _ (by decide),
    lookup_put_self]

end Environment

/-! ## What a setting wants -/

namespace Log

/-- The level is high enough, and the domain is named unless all are wanted. -/
theorem Setting.admits_ofTexts_iff (level? domains? : Option String) (r : Record) :
    (Setting.ofTexts level? domains?).admits r = true ↔
      ((level?.map Level.ofName).getD .info).weight ≤ r.level.weight ∧
        ∀ names, domains? = some names → names ≠ "all" →
          ∃ name ∈ names.toList.splitOn ',',
            String.ofList (Text.trimList name) = r.domain.name := by
  unfold Setting.admits
  rw [Bool.and_eq_true, decide_eq_true_eq]
  refine and_congr Iff.rfl ?_
  unfold Setting.enables Setting.ofTexts
  cases domains? with
  | none => simp
  | some names =>
    by_cases all : names = "all"
    · simp [Option.filter, all]
    · simp [Option.filter, all]

theorem Setting.admits_trace_all (r : Record) :
    (Setting.ofTexts (some "trace") (some "all")).admits r = true := by
  rw [Setting.admits_ofTexts_iff]
  exact ⟨Nat.zero_le _, fun names given other => absurd (Option.some.inj given).symm other⟩

end Log

namespace Session

/-! ## Every part is discreet -/

theorem discreet_given {α : Type} (a? : Option α) : Discreet (given a?) := by
  cases a? with
  | none => exact (says_failPage _).discreet
  | some a => exact (says_pure a).discreet

theorem discreet_loaded (answer : Except LoadError Dataset) : Discreet (loaded answer) := by
  cases answer with
  | error e => exact (says_failPage _).discreet
  | ok d => exact (says_pure d).discreet

theorem discreet_showTable [Sorter] (s : Session) (d : Dataset) : Discreet (s.showTable d) := by
  refine (discreet_given _).bind fun _ => (says_report _).discreet.bind fun _ => ?_
  refine (discreet_given _).bind fun e => (says_reportAll _).discreet.bind fun _ => ?_
  exact (says_page e).discreet

theorem discreet_showBreakdown [Sorter] (s : Session) (d : Dataset)
    (explanations : Explanations) : Discreet (s.showBreakdown d explanations) := by
  refine (discreet_given _).bind fun _ => (says_report _).discreet.bind fun _ => ?_
  exact (says_printBreakdown _ _ _).discreet

theorem discreet_present [Sorter] [Wording] (s : Session) (first : Arrival) (c : Carrier) :
    Discreet (s.present first c) := by
  unfold present
  split
  · exact (says_loadBoth s c first).discreet.bind fun _ =>
      (discreet_loaded _).bind fun d => discreet_showBreakdown s d _
  · exact (says_loadFeed s c).discreet.bind fun _ =>
      (discreet_loaded _).bind fun d => discreet_showTable s d

theorem discreet_script [Sorter] [Wording] (first : Arrival) (words : List String)
    (env : Environment) (w : World) : Discreet (script first words env w) := by
  unfold script
  split
  · exact (says_stop _).discreet
  · refine (says_report _).discreet.bind fun _ => ?_
    split
    · exact (says_stop _).discreet
    · exact discreet_present _ _ _

/-! ## Two runs -/

/-- The variables of the log have no part in what is done. -/
theorem script_logging [Sorter] [Wording] (first : Arrival) (words : List String)
    (env : Environment) (w : World) (level? domains? : Option String) :
    script first words (env.logging level? domains?) w = script first words env w := by
  unfold script of
  rw [Environment.ofEnvironment_logging]

/-- What the settings of the log have to do with a run. -/
structure Quiet [Sorter] [Wording] (first : Arrival) (words : List String) (env : Environment)
    (w : World) : Prop where
  status : ∀ level? domains? level'? domains'?,
    (runAs first words (env.logging level? domains?) w).status =
      (runAs first words (env.logging level'? domains'?) w).status
  output : ∀ level? domains? level'? domains'?,
    (runAs first words (env.logging level? domains?) w).output =
      (runAs first words (env.logging level'? domains'?) w).output
  complaint : ∀ level? domains? level'? domains'?,
    (runAs first words (env.logging level? domains?) w).complaint =
      (runAs first words (env.logging level'? domains'?) w).complaint
  /-- A setting keeps what it wants of all records. -/
  records : ∀ level? domains?,
    (runAs first words (env.logging level? domains?) w).records =
      (runAs first words (env.logging (some "trace") (some "all")) w).records.filter
        (Setting.ofTexts level? domains?).admits
  /-- It wants the records from its level on, in the domains that it names. -/
  wanted : ∀ level? domains? r, (Setting.ofTexts level? domains?).admits r = true ↔
    ((level?.map Level.ofName).getD .info).weight ≤ r.level.weight ∧
      ∀ names, domains? = some names → names ≠ "all" →
        ∃ name ∈ names.toList.splitOn ',', String.ofList (Text.trimList name) = r.domain.name

/-- **Logging never interferes with a run**: its setting decides only which records are kept. -/
theorem runAs_quiet [Sorter] [Wording] (first : Arrival) (words : List String)
    (env : Environment) (w : World) : Quiet first words env w := by
  obtain ⟨result, output, said⟩ := discreet_script first words env w
  obtain ⟨records, ended⟩ := Outcome.of_says said
  have run_eq : ∀ level? domains?, runAs first words (env.logging level? domains?) w =
      .of (result, ⟨output, records.filter (Setting.ofTexts level? domains?).admits⟩) := by
    intro level? domains?
    rw [runAs, script_logging, Environment.settingOf_logging, ended]
  have records_eq : ∀ level? domains?,
      (runAs first words (env.logging level? domains?) w).records =
        records.filter (Setting.ofTexts level? domains?).admits := by
    intro level? domains?
    rw [run_eq]
    rfl
  constructor
  case status =>
    intro level? domains? level'? domains'?
    rw [run_eq, run_eq]
    rfl
  case output =>
    intro level? domains? level'? domains'?
    rw [run_eq, run_eq]
    rfl
  case complaint =>
    intro level? domains? level'? domains'?
    rw [run_eq, run_eq]
    rfl
  case records =>
    intro level? domains?
    rw [records_eq, records_eq (some "trace") (some "all"),
      List.filter_eq_self.mpr fun r _ => Setting.admits_trace_all r]
  case wanted => exact Setting.admits_ofTexts_iff

end Session

end Leaderboard
