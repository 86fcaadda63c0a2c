/-
# Leaderboard.Proofs.ModePrecedence — table and breakdown are of one partition

Three sources can name a mode: the words of the command, the query of the address of the page, and
the environment. The first of them that gives a name decides, and the name it gives is final: one
that is no key of the feed stands for the first partition, whatever the next source would say
(`Stands`).

The breakdown asks for the decisive name at once. The table is opened for the address and the
environment, and only then changed to the mode of the words; what it shows in the end is what the
last choice of a mode gave (`Explorer.shown_run`). So both are of one partition.

* `same_mode`: this for every command, with the word that asks for the breakdown put anywhere
  between its groups, and for every environment and every world.
-/
import Leaderboard.Proofs.CommandGroups
import Leaderboard.Proofs.RunEndings

set_option autoImplicit false

namespace Leaderboard

open Leaderboard.Arguments (Group ofWords?)
open Leaderboard.Feed (Dataset Partition)
open Leaderboard.Script (says_pure)
open Leaderboard.Site (Cache Carrier LoadError SiteError World below)

/-! ## Names -/

/-- What a name stands for: the partition under it, else the first one. -/
structure Feed.Dataset.Stands (d : Dataset) (name? : Option String) (m : String × Partition) :
    Prop where
  mem : m ∈ d.partitions
  known : ∀ name, name? = some name → name ∈ d.keys → m.1 = name
  unknown : (∀ name, name? = some name → name ∉ d.keys) → d.partitions.head? = some m

theorem Navigation.stands_of_resolve? {d : Dataset} {name? : Option String}
    {m : String × Partition} (resolved : resolve? d name? = some m) : d.Stands name? m where
  mem := resolve?_mem resolved
  known name given there := by
    obtain ⟨n, mem, key⟩ := List.mem_map.mp there
    rw [resolve?, given, Option.bind_some, Option.or_eq_some_iff] at resolved
    rcases resolved with found | ⟨none, -⟩
    · exact (Dataset.mem_of_find? found).2
    · exact absurd (beq_iff_eq.mpr key) (List.find?_eq_none.mp none n mem)
  unknown absent := by
    rw [resolve?, Option.or_eq_some_iff] at resolved
    rcases resolved with found | ⟨-, first⟩
    · obtain ⟨name, given, found⟩ := Option.bind_eq_some_iff.mp found
      obtain ⟨mem, key⟩ := Dataset.mem_of_find? found
      exact absurd (List.mem_map.mpr ⟨m, mem, key⟩) (absent name given)
    · exact first

/-- The name that a command and an environment give to the mode: the last one that is chosen, else
the first that the last address asks for, else the default unless it is blank. -/
def modeName? (groups : List Group) (env : Environment) : Option String :=
  let address? := ((Group.values .address groups).filterMap fun v =>
    (Url.ofText? v).toOption).getLast?
  (Group.values .mode groups).getLast?.or
    ((address?.bind fun url => Navigation.modeOfQuery? url.queryPairs).or
      ((env.lookup Settings.modeVariable).bind Text.nonblank?))

theorem Text.nonempty?_nonblank? (s? : Option String) :
    (s?.bind nonblank?).bind nonempty? = s?.bind nonblank? := by
  cases s? with
  | none => rfl
  | some s =>
      rw [Option.bind_some, nonblank?]
      split
      · rfl
      · rename_i full
        rw [Option.bind_some, nonempty?, if_neg]
        intro empty
        rw [String.isEmpty_iff.mp empty] at full
        exact full rfl

namespace Session

theorem requested?_eq {groups : List Group} {x : Arguments}
    (accepted : ofWords? (Group.line groups) = .ok x) (env : Environment) :
    (of x env).requested? = modeName? groups env := by
  have gathered := Arguments.gathers accepted
  have default : (of x env).settings.defaultMode? =
      (env.lookup Settings.modeVariable).bind Text.nonblank? := rfl
  have words : (of x env).arguments = x := rfl
  unfold requested? pageMode? modeName?
  rw [default, words, ← gathered.address, ← gathered.mode]
  congr 1
  cases x.address? with
  | none => rfl
  | some url =>
      change Navigation.requestedMode url _ = _
      rw [Navigation.requestedMode, Text.nonempty?_nonblank?]
      rfl

end Session

/-! ## What the table shows -/

namespace Explorer

/-- The partition that a page shows, with its key. -/
def shown (e : Explorer) : String × Partition := (e.mode, e.partition)

def Step.selected? : Step → Option String
  | .select slug => some slug
  | _ => none

/-- What is shown after a mode was chosen, or after none was. -/
def shownAfter (d : Dataset) (before : String × Partition) :
    Option String → Option (String × Partition)
  | some slug => Navigation.resolve? d (some slug)
  | none => some before

variable {d : Dataset} {e e' : Explorer}

theorem shown_step {s : Step} (sound : e.Sound d) (stepped : e.step? s = some e') :
    shownAfter d e.shown s.selected? = some e'.shown := by
  cases s with
  | toggle key | sort key direction | filter key text =>
      cases stepped
      rfl
  | select slug =>
      obtain ⟨m, resolved, rfl⟩ := Option.map_eq_some_iff.mp stepped
      rw [sound.dataset] at resolved
      exact resolved

theorem getLast?_selected (s : Step) (r : List Step) :
    ((s :: r).filterMap Step.selected?).getLast? =
      (r.filterMap Step.selected?).getLast?.or s.selected? := by
  rw [← List.singleton_append, List.filterMap_append, List.getLast?_append]
  cases s <;> rfl

/-- The last mode that was chosen is shown, and the first page if none was. -/
theorem shown_run (steps : List Step) : ∀ {e e' : Explorer}, e.Sound d → e.run? steps = some e' →
    shownAfter d e.shown (steps.filterMap Step.selected?).getLast? = some e'.shown := by
  induction steps with
  | nil =>
      intro e e' _ ran
      cases ran
      rfl
  | cons s r ih =>
      intro e e' sound ran
      obtain ⟨next, stepped, rest⟩ := Option.bind_eq_some_iff.mp ran
      obtain ⟨_, same, sound'⟩ := sound.step s
      cases stepped.symm.trans same
      have later := ih sound' rest
      rw [getLast?_selected]
      cases last : (r.filterMap Step.selected?).getLast? with
      | none =>
          rw [last] at later
          rw [Option.none_or, shown_step sound stepped]
          exact later
      | some slug =>
          rw [last] at later
          exact later

end Explorer

namespace Session

theorem selected_steps (x : Arguments) :
    ((steps x).filterMap Explorer.Step.selected?).getLast? = x.mode? := by
  -- Only the first of the steps chooses a mode.
  obtain ⟨rest, split, quiet⟩ : ∃ rest, steps x = (x.mode?.map .select).toList ++ rest ∧
      rest.filterMap Explorer.Step.selected? = [] := by
    refine ⟨_, rfl, List.filterMap_eq_nil_iff.mpr fun s mem => ?_⟩
    rcases List.mem_append.mp mem with sort | filter
    · obtain ⟨sort, -, rfl⟩ := Option.map_eq_some_iff.mp (Option.mem_toList.mp sort)
      split <;> rfl
    · obtain ⟨f, -, rfl⟩ := List.mem_map.mp filter
      rfl
  rw [split, List.filterMap_append, quiet, List.append_nil]
  cases x.mode? <;> rfl

/-- The page that a session opens and changes as its words say shows what its name stands for. -/
theorem exists_shown (s : Session) {d : Dataset} (nonempty : d.partitions ≠ []) :
    ∃ opened e, Explorer.open? d s.pageMode? = some opened ∧
      opened.run? (steps s.arguments) = some e ∧
      Navigation.resolve? d s.requested? = some e.shown := by
  obtain ⟨opened, start, sound⟩ := Explorer.open?_sound nonempty s.pageMode?
  obtain ⟨e, ran, -⟩ := sound.run (steps s.arguments)
  refine ⟨opened, e, start, ran, ?_⟩
  have shown := Explorer.shown_run (steps s.arguments) sound ran
  rw [selected_steps] at shown
  unfold requested?
  cases chosen : s.arguments.mode? with
  | none =>
      rw [chosen] at shown
      obtain ⟨m, resolved, rfl⟩ := Option.map_eq_some_iff.mp start
      exact resolved.trans shown
  | some slug =>
      rw [chosen] at shown
      exact shown

/-! ## Two runs -/

/-- A command of groups and further words. -/
def plainWords (a : List Group) (b : List String) : List String := Group.line a ++ b

/-- The same command with the word that asks for the breakdown. -/
def detailedWords (a : List Group) (b : List String) : List String :=
  Group.line a ++ "--detail" :: b

/-- The session that shows the breakdown. -/
def detailed (s : Session) : Session :=
  { s with arguments := { s.arguments with detail := true } }

theorem ofWords?_detailedWords (a : List Group) (b : List String) :
    ofWords? (detailedWords a b) =
      (ofWords? (plainWords a b)).map fun x => { x with detail := true } := by
  unfold detailedWords plainWords
  induction a with
  | nil =>
      change ofWords? (Group.detail.words ++ b) = (ofWords? b).map _
      rw [Arguments.ofWords?_group]
      change (ofWords? b).map (Arguments.merge { detail := true }) = _
      congr 1
      funext x
      simp [Arguments.merge]
  | cons g r ih =>
      change ofWords? (g.words ++ Group.line r ++ _) =
        (ofWords? (g.words ++ Group.line r ++ b)).map _
      rw [List.append_assoc, List.append_assoc, Arguments.ofWords?_group, Arguments.ofWords?_group,
        ih]
      cases g.apply {} with
      | error fault => rfl
      | ok x =>
          cases ofWords? (Group.line r ++ b) with
          | error fault => rfl
          | ok y => simp [Arguments.merge, Except.map, Except.bind]

variable {a : List Group} {b words : List String} {env : Environment} {w : World} {s : Session}
  {c : Carrier} {d : Dataset} {v : Screen}

theorem Opens.detailed (opens : Opens (plainWords a b) env w s c) :
    Opens (detailedWords a b) env w s.detailed c := by
  obtain ⟨⟨x, accepted, rfl⟩, found⟩ := opens
  refine ⟨⟨{ x with detail := true }, ?_, rfl⟩, found⟩
  rw [ofWords?_detailedWords, accepted]
  rfl

theorem refused_detailedWords (a : List Group) (b : List String) (fault : Arguments.Fault) :
    ofWords? (detailedWords a b) = .error fault ↔ ofWords? (plainWords a b) = .error fault := by
  rw [ofWords?_detailedWords]
  cases ofWords? (plainWords a b) <;> simp [Except.map]

/-- How a run ends that gets a dataset and shows a screen of it. -/
theorem Opens.ended_screen [Sorter] [Wording] (opens : Opens words env w s c)
    (answer : (s.cache.load c).answer = .ok d)
    (there : s.screen? d (s.cache.explanations c).answer = some v) (first : Arrival) :
    ∃ records, runAs first words env w = .of (v.ended, ⟨v.shown, records⟩) := by
  refine runAs_of_says (opens.spoken (says_present first ?_))
  rw [answer]
  exact (says_pure d).after (says_showOf there)

/-- How a run ends that shows the breakdown of a partition. -/
theorem Opens.ended_breakdown [Sorter] [Wording] (opens : Opens words env w s c)
    (answer : (s.cache.load c).answer = .ok d) (detail : s.arguments.detail = true)
    {m : String × Partition} (resolved : Navigation.resolve? d s.requested? = some m)
    (first : Arrival) :
    ∃ records, runAs first words env w = .of (.ok (),
      ⟨Page.breakdown (.of m.2 (s.cache.explanations c).answer s.fragment?) ++ "\n",
        records⟩) := by
  have there : s.screen? d (s.cache.explanations c).answer =
      some (.breakdown (.of m.2 (s.cache.explanations c).answer s.fragment?)) := by
    rw [screen?, if_pos detail, resolved]
    rfl
  obtain ⟨records, ended⟩ := opens.ended_screen answer there first
  have whole : (Screen.breakdown (.of m.2 (s.cache.explanations c).answer
      s.fragment?)).broken? = none :=
    (Screen.broken?_eq_none_iff _).mpr ⟨Breakdown.fault?_of _ _ _, not_false⟩
  rw [Screen.ended, Screen.shown, whole] at ended
  refine ⟨records, ended.trans ?_⟩
  rw [Screen.text, Screen.head, String.empty_append]
  rfl

/-- How a run ends that shows a table. -/
theorem Opens.ended_table [Sorter] [Wording] (opens : Opens words env w s c)
    (answer : (s.cache.load c).answer = .ok d) (table : s.arguments.detail = false)
    {opened e : Explorer} (start : Explorer.open? d s.pageMode? = some opened)
    (ran : opened.run? (steps s.arguments) = some e) (first : Arrival) :
    ∃ records, runAs first words env w =
      .of ((Screen.table e).ended, ⟨(Screen.table e).shown, records⟩) := by
  refine opens.ended_screen answer ?_ first
  rw [screen?, if_neg (by simp [table]), start, Option.bind_some, ran]
  rfl

/-- How a run ends that gets no dataset. -/
theorem Opens.ended_error [Sorter] [Wording] (opens : Opens words env w s c) {e : LoadError}
    (answer : (s.cache.load c).answer = .error e) (first : Arrival) :
    ∃ records, runAs first words env w =
      .of (.error (.failed e.message e.causes), ⟨failure, records⟩) := by
  refine runAs_of_says (opens.spoken (says_present first ?_))
  rw [answer]
  exact (says_failure (.load e)).bind_stop

/-- How a run ends that gets a dataset without a partition. -/
theorem Opens.ended_empty [Sorter] [Wording] (opens : Opens words env w s c)
    (answer : (s.cache.load c).answer = .ok d) (empty : d.partitions = []) (first : Arrival) :
    ∃ records, runAs first words env w =
      .of (.error (.failed SiteError.noData.message []), ⟨failure, records⟩) := by
  refine runAs_of_says (opens.spoken (says_present first ?_))
  rw [answer]
  exact (says_pure d).after (says_showOf_empty empty _)

/-- What two runs come to of which one asks for the breakdown. -/
structure SameMode [Sorter] [Wording] (first : Arrival) (a : List Group) (b : List String)
    (env : Environment) (w : World) : Prop where
  refused : ∀ fault, ofWords? (detailedWords a b) = .error fault ↔
    ofWords? (plainWords a b) = .error fault
  astray : Astray (plainWords a b) env w → Astray (detailedWords a b) env w
  opens : ∀ s c, Opens (plainWords a b) env w s c → Opens (detailedWords a b) env w s.detailed c
  unloaded : ∀ s c e, Opens (plainWords a b) env w s c → (s.cache.load c).answer = .error e →
    ∀ words ∈ [plainWords a b, detailedWords a b], ∃ records, runAs first words env w =
      .of (.error (.failed e.message e.causes), ⟨failure, records⟩)
  noData : ∀ s c d, Opens (plainWords a b) env w s c → (s.cache.load c).answer = .ok d →
    d.partitions = [] →
      ∀ words ∈ [plainWords a b, detailedWords a b], ∃ records, runAs first words env w =
        .of (.error (.failed SiteError.noData.message []), ⟨failure, records⟩)
  /-- Both runs show the partition that the name of the words and the environment stands for. -/
  shown : ∀ s c d groups, Opens (plainWords a b) env w s c → (s.cache.load c).answer = .ok d →
    d.partitions ≠ [] → plainWords a b = Group.line groups →
      ∃ m, d.Stands (modeName? groups env) m ∧
        Navigation.resolve? d s.detailed.requested? = some m ∧
        (∃ records, runAs first (detailedWords a b) env w = .of (.ok (),
          ⟨Page.breakdown (.of m.2 (s.cache.explanations c).answer s.fragment?) ++ "\n",
            records⟩)) ∧
        (s.arguments.detail = false → ∃ e records, e.shown = m ∧
          runAs first (plainWords a b) env w =
            .of ((Screen.table e).ended, ⟨(Screen.table e).shown, records⟩))

/-- **The table and the breakdown are of one partition**, or there is no data for either. -/
theorem same_mode [Sorter] [Wording] (first : Arrival) (a : List Group) (b : List String)
    (env : Environment) (w : World) : SameMode first a b env w where
  refused := refused_detailedWords a b
  astray := fun ⟨x, e, accepted, lost⟩ =>
    ⟨{ x with detail := true }, e, by rw [ofWords?_detailedWords, accepted]; rfl, lost⟩
  opens s c opens := opens.detailed
  unloaded s c e opens answer words either := by
    simp only [List.mem_cons, List.not_mem_nil, or_false] at either
    rcases either with rfl | rfl
    · exact opens.ended_error answer first
    · exact opens.detailed.ended_error answer first
  noData s c d opens answer empty words either := by
    simp only [List.mem_cons, List.not_mem_nil, or_false] at either
    rcases either with rfl | rfl
    · exact opens.ended_empty answer empty first
    · exact opens.detailed.ended_empty answer empty first
  shown s c d groups opens answer nonempty line := by
    obtain ⟨x, accepted, same⟩ := opens.accepted
    obtain ⟨opened, e, start, ran, resolved⟩ := s.exists_shown nonempty
    have name : s.requested? = modeName? groups env := by
      rw [← same]
      exact requested?_eq (line ▸ accepted) env
    refine ⟨e.shown, ?_, resolved, opens.detailed.ended_breakdown answer rfl resolved first, ?_⟩
    · rw [← name]
      exact Navigation.stands_of_resolve? resolved
    · intro table
      obtain ⟨records, ended⟩ := opens.ended_table answer table start ran first
      exact ⟨e, records, rfl, ended⟩

/-! ## A name without a partition -/

/-- A site with two modes and no explanations. -/
def twoModes : World :=
  .ofFiles fun place =>
    if place = "./data/site-data.json" then .ok Explorer.repeatedText else .error .notFound

/-- A chosen name that no mode has stands for the first mode on both pages, though the environment
names the second. -/
theorem same_mode_ghost :
    let env := [("SITE_DEFAULT_MODE", "b")]
    ∃ m : String × Partition, m.1 = "a" ∧
      (runAs .feed ["--mode", "ghost", "--detail"] env twoModes).output =
        Page.breakdown (.of m.2 ⟨[]⟩ none) ++ "\n" ∧
      ∃ e : Explorer, e.shown = m ∧
        (runAs .feed ["--mode", "ghost"] env twoModes).output = (Screen.table e).shown := by
  intro env
  let s : Session := of { mode? := some "ghost" } env
  obtain ⟨c, found, fetch⟩ := Site.connect?_of_local twoModes (s := s.settings) (by decide)
  change ∀ path, c.fetch path = (twoModes.read (below "." path)).mapError .unreadable at fetch
  have opens : Opens (plainWords [.set .mode "ghost"] []) env twoModes s c :=
    ⟨⟨_, rfl, rfl⟩, found⟩
  have data : below "." s.settings.dataPath = "./data/site-data.json" := by decide
  have side : below "." s.settings.explanationsPath = "./prompt_explanations.csv" := by decide
  have fetched : c.fetch s.settings.dataPath = .ok Explorer.repeatedText := by
    rw [fetch, data]
    rfl
  have answer : (s.cache.load c).answer = .ok Explorer.repeated := by
    rw [answer_eq, fetched, Except.bind, Cache.decode, Explorer.ofBytes?_repeatedText]
    rfl
  have bare : (s.cache.explanations c).answer = ⟨[]⟩ := by
    have missing : c.fetch s.settings.explanationsPath = .error (.unreadable .notFound) := by
      rw [fetch, side]
      rfl
    unfold Cache.explanations
    rw [show s.cache.explanationsPath = s.settings.explanationsPath from rfl, missing]
  obtain ⟨m, stands, -, ⟨_, breakdown⟩, table⟩ :=
    (same_mode .feed [.set .mode "ghost"] [] env twoModes).shown s c _ [.set .mode "ghost"] opens
      answer (List.cons_ne_nil _ _) rfl
  rw [bare] at breakdown
  obtain ⟨e, _, shown, ended⟩ := table rfl
  have first : Explorer.repeated.partitions.head? = some m := by
    refine stands.unknown fun name given => ?_
    have ghost : modeName? [.set .mode "ghost"] env = some "ghost" := rfl
    rw [ghost] at given
    cases given
    decide +kernel
  have key : Explorer.repeated.partitions.head?.map (·.1) = some "a" := rfl
  rw [first] at key
  exact ⟨m, Option.some.inj key, congrArg Outcome.output breakdown, e, shown,
    congrArg Outcome.output ended⟩

end Session

end Leaderboard
