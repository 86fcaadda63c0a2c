/-
# Leaderboard.Proofs.RunEndings — how a run can end

A run is refused for its words, or finds no way to the site that they name, and then prints nothing.
Else it loads the feed, and tells its reader that there is nothing to show if the feed cannot be
read, is no object or has no partition (`Unusable`). From then on nothing fails: a partition is
found for every request and every step, so there is a screen. It is shown whole unless it breaks
off, and then it ends after the heading of its page.

This holds of every world and of every sorter, also of one that gives up where the order of the
cells contradicts itself (`Sorter.strict`).

* `runAs_endings`: this, for all words, environments and worlds.

Poles: `silent_though_read` (words that are read, and a run that ends in silence) and
`run_gives_up` (a run whose sort gives up).
-/
import Leaderboard.Proofs.Screens

set_option autoImplicit false

namespace Leaderboard.Session

open Leaderboard.Feed (Dataset Explanations isPartition lastUnder?)
open Leaderboard.Script
open Leaderboard.Site (Cache Carrier LoadError ReadFault SiteError World)

variable {s : Session} {c : Carrier} {d : Dataset} {v : Screen} {result : Except Stop Unit}
  {output : String}

/-! ## What a feed can be -/

/-- A dataset with a partition can be had from a path. -/
structure Serves (c : Carrier) (path : String) (d : Dataset) : Prop where
  decoded : ∃ bytes, c.fetch path = .ok bytes ∧ Dataset.ofBytes? bytes = .ok d
  partitions : d.partitions ≠ []

/-- Nothing can be shown of what is at a path. -/
inductive Unusable (c : Carrier) (path : String) : Prop where
  | unread (e : LoadError) (failed : c.fetch path = .error e)
  | noObject (bytes : List UInt8) (fetched : c.fetch path = .ok bytes)
      (unwritten : ¬∃ entries, Json.WritesObject entries (Json.Token.sequence bytes))
  /-- Under no key the last value is a partition. -/
  | noPartition (bytes : List UInt8) (entries : List (String × Json))
      (fetched : c.fetch path = .ok bytes)
      (written : Json.WritesObject entries (Json.Token.sequence bytes))
      (none : ∀ key, (lastUnder? entries key).any isPartition = false)

theorem partitions_eq_nil_iff {entries : List (String × Json)} (read : d.ReadFrom entries) :
    d.partitions = [] ↔ ∀ key, (lastUnder? entries key).any isPartition = false := by
  rw [← List.map_eq_nil_iff (f := (·.1))]
  change d.keys = [] ↔ _
  rw [read.keys, List.filter_eq_nil_iff]
  constructor
  · intro none key
    by_cases given : key ∈ entries.map (·.1)
    · exact Bool.eq_false_iff.mpr (none key (List.mem_eraseDups.mpr given))
    · have absent : lastUnder? entries key = Option.none :=
        Feed.lookup_of_not_mem (by rwa [List.map_reverse, List.mem_reverse])
      rw [absent]
      rfl
  · exact fun none key _ => Bool.eq_false_iff.mp (none key)

theorem serves_or_unusable (c : Carrier) (path : String) :
    (∃ d, Serves c path d) ∨ Unusable c path := by
  cases fetched : c.fetch path with
  | error e => exact .inr (.unread e fetched)
  | ok bytes =>
    by_cases written : ∃ entries, Json.WritesObject entries (Json.Token.sequence bytes)
    · obtain ⟨entries, written⟩ := written
      obtain ⟨d, decoded, read⟩ := Feed.exists_readFrom written
      by_cases empty : d.partitions = []
      · exact .inr (.noPartition bytes entries fetched written
          ((partitions_eq_nil_iff read).mp empty))
      · exact .inl ⟨d, ⟨bytes, fetched, decoded⟩, empty⟩
    · exact .inr (.noObject bytes fetched written)

/-- What a page that has loaded nothing yet gets from its feed. -/
theorem answer_eq [Wording] (s : Session) (c : Carrier) :
    (s.cache.load c).answer = (c.fetch s.settings.dataPath).bind Cache.decode := by
  change (Cache.fetchDataset c s.settings.dataPath).1 = _
  unfold Cache.fetchDataset
  cases c.fetch s.settings.dataPath <;> rfl

theorem Serves.answer [Wording] (serves : Serves c s.settings.dataPath d) :
    (s.cache.load c).answer = .ok d := by
  obtain ⟨bytes, fetched, decoded⟩ := serves.decoded
  rw [answer_eq, fetched, Except.bind, Cache.decode, decoded]
  rfl

theorem Unusable.answer [Wording] (unusable : Unusable c s.settings.dataPath) :
    (∃ e, (s.cache.load c).answer = .error e) ∨
      ∃ d, (s.cache.load c).answer = .ok d ∧ d.partitions = [] := by
  cases unusable with
  | unread e failed => exact .inl ⟨e, by rw [answer_eq, failed, Except.bind]⟩
  | noObject bytes fetched unwritten =>
    cases decoded : Dataset.ofBytes? bytes with
    | error fault =>
      exact .inl ⟨_, by rw [answer_eq, fetched, Except.bind, Cache.decode, decoded]; rfl⟩
    | ok d =>
      obtain ⟨entries, written, -⟩ := Feed.ofBytes?_eq_ok_iff.mp decoded
      exact absurd ⟨entries, written⟩ unwritten
  | noPartition bytes entries fetched written none =>
    obtain ⟨d, decoded, read⟩ := Feed.exists_readFrom written
    exact .inr ⟨d, by rw [answer_eq, fetched, Except.bind, Cache.decode, decoded]; rfl,
      (partitions_eq_nil_iff read).mpr none⟩

/-! ## What a run comes to -/

theorem Unusable.spoken [Sorter] [Wording] (unusable : Unusable c s.settings.dataPath)
    (first : Arrival) : ∃ e : SiteError,
      Says (s.present first c) (.error (.failed e.message e.causes)) failure := by
  rcases unusable.answer with ⟨e, failed⟩ | ⟨d, loaded, empty⟩
  · refine ⟨.load e, says_present first ?_⟩
    rw [failed]
    exact (says_failure _).bind_stop
  · refine ⟨.noData, says_present first ?_⟩
    rw [loaded]
    exact (says_pure d).after (says_showOf_empty empty _)

theorem Serves.spoken [Sorter] [Wording] (serves : Serves c s.settings.dataPath d)
    (there : s.screen? d (s.cache.explanations c).answer = some v) (first : Arrival) :
    Says (s.present first c) v.ended v.shown := by
  refine says_present first ?_
  rw [serves.answer]
  exact (says_pure d).after (says_showOf there)

variable {words : List String} {env : Environment} {w : World}

/-- The words cannot be read. -/
def Refused (words : List String) : Prop := ∃ fault, Arguments.ofWords? words = .error fault

/-- The words are read, but there is no way to what they or the environment name. -/
def Astray (words : List String) (env : Environment) (w : World) : Prop :=
  ∃ a e, Arguments.ofWords? words = .ok a ∧ Site.connect? (of a env).settings w = .error e

/-- The words are read and there is a way to the site. -/
structure Opens (words : List String) (env : Environment) (w : World) (s : Session) (c : Carrier) :
    Prop where
  accepted : ∃ a, Arguments.ofWords? words = .ok a ∧ of a env = s
  found : Site.connect? s.settings w = .ok c

/-- The site is opened but has nothing to show. -/
def Barren (words : List String) (env : Environment) (w : World) : Prop :=
  ∃ s c, Opens words env w s c ∧ Unusable c s.settings.dataPath

/-- The site is opened and gives a screen. -/
def Shows [Sorter] (words : List String) (env : Environment) (w : World) (v : Screen) : Prop :=
  ∃ s c d, Opens words env w s c ∧ Serves c s.settings.dataPath d ∧
    s.screen? d (s.cache.explanations c).answer = some v

theorem comes_to [Sorter] (words : List String) (env : Environment) (w : World) :
    (Refused words ∨ Astray words env w) ∨ Barren words env w ∨ ∃ v, Shows words env w v := by
  cases accepted : Arguments.ofWords? words with
  | error fault => exact .inl (.inl ⟨fault, accepted⟩)
  | ok a =>
    cases found : Site.connect? (of a env).settings w with
    | error e => exact .inl (.inr ⟨a, e, accepted, found⟩)
    | ok c =>
      have opens : Opens words env w (of a env) c := ⟨⟨a, accepted, rfl⟩, found⟩
      rcases serves_or_unusable c (of a env).settings.dataPath with ⟨d, serves⟩ | unusable
      · obtain ⟨v, there⟩ := Option.ne_none_iff_exists'.mp
          (mt (screen?_eq_none_iff _).mp serves.partitions)
        exact .inr (.inr ⟨v, _, _, _, opens, serves, there⟩)
      · exact .inr (.inl ⟨_, _, opens, unusable⟩)

/-! ## Outcomes -/

theorem runAs_of_says [Sorter] [Wording] {first : Arrival}
    (said : Says (script first words env w) result output) :
    ∃ records, runAs first words env w = .of (result, ⟨output, records⟩) := by
  obtain ⟨records, ended⟩ := Outcome.of_says said
  exact ⟨_, ended (settingOf env)⟩

theorem runAs_silent [Sorter] [Wording] (first : Arrival)
    (silent : Refused words ∨ Astray words env w) :
    (runAs first words env w).status = 1 ∧ (runAs first words env w).output = "" := by
  have said : ∃ message causes,
      Says (script first words env w) (.error (.failed message causes)) "" := by
    unfold script
    rcases silent with ⟨fault, refused⟩ | ⟨a, e, accepted, lost⟩
    · rw [refused]
      exact ⟨_, _, says_stop _⟩
    · rw [accepted]
      refine ⟨e.message, e.causes, (says_report _).after ?_⟩
      rw [lost]
      exact says_stop _
  obtain ⟨_, _, said⟩ := said
  obtain ⟨_, ended⟩ := runAs_of_says said
  rw [ended]
  exact ⟨rfl, rfl⟩

theorem Opens.spoken [Sorter] [Wording] (opens : Opens words env w s c) {first : Arrival}
    (said : Says (s.present first c) result output) :
    Says (script first words env w) result output := by
  obtain ⟨a, accepted, rfl⟩ := opens.accepted
  unfold script
  rw [accepted]
  refine (says_report _).after ?_
  rw [opens.found]
  exact said

theorem Barren.ended [Sorter] [Wording] (barren : Barren words env w) (first : Arrival) :
    (runAs first words env w).status = 1 ∧ (runAs first words env w).output = failure := by
  obtain ⟨s, c, opens, unusable⟩ := barren
  obtain ⟨e, said⟩ := unusable.spoken first
  obtain ⟨_, ended⟩ := runAs_of_says (opens.spoken said)
  rw [ended]
  exact ⟨rfl, rfl⟩

theorem Shows.ended [Sorter] [Wording] (shows : Shows words env w v) (first : Arrival) :
    ∃ records, runAs first words env w = .of (v.ended, ⟨v.shown, records⟩) := by
  obtain ⟨s, c, d, opens, serves, there⟩ := shows
  exact runAs_of_says (opens.spoken (serves.spoken there first))

theorem Shows.runAs_whole [Sorter] [Wording] (shows : Shows words env w v)
    (whole : v.broken? = none) (first : Arrival) :
    (runAs first words env w).status = 0 ∧ (runAs first words env w).output = v.text := by
  obtain ⟨_, ended⟩ := shows.ended first
  rw [ended, Screen.ended, Screen.shown, whole]
  exact ⟨rfl, rfl⟩

theorem Shows.runAs_cut [Sorter] [Wording] (shows : Shows words env w v)
    (broken : v.broken? ≠ none) (first : Arrival) :
    (runAs first words env w).status = 101 ∧ (runAs first words env w).output = v.head := by
  obtain ⟨_, ended⟩ := shows.ended first
  obtain ⟨message, broken⟩ := Option.ne_none_iff_exists'.mp broken
  rw [ended, Screen.ended, Screen.shown, broken]
  exact ⟨rfl, rfl⟩

/-- A run that fails was refused, is lost, or has nothing to show. -/
theorem runAs_failed [Sorter] [Wording] {first : Arrival}
    (failed : (runAs first words env w).status = 1) :
    (Refused words ∨ Astray words env w) ∧ (runAs first words env w).output = "" ∨
      Barren words env w ∧ (runAs first words env w).output = failure := by
  rcases comes_to words env w with silent | barren | ⟨v, shows⟩
  · exact .inl ⟨silent, (runAs_silent first silent).2⟩
  · exact .inr ⟨barren, (barren.ended first).2⟩
  · by_cases whole : v.broken? = none
    · exact absurd ((shows.runAs_whole whole first).1.symm.trans failed) (by decide)
    · exact absurd ((shows.runAs_cut whole first).1.symm.trans failed) (by decide)

/-- Every other run comes to a screen. -/
theorem runAs_screen [Sorter] [Wording] {first : Arrival}
    (unfailed : (runAs first words env w).status ≠ 1) : ∃ v, Shows words env w v ∧
      (v.broken? = none ∧ (runAs first words env w).status = 0 ∧
          (runAs first words env w).output = v.text ∨
        v.broken? ≠ none ∧ (runAs first words env w).status = 101 ∧
          (runAs first words env w).output = v.head) := by
  rcases comes_to words env w with silent | barren | ⟨v, shows⟩
  · exact absurd (runAs_silent first silent).1 unfailed
  · exact absurd (barren.ended first).1 unfailed
  · refine ⟨v, shows, ?_⟩
    by_cases whole : v.broken? = none
    · exact .inl ⟨whole, shows.runAs_whole whole first⟩
    · exact .inr ⟨whole, shows.runAs_cut whole first⟩

/-! ## Other explanations -/

/-- What comes of asking for the feed, once there is a way to the site. -/
def feed (s : Session) (w : World) : Except LoadError (Except LoadError (List UInt8)) :=
  (Site.connect? s.settings w).map fun c => c.fetch s.settings.dataPath

/-- The feed is the same in another world. -/
def SameFeed (words : List String) (env : Environment) (w w' : World) : Prop :=
  ∀ a, Arguments.ofWords? words = .ok a → (of a env).feed w' = (of a env).feed w

variable {w' : World}

theorem SameFeed.symm (same : SameFeed words env w w') : SameFeed words env w' w :=
  fun a accepted => (same a accepted).symm

/-- Files give the same feed that read the same at its place. -/
theorem sameFeed_ofFiles {read read' : String → Except ReadFault (List UInt8)}
    (same : ∀ place ∈ (places words env).head?, read' place = read place) :
    SameFeed words env (.ofFiles read) (.ofFiles read') := by
  intro a accepted
  unfold feed Site.connect?
  unfold places at same
  rw [accepted] at same
  dsimp only at same
  cases found : Site.Source.ofSettings? (of a env).settings with
  | error e => rfl
  | ok source =>
    cases source with
    | web base => rfl
    | directory root =>
      rw [found] at same
      change Except.ok ((read' _).mapError _) = Except.ok ((read _).mapError _)
      rw [same _ rfl]

/-- There is a way to the site there too, and the feed comes of it that comes here. -/
theorem Opens.other (opens : Opens words env w s c) (same : SameFeed words env w w') :
    ∃ c', Opens words env w' s c' ∧
      c'.fetch s.settings.dataPath = c.fetch s.settings.dataPath := by
  obtain ⟨⟨a, accepted, rfl⟩, found⟩ := opens
  have fed := same a accepted
  unfold feed at fed
  rw [found] at fed
  cases found' : Site.connect? (of a env).settings w' with
  | error e =>
    rw [found'] at fed
    cases fed
  | ok c' =>
    rw [found'] at fed
    exact ⟨c', ⟨⟨a, accepted, rfl⟩, found'⟩, Except.ok.inj fed⟩

theorem Astray.other (astray : Astray words env w) (same : SameFeed words env w w') :
    Astray words env w' := by
  obtain ⟨a, e, accepted, lost⟩ := astray
  cases found' : Site.connect? (of a env).settings w' with
  | error e' => exact ⟨a, e', accepted, found'⟩
  | ok c' =>
    have opens : Opens words env w' (of a env) c' := ⟨⟨a, accepted, rfl⟩, found'⟩
    obtain ⟨c, ⟨-, found⟩, -⟩ := opens.other same.symm
    cases found.symm.trans lost

theorem Barren.other (barren : Barren words env w) (same : SameFeed words env w w') :
    Barren words env w' := by
  obtain ⟨s, c, opens, unusable⟩ := barren
  obtain ⟨c', opens', fetch⟩ := opens.other same
  refine ⟨s, c', opens', ?_⟩
  cases unusable with
  | unread e failed => exact .unread e (fetch.trans failed)
  | noObject bytes fetched unwritten => exact .noObject bytes (fetch.trans fetched) unwritten
  | noPartition bytes entries fetched written none =>
    exact .noPartition bytes entries (fetch.trans fetched) written none

theorem Shows.other [Sorter] (shows : Shows words env w v) (same : SameFeed words env w w') :
    ∃ v', Shows words env w' v' ∧ v'.broken? = v.broken? ∧ v'.head = v.head := by
  obtain ⟨s, c, d, opens, ⟨⟨bytes, fetched, decoded⟩, partitions⟩, there⟩ := shows
  obtain ⟨c', opens', fetch⟩ := opens.other same
  have serves : Serves c' s.settings.dataPath d :=
    ⟨⟨bytes, fetch.trans fetched, decoded⟩, partitions⟩
  obtain ⟨v', there', broken, head⟩ := screen?_explained there (s.cache.explanations c').answer
  exact ⟨v', ⟨s, c', d, opens', serves, there'⟩, broken, head⟩

/-- Other explanations change neither the status nor, unless a screen is shown whole, what is
printed. -/
theorem runAs_other [Sorter] [Wording] (same : SameFeed words env w w') (first first' : Arrival) :
    (runAs first' words env w').status = (runAs first words env w).status ∧
      ((runAs first words env w).status ≠ 0 →
        (runAs first' words env w').output = (runAs first words env w).output) := by
  rcases comes_to words env w with silent | barren | ⟨v, shows⟩
  · obtain ⟨status, output⟩ := runAs_silent first silent
    obtain ⟨status', output'⟩ := runAs_silent first' (silent.imp_right fun a => a.other same)
    exact ⟨by rw [status, status'], fun _ => by rw [output, output']⟩
  · obtain ⟨status, output⟩ := barren.ended first
    obtain ⟨status', output'⟩ := (barren.other same).ended first'
    exact ⟨by rw [status, status'], fun _ => by rw [output, output']⟩
  · obtain ⟨v', shows', broken, head⟩ := shows.other same
    by_cases whole : v.broken? = none
    · obtain ⟨status, -⟩ := shows.runAs_whole whole first
      obtain ⟨status', -⟩ := shows'.runAs_whole (broken.trans whole) first'
      exact ⟨by rw [status, status'], fun failed => absurd status failed⟩
    · obtain ⟨status, output⟩ := shows.runAs_cut whole first
      obtain ⟨status', output'⟩ := shows'.runAs_cut (broken ▸ whole) first'
      exact ⟨by rw [status, status'], fun _ => by rw [output, output', head]⟩

/-! ## The endings -/

/-- How a run can end. -/
structure Endings [Sorter] [Wording] (first : Arrival) (words : List String) (env : Environment)
    (w : World) : Prop where
  silent : (runAs first words env w).status = 1 ∧ (runAs first words env w).output = "" ↔
    Refused words ∨ Astray words env w
  barren : (runAs first words env w).status = 1 ∧
    (runAs first words env w).output = failure ↔ Barren words env w
  /-- The whole screen is printed. -/
  shown : ∀ text, (runAs first words env w).status = 0 ∧
    (runAs first words env w).output = text ↔
      ∃ v, Shows words env w v ∧ v.fault? = none ∧ ¬v.Overlong ∧ v.text = text
  /-- The table is missing. -/
  cut : ∀ text, (runAs first words env w).status = 101 ∧
    (runAs first words env w).output = text ↔
      ∃ v, Shows words env w v ∧ (v.fault? ≠ none ∨ v.Overlong) ∧ v.head = text
  /-- No sort gives up but that of a table whose cells contradict each other. -/
  mixed : ∀ v, Shows words env w v → v.fault? ≠ none → v.Mixed
  /-- There is no other way. -/
  only : (runAs first words env w).status = 0 ∨ (runAs first words env w).status = 101 ∨
    (runAs first words env w).status = 1 ∧ ((runAs first words env w).output = "" ∨
      (runAs first words env w).output = failure)
  /-- There is always a way to a directory. -/
  directory : ∀ a, Arguments.ofWords? words = .ok a → (of a env).settings.isRemote = false →
    ¬Astray words env w
  /-- The feed is the same among files that are the same at its place. -/
  files : ∀ read read', w = .ofFiles read →
    (∀ place ∈ (places words env).head?, read' place = read place) →
      SameFeed words env w (.ofFiles read')
  explained : ∀ first' w', SameFeed words env w w' →
    (runAs first' words env w').status = (runAs first words env w).status ∧
      ((runAs first words env w).status ≠ 0 →
        (runAs first' words env w').output = (runAs first words env w).output)

/-- **A run ends in one of four ways**, each for a reason of its own, and the explanations have no
say in it. -/
theorem runAs_endings [Sorter] [Wording] (first : Arrival) (words : List String)
    (env : Environment) (w : World) : Endings first words env w where
  silent := by
    refine ⟨?_, runAs_silent first⟩
    rintro ⟨failed, output⟩
    rcases runAs_failed failed with ⟨silent, -⟩ | ⟨-, told⟩
    · exact silent
    · exact absurd (told.symm.trans output) (by decide)
  barren := by
    refine ⟨?_, fun barren => barren.ended first⟩
    rintro ⟨failed, output⟩
    rcases runAs_failed failed with ⟨-, told⟩ | ⟨barren, -⟩
    · exact absurd (told.symm.trans output) (by decide)
    · exact barren
  shown text := by
    constructor
    · rintro ⟨status, output⟩
      rcases runAs_screen (by rw [status]; decide) with
        ⟨v, shows, ⟨whole, -, printed⟩ | ⟨-, ended, -⟩⟩
      · obtain ⟨sorted, fits⟩ := v.broken?_eq_none_iff.mp whole
        exact ⟨v, shows, sorted, fits, printed.symm.trans output⟩
      · exact absurd (ended.symm.trans status) (by decide)
    · rintro ⟨v, shows, sorted, fits, rfl⟩
      exact shows.runAs_whole (v.broken?_eq_none_iff.mpr ⟨sorted, fits⟩) first
  cut text := by
    constructor
    · rintro ⟨status, output⟩
      rcases runAs_screen (by rw [status]; decide) with
        ⟨v, shows, ⟨-, ended, -⟩ | ⟨broken, -, printed⟩⟩
      · exact absurd (ended.symm.trans status) (by decide)
      · exact ⟨v, shows, v.broken?_ne_none_iff.mp broken, printed.symm.trans output⟩
    · rintro ⟨v, shows, broken, rfl⟩
      exact shows.runAs_cut (v.broken?_ne_none_iff.mpr broken) first
  mixed := fun v ⟨_, _, _, _, _, there⟩ fault => mixed_of_fault? there fault
  only := by
    by_cases failed : (runAs first words env w).status = 1
    · exact .inr (.inr ⟨failed, (runAs_failed failed).imp (·.2) (·.2)⟩)
    · rcases runAs_screen failed with ⟨v, -, ⟨-, status, -⟩ | ⟨-, status, -⟩⟩
      · exact .inl status
      · exact .inr (.inl status)
  directory a accepted near := by
    rintro ⟨a', e, accepted', lost⟩
    cases accepted.symm.trans accepted'
    obtain ⟨c, found, -⟩ := Site.connect?_of_local w near
    rw [found] at lost
    cases lost
  files read read' files same := files ▸ sameFeed_ofFiles same
  explained first' w' same := runAs_other same first first'

/-! ## Poles -/

/-- A place on the web that is no URL. -/
def lostSite : List String := ["--base", "http://["]

theorem astray_lostSite (w : World) : Astray lostSite [] w :=
  ⟨{ base? := some "http://[" }, .badLocation "http://[/" .invalidIpv6, rfl,
    by with_unfolding_all rfl⟩

/-- Words need not be refused for a run to end in silence. -/
theorem silent_though_read : ¬∀ (words : List String) (env : Environment)
    (read : String → Except ReadFault (List UInt8)),
    (Settings.ofEnvironment env).isRemote = false →
      ((run words env read).status = 1 ∧ (run words env read).output = "" ↔ Refused words) := by
  intro claimed
  obtain ⟨fault, refused⟩ := (claimed lostSite [] (fun _ => .error .notFound) rfl).mp
    (runAs_silent .feed (.inr (astray_lostSite _)))
  have accepted : Arguments.ofWords? lostSite = .ok { base? := some "http://[" } := by rfl
  rw [accepted] at refused
  cases refused

/-- A feed with a column of the numbers 9 and 10 and the text 1a. -/
def tangled : List (String × Json) :=
  [("m", .object [
    ("statsHeaders", .array [.object [("key", .text "k")]]),
    ("models", .array (["9", "10", "1a"].map fun value =>
      .object [("stats", .object [("k", .text value)])]))])]

def tangledText : List UInt8 := Text.Utf8.bytes (Json.object tangled).render

set_option maxRecDepth 4096 in
theorem ofBytes?_tangledText : Dataset.ofBytes? tangledText = .ok (.ofMembers tangled) := by
  with_unfolding_all rfl

/-- A site that holds nothing else. -/
def tangledSite : World := .ofFiles fun _ => .ok tangledText

/-- The page of that feed, sorted by its column. -/
def tangledPage : Explorer where
  dataset := .ofMembers tangled
  mode := "m"
  partition := (Feed.Dataset.ofMembers tangled).partitions[0].2
  state := { sortKey? := some "k", direction := .ascending }

theorem shows_tangled [Sorter] : Shows ["--sort", "k:asc"] [] tangledSite (.table tangledPage) := by
  let s : Session := of { sort? := some ("k", some .ascending) } []
  obtain ⟨c, found, fetch⟩ := Site.connect?_of_local tangledSite (s := s.settings) (by decide)
  have serves : Serves c s.settings.dataPath (.ofMembers tangled) :=
    ⟨⟨tangledText, fetch _, ofBytes?_tangledText⟩, List.cons_ne_nil _ _⟩
  exact ⟨s, c, _, ⟨⟨_, rfl, rfl⟩, found⟩, serves, rfl⟩

theorem tangled_not_consistent : ¬Sorting.Consistent (Row.before "k" .ascending)
    (filterRows (columnsOf tangledPage.mode tangledPage.partition) tangledPage.state.filters
      (rowsOf tangledPage.partition)) := by
  let rows := filterRows (columnsOf tangledPage.mode tangledPage.partition)
    tangledPage.state.filters (rowsOf tangledPage.partition)
  have circle : ¬∀ a ∈ rows, ∀ b ∈ rows, ∀ c ∈ rows, Row.before "k" .ascending a b = true →
      Row.before "k" .ascending b c = true → Row.before "k" .ascending a c = true := by
    decide +kernel
  exact fun consistent => circle consistent.trans

/-- A run can break off after the heading because its sort gives up. -/
theorem run_gives_up (message : String) (first : Arrival) :
    letI := Sorter.strict message
    (runAs first ["--sort", "k:asc"] [] tangledSite).status = 101 ∧
      (runAs first ["--sort", "k:asc"] [] tangledSite).complaint = message ∧
      (runAs first ["--sort", "k:asc"] [] tangledSite).output =
        (Screen.table tangledPage).head := by
  let _ := Sorter.strict message
  have fault : (Screen.table tangledPage).fault? = some message := by
    change (TableView.of tangledPage.mode tangledPage.partition tangledPage.state).fault? = _
    rw [TableView.fault?_of]
    exact Sorter.strict_fault? message tangled_not_consistent
  obtain ⟨_, ended⟩ := shows_tangled.ended first
  have broken : (Screen.table tangledPage).broken? = some message := by
    rw [Screen.broken?, fault, Option.some_or]
  rw [ended, Screen.ended, Screen.shown, broken]
  exact ⟨rfl, rfl, rfl⟩

end Leaderboard.Session
