/-
# Leaderboard.Proofs.CommandGroups — a command is a sequence of complete groups

A command is read group by group: the word that asks for the breakdown stands alone, and an option
stands with the word after it, whatever that looks like. Reading fails at the first group that is
not complete or whose value its option does not take.

What one group does to the arguments does not depend on what is there already
(`Group.apply_merge`), so reading goes on with a second command as if it began there, and what the
two give is merged (`read_merge`). The values that count are then the last of each option, and all
filters in order (`gathers`).

* `ofWords?_composes`: commands one after the other merge, a fault in the second is its own, and
  the commands that are accepted are the sequences of complete groups.
-/
import Leaderboard.Arguments

set_option autoImplicit false

namespace Leaderboard.Arguments

/-! ## Merging -/

/-- The arguments of a command with those of another one behind it: its options go before, and its
filters come after. -/
def merge (a b : Arguments) : Arguments where
  base? := b.base?.or a.base?
  mode? := b.mode?.or a.mode?
  address? := b.address?.or a.address?
  sort? := b.sort?.or a.sort?
  filters := a.filters ++ b.filters
  detail := a.detail || b.detail
  opened? := b.opened?.or a.opened?

@[simp] theorem merge_empty (a : Arguments) : a.merge {} = a := by
  simp [merge]

/-! ## Groups -/

/-- Words that are read together. -/
inductive Group where
  | detail
  | set (s : Setter) (value : String)
deriving DecidableEq, Repr

namespace Group

def words : Group → List String
  | .detail => ["--detail"]
  | .set s value => [s.name, value]

/-- The arguments after a group. -/
def apply (a : Arguments) : Group → Except Fault Arguments
  | .detail => .ok { a with detail := true }
  | .set s value => a.set value s

/-- The words of groups, one group after the other. -/
def line (groups : List Group) : List String := groups.flatMap words

end Group

/-- The values that an option takes: an address that can be read, a key with a direction or without
one, a key with a query. All others take every word. -/
def Setter.Takes (value : String) : Setter → Prop
  | .base => True
  | .mode => True
  | .address => ∃ url, Url.ofText? value = .ok url
  | .sort => ':' ∉ value.toList ∨ ∃ key direction d, value = key ++ ":" ++ direction ∧
      ':' ∉ key.toList ∧ Direction.ofText? direction = some d
  | .filter => ∃ key query, value = key ++ "=" ++ query ∧ '=' ∉ key.toList
  | .opened => True

/-- A group with a value that its option takes. -/
def Group.Complete : Group → Prop
  | .detail => True
  | .set s value => s.Takes value

/-! ## Words of options -/

theorem ofText?_name (s : Setter) : Flag.ofText? s.name = some (.set s) := by
  cases s <;> decide

theorem name_of_ofText? {word : String} {s : Setter} (found : Flag.ofText? word = some (.set s)) :
    word = s.name := by
  unfold Flag.ofText? at found
  split at found
  · cases found
  · split at found
    · cases found
    · obtain ⟨t, first, same⟩ := Option.map_eq_some_iff.mp found
      cases same
      have same := List.find?_some first
      rw [beq_iff_eq] at same
      exact same.symm

theorem eq_detail_of_ofText? {word : String} (found : Flag.ofText? word = some .detail) :
    word = "--detail" := by
  unfold Flag.ofText? at found
  split at found
  · assumption
  · split at found
    · cases found
    · obtain ⟨t, -, other⟩ := Option.map_eq_some_iff.mp found
      cases other

/-! ## Reading group by group -/

/-- A group at the start of a command is read first. -/
theorem read_group (a : Arguments) (g : Group) (rest : List String) :
    read a (g.words ++ rest) = (g.apply a).bind fun b => read b rest := by
  cases g with
  | detail => rfl
  | set s value =>
      simp only [Group.words, List.cons_append, List.nil_append, read, ofText?_name, Group.apply]
      cases a.set value s <;> rfl

/-- What a group does is the same behind other arguments. -/
theorem Group.apply_merge (a b : Arguments) (g : Group) :
    g.apply (a.merge b) = (g.apply b).map a.merge := by
  cases g with
  | detail => simp [Group.apply, merge, Except.map]
  | set s value =>
      cases s with
      | base => simp [Group.apply, Arguments.set, merge, Except.map]
      | mode => simp [Group.apply, Arguments.set, merge, Except.map]
      | opened => simp [Group.apply, Arguments.set, merge, Except.map]
      | address =>
          simp only [Group.apply, Arguments.set]
          cases Url.ofText? value <;> simp [merge, Except.map]
      | sort =>
          simp only [Group.apply, Arguments.set]
          cases sortOf? value <;> simp [merge, Except.map]
      | filter =>
          simp only [Group.apply, Arguments.set]
          cases filterOf? value <;> simp [merge, Except.map]

/-- Reading behind other arguments gives what reading gives alone, merged with them. -/
theorem read_merge (a : Arguments) (words : List String) (b : Arguments) :
    read (a.merge b) words = (read b words).map a.merge := by
  fun_induction read b words with
  | case1 b => rfl
  | case2 b word r unknown => simp [read, unknown, Except.map]
  | case3 b word r help => simp [read, help, Except.map]
  | case4 b word r detail ih =>
      have merged : { a.merge b with detail := true } = a.merge { b with detail := true } :=
        Except.ok.inj (Group.apply_merge a b .detail)
      simp only [read, detail]
      rw [merged, ih]
  | case5 b word s found => simp [read, found, Except.map]
  | case6 b word s found value r next set ih =>
      have merged : (a.merge b).set value s = .ok (a.merge next) := by
        have here := Group.apply_merge a b (.set s value)
        rwa [Group.apply, Group.apply, set] at here
      simp only [read, found, merged]
      exact ih
  | case7 b word s found value r fault set =>
      have merged : (a.merge b).set value s = .error fault := by
        have here := Group.apply_merge a b (.set s value)
        rwa [Group.apply, Group.apply, set] at here
      simp only [read, found, merged, Except.map]

/-- A command is read behind any arguments as it is read alone. -/
theorem read_eq (a : Arguments) (words : List String) :
    read a words = (ofWords? words).map a.merge := by
  rw [ofWords?, ← read_merge, merge_empty]

theorem ofWords?_append {a : List String} {x : Arguments} (accepted : ofWords? a = .ok x)
    (b : List String) : ofWords? (a ++ b) = (ofWords? b).map x.merge := by
  rw [ofWords?, read_append b a {} x accepted, read_eq]

theorem ofWords?_group (g : Group) (rest : List String) :
    ofWords? (g.words ++ rest) = (g.apply {}).bind fun x => (ofWords? rest).map x.merge := by
  rw [ofWords?, read_group]
  simp only [read_eq]

/-- A command of one group. -/
theorem ofWords?_words (g : Group) : ofWords? g.words = g.apply {} := by
  have alone := ofWords?_group g []
  rw [List.append_nil] at alone
  rw [alone]
  cases g.apply {} with
  | error fault => rfl
  | ok x => exact congrArg Except.ok (merge_empty x)

/-! ## What is accepted -/

theorem takes_sort_iff {value : String} :
    Setter.sort.Takes value ↔ ∃ sort, sortOf? value = .ok sort := by
  constructor
  · rintro (plain | ⟨key, direction, d, rfl, plain, names⟩)
    · exact ⟨_, sortOf_direction plain⟩
    · exact ⟨(key, some d), by rw [sortOf?_cut plain, names]⟩
  · rintro ⟨sort, read⟩
    by_cases marked : ':' ∈ value.toList
    · obtain ⟨key, direction, rfl, plain⟩ := exists_cut marked
      change sortOf? (key ++ ":" ++ direction) = .ok sort at read
      rw [sortOf?_cut plain] at read
      split at read
      · rename_i d names
        exact .inr ⟨key, direction, d, rfl, plain, names⟩
      · cases read
    · exact .inl marked

theorem takes_filter_iff {value : String} :
    Setter.filter.Takes value ↔ ∃ filter, filterOf? value = .ok filter := by
  constructor
  · rintro ⟨key, query, rfl, plain⟩
    exact ⟨_, filterOf?_cut plain query⟩
  · rintro ⟨filter, read⟩
    by_cases marked : '=' ∈ value.toList
    · obtain ⟨key, query, rfl, plain⟩ := exists_cut marked
      exact ⟨key, query, rfl, plain⟩
    · rw [filterOf?_of_not_mem marked] at read
      cases read

theorem Group.complete_iff (g : Group) : g.Complete ↔ ∃ x, g.apply {} = .ok x := by
  cases g with
  | detail => simp [Group.Complete, Group.apply]
  | set s value =>
      cases s with
      | base => simp [Group.Complete, Setter.Takes, Group.apply, Arguments.set]
      | mode => simp [Group.Complete, Setter.Takes, Group.apply, Arguments.set]
      | opened => simp [Group.Complete, Setter.Takes, Group.apply, Arguments.set]
      | address =>
          simp only [Group.Complete, Setter.Takes, Group.apply, Arguments.set]
          cases Url.ofText? value <;> simp
      | sort =>
          simp only [Group.Complete, takes_sort_iff, Group.apply, Arguments.set]
          cases sortOf? value <;> simp [Except.map]
      | filter =>
          simp only [Group.Complete, takes_filter_iff, Group.apply, Arguments.set]
          cases filterOf? value <;> simp [Except.map]

/-- The words of an accepted command are those of complete groups. -/
theorem exists_groups {words : List String} {a x : Arguments} (accepted : read a words = .ok x) :
    ∃ groups, words = Group.line groups ∧ ∀ g ∈ groups, g.Complete := by
  fun_induction read a words with
  | case1 a => exact ⟨[], rfl, by simp⟩
  | case2 | case3 | case5 | case7 => cases accepted
  | case4 a word r detail ih =>
      obtain ⟨groups, rfl, each⟩ := ih accepted
      refine ⟨.detail :: groups, ?_, List.forall_mem_cons.mpr ⟨trivial, each⟩⟩
      rw [eq_detail_of_ofText? detail]
      rfl
  | case6 a word s found value r next set ih =>
      obtain ⟨groups, rfl, each⟩ := ih accepted
      have taken : (Group.set s value).Complete := by
        rw [Group.complete_iff]
        have here := Group.apply_merge a {} (.set s value)
        rw [merge_empty, Group.apply, set] at here
        cases alone : (Group.set s value).apply {} with
        | ok y => exact ⟨y, rfl⟩
        | error fault =>
            rw [alone] at here
            cases here
      refine ⟨.set s value :: groups, ?_, List.forall_mem_cons.mpr ⟨taken, each⟩⟩
      rw [name_of_ofText? found]
      rfl

/-! ## What groups give -/

namespace Group

/-- The value that a group gives to an option. -/
def valueFor? (s : Setter) : Group → Option String
  | .detail => none
  | .set t value => if t = s then some value else none

/-- The values that groups give to an option, in order. -/
def values (s : Setter) (groups : List Group) : List String := groups.filterMap (valueFor? s)

/-- Arguments that have the last value of each option and all filters. -/
structure Gathers (groups : List Group) (x : Arguments) : Prop where
  base : x.base? = (values .base groups).getLast?
  mode : x.mode? = (values .mode groups).getLast?
  address : x.address? =
    ((values .address groups).filterMap fun v => (Url.ofText? v).toOption).getLast?
  sort : x.sort? = ((values .sort groups).filterMap fun v => (sortOf? v).toOption).getLast?
  filters : x.filters = (values .filter groups).filterMap fun v => (filterOf? v).toOption
  detail : x.detail = true ↔ Group.detail ∈ groups
  opened : x.opened? = (values .opened groups).getLast?

theorem gathers_nil : Gathers [] {} := by
  constructor <;> simp [values]

theorem Gathers.merge {a b : List Group} {x y : Arguments} (first : Gathers a x)
    (second : Gathers b y) : Gathers (a ++ b) (x.merge y) where
  base := by simp [Arguments.merge, values, first.base, second.base]
  mode := by simp [Arguments.merge, values, first.mode, second.mode]
  address := by simp [Arguments.merge, values, first.address, second.address]
  sort := by simp [Arguments.merge, values, first.sort, second.sort]
  filters := by simp [Arguments.merge, values, first.filters, second.filters]
  detail := by simp [Arguments.merge, first.detail, second.detail]
  opened := by simp [Arguments.merge, values, first.opened, second.opened]

theorem gathers_single {g : Group} {x : Arguments} (read : g.apply {} = .ok x) :
    Gathers [g] x := by
  cases g with
  | detail =>
      cases read
      exact ⟨rfl, rfl, rfl, rfl, rfl, by simp, rfl⟩
  | set s value =>
      cases s with
      | base | mode | opened =>
          cases read
          constructor <;> simp [values, valueFor?]
      | address =>
          simp only [Group.apply, Arguments.set] at read
          cases parsed : Url.ofText? value with
          | error fault => simp [parsed] at read
          | ok url =>
              simp only [parsed, Except.ok.injEq] at read
              cases read
              constructor <;> simp [values, valueFor?, parsed, Except.toOption]
      | sort =>
          simp only [Group.apply, Arguments.set] at read
          cases parsed : sortOf? value with
          | error fault => simp [parsed, Except.map] at read
          | ok sort =>
              simp only [parsed, Except.map, Except.ok.injEq] at read
              cases read
              constructor <;> simp [values, valueFor?, parsed, Except.toOption]
      | filter =>
          simp only [Group.apply, Arguments.set] at read
          cases parsed : filterOf? value with
          | error fault => simp [parsed, Except.map] at read
          | ok filter =>
              simp only [parsed, Except.map, Except.ok.injEq] at read
              cases read
              constructor <;> simp [values, valueFor?, parsed, Except.toOption]

end Group

theorem ofWords?_line_cons (g : Group) (r : List Group) : ofWords? (Group.line (g :: r)) =
    (g.apply {}).bind fun x => (ofWords? (Group.line r)).map x.merge :=
  ofWords?_group g (Group.line r)

theorem exists_ofWords?_line {groups : List Group} (complete : ∀ g ∈ groups, g.Complete) :
    ∃ x, ofWords? (Group.line groups) = .ok x := by
  induction groups with
  | nil => exact ⟨{}, rfl⟩
  | cons g r ih =>
      obtain ⟨here, others⟩ := List.forall_mem_cons.mp complete
      obtain ⟨x, first⟩ := g.complete_iff.mp here
      obtain ⟨y, rest⟩ := ih others
      refine ⟨x.merge y, ?_⟩
      rw [ofWords?_line_cons, first, rest]
      rfl

/-- Groups that are accepted give the last value of each option and all filters. -/
theorem gathers {groups : List Group} :
    ∀ {x : Arguments}, ofWords? (Group.line groups) = .ok x → Group.Gathers groups x := by
  induction groups with
  | nil =>
      intro x accepted
      cases accepted
      exact Group.gathers_nil
  | cons g r ih =>
      intro x accepted
      rw [ofWords?_line_cons] at accepted
      cases first : g.apply {} with
      | error fault =>
          rw [first] at accepted
          cases accepted
      | ok y =>
          rw [first] at accepted
          cases rest : ofWords? (Group.line r) with
          | error fault =>
              rw [rest] at accepted
              cases accepted
          | ok z =>
              rw [rest] at accepted
              cases accepted
              exact (Group.gathers_single first).merge (ih rest)

/-! ## Composition -/

/-- What a command comes to, alone and with another one behind it. -/
structure Composes (a b : List String) : Prop where
  /-- Behind an accepted command another one is refused for the fault that it has alone. -/
  refused : ∀ x, ofWords? a = .ok x → ∀ fault,
    ofWords? (a ++ b) = .error fault ↔ ofWords? b = .error fault
  /-- Else the two are merged. -/
  merged : ∀ x y, ofWords? a = .ok x → ofWords? b = .ok y → ofWords? (a ++ b) = .ok (x.merge y)
  accepted : (∃ x, ofWords? a = .ok x) ↔
    ∃ groups, a = Group.line groups ∧ ∀ g ∈ groups, g.Complete
  gathered : ∀ groups x, a = Group.line groups → ofWords? a = .ok x → Group.Gathers groups x

/-- **Commands are sequences of complete groups, and one after the other they merge.** -/
theorem ofWords?_composes (a b : List String) : Composes a b where
  refused x accepted fault := by
    rw [ofWords?_append accepted]
    cases ofWords? b <;> simp [Except.map]
  merged x y accepted accepted' := by
    rw [ofWords?_append accepted, accepted']
    rfl
  accepted := by
    constructor
    · rintro ⟨x, accepted⟩
      exact exists_groups accepted
    · rintro ⟨groups, rfl, complete⟩
      exact exists_ofWords?_line complete
  gathered groups x line accepted := gathers (line ▸ accepted)

/-- Words that look like options are values where a value is due, and the last value counts. -/
example : ofWords? (["--base", "--mode", "--filter", "cost=>=1"] ++
      ["--detail", "--base", "--detail", "--filter", "name=a=b"]) =
    .ok { base? := some "--detail", detail := true,
          filters := [("cost", ">=1"), ("name", "a=b")] } := by
  rfl

end Leaderboard.Arguments
