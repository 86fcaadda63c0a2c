/-
# Leaderboard.Proofs.FilterHistory — what is left of all that was typed into the columns

Filters are typed one text after the other. Of a history of typing, the last text for each key is
left (`mem_after`), and what filters keep depends on these only: a row is kept when it satisfies on
its own each of the last texts that is not blank and stands under the key of a column
(`passes_after`). What is kept is so one conjunction over the history, and the order in which texts
are typed or rows are filtered cannot show in it.

Filters are kept in the order of their keys, each key once (`ascending_after`). So they are the
same filters where the last texts are the same (`after_congr`), and typing under two keys can be
done in either order.

A column that takes no filter is satisfied with every row.

* `filters_keep_last`: what a history of typing keeps.
-/
import Leaderboard.Table.Filter
import Mathlib.Data.List.DropRight

set_option autoImplicit false

namespace Leaderboard

/-! ## Blank ends of texts -/

namespace Text

theorem trimList_eq_nil_iff {cs : List Char} :
    trimList cs = [] ↔ cs.all isBlank = true := by
  have ends : trimList cs = (cs.dropWhile isBlank).rdropWhile isBlank := rfl
  rw [ends, List.rdropWhile_eq_nil_iff, List.all_eq_true]
  constructor
  · intro rest
    have none : cs.dropWhile isBlank = [] := by
      cases left : cs.dropWhile isBlank with
      | nil => rfl
      | cons c r =>
          have first := List.head?_dropWhile_not isBlank cs
          rw [left] at first rest
          have kept : isBlank c = false := first
          rw [rest c List.mem_cons_self] at kept
          cases kept
    exact List.dropWhile_eq_nil_iff.mp none
  · intro blank c mem
    rw [List.dropWhile_eq_nil_iff.mpr blank] at mem
    cases mem

theorem trimList_trimList (cs : List Char) : trimList (trimList cs) = trimList cs := by
  have ends : trimList cs = (cs.dropWhile isBlank).rdropWhile isBlank := rfl
  apply trimList_of_ends
  · intro c first
    obtain ⟨r, whole⟩ : trimList cs <+: cs.dropWhile isBlank := List.rdropWhile_prefix _ _
    have kept := List.head?_dropWhile_not isBlank cs
    rw [← whole, List.head?_append, first] at kept
    exact kept
  · intro c last
    rw [ends] at last
    obtain ⟨nonempty, rfl⟩ := List.mem_getLast?_eq_getLast last
    exact Bool.eq_false_iff.mpr (List.rdropWhile_last_not _ _ nonempty)

theorem trim_trim (s : String) : trim (trim s) = trim s := by
  unfold trim
  rw [String.toList_ofList, trimList_trimList]

/-- What is left of a text without the blanks at its ends is empty when it is blank. -/
theorem nonempty?_trim (s : String) :
    nonempty? (trim s) = if isBlankText s then none else some (trim s) := by
  have empty : (trim s).isEmpty = isBlankText s := by
    rw [Bool.eq_iff_iff, String.isEmpty_iff, isBlankText, ← trimList_eq_nil_iff]
    unfold trim
    rw [← String.toList_eq_nil_iff, String.toList_ofList]
  rw [nonempty?, empty]

end Text

/-! ## One text for each key -/

namespace Filters

/-- The keys of the filters, each of them once, are in their order. -/
def Ascending (f : Filters) : Prop := f.entries.Pairwise (·.1 < ·.1)

/-- A text is set between the texts under smaller keys and those under larger keys. -/
theorem setIn_between {l : List (String × String)} (ascending : l.Pairwise (·.1 < ·.1))
    (key text : String) : ∃ front back, setIn key text l = front ++ (key, text) :: back ∧
      (front ++ back).Sublist l ∧ (∀ e ∈ front, e.1 < key) ∧ (∀ e ∈ back, key < e.1) ∧
        ∀ e ∈ l, e.1 ≠ key → e ∈ front ++ back := by
  induction l with
  | nil => exact ⟨[], [], rfl, .refl _, nofun, nofun, nofun⟩
  | cons first r ih =>
      obtain ⟨k, t⟩ := first
      obtain ⟨before, rest⟩ := List.pairwise_cons.mp ascending
      unfold setIn
      split
      · rename_i same
        subst same
        refine ⟨[], r, rfl, List.sublist_cons_self _ _, nofun, before, ?_⟩
        intro e mem ne
        exact (List.mem_cons.mp mem).resolve_left fun same => ne (congrArg Prod.fst same)
      split
      · rename_i less
        refine ⟨[], (k, t) :: r, rfl, .refl _, nofun, ?_, fun _ mem _ => mem⟩
        exact List.forall_mem_cons.mpr ⟨less, fun e mem => String.lt_trans less (before e mem)⟩
      · rename_i apart from_k
        have less : k < key :=
          Std.lt_of_le_of_ne (String.not_lt.mp from_k) fun same => apart same.symm
        obtain ⟨front, back, split, sublist, smaller, larger, all⟩ := ih rest
        refine ⟨(k, t) :: front, back, by rw [split]; rfl, sublist.cons_cons _, ?_, larger, ?_⟩
        · exact List.forall_mem_cons.mpr ⟨less, smaller⟩
        · intro e mem ne
          rcases List.mem_cons.mp mem with rfl | later
          · exact List.mem_cons_self
          · exact List.mem_cons_of_mem _ (all e later ne)

variable {f g : Filters} {key text : String} {e : String × String}

theorem Ascending.set (ascending : f.Ascending) : (f.set key text).Ascending := by
  obtain ⟨front, back, split, sublist, smaller, larger, -⟩ := setIn_between ascending key text
  obtain ⟨first, last, -⟩ := List.pairwise_append.mp (List.Pairwise.sublist sublist ascending)
  unfold Ascending Filters.set
  rw [split, List.pairwise_append, List.pairwise_cons]
  refine ⟨first, ⟨larger, last⟩, ?_⟩
  intro e he e' he'
  rcases List.mem_cons.mp he' with rfl | behind
  · exact smaller e he
  · exact String.lt_trans (smaller e he) (larger e' behind)

theorem Ascending.mem_set (ascending : f.Ascending) :
    e ∈ (f.set key text).entries ↔ e = (key, text) ∨ e ∈ f.entries ∧ e.1 ≠ key := by
  obtain ⟨front, back, split, sublist, smaller, larger, all⟩ := setIn_between ascending key text
  have entries : (f.set key text).entries = front ++ (key, text) :: back := split
  rw [entries, List.mem_append, List.mem_cons]
  constructor
  · rintro (before | here | behind)
    · exact .inr ⟨sublist.mem (List.mem_append_left _ before), String.ne_of_lt (smaller e before)⟩
    · exact .inl here
    · exact .inr ⟨sublist.mem (List.mem_append_right _ behind),
        (String.ne_of_lt (larger e behind)).symm⟩
  · rintro (here | ⟨mem, ne⟩)
    · exact .inr (.inl here)
    · exact (List.mem_append.mp (all e mem ne)).imp id .inr

/-- Filters are known by their texts. -/
theorem Ascending.ext (hf : f.Ascending) (hg : g.Ascending)
    (same : ∀ e, e ∈ f.entries ↔ e ∈ g.entries) : f = g := by
  have distinct : ∀ {f : Filters}, f.Ascending → f.entries.Nodup := by
    intro f ascending
    refine ascending.imp ?_
    rintro e e' less rfl
    exact String.lt_irrefl _ less
  have perm := (List.perm_ext_iff_of_nodup (distinct hf) (distinct hg)).mpr same
  have entries : f.entries = g.entries := by
    refine perm.eq_of_pairwise ?_ hf hg
    intro e e' _ _ less more
    exact absurd more (String.lt_asymm less)
  cases f
  cases g
  exact congrArg Filters.mk entries

/-! ## What is left of a history -/

/-- The filters after a history of texts typed under their keys. -/
def after (history : List (String × String)) : Filters :=
  history.foldl (fun f call => f.set call.1 call.2) {}

theorem after_concat (history : List (String × String)) (call : String × String) :
    after (history ++ [call]) = (after history).set call.1 call.2 := by
  unfold after
  rw [List.foldl_append]
  rfl

end Filters

open Leaderboard.Filters (after)

/-- The text typed last under a key. -/
def lastText? (history : List (String × String)) (key : String) : Option String :=
  history.reverse.lookup key

section LastTexts

variable {history other : List (String × String)} {key : String}

theorem lastText?_append (history later : List (String × String)) (key : String) :
    lastText? (history ++ later) key = (lastText? later key).or (lastText? history key) := by
  unfold lastText?
  rw [List.reverse_append, List.lookup_append]

theorem lastText?_singleton (call : String × String) (key : String) :
    lastText? [call] key = if key = call.1 then some call.2 else none := by
  unfold lastText?
  rw [List.reverse_singleton, List.lookup_cons]
  split <;> simp_all

/-- Without the texts under a key, no text is left for it and all for the other keys. -/
theorem lastText?_filter_ne (history : List (String × String)) (gone key : String) :
    lastText? (history.filter (·.1 != gone)) key =
      if key = gone then none else lastText? history key := by
  induction history using List.reverseRecOn with
  | nil => split <;> rfl
  | append_singleton history call ih =>
      rw [List.filter_append, lastText?_append, lastText?_append, ih]
      obtain ⟨k, t⟩ := call
      by_cases dropped : k = gone <;> by_cases asked : key = gone
      · simp [dropped, asked, lastText?]
      · simp [dropped, asked, lastText?]
      · simp [dropped, asked, lastText?_singleton, Ne.symm dropped]
      · simp [dropped, asked]

namespace Filters

theorem ascending_after (history : List (String × String)) : (after history).Ascending := by
  induction history using List.reverseRecOn with
  | nil => exact List.Pairwise.nil
  | append_singleton history call ih =>
      rw [after_concat]
      exact ih.set

/-- Filters hold the last text for each key. -/
theorem mem_after {e : String × String} :
    e ∈ (after history).entries ↔ lastText? history e.1 = some e.2 := by
  induction history using List.reverseRecOn with
  | nil => simp [after, lastText?]
  | append_singleton history call ih =>
      rw [after_concat, (ascending_after history).mem_set, ih, lastText?_append,
        lastText?_singleton]
      obtain ⟨k, t⟩ := call
      obtain ⟨key, text⟩ := e
      by_cases same : key = k
      · simp [same, eq_comm]
      · simp [same]

theorem after_congr (same : ∀ key, lastText? history key = lastText? other key) :
    after history = after other := by
  apply (ascending_after history).ext (ascending_after other)
  intro e
  rw [mem_after, mem_after, same]

/-- Typing under two keys can be done in either order. -/
theorem after_swap (history : List (String × String)) {first second : String × String}
    (apart : first.1 ≠ second.1) (later : List (String × String)) :
    after (history ++ first :: second :: later) = after (history ++ second :: first :: later) := by
  apply after_congr
  intro key
  have split : ∀ a b : String × String, lastText? (history ++ a :: b :: later) key =
      ((lastText? later key).or (lastText? [b] key)).or
        ((lastText? [a] key).or (lastText? history key)) := by
    intro a b
    rw [lastText?_append, ← List.singleton_append, lastText?_append, ← List.singleton_append,
      lastText?_append, Option.or_assoc]
  rw [split, split, lastText?_singleton, lastText?_singleton]
  by_cases at_first : key = first.1
  · have other : key ≠ second.1 := fun at_second => apart (at_first.symm.trans at_second)
    rw [if_pos at_first, if_neg other]
    simp
  · rw [if_neg at_first, Option.none_or, Option.or_none, Option.or_assoc]

end Filters

end LastTexts

/-! ## Constraints -/

/-- What constrains rows in a history: a text that is the last one for its key, is not blank, and
stands under the key of a column. -/
def constraining (columns : List Column) (history : List (String × String)) :
    List (String × String) :=
  history.filter fun call => lastText? history call.1 == some call.2 &&
    !Text.isBlankText call.2 && (findColumn? columns call.1).isSome

/-- Whether a row satisfies on its own a text that is typed under a key. A column that takes no
filter is satisfied with every row. -/
def Row.satisfies (columns : List Column) (r : Row) (call : String × String) : Bool :=
  ((findColumn? columns call.1).filter (·.filterable)).all fun column =>
    (Condition.ofText column.kind call.2).accepts (r.get call.1) r.source

/-- Blanks around a text do not count. -/
theorem Condition.accepts_trim (kind : ColumnKind) (text : String) (c : Cell) (source : String) :
    (Condition.ofText kind (Text.trim text)).accepts c source =
      (Condition.ofText kind text).accepts c source := by
  unfold Condition.ofText
  split
  · unfold NumberQuery.ofText
    rw [Text.trim_trim]
  · show textAccepts (Text.trim text) c source = textAccepts text c source
    unfold textAccepts
    rw [Text.trim_trim]

section

variable {columns : List Column} {history : List (String × String)} {r : Row}

theorem mem_constraining {call : String × String} : call ∈ constraining columns history ↔
    lastText? history call.1 = some call.2 ∧ Text.isBlankText call.2 = false ∧
      (findColumn? columns call.1).isSome = true := by
  have typed : lastText? history call.1 = some call.2 → call ∈ history := by
    intro last
    obtain ⟨front, back, whole, -⟩ := List.lookup_eq_some_iff.mp last
    rw [← List.mem_reverse, whole]
    exact List.mem_append_right front List.mem_cons_self
  unfold constraining
  rw [List.mem_filter]
  simp only [Bool.and_eq_true, beq_iff_eq, Bool.not_eq_true']
  grind

/-- A row passes filters when it satisfies each text that is not blank. -/
theorem passes_constraints (columns : List Column) (f : Filters) (r : Row) :
    r.passes (constraints columns f) =
      f.entries.all fun e => Text.isBlankText e.2 || r.satisfies columns e := by
  unfold Row.passes constraints Filters.active
  rw [List.filterMap_filterMap, List.all_filterMap]
  apply congrArg (List.all f.entries)
  funext e
  rw [Text.nonempty?_trim]
  cases blank : Text.isBlankText e.2 with
  | true => rfl
  | false =>
      rw [if_neg Bool.false_ne_true, Option.map_some, Option.bind_some, Bool.false_or]
      unfold constraint? Row.satisfies
      cases (findColumn? columns e.1).filter (·.filterable) with
      | none => rfl
      | some column => exact Condition.accepts_trim column.kind e.2 (r.get e.1) r.source

/-- **A row passes what is left of a history when it satisfies all last texts.** -/
theorem passes_after : r.passes (constraints columns (after history)) = true ↔
    ∀ call, lastText? history call.1 = some call.2 → Text.isBlankText call.2 = false →
      r.satisfies columns call = true := by
  rw [passes_constraints, List.all_eq_true]
  simp only [Filters.mem_after, Bool.or_eq_true]
  apply forall_congr'
  intro call
  cases Text.isBlankText call.2 <;> simp

theorem passes_eq_constraining : r.passes (constraints columns (after history)) =
    (constraining columns history).all (r.satisfies columns) := by
  rw [Bool.eq_iff_iff, passes_after, List.all_eq_true]
  constructor
  · intro all call mem
    obtain ⟨last, written, -⟩ := mem_constraining.mp mem
    exact all call last written
  · intro all call last written
    cases found : findColumn? columns call.1 with
    | none =>
        unfold Row.satisfies
        rw [found]
        rfl
    | some column =>
        apply all call
        rw [mem_constraining, found]
        exact ⟨last, written, rfl⟩

theorem filterRows_one (columns : List Column) (call : String × String) (rows : List Row) :
    filterRows columns (after [call]) rows =
      rows.filter fun r => Text.isBlankText call.2 || r.satisfies columns call := by
  apply List.filter_congr
  intro r _
  rw [passes_constraints]
  exact Bool.and_true _

/-- Filtering by texts one at a time keeps the rows that satisfy all that are not blank. -/
theorem foldl_filterRows (columns : List Column) (order : List (String × String))
    (rows : List Row) :
    order.foldl (fun kept call => filterRows columns (after [call]) kept) rows =
      rows.filter fun r => order.all fun call =>
        Text.isBlankText call.2 || r.satisfies columns call := by
  induction order generalizing rows with
  | nil => simp
  | cons call order ih =>
      rw [List.foldl_cons, ih, filterRows_one, List.filter_filter]
      apply List.filter_congr
      intro r _
      rw [List.all_cons, Bool.and_comm]

/-! ## What is kept -/

theorem filterRows_after (columns : List Column) (history : List (String × String))
    (rows : List Row) : filterRows columns (after history) rows =
      rows.filter fun r => (constraining columns history).all (r.satisfies columns) := by
  apply List.filter_congr
  intro r _
  exact passes_eq_constraining

/-- One constraint after the other keeps what all of them keep at once. -/
theorem foldl_constraining {order : List (String × String)}
    (listed : ∀ call, call ∈ order ↔ call ∈ constraining columns history) (rows : List Row) :
    order.foldl (fun kept call => filterRows columns (after [call]) kept) rows =
      filterRows columns (after history) rows := by
  rw [foldl_filterRows, filterRows_after]
  apply List.filter_congr
  intro r _
  rw [Bool.eq_iff_iff, List.all_eq_true, List.all_eq_true]
  apply forall_congr'
  intro call
  rw [listed]
  apply imp_congr_right
  intro mem
  obtain ⟨-, written, -⟩ := mem_constraining.mp mem
  rw [written, Bool.false_or]

/-- A key whose last text is blank can be left out of a history. -/
theorem filterRows_filter_ne {key text : String} (last : lastText? history key = some text)
    (blank : Text.isBlankText text = true) (rows : List Row) :
    filterRows columns (after history) rows =
      filterRows columns (after (history.filter (·.1 != key))) rows := by
  apply List.filter_congr
  intro r _
  rw [Bool.eq_iff_iff, passes_after, passes_after]
  apply forall_congr'
  intro call
  rw [lastText?_filter_ne]
  by_cases same : call.1 = key
  · rw [if_pos same, same, last]
    constructor
    · rintro - none
      cases none
    · intro _ written
      rw [← Option.some.inj written, blank]
      rintro ⟨⟩
  · rw [if_neg same]

/-- A text under a key that is free only adds a condition. -/
theorem filterRows_concat_sublist {call : String × String}
    (free : ∀ text, lastText? history call.1 = some text → Text.isBlankText text = true)
    (rows : List Row) : (filterRows columns (after (history ++ [call])) rows).Sublist
      (filterRows columns (after history) rows) := by
  have narrower : ∀ r : Row, r.passes (constraints columns (after (history ++ [call]))) = true →
      r.passes (constraints columns (after history)) = true := by
    intro r
    rw [passes_after, passes_after]
    intro all old last written
    have apart : old.1 ≠ call.1 := by
      intro same
      rw [free old.2 (same ▸ last)] at written
      cases written
    apply all old
    · rw [lastText?_append, lastText?_singleton, if_neg apart]
      exact last
    · exact written
  have again : filterRows columns (after (history ++ [call])) rows =
      (filterRows columns (after history) rows).filter
        (·.passes (constraints columns (after (history ++ [call])))) := by
    unfold filterRows
    rw [List.filter_filter]
    apply List.filter_congr
    intro r _
    rw [Bool.eq_iff_iff, Bool.and_eq_true]
    exact ⟨fun passes => ⟨passes, narrower r passes⟩, And.left⟩
  rw [again]
  exact List.filter_sublist

/-- What filters keep that were typed in a history. -/
structure KeepsLast (columns : List Column) (history : List (String × String)) : Prop where
  /-- They keep, in their order, the rows that satisfy each constraint on its own. -/
  rows : ∀ rows : List Row, filterRows columns (after history) rows =
    rows.filter fun r => (constraining columns history).all (r.satisfies columns)
  /-- That is what a constraint keeps when nothing else is typed. -/
  alone : ∀ call ∈ constraining columns history, ∀ rows : List Row,
    filterRows columns (after [call]) rows = rows.filter (·.satisfies columns call)
  /-- So rows can be filtered by one constraint after the other, in any order. -/
  oneByOne : ∀ order : List (String × String),
    (∀ call, call ∈ order ↔ call ∈ constraining columns history) → ∀ rows : List Row,
      order.foldl (fun kept call => filterRows columns (after [call]) kept) rows =
        filterRows columns (after history) rows
  /-- Texts under two keys can be typed in either order, whatever is typed later. -/
  commute : ∀ (first second : String × String) (later : List (String × String)),
    first.1 ≠ second.1 →
      after (history ++ first :: second :: later) = after (history ++ second :: first :: later)
  /-- A blank text is as good as none ever typed under its key. -/
  blank : ∀ key text, lastText? history key = some text → Text.isBlankText text = true →
    ∀ rows : List Row, filterRows columns (after history) rows =
      filterRows columns (after (history.filter (·.1 != key))) rows
  /-- A text under a key that constrains nothing yet only removes rows. -/
  further : ∀ call : String × String,
    (∀ text, lastText? history call.1 = some text → Text.isBlankText text = true) →
      ∀ rows : List Row, (filterRows columns (after (history ++ [call])) rows).Sublist
        (filterRows columns (after history) rows)

/-- **Filters keep the rows that satisfy the last texts typed.** -/
theorem filters_keep_last (columns : List Column) (history : List (String × String)) :
    KeepsLast columns history where
  rows := filterRows_after columns history
  alone call mem rows := by
    obtain ⟨-, written, -⟩ := mem_constraining.mp mem
    rw [filterRows_one, written]
    rfl
  oneByOne _ listed := foldl_constraining listed
  commute _ _ later apart := Filters.after_swap history apart later
  blank _ _ last blank := filterRows_filter_ne last blank
  further _ free := filterRows_concat_sublist free

/-- A blank text takes back what was typed; without a column a text constrains nothing. -/
example : constraining [{ key := "cost", label := "Cost", kind := .currency },
      { key := "name", label := "Name", kind := .text }]
    [("cost", ">2"), ("name", "pix"), ("org", "acme"), ("cost", "\t ")] = [("name", "pix")] := by
  decide +kernel

end

end Leaderboard
