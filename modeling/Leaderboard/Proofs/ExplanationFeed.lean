/-
# Leaderboard.Proofs.ExplanationFeed — what the explanation feed tells

Below its heading the feed is read line by line (`ofText_joined`). Where a line ends has nothing to
do with the quotes in it, and what it tells has nothing to do with the other lines. Both ways to
end a line come to the same: a carriage return behind a line belongs to its last field
(`fields_return`), where it is blank. Blank lines count only in that none of them is the heading.

A line of one of the usual kinds tells what was written on it (`Tells.entryOf?`, `Silent.entryOf?`).
Between quotes this is the reading of written fields; without quotes the commas of an explanation
part it, and it is put together again by commas (`intercalate_fieldsFrom`).

The entries are read from the last to the first, so of all lines with one identifier the last is
found (`get?_eq_some_iff`), and what is read from lines put together comes from the parts
(`get?_below_append`).

* `ofText_feed`: the explanations that a feed tells, and how far one line of any kind reaches.
-/
import Leaderboard.Proofs.QuotedFields

set_option autoImplicit false

namespace Leaderboard.Feed

open Leaderboard.Text (isBlank isBlankText trim)

/-! ## Lines and how they end -/

/-- The two ways to end a line. -/
inductive Ending where
  | feed
  | returnFeed
deriving DecidableEq, Repr

def Ending.chars : Ending → List Char
  | .feed => ['\n']
  | .returnFeed => ['\r', '\n']

/-- A line and its end. -/
structure EndedLine where
  text : String
  ending : Ending
  single : '\n' ∉ text.toList

def EndedLine.chars (l : EndedLine) : List Char := l.text.toList ++ l.ending.chars

/-- Lines written one after the other. -/
def joined (ls : List EndedLine) : String := String.ofList (ls.flatMap EndedLine.chars)

/-- A line as it is read: it may lack a carriage return at the end of what was written. -/
def ReadAs (text line : String) : Prop := line = text ∨ text = line ++ "\r"

theorem linesFrom_append {cs : List Char} (single : '\n' ∉ cs) (current rest : List Char) :
    linesFrom current (cs ++ rest) = linesFrom (cs.reverse ++ current) rest := by
  induction cs generalizing current with
  | nil => rfl
  | cons c r ih =>
    rw [List.mem_cons, not_or] at single
    have within : linesFrom current (c :: (r ++ rest)) = linesFrom (c :: current) (r ++ rest) := by
      rw [linesFrom]
      exact fun e => single.1 e.symm
    rw [List.cons_append, within, ih single.2, List.reverse_cons, List.append_assoc,
      List.singleton_append]

/-- A carriage return before a line feed belongs to the end of the line. -/
theorem linesFrom_feed (current rest : List Char) : ∃ line,
    ReadAs (String.ofList current.reverse) (String.ofList line) ∧
      linesFrom current ('\n' :: rest) = line :: linesFrom [] rest := by
  by_cases returned : ∃ ds, current = '\r' :: ds
  · obtain ⟨ds, rfl⟩ := returned
    refine ⟨ds.reverse, .inr ?_, rfl⟩
    rw [List.reverse_cons, String.ofList_append]
  · refine ⟨current.reverse, .inl rfl, ?_⟩
    rw [linesFrom]
    exact fun ds e => returned ⟨ds, e⟩

theorem linesFrom_ended (l : EndedLine) (rest : List Char) : ∃ line,
    ReadAs l.text (String.ofList line) ∧
      linesFrom [] (l.chars ++ rest) = line :: linesFrom [] rest := by
  rw [EndedLine.chars, List.append_assoc, linesFrom_append l.single, List.append_nil]
  cases l.ending with
  | feed =>
    obtain ⟨line, same, read⟩ := linesFrom_feed l.text.toList.reverse rest
    exact ⟨line, by rwa [List.reverse_reverse, String.ofList_toList] at same, read⟩
  | returnFeed =>
    refine ⟨l.text.toList, .inl String.ofList_toList, ?_⟩
    change linesFrom ('\r' :: l.text.toList.reverse) ('\n' :: rest) = _
    rw [linesFrom, List.reverse_reverse]

theorem lines_joined (l : EndedLine) (ls : List EndedLine) : ∃ line, ReadAs l.text line ∧
    lines (joined (l :: ls)) = line :: lines (joined ls) := by
  obtain ⟨line, same, read⟩ := linesFrom_ended l (ls.flatMap EndedLine.chars)
  refine ⟨String.ofList line, same, ?_⟩
  unfold lines joined
  rw [String.toList_ofList, String.toList_ofList, List.flatMap_cons, read, List.map_cons]

/-! ## A carriage return behind a line -/

/-- A carriage return behind a line belongs to its last field. -/
theorem fieldsFrom_return (quoted : Bool) (current cs : List Char) : ∃ front last,
    fieldsFrom quoted current cs = front ++ [last] ∧
      fieldsFrom quoted current (cs ++ ['\r']) = front ++ [last ++ ['\r']] := by
  fun_induction fieldsFrom quoted current cs with
  | case1 quoted current =>
    refine ⟨[], current.reverse, rfl, ?_⟩
    rw [List.nil_append, fieldsFrom_other (by decide) (fun e => absurd e (by decide))]
    exact congrArg (· :: []) List.reverse_cons
  | case2 current r ih => exact ih
  | case3 current d q other ih =>
    rw [List.cons_append, fieldsFrom_close (by simpa using other)]
    exact ih
  | case4 current ih => exact ih
  | case5 current r ih => exact ih
  | case6 quoted current c r mark outside ih =>
    obtain ⟨rfl, outside⟩ := outside
    obtain rfl : quoted = false := by simpa using outside
    obtain ⟨front, last, read, longer⟩ := ih
    refine ⟨current.reverse :: front, last, by rw [read]; rfl, ?_⟩
    rw [List.cons_append, fieldsFrom_comma, longer]
    rfl
  | case7 quoted current c r mark inside ih =>
    rw [List.cons_append, fieldsFrom_other mark (fun e => by simpa [e] using inside)]
    exact ih

theorem fields_return (line : String) : ∃ front last,
    fields line = front ++ [last] ∧ fields (line ++ "\r") = front ++ [last ++ "\r"] := by
  obtain ⟨front, last, read, longer⟩ := fieldsFrom_return false [] line.toList
  refine ⟨front.map String.ofList, String.ofList last, ?_, ?_⟩
  · rw [fields, read, List.map_append, List.map_singleton]
  · rw [fields, String.toList_append]
    change (fieldsFrom false [] (line.toList ++ ['\r'])).map String.ofList = _
    rw [longer, List.map_append, List.map_singleton, String.ofList_append]

theorem isBlankText_return (s : String) : isBlankText (s ++ "\r") = isBlankText s := by
  have blank : isBlank '\r' = true := by decide
  simp [isBlankText, blank]

theorem trim_return (s : String) : trim (s ++ "\r") = trim s := by
  have blank : ∀ c ∈ ['\r'], isBlank c = true := List.forall_mem_singleton.mpr (by decide)
  have padded := Text.trimList_padded (List.forall_mem_nil _) blank s.toList
  rw [trim, String.toList_append]
  exact congrArg String.ofList padded

theorem ReadAs.isBlankText {text line : String} (read : ReadAs text line) :
    isBlankText line = isBlankText text := by
  rcases read with rfl | rfl
  · rfl
  · exact (isBlankText_return line).symm

/-- What stands last among texts put together ends the whole. -/
theorem intercalate_concat_append (front : List String) (last mark : String) :
    ",".intercalate (front ++ [last ++ mark]) = ",".intercalate (front ++ [last]) ++ mark := by
  by_cases alone : front = []
  · rw [alone, List.nil_append, List.nil_append, String.intercalate_singleton,
      String.intercalate_singleton]
  · rw [String.intercalate_append_of_ne_nil alone (List.cons_ne_nil _ _),
      String.intercalate_append_of_ne_nil alone (List.cons_ne_nil _ _),
      String.intercalate_singleton, String.intercalate_singleton, String.append_assoc,
      String.append_assoc, String.append_assoc]

namespace Explanations

theorem entryOf?_return (line : String) : entryOf? (line ++ "\r") = entryOf? line := by
  obtain ⟨front, last, read, longer⟩ := fields_return line
  rw [entryOf?, entryOf?, read, longer]
  cases front with
  | nil =>
    simp only [List.nil_append, isBlankText_return, trim_return]
  | cons uid front =>
    simp only [List.cons_append, intercalate_concat_append, trim_return]

theorem entryOf?_readAs {text line : String} (read : ReadAs text line) :
    entryOf? line = entryOf? text := by
  rcases read with rfl | rfl
  · rfl
  · exact (entryOf?_return line).symm

/-- A line whose first field is blank tells nothing. -/
theorem entryOf?_nameless {line first : String} {others : List String}
    (starts : fields line = first :: others) (blank : isBlankText first = true) :
    entryOf? line = none := by
  rw [entryOf?, starts]
  exact if_pos blank

/-- A blank line is its own first field. -/
theorem entryOf?_blank {line : String} (blank : isBlankText line = true) :
    entryOf? line = none := by
  have other : ∀ c, isBlank c = false → c ∉ line.toList := by
    intro c solid mem
    rw [List.all_eq_true.mp blank c mem] at solid
    cases solid
  have whole : fields line = [line] := by
    have read : fieldsFrom false [] (line.toList ++ []) = [line.toList.reverse.reverse] :=
      fieldsFrom_written (.bare (other ',' (by decide)) (other '"' (by decide))) (by simp)
    rw [List.append_nil, List.reverse_reverse] at read
    rw [fields, read, List.map_singleton, String.ofList_toList]
  exact entryOf?_nameless whole blank

/-- What the lines below the heading tell is told by each of them alone. -/
theorem entries_ofText_below (ls : List EndedLine) :
    ((lines (joined ls)).filter fun line => !isBlankText line).filterMap entryOf? =
      ls.filterMap fun l => entryOf? l.text := by
  induction ls with
  | nil => rfl
  | cons l ls ih =>
    obtain ⟨line, read, split⟩ := lines_joined l ls
    rw [split, List.filterMap_cons, ← entryOf?_readAs read, ← ih]
    cases blank : isBlankText line with
    | true => simp [blank, entryOf?_blank blank]
    | false =>
      rw [List.filter_cons_of_pos (by rw [blank]; rfl), List.filterMap_cons]

theorem ofText_joined {heading : EndedLine} (headed : isBlankText heading.text = false)
    (ls : List EndedLine) :
    ofText (joined (heading :: ls)) = ⟨ls.filterMap fun l => entryOf? l.text⟩ := by
  obtain ⟨line, read, split⟩ := lines_joined heading ls
  have kept : isBlankText line = false := read.isBlankText.trans headed
  rw [ofText, split, List.filter_cons_of_pos (by rw [kept]; rfl), ← entries_ofText_below]
  rfl

/-! ## Kinds of lines -/

/-- A line that tells the explanation of a prompt: both between quotes, or both as they are. The
second field has no quotes then, and may have commas. -/
inductive Tells : (line uid text : String) → Prop where
  | quoted {uid : String} (named : isBlankText uid = false) (text : String) :
      Tells (quote uid ++ "," ++ quote text) (trim uid) (trim text)
  | bare {uid text : String} (named : isBlankText uid = false) (comma : ',' ∉ uid.toList)
      (mark : '"' ∉ uid.toList) (mark' : '"' ∉ text.toList) :
      Tells (uid ++ "," ++ text) (trim uid) (trim text)

/-- A line that is blank, or whose first field is. -/
inductive Silent : (line : String) → Prop where
  | blank {line : String} (blank : isBlankText line = true) : Silent line
  | nameless {line first : String} {others : List String} (starts : fields line = first :: others)
      (blank : isBlankText first = true) : Silent line

theorem entryOf?_named {line uid : String} {others : List String}
    (read : fields line = uid :: others) (named : isBlankText uid = false) :
    entryOf? line = some (trim uid, trim (",".intercalate others)) := by
  rw [entryOf?, read]
  exact if_neg (by rw [named]; decide)

theorem Silent.entryOf? {line : String} (silent : Silent line) : entryOf? line = none := by
  cases silent with
  | blank blank => exact entryOf?_blank blank
  | nameless starts blank => exact entryOf?_nameless starts blank

/-- Fields without quotes are put together again by the commas that parted them. -/
theorem intercalate_fieldsFrom {cs : List Char} (mark : '"' ∉ cs) (current : List Char) :
    [','].intercalate (fieldsFrom false current cs) = current.reverse ++ cs := by
  induction cs generalizing current with
  | nil => exact List.intercalate_singleton.trans (List.append_nil _).symm
  | cons c r ih =>
    rw [List.mem_cons, not_or] at mark
    by_cases comma : c = ','
    · rw [comma, fieldsFrom_comma, List.intercalate_cons_of_ne_nil (fieldsFrom_ne_nil _ _ _),
        ih mark.2, List.reverse_nil, List.nil_append, List.append_assoc, List.singleton_append]
    · rw [fieldsFrom_other (Ne.symm mark.1) (fun e => absurd e comma), ih mark.2,
        List.reverse_cons, List.append_assoc, List.singleton_append]

theorem Tells.entryOf? {line uid text : String} (tells : Tells line uid text) :
    entryOf? line = some (uid, text) := by
  cases tells with
  | @quoted uid named text =>
    have read := fields_intercalate (.quoted uid) (.cons (.quoted text) .nil)
    rw [String.intercalate_cons_cons, String.intercalate_singleton] at read
    rw [entryOf?_named read named, String.intercalate_singleton]
  | @bare uid text named comma mark mark' =>
    have read : fields (uid ++ "," ++ text) =
        uid :: (fieldsFrom false [] text.toList).map String.ofList := by
      have plain : fieldsFrom false [] (uid.toList ++ ',' :: text.toList) =
          fieldsFrom false (uid.toList.reverse ++ []) (',' :: text.toList) :=
        fieldsFrom_plain comma mark
      have parts : (uid ++ "," ++ text).toList = uid.toList ++ ',' :: text.toList := by simp
      rw [fields, parts, plain, fieldsFrom_comma, List.append_nil, List.reverse_reverse,
        List.map_cons, String.ofList_toList]
    have whole : ",".intercalate ((fieldsFrom false [] text.toList).map String.ofList) = text := by
      rw [← String.toList_inj, String.toList_intercalate, List.map_map]
      simpa [Function.comp_def] using intercalate_fieldsFrom mark' []
    rw [entryOf?_named read named, whole]

/-! ## The last line counts -/

section Last

variable {α : Type} {f : α → Option (String × String)} {uid text : String}

theorem get?_toList (single : Option (String × String)) :
    get? ⟨single.toList⟩ uid = some text ↔ single = some (uid, text) := by
  cases single with
  | none => simp [get?]
  | some entry =>
    obtain ⟨key, told⟩ := entry
    by_cases same : uid = key
    · simp [get?, same]
    · have apart : (uid == key) = false := beq_eq_false_iff_ne.mpr same
      simp [get?, List.lookup_cons, apart, Ne.symm same]

theorem get?_eq_none_iff {items : List α} : get? ⟨items.filterMap f⟩ uid = none ↔
    ∀ item ∈ items, ∀ text, f item ≠ some (uid, text) := by
  unfold get?
  rw [List.lookup_eq_none_iff]
  constructor
  · intro none item mem text told
    have entry : (uid, text) ∈ (items.filterMap f).reverse :=
      List.mem_reverse.mpr (List.mem_filterMap.mpr ⟨item, mem, told⟩)
    simpa using none _ entry
  · rintro silent ⟨key, text⟩ entry
    obtain ⟨item, mem, told⟩ := List.mem_filterMap.mp (List.mem_reverse.mp entry)
    rw [bne_iff_ne]
    rintro rfl
    exact silent item mem text told

theorem get?_eq_some_iff {items : List α} : get? ⟨items.filterMap f⟩ uid = some text ↔
    ∃ before item after, items = before ++ item :: after ∧ f item = some (uid, text) ∧
      ∀ later ∈ after, ∀ other, f later ≠ some (uid, other) := by
  induction items with
  | nil => simp [get?]
  | cons item r ih =>
    have split : (item :: r).filterMap f = (f item).toList ++ r.filterMap f := by
      cases told : f item <;> simp [told]
    rw [split, get?_append, Option.or_eq_some_iff, ih, get?_eq_none_iff, get?_toList]
    constructor
    · rintro (⟨before, last, after, rfl, told, silent⟩ | ⟨silent, told⟩)
      · exact ⟨item :: before, last, after, rfl, told, silent⟩
      · exact ⟨[], item, r, rfl, told, silent⟩
    · rintro ⟨before, last, after, parts, told, silent⟩
      cases before with
      | nil =>
        obtain ⟨rfl, rfl⟩ := List.cons.inj parts
        exact .inr ⟨silent, told⟩
      | cons first before =>
        obtain ⟨rfl, rfl⟩ := List.cons.inj parts
        exact .inl ⟨before, last, after, rfl, told, silent⟩

end Last

/-- The identifier that stands on a line: its first field. -/
def ownUid (line : String) : String := trim ((fields line).headD "")

theorem ownUid_of_entryOf? {line uid text : String} (entry : entryOf? line = some (uid, text)) :
    uid = ownUid line := by
  unfold entryOf? at entry
  split at entry
  · cases entry
  · rename_i read
    split at entry
    · cases entry
    · cases entry
      rw [ownUid, read, List.headD_cons]

/-- What is read from the lines below a heading. -/
def below (heading : EndedLine) (ls : List EndedLine) : Explanations :=
  ofText (joined (heading :: ls))

/-- A line changes nothing in what is read from the lines around it but the explanation of its own
prompt, and that only if no later line tells one. -/
structure Confined (heading : EndedLine) (before : List EndedLine) (l : EndedLine)
    (after : List EndedLine) : Prop where
  elsewhere : ∀ uid, uid ≠ ownUid l.text →
    (below heading (before ++ l :: after)).get? uid = (below heading (before ++ after)).get? uid
  own : (below heading (before ++ l :: after)).get? (ownUid l.text) =
    ((below heading after).get? (ownUid l.text)).or
      (((below heading [l]).get? (ownUid l.text)).or ((below heading before).get? (ownUid l.text)))

section Below

variable {heading : EndedLine} (headed : isBlankText heading.text = false)
include headed

theorem get?_below_append (front back : List EndedLine) (uid : String) :
    (below heading (front ++ back)).get? uid =
      ((below heading back).get? uid).or ((below heading front).get? uid) := by
  unfold below
  rw [ofText_joined headed, ofText_joined headed, ofText_joined headed, List.filterMap_append,
    get?_append]

/-- A line tells of no prompt but its own. -/
theorem get?_below_single {l : EndedLine} {uid : String} (other : uid ≠ ownUid l.text) :
    (below heading [l]).get? uid = none := by
  rw [below, ofText_joined headed, get?_eq_none_iff]
  intro item mem text entry
  obtain rfl := List.mem_singleton.mp mem
  exact other (ownUid_of_entryOf? entry)

theorem confined (before : List EndedLine) (l : EndedLine) (after : List EndedLine) :
    Confined heading before l after where
  elsewhere uid other := by
    rw [List.append_cons, get?_below_append headed, get?_below_append headed before [l],
      get?_below_single headed other, Option.none_or, ← get?_below_append headed]
  own := by
    rw [List.append_cons, get?_below_append headed, get?_below_append headed before [l]]

/-- **What the explanation feed tells**, below a heading that is not blank.

Where every line tells the explanation of a prompt or is silent, the explanation of a prompt is that
of the last line that tells one, and there is none where no line does. And whatever a line is, with
quotes left open in it as well, it says nothing about a prompt but its own, and leaves what the
other lines say as it is. -/
theorem ofText_feed :
    (∀ ls : List EndedLine, (∀ l ∈ ls, Silent l.text ∨ ∃ uid text, Tells l.text uid text) →
      ∀ uid text, (below heading ls).get? uid = some text ↔
        ∃ before l after, ls = before ++ l :: after ∧ Tells l.text uid text ∧
          ∀ later ∈ after, ∀ other, ¬Tells later.text uid other) ∧
    ∀ before l after, Confined heading before l after := by
  refine ⟨?_, confined headed⟩
  intro ls regular uid text
  have told : ∀ l ∈ ls, ∀ uid text,
      entryOf? l.text = some (uid, text) ↔ Tells l.text uid text := by
    intro l mem uid text
    constructor
    · intro entry
      rcases regular l mem with silent | ⟨uid', text', tells⟩
      · rw [silent.entryOf?] at entry
        cases entry
      · rw [tells.entryOf?] at entry
        cases entry
        exact tells
    · exact Tells.entryOf?
  rw [below, ofText_joined headed, get?_eq_some_iff]
  constructor
  · rintro ⟨before, l, after, rfl, entry, silent⟩
    refine ⟨before, l, after, rfl, (told l (by simp) uid text).mp entry, ?_⟩
    intro later mem other tells
    exact silent later mem other ((told later (by simp [mem]) uid other).mpr tells)
  · rintro ⟨before, l, after, rfl, tells, silent⟩
    refine ⟨before, l, after, rfl, tells.entryOf?, ?_⟩
    intro later mem other entry
    exact silent later mem other ((told later (by simp [mem]) uid other).mp entry)

end Below

def toldHeading : EndedLine := ⟨"uid,explanation", .returnFeed, by decide⟩

/-- A prompt told twice, with spaces and with commas, one told between quotes, and two silent
lines. -/
def toldLines : List EndedLine :=
  [⟨"p2" ++ "," ++ " Tests  counting ", .feed, by decide⟩, ⟨" ", .returnFeed, by decide⟩,
    ⟨",orphan", .feed, by decide⟩,
    ⟨quote "p1" ++ "," ++ quote "a, \"b\"", .feed, by decide +kernel⟩,
    ⟨"p2 " ++ "," ++ "one,two", .returnFeed, by decide⟩]

/-- A line that opens a quote and does not close it. -/
def openLine : EndedLine := ⟨"p1,\"open", .feed, by decide⟩

theorem regular_toldLines :
    ∀ l ∈ toldLines, Silent l.text ∨ ∃ uid text, Tells l.text uid text := by
  have nameless : fields ",orphan" = ["", "orphan"] := by decide +kernel
  unfold toldLines
  simp only [List.forall_mem_cons]
  refine ⟨.inr ⟨_, _, .bare ?_ ?_ ?_ ?_⟩, .inl (.blank ?_), .inl (.nameless nameless ?_),
    .inr ⟨_, _, .quoted ?_ _⟩, .inr ⟨_, _, .bare ?_ ?_ ?_ ?_⟩, nofun⟩
  all_goals decide

theorem ofText_feed_told : isBlankText toldHeading.text = false ∧
    (∀ l ∈ toldLines, Silent l.text ∨ ∃ uid text, Tells l.text uid text) ∧
    (below toldHeading toldLines).get? "p2" = some "one,two" ∧
    (below toldHeading (toldLines ++ [openLine])).get? "p2" = some "one,two" := by
  have headed : isBlankText toldHeading.text = false := by decide
  have ⟨last, confined⟩ := ofText_feed headed
  have told : (below toldHeading toldLines).get? "p2" = some "one,two" := by
    refine (last toldLines regular_toldLines "p2" "one,two").mpr
      ⟨toldLines.take 4, ⟨"p2 " ++ "," ++ "one,two", .returnFeed, by decide⟩, [], rfl, ?_, nofun⟩
    exact .bare (by decide) (by decide) (by decide) (by decide)
  refine ⟨headed, regular_toldLines, told, ?_⟩
  rw [(confined toldLines openLine []).elsewhere "p2" (by decide +kernel), List.append_nil]
  exact told

end Explanations

end Leaderboard.Feed
