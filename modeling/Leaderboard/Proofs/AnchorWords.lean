/-
# Leaderboard.Proofs.AnchorWords — an anchor is the words of a slug, joined by dashes

The words of a text are its maximal runs of ASCII letters and digits (`Runs`). They are what is left
of the pieces between the other characters once the empty ones are dropped (`words`), and all that
is said about them here follows from one equation: a gap cuts the words of a text in two
(`words_append_gap`).

The scan that makes an anchor keeps two flags in place of the words. What it still writes depends on
them as follows: before the first word it writes the words joined by dashes, and behind a word a
dash before each of them (`anchorFrom_runs`). At the start of a word the second flag is up exactly
when a gap was read, which is why a run of other characters counts once and at the two ends of the
text not at all.

An anchor is its own anchor, since its words are those of the slug and small letters stay small
(`isAnchor_iff`). Its characters need no escape in the fragment of an address, so the fragment is
read as it was written (`fragment?_anchor`).

* `anchorsWords`: all of this, for every text.
-/
import Leaderboard.Navigation.Link
import Leaderboard.Proofs.ModeAddress

set_option autoImplicit false

namespace Leaderboard.Navigation

/-! ## Words -/

/-- Whether a character parts words. -/
def isGap (c : Char) : Bool := !isWordChar c

/-- The maximal runs of letters and digits of a text, in order. -/
inductive Runs : List Char → List (List Char) → Prop where
  | none {gap : List Char} (parts : ∀ c ∈ gap, isGap c = true) : Runs gap []
  | next {gap word rest : List Char} {later : List (List Char)}
      (parts : ∀ c ∈ gap, isGap c = true) (written : word ≠ [])
      (kept : ∀ c ∈ word, isGap c = false) (ends : ∀ c r, rest = c :: r → isGap c = true)
      (runs : Runs rest later) : Runs (gap ++ (word ++ rest)) (word :: later)

/-- The pieces between the other characters, without the empty ones. -/
def words (cs : List Char) : List (List Char) :=
  (cs.splitOnP isGap).filter fun piece => !piece.isEmpty

@[simp] theorem words_nil : words [] = [] := rfl

/-- A character that parts words cuts the words of a text in two. -/
theorem words_append_cons {c : Char} (parts : isGap c = true) (a b : List Char) :
    words (a ++ c :: b) = words a ++ words b := by
  rw [words, List.splitOnP_append_cons a b parts, List.filter_append]
  rfl

theorem words_gap_append {gap : List Char} (parts : ∀ c ∈ gap, isGap c = true)
    (b : List Char) : words (gap ++ b) = words b := by
  induction gap with
  | nil => rfl
  | cons c r ih =>
      have first := words_append_cons (parts c List.mem_cons_self) [] (r ++ b)
      exact first.trans (ih fun d mem => parts d (List.mem_cons_of_mem c mem))

theorem words_gap {gap : List Char} (parts : ∀ c ∈ gap, isGap c = true) : words gap = [] := by
  have alone := words_gap_append parts []
  rwa [List.append_nil] at alone

/-- A gap cuts the words of a text in two, however wide it is. -/
theorem words_append_gap {gap : List Char} (wide : gap ≠ []) (parts : ∀ c ∈ gap, isGap c = true)
    (a b : List Char) : words (a ++ (gap ++ b)) = words a ++ words b := by
  cases gap with
  | nil => exact absurd rfl wide
  | cons c r =>
      rw [List.cons_append, words_append_cons (parts c List.mem_cons_self),
        words_gap_append fun d mem => parts d (List.mem_cons_of_mem c mem)]

/-- Gaps at the ends of a text part nothing. -/
theorem words_padded {front back : List Char} (parts : ∀ c ∈ front, isGap c = true)
    (parts' : ∀ c ∈ back, isGap c = true) (cs : List Char) :
    words (front ++ (cs ++ back)) = words cs := by
  rw [words_gap_append parts]
  cases back with
  | nil => rw [List.append_nil]
  | cons c r =>
      have cut := words_append_gap (List.cons_ne_nil c r) parts' cs []
      rwa [List.append_nil, words_nil, List.append_nil] at cut

theorem words_word {word : List Char} (written : word ≠ []) (kept : ∀ c ∈ word, isGap c = false) :
    words word = [word] := by
  rw [words, List.splitOnP_eq_singleton kept]
  simp [written]

/-! ### They are the maximal runs -/

namespace Runs

variable {c : Char} {cs : List Char} {ws : List (List Char)}

theorem eq_words (runs : Runs cs ws) : ws = words cs := by
  induction runs with
  | none parts => exact (words_gap parts).symm
  | @next gap word rest later parts written kept ends _ ih =>
      rw [words_gap_append parts, ih]
      cases rest with
      | nil => rw [List.append_nil, words_word written kept, words_nil]
      | cons c r =>
          have cut := ends c r rfl
          rw [words_append_cons cut, words_word written kept,
            show words (c :: r) = words r from words_append_cons cut [] r]
          rfl

theorem cons_gap (parts : isGap c = true) (runs : Runs cs ws) : Runs (c :: cs) ws := by
  have wider {gap : List Char} (old : ∀ d ∈ gap, isGap d = true) :
      ∀ d ∈ c :: gap, isGap d = true := List.forall_mem_cons.mpr ⟨parts, old⟩
  cases runs with
  | none old => exact .none (wider old)
  | next old written kept ends later => exact .next (wider old) written kept ends later

/-- A letter or digit lengthens the first word if that begins the text, and else is a word. -/
theorem exists_cons_word (word : isGap c = false) (runs : Runs cs ws) :
    ∃ ws', Runs (c :: cs) ws' := by
  have single : ∀ d ∈ [c], isGap d = false := List.forall_mem_singleton.mpr word
  cases runs with
  | none parts =>
      have ends : ∀ d r, cs = d :: r → isGap d = true := by
        rintro d r rfl
        exact parts d List.mem_cons_self
      have runs : Runs ([] ++ ([c] ++ cs)) [[c]] :=
        .next nofun (List.cons_ne_nil c []) single ends (.none parts)
      exact ⟨_, runs⟩
  | @next gap first rest later parts written kept ends runs =>
      cases gap with
      | nil =>
          have longer : Runs ([] ++ ((c :: first) ++ rest)) ((c :: first) :: later) :=
            .next nofun (List.cons_ne_nil c first) (List.forall_mem_cons.mpr ⟨word, kept⟩) ends runs
          exact ⟨_, longer⟩
      | cons d r =>
          have apart : ∀ e s, d :: r ++ (first ++ rest) = e :: s → isGap e = true := by
            rintro e s same
            rw [← (List.cons.inj same).1]
            exact parts d List.mem_cons_self
          have another :
              Runs ([] ++ ([c] ++ (d :: r ++ (first ++ rest)))) ([c] :: first :: later) :=
            .next nofun (List.cons_ne_nil c []) single apart (.next parts written kept ends runs)
          exact ⟨_, another⟩

end Runs

theorem exists_runs (cs : List Char) : ∃ ws, Runs cs ws := by
  induction cs with
  | nil => exact ⟨[], .none nofun⟩
  | cons c r ih =>
      obtain ⟨ws, runs⟩ := ih
      cases gap : isGap c with
      | true => exact ⟨ws, runs.cons_gap gap⟩
      | false => exact runs.exists_cons_word gap

/-- The words of a text are its maximal runs, and it has no others. -/
theorem runs_iff {cs : List Char} {ws : List (List Char)} : Runs cs ws ↔ ws = words cs := by
  refine ⟨Runs.eq_words, ?_⟩
  rintro rfl
  obtain ⟨ws, runs⟩ := exists_runs cs
  exact runs.eq_words ▸ runs

/-! ## The scan -/

/-- A word in small letters. -/
def lowered (word : List Char) : List Char := word.map Char.toLower

/-- Words in small letters, joined by dashes. -/
def joined (ws : List (List Char)) : List Char := ['-'].intercalate (ws.map lowered)

theorem joined_cons (word : List Char) (ws : List (List Char)) :
    joined (word :: ws) = lowered word ++ ws.flatMap fun w => '-' :: lowered w := by
  unfold joined
  induction ws generalizing word with
  | nil => simp
  | cons next ws ih =>
      rw [List.map_cons, List.map_cons, List.intercalate_cons_cons, ← List.map_cons, ih,
        List.flatMap_cons, List.append_assoc]
      rfl

theorem anchorFrom_gap {gap : List Char} (parts : ∀ c ∈ gap, isGap c = true) (begun gapped : Bool)
    (r : List Char) :
    anchorFrom begun gapped (gap ++ r) = anchorFrom begun (gapped || !gap.isEmpty) r := by
  induction gap generalizing gapped with
  | nil => rw [List.nil_append, List.isEmpty_nil, Bool.not_true, Bool.or_false]
  | cons c s ih =>
      have other : ¬isWordChar c = true := by
        have gap := parts c List.mem_cons_self
        rwa [isGap, Bool.not_eq_true', ← Bool.not_eq_true] at gap
      rw [List.cons_append, anchorFrom, if_neg other,
        ih fun d mem => parts d (List.mem_cons_of_mem c mem)]
      simp

theorem anchorFrom_inside {word : List Char} (kept : ∀ c ∈ word, isGap c = false)
    (r : List Char) :
    anchorFrom true false (word ++ r) = lowered word ++ anchorFrom true false r := by
  induction word with
  | nil => rfl
  | cons c s ih =>
      have own : isWordChar c = true := by
        have word := kept c List.mem_cons_self
        rwa [isGap, Bool.not_eq_false'] at word
      rw [List.cons_append, anchorFrom, if_pos own, Bool.false_and, if_neg Bool.false_ne_true,
        ih fun d mem => kept d (List.mem_cons_of_mem c mem)]
      rfl

/-- A word is written in small letters, behind a dash if a word and a gap are before it. -/
theorem anchorFrom_word {word : List Char} (written : word ≠ [])
    (kept : ∀ c ∈ word, isGap c = false) (begun gapped : Bool) (r : List Char) :
    anchorFrom begun gapped (word ++ r) =
      (if gapped && begun then ['-'] else []) ++ (lowered word ++ anchorFrom true false r) := by
  cases word with
  | nil => exact absurd rfl written
  | cons c s =>
      have own : isWordChar c = true := by
        have word := kept c List.mem_cons_self
        rwa [isGap, Bool.not_eq_false'] at word
      rw [List.cons_append, anchorFrom, if_pos own,
        anchorFrom_inside fun d mem => kept d (List.mem_cons_of_mem c mem)]
      split <;> rfl

/-- What is written behind a word. -/
theorem anchorFrom_runs {cs : List Char} {ws : List (List Char)} (runs : Runs cs ws) :
    ∀ gapped, (gapped = true ∨ ∀ c r, cs = c :: r → isGap c = true) →
      anchorFrom true gapped cs = ws.flatMap fun w => '-' :: lowered w := by
  induction runs with
  | @none gap parts =>
      intro gapped _
      have gone := anchorFrom_gap parts true gapped []
      rwa [List.append_nil] at gone
  | @next gap word rest later parts written kept ends _ ih =>
      intro gapped apart
      -- A gap was read before the word: it is up to here, or it begins the text.
      have opened : (gapped || !gap.isEmpty) = true := by
        cases gap with
        | cons => exact Bool.or_true _
        | nil =>
            rcases apart with rfl | begins
            · rfl
            · obtain ⟨c, r, rfl⟩ := List.exists_cons_of_ne_nil written
              have gap := begins c (r ++ rest) rfl
              rw [kept c List.mem_cons_self] at gap
              cases gap
      rw [anchorFrom_gap parts, anchorFrom_word written kept, opened, ih false (.inr ends),
        List.flatMap_cons]
      rfl

theorem anchorChars_eq (cs : List Char) : anchorChars cs = joined (words cs) := by
  have runs : Runs cs (words cs) := runs_iff.mpr rfl
  generalize words cs = ws at runs
  unfold anchorChars
  cases runs with
  | none parts =>
      have gone := anchorFrom_gap parts false false []
      rwa [List.append_nil] at gone
  | next parts written kept ends later =>
      rw [anchorFrom_gap parts, anchorFrom_word written kept,
        anchorFrom_runs later false (.inr ends), Bool.and_false, joined_cons]
      rfl

/-! ## Anchors are fixed -/

/-- Whether a character can stand in the word of an anchor. -/
def isSmall (c : Char) : Bool := c.isLower || c.isDigit

/-- Nothing, or `[a-z0-9]+(-[a-z0-9]+)*`. -/
def IsAnchor (a : List Char) : Prop := ∃ ws : List (List Char),
  (∀ w ∈ ws, w ≠ [] ∧ ∀ c ∈ w, isSmall c = true) ∧ a = ['-'].intercalate ws

theorem isSmall_iff {c : Char} : isSmall c = true ↔
    97 ≤ c.toNat ∧ c.toNat ≤ 122 ∨ 48 ≤ c.toNat ∧ c.toNat ≤ 57 := by
  rw [isSmall, Bool.or_eq_true, Text.isLower_iff, Text.isDigit_iff]

theorem isGap_iff {c : Char} : isGap c = false ↔
    (65 ≤ c.toNat ∧ c.toNat ≤ 90 ∨ 97 ≤ c.toNat ∧ c.toNat ≤ 122) ∨
      48 ≤ c.toNat ∧ c.toNat ≤ 57 := by
  rw [isGap, isWordChar, Bool.not_eq_false', Text.isAlphanum_iff]

theorem isSmall_toLower {c : Char} (word : isGap c = false) : isSmall c.toLower = true := by
  rw [isGap_iff] at word
  rw [isSmall_iff, Text.toNat_toLower]
  split
  · rename_i upper
    rw [Text.isUpper_iff] at upper
    omega
  · rename_i other
    rw [Text.isUpper_iff] at other
    omega

theorem isGap_of_isSmall {c : Char} (small : isSmall c = true) : isGap c = false := by
  rw [isSmall_iff] at small
  exact isGap_iff.mpr (by omega)

theorem toLower_of_isSmall {c : Char} (small : isSmall c = true) : c.toLower = c := by
  rw [isSmall_iff] at small
  refine Char.toNat_inj.mp ?_
  rw [Text.toNat_toLower, if_neg]
  rw [Text.isUpper_iff]
  omega

theorem Runs.kept_of_mem {cs : List Char} {ws : List (List Char)} (runs : Runs cs ws) :
    ∀ w ∈ ws, w ≠ [] ∧ ∀ c ∈ w, isGap c = false := by
  induction runs with
  | none => exact nofun
  | next _ written kept _ _ ih => exact List.forall_mem_cons.mpr ⟨⟨written, kept⟩, ih⟩

theorem anchorChars_isAnchor (cs : List Char) : IsAnchor (anchorChars cs) := by
  refine ⟨(words cs).map lowered, fun w mem => ?_, anchorChars_eq cs⟩
  obtain ⟨word, own, rfl⟩ := List.mem_map.mp mem
  obtain ⟨written, kept⟩ := (runs_iff.mpr rfl : Runs cs _).kept_of_mem word own
  refine ⟨by simpa [lowered] using written, fun c mem => ?_⟩
  obtain ⟨d, inside, rfl⟩ := List.mem_map.mp mem
  exact isSmall_toLower (kept d inside)

theorem words_intercalate {ws : List (List Char)}
    (kept : ∀ w ∈ ws, w ≠ [] ∧ ∀ c ∈ w, isSmall c = true) : words (['-'].intercalate ws) = ws := by
  have single {w : List Char} (own : w ≠ [] ∧ ∀ c ∈ w, isSmall c = true) : words w = [w] :=
    words_word own.1 fun c mem => isGap_of_isSmall (own.2 c mem)
  induction ws with
  | nil => rfl
  | cons w r ih =>
      obtain ⟨first, rest⟩ := List.forall_mem_cons.mp kept
      cases r with
      | nil => rw [List.intercalate_singleton, single first]
      | cons next r =>
          have dash : ∀ c ∈ ['-'], isGap c = true := List.forall_mem_singleton.mpr rfl
          rw [List.intercalate_cons_cons, List.append_assoc,
            words_append_gap (List.cons_ne_nil _ _) dash, ih rest, single first]
          rfl

/-- Anchors are the texts that are their own anchors. -/
theorem isAnchor_iff {a : List Char} : IsAnchor a ↔ anchorChars a = a := by
  constructor
  · rintro ⟨ws, kept, rfl⟩
    rw [anchorChars_eq, words_intercalate kept, joined]
    congr 1
    refine (List.map_congr_left fun w mem => ?_).trans (List.map_id ws)
    exact (List.map_congr_left fun c own => toLower_of_isSmall ((kept w mem).2 c own)).trans
      (List.map_id w)
  · intro fixed
    exact fixed ▸ anchorChars_isAnchor a

/-! ## Anchors as fragments -/

theorem IsAnchor.plain {a : List Char} (anchor : IsAnchor a) :
    ∀ c ∈ a, c = '-' ∨ isSmall c = true := by
  obtain ⟨ws, kept, rfl⟩ := anchor
  induction ws with
  | nil => exact nofun
  | cons w r ih =>
      obtain ⟨first, rest⟩ := List.forall_mem_cons.mp kept
      cases r with
      | nil =>
          rw [List.intercalate_singleton]
          exact fun c mem => .inr (first.2 c mem)
      | cons next r =>
          rw [List.intercalate_cons_cons, List.forall_mem_append, List.forall_mem_append]
          exact ⟨⟨fun c mem => .inr (first.2 c mem),
            fun c mem => .inl (List.mem_singleton.mp mem)⟩, ih rest⟩

/-- No character of an anchor is dropped from an address or escaped in it. -/
theorem IsAnchor.kept {a : List Char} (anchor : IsAnchor a) : ∀ c ∈ a, c ≠ '#' ∧ c.toNat < 0x80 ∧
    Url.isEdge c = false ∧ Url.keptInFragment (UInt8.ofNat c.toNat) = true := by
  have each : ∀ n : Fin 0x80,
      n.val = 45 ∨ 97 ≤ n.val ∧ n.val ≤ 122 ∨ 48 ≤ n.val ∧ n.val ≤ 57 →
        Url.keptInFragment (UInt8.ofNat n) = true := by decide
  intro c mem
  have code : c.toNat = 45 ∨ 97 ≤ c.toNat ∧ c.toNat ≤ 122 ∨ 48 ≤ c.toNat ∧ c.toNat ≤ 57 :=
    (anchor.plain c mem).imp (congrArg Char.toNat) isSmall_iff.mp
  have small : c.toNat < 0x80 := by omega
  refine ⟨?_, small, decide_eq_false (by omega), each ⟨c.toNat, small⟩ code⟩
  rintro rfl
  exact absurd code (by decide)

end Leaderboard.Navigation

namespace Leaderboard.Url

/-- A text that counts stays whole behind a number sign. -/
theorem trimmed_marked {s : String} {front back : List Char}
    (whole : s.toList = front ++ '#' :: back) (counts : ∀ c ∈ back, isEdge c = false) :
    trimmed s = front.dropWhile isEdge ++ '#' :: back := by
  have start : (front ++ '#' :: back).dropWhile isEdge = front.dropWhile isEdge ++ '#' :: back := by
    rw [List.dropWhile_append]
    split
    · rename_i none
      rw [List.isEmpty_iff.mp none]
      rfl
    · rfl
  have ends (front : List Char) :
      (front ++ '#' :: back).reverse.dropWhile isEdge = (front ++ '#' :: back).reverse := by
    rw [List.reverse_append, List.reverse_cons]
    cases last : back.reverse with
    | nil => rfl
    | cons c r =>
        have count := counts c (List.mem_reverse.mp (last ▸ List.mem_cons_self))
        exact List.dropWhile_cons_of_neg (by rw [count]; exact Bool.noConfusion)
  unfold trimmed
  rw [whole, start, ends, List.reverse_reverse]

/-- What counts and needs no escape is the fragment of an address that ends with it. -/
theorem fragment?_of_kept {base? : Option Url} {address : String} {front back : List Char} {u : Url}
    (whole : address.toList = front ++ '#' :: back) (sign : '#' ∉ front)
    (counts : ∀ c ∈ back, isEdge c = false)
    (plain : Text.Percent.encode keptInFragment back = back)
    (read : resolve base? address = .ok u) : u.fragment? = some back := by
  have before : '#' ∉ front.dropWhile isEdge :=
    fun mem => sign ((List.dropWhile_sublist isEdge).mem mem)
  rw [resolve_fragment read, trimmed_marked whole counts, Parts.fragment,
    Parts.fragment_of before, Option.map_some, unbroken_eq_self counts, plain]

end Leaderboard.Url

namespace Leaderboard.Navigation

theorem toList_anchor (s : String) : (anchor s).toList = joined (words s.toList) := by
  unfold anchor
  rw [String.toList_ofList, anchorChars_eq]

theorem anchor_isAnchor (s : String) : IsAnchor (anchor s).toList := by
  unfold anchor
  rw [String.toList_ofList]
  exact anchorChars_isAnchor s.toList

/-- Only the words count. -/
theorem anchor_congr {s t : String} (same : words s.toList = words t.toList) :
    anchor s = anchor t := by
  rw [← String.toList_inj, toList_anchor, toList_anchor, same]

theorem forall_isGap {gap : String} (parts : ∀ c ∈ gap.toList, isWordChar c = false) :
    ∀ c ∈ gap.toList, isGap c = true := fun c mem => by rw [isGap, parts c mem]; rfl

theorem fragment?_anchor {base? : Option Url} {front slug : String} {u : Url}
    (sign : '#' ∉ front.toList) (read : Url.resolve base? (front ++ "#" ++ anchor slug) = .ok u) :
    u.fragment? = some (anchor slug).toList := by
  have own := (anchor_isAnchor slug).kept
  have whole : (front ++ "#" ++ anchor slug).toList =
      front.toList ++ '#' :: (anchor slug).toList := by
    rw [String.toList_append, String.toList_append, List.append_assoc]
    rfl
  exact Url.fragment?_of_kept whole sign (fun c mem => (own c mem).2.2.1)
    (Text.Percent.encode_of_kept (fun c mem => (own c mem).2.1) fun c mem => (own c mem).2.2.2) read

/-! ## The law -/

/-- What the anchor of a text is, and what it does not depend on. -/
structure AnchorsWords (s : String) : Prop where
  /-- The words of the text are its maximal runs of letters and digits. -/
  runs : ∀ ws, Runs s.toList ws ↔ ws = words s.toList
  /-- The anchor is these words in small letters, joined by dashes. -/
  written : (anchor s).toList = ['-'].intercalate ((words s.toList).map (·.map Char.toLower))
  shape : IsAnchor (anchor s).toList
  again : anchor (anchor s) = anchor s
  /-- Other characters at the ends do not count. -/
  padded : ∀ front back : String, (∀ c ∈ front.toList, isWordChar c = false) →
    (∀ c ∈ back.toList, isWordChar c = false) → anchor (front ++ s ++ back) = anchor s
  /-- Nor does it count how many of them, and which, stand between two words. -/
  widened : ∀ a gap wider b : String, s = a ++ gap ++ b → gap ≠ "" → wider ≠ "" →
    (∀ c ∈ gap.toList, isWordChar c = false) → (∀ c ∈ wider.toList, isWordChar c = false) →
      anchor (a ++ wider ++ b) = anchor s
  /-- No character of the anchor begins a fragment, is dropped from an address or escaped in it. -/
  plain : ∀ c ∈ (anchor s).toList, c ≠ '#' ∧ Url.isEdge c = false ∧ Url.isBreak c = false ∧
    Text.Percent.encode Url.keptInFragment [c] = [c]
  /-- So an address that ends with the anchor has it as its fragment. -/
  fragment : ∀ (base? : Option Url) (front : String) (u : Url), '#' ∉ front.toList →
    Url.resolve base? (front ++ "#" ++ anchor s) = .ok u →
      u.fragment? = some (anchor s).toList ∧ deepLink u = Text.nonempty? (anchor s)

/-- **An anchor is the words of its text, joined by dashes**, and stands in an address as it is. -/
theorem anchorsWords (s : String) : AnchorsWords s where
  runs _ := runs_iff
  written := toList_anchor s
  shape := anchor_isAnchor s
  again := by
    have fixed := isAnchor_iff.mp (anchor_isAnchor s)
    rw [← String.toList_inj]
    exact String.toList_ofList.trans fixed
  padded front back parts parts' := by
    apply anchor_congr
    rw [String.toList_append, String.toList_append, List.append_assoc,
      words_padded (forall_isGap parts) (forall_isGap parts')]
  widened a gap wider b whole wide wide' parts parts' := by
    have cut {g : String} (wide : g ≠ "") (parts : ∀ c ∈ g.toList, isWordChar c = false) :
        words (a ++ g ++ b).toList = words a.toList ++ words b.toList := by
      rw [String.toList_append, String.toList_append, List.append_assoc,
        words_append_gap (by simpa using wide) (forall_isGap parts)]
    apply anchor_congr
    rw [whole, cut wide parts, cut wide' parts']
  plain c mem := by
    obtain ⟨sign, ascii, count, kept⟩ := (anchor_isAnchor s).kept c mem
    have alone : Text.Percent.encode Url.keptInFragment [c] = [c] :=
      Text.Percent.encode_of_kept (List.forall_mem_singleton.mpr ascii)
        (List.forall_mem_singleton.mpr kept)
    have whole : Url.unbroken [c] = [c] :=
      Url.unbroken_eq_self (List.forall_mem_singleton.mpr count)
    refine ⟨sign, count, ?_, alone⟩
    simpa [Url.unbroken] using whole
  fragment base? front u sign read := by
    have own := fragment?_anchor sign read
    refine ⟨own, ?_⟩
    rw [deepLink, own, Option.bind_some, Text.nonempty?, String.ofList_toList]
    simp

-- A letter beyond ASCII is part of a gap.
example : anchorChars ['Ü', 'b', '-', '-', 'B', ' ', '2', ')'] = ['b', '-', 'b', '-', '2'] := by
  decide

end Leaderboard.Navigation
