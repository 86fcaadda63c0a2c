/-
# Leaderboard.Proofs.FinalSigma — the lower case of a part of a text

A text is lowered as a whole, and one character is lowered by its place: a capital sigma at the end
of a word becomes the final sigma (`isFinal`). So the lower case of a part of a text need not be a
part of the lower case of the text.

What is around a part decides about nothing but its capital sigmas (`lowerWithin_congr`). A part
keeps them at a place where each of them is final exactly if it is in the part alone
(`KeepsSigmas`), and then its lower case is found there (`lower_part`). The parts that keep them
everywhere can be told by themselves (`FixedSigmas`): none of their capital sigmas stands at an end,
with at most case-ignorable characters between, where a letter in front or behind would change it.

Where a letter does change it, one kind of small sigma is there once less than in the part alone
(`exists_count_lt`), which is how a part is shown not to be found. Blanks are neither cased nor
case-ignorable, so that a text may be trimmed before it is lowered (`exists_keepsSigmas_trimList`).

* `fixedSigmas_iff`: which parts keep their capital sigmas in every text.
-/
import Leaderboard.Proofs.FilterHistory

set_option autoImplicit false

namespace Leaderboard.Text

/-! ## The neighbours of a sigma -/

/-- A character that is looked through when the neighbours of a sigma are sought. -/
def isIgnorable (c : Char) : Bool := inRanges caseIgnorableRanges c

theorem leadsToCased_cons (c : Char) (r : List Char) : leadsToCased (c :: r) =
    if isIgnorable c then leadsToCased r else inRanges casedRanges c := by
  cases ignorable : inRanges caseIgnorableRanges c <;>
    simp [leadsToCased, isIgnorable, ignorable]

theorem leadsToCased_append (cs ds : List Char) : leadsToCased (cs ++ ds) =
    if cs.all isIgnorable then leadsToCased ds else leadsToCased cs := by
  induction cs with
  | nil => rfl
  | cons c r ih =>
      rw [List.cons_append, leadsToCased_cons, leadsToCased_cons, ih, List.all_cons]
      cases isIgnorable c <;> simp

theorem leadsToCased_of_all {cs : List Char} (all : cs.all isIgnorable = true) :
    leadsToCased cs = false := by
  have whole := leadsToCased_append cs []
  rwa [List.append_nil, if_pos all] at whole

/-- Whether a capital sigma between the characters `before`, nearest first, and `after` becomes a
final one. -/
def isFinal (before after : List Char) : Bool := leadsToCased before && !leadsToCased after

/-- The two lower cases of a capital sigma. -/
def sigma (final : Bool) : Char := Char.ofNat (if final then 0x3C2 else 0x3C3)

theorem sigma_inj {final other : Bool} : sigma final = sigma other ↔ final = other := by
  revert final other
  decide

/-! ## Lower case at a place -/

/-- The lower case of a character between the characters `before`, nearest first, and `after`. -/
def lowerAt (before : List Char) (c : Char) (after : List Char) : List Char :=
  if c = capitalSigma then [sigma (isFinal before after)] else lowerChar c

/-- The lower case of characters between the characters `before`, nearest first, and `after`. -/
def lowerWithin (before : List Char) : (cs after : List Char) → List Char
  | [], _ => []
  | c :: r, after => lowerAt before c (r ++ after) ++ lowerWithin (c :: before) r after

variable {before after before' after' cs : List Char}

theorem lowerWithin_append (before cs ds after : List Char) :
    lowerWithin before (cs ++ ds) after =
      lowerWithin before cs (ds ++ after) ++ lowerWithin (cs.reverse ++ before) ds after := by
  induction cs generalizing before with
  | nil => rfl
  | cons c r ih => simp [lowerWithin, ih]

theorem lowerAfter_eq (before cs : List Char) :
    lowerAfter before cs = lowerWithin before cs [] := by
  induction cs generalizing before with
  | nil => rfl
  | cons c r ih =>
      rw [lowerAfter, lowerWithin, ih, List.append_nil]
      rfl

/-- What is around characters decides about their capital sigmas only. -/
theorem lowerWithin_congr (same : ∀ a b, cs = a ++ capitalSigma :: b →
      isFinal (a.reverse ++ before) (b ++ after) = isFinal (a.reverse ++ before') (b ++ after')) :
    lowerWithin before cs after = lowerWithin before' cs after' := by
  induction cs generalizing before before' with
  | nil => rfl
  | cons c r ih =>
      have rest : lowerWithin (c :: before) r after = lowerWithin (c :: before') r after' := by
        apply ih
        rintro a b rfl
        simpa using same (c :: a) b rfl
      rw [lowerWithin, lowerWithin, rest]
      congr 1
      unfold lowerAt
      split
      · rename_i same_char
        subst same_char
        rw [show isFinal before (r ++ after) = isFinal before' (r ++ after') from same [] r rfl]
      · rfl

/-! ## Parts that keep their capital sigmas -/

/-- Between other characters each capital sigma is final exactly if it is without them. -/
def KeepsSigmas (before cs after : List Char) : Prop :=
  ∀ a b, cs = a ++ capitalSigma :: b →
    isFinal (a.reverse ++ before) (b ++ after) = isFinal a.reverse b

theorem keepsSigmas_of_not_mem (none : capitalSigma ∉ cs) : KeepsSigmas before cs after := by
  rintro a b rfl
  simp at none

theorem KeepsSigmas.lowerWithin_eq (keeps : KeepsSigmas before cs after) :
    lowerWithin before cs after = lowerAfter [] cs := by
  rw [lowerAfter_eq]
  apply lowerWithin_congr
  intro a b split
  simpa using keeps a b split

/-- **A part that keeps its capital sigmas is found in the lower case of the whole.** -/
theorem KeepsSigmas.lower_part {a b : List Char} (keeps : KeepsSigmas a.reverse cs b) :
    lowerAfter [] cs <:+: lowerAfter [] (a ++ cs ++ b) := by
  refine ⟨lowerWithin [] a (cs ++ b), lowerWithin ((a ++ cs).reverse) b [], ?_⟩
  have alone := keeps.lowerWithin_eq
  rw [lowerAfter_eq [] (a ++ cs ++ b), lowerWithin_append, lowerWithin_append]
  simp [alone]

/-- No capital sigma stands where a letter in front or behind would change it. -/
structure FixedSigmas (cs : List Char) : Prop where
  /-- With only ignorable characters before it, it has a cased letter behind it. -/
  first : ∀ a b, cs = a ++ capitalSigma :: b → a.all isIgnorable = true → leadsToCased b = true
  /-- With only ignorable characters behind it, it has no cased letter before it. -/
  last : ∀ a b, cs = a ++ capitalSigma :: b → b.all isIgnorable = true →
    leadsToCased a.reverse = false

theorem FixedSigmas.keeps (fixed : FixedSigmas cs) (before after : List Char) :
    KeepsSigmas before cs after := by
  intro a b split
  have first := fixed.first a b split
  have last := fixed.last a b split
  have front := leadsToCased_append a.reverse before
  have back := leadsToCased_append b after
  rw [List.all_reverse] at front
  unfold isFinal
  rw [front, back]
  by_cases inFront : a.all isIgnorable = true
  · have cased := first inFront
    have behind : ¬b.all isIgnorable = true := by
      intro all
      rw [leadsToCased_of_all all] at cased
      cases cased
    simp [behind, cased]
  · by_cases behind : b.all isIgnorable = true
    · simp [inFront, last behind]
    · simp [inFront, behind]

/-! ## Counting sigmas -/

theorem count_lowerWithin_le {mark : Bool} (le : ∀ a b, cs = a ++ capitalSigma :: b →
      isFinal (a.reverse ++ before) (b ++ after) = mark →
        isFinal (a.reverse ++ before') (b ++ after') = mark) :
    (lowerWithin before cs after).count (sigma mark) ≤
      (lowerWithin before' cs after').count (sigma mark) := by
  induction cs generalizing before before' with
  | nil => exact Nat.le_refl _
  | cons c r ih =>
      rw [lowerWithin, lowerWithin, List.count_append, List.count_append]
      apply Nat.add_le_add
      · unfold lowerAt
        split
        · rename_i same_char
          subst same_char
          have here := le [] r rfl
          simp only [List.count_singleton, beq_iff_eq, sigma_inj]
          split <;> simp_all
        · exact Nat.le_refl _
      · apply ih
        rintro a b rfl
        simpa using le (c :: a) b rfl

/-- Where one capital sigma more is written with a mark, the mark is there once more. -/
theorem count_lowerWithin_lt {mark : Bool} (le : ∀ a b, cs = a ++ capitalSigma :: b →
      isFinal (a.reverse ++ before) (b ++ after) = mark →
        isFinal (a.reverse ++ before') (b ++ after') = mark)
    {a b : List Char} (split : cs = a ++ capitalSigma :: b)
    (other : isFinal (a.reverse ++ before) (b ++ after) ≠ mark)
    (marked : isFinal (a.reverse ++ before') (b ++ after') = mark) :
    (lowerWithin before cs after).count (sigma mark) <
      (lowerWithin before' cs after').count (sigma mark) := by
  subst split
  have front : (lowerWithin before a (capitalSigma :: b ++ after)).count (sigma mark) ≤
      (lowerWithin before' a (capitalSigma :: b ++ after')).count (sigma mark) := by
    apply count_lowerWithin_le
    rintro x y rfl
    simpa using le x (y ++ capitalSigma :: b) (by simp)
  have back : (lowerWithin (capitalSigma :: (a.reverse ++ before)) b after).count (sigma mark) ≤
      (lowerWithin (capitalSigma :: (a.reverse ++ before')) b after').count (sigma mark) := by
    apply count_lowerWithin_le
    rintro x y rfl
    simpa using le (a ++ capitalSigma :: x) y (by simp)
  simp only [lowerWithin_append, lowerWithin, lowerAt, if_true, List.count_append,
    List.count_singleton, beq_iff_eq, sigma_inj, if_neg other, if_pos marked]
  omega

/-- A character without another case that is no sigma. -/
structure Neutral (c : Char) : Prop where
  small : lowerChar c = [c]
  other : c ≠ capitalSigma
  unmarked : ∀ final, c ≠ sigma final

theorem neutral_letter : Neutral 'a' where
  small := by decide
  other := by decide
  unmarked := by decide

theorem lowerWithin_neutral (neutral : ∀ c ∈ cs, Neutral c) (before after : List Char) :
    lowerWithin before cs after = cs := by
  induction cs generalizing before with
  | nil => rfl
  | cons c r ih =>
      obtain ⟨here, rest⟩ := List.forall_mem_cons.mp neutral
      rw [lowerWithin, ih rest, lowerAt, if_neg here.other, here.small]
      rfl

theorem count_neutral (neutral : ∀ c ∈ cs, Neutral c) (mark : Bool) :
    cs.count (sigma mark) = 0 := by
  rw [List.count_eq_zero]
  intro mem
  exact (neutral _ mem).unmarked mark rfl

/-- Neutral characters around others add no sigma to their lower case. -/
theorem count_lower_between (front : ∀ c ∈ before, Neutral c) (back : ∀ c ∈ after, Neutral c)
    (cs : List Char) (mark : Bool) :
    (lowerAfter [] (before.reverse ++ cs ++ after)).count (sigma mark) =
      (lowerWithin before cs after).count (sigma mark) := by
  have reversed : ∀ c ∈ before.reverse, Neutral c := fun c mem => front c (List.mem_reverse.mp mem)
  rw [lowerAfter_eq, lowerWithin_append, lowerWithin_append, lowerWithin_neutral reversed,
    lowerWithin_neutral back, List.count_append, List.count_append, count_neutral reversed,
    count_neutral back]
  simp

/-- A letter at one end of a part without fixed sigmas takes a mark off one of them. -/
theorem exists_count_lt (loose : ¬FixedSigmas cs) : ∃ (before after : List Char) (mark : Bool),
    (∀ c ∈ before, Neutral c) ∧ (∀ c ∈ after, Neutral c) ∧
      (lowerWithin before cs after).count (sigma mark) <
        (lowerAfter [] cs).count (sigma mark) := by
  have letter : leadsToCased ['a'] = true := by decide +kernel
  have neutral : ∀ c ∈ ['a'], Neutral c := by simpa using neutral_letter
  simp only [lowerAfter_eq]
  by_cases first : ∀ a b, cs = a ++ capitalSigma :: b → a.all isIgnorable = true →
      leadsToCased b = true
  · have last : ¬∀ a b, cs = a ++ capitalSigma :: b → b.all isIgnorable = true →
        leadsToCased a.reverse = false := fun last => loose ⟨first, last⟩
    push Not at last
    obtain ⟨a, b, split, ignorable, cased⟩ := last
    -- The sigma is final at the end, and not before a letter.
    refine ⟨[], ['a'], true, nofun, neutral, count_lowerWithin_lt ?_ split ?_ ?_⟩
    · intro x y _ final
      simp_all [isFinal, leadsToCased_append]
    · simp_all [isFinal, leadsToCased_append]
    · simp_all [isFinal, leadsToCased_of_all ignorable]
  · push Not at first
    obtain ⟨a, b, split, ignorable, uncased⟩ := first
    -- The sigma is not final at the start, but behind a letter.
    have start : leadsToCased a.reverse = false := leadsToCased_of_all (by simpa using ignorable)
    refine ⟨['a'], [], false, neutral, nofun, count_lowerWithin_lt ?_ split ?_ ?_⟩
    · intro x y _ final
      simp_all [isFinal, leadsToCased_append]
    · simp_all [isFinal, leadsToCased_append]
    · simp_all [isFinal]

/-- **The parts that keep their capital sigmas in every text.** -/
theorem fixedSigmas_iff : FixedSigmas cs ↔ ∀ before after, KeepsSigmas before cs after := by
  constructor
  · exact FixedSigmas.keeps
  · intro keeps
    by_contra loose
    obtain ⟨before, after, mark, -, -, less⟩ := exists_count_lt loose
    rw [(keeps before after).lowerWithin_eq] at less
    exact Nat.lt_irrefl _ less

/-! ## Blank ends -/

def blankCodes : List Nat :=
  [9, 10, 11, 12, 13, 0x20, 0x85, 0xA0, 0x1680, 0x2000, 0x2001, 0x2002, 0x2003, 0x2004, 0x2005,
    0x2006, 0x2007, 0x2008, 0x2009, 0x200A, 0x2028, 0x2029, 0x202F, 0x205F, 0x3000]

theorem toNat_mem_blankCodes {c : Char} (blank : isBlank c = true) : c.toNat ∈ blankCodes := by
  simp only [isBlank, Bool.or_eq_true, Bool.and_eq_true, decide_eq_true_eq, beq_iff_eq] at blank
  simp only [blankCodes, List.mem_cons, List.not_mem_nil, or_false]
  omega

theorem of_mem_blankCodes : ∀ n ∈ blankCodes, isIgnorable (Char.ofNat n) = false ∧
    inRanges casedRanges (Char.ofNat n) = false ∧ lowerChar (Char.ofNat n) = [Char.ofNat n] ∧
      Char.ofNat n ≠ capitalSigma ∧ ∀ final, Char.ofNat n ≠ sigma final := by
  decide +kernel

/-- A blank ends a word. -/
theorem isIgnorable_of_isBlank {c : Char} (blank : isBlank c = true) :
    isIgnorable c = false ∧ inRanges casedRanges c = false := by
  obtain ⟨ignorable, cased, -⟩ := of_mem_blankCodes c.toNat (toNat_mem_blankCodes blank)
  rw [Char.ofNat_toNat] at ignorable cased
  exact ⟨ignorable, cased⟩

theorem neutral_of_isBlank {c : Char} (blank : isBlank c = true) : Neutral c := by
  obtain ⟨-, -, small, other, unmarked⟩ := of_mem_blankCodes c.toNat (toNat_mem_blankCodes blank)
  rw [Char.ofNat_toNat] at small other unmarked
  exact ⟨small, other, unmarked⟩

variable {front back : List Char}

theorem leadsToCased_append_blanks (cs : List Char) (blank : ∀ c ∈ back, isBlank c = true) :
    leadsToCased (cs ++ back) = leadsToCased cs := by
  have ends : leadsToCased back = false := by
    cases back with
    | nil => rfl
    | cons c r =>
        obtain ⟨ignorable, cased⟩ := isIgnorable_of_isBlank (blank c List.mem_cons_self)
        rw [leadsToCased_cons, ignorable, cased]
        rfl
  rw [leadsToCased_append]
  split
  · rename_i all
    rw [ends, leadsToCased_of_all all]
  · rfl

theorem keepsSigmas_between_blanks (blank : ∀ c ∈ front, isBlank c = true)
    (blank' : ∀ c ∈ back, isBlank c = true) : KeepsSigmas front cs back := by
  intro a b _
  rw [isFinal, isFinal, leadsToCased_append_blanks _ blank, leadsToCased_append_blanks _ blank']

/-- Between the blanks at its ends a text keeps its capital sigmas. -/
theorem exists_keepsSigmas_trimList (cs : List Char) : ∃ before after,
    cs = before.reverse ++ trimList cs ++ after ∧ KeepsSigmas before (trimList cs) after ∧
      (∀ c ∈ before, Neutral c) ∧ ∀ c ∈ after, Neutral c := by
  obtain ⟨front, back, split, blank, blank'⟩ := trimList_split cs
  have reversed : ∀ c ∈ front.reverse, isBlank c = true := by simpa using blank
  refine ⟨front.reverse, back, ?_, keepsSigmas_between_blanks reversed blank', ?_, ?_⟩
  · rwa [List.reverse_reverse]
  · exact fun c mem => neutral_of_isBlank (reversed c mem)
  · exact fun c mem => neutral_of_isBlank (blank' c mem)

theorem lower_trimList_part (cs : List Char) :
    lowerAfter [] (trimList cs) <:+: lowerAfter [] cs := by
  obtain ⟨before, after, split, keeps, -⟩ := exists_keepsSigmas_trimList cs
  rw [← before.reverse_reverse] at keeps
  have inside := keeps.lower_part
  rwa [← split] at inside

theorem count_lower_trimList (cs : List Char) (mark : Bool) :
    (lowerAfter [] (trimList cs)).count (sigma mark) = (lowerAfter [] cs).count (sigma mark) := by
  obtain ⟨before, after, split, keeps, front, back⟩ := exists_keepsSigmas_trimList cs
  have between := count_lower_between front back (trimList cs) mark
  rw [← split] at between
  rw [between, keeps.lowerWithin_eq]

end Leaderboard.Text
