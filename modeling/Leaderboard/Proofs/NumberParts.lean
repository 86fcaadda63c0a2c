/-
# Leaderboard.Proofs.NumberParts — what is searched for in the text of a number

A query on a column of numbers that is read in no other way is searched for in the texts of the
numbers. Little is left to that search: a part of the text of a finite number that has a digit in it
is a numeral, and so it is read as one.

A part of digits, of a point and of digits again stands for a number that is no larger than the
whole, or than the digits behind the point (`Literal.Piece`). The former rounds to a finite number
because rounding keeps the order, the latter because a finite number is written with so few digits
(`Binary64.shortest_le`). A query that is found in such a text is itself made of its characters: no
other character is lowered to one of them (`Text.isPlain_of_lowerChar`).

* `searched_and_found_iff`: what is searched for and found is a point or a minus.
-/
import Leaderboard.Proofs.CellText
import Leaderboard.Proofs.ShortestDigits

set_option autoImplicit false

namespace Leaderboard

/-! ## What is lowered to plain characters -/

namespace Text

theorem toNat_of_isPlain {c : Char} (plain : isPlain c = true) : 33 ≤ c.toNat ∧ c.toNat ≤ 62 := by
  rcases Bool.or_eq_true_iff.mp plain with digit | mark
  · have range := isDigit_iff.mp digit
    omega
  · have each : (['-', '.', '<', '>', '=', '!'].all fun c => 33 ≤ c.toNat && c.toNat ≤ 62) =
        true := by decide
    simpa using List.all_eq_true.mp each c (List.contains_iff_mem.mp mark)

/-- A character is known by its code point, or it is the first of all. -/
theorem toNat_ofNat_cases (n : Nat) : (Char.ofNat n).toNat = n ∨ (Char.ofNat n).toNat = 0 := by
  by_cases valid : n.isValidChar
  · rw [Char.ofNat, dif_pos valid]
    exact .inl rfl
  · rw [Char.ofNat, dif_neg valid]
    exact .inr rfl

/-- Beyond ASCII nothing is lowered to a plain character. -/
theorem isPlain_shifted {c : Char} (other : 128 ≤ c.toNat) :
    isPlain (shifted lowerShifts c) = false := by
  rw [Bool.eq_false_iff]
  intro plain
  have range := toNat_of_isPlain plain
  unfold shifted at range
  split at range
  · rename_i s found
    have targets : (lowerShifts.all fun s => s.last < 128 || 97 ≤ (s.first : Int) + s.offset) =
        true := by decide +kernel
    have target := List.all_eq_true.mp targets s (List.mem_of_find?_eq_some found)
    have covered := List.find?_some found
    simp only [Shift.covers, Bool.and_eq_true, Bool.or_eq_true, decide_eq_true_eq] at covered target
    have code := toNat_ofNat_cases (c.toNat + s.offset).toNat
    omega
  · omega

theorem isPlain_of_lowerChar {c : Char} (plain : ∀ d ∈ lowerChar c, isPlain d = true) :
    isPlain c = true := by
  unfold lowerChar at plain
  split at plain
  · have same : c.toLower = c := by
      have range := toNat_of_isPlain (plain c.toLower (by simp))
      rw [toNat_toLower] at range
      apply Char.toNat_inj.mp
      rw [toNat_toLower, if_neg]
      intro upper
      have bounds := isUpper_iff.mp upper
      rw [if_pos upper] at range
      omega
    simpa [same] using plain c.toLower (by simp)
  split at plain
  · have dotted : isPlain (Char.ofNat 0x69) = false := by decide
    simpa [dotted] using plain (Char.ofNat 0x69) (by simp)
  · have shift := plain (shifted lowerShifts c) (by simp)
    rw [isPlain_shifted (by omega)] at shift
    cases shift

/-- What is lowered to plain characters is made of them. -/
theorem isPlain_of_lowerAfter {before cs : List Char}
    (plain : ∀ d ∈ lowerAfter before cs, isPlain d = true) : ∀ c ∈ cs, isPlain c = true := by
  induction cs generalizing before with
  | nil => simp
  | cons c r ih =>
      rw [lowerAfter] at plain
      obtain ⟨first, rest⟩ := List.forall_mem_append.mp plain
      refine List.forall_mem_cons.mpr ⟨?_, ih rest⟩
      split at first
      · have sigma : ∀ final : Bool,
            isPlain (Char.ofNat (if final then 0x3C2 else 0x3C3)) = false := by decide
        rw [List.forall_mem_singleton, sigma] at first
        cases first
      · exact isPlain_of_lowerChar first

theorem lower_of_isPlain {s : String} (plain : ∀ c ∈ s.toList, isPlain c = true) : lower s = s := by
  have none : capitalSigma ∉ s.toList := by
    intro mem
    exact absurd (plain capitalSigma mem) (by decide)
  rw [lower_eq_lowerEach none, lowerEach_of_isPlain plain, String.ofList_toList]

end Text

/-! ## Parts of a literal -/

namespace Decimal

theorem ofDigits_le_of_infix {ds cs : List Char} (inside : ds <:+: cs) :
    ofDigits ds ≤ ofDigits cs := by
  obtain ⟨before, behind, rfl⟩ := inside
  rw [ofDigits_append, ofDigits_append]
  have pos : 0 < Nat.pow 10 behind.length := Nat.pow_pos (by decide)
  calc ofDigits ds ≤ Nat.pow 10 ds.length * ofDigits before + ofDigits ds := Nat.le_add_left _ _
    _ ≤ Nat.pow 10 behind.length * (Nat.pow 10 ds.length * ofDigits before + ofDigits ds) :=
        Nat.le_mul_of_pos_left _ pos
    _ ≤ _ := Nat.le_add_right _ _

theorem pointed_prefix {cs fraction : List Char} (begins : cs <+: pointed fraction) :
    cs = [] ∨ ∃ es, cs = '.' :: es ∧ es <+: fraction := by
  cases fraction with
  | nil => exact .inl (List.prefix_nil.mp begins)
  | cons d r => exact List.prefix_cons_iff.mp begins

namespace Literal

variable {l : Literal} {whole fraction cs : List Char}

/-- Digits that stand together in a literal, maybe with its point among them or at an end. -/
structure Piece (l : Literal) (whole fraction cs : List Char) : Prop where
  written : cs = whole ∧ fraction = [] ∨ cs = whole ++ '.' :: fraction
  digits : ∀ c ∈ whole ++ fraction, c.isDigit = true
  /-- They stand for no more than the literal does, or than the digits behind its point. -/
  bounded : ofDigits (whole ++ fraction) * Nat.pow 10 l.fraction.length ≤
      ofDigits (l.whole ++ l.fraction) * Nat.pow 10 fraction.length ∨
    fraction = [] ∧ ofDigits whole ≤ ofDigits l.fraction

/-- A piece before the point. -/
theorem piece_of_whole (inside : cs <:+: l.whole) : l.Piece cs [] cs where
  written := .inl ⟨rfl, rfl⟩
  digits := by simpa using fun c mem => l.whole_digits c (inside.subset mem)
  bounded := by
    left
    have less := ofDigits_le_of_infix inside
    rw [List.append_nil, List.length_nil, ofDigits_append, Nat.mul_comm]
    calc Nat.pow 10 l.fraction.length * ofDigits cs
        ≤ Nat.pow 10 l.fraction.length * ofDigits l.whole := Nat.mul_le_mul_left _ less
      _ ≤ Nat.pow 10 l.fraction.length * ofDigits l.whole + ofDigits l.fraction :=
          Nat.le_add_right _ _
      _ = _ := (Nat.mul_one _).symm

/-- A piece behind the point. -/
theorem piece_of_fraction (inside : cs <:+: l.fraction) : l.Piece cs [] cs where
  written := .inl ⟨rfl, rfl⟩
  digits := by simpa using fun c mem => l.fraction_digits c (inside.subset mem)
  bounded := .inr ⟨rfl, ofDigits_le_of_infix inside⟩

/-- A piece with the point in it. -/
theorem piece_of_point (ends : whole <:+ l.whole) (begins : fraction <+: l.fraction) :
    l.Piece whole fraction (whole ++ '.' :: fraction) where
  written := .inr rfl
  digits := List.forall_mem_append.mpr
    ⟨fun c mem => l.whole_digits c (ends.subset mem),
      fun c mem => l.fraction_digits c (begins.subset mem)⟩
  bounded := by
    left
    obtain ⟨before, split⟩ := ends
    obtain ⟨behind, split'⟩ := begins
    have all : l.whole ++ l.fraction = before ++ (whole ++ fraction) ++ behind := by
      rw [← split, ← split']
      simp
    have less := ofDigits_le_of_infix (List.suffix_append before (whole ++ fraction)).isInfix
    rw [all, ofDigits_append (before ++ (whole ++ fraction)), ← split', List.length_append]
    simp only [Nat.pow_eq, Nat.pow_add]
    calc ofDigits (whole ++ fraction) * (10 ^ fraction.length * 10 ^ behind.length)
        = 10 ^ behind.length * ofDigits (whole ++ fraction) * 10 ^ fraction.length := by ring
      _ ≤ (10 ^ behind.length * ofDigits (before ++ (whole ++ fraction)) + ofDigits behind) *
          10 ^ fraction.length :=
        Nat.mul_le_mul_right _
          (Nat.le_trans (Nat.mul_le_mul_left _ less) (Nat.le_add_right _ _))

/-- **Every part of a literal behind its sign is a piece of it.** -/
theorem exists_piece (inside : cs <:+: l.unsignedChars) :
    ∃ whole fraction, l.Piece whole fraction cs := by
  have across : ∀ {ds tail}, ds <:+ l.whole → tail <+: pointed l.fraction →
      ∃ whole fraction, l.Piece whole fraction (ds ++ tail) := by
    intro ds tail ends begins
    rcases pointed_prefix begins with rfl | ⟨es, rfl, digits⟩
    · rw [List.append_nil]
      exact ⟨ds, [], piece_of_whole ends.isInfix⟩
    · exact ⟨ds, es, piece_of_point ends digits⟩
  rcases List.infix_append_iff.mp inside with inside | inside | ⟨ds, tail, rfl, ends, begins⟩
  · exact ⟨cs, [], piece_of_whole inside⟩
  · cases fraction : l.fraction with
    | nil =>
        rw [fraction] at inside
        obtain rfl := List.infix_nil.mp inside
        exact ⟨[], [], piece_of_whole List.nil_infix⟩
    | cons d r =>
        rw [fraction] at inside
        rcases List.infix_cons_iff.mp inside with begins | inside
        · exact across List.nil_suffix (fraction ▸ begins)
        · exact ⟨cs, [], piece_of_fraction (fraction ▸ inside)⟩
  · exact across ends begins

/-- A piece with a digit is a numeral. -/
theorem Piece.unsigned? (piece : l.Piece whole fraction cs) (nonempty : whole ++ fraction ≠ [])
    (negative : Bool) : Decimal.unsigned? negative cs =
      some ⟨negative, ofDigits (whole ++ fraction), -(fraction.length : Int)⟩ := by
  obtain ⟨written, digits, -⟩ := piece
  obtain ⟨whole_digits, fraction_digits⟩ := List.forall_mem_append.mp digits
  have all : ∀ {ds : List Char}, (∀ c ∈ ds, c.isDigit = true) → takeDigits ds = (ds, []) := by
    intro ds digits
    simpa [takeDigits] using takeDigits_digits_append digits []
  rcases written with ⟨rfl, rfl⟩ | rfl
  · simp_all [Decimal.unsigned?, takeFraction, exponent?]
  · have point := takeDigits_digits_append whole_digits ('.' :: fraction)
    rw [takeDigits_of_not_digit fraction (by decide), List.append_nil] at point
    simp_all [Decimal.unsigned?, takeFraction, exponent?]

theorem steps_places (digits places : Nat) :
    steps digits (-(places : Int)) = Binary64.nearest digits (Nat.pow 10 places) := by
  rw [steps_eq_nearest, show (-(places : Int)).toNat = 0 by omega,
    show (-(-(places : Int))).toNat = places by omega]
  congr 1
  exact Nat.mul_one digits

/-- A piece is not too large for a finite number. -/
theorem Piece.steps_lt_top (piece : l.Piece whole fraction cs)
    (finite : l.toBinary64.isFinite = true) (few : ofDigits l.fraction < Nat.pow 2 64) :
    steps (ofDigits (whole ++ fraction)) (-(fraction.length : Int)) < Binary64.top := by
  have below : steps (ofDigits (l.whole ++ l.fraction)) (-(l.fraction.length : Int)) <
      Binary64.top := of_decide_eq_true finite
  rw [steps_places] at below ⊢
  have ten : ∀ n, 0 < Nat.pow 10 n := fun n => Nat.pow_pos (by decide)
  rcases piece.bounded with less | ⟨rfl, less⟩
  · exact Nat.lt_of_le_of_lt (Binary64.nearest_mono (ten _) (ten _) less) below
  · rw [List.append_nil]
    exact Binary64.nearest_lt_top (Nat.lt_of_le_of_lt less few)

end Literal

theorem ofText?_signed {negative : Bool} {cs : List Char} {n : Decimal}
    (numeral : unsigned? negative cs = some n) : ofText? (signed negative cs) = some n := by
  cases negative with
  | true => exact numeral
  | false =>
      obtain ⟨c, r, rfl, first⟩ := begins_of_unsigned? numeral
      have unsigned : c ≠ '-' ∧ c ≠ '+' := by
        rcases first with digit | rfl
        · obtain ⟨minus, plus, -⟩ := unsigned_of_isDigit digit
          exact ⟨minus, plus⟩
        · decide
      exact (ofText?_of_ne_sign r unsigned.1 unsigned.2).trans numeral

end Decimal

/-! ## Parts of the text of a number -/

namespace Binary64

open Decimal (Literal)

variable {cs : List Char}

theorem exists_number_of_piece {l : Literal} (finite : l.toBinary64.isFinite = true)
    (few : Decimal.ofDigits l.fraction < Nat.pow 2 64) (inside : cs <:+: l.unsignedChars)
    (nonempty : cs ≠ []) (point : cs ≠ ['.']) (negative : Bool) :
    ∃ x, finiteChars? (Decimal.signed negative cs) = some x := by
  obtain ⟨whole, fraction, piece⟩ := Literal.exists_piece inside
  have digit : whole ++ fraction ≠ [] := by
    intro none
    obtain ⟨rfl, rfl⟩ := List.append_eq_nil_iff.mp none
    rcases piece.written with ⟨rfl, -⟩ | rfl
    · exact nonempty rfl
    · exact point rfl
  have numeral := Decimal.ofText?_signed (piece.unsigned? digit negative)
  have below := piece.steps_lt_top finite few
  exact ⟨_, (finiteChars?_of_numeral numeral).trans
    (Option.filter_eq_some_iff.mpr ⟨rfl, decide_eq_true below⟩)⟩

/-- A literal has a digit before its point. -/
theorem point_not_first (l : Literal) : ¬['.'] <+: l.unsignedChars := by
  intro begins
  obtain ⟨c, r, first, digit⟩ := l.unsignedChars_eq_cons
  rw [first, List.cons_prefix_cons] at begins
  rw [← begins.1] at digit
  exact absurd digit (by decide)

/-- **A part of the text of a finite number is a lone mark or a finite number itself.** -/
theorem part_cases {x : Binary64} (finite : x.isFinite = true) (inside : cs <:+: x.chars) :
    cs = [] ∨ cs = ['.'] ∨ cs = ['-'] ∨ ∃ y, finiteChars? cs = some y := by
  cases x with
  | nan => cases finite
  | number negative place bounded =>
    obtain ⟨l, written, value, digits⟩ :=
      exists_literal_shortest negative bounded (of_decide_eq_true finite)
    have few : Decimal.ofDigits l.fraction < Nat.pow 2 64 :=
      Nat.lt_of_le_of_lt (Nat.le_trans digits (shortest_le .up bounded)) (by decide)
    rw [← value] at finite
    by_cases nonempty : cs = []
    · exact .inl nonempty
    by_cases point : cs = ['.']
    · exact .inr (.inl point)
    have behindSign : cs <:+: l.unsignedChars → ∃ y, finiteChars? cs = some y := fun inside =>
      exists_number_of_piece finite few inside nonempty point false
    rw [written, Literal.chars] at inside
    cases sign : l.negative with
    | false =>
        rw [sign] at inside
        exact .inr (.inr (.inr (behindSign inside)))
    | true =>
        rw [sign] at inside
        rcases List.infix_cons_iff.mp inside with begins | inside
        · rcases List.prefix_cons_iff.mp begins with rfl | ⟨ds, rfl, first⟩
          · exact absurd rfl nonempty
          by_cases alone : ds = []
          · rw [alone]
            exact .inr (.inr (.inl rfl))
          have digit : ds ≠ ['.'] := by
            rintro rfl
            exact point_not_first l first
          have number := exists_number_of_piece finite few first.isInfix alone digit true
          exact .inr (.inr (.inr number))
        · exact .inr (.inr (.inr (behindSign inside)))

end Binary64

/-! ## What is searched for -/

namespace NumberQuery

variable {s needle : String}

theorem ofText_trim (s : String) : ofText (Text.trim s) = ofText s := by
  rw [ofText_eq_findSome?, ofText_eq_findSome?, Text.trim_trim]

/-- What is searched for is the query without the blanks at its ends, lowered. -/
theorem needle_eq (part : ofText s = .part needle) : needle = Text.lower (Text.trim s) := by
  rw [ofText_eq_findSome?] at part
  cases found : readings.findSome? fun read => read (Text.trim s) with
  | none =>
      rw [found] at part
      exact (NumberQuery.part.inj part).symm
  | some q =>
      rw [found] at part
      obtain ⟨read, mem, reads⟩ := List.exists_of_findSome?_eq_some found
      obtain rfl : q = .part needle := part
      obtain ⟨-, e⟩ | ⟨_, _, e⟩ | ⟨_, _, e⟩ | ⟨_, e⟩ := forms_of_reading mem reads <;> cases e

/-- The text of a number is searched as it is: nothing in it can be lowered. -/
theorem accepts_part_iff {x : Binary64} (finite : x.isFinite = true) :
    (part needle).accepts (.number x) = true ↔ needle.toList <:+: x.chars := by
  have lowered : Text.lower x.text = x.text := by
    apply Text.lower_of_isPlain
    intro c mem
    obtain ⟨l, written, -⟩ := Binary64.exists_literal finite
    rw [Binary64.text, String.toList_ofList, written] at mem
    exact l.isPlain_of_mem mem
  have number : (Cell.number x).number? = some x := by
    rw [Cell.number?, Binary64.isNan_of_isFinite finite]
    rfl
  unfold accepts
  rw [number]
  dsimp only
  rw [Text.contains_iff, Cell.plain, lowered, Binary64.text, String.toList_ofList]

/-- A query that is searched for and found is a part of the text where it is found. -/
theorem part_of_found {x : Binary64} (finite : x.isFinite = true) (part : ofText s = .part needle)
    (found : (ofText s).accepts (.number x) = true) :
    (Text.trim s).toList <:+: x.chars ∧ ∀ c ∈ (Text.trim s).toList, Text.isPlain c = true := by
  obtain ⟨l, written, -⟩ := Binary64.exists_literal finite
  rw [part, accepts_part_iff finite, needle_eq part] at found
  have lowered : ∀ d ∈ Text.lowerAfter [] (Text.trim s).toList, Text.isPlain d = true := by
    intro d mem
    rw [Text.lower, String.toList_ofList] at found
    exact l.isPlain_of_mem (written ▸ found.subset mem)
  have plain := Text.isPlain_of_lowerAfter lowered
  rw [Text.lower_of_isPlain plain] at found
  exact ⟨found, plain⟩

/-- **A query that is searched for in the texts of numbers, and found in one, is a point or a
minus**, and these two are. -/
theorem searched_and_found_iff (s : String) :
    (Text.isBlankText s = false ∧ (∃ needle, ofText s = .part needle) ∧
      ∃ x : Binary64, x.isFinite = true ∧ (ofText s).accepts (.number x) = true) ↔
    Text.trim s = "." ∨ Text.trim s = "-" := by
  have chars : (Text.trim s).toList = Text.trimList s.toList := String.toList_ofList
  constructor
  · rintro ⟨written, ⟨needle, part⟩, x, finite, found⟩
    obtain ⟨inside, plain⟩ := part_of_found finite part found
    rcases Binary64.part_cases finite inside with none | point | minus | ⟨y, number⟩
    · rw [chars] at none
      exact absurd none (Text.isBlankText_eq_false_iff.mp written)
    · exact .inl (String.toList_inj.mp point)
    · exact .inr (String.toList_inj.mp minus)
    · have solid := Text.squeezeList_eq_self fun c mem => Text.isBlank_of_isPlain (plain c mem)
      have counts := compact_spaced ⟨Text.trim s, solid⟩ plain
      have read := ofText_exact (counts.symm ▸ number)
      rw [ofText_trim, part] at read
      cases read
  · intro marks
    rw [← ofText_trim, Text.isBlankText_eq_false_iff, ← chars]
    rcases marks with point | minus
    · rw [point]
      exact ⟨by decide, ⟨".", by decide +kernel⟩, .ofRatio false 1 2, by decide +kernel⟩
    · rw [minus]
      exact ⟨by decide, ⟨"-", by decide +kernel⟩, Binary64.zero.neg, by decide +kernel⟩

end NumberQuery

end Leaderboard
