/-
# Leaderboard.Proofs.ByteScan — a scan by byte offsets cuts between characters

A number at the start of a text may be looked for among its bytes: the offset runs over the digits,
over a point if a digit follows it, and again over digits. The text is then cut at the offset, which
must not be inside a character, and what is before the cut is read as a number, which must not fail.

Neither happens. Digits, minus and point have one byte each, and no byte of a longer character is
one of theirs (`utf8EncodeChar_cases`), so the offset counts characters as it counts bytes
(`digitsEnd_encode`, `cutFrom?_encode`) and ends where the scan of the characters does
(`cut?_encode`). What is before it is the longest literal, and a literal is a numeral.

* `scansLiteral`: this for every text.
-/
import Leaderboard.Number.Literal
import Leaderboard.Number.Text
import Leaderboard.Proofs.EscapedText

set_option autoImplicit false

namespace Leaderboard

open Leaderboard.Text.Utf8 (encode bytes decode?)

/-! ## Scanning bytes -/

namespace Decimal

def isDigitByte (b : UInt8) : Bool := 0x30 ≤ b && b ≤ 0x39

/-- The offset at which the digits end that begin at an offset. -/
def digitsEnd (bs : List UInt8) (i : Nat) : Nat :=
  if inside : i < bs.length then
    if isDigitByte bs[i] then digitsEnd bs (i + 1) else i
  else i
termination_by bs.length - i

/-- The offset at which a point and digits end that begin at an offset. A point alone is left. -/
def fractionEnd (bs : List UInt8) (i : Nat) : Nat :=
  let after := digitsEnd bs (i + 1)
  if bs[i]? = some 0x2E ∧ i + 1 < after then after else i

/-- The offset at which the longest `d+(.d+)?` ends that begins at an offset. -/
def cutFrom? (bs : List UInt8) (start : Nat) : Option Nat :=
  let whole := digitsEnd bs start
  if whole = start then none else some (fractionEnd bs whole)

/-- The offset at which the longest `-?d+(.d+)?` at the start ends. -/
def cut? (bs : List UInt8) : Option Nat := cutFrom? bs (if bs[0]? = some 0x2D then 1 else 0)

end Decimal

/-- What a scan of bytes comes to. -/
inductive ByteScan where
  /-- No literal begins the text. -/
  | nothing
  /-- The cut is inside a character. -/
  | torn
  /-- What is before the cut is no number. -/
  | unread
  /-- A number, and the text after the cut. -/
  | found (x : Binary64) (rest : List Char)

/-- Scans the bytes of a text. -/
def ByteScan.of (s : String) : ByteScan :=
  let bs := bytes s
  match Decimal.cut? bs with
  | none => .nothing
  | some cut =>
    match decode? (bs.take cut), decode? (bs.drop cut) with
    | some taken, some rest =>
      match Binary64.ofChars? taken with
      | some x => .found x rest
      | none => .unread
    | _, _ => .torn

/-! ## Bytes of the characters of a literal -/

/-- A character of one byte is that byte, any other begins with a byte beyond ASCII. -/
theorem Text.Utf8.utf8EncodeChar_cases (c : Char) :
    (c.toNat < 0x80 ∧ String.utf8EncodeChar c = [UInt8.ofNat c.toNat]) ∨
      (0x80 ≤ c.toNat ∧ ∃ b bs, String.utf8EncodeChar c = b :: bs ∧ 0x80 ≤ b.toNat) := by
  have code : c.val.toNat = c.toNat := rfl
  unfold String.utf8EncodeChar
  dsimp only
  rw [code]
  split
  · exact .inl ⟨by omega, rfl⟩
  · refine .inr ⟨by omega, ?_⟩
    repeat' split
    all_goals
      refine ⟨_, _, rfl, ?_⟩
      rw [UInt8.toNat_ofNat']
      omega

namespace Decimal

theorem isDigitByte_iff {b : UInt8} : isDigitByte b = true ↔ 48 ≤ b.toNat ∧ b.toNat ≤ 57 := by
  rw [isDigitByte, Bool.and_eq_true, decide_eq_true_iff, decide_eq_true_iff,
    UInt8.le_iff_toNat_le, UInt8.le_iff_toNat_le]
  rfl

/-- The first byte of a text is a digit, or a given mark, if its first character is. -/
theorem head_encode (c : Char) (r : List Char) : ∃ b bs, encode (c :: r) = b :: bs ∧
    isDigitByte b = c.isDigit ∧
      (∀ mark : Char, mark.toNat < 0x80 → (b = UInt8.ofNat mark.toNat ↔ c = mark)) ∧
      (c.toNat < 0x80 → bs = encode r) := by
  rw [Text.Utf8.encode_cons]
  rcases Text.Utf8.utf8EncodeChar_cases c with ⟨ascii, bytes⟩ | ⟨beyond, b, bs, bytes, lead⟩
  · have own := Text.Utf8.toNat_ofNat_of_ascii ascii
    refine ⟨_, _, by rw [bytes]; rfl, ?_, fun mark small => ?_, fun _ => rfl⟩
    · rw [Bool.eq_iff_iff, isDigitByte_iff, Text.isDigit_iff, own]
    · rw [← UInt8.toNat_inj, own, Text.Utf8.toNat_ofNat_of_ascii small, Char.toNat_inj]
  · refine ⟨b, bs ++ encode r, by rw [bytes]; rfl, ?_, fun mark small => ?_, fun ascii => ?_⟩
    · rw [Bool.eq_iff_iff, isDigitByte_iff, Text.isDigit_iff]
      omega
    · rw [← UInt8.toNat_inj, Text.Utf8.toNat_ofNat_of_ascii small]
      refine iff_of_false (by omega) ?_
      rintro rfl
      omega
    · omega

/-! ## The offset counts characters -/

theorem digitsEnd_of_digit {b : UInt8} (digit : isDigitByte b = true) (front r : List UInt8) :
    digitsEnd (front ++ b :: r) front.length =
      digitsEnd (front ++ [b] ++ r) (front ++ [b]).length := by
  rw [digitsEnd, dif_pos (by simp), if_pos (by simpa using digit)]
  simp

theorem digitsEnd_of_stop {front r : List UInt8}
    (stop : ∀ b s, r = b :: s → isDigitByte b = false) :
    digitsEnd (front ++ r) front.length = front.length := by
  cases r with
  | nil => rw [digitsEnd, dif_neg (by simp)]
  | cons b s =>
      rw [digitsEnd, dif_pos (by simp), if_neg]
      simpa using stop b s rfl

/-- From the start of a text the offset runs over its leading digits. -/
theorem digitsEnd_encode (cs : List Char) : ∀ front : List UInt8,
    digitsEnd (front ++ encode cs) front.length = front.length + (takeDigits cs).1.length := by
  induction cs with
  | nil => exact fun front => digitsEnd_of_stop nofun
  | cons c r ih =>
      intro front
      obtain ⟨b, bs, bytes, class', -, single⟩ := head_encode c r
      rw [bytes]
      cases digit : c.isDigit with
      | true =>
          have ascii : c.toNat < 0x80 := by
            rw [Text.isDigit_iff] at digit
            omega
          rw [digitsEnd_of_digit (class'.trans digit), single ascii, ih]
          simp [takeDigits, digit]
          omega
      | false =>
          rw [takeDigits_of_not_digit r digit, digitsEnd_of_stop]
          · rfl
          · rintro d s same
            rw [← (List.cons.inj same).1, class', digit]

theorem length_encode {cs : List Char} (ascii : ∀ c ∈ cs, c.toNat < 0x80) :
    (encode cs).length = cs.length := by
  rw [Text.Utf8.encode_of_ascii ascii, List.length_map]

theorem ascii_of_isDigit {c : Char} (digit : c.isDigit = true) : c.toNat < 0x80 := by
  rw [Text.isDigit_iff] at digit
  omega

/-- A point is taken with the digits behind it, and not without. -/
theorem scanFraction_point (r : List Char) :
    scanFraction ('.' :: r) = if (takeDigits r).1 = [] then ([], '.' :: r) else takeDigits r := by
  cases r with
  | nil => rfl
  | cons c s =>
      cases digit : c.isDigit with
      | true => simp [scanFraction, takeDigits, digit]
      | false => simp [scanFraction, takeDigits, digit]

theorem scanFraction_of_other {c : Char} (point : c ≠ '.') (r : List Char) :
    scanFraction (c :: r) = ([], c :: r) := by
  unfold scanFraction
  split
  · rename_i same
    exact absurd (List.cons.inj same).1 point
  · rfl

/-- Behind the whole part the offset runs over a fraction where the scan does. -/
theorem fractionEnd_encode (front : List UInt8) (r : List Char) :
    fractionEnd (front ++ encode r) front.length =
      front.length + (r.length - (scanFraction r).2.length) := by
  unfold fractionEnd
  dsimp only
  cases r with
  | nil => simp [encode, scanFraction]
  | cons c s =>
      obtain ⟨b, bs, bytes, -, mark, single⟩ := head_encode c s
      have here : (front ++ b :: bs)[front.length]? = some 0x2E ↔ c = '.' := by
        rw [← mark '.' (by decide)]
        simp
      rw [bytes]
      simp only [here]
      by_cases point : c = '.'
      · subst point
        have behind := digitsEnd_encode s (front ++ [b])
        rw [List.append_assoc, List.length_append, ← single (by decide)] at behind
        simp only [List.singleton_append, List.length_singleton] at behind
        have taken := congrArg List.length (takeDigits_append s)
        rw [List.length_append] at taken
        rw [behind, scanFraction_point]
        by_cases alone : (takeDigits s).1 = []
        · rw [if_pos alone, if_neg (by simp [alone])]
          simp
        · have digits : 0 < (takeDigits s).1.length := List.length_pos_iff.mpr alone
          rw [if_neg alone, if_pos ⟨rfl, by omega⟩, List.length_cons, ← taken]
          omega
      · rw [if_neg fun both => point both.1, scanFraction_of_other point]
        simp

/-- From the start of a text the offset runs over what a scan takes. -/
theorem cutFrom?_encode (negative : Bool) (cs : List Char) (front : List UInt8) :
    cutFrom? (front ++ encode cs) front.length =
      (scanUnsigned? negative cs).map fun found => front.length + (cs.length - found.2.length) := by
  have digits : ∀ c ∈ (takeDigits cs).1, c.toNat < 0x80 :=
    fun c mem => ascii_of_isDigit (isDigit_of_mem_takeDigits mem)
  have append := takeDigits_append cs
  have taken := congrArg List.length append
  rw [List.length_append] at taken
  unfold cutFrom? scanUnsigned?
  dsimp only
  rw [digitsEnd_encode]
  by_cases alone : (takeDigits cs).1 = []
  · rw [if_pos (by simp [alone]), if_pos (by simp [alone])]
    rfl
  have fraction := fractionEnd_encode (front ++ encode (takeDigits cs).1) (takeDigits cs).2
  rw [List.append_assoc, ← Text.Utf8.encode_append, append, List.length_append,
    length_encode digits] at fraction
  have written : 0 < (takeDigits cs).1.length := List.length_pos_iff.mpr alone
  rw [if_neg (by omega), if_neg (by simpa using alone), fraction, Option.map_some]
  refine congrArg some ?_
  dsimp only
  rcases scanFraction_append (takeDigits cs).2 with ⟨-, same⟩ | split
  · rw [same]
    omega
  · have whole := congrArg List.length split
    simp only [List.cons_append, List.length_cons, List.length_append] at whole
    omega

/-- **The offset ends where the scan of the characters does.** -/
theorem cut?_encode (cs : List Char) :
    cut? (encode cs) = (scan? cs).map fun found => cs.length - found.2.length := by
  unfold cut?
  cases cs with
  | nil => exact cutFrom?_encode false [] []
  | cons c r =>
      obtain ⟨b, bs, bytes, -, mark, single⟩ := head_encode c r
      have minus : b = 0x2D ↔ c = '-' := mark '-' (by decide)
      by_cases signed : c = '-'
      · have sign := minus.mpr signed
        subst signed sign
        have cut := cutFrom?_encode true r [0x2D]
        rw [bytes, single (by decide)]
        refine cut.trans ?_
        change _ = (scanUnsigned? true r).map _
        cases scan : scanUnsigned? true r with
        | none => rfl
        | some found =>
            obtain ⟨l, -, split, -⟩ := exists_of_scanUnsigned? scan
            have whole := congrArg List.length split
            rw [List.length_append] at whole
            simp only [Option.map_some, List.length_cons, List.length_nil, Option.some.injEq]
            omega
      · have start : (encode (c :: r))[0]? ≠ some 0x2D := by
          rw [bytes]
          simpa [minus] using signed
        rw [if_neg start, scan?_of_ne_minus r signed]
        have cut := cutFrom?_encode false (c :: r) []
        simpa using cut

/-! ## Literals are cut off whole -/

namespace Literal

theorem ascii (l : Literal) : ∀ c ∈ l.chars, c.toNat < 0x80 := by
  have whole : ∀ c ∈ l.whole, c.toNat < 0x80 := fun c mem => ascii_of_isDigit (l.whole_digits c mem)
  have fraction : ∀ c ∈ pointed l.fraction, c.toNat < 0x80 := by
    have digits := l.fraction_digits
    cases fraction : l.fraction with
    | nil => exact nofun
    | cons d r =>
        rw [fraction] at digits
        exact List.forall_mem_cons.mpr ⟨by decide, fun c mem => ascii_of_isDigit (digits c mem)⟩
  have unsigned : ∀ c ∈ l.unsignedChars, c.toNat < 0x80 :=
    List.forall_mem_append.mpr ⟨whole, fraction⟩
  unfold chars signed
  split
  · exact List.forall_mem_cons.mpr ⟨by decide, unsigned⟩
  · exact unsigned

theorem ofChars?_chars (l : Literal) : Binary64.ofChars? l.chars = some l.toBinary64 := by
  unfold Binary64.ofChars?
  rw [l.ofText?_chars]
  rfl

/-- The offset is at the end of the longest literal. -/
theorem Leads.cut? {l : Literal} {cs rest : List Char} (leads : l.Leads cs rest) :
    Decimal.cut? (encode cs) = some (encode l.chars).length := by
  rw [cut?_encode, scan?_eq_some_iff.mpr ⟨l, leads, rfl⟩, Option.map_some, length_encode l.ascii,
    leads.split]
  simp

end Literal

end Decimal

/-- A text can be cut behind any of its beginnings. -/
theorem Text.Utf8.isValid_of_append {s : String} {front back : List Char}
    (split : s.toList = front ++ back) :
    (⟨(encode front).length⟩ : String.Pos.Raw).IsValid s := by
  refine String.Pos.Raw.isValid_iff_exists_append.mpr
    ⟨String.ofList front, String.ofList back, ?_, ?_⟩
  · rw [← String.ofList_append, ← split, String.ofList_toList]
  · have size : (String.ofList front).utf8ByteSize = (encode front).length := by
      rw [← String.size_toByteArray, String.toByteArray_ofList, List.utf8Encode,
        List.size_toByteArray]
      rfl
    rw [← size]
    rfl

/-- The scan of the bytes finds what the scan of the characters finds. -/
theorem ByteScan.of_eq (s : String) : ByteScan.of s =
    match Decimal.scan? s.toList with
    | none => .nothing
    | some (d, rest) => .found d.toBinary64 rest := by
  unfold ByteScan.of
  dsimp only
  cases scan : Decimal.scan? s.toList with
  | none =>
      have cut := Decimal.cut?_encode s.toList
      rw [scan] at cut
      rw [show Decimal.cut? (bytes s) = none from cut]
  | some found =>
      obtain ⟨d, rest⟩ := found
      obtain ⟨l, leads, rfl⟩ := Decimal.scan?_eq_some_iff.mp scan
      have parts : bytes s = encode l.chars ++ encode rest := by
        rw [← Text.Utf8.encode_append, ← leads.split]
        rfl
      rw [show Decimal.cut? (bytes s) = some _ from leads.cut?, parts]
      dsimp only
      rw [List.take_left, List.drop_left, Text.Utf8.decode?_encode, Text.Utf8.decode?_encode]
      dsimp only
      rw [l.ofChars?_chars]
      rfl

/-! ## The law -/

/-- What a scan finds at the start of a text. -/
structure ScansLiteral (s : String) : Prop where
  /-- Something is found exactly if a literal begins the text. -/
  begins : (Decimal.scan? s.toList).isSome = true ↔
    ∃ (l : Decimal.Literal) (rest : List Char), s.toList = l.chars ++ rest
  /-- It is the longest one, and what follows it is left. Its last byte is the last one before the
  offset, which is not inside a character, and what is before the offset is read as its value. -/
  longest : ∀ (d : Decimal) (rest : List Char), Decimal.scan? s.toList = some (d, rest) →
    ∃ l : Decimal.Literal, l.Leads s.toList rest ∧
      Decimal.cut? (bytes s) = some (encode l.chars).length ∧
      (⟨(encode l.chars).length⟩ : String.Pos.Raw).IsValid s ∧
      Binary64.ofChars? l.chars = some d.toBinary64 ∧ d.toBinary64.isNan = false
  /-- So a scan of the bytes finds the same, and neither tears a character nor fails to read what it
  took. -/
  agrees : ByteScan.of s =
    match Decimal.scan? s.toList with
    | none => .nothing
    | some (d, rest) => .found d.toBinary64 rest

/-- **A scan cuts off the longest literal at the start of a text**, by bytes as by characters. -/
theorem scansLiteral (s : String) : ScansLiteral s where
  begins := by
    constructor
    · intro found
      obtain ⟨⟨d, rest⟩, scan⟩ := Option.isSome_iff_exists.mp found
      obtain ⟨l, split, -⟩ := Decimal.exists_of_scan? scan
      exact ⟨l, rest, split⟩
    · rintro ⟨l, rest, split⟩
      obtain ⟨d, tail, scan, -⟩ := l.scan?_append rest
      rw [split, scan]
      rfl
  longest d rest scan := by
    obtain ⟨l, leads, rfl⟩ := Decimal.scan?_eq_some_iff.mp scan
    exact ⟨l, leads, leads.cut?, Text.Utf8.isValid_of_append leads.split, l.ofChars?_chars, rfl⟩
  agrees := ByteScan.of_eq s

end Leaderboard
