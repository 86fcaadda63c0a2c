/-
# Leaderboard.Json.Token — the tokens of JSON text

`Token.sequence` cuts bytes into tokens. Text that is no token ends the sequence with a `broken`
token, which tells whether a quoted text had begun and what is wrong with it, so that a reader
reports the first fault in the order of the text.

A number with more digits than 64 bits hold keeps as many leading digits as fit; the rest count as
powers of ten before the point and are dropped after it. The significand is then scaled by rounded
powers of ten, one rounding for the power and one for the product, and a value beyond the largest
finite number is a fault.

Main statements: `readToken_length` (every token takes at least its first byte) and
`numberText_length` (a number takes at least a digit), on which the sequence's end rests.
-/
import Leaderboard.Json.Value
import Leaderboard.Number.Decimal
import Leaderboard.Text.Percent

set_option autoImplicit false

namespace Leaderboard.Json

/-- What can be wrong with JSON text. -/
inductive Fault where
  | ended
  | unexpected
  | badNumber
  | numberTooLarge
  | badEscape
  | badEncoding
  | controlCharacter
  | tooDeep
  | trailing
  | notObject
deriving DecidableEq, Repr

/-- Faults by kind: the text ends too early, it has the wrong shape, or it is not JSON. -/
inductive Fault.Kind where
  | early
  | shape
  | form
deriving DecidableEq, Repr

def Fault.kind : Fault → Fault.Kind
  | .ended => .early
  | .notObject => .shape
  | _ => .form

inductive Token where
  | openArray
  | closeArray
  | openObject
  | closeObject
  | comma
  | colon
  | text (s : String)
  | scalar (v : Json)
  | broken (inText : Bool) (fault : Fault)

/-! ## Quoted texts -/

/-- The value of four hexadecimal digits at the start, and what follows them. -/
def fourDigits : List UInt8 → Except Fault (Nat × List UInt8)
  | a :: b :: c :: d :: r =>
    match Text.Percent.digit? a, Text.Percent.digit? b, Text.Percent.digit? c,
      Text.Percent.digit? d with
    | some a, some b, some c, some d => .ok (((a * 16 + b) * 16 + c) * 16 + d, r)
    | _, _, _, _ => .error .badEscape
  | _ => .error .ended

/-- The low half of a surrogate pair, which must follow its high half as an escape of its own. -/
def lowHalf : List UInt8 → Except Fault (Nat × List UInt8)
  | [] => .error .ended
  | b :: r =>
    if b ≠ 0x5C then .error .badEscape
    else
      match r with
      | [] => .error .ended
      | u :: r =>
        if u ≠ 0x75 then .error .badEscape
        else
          match fourDigits r with
          | .error f => .error f
          | .ok (n, r) => if 0xDC00 ≤ n ∧ n ≤ 0xDFFF then .ok (n, r) else .error .badEscape

/-- The character of a numbered escape. -/
def numberedEscape (r : List UInt8) : Except Fault (Char × List UInt8) :=
  match fourDigits r with
  | .error f => .error f
  | .ok (n, r) =>
    if 0xDC00 ≤ n ∧ n ≤ 0xDFFF then .error .badEscape
    else if 0xD800 ≤ n ∧ n ≤ 0xDBFF then
      match lowHalf r with
      | .error f => .error f
      | .ok (low, r) => .ok (Char.ofNat (0x10000 + (n - 0xD800) * 0x400 + (low - 0xDC00)), r)
    else .ok (Char.ofNat n, r)

/-- The character that a one-letter escape stands for. -/
def shortEscape? (b : UInt8) : Option Char :=
  if b = 0x22 then some '"'
  else if b = 0x5C then some (Char.ofNat 0x5C)
  else if b = 0x2F then some '/'
  else if b = 0x62 then some (Char.ofNat 8)
  else if b = 0x66 then some (Char.ofNat 12)
  else if b = 0x6E then some (Char.ofNat 10)
  else if b = 0x72 then some (Char.ofNat 13)
  else if b = 0x74 then some (Char.ofNat 9)
  else none

/-- The character of an escape, after its backslash. -/
def escaped : List UInt8 → Except Fault (Char × List UInt8)
  | [] => .error .ended
  | b :: r =>
    match shortEscape? b with
    | some c => .ok (c, r)
    | none => if b = 0x75 then numberedEscape r else .error .badEscape

theorem fourDigits_length {r rest : List UInt8} {n : Nat} (h : fourDigits r = .ok (n, rest)) :
    rest.length ≤ r.length := by
  unfold fourDigits at h
  split at h
  · split at h
    · cases h
      simp only [List.length_cons]
      omega
    · cases h
  · cases h

theorem lowHalf_length {r rest : List UInt8} {n : Nat} (h : lowHalf r = .ok (n, rest)) :
    rest.length ≤ r.length := by
  unfold lowHalf at h
  split at h
  · cases h
  split at h
  · cases h
  split at h
  · cases h
  split at h
  · cases h
  split at h
  · cases h
  rename_i four
  split at h
  · cases h
    have := fourDigits_length four
    simp only [List.length_cons]
    omega
  · cases h

theorem numberedEscape_length {r rest : List UInt8} {c : Char}
    (h : numberedEscape r = .ok (c, rest)) : rest.length ≤ r.length := by
  unfold numberedEscape at h
  split at h
  · cases h
  rename_i four
  have := fourDigits_length four
  split at h
  · cases h
  split at h
  · split at h
    · cases h
    · rename_i low
      have := lowHalf_length low
      simp only [Except.ok.injEq, Prod.mk.injEq] at h
      rw [← h.2]
      omega
  · simp only [Except.ok.injEq, Prod.mk.injEq] at h
    rw [← h.2]
    omega

theorem escaped_length {r rest : List UInt8} {c : Char} (h : escaped r = .ok (c, rest)) :
    rest.length ≤ r.length := by
  unfold escaped at h
  split at h
  · cases h
  split at h
  · cases h
    simp
  split at h
  · exact Nat.le_succ_of_le (numberedEscape_length h)
  · cases h

/-- The bytes of a quoted text up to its closing quote, `taken` being those before, last first. -/
def quotedBytes (taken : List UInt8) (bs : List UInt8) :
    Except Fault (List UInt8 × List UInt8) :=
  match bs with
  | [] => .error .ended
  | b :: r =>
    if b = 0x22 then .ok (taken.reverse, r)
    else if b = 0x5C then
      match _h : escaped r with
      | .error f => .error f
      | .ok (c, rest) => quotedBytes ((String.utf8EncodeChar c).reverse ++ taken) rest
    else if b < 0x20 then .error .controlCharacter
    else quotedBytes (b :: taken) r
termination_by bs.length
decreasing_by
  · have := escaped_length (by assumption)
    simp only [List.length_cons]
    omega
  · simp

theorem quotedBytes_length {taken bs out rest : List UInt8}
    (h : quotedBytes taken bs = .ok (out, rest)) : rest.length ≤ bs.length := by
  fun_induction quotedBytes taken bs with
  | case1 => cases h
  | case2 => cases h; simp
  | case3 => cases h
  | case4 taken r c rest esc _ ih =>
    have := escaped_length esc
    have := ih h
    simp only [List.length_cons]
    omega
  | case5 => cases h
  | case6 =>
    rename_i ih
    have := ih h
    simp only [List.length_cons]
    omega

/-- A quoted text, after its opening quote. Its encoding is checked when it has ended. -/
def quotedText (bs : List UInt8) : Except Fault (String × List UInt8) :=
  match quotedBytes [] bs with
  | .error f => .error f
  | .ok (taken, rest) =>
    match Text.Utf8.decode? taken with
    | none => .error .badEncoding
    | some cs => .ok (String.ofList cs, rest)

theorem quotedText_length {bs rest : List UInt8} {s : String}
    (h : quotedText bs = .ok (s, rest)) : rest.length ≤ bs.length := by
  unfold quotedText at h
  split at h
  · cases h
  rename_i body
  split at h
  · cases h
  · cases h
    exact quotedBytes_length body

/-! ## The parts of a number -/

/-- A number as it is written, without its sign: the digits before and after the point, and the
sign and size of the exponent. -/
structure NumberText where
  whole : List Nat
  fraction : List Nat
  exponent? : Option (Bool × Nat)

def isDigit (b : UInt8) : Bool := 0x30 ≤ b && b ≤ 0x39

/-- The leading decimal digits, as numbers, and what follows them; it is a fault if there are
none. -/
def digitRun (bs : List UInt8) : Except Fault (List Nat × List UInt8) :=
  let rest := bs.dropWhile isDigit
  if (bs.takeWhile isDigit).isEmpty then .error (if rest.isEmpty then .ended else .badNumber)
  else .ok ((bs.takeWhile isDigit).map fun b => b.toNat - 0x30, rest)

/-- The digits after a point; none without a point. -/
def fractionPart : List UInt8 → Except Fault (List Nat × List UInt8)
  | [] => .ok ([], [])
  | b :: r => if b = 0x2E then digitRun r else .ok ([], b :: r)

/-- The sign in front of an exponent, true for minus, and what follows it. -/
def exponentSign : List UInt8 → Bool × List UInt8
  | [] => (false, [])
  | b :: r => if b = 0x2D then (true, r) else if b = 0x2B then (false, r) else (false, b :: r)

/-- The sign and size of an exponent; nothing without its letter. -/
def exponentPart : List UInt8 → Except Fault (Option (Bool × Nat) × List UInt8)
  | [] => .ok (none, [])
  | b :: r =>
    if b = 0x65 ∨ b = 0x45 then
      match digitRun (exponentSign r).2 with
      | .error f => .error f
      | .ok (ds, rest) =>
        .ok (some ((exponentSign r).1, ds.foldl (fun n d => n * 10 + d) 0), rest)
    else .ok (none, b :: r)

/-- The parts of a number after its sign. A zero in front stands alone. -/
def numberText (bs : List UInt8) : Except Fault (NumberText × List UInt8) :=
  match digitRun bs with
  | .error f => .error f
  | .ok (whole, r) =>
    if whole.head? = some 0 ∧ whole.length ≠ 1 then .error .badNumber
    else
      match fractionPart r with
      | .error f => .error f
      | .ok (fraction, r) =>
        match exponentPart r with
        | .error f => .error f
        | .ok (exponent?, r) => .ok (⟨whole, fraction, exponent?⟩, r)

theorem digitRun_length {bs rest : List UInt8} {ds : List Nat}
    (h : digitRun bs = .ok (ds, rest)) : rest.length < bs.length := by
  have parts := congrArg List.length (List.takeWhile_append_dropWhile (p := isDigit) (l := bs))
  rw [List.length_append] at parts
  unfold digitRun at h
  dsimp only at h
  split at h
  · cases h
  · rename_i some_digit
    rw [List.isEmpty_iff] at some_digit
    have positive := List.length_pos_iff.mpr some_digit
    simp only [Except.ok.injEq, Prod.mk.injEq] at h
    rw [← h.2]
    omega

theorem fractionPart_length {bs rest : List UInt8} {ds : List Nat}
    (h : fractionPart bs = .ok (ds, rest)) : rest.length ≤ bs.length := by
  unfold fractionPart at h
  split at h
  · cases h; simp
  split at h
  · have := digitRun_length h
    simp only [List.length_cons]
    omega
  · cases h; simp

theorem exponentSign_length (bs : List UInt8) : (exponentSign bs).2.length ≤ bs.length := by
  unfold exponentSign
  split
  · simp
  split
  · simp
  split <;> simp

theorem exponentPart_length {bs rest : List UInt8} {e : Option (Bool × Nat)}
    (h : exponentPart bs = .ok (e, rest)) : rest.length ≤ bs.length := by
  unfold exponentPart at h
  split at h
  · cases h; simp
  split at h
  · split at h
    · cases h
    · rename_i r _ _ _ _ run
      cases h
      have := digitRun_length run
      have := exponentSign_length r
      simp only [List.length_cons]
      omega
  · cases h; simp

theorem numberText_length {bs rest : List UInt8} {t : NumberText}
    (h : numberText bs = .ok (t, rest)) : rest.length < bs.length := by
  unfold numberText at h
  split at h
  · cases h
  rename_i run
  split at h
  · cases h
  split at h
  · cases h
  rename_i frac
  split at h
  · cases h
  rename_i expo
  cases h
  have := digitRun_length run
  have := fractionPart_length frac
  have := exponentPart_length expo
  omega

/-! ## The value of a number -/

/-- Appends digits to a significand as long as 64 bits hold it; how many digits are left. -/
def appendDigits : Nat → List Nat → Nat × Nat
  | significand, [] => (significand, 0)
  | significand, d :: r =>
    if significand * 10 + d ≤ wordLimit then appendDigits (significand * 10 + d) r
    else (significand, r.length + 1)

theorem appendDigits_le (digits : List Nat) : ∀ {significand : Nat}, significand ≤ wordLimit →
    (appendDigits significand digits).1 ≤ wordLimit := by
  induction digits with
  | nil => exact fun h => h
  | cons d r ih =>
    intro significand h
    unfold appendDigits
    split
    · rename_i fits
      exact ih fits
    · exact h

/-- The largest power of ten that scaling uses. -/
def scaleLimit : Nat := 308

/-- The place of a magnitude times ten to the power `exponent`; none beyond the finite numbers. -/
def scaleUp? (place exponent : Nat) : Option Nat :=
  if place = 0 then some 0
  else if scaleLimit < exponent then none
  else
    let product := Binary64.productSteps place (Decimal.steps 1 exponent)
    if product < Binary64.top then some product else none

/-- The place of a magnitude divided by ten to the power `exponent`. Each step divides by at most
`scaleLimit` powers and rounds. -/
def scaleDown (place exponent : Nat) : Nat :=
  if place = 0 then 0
  else if scaleLimit < exponent then
    scaleDown (Binary64.quotientSteps place (Decimal.steps 1 scaleLimit)) (exponent - scaleLimit)
  else Binary64.quotientSteps place (Decimal.steps 1 exponent)
termination_by exponent
decreasing_by
  unfold scaleLimit at *
  omega

/-- The place of a significand times a power of ten; none beyond the finite numbers. -/
def scale? (significand : Nat) (exponent : Int) : Option Nat :=
  let place := Binary64.nearest significand 1
  if 0 ≤ exponent then scaleUp? place exponent.toNat
  else some (scaleDown place (-exponent).toNat)

/-- The largest exponent that is counted. Beyond it a number other than zero is too large or
becomes zero. -/
def exponentLimit : Nat := Nat.pow 2 31 - 1

/-- The place of a number that is written with a point, an exponent or too many digits. -/
def NumberText.place? (t : NumberText) : Option Nat :=
  let (significand, dropped) := appendDigits 0 t.whole
  let (significand, left) := appendDigits significand t.fraction
  let exponent : Int := dropped - (t.fraction.length - left : Nat)
  match t.exponent? with
  | none => scale? significand exponent
  | some (down, size) =>
    if exponentLimit < size then
      if significand ≠ 0 ∧ !down then none else some 0
    else scale? significand (if down then exponent - size else exponent + size)

/-- Whether a number is a whole number of 64 bits, apart from its sign. -/
def NumberText.isWhole (t : NumberText) : Bool :=
  t.fraction.isEmpty && t.exponent?.isNone && (appendDigits 0 t.whole).2 == 0

/-- The number that a text writes. A whole number stays whole if 64 bits hold it with its sign;
negative zero is no whole number. -/
def NumberText.value (negative : Bool) (t : NumberText) : Except Fault Number :=
  let whole := (appendDigits 0 t.whole).1
  have fits := appendDigits_le t.whole (Nat.zero_le _)
  if t.isWhole ∧ !negative then .ok (.natural whole fits)
  else if t.isWhole ∧ whole ≠ 0 ∧ whole ≤ Nat.pow 2 63 then .ok (.negated whole fits)
  else
    match t.place? with
    | none => .error .numberTooLarge
    | some place =>
      if h : place < Binary64.top then .ok (.finite negative place h)
      else .error .numberTooLarge

/-- A number, after its sign. -/
def unsignedNumber (negative : Bool) (bs : List UInt8) : Except Fault (Number × List UInt8) :=
  match numberText bs with
  | .error f => .error f
  | .ok (t, rest) => (t.value negative).map (·, rest)

theorem unsignedNumber_length {negative : Bool} {bs rest : List UInt8} {n : Number}
    (h : unsignedNumber negative bs = .ok (n, rest)) : rest.length < bs.length := by
  unfold unsignedNumber at h
  split at h
  · cases h
  rename_i t r text
  cases e : t.value negative with
  | error f => rw [e] at h; cases h
  | ok v =>
    rw [e] at h
    cases h
    exact numberText_length text

/-! ## Tokens -/

/-- What follows a word that must stand at the start. -/
def afterWord : List Char → List UInt8 → Except Fault (List UInt8)
  | [], bs => .ok bs
  | _ :: _, [] => .error .ended
  | c :: cs, b :: r => if b.toNat = c.toNat then afterWord cs r else .error .unexpected

theorem afterWord_length {cs : List Char} : ∀ {bs rest : List UInt8},
    afterWord cs bs = .ok rest → rest.length ≤ bs.length := by
  induction cs with
  | nil => intro bs rest h; cases h; exact Nat.le_refl _
  | cons c cs ih =>
    intro bs rest h
    cases bs with
    | nil => cases h
    | cons b r =>
      unfold afterWord at h
      split at h
      · exact Nat.le_succ_of_le (ih h)
      · cases h

/-- The blanks between tokens. -/
def isSpace (b : UInt8) : Bool := b == 0x20 || b == 0x0A || b == 0x09 || b == 0x0D

/-- The token that is one byte. -/
def punctuation? (b : UInt8) : Option Token :=
  if b = 0x5B then some .openArray
  else if b = 0x5D then some .closeArray
  else if b = 0x7B then some .openObject
  else if b = 0x7D then some .closeObject
  else if b = 0x2C then some .comma
  else if b = 0x3A then some .colon
  else none

/-- The word that begins with a byte: what follows that byte, and the value. -/
def word? (b : UInt8) : Option (List Char × Json) :=
  if b = 0x6E then some ("ull".toList, .null)
  else if b = 0x74 then some ("rue".toList, .bool true)
  else if b = 0x66 then some ("alse".toList, .bool false)
  else none

/-- The token that begins with a byte that is no blank, and the bytes after it. -/
def readToken (b : UInt8) (r : List UInt8) : Except Fault (Token × List UInt8) :=
  match punctuation? b, word? b with
  | some t, _ => .ok (t, r)
  | none, some (word, v) => (afterWord word r).map fun rest => (.scalar v, rest)
  | none, none =>
    if b = 0x22 then (quotedText r).map fun (s, rest) => (.text s, rest)
    else if b = 0x2D then (unsignedNumber true r).map fun (n, rest) => (.scalar (.number n), rest)
    else if isDigit b then
      (unsignedNumber false (b :: r)).map fun (n, rest) => (.scalar (.number n), rest)
    else .error .unexpected

theorem readToken_length {b : UInt8} {r rest : List UInt8} {t : Token}
    (h : readToken b r = .ok (t, rest)) : rest.length ≤ r.length := by
  have mapped : ∀ {α : Type} {x : Except Fault α} {f : α → Token × List UInt8},
      x.map f = .ok (t, rest) → ∃ a, x = .ok a ∧ f a = (t, rest) := by
    intro α x f e
    cases x with
    | error => cases e
    | ok a => exact ⟨a, rfl, Except.ok.inj e⟩
  unfold readToken at h
  split at h
  · cases h
    exact Nat.le_refl _
  · obtain ⟨q, e, f⟩ := mapped h
    cases f
    exact afterWord_length e
  split at h
  · obtain ⟨⟨s, q⟩, e, f⟩ := mapped h
    cases f
    exact quotedText_length e
  split at h
  · obtain ⟨⟨s, q⟩, e, f⟩ := mapped h
    cases f
    exact Nat.le_of_lt (unsignedNumber_length e)
  split at h
  · obtain ⟨⟨s, q⟩, e, f⟩ := mapped h
    cases f
    have := unsignedNumber_length e
    simp only [List.length_cons] at this
    omega
  · cases h

/-- The tokens of a run of bytes; a broken one is the last. -/
def Token.sequence : List UInt8 → List Token
  | [] => []
  | b :: r =>
    if isSpace b then Token.sequence r
    else
      match _h : readToken b r with
      | .error f => [.broken (b == 0x22) f]
      | .ok (t, rest) => t :: Token.sequence rest
termination_by bs => bs.length
decreasing_by
  · simp
  · exact Nat.lt_succ_of_le (readToken_length (by assumption))

end Leaderboard.Json
