/-
# Leaderboard.Text.Utf8 — bytes and characters

`pieces` cuts a run of bytes into characters and ill-formed pieces, an ill-formed piece being as
many bytes as could still have begun a character. `decode?` refuses bytes with an ill-formed piece,
`decodeLossy` puts a replacement character in its place.

Main statement: `firstPiece_length` (every piece takes at least one byte).
-/
set_option autoImplicit false

namespace Leaderboard.Text.Utf8

/-- The bytes of a run of characters. -/
def encode (cs : List Char) : List UInt8 := cs.flatMap String.utf8EncodeChar

/-- The bytes of a text. -/
def bytes (s : String) : List UInt8 := encode s.toList

/-- What a lead byte announces: its payload, how many bytes follow, and the bounds of the next. -/
structure Lead where
  payload : Nat
  following : Nat
  low : UInt8
  high : UInt8

def lead? (b : UInt8) : Option Lead :=
  if b < 0x80 then some ⟨b.toNat, 0, 0x80, 0xBF⟩
  else if b < 0xC2 then none
  else if b < 0xE0 then some ⟨b.toNat - 0xC0, 1, 0x80, 0xBF⟩
  else if b = 0xE0 then some ⟨0, 2, 0xA0, 0xBF⟩
  else if b = 0xED then some ⟨0xD, 2, 0x80, 0x9F⟩
  else if b < 0xF0 then some ⟨b.toNat - 0xE0, 2, 0x80, 0xBF⟩
  else if b = 0xF0 then some ⟨0, 3, 0x90, 0xBF⟩
  else if b < 0xF4 then some ⟨b.toNat - 0xF0, 3, 0x80, 0xBF⟩
  else if b = 0xF4 then some ⟨4, 3, 0x80, 0x8F⟩
  else none

/-- Reads the continuation bytes of a character; none when one is missing, which stays unread. -/
def continue? (low high : UInt8) : (more : Nat) → (code : Nat) → List UInt8 →
    Option Nat × List UInt8
  | 0, code, bs => (some code, bs)
  | _ + 1, _, [] => (none, [])
  | more + 1, code, b :: r =>
    if low ≤ b ∧ b ≤ high then continue? 0x80 0xBF more (code * 64 + b.toNat % 64) r
    else (none, b :: r)

theorem continue?_length (more : Nat) : ∀ (low high : UInt8) (code : Nat) (bs : List UInt8),
    (continue? low high more code bs).2.length ≤ bs.length := by
  induction more with
  | zero => intro _ _ _ _; simp [continue?]
  | succ more ih =>
    intro low high code bs
    cases bs with
    | nil => simp [continue?]
    | cons b r =>
      unfold continue?
      split
      · exact Nat.le_succ_of_le (ih _ _ _ _)
      · simp

/-- The first piece of a run of bytes that begins with `b`: a character or an ill-formed piece, and
the bytes after it. -/
def firstPiece (b : UInt8) (r : List UInt8) : Option Char × List UInt8 :=
  match lead? b with
  | none => (none, r)
  | some l =>
    let (code, rest) := continue? l.low l.high l.following l.payload r
    (code.map Char.ofNat, rest)

theorem firstPiece_length (b : UInt8) (r : List UInt8) :
    (firstPiece b r).2.length ≤ r.length := by
  unfold firstPiece
  split
  · exact Nat.le_refl _
  · exact continue?_length _ _ _ _ _

/-- The characters that a run of bytes writes, none standing for an ill-formed piece. -/
def pieces : List UInt8 → List (Option Char)
  | [] => []
  | b :: r => (firstPiece b r).1 :: pieces (firstPiece b r).2
termination_by bs => bs.length
decreasing_by exact Nat.lt_succ_of_le (firstPiece_length b r)

/-- The characters that a run of bytes writes, if it is well formed. -/
def decode? (bs : List UInt8) : Option (List Char) := (pieces bs).mapM id

def replacement : Char := Char.ofNat 0xFFFD

/-- The characters that a run of bytes writes, ill-formed pieces replaced. -/
def decodeLossy (bs : List UInt8) : List Char := (pieces bs).map (·.getD replacement)

end Leaderboard.Text.Utf8
