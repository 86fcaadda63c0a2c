/-
# Leaderboard.Proofs.EscapedText — texts come back from their bytes and escapes

The bytes of a character are a lead byte and tails of six bits each. The lead byte announces its
payload, the number of tails and bounds for the first of them, which leave out what a shorter form
could write, the surrogates and what is beyond the last code point; a character is none of these, so
its tails are read to its code (`firstPiece_utf8EncodeChar`). A text is therefore what its bytes
decode to (`decodeLossy_encode`).

Escapes are undone from the front: what is kept is no percent sign, so it begins no escape
(`decode_encodeBytes`). An alphabet that keeps percent signs and capital hexadecimal digits leaves
the escapes of another alphabet whole, so that escaping twice is escaping once with what both keep
(`encode_encode`).

* `decode_encode`: a text is what its escapes decode to, for every ASCII alphabet without a percent
  sign.
-/
import Leaderboard.Text.Ascii
import Leaderboard.Text.Percent

set_option autoImplicit false

namespace Leaderboard.Text

namespace Utf8

/-! ## Lead bytes and tails -/

deriving instance DecidableEq for Lead

theorem lead?_one {n : Nat} (high : n < 0x80) :
    lead? (UInt8.ofNat n) = some ⟨n, 0, 0x80, 0xBF⟩ := by
  have all : ∀ n : Fin 0x80, lead? (UInt8.ofNat n) = some ⟨n, 0, 0x80, 0xBF⟩ := by decide
  exact all ⟨n, high⟩

theorem lead?_two {n : Nat} (low : 2 ≤ n) (high : n < 32) :
    lead? (UInt8.ofNat (n + 192)) = some ⟨n, 1, 0x80, 0xBF⟩ := by
  have all : ∀ n : Fin 32, 2 ≤ n.val →
      lead? (UInt8.ofNat (n + 192)) = some ⟨n, 1, 0x80, 0xBF⟩ := by decide
  exact all ⟨n, high⟩ low

/-- After `E0` the first tail writes no shorter form, after `ED` no surrogate. -/
theorem lead?_three {n : Nat} (high : n < 16) :
    lead? (UInt8.ofNat (n + 224)) =
      some ⟨n, 2, if n = 0 then 0xA0 else 0x80, if n = 0xD then 0x9F else 0xBF⟩ := by
  have all : ∀ n : Fin 16, lead? (UInt8.ofNat (n + 224)) =
      some ⟨n, 2, if n.val = 0 then 0xA0 else 0x80, if n.val = 0xD then 0x9F else 0xBF⟩ := by decide
  exact all ⟨n, high⟩

/-- After `F0` the first tail writes no shorter form, after `F4` nothing beyond the last code
point. -/
theorem lead?_four {n : Nat} (high : n < 5) :
    lead? (UInt8.ofNat (n + 240)) =
      some ⟨n, 3, if n = 0 then 0x90 else 0x80, if n = 4 then 0x8F else 0xBF⟩ := by
  have all : ∀ n : Fin 5, lead? (UInt8.ofNat (n + 240)) =
      some ⟨n, 3, if n.val = 0 then 0x90 else 0x80, if n.val = 4 then 0x8F else 0xBF⟩ := by decide
  exact all ⟨n, high⟩

/-- The byte of six bits that follows a lead byte. -/
def tail (n : Nat) : UInt8 := UInt8.ofNat (n % 64 + 128)

theorem toNat_tail (n : Nat) : (tail n).toNat = n % 64 + 128 := by
  unfold tail
  rw [UInt8.toNat_ofNat']
  omega

theorem continue?_tail {low high : UInt8} (more code n : Nat) (r : List UInt8)
    (above : low.toNat ≤ n % 64 + 128) (below : n % 64 + 128 ≤ high.toNat) :
    continue? low high (more + 1) code (tail n :: r) =
      continue? 0x80 0xBF more (code * 64 + n % 64) r := by
  have within : low ≤ tail n ∧ tail n ≤ high := by
    rw [UInt8.le_iff_toNat_le, UInt8.le_iff_toNat_le, toNat_tail]
    exact ⟨above, below⟩
  rw [continue?, if_pos within, toNat_tail]
  congr 2
  omega

/-- Only the first tail has bounds of its own. -/
theorem continue?_later (more code n : Nat) (r : List UInt8) :
    continue? 0x80 0xBF (more + 1) code (tail n :: r) =
      continue? 0x80 0xBF more (code * 64 + n % 64) r :=
  continue?_tail more code n r (Nat.le_add_left 128 _)
    (by have := Nat.mod_lt n (show 64 > 0 by decide); show _ ≤ 191; omega)

/-! ## Characters -/

theorem firstPiece_of_lead? {b : UInt8} {l : Lead} (announced : lead? b = some l)
    {bs r : List UInt8} {code : Nat}
    (read : continue? l.low l.high l.following l.payload bs = (some code, r)) :
    firstPiece b bs = (some (Char.ofNat code), r) := by
  unfold firstPiece
  rw [announced]
  dsimp only
  rw [read]
  rfl

theorem firstPiece_one {v : Nat} (high : v < 0x80) (r : List UInt8) :
    firstPiece (UInt8.ofNat v) r = (some (Char.ofNat v), r) :=
  firstPiece_of_lead? (lead?_one high) rfl

theorem firstPiece_two {v : Nat} (low : 0x80 ≤ v) (high : v < 0x800) (r : List UInt8) :
    firstPiece (UInt8.ofNat (v / 64 % 32 + 192)) (tail v :: r) = (some (Char.ofNat v), r) := by
  refine firstPiece_of_lead? (lead?_two (by omega) (by omega)) ?_
  rw [continue?_later, continue?]
  have code : v / 64 % 32 * 64 + v % 64 = v := by omega
  rw [code]

theorem firstPiece_three {v : Nat} (low : 0x800 ≤ v) (high : v < 0x10000)
    (scalar : v < 0xD800 ∨ 0xDFFF < v) (r : List UInt8) :
    firstPiece (UInt8.ofNat (v / 4096 % 16 + 224)) (tail (v / 64) :: tail v :: r) =
      (some (Char.ofNat v), r) := by
  refine firstPiece_of_lead? (lead?_three (by omega)) ?_
  dsimp only
  rw [continue?_tail, continue?_later, continue?]
  · have code : (v / 4096 % 16 * 64 + v / 64 % 64) * 64 + v % 64 = v := by omega
    rw [code]
  · split
    · show 160 ≤ _
      omega
    · exact Nat.le_add_left 128 _
  · split
    · show _ ≤ 159
      omega
    · show _ ≤ 191
      omega

theorem firstPiece_four {v : Nat} (low : 0x10000 ≤ v) (high : v < 0x110000) (r : List UInt8) :
    firstPiece (UInt8.ofNat (v / 262144 % 8 + 240))
      (tail (v / 4096) :: tail (v / 64) :: tail v :: r) = (some (Char.ofNat v), r) := by
  refine firstPiece_of_lead? (lead?_four (by omega)) ?_
  dsimp only
  rw [continue?_tail, continue?_later, continue?_later, continue?]
  · have code : ((v / 262144 % 8 * 64 + v / 4096 % 64) * 64 + v / 64 % 64) * 64 + v % 64 = v := by
      omega
    rw [code]
  · split
    · show 144 ≤ _
      omega
    · exact Nat.le_add_left 128 _
  · split
    · show _ ≤ 143
      omega
    · show _ ≤ 191
      omega

/-- The bytes of a character are read as that character. -/
theorem firstPiece_utf8EncodeChar (c : Char) (r : List UInt8) :
    ∃ b bs, String.utf8EncodeChar c = b :: bs ∧ firstPiece b (bs ++ r) = (some c, r) := by
  have valid : c.toNat < 0xD800 ∨ 0xDFFF < c.toNat ∧ c.toNat < 0x110000 := c.valid
  have read : ∀ {b : UInt8} {bs : List UInt8},
      firstPiece b (bs ++ r) = (some (Char.ofNat c.toNat), r) →
        firstPiece b (bs ++ r) = (some c, r) := by
    rw [Char.ofNat_toNat]
    exact id
  unfold String.utf8EncodeChar
  dsimp only
  split
  · rename_i one
    exact ⟨_, _, rfl, read (firstPiece_one (Nat.lt_succ_of_le one) r)⟩
  rename_i one
  split
  · rename_i two
    exact ⟨_, _, rfl, read (firstPiece_two (Nat.lt_of_not_le one) (Nat.lt_succ_of_le two) r)⟩
  rename_i two
  split
  · rename_i three
    exact ⟨_, _, rfl, read (firstPiece_three (Nat.lt_of_not_le two) (Nat.lt_succ_of_le three)
      (valid.imp id And.left) r)⟩
  · rename_i three
    exact ⟨_, _, rfl, read (firstPiece_four (Nat.lt_of_not_le three)
      (valid.elim (fun low => Nat.lt_trans low (by decide)) And.right) r)⟩

theorem encode_cons (c : Char) (r : List Char) :
    encode (c :: r) = String.utf8EncodeChar c ++ encode r := List.flatMap_cons

theorem encode_append (cs ds : List Char) : encode (cs ++ ds) = encode cs ++ encode ds :=
  List.flatMap_append

/-- The pieces of the bytes of a text are its characters. -/
theorem pieces_encode (cs : List Char) : pieces (encode cs) = cs.map some := by
  induction cs with
  | nil => rw [encode, List.flatMap_nil, pieces]; rfl
  | cons c cs ih =>
      obtain ⟨b, bs, bytes, piece⟩ := firstPiece_utf8EncodeChar c (encode cs)
      have cut : encode (c :: cs) = b :: (bs ++ encode cs) := by
        rw [← List.cons_append, ← bytes]
        rfl
      rw [cut, pieces, piece, ih]
      rfl

theorem decodeLossy_encode (cs : List Char) : decodeLossy (encode cs) = cs := by
  unfold decodeLossy
  rw [pieces_encode, List.map_map]
  exact List.map_id cs

theorem decode?_encode (cs : List Char) : decode? (encode cs) = some cs := by
  unfold decode?
  rw [pieces_encode]
  induction cs with
  | nil => rfl
  | cons c r ih =>
      rw [List.map_cons, List.mapM_cons, ih]
      rfl

/-- ASCII bytes are the bytes of their characters. -/
theorem encode_ascii {bs : List UInt8} (ascii : ∀ b ∈ bs, b.toNat < 0x80) :
    encode (bs.map fun b => Char.ofNat b.toNat) = bs := by
  induction bs with
  | nil => rfl
  | cons b r ih =>
      have single : String.utf8EncodeChar (Char.ofNat b.toNat) = [b] := by
        have small := ascii b List.mem_cons_self
        have code : (Char.ofNat b.toNat).val.toNat = b.toNat :=
          toNat_ofNat (Nat.lt_trans small (by decide))
        unfold String.utf8EncodeChar
        dsimp only
        rw [code, if_pos (Nat.le_of_lt_succ small), UInt8.ofNat_toNat]
      have rest : encode (r.map fun b => Char.ofNat b.toNat) = r :=
        ih fun c mem => ascii c (List.mem_cons_of_mem b mem)
      rw [List.map_cons, encode, List.flatMap_cons, single, List.singleton_append, ← encode, rest]

theorem toNat_ofNat_of_ascii {c : Char} (ascii : c.toNat < 0x80) :
    (UInt8.ofNat c.toNat).toNat = c.toNat := by
  rw [UInt8.toNat_ofNat']
  omega

theorem chars_of_ascii {cs : List Char} (ascii : ∀ c ∈ cs, c.toNat < 0x80) :
    (cs.map fun c => UInt8.ofNat c.toNat).map (fun b => Char.ofNat b.toNat) = cs := by
  rw [List.map_map]
  refine (List.map_congr_left fun c mem => ?_).trans (List.map_id cs)
  change Char.ofNat (UInt8.ofNat c.toNat).toNat = c
  rw [toNat_ofNat_of_ascii (ascii c mem), Char.ofNat_toNat]

/-- An ASCII text has a byte for each character. -/
theorem encode_of_ascii {cs : List Char} (ascii : ∀ c ∈ cs, c.toNat < 0x80) :
    encode cs = cs.map fun c => UInt8.ofNat c.toNat := by
  refine (congrArg encode (chars_of_ascii ascii)).symm.trans (encode_ascii fun b mem => ?_)
  obtain ⟨c, own, rfl⟩ := List.mem_map.mp mem
  rw [toNat_ofNat_of_ascii (ascii c own)]
  exact ascii c own

end Utf8

namespace Percent

variable {keeps inner outer : UInt8 → Bool}

/-! ## Escapes -/

theorem decode_cons_of_ne {b : UInt8} (plain : b ≠ 0x25) (r : List UInt8) :
    decode (b :: r) = b :: decode r := by
  have other : (b == 0x25) = false := beq_eq_false_iff_ne.mpr plain
  match r with
  | [] => rfl
  | [_] => rfl
  | hi :: lo :: r => rw [decode, other]

theorem decode_encodeBytes (escaped : keeps 0x25 = false) (bs : List UInt8) :
    decode (encodeBytes keeps bs) = bs := by
  induction bs with
  | nil => rfl
  | cons b r ih =>
      unfold encodeBytes at ih ⊢
      rw [List.flatMap_cons]
      split
      · rename_i kept
        have plain : b ≠ 0x25 := by
          rintro rfl
          rw [escaped] at kept
          cases kept
        rw [List.singleton_append, decode_cons_of_ne plain, ih]
      · rw [decode_escape, ih]

/-- What percent signs and capital hexadecimal digits have, every byte of an escape has. -/
theorem escape_all {P : UInt8 → Prop} (mark : P 0x25) (digits : ∀ n < 16, P (digit n)) (b : UInt8) :
    ∀ c ∈ escape b, P c := by
  have small := b.toNat_lt
  unfold escape
  simp only [List.mem_cons, List.not_mem_nil, or_false]
  rintro c (rfl | rfl | rfl)
  · exact mark
  · exact digits _ (by omega)
  · exact digits _ (by omega)

theorem encodeBytes_all {P : UInt8 → Prop} (kept : ∀ b, keeps b = true → P b) (mark : P 0x25)
    (digits : ∀ n < 16, P (digit n)) (bs : List UInt8) : ∀ b ∈ encodeBytes keeps bs, P b := by
  intro c mem
  obtain ⟨b, -, mem⟩ := List.mem_flatMap.mp mem
  split at mem
  · rename_i own
    rw [List.mem_singleton.mp mem]
    exact kept b own
  · exact escape_all mark digits b c mem

theorem encodeBytes_of_all {bs : List UInt8} (kept : ∀ b ∈ bs, keeps b = true) :
    encodeBytes keeps bs = bs := by
  induction bs with
  | nil => rfl
  | cons b r ih =>
      have rest : encodeBytes keeps r = r := ih fun c mem => kept c (List.mem_cons_of_mem b mem)
      unfold encodeBytes at rest ⊢
      rw [List.flatMap_cons, if_pos (kept b List.mem_cons_self), rest]
      rfl

theorem encodeBytes_encodeBytes (mark : outer 0x25 = true)
    (digits : ∀ n < 16, outer (digit n) = true) (bs : List UInt8) :
    encodeBytes outer (encodeBytes inner bs) = encodeBytes (fun b => inner b && outer b) bs := by
  have single : ∀ b : UInt8, encodeBytes outer (if inner b then [b] else escape b) =
      if inner b && outer b then [b] else escape b := by
    intro b
    cases inner b with
    | true => exact List.append_nil _
    | false => exact encodeBytes_of_all (escape_all mark digits b)
  unfold encodeBytes at single ⊢
  rw [List.flatMap_assoc]
  exact congrArg (bs.flatMap ·) (funext single)

/-! ## Escaped texts -/

/-- An alphabet of ASCII bytes. -/
def IsAscii (keeps : UInt8 → Bool) : Prop := ∀ b, keeps b = true → b.toNat < 0x80

/-- The bytes of an escaped text are the escaped bytes. -/
theorem utf8Encode_encode (ascii : IsAscii keeps) (cs : List Char) :
    Utf8.encode (encode keeps cs) = encodeBytes keeps (Utf8.encode cs) :=
  Utf8.encode_ascii (encodeBytes_all ascii (by decide) (by decide) _)

/-- What the characters of an alphabet, percent signs and capital hexadecimal digits have, every
character of an escaped text has. -/
theorem encode_all {P : Char → Prop} (kept : ∀ b, keeps b = true → P (Char.ofNat b.toNat))
    (mark : P '%') (digits : ∀ n < 16, P (Char.ofNat (digit n).toNat)) (cs : List Char) :
    ∀ c ∈ encode keeps cs, P c := by
  intro c mem
  obtain ⟨b, escaped, rfl⟩ := List.mem_map.mp mem
  exact encodeBytes_all (P := fun b => P (Char.ofNat b.toNat)) kept mark digits _ b escaped

theorem encode_append (keeps : UInt8 → Bool) (cs ds : List Char) :
    encode keeps (cs ++ ds) = encode keeps cs ++ encode keeps ds := by
  unfold encode encodeBytes Utf8.encode
  rw [List.flatMap_append, List.flatMap_append, List.map_append]

/-- **A text is what its escapes decode to.** -/
theorem decode_encode (ascii : IsAscii keeps) (escaped : keeps 0x25 = false) (cs : List Char) :
    Utf8.decodeLossy (decode (Utf8.encode (encode keeps cs))) = cs := by
  rw [utf8Encode_encode ascii, decode_encodeBytes escaped, Utf8.decodeLossy_encode]

/-- A text of an ASCII alphabet needs no escapes. -/
theorem encode_of_kept {cs : List Char} (ascii : ∀ c ∈ cs, c.toNat < 0x80)
    (kept : ∀ c ∈ cs, keeps (UInt8.ofNat c.toNat) = true) : encode keeps cs = cs := by
  unfold encode
  rw [Utf8.encode_of_ascii ascii, encodeBytes_of_all, Utf8.chars_of_ascii ascii]
  intro b mem
  obtain ⟨c, own, rfl⟩ := List.mem_map.mp mem
  exact kept c own

/-- Escaping what is escaped is escaping once, where the escapes are kept. -/
theorem encode_encode (ascii : IsAscii inner) (mark : outer 0x25 = true)
    (digits : ∀ n < 16, outer (digit n) = true) (cs : List Char) :
    encode outer (encode inner cs) = encode (fun b => inner b && outer b) cs := by
  have bytes : encodeBytes outer (Utf8.encode (encode inner cs)) =
      encodeBytes (fun b => inner b && outer b) (Utf8.encode cs) := by
    rw [utf8Encode_encode ascii, encodeBytes_encodeBytes mark digits]
  exact congrArg (List.map fun b => Char.ofNat b.toNat) bytes

end Percent

end Leaderboard.Text
