/-
# Leaderboard.Url.Punycode — labels of a domain name in ASCII

`encode` writes a run of characters with ASCII letters, digits and dashes: first its ASCII
characters, then, for each other character in order of code points, how far it stands from the one
before, as a number whose digits weigh by a bias that follows the numbers written so far. `decode?`
reads it back.
-/
set_option autoImplicit false

namespace Leaderboard.Url.Punycode

/-- The least value of a digit that does not end a number, by its place and the bias. -/
def threshold (bias place : Nat) : Nat := min 26 (max 1 (place - bias))

theorem threshold_pos (bias place : Nat) : 1 ≤ threshold bias place := by
  unfold threshold
  omega

def digit (n : Nat) : Char := Char.ofNat (if n < 26 then 0x61 + n else 0x16 + n)

def digit? (c : Char) : Option Nat :=
  if 'a' ≤ c ∧ c ≤ 'z' then some (c.toNat - 0x61)
  else if 'A' ≤ c ∧ c ≤ 'Z' then some (c.toNat - 0x41)
  else if '0' ≤ c ∧ c ≤ '9' then some (c.toNat - 0x16)
  else none

/-- A number with the lowest digit first, that digit standing at `place`. -/
def numeral (bias place n : Nat) : List Char :=
  let t := threshold bias place
  if _h : n < t then [digit n]
  else digit (t + (n - t) % (36 - t)) :: numeral bias (place + 36) ((n - t) / (36 - t))
termination_by n
decreasing_by
  have := threshold_pos bias place
  exact Nat.lt_of_le_of_lt (Nat.div_le_self _ _) (by omega)

/-- Scales a distance down until it is small. -/
def scaled (place delta : Nat) : Nat :=
  if _h : delta ≤ 455 then place + 36 * delta / (delta + 38)
  else scaled (place + 36) (delta / 35)
termination_by delta
decreasing_by exact Nat.div_lt_self (by omega) (by omega)

/-- The bias after a distance, with so many characters written. -/
def adapt (first : Bool) (delta written : Nat) : Nat :=
  let delta := if first then delta / 700 else delta / 2
  scaled 0 (delta + delta / written)

def isAscii (c : Char) : Bool := c.toNat < 128

/-! ## Encoding -/

/-- The state of the encoder: the distance gathered, the bias, and how many characters are out. -/
structure Encoder where
  delta : Nat
  bias : Nat
  written : Nat
  basic : Nat
  out : List Char

/-- Passes one character of the text while `code` is being written. -/
def Encoder.pass (code : Nat) (e : Encoder) (c : Char) : Encoder :=
  if c.toNat < code then { e with delta := e.delta + 1 }
  else if c.toNat = code then
    { e with
      delta := 0
      bias := adapt (e.written == e.basic) e.delta (e.written + 1)
      written := e.written + 1
      out := e.out ++ numeral e.bias 36 e.delta }
  else e

/-- Writes the codes in order, all below `next` being out. -/
def encodeCodes (cs : List Char) : (next : Nat) → Encoder → List Nat → List Char
  | _, e, [] => e.out
  | next, e, code :: r =>
    let e := { e with delta := e.delta + (code - next) * (e.written + 1) }
    let e := cs.foldl (Encoder.pass code) e
    encodeCodes cs (code + 1) { e with delta := e.delta + 1 } r

/-- The text in ASCII. -/
def encode (cs : List Char) : List Char :=
  let basic := cs.filter isAscii
  let codes := (((cs.filter (!isAscii ·)).map Char.toNat).mergeSort (· ≤ ·)).eraseDups
  let start : Encoder :=
    { delta := 0, bias := 72, written := basic.length, basic := basic.length
      out := if basic.isEmpty then [] else basic ++ ['-'] }
  encodeCodes cs 128 start codes

/-! ## Decoding -/

/-- The state of the decoder. Of the number being read, `total` holds the index before it and the
digits so far, `weight` what the next digit counts and `place` where it stands. -/
structure Decoder where
  before : Nat
  total : Nat
  weight : Nat
  place : Nat
  code : Nat
  bias : Nat
  out : List Char

/-- Puts the character in whose number has been read. -/
def Decoder.emit? (d : Decoder) : Option Decoder :=
  let length := d.out.length + 1
  let code := d.code + d.total / length
  let index := d.total % length
  if code.isValidChar then
    some
      { before := index + 1, total := index + 1, weight := 1, place := 36, code
        bias := adapt (d.before == 0) (d.total - d.before) length
        out := d.out.insertIdx index (Char.ofNat code) }
  else none

/-- Numbers and weights stay below this. -/
def limit : Nat := Nat.pow 2 32

/-- Reads one digit. -/
def Decoder.read? (d : Decoder) (c : Char) : Option Decoder :=
  (digit? c).bind fun n =>
    let d := { d with total := d.total + n * d.weight }
    let t := threshold d.bias d.place
    let weight := d.weight * (36 - t)
    if limit ≤ d.total then none
    else if n < t then d.emit?
    else if limit ≤ weight then none
    else some { d with weight, place := d.place + 36 }

/-- The text that a run of ASCII characters writes. A dash at its front parts nothing. -/
def decode? (cs : List Char) : Option (List Char) :=
  let dash := cs.reverse.dropWhile (· != '-')
  let basic := (dash.drop 1).reverse
  let digits := if basic.isEmpty then cs else cs.drop dash.length
  let start : Decoder :=
    { before := 0, total := 0, weight := 1, place := 36, code := 128, bias := 72, out := basic }
  (digits.foldlM Decoder.read? start).bind fun d => if d.weight = 1 then some d.out else none

end Leaderboard.Url.Punycode
