/-
# Leaderboard.Url.Host — hosts

A host is a name, an IPv4 address or an IPv6 address; a URL may also leave it empty. Where hosts
are looked up, a name is written in ASCII and counts as an IPv4 address when its last part is a
number. Elsewhere a name is what is written.
-/
import Leaderboard.Url.Fault
import Leaderboard.Url.Name

set_option autoImplicit false

namespace Leaderboard.Url

/-! ## Numerals -/

/-- The value of a digit of a base up to sixteen. -/
def digit? (base : Nat) (c : Char) : Option Nat :=
  (Text.Percent.digit? (UInt8.ofNat c.toNat)).filter fun n => c.toNat < 0x80 && n < base

/-- The value of a run of digits. -/
def numeral? (base : Nat) (cs : List Char) : Option Nat :=
  cs.foldlM (fun n c => (digit? base c).map (base * n + ·)) 0

/-- A number in the least number of digits of a base up to sixteen. -/
def numeral (base n : Nat) : List Char := Nat.toDigits base n

/-! ## IPv4 -/

namespace Ipv4

/-- A part of an address: hexadecimal after `0x`, octal after a zero, else decimal. -/
def part? : List Char → Option Nat
  | [] => none
  | '0' :: 'x' :: r => numeral? 16 r
  | '0' :: 'X' :: r => numeral? 16 r
  | '0' :: d :: r => numeral? 8 (d :: r)
  | cs => numeral? 10 cs

/-- The parts of a name. A dot at its end begins none. -/
def parts (cs : List Char) : List (List Char) :=
  match (cs.splitOn '.').reverse with
  | [] :: r => r.reverse
  | rs => rs.reverse

/-- Whether a name is to be read as an address: its last part is a number, however large. -/
def isAddress (cs : List Char) : Bool :=
  match (parts cs).getLast? with
  | none => false
  | some last => (part? last).isSome || (!last.isEmpty && last.all Char.isDigit)

/-- The address of its parts: the last one fills the bytes that the ones before it leave. -/
def ofParts? (front : List Nat) (last : Nat) : Option Nat :=
  let free := Nat.pow 256 (4 - front.length)
  if front.length ≤ 3 ∧ (∀ n ∈ front, n < 256) ∧ last < free then
    some (front.foldl (fun a n => 256 * a + n) 0 * free + last)
  else none

def ofText? (cs : List Char) : Option Nat :=
  ((parts cs).mapM part?).bind fun ns =>
    ns.getLast?.bind fun last => ofParts? ns.dropLast last

/-- The four bytes in decimal digits. -/
def text (address : Nat) : List Char :=
  List.intercalate ['.']
    ([3, 2, 1, 0].map fun i => numeral 10 (address / Nat.pow 256 i % 256))

end Ipv4

/-! ## IPv6 -/

namespace Ipv6

/-- A piece: one to four hexadecimal digits. -/
def piece? (cs : List Char) : Option Nat :=
  if cs.isEmpty || 4 < cs.length then none else numeral? 16 cs

/-- A byte of an address within: decimal digits, without a needless zero. -/
def byte? (cs : List Char) : Option Nat :=
  if cs.isEmpty || (1 < cs.length && cs.head? == some '0') then none
  else (numeral? 10 cs).filter (· < 256)

/-- The two pieces of an IPv4 address within. -/
def within? (cs : List Char) : Option (List Nat) :=
  match (cs.splitOn '.').mapM byte? with
  | some [a, b, c, d] => some [256 * a + b, 256 * c + d]
  | _ => none

/-- The pieces between colons; the last may be an IPv4 address where `closing`. -/
def pieces? (closing : Bool) (cs : List Char) : Option (List Nat) :=
  if cs.isEmpty then some []
  else
    let groups := cs.splitOn ':'
    match groups.getLast? with
    | some last =>
      if closing && last.contains '.' then
        (groups.dropLast.mapM piece?).bind fun front => (within? last).map (front ++ ·)
      else groups.mapM piece?
    | none => none

/-- Cuts a text at its first two colons in a row. -/
def cut : List Char → List Char × Option (List Char)
  | [] => ([], none)
  | [c] => ([c], none)
  | c :: d :: r =>
    if c = ':' ∧ d = ':' then ([], some r)
    else (c :: (cut (d :: r)).1, (cut (d :: r)).2)

/-- The eight pieces of an address. Two colons in a row stand for at least one zero piece. -/
def ofText? (cs : List Char) : Option (List Nat) :=
  match cut cs with
  | (_, none) => (pieces? true cs).filter (·.length == 8)
  | (left, some right) =>
    (pieces? false left).bind fun l => (pieces? true right).bind fun r =>
      if l.length + r.length < 8 then
        some (l ++ (List.replicate (8 - (l.length + r.length)) 0 ++ r))
      else none

/-- How many zeros begin a list. -/
def zeros (ns : List Nat) : Nat := (ns.takeWhile (· == 0)).length

/-- The first of the longest runs of two or more zeros: where it begins and its length. -/
def longestZeros? (ns : List Nat) : Option (Nat × Nat) :=
  (List.range ns.length).foldl (fun best? i =>
    let n := zeros (ns.drop i)
    if (best?.map (·.2)).getD 1 < n then some (i, n) else best?) none

def joined (ns : List Nat) : List Char := List.intercalate [':'] (ns.map (numeral 16))

/-- The pieces in hexadecimal digits, the longest run of zeros left out. -/
def text (ns : List Nat) : List Char :=
  match longestZeros? ns with
  | none => joined ns
  | some (i, n) => joined (ns.take i) ++ ':' :: ':' :: joined (ns.drop (i + n))

end Ipv6

/-! ## Hosts -/

inductive Host where
  | empty
  | name (text : List Char)
  | ipv4 (address : Nat)
  | ipv6 (pieces : List Nat)
deriving DecidableEq, Repr

namespace Host

/-- A host that is looked up. -/
def known? (cs : List Char) : Except Fault Host :=
  match Name.ofText? cs with
  | none => .error .invalidName
  | some [] => .error .emptyHost
  | some ds =>
    if Ipv4.isAddress ds then
      match Ipv4.ofText? ds with
      | some address => .ok (.ipv4 address)
      | none => .error .invalidIpv4
    else .ok (.name ds)

/-- The characters that stand for themselves outside names that are looked up. -/
def keptAsWritten (b : UInt8) : Bool := 0x20 ≤ b && b < 0x7F

/-- The characters that no host may have. -/
def isForbidden (c : Char) : Bool :=
  c.toNat == 0 || c == '\t' || c == '\n' || c == '\r' || (" #/:<>?@[\\]^|".toList).contains c

/-- A host that is not looked up. -/
def asWritten? (cs : List Char) : Except Fault Host :=
  if cs.any isForbidden then .error .forbiddenCharacter
  else if cs.isEmpty then .ok .empty
  else .ok (.name (Text.Percent.encode keptAsWritten cs))

/-- A host. Brackets hold an IPv6 address. -/
def ofText? (lookedUp : Bool) : List Char → Except Fault Host
  | '[' :: r =>
    if r.getLast? = some ']' then
      match Ipv6.ofText? r.dropLast with
      | some pieces => .ok (.ipv6 pieces)
      | none => .error .invalidIpv6
    else .error .invalidIpv6
  | cs => if lookedUp then known? cs else asWritten? cs

def text : Host → List Char
  | .empty => []
  | .name cs => cs
  | .ipv4 address => Ipv4.text address
  | .ipv6 pieces => '[' :: (Ipv6.text pieces ++ [']'])

end Host

end Leaderboard.Url
