/-
# Leaderboard.Text.CodeTable — tables of code points

A table says what some code points are given. It is written as entries between blanks, all numbers
in hexadecimal digits: `C0>41,300` gives one code point two numbers, `41-5A>61` gives every code
point from the first to the second the number that lies as far above the last, `100-12E/2>101` does
so for every second one, and an entry that gives nothing lists its code points.
-/
import Leaderboard.Text.Cut

set_option autoImplicit false

namespace Leaderboard.Text

/-- What every `step`-th code point from `first` to `last` is given. -/
structure CodeTable.Entry where
  first : Nat
  last : Nat
  step : Nat
  values : List Nat
deriving DecidableEq, Repr

structure CodeTable where
  entries : List CodeTable.Entry
deriving DecidableEq, Repr

namespace CodeTable

/-! ## Written form -/

/-- The value of a hexadecimal digit. -/
def digit (c : Char) : Nat := if c.isDigit then c.toNat - 0x30 else c.toNat - 0x37

def numeral (cs : List Char) : Nat := cs.foldl (fun n c => 16 * n + digit c) 0

def Entry.ofText (cs : List Char) : Entry :=
  let entry := cutAt '>' cs
  let places := cutAt '/' entry.1
  let range := cutAt '-' places.1
  { first := numeral range.1
    last := numeral (range.2.getD range.1)
    step := (places.2.map numeral).getD 1
    values := (entry.2.map fun vs => (vs.splitOn ',').map numeral).getD [] }

def ofText (s : String) : CodeTable :=
  ⟨((s.toList.splitOnP fun c => c == ' ' || c == '\n').filter (· ≠ [])).map Entry.ofText⟩

example : (Entry.ofText "100-12E/2>101".toList) = ⟨0x100, 0x12E, 2, [0x101]⟩ := by decide

example : (Entry.ofText "C0>41,300".toList) = ⟨0xC0, 0xC0, 1, [0x41, 0x300]⟩ := by decide

/-! ## Looking up -/

def Entry.covers (e : Entry) (c : Char) : Bool :=
  e.first ≤ c.toNat && c.toNat ≤ e.last && (c.toNat - e.first) % e.step == 0

/-- The entry for a code point. -/
def find? (t : CodeTable) (c : Char) : Option Entry := t.entries.find? (·.covers c)

def contains (t : CodeTable) (c : Char) : Bool := t.entries.any (·.covers c)

/-- The number that all code points of an entry share. -/
def value? (t : CodeTable) (c : Char) : Option Nat := (t.find? c).bind (·.values.head?)

/-- What an entry gives a code point: its first value counts from the first code point. -/
def Entry.target (e : Entry) (c : Char) : List Char :=
  match e.values with
  | [] => []
  | v :: vs => ((v + (c.toNat - e.first)) :: vs).map Char.ofNat

/-- The characters that a code point is given. -/
def target? (t : CodeTable) (c : Char) : Option (List Char) := (t.find? c).map (·.target c)

end CodeTable

end Leaderboard.Text
