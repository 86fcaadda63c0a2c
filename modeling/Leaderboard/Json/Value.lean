/-
# Leaderboard.Json.Value — JSON values

Whole numbers of 64 bits stay whole, other numbers are double precision and finite. Objects keep
their members in order; `put` gives a repeated key its first place and its last value.

Main statements: `Number.toBinary64_isFinite` (every JSON number is a finite one), `get?_put`
(reading a member after a write) and `keys_put` (a write adds its key once, at the end, or leaves
the keys as they are).
-/
import Leaderboard.Number.Binary64

set_option autoImplicit false

namespace Leaderboard

namespace Json

/-- The largest whole number of 64 bits. -/
def wordLimit : Nat := Nat.pow 2 64 - 1

/-- A JSON number: a whole number of 64 bits, a negated one, or a finite double precision number. -/
inductive Number where
  | natural (n : Nat) (fits : n ≤ wordLimit)
  | negated (n : Nat) (fits : n ≤ wordLimit)
  | finite (negative : Bool) (steps : Nat) (bounded : steps < Binary64.top)
deriving DecidableEq

namespace Number

/-- A double precision number as a JSON number. Infinity and what is no number have none and count
as zero. -/
def real : Binary64 → Number
  | .nan => .natural 0 (Nat.zero_le _)
  | .number negative steps _ =>
    if h : steps < Binary64.top then .finite negative steps h else .natural 0 (Nat.zero_le _)

/-- The double precision number nearest to a JSON number. -/
def toBinary64 : Number → Binary64
  | .natural n _ => Binary64.ofNat n
  | .negated n _ => (Binary64.ofNat n).neg
  | .finite negative steps bounded => .number negative steps (Nat.le_of_lt bounded)

theorem toBinary64_isFinite (n : Number) : n.toBinary64.isFinite = true := by
  have small : ∀ {n : Nat}, n ≤ wordLimit → n < 2 ^ 64 := by
    intro n h
    exact Nat.lt_of_le_of_lt h (by decide)
  cases n with
  | natural n fits => exact Binary64.isFinite_ofNat (small fits)
  | negated n fits =>
    unfold toBinary64
    rw [Binary64.isFinite_neg]
    exact Binary64.isFinite_ofNat (small fits)
  | finite _ _ bounded => exact decide_eq_true bounded

end Number

end Json

/-- A JSON value. -/
inductive Json where
  | null
  | bool (b : Bool)
  | number (n : Json.Number)
  | text (s : String)
  | array (items : List Json)
  | object (members : List (String × Json))

namespace Json

instance : Inhabited Json := ⟨.null⟩

/-- The value of a member, if the object has it. -/
def get? {α : Type} (members : List (String × α)) (key : String) : Option α := members.lookup key

/-- The members after one is written: in the place of an earlier one with that key, else last. -/
def put {α : Type} : List (String × α) → String → α → List (String × α)
  | [], key, v => [(key, v)]
  | (k, w) :: r, key, v => if k = key then (key, v) :: r else (k, w) :: put r key v

/-- The members that a sequence of writes leaves. -/
def ofWrites {α : Type} (writes : List (String × α)) : List (String × α) :=
  writes.foldl (fun members w => put members w.1 w.2) []

/-! ## Lemmas -/

theorem get?_put {α : Type} (members : List (String × α)) (key other : String) (v : α) :
    get? (put members key v) other = if other = key then some v else get? members other := by
  unfold get?
  induction members with
  | nil =>
    rw [put, List.lookup_cons]
    split <;> simp_all
  | cons m r ih =>
    obtain ⟨k, w⟩ := m
    unfold put
    split
    · rename_i e
      subst e
      rw [List.lookup_cons, List.lookup_cons]
      split <;> simp_all
    · rename_i ne
      rw [List.lookup_cons, List.lookup_cons, ih]
      split
      · rename_i e
        rw [beq_iff_eq] at e
        subst e
        simp [ne]
      · rfl

theorem keys_put {α : Type} (members : List (String × α)) (key : String) (v : α) :
    (put members key v).map (·.1) =
      if key ∈ members.map (·.1) then members.map (·.1) else members.map (·.1) ++ [key] := by
  induction members with
  | nil => simp [put]
  | cons m r ih =>
    obtain ⟨k, w⟩ := m
    unfold put
    split
    · rename_i e
      simp [e]
    · rename_i ne
      rw [List.map_cons, ih]
      by_cases h : key ∈ r.map (·.1)
      · simp_all
      · have : ¬ key = k := fun e => ne e.symm
        simp_all

end Json

end Leaderboard
