/-
# Leaderboard.Url.Query — the pairs of a query

A query holds names and values with an equals sign between the two and ampersands around them. In
both a plus sign stands for a space, escapes stand for bytes, and bytes for characters.

Main statement: `pairs_single` (a query without an ampersand is one pair, cut at its first equals
sign).
-/
import Leaderboard.Text.Cut
import Leaderboard.Text.Percent
import Leaderboard.Url.Basic

set_option autoImplicit false

namespace Leaderboard.Url.Query

/-- What a name or a value stands for. -/
def decoded (cs : List Char) : String :=
  String.ofList (Text.Utf8.decodeLossy (Text.Percent.decode
    (Text.Utf8.encode (cs.map fun c => if c = '+' then ' ' else c))))

/-- The name and the value of a pair; the value is empty without an equals sign. -/
def pair (cs : List Char) : String × String :=
  let halves := Text.cutAt '=' cs
  (decoded halves.1, decoded (halves.2.getD []))

/-- The pairs in order. Nothing between two ampersands is no pair. -/
def pairs (query : List Char) : List (String × String) :=
  ((query.splitOn '&').filter (!·.isEmpty)).map pair

/-! ## Lemmas -/

theorem pairs_single {query : List Char} (h : '&' ∉ query) (nonempty : query ≠ []) :
    pairs query = [pair query] := by
  unfold pairs
  rw [List.splitOn_eq_singleton h]
  simp [nonempty]

end Leaderboard.Url.Query

namespace Leaderboard.Url

/-- The pairs of the query, none without a query. -/
def queryPairs (u : Url) : List (String × String) := (u.query?.map Query.pairs).getD []

end Leaderboard.Url
