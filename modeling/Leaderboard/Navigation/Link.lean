/-
# Leaderboard.Navigation.Link — anchors and links between the pages

`anchor` makes a URL fragment of a slug: its runs of ASCII letters and digits, lowered and joined
by single dashes. `modeUrl` addresses the explorer page of a mode, `benchmarkPage` the benchmark
breakdown of a mode, `scoreLink` one model in that breakdown.

Main statement: `anchorChars_keeps` (an anchor has dashes and lowered letters and digits of its
slug, and nothing else).
-/
import Leaderboard.Text.Percent

set_option autoImplicit false

namespace Leaderboard.Navigation

/-! ## Anchors -/

/-- The letters and digits that anchors keep. -/
def isWordChar (c : Char) : Bool := c.isAlphanum

/-- The anchor of the characters that follow an anchor so far; `begun` tells whether that is not
empty and `gap` whether characters were dropped since its last one. -/
def anchorFrom (begun gap : Bool) : List Char → List Char
  | [] => []
  | c :: r =>
    if isWordChar c then
      if gap && begun then '-' :: c.toLower :: anchorFrom true false r
      else c.toLower :: anchorFrom true false r
    else anchorFrom begun true r

def anchorChars (cs : List Char) : List Char := anchorFrom false false cs

/-- The fragment that names a model in the benchmark breakdown. -/
def anchor (slug : String) : String := String.ofList (anchorChars slug.toList)

/-! ## Links -/

def explorerPage : String := "model-explorer.html"

/-- The query parameter that names a mode. -/
def modeParameter : String := "mode"

/-- The bytes that stand for themselves in a component of a URL: letters, digits and the nine marks
`-_.!~*()` and apostrophe. -/
def keptInComponent (b : UInt8) : Bool :=
  (0x30 ≤ b && b ≤ 0x39) || (0x41 ≤ b && b ≤ 0x5A) || (0x61 ≤ b && b ≤ 0x7A) ||
    b == 0x2D || b == 0x5F || b == 0x2E || b == 0x21 || b == 0x7E || b == 0x2A || b == 0x27 ||
    b == 0x28 || b == 0x29

/-- A text as a component of a URL. -/
def component (s : String) : String :=
  String.ofList (Text.Percent.encode keptInComponent s.toList)

/-- The explorer page of a mode. -/
def modeUrl (slug : String) : String :=
  "./" ++ explorerPage ++ "?" ++ modeParameter ++ "=" ++ component slug

/-- The benchmark breakdown of a mode. -/
def benchmarkPage (slug : String) : String := slug ++ "-vibe-eval.html"

/-- A model in the benchmark breakdown of a mode. -/
def scoreLink (mode fragment : String) : String := benchmarkPage mode ++ "#" ++ fragment

/-! ## Lemmas -/

theorem anchorFrom_keeps (cs : List Char) : ∀ (begun gap : Bool), ∀ c ∈ anchorFrom begun gap cs,
    c = '-' ∨ ∃ d ∈ cs, isWordChar d = true ∧ c = d.toLower := by
  induction cs with
  | nil => intro _ _ c hc; cases hc
  | cons d r ih =>
    intro begun gap c hc
    have later : ∀ {b g}, c ∈ anchorFrom b g r →
        c = '-' ∨ ∃ e ∈ d :: r, isWordChar e = true ∧ c = e.toLower := by
      intro b g h
      rcases ih b g c h with h | ⟨e, he, w⟩
      · exact .inl h
      · exact .inr ⟨e, List.mem_cons_of_mem _ he, w⟩
    unfold anchorFrom at hc
    split at hc
    · rename_i word
      split at hc
      · rcases List.mem_cons.mp hc with h | h
        · exact .inl h
        rcases List.mem_cons.mp h with h | h
        · exact .inr ⟨d, List.mem_cons_self, word, h⟩
        · exact later h
      · rcases List.mem_cons.mp hc with h | h
        · exact .inr ⟨d, List.mem_cons_self, word, h⟩
        · exact later h
    · exact later hc

theorem anchorChars_keeps {cs : List Char} {c : Char} (h : c ∈ anchorChars cs) :
    c = '-' ∨ ∃ d ∈ cs, isWordChar d = true ∧ c = d.toLower :=
  anchorFrom_keeps cs false false c h

end Leaderboard.Navigation
