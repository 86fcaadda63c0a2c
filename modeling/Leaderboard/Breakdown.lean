/-
# Leaderboard.Breakdown — the benchmark breakdown

The breakdown shows the prompts of a partition as cards, in the order of their identifiers, and a
panel for every model, best first, with the generations that have media. A fragment opens the panel
of the first model with that anchor.

Main statement: `Breakdown.openAt_lt` (the open panel is one of the panels).
-/
import Leaderboard.Feed.Explanations
import Leaderboard.Feed.Partition
import Leaderboard.Navigation.Link
import Leaderboard.Ranking

set_option autoImplicit false

namespace Leaderboard

open Leaderboard.Feed (Partition Prompt Generation Model Media Explanations)

/-! ## Prompts -/

structure PromptCard where
  title : String
  uid : String
  text : String
  explanation? : Option String
  references : List String
deriving DecidableEq

namespace PromptCard

/-- The explanation of a prompt: the feed's unless blank, else the prompt's own unless blank. -/
def explanationOf? (e : Explanations) (p : Prompt) : Option String :=
  ((e.get? p.uid).bind Text.nonblank?).or (p.explanation?.bind Text.nonblank?)

/-- The card of a prompt at a place, counted from zero. -/
def of (e : Explanations) (place : Nat) (p : Prompt) : PromptCard where
  title := "Prompt " ++ toString (place + 1)
  uid := p.uid
  text := p.text
  explanation? := explanationOf? e p
  references := p.references

end PromptCard

/-- The prompts in the order of their identifiers, by code points. -/
def sortedPrompts (p : Partition) : List Prompt :=
  p.prompts.mergeSort fun a b => !decide (b.uid < a.uid)

def promptCards (e : Explanations) (p : Partition) : List PromptCard :=
  (sortedPrompts p).mapIdx (PromptCard.of e)

/-! ## Models -/

structure GenerationCard where
  uid : String
  prompt? : Option String
  score : Binary64
  comment : String
  mediaUrl : String
  media : Media
deriving DecidableEq

namespace GenerationCard

/-- What is shown for a generation without a comment. -/
def noComment : String := "No comment provided."

/-- The card of a generation, if it has media. -/
def of? (g : Generation) : Option GenerationCard :=
  g.source?.map fun source =>
    { uid := g.uid
      prompt? := g.prompt?.bind Text.nonempty?
      score := g.score
      comment := (g.comment?.bind Text.nonempty?).getD noComment
      mediaUrl := source
      media := g.media }

end GenerationCard

/-- What the breakdown shows of a model. -/
structure ModelPanel where
  name : String
  slug : String
  anchor : String
  rank : Nat
  total : Binary64
  average? : Option Binary64
  count : Nat
  /-- How many generations the feed has, with media or without. -/
  generationCount : Nat
  generations : List GenerationCard
deriving DecidableEq

/-- Medals for the first three ranks, the number for the others. -/
def rankBadge (rank : Nat) : String :=
  if rank = 1 then String.singleton (Char.ofNat 0x1F947)
  else if rank = 2 then String.singleton (Char.ofNat 0x1F948)
  else if rank = 3 then String.singleton (Char.ofNat 0x1F949)
  else "#" ++ toString rank

namespace ModelPanel

/-- The panel of a model of a partition. -/
def of (p : Partition) (rank : Nat) (m : Model) : ModelPanel :=
  let result? := m.resultIn? p.benchmark.slug
  { name := m.name
    slug := m.slug
    anchor := Navigation.anchor m.slug
    rank
    total := p.totalOf m
    average? := result?.bind (·.average?)
    count := (result?.map (·.count)).getD 0
    generationCount := m.generations.length
    generations := m.generations.filterMap GenerationCard.of? }

def badge (m : ModelPanel) : String := rankBadge m.rank

end ModelPanel

/-- A panel for every model, best first. -/
def modelPanels [Sorter] (p : Partition) : List ModelPanel :=
  (Ranking.rankBy p.totalOf p.models).map fun e => .of p e.1 e.2

/-! ## The page -/

structure Breakdown where
  prompts : List PromptCard
  panels : List ModelPanel
  /-- The place of the panel that the fragment opens. -/
  openAt? : Option Nat
  /-- What the sort of the models told if it gave up. -/
  fault? : Option String
deriving DecidableEq

namespace Breakdown

/-- The anchor that a fragment names. -/
def anchorOf? (fragment : String) : Option String :=
  Text.nonempty? (String.ofList (fragment.toList.dropWhile (· == Char.ofNat 0x23)))

/-- The place of the first panel with the anchor of a fragment. -/
def placeOf? (panels : List ModelPanel) (fragment? : Option String) : Option Nat :=
  (fragment?.bind anchorOf?).bind fun a => panels.findIdx? (·.anchor == a)

/-- The breakdown of a partition. -/
def of [Sorter] (p : Partition) (e : Explanations) (fragment? : Option String) : Breakdown where
  prompts := promptCards e p
  panels := modelPanels p
  openAt? := placeOf? (modelPanels p) fragment?
  fault? := (Ranking.sortByScore p.totalOf p.models).fault?

/-- The open panel. -/
def open? (b : Breakdown) : Option ModelPanel := b.openAt?.bind fun i => b.panels[i]?

end Breakdown

/-! ## Lemmas -/

theorem Breakdown.openAt_lt [Sorter] {p : Partition} {e : Explanations}
    {fragment? : Option String} {i : Nat} (h : (Breakdown.of p e fragment?).openAt? = some i) :
    i < (Breakdown.of p e fragment?).panels.length := by
  change Breakdown.placeOf? _ _ = _ at h
  unfold Breakdown.placeOf? at h
  obtain ⟨a, -, found⟩ := Option.bind_eq_some_iff.mp h
  exact (List.findIdx?_eq_some_iff_getElem.mp found).1

end Leaderboard
