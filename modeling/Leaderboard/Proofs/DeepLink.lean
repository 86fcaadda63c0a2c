/-
# Leaderboard.Proofs.DeepLink — what the link of a row's score opens

The link of a score goes to the breakdown of the mode, and its fragment is the anchor of the row's
slug. There the fragment opens the first panel, best first, whose slug has that anchor
(`open?_eq`). The two pages share the anchor alone, and anchors forget: they have letters and digits
in small letters, with dashes for all else. So the panel that opens is that of the row's model
unless a model under another slug with the same anchor stands before it, and a slug without letters
and digits opens nothing.

That the fragment is the anchor needs a mode without a number sign, since the mode is written into
the link as it is (`fragmentOf?_scoreLink`).

* `scoreHref_opens`: this, for every row of every table.

Pole: `lookalikes_open_another` (slugs that differ in a mark).
-/
import Leaderboard.Proofs.SharedRanking
import Leaderboard.Text.Ascii
import Leaderboard.Text.Cut

set_option autoImplicit false

namespace Leaderboard

open Leaderboard.Feed (Partition Model)

/-! ## Fragments -/

/-- The text after the first number sign. -/
def fragmentOf? (link : String) : Option String :=
  (Text.cutAt '#' link.toList).2.map String.ofList

theorem fragmentOf?_scoreLink {mode : String} (plain : '#' ∉ mode.toList) (fragment : String) :
    fragmentOf? (Navigation.scoreLink mode fragment) = some fragment := by
  have front : '#' ∉ (Navigation.benchmarkPage mode).toList := by
    unfold Navigation.benchmarkPage
    rw [String.toList_append, List.mem_append, not_or]
    exact ⟨plain, by decide⟩
  have link : (Navigation.scoreLink mode fragment).toList =
      (Navigation.benchmarkPage mode).toList ++ '#' :: fragment.toList := by
    unfold Navigation.scoreLink
    rw [String.toList_append, String.toList_append, List.append_assoc]
    rfl
  unfold fragmentOf?
  rw [link, Text.cutAt_append front]
  exact congrArg some String.ofList_toList

/-- Nothing in an anchor ends a fragment. -/
theorem not_mem_anchor (slug : String) : '#' ∉ (Navigation.anchor slug).toList := by
  unfold Navigation.anchor
  rw [String.toList_ofList]
  intro mem
  rcases Navigation.anchorChars_keeps mem with dash | ⟨d, -, word, lowered⟩
  · exact absurd dash (by decide)
  · have code : ('#' : Char).toNat = d.toLower.toNat := congrArg Char.toNat lowered
    unfold Navigation.isWordChar at word
    rw [Text.isAlphanum_iff] at word
    rw [show ('#' : Char).toNat = 35 from rfl, Text.toNat_toLower] at code
    split at code
    · omega
    · omega

/-! ## The panel that opens -/

theorem find?_eq_bind_findIdx? {α : Type} (p : α → Bool) (l : List α) :
    (l.findIdx? p).bind (fun i => l[i]?) = l.find? p := by
  induction l with
  | nil => rfl
  | cons a r ih =>
      rw [List.findIdx?_cons, List.find?_cons]
      cases p a with
      | true => rfl
      | false =>
          rw [← ih]
          cases r.findIdx? p <;> rfl

/-- The first model, best first, whose slug has an anchor. -/
def Feed.Partition.firstWithAnchor? (p : Partition) (a : String) : Option Model :=
  p.ranked.find? fun m => Navigation.anchor m.slug == a

theorem firstWithAnchor?_some {p : Partition} {a : String} {m : Model}
    (first : p.firstWithAnchor? a = some m) : m ∈ p.models ∧ Navigation.anchor m.slug = a := by
  refine ⟨mem_ranked.mp (List.mem_of_find?_eq_some first), ?_⟩
  simpa using List.find?_some (p := fun m : Model => Navigation.anchor m.slug == a) first

theorem anchorOf?_anchor {slug : String} (kept : Navigation.anchor slug ≠ "") :
    Breakdown.anchorOf? (Navigation.anchor slug) = some (Navigation.anchor slug) := by
  have unmarked : (Navigation.anchor slug).toList.dropWhile (· == Char.ofNat 0x23) =
      (Navigation.anchor slug).toList := by
    have inside := not_mem_anchor slug
    cases cs : (Navigation.anchor slug).toList with
    | nil => rfl
    | cons c r =>
        rw [cs, List.mem_cons, not_or] at inside
        exact List.dropWhile_cons_of_neg fun marked => inside.1 (beq_iff_eq.mp marked).symm
  unfold Breakdown.anchorOf? Text.nonempty?
  rw [unmarked, String.ofList_toList, if_neg (by simpa using kept)]

/-- An empty anchor opens nothing, any other one the panel of the first model that has it. -/
theorem Breakdown.open?_eq [Sorter] (p : Partition) (e : Feed.Explanations) (slug : String) :
    (Breakdown.of p e (some (Navigation.anchor slug))).open? =
      if Navigation.anchor slug = "" then none
      else (p.firstWithAnchor? (Navigation.anchor slug)).map fun m =>
        ModelPanel.of p (p.rankOf m) m := by
  unfold Breakdown.open? Breakdown.of Breakdown.placeOf?
  dsimp only
  rw [Option.bind_some]
  split
  · rename_i empty
    rw [empty]
    rfl
  · rename_i kept
    rw [anchorOf?_anchor kept, Option.bind_some, find?_eq_bind_findIdx?, modelPanels_eq,
      List.find?_map]
    rfl

/-- **What the link of a row opens.** It opens nothing for a slug without letters and digits, and
else the first model that has the anchor of the row's slug. Where slugs with that anchor are the
same this is the row's model. -/
theorem scoreHref_opens [Sorter] {mode : String} (plain : '#' ∉ mode.toList) {p : Partition}
    {s : ViewState} (e : Feed.Explanations) {r : Row} (shown : r ∈ (TableView.of mode p s).rows) :
    let fragment? := fragmentOf? ((TableView.of mode p s).scoreHref r)
    let opened? := (Breakdown.of p e fragment?).open?
    fragment? = some (Navigation.anchor r.slug) ∧
      (Navigation.anchor r.slug = "" → opened? = none) ∧
      (Navigation.anchor r.slug ≠ "" → ∃ m ∈ p.models,
        p.firstWithAnchor? (Navigation.anchor r.slug) = some m ∧
        opened? = some (ModelPanel.of p (p.rankOf m) m) ∧
        ((∀ other ∈ p.models, Navigation.anchor other.slug = Navigation.anchor r.slug →
            other.slug = r.slug) → m.slug = r.slug)) := by
  obtain ⟨own, mem, row⟩ := List.mem_map.mp (TableView.mem_rows.mp shown).1
  have slug : own.slug = r.slug := congrArg Row.slug row
  have anchor : r.anchor = Navigation.anchor r.slug := by rw [← row]; rfl
  have fragment : fragmentOf? ((TableView.of mode p s).scoreHref r) =
      some (Navigation.anchor r.slug) := by
    unfold TableView.scoreHref
    rw [anchor]
    exact fragmentOf?_scoreLink plain _
  have opened := Breakdown.open?_eq p e r.slug
  dsimp only
  rw [fragment]
  refine ⟨rfl, fun empty => opened.trans (if_pos empty), fun kept => ?_⟩
  rw [if_neg kept] at opened
  cases first : p.firstWithAnchor? (Navigation.anchor r.slug) with
  | none =>
      refine absurd ?_ (List.find?_eq_none.mp first own (mem_ranked.mpr mem))
      rw [slug]
      exact beq_self_eq_true _
  | some m =>
      obtain ⟨inModels, anchored⟩ := firstWithAnchor?_some first
      rw [first] at opened
      exact ⟨m, inModels, rfl, opened, fun same => same m inModels anchored⟩

/-- Two models whose anchors differ. -/
def wellNamed : Partition :=
  contest [scored "A/b" "slash" (.text "3"), scored "c d" "blank" (.text "4")]

/-- The link of a row opens its model. -/
theorem wellNamed_opens :
    let r := Row.ofModel wellNamed (scored "A/b" "slash" (.text "3"))
    '#' ∉ "m".toList ∧ r ∈ (TableView.of "m" wellNamed {}).rows ∧
      Navigation.anchor r.slug = "a-b" ∧
      ∃ m ∈ wellNamed.models, m.slug = "A/b" ∧
        (Breakdown.of wellNamed ⟨[]⟩
          (fragmentOf? ((TableView.of "m" wellNamed {}).scoreHref r))).open? =
            some (ModelPanel.of wellNamed (wellNamed.rankOf m) m) := by
  intro r
  have plain : '#' ∉ "m".toList := by decide
  have shown : r ∈ (TableView.of "m" wellNamed {}).rows := by decide +kernel
  have anchor : Navigation.anchor r.slug = "a-b" := by decide +kernel
  obtain ⟨m, mem, -, opened, own⟩ :=
    (scoreHref_opens plain ⟨[]⟩ shown).2.2 (by rw [anchor]; decide)
  exact ⟨plain, shown, anchor, m, mem, own (by decide +kernel), opened⟩

/-! ## Poles -/

/-- Two slugs with one anchor, and one without letters and digits. -/
def lookalikes : Partition :=
  contest [scored "a/b" "slash" (.text "3"), scored "a-b" "dash" (.text "2"),
    scored "!!!" "marks" (.text "1")]

/-- What the link of each row opens. -/
def openedByRows (mode : String) (p : Partition) : List (String × Option String) :=
  (TableView.of mode p {}).rows.map fun r => (r.slug,
    (Breakdown.of p ⟨[]⟩ (fragmentOf? ((TableView.of mode p {}).scoreHref r))).open?.map (·.slug))

/-- The link of the second row opens the first model and that of the third none. Under a mode with
a number sign no link opens a model. -/
theorem lookalikes_open_another :
    openedByRows "m" lookalikes =
        [("a/b", some "a/b"), ("a-b", some "a/b"), ("!!!", none)] ∧
      openedByRows "m#1" lookalikes = [("a/b", none), ("a-b", none), ("!!!", none)] := by
  decide +kernel

end Leaderboard
