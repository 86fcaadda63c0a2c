/-
# Leaderboard.Proofs.OpenPanel — which panels an open panel marks and expands on the page

A fragment opens one panel, and the breakdown keeps its place. The page goes by the slug instead: it
marks, and expands, every panel that has the slug of the open one. The open panel is always among
them, and the others stand below it. So the page is that of one open panel exactly when no other
panel has its slug.

Marks can be told from the text: two pages that differ in a mark first differ at the header of some
panel, and a header starts with its mark (`marking_inj`).

* `opensPanel`: this for every partition, explanations and fragment, with the panels in the order of
  their ranks.

Pole: `homonyms_open_together` (two models under one slug, both marked and expanded).
-/
import Leaderboard.Page
import Leaderboard.Proofs.SharedRanking

set_option autoImplicit false

namespace Leaderboard

open Leaderboard.Feed (Partition Model Explanations)

/-! ## Pages with marks -/

namespace Page

/-- The header of a model without its mark. -/
def headerText (m : ModelPanel) : String :=
  " " ++ m.badge ++ " " ++ m.name ++ "  Score: " ++ formatScore m.total ++ "  (avg " ++
    formatAverage m.average? m.count ++ ")"

/-- A panel that is marked or not and expanded or not. -/
def panelLines (marked expanded : Bool) (m : ModelPanel) : List String :=
  "" :: ((if marked then ">" else " ") ++ headerText m) ::
    if expanded then generationLines none m else []

theorem modelLines_eq (openSlug? : Option String) (m : ModelPanel) :
    modelLines openSlug? m =
      panelLines (openSlug? == some m.slug) (openSlug?.isNone || openSlug? == some m.slug) m := by
  have header : modelLine openSlug? m =
      (if openSlug? == some m.slug then ">" else " ") ++ headerText m := by
    simp only [modelLine, headerText, beq_iff_eq, String.append_assoc]
  have generations : generationLines openSlug? m =
      if openSlug?.isNone || openSlug? == some m.slug then generationLines none m else [] := by
    cases openSlug? with
    | none => rfl
    | some slug =>
        by_cases same : slug = m.slug
        · simp [generationLines, same]
        · simp [generationLines, same]
  rw [modelLines, header, generations, panelLines]

/-- The lines of panels with marks at some places. A marked panel is expanded, and others only if
all are. -/
def markedLines (all : Bool) (marked : Nat → Bool) (panels : List ModelPanel) : List String :=
  (panels.mapIdx fun j m => panelLines (marked j) (all || marked j) m).flatten

/-- The text of a breakdown with marks at some places. Without an open panel all are expanded. -/
def marking (b : Breakdown) (marked : Nat → Bool) : String :=
  joinLines ((if b.prompts.isEmpty then ["No prompts available"] else []) ++
    b.prompts.flatMap promptLines ++ markedLines b.openAt?.isNone marked b.panels)

/-! ### Marks can be told from the text -/

theorem joinLines_ne {front : List String} (behind : front ≠ []) {c d : Char} (differ : c ≠ d)
    (a b : String) (r s : List String) :
    joinLines (front ++ (String.singleton c ++ a) :: r) ≠
      joinLines (front ++ (String.singleton d ++ b) :: s) := by
  have starts (c : Char) (a : String) (r : List String) :
      (joinLines ((String.singleton c ++ a) :: r)).toList.head? = some c := by
    unfold joinLines
    cases r with
    | nil =>
        rw [String.intercalate_singleton, String.toList_append, String.toList_singleton]
        rfl
    | cons next r =>
        rw [String.intercalate_cons_cons, String.append_assoc, String.append_assoc,
          String.toList_append, String.toList_singleton]
        rfl
  intro same
  unfold joinLines at same
  rw [String.intercalate_append_of_ne_nil behind (List.cons_ne_nil _ _),
    String.intercalate_append_of_ne_nil behind (List.cons_ne_nil _ _),
    String.append_right_inj] at same
  have heads := congrArg (fun text : String => text.toList.head?) same
  exact differ (Option.some.inj ((starts c a r).symm.trans (heads.trans (starts d b s))))

theorem joinLines_panelLines_ne (front : List String) {marked marked' : Bool}
    (differ : marked ≠ marked') (expanded expanded' : Bool) (m : ModelPanel) (r s : List String) :
    joinLines (front ++ (panelLines marked expanded m ++ r)) ≠
      joinLines (front ++ (panelLines marked' expanded' m ++ s)) := by
  have behind : front ++ [""] ≠ [] := List.append_ne_nil_of_right_ne_nil _ (List.cons_ne_nil _ _)
  have apart := joinLines_ne behind (show '>' ≠ ' ' by decide) (headerText m) (headerText m)
  have split (marked expanded : Bool) (r : List String) :
      front ++ (panelLines marked expanded m ++ r) = front ++ [""] ++
        ((if marked then String.singleton '>' else String.singleton ' ') ++ headerText m) ::
          ((if expanded then generationLines none m else []) ++ r) := by
    rw [List.append_assoc]
    rfl
  rw [split, split]
  cases marked with
  | true =>
      cases marked' with
      | true => exact absurd rfl differ
      | false => exact apart _ _
  | false =>
      cases marked' with
      | true => exact (apart _ _).symm
      | false => exact absurd rfl differ

theorem markedLines_inj (all : Bool) (panels : List ModelPanel) :
    ∀ (front : List String) (f g : Nat → Bool),
      joinLines (front ++ markedLines all f panels) =
          joinLines (front ++ markedLines all g panels) ↔
        ∀ j < panels.length, f j = g j := by
  induction panels with
  | nil => simp [markedLines]
  | cons m r ih =>
      intro front f g
      have step (f : Nat → Bool) : markedLines all f (m :: r) =
          panelLines (f 0) (all || f 0) m ++ markedLines all (fun j => f (j + 1)) r := by
        rw [markedLines, List.mapIdx_cons, List.flatten_cons]
        rfl
      rw [step, step, List.length_cons, Nat.forall_lt_succ_left]
      -- A panel with the same mark on both sides joins the front; else the texts part at its
      -- header.
      by_cases first : f 0 = g 0
      · rw [first, ← List.append_assoc, ← List.append_assoc, ih]
        exact (and_iff_right rfl).symm
      · exact iff_of_false (joinLines_panelLines_ne front first _ _ m _ _)
          fun same => first same.1

/-- A page shows which panels are marked. -/
theorem marking_inj (b : Breakdown) (f g : Nat → Bool) :
    marking b f = marking b g ↔ ∀ j < b.panels.length, f j = g j :=
  markedLines_inj _ _ _ f g

end Page

/-! ## The open panel and its namesakes -/

namespace Breakdown

/-- Whether the panel at a place is the open one. -/
def isOpen (b : Breakdown) (j : Nat) : Bool := b.openAt? == some j

/-- Whether the panel at a place has the slug of the open one. -/
def sharesSlug (b : Breakdown) (j : Nat) : Bool :=
  match b.open?, b.panels[j]? with
  | some o, some m => m.slug == o.slug
  | _, _ => false

variable {b : Breakdown} {i j : Nat} {o m : ModelPanel}

theorem isOpen_iff : b.isOpen j = true ↔ b.openAt? = some j := beq_iff_eq

theorem sharesSlug_iff (here : b.openAt? = some i) (opened : b.panels[i]? = some o)
    (there : b.panels[j]? = some m) : b.sharesSlug j = true ↔ m.slug = o.slug := by
  rw [sharesSlug, open?, here, Option.bind_some, opened, there]
  exact beq_iff_eq

theorem sharesSlug_of_closed (closed : b.openAt? = none) (j : Nat) : b.sharesSlug j = false := by
  rw [sharesSlug, open?, closed, Option.bind_none]

/-- The page marks by slug. -/
theorem page_eq (inside : ∀ i, b.openAt? = some i → i < b.panels.length) :
    Page.breakdown b = Page.marking b b.sharesSlug := by
  have all : (b.open?.map (·.slug)).isNone = b.openAt?.isNone := by
    rw [Option.isNone_map, open?]
    cases here : b.openAt? with
    | none => rfl
    | some i =>
        rw [Option.bind_some, List.getElem?_eq_getElem (inside i here)]
        rfl
  have marks (j : Nat) (there : j < b.panels.length) :
      (b.open?.map (·.slug) == some b.panels[j].slug) = b.sharesSlug j := by
    rw [sharesSlug, List.getElem?_eq_getElem there]
    cases b.open? with
    | none => rfl
    | some o => exact Bool.beq_comm
  have lines : b.panels.map (Page.modelLines (b.open?.map (·.slug))) =
      b.panels.mapIdx fun j m =>
        Page.panelLines (b.sharesSlug j) (b.openAt?.isNone || b.sharesSlug j) m := by
    refine List.ext_getElem (by simp) fun j there _ => ?_
    rw [List.length_map] at there
    rw [List.getElem_map, List.getElem_mapIdx, Page.modelLines_eq, all, marks j there]
  rw [Page.breakdown, Page.marking, Page.markedLines, ← lines, ← List.flatMap_def]

/-- The page is that of one open panel unless another has its slug. -/
theorem page_eq_iff (inside : ∀ i, b.openAt? = some i → i < b.panels.length) :
    Page.breakdown b = Page.marking b b.isOpen ↔
      ∀ i o, b.openAt? = some i → b.panels[i]? = some o →
        ∀ j m, b.panels[j]? = some m → m.slug = o.slug → j = i := by
  rw [page_eq inside, Page.marking_inj]
  constructor
  · intro same i o here opened j m there slug
    obtain ⟨within, -⟩ := List.getElem?_eq_some_iff.mp there
    have marked := (sharesSlug_iff here opened there).mpr slug
    rw [same j within, isOpen_iff, here] at marked
    exact (Option.some.inj marked).symm
  · intro alone j within
    have there := List.getElem?_eq_getElem within
    cases here : b.openAt? with
    | none => rw [sharesSlug_of_closed here, isOpen, here]; rfl
    | some i =>
        have opened := List.getElem?_eq_getElem (inside i here)
        rw [Bool.eq_iff_iff, sharesSlug_iff here opened there, isOpen_iff, here, Option.some.injEq]
        constructor
        · exact fun slug => (alone i _ here opened j _ there slug).symm
        · rintro rfl
          rfl

/-- The open panel is the first one with its anchor. -/
theorem le_of_anchor [Sorter] {p : Partition} {e : Explanations} {fragment? : Option String}
    (here : (of p e fragment?).openAt? = some i) (opened : (of p e fragment?).panels[i]? = some o)
    (there : (of p e fragment?).panels[j]? = some m) (same : m.anchor = o.anchor) : i ≤ j := by
  obtain ⟨a, -, found⟩ := Option.bind_eq_some_iff.mp here
  obtain ⟨_, anchored, first⟩ := List.findIdx?_eq_some_iff_getElem.mp found
  obtain ⟨_, rfl⟩ := List.getElem?_eq_some_iff.mp opened
  obtain ⟨_, rfl⟩ := List.getElem?_eq_some_iff.mp there
  refine Nat.le_of_not_lt fun before => first j before ?_
  exact beq_iff_eq.mpr (same.trans (beq_iff_eq.mp anchored))

end Breakdown

theorem anchor_of_mem_modelPanels [Sorter] {p : Partition} {m : ModelPanel}
    (mem : m ∈ modelPanels p) : m.anchor = Navigation.anchor m.slug := by
  obtain ⟨_, -, rfl⟩ := List.mem_map.mp mem
  rfl

/-! ## The law -/

/-- How a breakdown of a partition is printed. -/
structure OpensPanel (p : Partition) (b : Breakdown) : Prop where
  /-- Every model has a panel, best first. -/
  ranked : ∃ models : List Model, models.Perm p.models ∧
    b.panels = models.map (fun m => ModelPanel.of p (p.rankOf m) m) ∧
      b.panels.Pairwise fun a b => a.rank ≤ b.rank
  /-- Without an open panel none is marked and all are expanded. -/
  closed : b.openAt? = none → Page.breakdown b = Page.marking b fun _ => false
  /-- The panels with the slug of the open one are marked, and they alone are expanded. -/
  printed : Page.breakdown b = Page.marking b b.sharesSlug
  /-- These are the open one and others below it. -/
  shared : ∀ i o, b.openAt? = some i → b.panels[i]? = some o → ∀ j m, b.panels[j]? = some m →
    (b.sharesSlug j = true ↔ m.slug = o.slug) ∧ (b.sharesSlug j = true → i ≤ j)
  /-- So the open one is alone unless another has its slug. -/
  alone : Page.breakdown b = Page.marking b b.isOpen ↔
    ∀ i o, b.openAt? = some i → b.panels[i]? = some o →
      ∀ j m, b.panels[j]? = some m → m.slug = o.slug → j = i

/-- **An open panel is marked and expanded with its namesakes**, and alone exactly when there are
none. -/
theorem opensPanel [Sorter] (p : Partition) (e : Explanations) (fragment? : Option String) :
    OpensPanel p (.of p e fragment?) where
  ranked := by
    refine ⟨p.ranked, Sorting.stableSort_perm _ _, modelPanels_eq p, ?_⟩
    change (modelPanels p).Pairwise _
    rw [modelPanels_eq, List.pairwise_map]
    exact ranked_pairwise p
  closed none := by
    rw [Breakdown.page_eq fun _ => Breakdown.openAt_lt, Page.marking_inj]
    exact fun j _ => Breakdown.sharesSlug_of_closed none j
  printed := Breakdown.page_eq fun _ => Breakdown.openAt_lt
  shared i o here opened j m there := by
    have shares := Breakdown.sharesSlug_iff here opened there
    refine ⟨shares, fun marked => Breakdown.le_of_anchor here opened there ?_⟩
    rw [anchor_of_mem_modelPanels (List.mem_of_getElem? there),
      anchor_of_mem_modelPanels (List.mem_of_getElem? opened), shares.mp marked]
  alone := Breakdown.page_eq_iff fun _ => Breakdown.openAt_lt

/-! ## Poles -/

/-- Two models under one slug, each with an image. -/
def homonyms : Partition :=
  let image : Feed.Generation :=
    { uid := "p1", prompt? := none, rawScore := .null, comment? := none
      mediaUrl? := some "1.png", path? := none, media := .image }
  contest (twins.models.map fun m => { m with generations := [image] })

/-- The fragment opens the first panel, and the page marks and expands both. -/
theorem homonyms_open_together :
    let b := Breakdown.of homonyms ⟨[]⟩ (some "a")
    b.openAt? = some 0 ∧
      Page.breakdown b = Page.joinLines ["No prompts available",
        "", "> 🥇 A  Score: 10  (avg 0)", "    p1 [Image] 1.png  Score: 0  No comment provided.",
        "", "> 🥈 B  Score: 8  (avg 0)", "    p1 [Image] 1.png  Score: 0  No comment provided."] ∧
      Page.marking b b.isOpen = Page.joinLines ["No prompts available",
        "", "> 🥇 A  Score: 10  (avg 0)", "    p1 [Image] 1.png  Score: 0  No comment provided.",
        "", "  🥈 B  Score: 8  (avg 0)"] ∧
      Page.breakdown b ≠ Page.marking b b.isOpen := by
  decide +kernel

end Leaderboard
