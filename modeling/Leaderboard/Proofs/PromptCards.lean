/-
# Leaderboard.Proofs.PromptCards — the cards of the prompts and what decides them

The cards show the prompts of a partition in the order of their identifiers, and prompts under one
identifier in the order in which the partition has them. The order is that of the *places* of the
prompts, so that repeated and empty identifiers are no exception. Identifiers are compared by code
points; this is also the order of their bytes, since the lead byte of a character tells how many
tails it has and tails count in base sixty-four (`Text.Utf8.encode_lt_iff`).

Two prompts may be swapped in the partition without a trace, unless they share an identifier: a
sorted list is known by what it has under each key (`eq_of_filter_eq`), and sorting keeps that
(`filter_sortedPrompts`).

The explanation feed is read for one thing only, the explanation of a card, and there only under the
identifier of its prompt; a blank text there counts as none.

* `showsPrompts`: this for every partition and every feed.

Pole: `namesakes_stay_in_order` (prompts under one identifier cannot be swapped).
-/
import Leaderboard.Breakdown
import Leaderboard.Proofs.EscapedText
import Leaderboard.Proofs.StableOrder
import Mathlib.Data.List.Nodup

set_option autoImplicit false

namespace Leaderboard

open Leaderboard.Feed (Partition Prompt Explanations)

/-! ## Texts are ordered as their bytes -/

namespace Text.Utf8

theorem utf8EncodeChar_lt {c d : Char} (less : c < d) (r s : List UInt8) :
    String.utf8EncodeChar c ++ r < String.utf8EncodeChar d ++ s := by
  have less : c.val.toNat < d.val.toNat := UInt32.lt_iff_toNat_lt.mp less
  have last : d.val.toNat < 0x110000 := by
    have valid : d.val.toNat < 0xD800 ∨ 0xDFFF < d.val.toNat ∧ d.val.toNat < 0x110000 := d.valid
    omega
  have third (n : Nat) : n / 4096 = n / 64 / 64 := (Nat.div_div_eq_div_mul n 64 64).symm
  have fourth (n : Nat) : n / 262144 = n / 64 / 64 / 64 := by
    rw [Nat.div_div_eq_div_mul, Nat.div_div_eq_div_mul]
  unfold String.utf8EncodeChar
  dsimp only
  generalize c.val.toNat = v at *
  generalize d.val.toNat = w at *
  -- One case for each pair of lengths: different lead bytes, or the same number of digits.
  repeat' split
  all_goals
    simp only [List.cons_append, List.cons_lt_cons_iff, UInt8.lt_iff_toNat_lt,
      UInt8.toNat_ofNat', ← UInt8.toNat_inj, third, fourth]
    omega

theorem encode_lt {cs ds : List Char} (less : cs < ds) : encode cs < encode ds := by
  induction less with
  | @nil d s =>
      obtain ⟨b, bs, bytes, -⟩ := firstPiece_utf8EncodeChar d []
      rw [encode_cons, bytes]
      exact List.nil_lt_cons _ _
  | rel less =>
      rw [encode_cons, encode_cons]
      exact utf8EncodeChar_lt less _ _
  | cons _ ih =>
      rw [encode_cons, encode_cons]
      exact List.append_left_lt ih

theorem encode_lt_iff {cs ds : List Char} : encode cs < encode ds ↔ cs < ds := by
  refine ⟨fun less => Decidable.byContradiction fun other => ?_, encode_lt⟩
  rcases List.le_iff_lt_or_eq.mp (List.not_lt.mp other) with more | rfl
  · exact List.lt_asymm less (encode_lt more)
  · exact List.lt_irrefl _ less

theorem bytes_lt_iff {s t : String} : bytes s < bytes t ↔ s < t := encode_lt_iff

end Text.Utf8

/-! ## Sorted lists by what they have under each key -/

section Keys

variable {α : Type} {key : α → String}

/-- A sorted list is known by what it has under each key. -/
theorem eq_of_filter_eq {l l' : List α} (sorted : l.Pairwise fun a b => key a ≤ key b)
    (sorted' : l'.Pairwise fun a b => key a ≤ key b)
    (same : ∀ k, l.filter (key · == k) = l'.filter (key · == k)) : l = l' := by
  have mem_iff (a : α) : a ∈ l ↔ a ∈ l' := by
    have own := congrArg (a ∈ ·) (same (key a))
    simpa using own
  induction l generalizing l' with
  | nil =>
      cases l' with
      | nil => rfl
      | cons b s => exact absurd ((mem_iff b).mpr List.mem_cons_self) List.not_mem_nil
  | cons a r ih =>
      cases l' with
      | nil => exact absurd ((mem_iff a).mp List.mem_cons_self) List.not_mem_nil
      | cons b s =>
          obtain ⟨first, rest⟩ := List.pairwise_cons.mp sorted
          obtain ⟨first', rest'⟩ := List.pairwise_cons.mp sorted'
          -- Each list has the first item of the other, so the two items have one key.
          have below : key a ≤ key b := by
            rcases List.mem_cons.mp ((mem_iff b).mpr List.mem_cons_self) with rfl | later
            · exact String.le_refl _
            · exact first b later
          have above : key b ≤ key a := by
            rcases List.mem_cons.mp ((mem_iff a).mp List.mem_cons_self) with rfl | later
            · exact String.le_refl _
            · exact first' a later
          have keys : key a = key b := String.le_antisymm below above
          have heads := same (key a)
          rw [List.filter_cons, List.filter_cons, if_pos (beq_self_eq_true _),
            if_pos (beq_iff_eq.mpr keys.symm)] at heads
          obtain ⟨rfl, -⟩ := List.cons.inj heads
          have tails (k : String) : r.filter (key · == k) = s.filter (key · == k) := by
            have whole := same k
            rw [List.filter_cons, List.filter_cons] at whole
            split at whole
            · exact (List.cons.inj whole).2
            · exact whole
          refine congrArg (a :: ·) (ih rest rest' tails fun c => ?_)
          have own := congrArg (c ∈ ·) (tails (key c))
          simpa using own

end Keys

/-! ## The order of the prompts -/

namespace Feed.Prompt

/-- Whether a prompt may stand before another. -/
def mayPrecede (a b : Prompt) : Bool := !decide (b.uid < a.uid)

theorem mayPrecede_iff {a b : Prompt} : mayPrecede a b = true ↔ a.uid ≤ b.uid := by
  unfold mayPrecede
  rw [Bool.not_eq_true', decide_eq_false_iff_not, String.not_lt]

theorem mayPrecede_trans (a b c : Prompt) (ab : mayPrecede a b = true)
    (bc : mayPrecede b c = true) : mayPrecede a c = true :=
  mayPrecede_iff.mpr (String.le_trans (mayPrecede_iff.mp ab) (mayPrecede_iff.mp bc))

theorem mayPrecede_total (a b : Prompt) : (mayPrecede a b || mayPrecede b a) = true := by
  rw [Bool.or_eq_true, mayPrecede_iff, mayPrecede_iff]
  exact String.le_total _ _

/-- The prompt at a place stands before the one at another: by the bytes of their identifiers, and
under one identifier by their places. -/
def Before (prompts : List Prompt) (i j : Fin prompts.length) : Prop :=
  Text.Utf8.bytes prompts[i].uid < Text.Utf8.bytes prompts[j].uid ∨
    prompts[i].uid = prompts[j].uid ∧ i < j

theorem before_of_precedes {prompts : List Prompt} {i j : Fin prompts.length}
    (precedes : Sorting.Precedes mayPrecede prompts i j) : Before prompts i j := by
  obtain ⟨may, settled⟩ := precedes
  by_cases back : mayPrecede prompts[j] prompts[i] = true
  · exact .inr ⟨String.le_antisymm (mayPrecede_iff.mp may) (mayPrecede_iff.mp back), settled back⟩
  · rw [mayPrecede_iff, String.not_le] at back
    exact .inl (Text.Utf8.bytes_lt_iff.mpr back)

end Feed.Prompt

section Order

open Feed.Prompt (mayPrecede mayPrecede_iff mayPrecede_trans mayPrecede_total)

theorem sortedPrompts_eq (p : Partition) :
    sortedPrompts p = Sorting.stableSort mayPrecede p.prompts :=
  (Sorting.stableSort_eq_mergeSort mayPrecede_trans mayPrecede_total p.prompts).symm

theorem sortedPrompts_pairwise (p : Partition) :
    (sortedPrompts p).Pairwise fun a b => a.uid ≤ b.uid :=
  (List.pairwise_mergeSort mayPrecede_trans mayPrecede_total p.prompts).imp mayPrecede_iff.mp

theorem sortedPrompts_perm (p : Partition) : (sortedPrompts p).Perm p.prompts :=
  List.mergeSort_perm p.prompts mayPrecede

/-- The prompts are sorted by a stable order of their places. -/
theorem sortedPrompts_arranged (p : Partition) : ∃ order : List (Fin p.prompts.length),
    order.Perm (List.finRange p.prompts.length) ∧ order.Pairwise (Feed.Prompt.Before p.prompts) ∧
      sortedPrompts p = order.map fun i => p.prompts[i] := by
  have consistent : Sorting.Consistent mayPrecede p.prompts :=
    { trans := fun a _ b _ c _ => mayPrecede_trans a b c
      total := fun a _ b _ => mayPrecede_total a b }
  have arranged := consistent.order_arranges
  refine ⟨_, arranged.places, arranged.ascending.imp Feed.Prompt.before_of_precedes, ?_⟩
  rw [sortedPrompts_eq, Sorting.stableSort_eq_map_order]

/-- The prompts under one identifier stay in their order. -/
theorem filter_sortedPrompts (p : Partition) (uid : String) :
    (sortedPrompts p).filter (·.uid == uid) = p.prompts.filter (·.uid == uid) := by
  let own := p.prompts.filter (·.uid == uid)
  have alike : own.Pairwise fun a b => mayPrecede a b = true := by
    refine List.pairwise_of_forall_mem_list fun a ha b hb => mayPrecede_iff.mpr ?_
    have keys : a.uid = b.uid := (beq_iff_eq.mp (List.mem_filter.mp ha).2).trans
      (beq_iff_eq.mp (List.mem_filter.mp hb).2).symm
    exact keys ▸ String.le_refl a.uid
  have inside : own.Sublist (sortedPrompts p) :=
    List.sublist_mergeSort mayPrecede_trans mayPrecede_total alike List.filter_sublist
  have kept := inside.filter (·.uid == uid)
  rw [List.filter_filter] at kept
  simp only [Bool.and_self] at kept
  exact (kept.eq_of_length ((sortedPrompts_perm p).filter _).length_eq.symm).symm

/-- Prompts under different identifiers may be swapped. -/
theorem sortedPrompts_congr {p q : Partition}
    (same : ∀ uid, q.prompts.filter (·.uid == uid) = p.prompts.filter (·.uid == uid)) :
    sortedPrompts q = sortedPrompts p := by
  refine eq_of_filter_eq (sortedPrompts_pairwise q) (sortedPrompts_pairwise p) fun uid => ?_
  rw [filter_sortedPrompts, filter_sortedPrompts, same uid]

/-- Under different identifiers any order of the prompts has the same under each of them. -/
theorem filter_of_perm {l l' : List Prompt} (perm : l'.Perm l) (distinct : (l.map (·.uid)).Nodup)
    (uid : String) : l'.filter (·.uid == uid) = l.filter (·.uid == uid) := by
  have one : ∀ a ∈ l.filter (·.uid == uid), ∀ b ∈ l.filter (·.uid == uid), a = b := by
    intro a ha b hb
    obtain ⟨inA, uidA⟩ := List.mem_filter.mp ha
    obtain ⟨inB, uidB⟩ := List.mem_filter.mp hb
    exact List.inj_on_of_nodup_map distinct inA inB
      ((beq_iff_eq.mp uidA).trans (beq_iff_eq.mp uidB).symm)
  have any (l : List Prompt) : l.Pairwise fun _ _ => True :=
    List.pairwise_of_forall fun _ _ => trivial
  exact List.Perm.eq_of_pairwise (fun a b ha hb _ _ => one a ((perm.filter _).mem_iff.mp ha) b hb)
    (any _) (any _) (perm.filter _)

end Order

/-! ## The law -/

namespace Feed.Explanations

/-- What a feed tells about a prompt; a blank text tells nothing. -/
def told? (e : Explanations) (uid : String) : Option String := (e.get? uid).bind Text.nonblank?

end Feed.Explanations

/-- What a card shows of its prompt, at a place that is counted from zero. -/
structure PromptCard.Shows (e : Explanations) (place : Nat) (prompt : Prompt) (c : PromptCard) :
    Prop where
  title : c.title = "Prompt " ++ toString (place + 1)
  uid : c.uid = prompt.uid
  text : c.text = prompt.text
  references : c.references = prompt.references
  /-- The feed's explanation if it is not blank, else the prompt's own if that is not blank. -/
  explanation : ∀ t, c.explanation? = some t ↔ Text.isBlankText t = false ∧
    (e.get? prompt.uid = some t ∨
      (∀ u, e.get? prompt.uid = some u → Text.isBlankText u = true) ∧
        prompt.explanation? = some t)

theorem PromptCard.shows_of (e : Explanations) (place : Nat) (prompt : Prompt) :
    Shows e place prompt (.of e place prompt) where
  title := rfl
  uid := rfl
  text := rfl
  references := rfl
  explanation t := by
    change ((e.told? prompt.uid).or (prompt.explanation?.bind Text.nonblank?)) = some t ↔ _
    unfold Feed.Explanations.told?
    rw [Option.or_eq_some_iff, Text.bind_nonblank?_eq_some_iff, Text.bind_nonblank?_eq_some_iff,
      Text.bind_nonblank?_eq_none_iff]
    tauto

/-- A breakdown without the explanations of its cards. -/
def Breakdown.untold (b : Breakdown) : Breakdown :=
  { b with prompts := b.prompts.map fun c => { c with explanation? := none } }

/-- How the prompts of a partition are shown. -/
structure ShowsPrompts [Sorter] (p : Partition) (e : Explanations) : Prop where
  /-- Every prompt has one card. The cards are in the order of the identifiers, and under one
  identifier in that of the prompts. -/
  arranged : ∃ order : List (Fin p.prompts.length),
    order.Perm (List.finRange p.prompts.length) ∧ order.Pairwise (Feed.Prompt.Before p.prompts) ∧
      (promptCards e p).length = order.length ∧
      ∀ (place : Nat) (i : Fin p.prompts.length) (c : PromptCard), order[place]? = some i →
        (promptCards e p)[place]? = some c → c.Shows e place p.prompts[i]
  /-- The order of prompts under different identifiers does not count. -/
  swapped : ∀ q : Partition,
    (∀ uid, q.prompts.filter (·.uid == uid) = p.prompts.filter (·.uid == uid)) →
      promptCards e q = promptCards e p
  /-- So no order counts if all identifiers differ. -/
  reordered : ∀ q : Partition, q.prompts.Perm p.prompts → (p.prompts.map (·.uid)).Nodup →
    promptCards e q = promptCards e p
  /-- Another feed changes explanations only. -/
  retold : ∀ (e' : Explanations) (fragment? : Option String),
    (Breakdown.of p e' fragment?).untold = (Breakdown.of p e fragment?).untold
  /-- It changes only those of prompts about which it tells something else. -/
  untouched : ∀ (e' : Explanations) (fragment? : Option String) (place : Nat) (c c' : PromptCard),
    (Breakdown.of p e fragment?).prompts[place]? = some c →
      (Breakdown.of p e' fragment?).prompts[place]? = some c' →
        e'.told? c.uid = e.told? c.uid → c' = c

/-! ### Other partitions and other feeds -/

theorem promptCards_congr {p q : Partition} (e : Explanations)
    (same : ∀ uid, q.prompts.filter (·.uid == uid) = p.prompts.filter (·.uid == uid)) :
    promptCards e q = promptCards e p := by
  rw [promptCards, promptCards, sortedPrompts_congr same]

theorem promptCards_untold (e e' : Explanations) (p : Partition) :
    (promptCards e' p).map (fun c => { c with explanation? := none }) =
      (promptCards e p).map fun c => { c with explanation? := none } := by
  apply List.ext_getElem?
  intro place
  simp only [promptCards, List.getElem?_map, List.getElem?_mapIdx, Option.map_map]
  rfl

theorem getElem?_promptCards {e : Explanations} {p : Partition} {place : Nat} {c : PromptCard}
    (there : (promptCards e p)[place]? = some c) :
    ∃ prompt, (sortedPrompts p)[place]? = some prompt ∧ PromptCard.of e place prompt = c := by
  rw [promptCards, List.getElem?_mapIdx] at there
  exact Option.map_eq_some_iff.mp there

/-- **The cards are the prompts in the order of their identifiers, and the feed decides their
explanations only.** -/
theorem showsPrompts [Sorter] (p : Partition) (e : Explanations) : ShowsPrompts p e where
  arranged := by
    obtain ⟨order, places, ascending, sorted⟩ := sortedPrompts_arranged p
    refine ⟨order, places, ascending, ?_, fun place i c here there => ?_⟩
    · rw [promptCards, List.length_mapIdx, sorted, List.length_map]
    · obtain ⟨prompt, own, rfl⟩ := getElem?_promptCards there
      rw [sorted, List.getElem?_map, here] at own
      obtain rfl := Option.some.inj own
      exact PromptCard.shows_of e place _
  swapped q same := promptCards_congr e same
  reordered q perm distinct := promptCards_congr e (filter_of_perm perm distinct)
  retold e' fragment? := by
    unfold Breakdown.untold Breakdown.of
    dsimp only
    rw [promptCards_untold e e' p]
  untouched e' fragment? place c c' here there same := by
    obtain ⟨prompt, own, rfl⟩ := getElem?_promptCards here
    obtain ⟨prompt', own', rfl⟩ := getElem?_promptCards there
    obtain rfl := Option.some.inj (own.symm.trans own')
    have told : PromptCard.explanationOf? e' prompt = PromptCard.explanationOf? e prompt :=
      congrArg (·.or (prompt.explanation?.bind Text.nonblank?)) same
    rw [PromptCard.of, PromptCard.of, told]

/-! ## Poles -/

def question (uid text : String) : Prompt where
  uid
  text
  references := []
  explanation? := none

/-- A partition that has prompts only. -/
def questions (prompts : List Prompt) : Partition where
  slug := ""
  label? := none
  title? := none
  benchmark? := none
  headers := []
  models := []
  prompts

/-- Prompts under one identifier keep their order, so that swapping them swaps their cards. -/
theorem namesakes_stay_in_order :
    (promptCards ⟨[]⟩ (questions [question "p" "cat", question "p" "dog"])).map (·.text) =
        ["cat", "dog"] ∧
      (promptCards ⟨[]⟩ (questions [question "p" "dog", question "p" "cat"])).map (·.text) =
        ["dog", "cat"] := by
  unfold promptCards
  rw [sortedPrompts_eq, sortedPrompts_eq]
  decide +kernel

end Leaderboard
