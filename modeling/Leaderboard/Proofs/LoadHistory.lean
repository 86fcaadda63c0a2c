/-
# Leaderboard.Proofs.LoadHistory — a page keeps the first dataset that it gets

A page may ask for its feed at any time, while the site changes, fails and recovers in between. What
it keeps needs no account of the cache: it is the dataset of the first load that succeeded, read off
the answers given so far (`firstLoaded?`). A step adds its own answer to that (`step_kept`), and so
does a run of steps (`after_kept`).

Where nothing is kept yet, a load answers with what the site serves at that time. The site itself
takes no notice of the page (`after_store`), so what it serves comes from the changes alone.

* `run_keepsAt`: this, at every place of every history of a page that has just been opened.
-/
import Leaderboard.Site.History

set_option autoImplicit false

namespace Leaderboard.Site

open Leaderboard.Feed (Dataset Explanations)

/-! ## What a site serves -/

namespace Store

/-- The dataset that is served under a path, or why there is none. -/
def dataset [Wording] (s : Store) (path : String) : Except LoadError Dataset :=
  match s.get? path with
  | some (.ok bytes) => Cache.decode bytes
  | some (.error status) => .error (.status status)
  | none => .error (.status missing)

/-- The explanations that are served under a path, none where it cannot be fetched. -/
def explanations (s : Store) (path : String) : Explanations :=
  match s.get? path with
  | some (.ok bytes) => .ofBytes bytes
  | some (.error _) => ⟨[]⟩
  | none => ⟨[]⟩

theorem fetchDataset_carrier [Wording] (s : Store) (path : String) :
    (Cache.fetchDataset s.carrier path).1 = s.dataset path := by
  unfold Cache.fetchDataset dataset carrier
  dsimp only
  cases s.get? path with
  | none => rfl
  | some held => cases held <;> rfl

theorem explanations_carrier (s : Store) (c : Cache) :
    (c.explanations s.carrier).answer = s.explanations c.explanationsPath ∧
      (c.explanations s.carrier).fetched = [c.explanationsPath] := by
  unfold Cache.explanations explanations carrier
  dsimp only
  cases s.get? c.explanationsPath with
  | none => exact ⟨rfl, rfl⟩
  | some held => cases held <;> exact ⟨rfl, rfl⟩

end Store

/-- A step as a change of the site. Requests change nothing. -/
def Step.change : Step → Store → Store
  | .put path bytes, s => s.put path bytes
  | .fail path status, s => s.fail path status
  | .remove path, s => s.remove path
  | .load, s => s
  | .cached, s => s
  | .explanations, s => s

/-- The site after the changes among steps. -/
def Store.after (s : Store) (steps : List Step) : Store :=
  steps.foldl (fun s step => step.change s) s

/-! ## What a page has got -/

/-- The dataset of a load that succeeded. -/
def Answer.dataset? : Answer → Option Dataset
  | .loaded (.ok d) => some d
  | _ => none

/-- The dataset of the first load that succeeded. -/
def firstLoaded? (answers : List (Answer × List String)) : Option Dataset :=
  answers.findSome? (·.1.dataset?)

namespace Moment

/-- A page that has just been opened. -/
def opened (store : Store) (dataPath explanationsPath : String) : Moment :=
  ⟨store, { dataPath, explanationsPath }⟩

/-! ## One step -/

theorem step_store [Wording] (m : Moment) (s : Step) : (m.step s).2.store = s.change m.store := by
  cases s <;> rfl

theorem step_paths [Wording] (m : Moment) (s : Step) :
    (m.step s).2.cache.dataPath = m.cache.dataPath ∧
      (m.step s).2.cache.explanationsPath = m.cache.explanationsPath := by
  cases s with
  | put path bytes => exact ⟨rfl, rfl⟩
  | fail path status => exact ⟨rfl, rfl⟩
  | remove path => exact ⟨rfl, rfl⟩
  | cached => exact ⟨rfl, rfl⟩
  | explanations =>
      change (m.cache.explanations m.store.carrier).cache.dataPath = _ ∧
        (m.cache.explanations m.store.carrier).cache.explanationsPath = _
      rw [Cache.explanations_cache]
      exact ⟨rfl, rfl⟩
  | load =>
      change (m.cache.load m.store.carrier).cache.dataPath = _ ∧
        (m.cache.load m.store.carrier).cache.explanationsPath = _
      unfold Cache.load
      split <;> exact ⟨rfl, rfl⟩

/-- Where nothing is kept, a load fetches the feed once, answers with what is served and keeps it
if it is a dataset. -/
theorem step_load_none [Wording] {m : Moment} (empty : m.cache.dataset? = none) :
    (m.step .load).1 = (.loaded (m.store.dataset m.cache.dataPath), [m.cache.dataPath]) ∧
      (m.step .load).2.cache.dataset? = (m.store.dataset m.cache.dataPath).toOption := by
  rw [← Store.fetchDataset_carrier]
  unfold step Cache.load
  rw [empty]
  exact ⟨rfl, rfl⟩

theorem step_load_some [Wording] {m : Moment} {d : Dataset} (kept : m.cache.dataset? = some d) :
    (m.step .load).1 = (.loaded (.ok d), []) ∧ (m.step .load).2.cache.dataset? = some d := by
  obtain ⟨answer, same, fetched⟩ := Cache.load_cached m.store.carrier kept
  unfold step
  dsimp only
  rw [answer, same, fetched]
  exact ⟨rfl, kept⟩

theorem step_explanations [Wording] (m : Moment) :
    (m.step .explanations).1 =
        (.explained (m.store.explanations m.cache.explanationsPath),
          [m.cache.explanationsPath]) ∧
      (m.step .explanations).2.cache = m.cache := by
  obtain ⟨answer, fetched⟩ := m.store.explanations_carrier m.cache
  refine ⟨?_, Cache.explanations_cache _ _⟩
  unfold step
  dsimp only
  rw [answer, fetched]

/-- A step keeps what was kept, or else what its answer has got. -/
theorem step_kept [Wording] (m : Moment) (s : Step) :
    (m.step s).2.cache.dataset? = m.cache.dataset?.or (m.step s).1.1.dataset? := by
  cases s with
  | put path bytes => exact (Option.or_none ..).symm
  | fail path status => exact (Option.or_none ..).symm
  | remove path => exact (Option.or_none ..).symm
  | cached => exact (Option.or_none ..).symm
  | explanations =>
      obtain ⟨answer, same⟩ := step_explanations m
      rw [same, answer]
      exact (Option.or_none ..).symm
  | load =>
      cases kept : m.cache.dataset? with
      | some d => rw [(step_load_some kept).2, Option.some_or]
      | none =>
          obtain ⟨answer, next⟩ := step_load_none kept
          rw [next, answer, Option.none_or]
          cases m.store.dataset m.cache.dataPath <;> rfl

/-! ## Runs -/

theorem after_store [Wording] (steps : List Step) : ∀ m : Moment,
    (m.after steps).store = m.store.after steps := by
  induction steps with
  | nil => exact fun _ => rfl
  | cons s r ih =>
      intro m
      change ((m.step s).2.after r).store = (s.change m.store).after r
      rw [ih, step_store]

theorem after_paths [Wording] (steps : List Step) : ∀ m : Moment,
    (m.after steps).cache.dataPath = m.cache.dataPath ∧
      (m.after steps).cache.explanationsPath = m.cache.explanationsPath := by
  induction steps with
  | nil => exact fun _ => ⟨rfl, rfl⟩
  | cons s r ih =>
      intro m
      obtain ⟨data, explanations⟩ := m.step_paths s
      obtain ⟨data', explanations'⟩ := ih (m.step s).2
      exact ⟨data'.trans data, explanations'.trans explanations⟩

/-- A run keeps what was kept, or else the first dataset among its answers. -/
theorem after_kept [Wording] (steps : List Step) : ∀ m : Moment,
    (m.after steps).cache.dataset? = m.cache.dataset?.or (firstLoaded? (m.run steps)) := by
  induction steps with
  | nil => exact fun _ => (Option.or_none ..).symm
  | cons s r ih =>
      intro m
      change ((m.step s).2.after r).cache.dataset? = _
      rw [ih, step_kept, Option.or_assoc]
      congr 1
      unfold firstLoaded?
      rw [run, List.findSome?_cons]
      cases (m.step s).1.1.dataset? <;> rfl

theorem run_take [Wording] (steps : List Step) : ∀ (m : Moment) (i : Nat),
    (m.run steps).take i = m.run (steps.take i) := by
  induction steps with
  | nil => exact fun _ _ => by simp [run]
  | cons s r ih =>
      intro m i
      cases i with
      | zero => rfl
      | succ i => rw [run, List.take_succ_cons, List.take_succ_cons, run, ih]

theorem after_take_succ [Wording] {steps : List Step} {i : Nat} {s : Step}
    (place : steps[i]? = some s) (m : Moment) :
    m.after (steps.take (i + 1)) = ((m.after (steps.take i)).step s).2 := by
  unfold after
  rw [List.take_add_one, place, Option.toList_some, List.foldl_append]
  rfl

/-- The answer at a place is that of the step there, at the moment after the steps before it. -/
theorem getElem?_run [Wording] {steps : List Step} : ∀ {m : Moment} {i : Nat} {s : Step},
    steps[i]? = some s → (m.run steps)[i]? = some ((m.after (steps.take i)).step s).1 := by
  induction steps with
  | nil => exact fun h => by cases h
  | cons s r ih =>
      intro m i t place
      cases i with
      | zero =>
          obtain rfl := Option.some.inj place
          rfl
      | succ i => exact ih place

/-! ## The first dataset -/

section Places

variable (start : Moment) (steps : List Step) (i : Nat)

/-- The site at a place of a history. -/
def siteAt : Store := start.store.after (steps.take i)

/-- What the page keeps at a place of its history. -/
def keptAt [Wording] : Option Dataset := (start.after (steps.take i)).cache.dataset?

/-- The dataset of the first load that succeeded before a place. -/
def gotBefore [Wording] : Option Dataset := firstLoaded? ((start.run steps).take i)

/-- What a page does at a place of its history. -/
structure KeepsAt [Wording] : Prop where
  /-- It keeps the dataset of the first load that succeeded, and nothing before there is one. -/
  kept : start.keptAt steps i = start.gotBefore steps i
  /-- Until a load has succeeded, a load fetches the feed once and answers with what the site serves
  now, be it a dataset or an error; only a dataset is kept. -/
  load : start.gotBefore steps i = none → steps[i]? = some .load →
    (start.run steps)[i]? =
        some (.loaded ((start.siteAt steps i).dataset start.cache.dataPath),
          [start.cache.dataPath]) ∧
      start.keptAt steps (i + 1) =
        ((start.siteAt steps i).dataset start.cache.dataPath).toOption
  /-- From then on a load answers with that dataset and fetches nothing. -/
  loadAgain : ∀ d, start.gotBefore steps i = some d → steps[i]? = some .load →
    (start.run steps)[i]? = some (.loaded (.ok d), []) ∧ start.keptAt steps (i + 1) = some d
  cached : steps[i]? = some .cached →
    (start.run steps)[i]? = some (.cached (start.gotBefore steps i), [])
  /-- Explanations are fetched once each time, are none where that fails, and leave the cache as it
  is. -/
  explanations : steps[i]? = some .explanations →
    (start.run steps)[i]? =
        some (.explained ((start.siteAt steps i).explanations start.cache.explanationsPath),
          [start.cache.explanationsPath]) ∧
      start.keptAt steps (i + 1) = start.keptAt steps i

end Places

/-- **A page keeps the first dataset that it gets**, whatever becomes of the site. -/
theorem run_keepsAt [Wording] (store : Store) (dataPath explanationsPath : String)
    (steps : List Step) (i : Nat) : (opened store dataPath explanationsPath).KeepsAt steps i := by
  generalize fresh : opened store dataPath explanationsPath = start
  have empty : start.cache.dataset? = none := by rw [← fresh]; rfl
  have site : (start.after (steps.take i)).store = start.siteAt steps i := after_store _ start
  obtain ⟨data, explanations⟩ := after_paths (steps.take i) start
  have kept : start.keptAt steps i = start.gotBefore steps i := by
    unfold keptAt gotBefore
    rw [after_kept, empty, Option.none_or, run_take]
  have next {s : Step} (place : steps[i]? = some s) : start.keptAt steps (i + 1) =
      ((start.after (steps.take i)).step s).2.cache.dataset? :=
    congrArg (·.cache.dataset?) (after_take_succ place start)
  constructor
  case kept => exact kept
  case load =>
    intro noneYet place
    obtain ⟨answer, keeps⟩ := step_load_none (kept.trans noneYet)
    rw [getElem?_run place, next place, answer, keeps, site, data]
    exact ⟨rfl, rfl⟩
  case loadAgain =>
    intro d got place
    obtain ⟨answer, keeps⟩ := step_load_some (kept.trans got)
    rw [getElem?_run place, next place, answer, keeps]
    exact ⟨rfl, rfl⟩
  case cached =>
    intro place
    rw [getElem?_run place, ← kept]
    rfl
  case explanations =>
    intro place
    obtain ⟨answer, same⟩ := step_explanations (start.after (steps.take i))
    rw [getElem?_run place, next place, answer, same, site, explanations]
    exact ⟨rfl, rfl⟩

/-- An outage, a file that is no feed, the feed, and then nothing more to fetch. -/
example :
    ((opened ⟨[]⟩ "feed" "notes").run [.load, .put "feed" [0x5B], .load, .put "feed" [0x7B, 0x7D],
      .load, .fail "feed" 503, .load, .cached, .explanations]).map (·.2) =
      [["feed"], [], ["feed"], [], ["feed"], [], [], [], ["notes"]] := by
  decide +kernel

end Moment

end Leaderboard.Site
