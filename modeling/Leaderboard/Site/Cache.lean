/-
# Leaderboard.Site.Cache — loading the feeds of a site

The first load that succeeds keeps its dataset, and every later load answers with it without a
fetch. A load that fails keeps nothing. Explanations are fetched every time and never fail: without
them there are none.

Main statements: `load_cached` (a kept dataset is answered as it is) and `explanations_cache`
(explanations leave the cache alone).
-/
import Leaderboard.Feed.Explanations
import Leaderboard.Log.Record
import Leaderboard.Site.Error

set_option autoImplicit false

namespace Leaderboard.Site

open Leaderboard.Feed (Dataset Explanations)
open Leaderboard.Log (Record)

/-- A way to the files of a site. -/
structure Carrier where
  fetch : String → Except LoadError (List UInt8)
  /-- The full name of a path, for reports. -/
  locate : String → String := id

/-- What a page keeps of its site. -/
structure Cache where
  dataPath : String
  explanationsPath : String
  dataset? : Option Dataset := none

/-- An answer, the cache after it, the paths that were fetched and what is reported. -/
structure Reply (α : Type) where
  answer : α
  cache : Cache
  fetched : List String := []
  records : List Record := []

namespace Cache

/-- The dataset that bytes hold. -/
def decode [Wording] (bytes : List UInt8) : Except LoadError Dataset :=
  (Dataset.ofBytes? bytes).mapError (@LoadError.notJson (Wording.unread bytes))

/-- Fetches the feed and decodes it. -/
def fetchDataset [Wording] (c : Carrier) (path : String) :
    Except LoadError Dataset × List Record :=
  match c.fetch path with
  | .error e => (.error e, [])
  | .ok bytes =>
    (decode bytes,
      .fetched (c.locate path) bytes :: (Dataset.skipsOfBytes bytes).map .skipped)

/-- The dataset of the site. -/
def load [Wording] (c : Carrier) (s : Cache) : Reply (Except LoadError Dataset) :=
  match s.dataset? with
  | some d => { answer := .ok d, cache := s, records := [.cacheHit s.dataPath] }
  | none =>
    let outcome := fetchDataset c s.dataPath
    { answer := outcome.1
      cache := { s with dataset? := outcome.1.toOption }
      fetched := [s.dataPath]
      records := outcome.2 }

/-- The explanations of the site. -/
def explanations (c : Carrier) (s : Cache) : Reply Explanations :=
  match c.fetch s.explanationsPath with
  | .ok bytes =>
    { answer := .ofBytes bytes, cache := s, fetched := [s.explanationsPath]
      records := [.fetched (c.locate s.explanationsPath) bytes] }
  | .error e =>
    { answer := ⟨[]⟩, cache := s, fetched := [s.explanationsPath]
      records := [.explanationsUnavailable s.explanationsPath e.auxiliaryMessage] }

/-! ## Lemmas -/

theorem load_cached [Wording] (c : Carrier) {s : Cache} {d : Dataset} (h : s.dataset? = some d) :
    (s.load c).answer = .ok d ∧ (s.load c).cache = s ∧ (s.load c).fetched = [] := by
  unfold load
  rw [h]
  exact ⟨rfl, rfl, rfl⟩

theorem explanations_cache (c : Carrier) (s : Cache) : (s.explanations c).cache = s := by
  unfold explanations
  split <;> rfl

end Cache

end Leaderboard.Site
