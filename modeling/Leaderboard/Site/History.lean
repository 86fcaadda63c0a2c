/-
# Leaderboard.Site.History — a page and a site that changes

A store holds, under each path, the bytes or the status that a fetch of it gives; a path that it
does not hold gives the status of a missing page. `Moment.run` lets changes of the store and
requests of the page follow each other.
-/
import Leaderboard.Site.Cache

set_option autoImplicit false

namespace Leaderboard.Site

open Leaderboard.Feed (Dataset Explanations)

/-! ## The store -/

/-- The last entry of a path comes first. -/
structure Store where
  entries : List (String × Option (Except Nat (List UInt8)))

namespace Store

/-- The status of a path that is not there. -/
def missing : Nat := 404

def get? (s : Store) (path : String) : Option (Except Nat (List UInt8)) :=
  (s.entries.lookup path).join

def put (s : Store) (path : String) (bytes : List UInt8) : Store :=
  ⟨(path, some (.ok bytes)) :: s.entries⟩

def fail (s : Store) (path : String) (status : Nat) : Store :=
  ⟨(path, some (.error status)) :: s.entries⟩

def remove (s : Store) (path : String) : Store := ⟨(path, none) :: s.entries⟩

/-- Fetches from the store. -/
def carrier (s : Store) : Carrier where
  fetch path :=
    match s.get? path with
    | some (.ok bytes) => .ok bytes
    | some (.error status) => .error (.status status)
    | none => .error (.status missing)

end Store

/-! ## Histories -/

inductive Step where
  | put (path : String) (bytes : List UInt8)
  | fail (path : String) (status : Nat)
  | remove (path : String)
  | load
  | cached
  | explanations

inductive Answer where
  | done
  | loaded (outcome : Except LoadError Dataset)
  | cached (dataset? : Option Dataset)
  | explained (explanations : Explanations)

/-- The store and the page at some time. -/
structure Moment where
  store : Store
  cache : Cache

namespace Moment

def withStore (m : Moment) (store : Store) : Moment := { m with store }

/-- The answer of a step, the paths fetched for it and the moment after it. -/
def step [Wording] (m : Moment) : Step → (Answer × List String) × Moment
  | .put path bytes => ((.done, []), m.withStore (m.store.put path bytes))
  | .fail path status => ((.done, []), m.withStore (m.store.fail path status))
  | .remove path => ((.done, []), m.withStore (m.store.remove path))
  | .load =>
    let reply := m.cache.load m.store.carrier
    ((.loaded reply.answer, reply.fetched), { m with cache := reply.cache })
  | .cached => ((.cached m.cache.dataset?, []), m)
  | .explanations =>
    let reply := m.cache.explanations m.store.carrier
    ((.explained reply.answer, reply.fetched), { m with cache := reply.cache })

/-- The moment after steps. -/
def after [Wording] (m : Moment) (steps : List Step) : Moment :=
  steps.foldl (fun m s => (m.step s).2) m

/-- The answers of steps. -/
def run [Wording] (m : Moment) : List Step → List (Answer × List String)
  | [] => []
  | s :: r => (m.step s).1 :: (m.step s).2.run r

end Moment

end Leaderboard.Site
