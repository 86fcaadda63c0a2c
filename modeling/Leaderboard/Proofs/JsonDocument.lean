/-
# Leaderboard.Proofs.JsonDocument — the reader reads documents, and nothing else

`Writes n v ts` is the grammar of documents: the tokens `ts` write the value `v` with at most `n`
containers inside each other. An object is written by a list of members in which a key may come
more than once; its value has each key once, in the place of the first and with the value of the
last (`keys_ofWrites`, `get?_ofWrites`).

The reader keeps a stack of open containers, so neither direction is an induction on its tokens
alone. What it reads is written: `Opened` and `Reached` say which text brings the reader to a stack
and to a state, each token keeps that (`step_reached`), and the state at the end is a whole
document. What is written is read: on any stack with room for it, a written value is delivered to
the frame on top (`Writes.isRead`), by induction on the grammar.

* `read?_eq_ok_iff`: bytes are read as a value exactly when their tokens write it.
* `readObject?_eq_ok_iff`: the same for objects.
* `Writes.distinct`: no object in what is read has a key twice.
-/
import Leaderboard.Json.Reader
import Mathlib.Data.List.Induction

set_option autoImplicit false

namespace Leaderboard.Json

/-! ## Members written one after the other -/

section Writes

variable {α : Type}

theorem ofWrites_concat (writes : List (String × α)) (w : String × α) :
    ofWrites (writes ++ [w]) = put (ofWrites writes) w.1 w.2 := by
  unfold ofWrites
  rw [List.foldl_append]
  rfl

/-- Each key stays where it came first. -/
theorem keys_ofWrites (writes : List (String × α)) :
    (ofWrites writes).map (·.1) = (writes.map (·.1)).eraseDups := by
  induction writes using List.reverseRecOn with
  | nil => rfl
  | append_singleton writes w ih =>
      rw [ofWrites_concat, keys_put, ih, List.map_append, List.eraseDups_append]
      by_cases seen : w.1 ∈ writes.map (·.1)
      · have old : ([w.1].removeAll (writes.map (·.1))) = [] := by simpa [List.removeAll] using seen
        rw [if_pos (List.mem_eraseDups.mpr seen), List.map_singleton, old]
        exact (List.append_nil _).symm
      · have new : ([w.1].removeAll (writes.map (·.1))) = [w.1] := by
          simpa [List.removeAll] using seen
        rw [if_neg (fun h => seen (List.mem_eraseDups.mp h)), List.map_singleton, new]
        rfl

theorem nodup_keys_put {members : List (String × α)} (distinct : (members.map (·.1)).Nodup)
    (key : String) (v : α) : ((put members key v).map (·.1)).Nodup := by
  rw [keys_put]
  split
  · exact distinct
  · rename_i fresh
    exact List.nodup_append.mpr ⟨distinct, List.pairwise_singleton _ key, by
      intro k hk k' hk' e
      rw [List.mem_singleton.mp hk'] at e
      exact fresh (e ▸ hk)⟩

theorem nodup_keys_ofWrites (writes : List (String × α)) :
    ((ofWrites writes).map (·.1)).Nodup := by
  induction writes using List.reverseRecOn with
  | nil => exact List.nodup_nil
  | append_singleton writes w ih =>
      rw [ofWrites_concat]
      exact nodup_keys_put ih w.1 w.2

/-- The last value written under a key counts. -/
theorem get?_ofWrites (writes : List (String × α)) (key : String) :
    get? (ofWrites writes) key = writes.reverse.lookup key := by
  induction writes using List.reverseRecOn with
  | nil => rfl
  | append_singleton writes w ih =>
      rw [ofWrites_concat, get?_put, ih, List.reverse_concat, List.lookup_cons]
      by_cases same : key = w.1
      · rw [if_pos same, beq_iff_eq.mpr same]
      · rw [if_neg same, beq_eq_false_iff_ne.mpr same]

theorem mem_of_mem_put {members : List (String × α)} {key : String} {v : α} {m : String × α}
    (h : m ∈ put members key v) : m = (key, v) ∨ m ∈ members := by
  induction members with
  | nil => exact .inl (List.mem_singleton.mp h)
  | cons first r ih =>
      unfold put at h
      split at h
      · rcases List.mem_cons.mp h with new | old
        · exact .inl new
        · exact .inr (List.mem_cons_of_mem _ old)
      · rcases List.mem_cons.mp h with here | later
        · exact .inr (here ▸ List.mem_cons_self)
        · exact (ih later).imp_right (List.mem_cons_of_mem _)

theorem mem_of_mem_ofWrites {writes : List (String × α)} {m : String × α}
    (h : m ∈ ofWrites writes) : m ∈ writes := by
  induction writes using List.reverseRecOn with
  | nil => exact h
  | append_singleton writes w ih =>
      rw [ofWrites_concat] at h
      rcases mem_of_mem_put h with rfl | earlier
      · exact List.mem_append_right _ List.mem_cons_self
      · exact List.mem_append_left _ (ih earlier)

end Writes

/-! ## The grammar of documents -/

/-- The values that one token writes, texts apart. -/
def IsScalar : Json → Prop
  | .null | .bool _ | .number _ => True
  | _ => False

/-- An item of an array as it is written. -/
structure Item where
  value : Json
  tokens : List Token

/-- A member of an object as it is written. -/
structure Member where
  key : String
  value : Json
  /-- The tokens of the value. -/
  tokens : List Token

namespace Member

def entry (m : Member) : String × Json := (m.key, m.value)

def text (m : Member) : List Token := .text m.key :: .colon :: m.tokens

theorem text_append (m : Member) (rest : List Token) :
    m.text ++ rest = .text m.key :: .colon :: (m.tokens ++ rest) := rfl

end Member

/-- Parts with commas between them. -/
def separated : List (List Token) → List Token
  | [] => []
  | t :: r => t ++ r.flatMap (.comma :: ·)

/-- Parts with a comma after each. -/
def terminated (parts : List (List Token)) : List Token := parts.flatMap (· ++ [.comma])

def arrayTokens (items : List Item) : List Token :=
  .openArray :: (separated (items.map (·.tokens)) ++ [.closeArray])

def objectTokens (members : List Member) : List Token :=
  .openObject :: (separated (members.map (·.text)) ++ [.closeObject])

/-- The tokens that write a value with at most so many containers inside each other. -/
inductive Writes : Nat → Json → List Token → Prop
  | text (n : Nat) (s : String) : Writes n (.text s) [.text s]
  | scalar (n : Nat) {v : Json} (scalar : v.IsScalar) : Writes n v [.scalar v]
  | array {n : Nat} (items : List Item) (each : ∀ i ∈ items, Writes n i.value i.tokens) :
      Writes (n + 1) (.array (items.map (·.value))) (arrayTokens items)
  | object {n : Nat} (members : List Member) (each : ∀ m ∈ members, Writes n m.value m.tokens) :
      Writes (n + 1) (.object (ofWrites (members.map (·.entry)))) (objectTokens members)

/-- The tokens that write an object by these entries, repeated keys included. -/
def WritesObject (entries : List (String × Json)) (ts : List Token) : Prop :=
  ∃ members : List Member, (∀ m ∈ members, Writes (depthLimit - 1) m.value m.tokens) ∧
    members.map (·.entry) = entries ∧ objectTokens members = ts

theorem separated_concat (parts : List (List Token)) (last : List Token) :
    separated (parts ++ [last]) = terminated parts ++ last := by
  cases parts with
  | nil => simp [separated, terminated]
  | cons first r =>
      change first ++ (r ++ [last]).flatMap (.comma :: ·) = terminated (first :: r) ++ last
      induction r generalizing first with
      | nil => simp [terminated]
      | cons second r ih =>
          have later := ih second
          simp only [terminated, List.cons_append, List.flatMap_cons, List.append_assoc,
            List.nil_append] at later ⊢
          rw [later]

/-- A comma after the last part. -/
theorem separated_comma {parts : List (List Token)} (some : parts ≠ []) :
    separated parts ++ [.comma] = terminated parts := by
  obtain ⟨init, last, rfl⟩ := (List.eq_nil_or_concat parts).resolve_left some
  rw [List.concat_eq_append, separated_concat]
  simp [terminated]

/-! ## What is read is written -/

/-- The text after which the reader waits for a value inside these open containers. -/
inductive Opened : List Frame → List Token → Prop
  | top : Opened [] []
  | array {stack : List Frame} {before : List Token} {n : Nat} (outer : Opened stack before)
      (room : stack.length + (n + 1) = depthLimit) (items : List Item)
      (each : ∀ i ∈ items, Writes n i.value i.tokens) :
      Opened (.array (items.map (·.value)).reverse :: stack)
        (before ++ .openArray :: terminated (items.map (·.tokens)))
  | object {stack : List Frame} {before : List Token} {n : Nat} (outer : Opened stack before)
      (room : stack.length + (n + 1) = depthLimit) (members : List Member)
      (each : ∀ m ∈ members, Writes n m.value m.tokens) (key : String) :
      Opened (.object (ofWrites (members.map (·.entry))) key :: stack)
        (before ++ .openObject :: (terminated (members.map (·.text)) ++ [.text key, .colon]))

/-- The text that brings the reader to a state. -/
inductive Reached : Progress → List Token → Prop
  | value {stack : List Frame} {ts : List Token} (opened : Opened stack ts) :
      Reached (.reading .value stack) ts
  | firstItem {stack : List Frame} {before : List Token} {n : Nat} (outer : Opened stack before)
      (room : stack.length + (n + 1) = depthLimit) :
      Reached (.reading .firstItem stack) (before ++ [.openArray])
  | afterItem {stack : List Frame} {before : List Token} {n : Nat} (outer : Opened stack before)
      (room : stack.length + (n + 1) = depthLimit) (items : List Item) (some : items ≠ [])
      (each : ∀ i ∈ items, Writes n i.value i.tokens) :
      Reached (.reading (.afterItem (items.map (·.value)).reverse) stack)
        (before ++ .openArray :: separated (items.map (·.tokens)))
  | firstKey {stack : List Frame} {before : List Token} {n : Nat} (outer : Opened stack before)
      (room : stack.length + (n + 1) = depthLimit) :
      Reached (.reading .firstKey stack) (before ++ [.openObject])
  | key {stack : List Frame} {before : List Token} {n : Nat} (outer : Opened stack before)
      (room : stack.length + (n + 1) = depthLimit) (members : List Member)
      (each : ∀ m ∈ members, Writes n m.value m.tokens) :
      Reached (.reading (.key (ofWrites (members.map (·.entry)))) stack)
        (before ++ .openObject :: terminated (members.map (·.text)))
  | colon {stack : List Frame} {before : List Token} {n : Nat} (outer : Opened stack before)
      (room : stack.length + (n + 1) = depthLimit) (members : List Member)
      (each : ∀ m ∈ members, Writes n m.value m.tokens) (key : String) :
      Reached (.reading (.colon (ofWrites (members.map (·.entry))) key) stack)
        (before ++ .openObject :: (terminated (members.map (·.text)) ++ [.text key]))
  | afterMember {stack : List Frame} {before : List Token} {n : Nat} (outer : Opened stack before)
      (room : stack.length + (n + 1) = depthLimit) (members : List Member) (some : members ≠ [])
      (each : ∀ m ∈ members, Writes n m.value m.tokens) :
      Reached (.reading (.afterMember (ofWrites (members.map (·.entry)))) stack)
        (before ++ .openObject :: separated (members.map (·.text)))
  | finished {v : Json} {ts : List Token} (written : Writes depthLimit v ts) :
      Reached (.finished v) ts

/-- Inside open containers there is room for so many more. -/
theorem Opened.room {stack : List Frame} {before : List Token} (opened : Opened stack before) :
    ∃ n, stack.length + n = depthLimit := by
  cases opened with
  | top => exact ⟨depthLimit, Nat.zero_add _⟩
  | @array _ _ n _ room => exact ⟨n, by rw [List.length_cons, ← room]; omega⟩
  | @object _ _ n _ room => exact ⟨n, by rw [List.length_cons, ← room]; omega⟩

theorem forall_mem_concat {α : Type} {p : α → Prop} {init : List α} {last : α}
    (each : ∀ a ∈ init, p a) (final : p last) : ∀ a ∈ init ++ [last], p a := by
  intro a ha
  rcases List.mem_append.mp ha with early | late
  · exact each a early
  · exact List.mem_singleton.mp late ▸ final

theorem deliver_reached {stack : List Frame} {before ts : List Token} {n : Nat} {v : Json}
    (opened : Opened stack before) (room : stack.length + n = depthLimit)
    (written : Writes n v ts) : Reached (deliver v stack) (before ++ ts) := by
  cases opened with
  | top =>
      rw [List.length_nil, Nat.zero_add] at room
      exact .finished (room ▸ written)
  | @array stack before k outer room' items each =>
      obtain rfl : k = n := by
        rw [List.length_cons] at room
        omega
      have reached := Reached.afterItem outer room' (items ++ [⟨v, ts⟩]) (by simp)
        (forall_mem_concat each written)
      simpa [deliver, separated_concat] using reached
  | @object stack before k outer room' members each key =>
      obtain rfl : k = n := by
        rw [List.length_cons] at room
        omega
      have reached := Reached.afterMember outer room' (members ++ [⟨key, v, ts⟩]) (by simp)
        (forall_mem_concat each written)
      simpa [deliver, separated_concat, ofWrites_concat, Member.entry, Member.text] using reached

theorem enter_eq_ok {place : Place} {stack : List Frame} {p : Progress}
    (ok : enter place stack = .ok p) : stack.length < depthLimit ∧ p = .reading place stack := by
  unfold enter at ok
  split at ok
  · cases ok
    exact ⟨‹_›, rfl⟩
  · cases ok

theorem startValue_reached {stack : List Frame} {before : List Token} {t : Token} {p : Progress}
    (opened : Opened stack before) (plain : ∀ v, t = .scalar v → v.IsScalar)
    (ok : startValue stack t = .ok p) : Reached p (before ++ [t]) := by
  obtain ⟨n, room⟩ := opened.room
  cases t with
  | openArray =>
      obtain ⟨deeper, rfl⟩ := enter_eq_ok ok
      exact .firstItem (n := n - 1) opened (by omega)
  | openObject =>
      obtain ⟨deeper, rfl⟩ := enter_eq_ok ok
      exact .firstKey (n := n - 1) opened (by omega)
  | text s =>
      cases ok
      exact deliver_reached opened room (.text n s)
  | scalar v =>
      cases ok
      exact deliver_reached opened room (.scalar n (plain v rfl))
  | _ => cases ok

theorem startKey_reached {stack : List Frame} {before : List Token} {n : Nat} {t : Token}
    {p : Progress} (outer : Opened stack before) (room : stack.length + (n + 1) = depthLimit)
    (members : List Member) (each : ∀ m ∈ members, Writes n m.value m.tokens)
    (ok : startKey (ofWrites (members.map (·.entry))) stack t = .ok p) :
    Reached p (before ++ .openObject :: (terminated (members.map (·.text)) ++ [t])) := by
  unfold startKey at ok
  split at ok
  · cases ok
    exact .colon outer room members each _
  · cases ok
  · cases ok

theorem step_firstKey {stack : List Frame} {t : Token} (other : t ≠ .closeObject) :
    step .firstKey stack t = startKey [] stack t := by
  cases t with
  | closeObject => exact absurd rfl other
  | _ => rfl

/-- **One token.** -/
theorem step_reached {place : Place} {stack : List Frame} {before : List Token} {t : Token}
    {p : Progress} (reached : Reached (.reading place stack) before)
    (plain : ∀ v, t = .scalar v → v.IsScalar) (ok : step place stack t = .ok p) :
    Reached p (before ++ [t]) := by
  cases reached with
  | value opened => exact startValue_reached opened plain ok
  | @firstItem _ before n outer room =>
      have opened := Opened.array outer room [] (by simp)
      cases t with
      | closeArray =>
          cases ok
          have empty := deliver_reached outer room (.array (n := n) [] (by simp))
          simpa [arrayTokens, separated] using empty
      | _ => exact startValue_reached opened plain ok
  | @afterItem _ before n outer room items some each =>
      cases t with
      | closeArray =>
          cases ok
          have whole := deliver_reached outer room (.array items each)
          simpa [arrayTokens] using whole
      | comma =>
          cases ok
          have more := Reached.value (Opened.array outer room items each)
          rw [← separated_comma (by simpa using some)] at more
          simpa using more
      | _ => cases ok
  | @firstKey _ before n outer room =>
      by_cases close : t = .closeObject
      · subst close
        cases ok
        have empty := deliver_reached outer room (.object (n := n) [] (by simp))
        simpa [objectTokens, separated, ofWrites] using empty
      · rw [step_firstKey close] at ok
        simpa [terminated] using startKey_reached outer room [] (by simp) ok
  | @key _ before n outer room members each =>
      have next : startKey (ofWrites (members.map (·.entry))) stack t = .ok p := ok
      simpa using startKey_reached outer room members each next
  | @colon _ before n outer room members each key =>
      cases t with
      | colon =>
          cases ok
          simpa using Reached.value (Opened.object outer room members each key)
      | _ => cases ok
  | @afterMember _ before n outer room members some each =>
      cases t with
      | closeObject =>
          cases ok
          have whole := deliver_reached outer room (.object members each)
          simpa [objectTokens] using whole
      | comma =>
          cases ok
          have more := Reached.key outer room members each
          rw [← separated_comma (by simpa using some)] at more
          simpa using more
      | _ => cases ok

/-- **A whole run.** -/
theorem run_reached {ts : List Token} : ∀ {p : Progress} {before : List Token} {v : Json},
    Reached p before → (∀ v, .scalar v ∈ ts → v.IsScalar) → run p ts = .ok v →
      Writes depthLimit v (before ++ ts) := by
  induction ts with
  | nil =>
      intro p before v reached _ ok
      cases reached with
      | finished written =>
          cases ok
          rwa [List.append_nil]
      | _ => cases ok
  | cons t r ih =>
      intro p before v reached plain ok
      cases p with
      | finished => cases ok
      | reading place stack =>
          unfold run at ok
          split at ok
          · cases ok
          · rename_i next stepped
            have further := step_reached reached
              (fun v e => plain v (e ▸ List.mem_cons_self)) stepped
            have whole := ih further (fun v h => plain v (List.mem_cons_of_mem _ h)) ok
            rwa [List.append_assoc] at whole

/-! ## What is written is read -/

/-- A written value begins with a token that closes nothing. -/
theorem Writes.begins {n : Nat} {v : Json} {ts : List Token} (written : Writes n v ts) :
    ∃ t r, ts = t :: r ∧ t ≠ .closeArray := by
  cases written with
  | text n s => exact ⟨.text s, [], rfl, by simp⟩
  | scalar n h => exact ⟨.scalar v, [], rfl, by simp⟩
  | array items each => exact ⟨.openArray, _, rfl, by simp⟩
  | object members each => exact ⟨.openObject, _, rfl, by simp⟩

/-- Where the end of an array may come, a value is read as it is inside the array. -/
theorem run_firstItem {stack : List Frame} {n : Nat} {v : Json} {ts : List Token}
    (written : Writes n v ts) (rest : List Token) :
    run (.reading .firstItem stack) (ts ++ rest) =
      run (.reading .value (.array [] :: stack)) (ts ++ rest) := by
  obtain ⟨t, r, rfl, opens⟩ := written.begins
  cases t with
  | closeArray => exact absurd rfl opens
  | _ => rfl

/-- A value that is delivered wherever it is written. -/
def IsRead (n : Nat) (v : Json) (ts : List Token) : Prop :=
  ∀ (stack : List Frame) (rest : List Token), stack.length + n ≤ depthLimit →
    run (.reading .value stack) (ts ++ rest) = run (deliver v stack) rest

theorem run_afterItem {n : Nat} {stack : List Frame} (room : stack.length + (n + 1) ≤ depthLimit)
    (rest : List Token) {items : List Item} (each : ∀ i ∈ items, IsRead n i.value i.tokens) :
    ∀ done : List Json,
      run (.reading (.afterItem done) stack)
          ((items.map (·.tokens)).flatMap (.comma :: ·) ++ .closeArray :: rest) =
        run (deliver (.array (done.reverse ++ items.map (·.value))) stack) rest := by
  induction items with
  | nil =>
      intro done
      simp [run, step]
  | cons i r ih =>
      intro done
      have first := each i List.mem_cons_self (.array done :: stack)
        ((r.map (·.tokens)).flatMap (.comma :: ·) ++ .closeArray :: rest)
        (by rw [List.length_cons]; omega)
      have later := ih (fun j hj => each j (List.mem_cons_of_mem i hj)) (i.value :: done)
      simp only [List.map_cons, List.flatMap_cons, List.cons_append, List.append_assoc]
      change run (.reading .value (.array done :: stack)) _ = _
      rw [first]
      change run (.reading (.afterItem (i.value :: done)) stack) _ = _
      rw [later, List.reverse_cons, List.append_assoc]
      rfl

theorem run_afterMember {n : Nat} {stack : List Frame}
    (room : stack.length + (n + 1) ≤ depthLimit) (rest : List Token) {members : List Member}
    (each : ∀ m ∈ members, IsRead n m.value m.tokens) :
    ∀ done : List (String × Json),
      run (.reading (.afterMember done) stack)
          ((members.map (·.text)).flatMap (.comma :: ·) ++ .closeObject :: rest) =
        run (deliver (.object ((members.map (·.entry)).foldl (fun ms w => put ms w.1 w.2) done))
          stack) rest := by
  induction members with
  | nil =>
      intro done
      simp [run, step]
  | cons m r ih =>
      intro done
      have first := each m List.mem_cons_self (.object done m.key :: stack)
        ((r.map (·.text)).flatMap (.comma :: ·) ++ .closeObject :: rest)
        (by rw [List.length_cons]; omega)
      have later := ih (fun j hj => each j (List.mem_cons_of_mem m hj)) (put done m.key m.value)
      simp only [List.map_cons, List.flatMap_cons, List.cons_append, List.append_assoc]
      rw [m.text_append]
      change run (.reading .value (.object done m.key :: stack)) _ = _
      rw [first]
      exact later

/-- **A written value is delivered** to the innermost of the open containers. -/
theorem Writes.isRead {n : Nat} {v : Json} {ts : List Token} (written : Writes n v ts) :
    IsRead n v ts := by
  induction written with
  | text n s =>
      intro stack rest _
      rfl
  | @scalar n v scalar =>
      intro stack rest _
      rfl
  | @array n items each ih =>
      intro stack rest room
      have deeper : stack.length < depthLimit := by omega
      have entered : run (.reading .value stack) (arrayTokens items ++ rest) =
          run (.reading .firstItem stack)
            (separated (items.map (·.tokens)) ++ .closeArray :: rest) := by
        simp [arrayTokens, run, step, startValue, enter, deeper]
      rw [entered]
      cases items with
      | nil => simp [separated, run, step]
      | cons i r =>
          have first := ih i List.mem_cons_self (.array [] :: stack)
            ((r.map (·.tokens)).flatMap (.comma :: ·) ++ .closeArray :: rest)
            (by rw [List.length_cons]; omega)
          simp only [List.map_cons, separated, List.append_assoc]
          rw [run_firstItem (each i List.mem_cons_self), first]
          exact run_afterItem room rest (fun j hj => ih j (List.mem_cons_of_mem i hj)) [i.value]
  | @object n members each ih =>
      intro stack rest room
      have deeper : stack.length < depthLimit := by omega
      have entered : run (.reading .value stack) (objectTokens members ++ rest) =
          run (.reading .firstKey stack)
            (separated (members.map (·.text)) ++ .closeObject :: rest) := by
        simp [objectTokens, run, step, startValue, enter, deeper]
      rw [entered]
      cases members with
      | nil => simp [separated, run, step, ofWrites]
      | cons m r =>
          have first := ih m List.mem_cons_self (.object [] m.key :: stack)
            ((r.map (·.text)).flatMap (.comma :: ·) ++ .closeObject :: rest)
            (by rw [List.length_cons]; omega)
          simp only [List.map_cons, separated, List.append_assoc]
          rw [m.text_append]
          change run (.reading .value (.object [] m.key :: stack)) _ = _
          rw [first]
          exact run_afterMember room rest (fun j hj => ih j (List.mem_cons_of_mem m hj)) _

/-! ## Documents -/

theorem readToken_scalar {b : UInt8} {r rest : List UInt8} {v : Json}
    (h : readToken b r = .ok (.scalar v, rest)) : v.IsScalar := by
  have mapped : ∀ {α : Type} {x : Except Fault α} {f : α → Token × List UInt8},
      x.map f = .ok (.scalar v, rest) → ∃ a, f a = (.scalar v, rest) := by
    intro α x f e
    cases x with
    | error => cases e
    | ok a => exact ⟨a, Except.ok.inj e⟩
  unfold readToken at h
  split at h
  · rename_i mark
    cases h
    unfold punctuation? at mark
    split_ifs at mark <;> cases mark
  · rename_i word
    obtain ⟨_, e⟩ := mapped h
    cases e
    unfold word? at word
    split_ifs at word <;> cases word <;> trivial
  split at h
  · obtain ⟨_, e⟩ := mapped h
    cases e
  split at h
  · obtain ⟨_, e⟩ := mapped h
    cases e
    trivial
  split at h
  · obtain ⟨_, e⟩ := mapped h
    cases e
    trivial
  · cases h

theorem scalar_of_mem_sequence {bs : List UInt8} :
    ∀ v, Token.scalar v ∈ Token.sequence bs → v.IsScalar := by
  fun_induction Token.sequence bs with
  | case1 => intro v h; cases h
  | case2 b r space ih => exact ih
  | case3 b r space f bad =>
      intro v h
      cases List.mem_singleton.mp h
  | case4 b r space t rest good ih =>
      intro v h
      rcases List.mem_cons.mp h with rfl | later
      · exact readToken_scalar good
      · exact ih v later

theorem run_eq_ok_iff {ts : List Token} {v : Json} (plain : ∀ v, .scalar v ∈ ts → v.IsScalar) :
    run (.reading .value []) ts = .ok v ↔ Writes depthLimit v ts := by
  constructor
  · exact run_reached (.value .top) plain
  · intro written
    have delivered := written.isRead [] [] (Nat.le_of_eq (Nat.zero_add _))
    rwa [List.append_nil] at delivered

/-- **Bytes are read as a value exactly when their tokens write it.** -/
theorem read?_eq_ok_iff {bs : List UInt8} {v : Json} :
    read? bs = .ok v ↔ Writes depthLimit v (Token.sequence bs) :=
  run_eq_ok_iff scalar_of_mem_sequence

theorem Writes.of_object {n : Nat} {members : List (String × Json)} {ts : List Token}
    (written : Writes n (.object members) ts) :
    ∃ parts : List Member, (∀ m ∈ parts, Writes (n - 1) m.value m.tokens) ∧
      ofWrites (parts.map (·.entry)) = members ∧ objectTokens parts = ts := by
  cases written with
  | scalar n scalar => cases scalar
  | object parts each => exact ⟨parts, each, rfl, rfl⟩

theorem objectOfTokens?_eq_ok_iff {ts : List Token} {members : List (String × Json)}
    (plain : ∀ v, .scalar v ∈ ts → v.IsScalar) :
    objectOfTokens? ts = .ok members ↔ Writes depthLimit (.object members) ts := by
  rw [← run_eq_ok_iff plain]
  constructor
  · intro ok
    unfold objectOfTokens? at ok
    split at ok
    iterate 3 cases ok
    split at ok
    · cases ok
    · cases ok
      assumption
    · cases ok
  · intro ok
    obtain ⟨parts, -, -, rfl⟩ := ((run_eq_ok_iff plain).mp ok).of_object
    unfold objectTokens at ok ⊢
    simp only [objectOfTokens?, ok]

/-- **Bytes are read as an object exactly when their tokens write one.** -/
theorem readObject?_eq_ok_iff {bs : List UInt8} {members : List (String × Json)} :
    readObject? bs = .ok members ↔
      ∃ entries, WritesObject entries (Token.sequence bs) ∧ ofWrites entries = members := by
  rw [show readObject? bs = objectOfTokens? (Token.sequence bs) from rfl,
    objectOfTokens?_eq_ok_iff scalar_of_mem_sequence]
  constructor
  · intro written
    obtain ⟨parts, each, value, tokens⟩ := written.of_object
    exact ⟨_, ⟨parts, each, rfl, tokens⟩, value⟩
  · rintro ⟨_, ⟨parts, each, rfl, tokens⟩, rfl⟩
    rw [← tokens]
    exact .object parts each

/-! ## Distinct keys -/

/-- No object in a value has a key twice. -/
inductive Distinct : Json → Prop
  | text (s : String) : Distinct (.text s)
  | scalar {v : Json} (scalar : v.IsScalar) : Distinct v
  | array {items : List Json} (each : ∀ v ∈ items, Distinct v) : Distinct (.array items)
  | object {members : List (String × Json)} (keys : (members.map (·.1)).Nodup)
      (each : ∀ m ∈ members, Distinct m.2) : Distinct (.object members)

theorem distinct_ofWrites {writes : List (String × Json)} (each : ∀ w ∈ writes, Distinct w.2) :
    Distinct (.object (ofWrites writes)) :=
  .object (nodup_keys_ofWrites writes) fun m hm => each m (mem_of_mem_ofWrites hm)

theorem Writes.distinct {n : Nat} {v : Json} {ts : List Token} (written : Writes n v ts) :
    Distinct v := by
  induction written with
  | text n s => exact .text s
  | scalar n scalar => exact .scalar scalar
  | array items each ih =>
      refine .array fun v hv => ?_
      obtain ⟨i, hi, rfl⟩ := List.mem_map.mp hv
      exact ih i hi
  | object members each ih =>
      refine distinct_ofWrites fun w hw => ?_
      obtain ⟨m, hm, rfl⟩ := List.mem_map.mp hw
      exact ih m hm

theorem Distinct.of_array {items : List Json} (h : Distinct (.array items)) :
    ∀ v ∈ items, Distinct v := by
  cases h with
  | array each => exact each
  | scalar scalar => cases scalar

theorem Distinct.of_object {members : List (String × Json)} (h : Distinct (.object members)) :
    (members.map (·.1)).Nodup ∧ ∀ m ∈ members, Distinct m.2 := by
  cases h with
  | object keys each => exact ⟨keys, each⟩
  | scalar scalar => cases scalar

theorem distinct_of_readObject? {bs : List UInt8} {members : List (String × Json)}
    (read : readObject? bs = .ok members) : Distinct (.object members) :=
  ((objectOfTokens?_eq_ok_iff scalar_of_mem_sequence).mp read).distinct

end Leaderboard.Json
