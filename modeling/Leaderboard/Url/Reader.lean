/-
# Leaderboard.Url.Reader — reading a URL

`resolve` reads a text as a URL, against a base if there is one: a text with a scheme stands on its
own, any other takes from the base what it leaves out.

Main statement: `resolve_fragment` (the fragment of what is read is what follows the first `#`,
escaped).
-/
import Leaderboard.Url.LocalFile

set_option autoImplicit false

namespace Leaderboard.Url

/-! ## The authority -/

/-- A text before its last `@`, if it has one, and the text after it. -/
def cutAtSign (cs : List Char) : Option (List Char) × List Char :=
  match Text.cutAt '@' cs.reverse with
  | (_, none) => (none, cs)
  | (back, some front) => (some front.reverse, back.reverse)

/-- The host, which ends at the first colon outside brackets, and the text from there. -/
def cutHost (inside : Bool) : List Char → List Char × List Char
  | [] => ([], [])
  | c :: r =>
    if c == ':' && !inside then ([], c :: r)
    else
      let next := cutHost (c == '[' || (inside && c != ']')) r
      (c :: next.1, next.2)

/-- The number of the service after the host, less the one that goes without saying, and the text
after it, which begins the path. -/
def serviceNumber? (scheme : List Char) : List Char → Except Fault (Option Nat × List Char)
  | ':' :: r =>
    let digits := r.takeWhile Char.isDigit
    let rest := r.dropWhile Char.isDigit
    match numeral? 10 digits, rest.head? with
    | some n, none | some n, some '\\' =>
      if 65535 < n then .error .invalidNumber
      else if digits.isEmpty || defaultNumber? scheme == some n then .ok (none, rest)
      else .ok (some n, rest)
    | _, _ => .error .invalidNumber
  | rest => .ok (none, rest)

/-- The authority that a text writes, and the rest of it. `ends` tells whether the whole URL ends
with this text. -/
def Authority.ofText? (scheme : List Char) (ends : Bool) (cs : List Char) :
    Except Fault (Authority × List Char) := do
  let (userinfo?, place) := cutAtSign cs
  if userinfo? == some [] && place.isEmpty && !ends then throw .emptyHost
  let user := Text.cutAt ':' (userinfo?.getD [])
  let (name, after) := cutHost false place
  if name.isEmpty && isSpecial scheme then throw .emptyHost
  let host ← Host.ofText? (isSpecial scheme) name
  if host = .empty ∧ after ≠ [] then throw .emptyHost
  let (portNumber?, rest) ← serviceNumber? scheme after
  let a : Authority :=
    { username := Text.Percent.encode keptInUserinfo user.1
      password := Text.Percent.encode keptInUserinfo (user.2.getD [])
      host, portNumber? }
  if host = .empty ∧ a.credentials ≠ [] then throw .emptyHost
  return (a, rest)

/-! ## URLs on their own -/

/-- A URL with an authority, after its two slashes. -/
def hierarchical (scheme : List Char) (p : Parts) (cs : List Char) : Except Fault Url :=
  let path := cs.dropWhile fun c => !isSlash scheme c
  let ends := path.isEmpty && p.isBare
  match Authority.ofText? scheme ends (cs.takeWhile fun c => !isSlash scheme c) with
  | .error fault => .error fault
  | .ok (a, rest) =>
    .ok { scheme, authority? := some a, path := .segments (segmentsOf scheme (rest ++ path))
          query? := p.query scheme, fragment? := p.fragment }

/-- A URL of a scheme that is not special, after the scheme. -/
def general (scheme : List Char) (p : Parts) : List Char → Except Fault Url
  | '/' :: '/' :: r => hierarchical scheme p r
  | '/' :: r =>
    .ok { scheme, authority? := none, path := .segments (segmentsFrom scheme [] r)
          query? := p.query scheme, fragment? := p.fragment }
  | cs =>
    .ok { scheme, authority? := none, path := .plain (Text.Percent.encode Host.keptAsWritten cs)
          query? := p.query scheme, fragment? := p.fragment }

/-! ## URLs against a base -/

/-- A text without a scheme against a base whose path is not plain. -/
def relative (base : Url) (p : Parts) (cs : List Char) : Except Fault Url :=
  let slashes := cs.takeWhile (isSlash base.scheme)
  match cs, slashes with
  | [], _ =>
    .ok { base with
          query? := if p.query?.isSome then p.query base.scheme else base.query?
          fragment? := p.fragment }
  | c :: r, [] =>
    .ok { base with
          path := .segments (segmentsFrom base.scheme base.path.list.dropLast (c :: r))
          query? := p.query base.scheme
          fragment? := p.fragment }
  | _ :: r, [_] =>
    .ok { base with
          path := .segments (segmentsFrom base.scheme [] r)
          query? := p.query base.scheme
          fragment? := p.fragment }
  | cs, slashes =>
    let written := ['/', '/'].isPrefixOf cs
    hierarchical base.scheme p (cs.drop (if written then 2 else slashes.length))

/-- A text after its scheme. One that repeats the scheme of the base without two slashes is
relative. -/
def absolute (base? : Option Url) (scheme : List Char) (p : Parts) (cs : List Char) :
    Except Fault Url :=
  if isFile scheme then localFile scheme p
  else if isSpecial scheme then
    let slashes := cs.takeWhile (isSlash scheme)
    match base?.filter fun b => b.scheme == scheme && slashes.length < 2 with
    | some base => relative base p cs
    | none => hierarchical scheme p (cs.drop slashes.length)
  else general scheme p cs

/-- Reads a text as a URL, against a base if there is one. -/
def resolve (base? : Option Url) (s : String) : Except Fault Url :=
  let p := Parts.of (trimmed s)
  match scheme? p.main, base? with
  | some (scheme, rest), base? => absolute base? scheme p rest
  | none, none => .error .noBase
  | none, some base =>
    match base.path with
    | .segments _ => relative base p p.main
    | .plain _ =>
      if p.main.isEmpty && p.query?.isNone && p.fragment?.isSome then
        .ok (base.withFragment p.fragment)
      else .error .plainBase

/-- Reads a text as a URL on its own. -/
def ofText? (s : String) : Except Fault Url := resolve none s

/-- Reads a text as a URL against this one. -/
def join (u : Url) (s : String) : Except Fault Url := resolve (some u) s

/-! ## Lemmas -/

theorem hierarchical_fragment {scheme : List Char} {p : Parts} {cs : List Char} {u : Url}
    (h : hierarchical scheme p cs = .ok u) : u.fragment? = p.fragment := by
  unfold hierarchical at h
  dsimp only at h
  split at h
  · cases h
  · rw [← Except.ok.inj h]

theorem relative_fragment {base : Url} {p : Parts} {cs : List Char} {u : Url}
    (h : relative base p cs = .ok u) : u.fragment? = p.fragment := by
  unfold relative at h
  dsimp only at h
  split at h
  · rw [← Except.ok.inj h]
  · rw [← Except.ok.inj h]
  · rw [← Except.ok.inj h]
  · exact hierarchical_fragment h

theorem general_fragment {scheme : List Char} {p : Parts} {cs : List Char} {u : Url}
    (h : general scheme p cs = .ok u) : u.fragment? = p.fragment := by
  unfold general at h
  split at h
  · exact hierarchical_fragment h
  · rw [← Except.ok.inj h]
  · rw [← Except.ok.inj h]

theorem absolute_fragment {base? : Option Url} {scheme : List Char} {p : Parts} {cs : List Char}
    {u : Url} (h : absolute base? scheme p cs = .ok u) : u.fragment? = p.fragment := by
  unfold absolute at h
  dsimp only at h
  split at h
  · exact localFile_fragment h
  · split at h
    · split at h
      · exact relative_fragment h
      · exact hierarchical_fragment h
    · exact general_fragment h

theorem resolve_fragment {base? : Option Url} {s : String} {u : Url}
    (h : resolve base? s = .ok u) : u.fragment? = (Parts.of (trimmed s)).fragment := by
  unfold resolve at h
  dsimp only at h
  split at h
  · exact absolute_fragment h
  · cases h
  · split at h
    · exact relative_fragment h
    · split at h
      · rw [← Except.ok.inj h]
        rfl
      · cases h

end Leaderboard.Url
