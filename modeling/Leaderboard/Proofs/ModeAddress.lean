/-
# Leaderboard.Proofs.ModeAddress — the address of a mode asks for that mode

The slug stands in the address as a component: letters, digits, nine marks, and escapes for all
else. None of these ends the query, parts two pairs, stands for a space or is dropped where the
address is read (`modeUrl_plain`). So the query that is read is that of the address
(`join_modeUrl`), but for the apostrophe, which a special scheme escapes; escapes are left whole. It
has one pair, the mode with the slug as its value (`pairs_modeQuery`), and a slug that is not empty
is what it asks for.

Of the page that the address is read against only the segments matter. Every page has them whose
scheme is special (`ofText?_segments`), so nothing is refused.

* `modeUrl_opens`: this, with what follows for the links of the navigation.
-/
import Leaderboard.Navigation.Location
import Leaderboard.Navigation.Mode
import Leaderboard.Proofs.EscapedText
import Leaderboard.Proofs.ReachablePage
import Leaderboard.Url.Reader

set_option autoImplicit false

namespace Leaderboard

open Leaderboard.Feed (Dataset Partition)

/-! ## Texts without controls and spaces -/

namespace Url

theorem trimmed_eq_self {s : String} (counts : ∀ c ∈ s.toList, isEdge c = false) :
    trimmed s = s.toList := by
  have whole : ∀ {cs : List Char}, (∀ c ∈ cs, isEdge c = false) → cs.dropWhile isEdge = cs := by
    intro cs counts
    cases cs with
    | nil => rfl
    | cons c r =>
        have first := counts c List.mem_cons_self
        exact List.dropWhile_cons_of_neg (by rw [first]; exact Bool.noConfusion)
  unfold trimmed
  rw [whole counts, whole fun c mem => counts c (List.mem_reverse.mp mem), List.reverse_reverse]

theorem unbroken_eq_self {cs : List Char} (counts : ∀ c ∈ cs, isEdge c = false) :
    unbroken cs = cs := by
  refine List.filter_eq_self.mpr fun c mem => ?_
  have count := counts c mem
  unfold isBreak
  rw [Bool.not_eq_true', Bool.or_eq_false_iff, Bool.or_eq_false_iff, beq_eq_false_iff_ne,
    beq_eq_false_iff_ne, beq_eq_false_iff_ne]
  refine ⟨⟨?_, ?_⟩, ?_⟩ <;>
    · rintro rfl
      cases count

theorem Parts.of_query {front query : List Char} (sign : '#' ∉ front ++ '?' :: query)
    (mark : '?' ∉ front) (counts : ∀ c ∈ query, isEdge c = false) :
    Parts.of (front ++ '?' :: query) = { front, query? := some query, fragment? := none } := by
  unfold Parts.of
  dsimp only
  rw [Text.cutAt_of_not_mem sign, Text.cutAt_append mark, Option.map_some, unbroken_eq_self counts]
  rfl

/-- A relative text that does not begin with a slash replaces the last segment. -/
theorem relative_of_name {base : Url} {c : Char} (name : isSlash base.scheme c = false) (p : Parts)
    (r : List Char) : relative base p (c :: r) = .ok { base with
      path := .segments (segmentsFrom base.scheme base.path.list.dropLast (c :: r))
      query? := p.query base.scheme
      fragment? := p.fragment } := by
  unfold relative
  rw [List.takeWhile_cons_of_neg (by rw [name]; exact Bool.noConfusion)]

/-! ## Addresses of pages -/

theorem hierarchical_eq_ok {scheme : List Char} {p : Parts} {cs : List Char} {u : Url}
    (h : hierarchical scheme p cs = .ok u) :
    u.scheme = scheme ∧ ∃ list, u.path = .segments list := by
  unfold hierarchical at h
  dsimp only at h
  split at h
  · cases h
  · rw [← Except.ok.inj h]
    exact ⟨rfl, _, rfl⟩

theorem general_scheme {scheme : List Char} {p : Parts} {cs : List Char} {u : Url}
    (h : general scheme p cs = .ok u) : u.scheme = scheme := by
  unfold general at h
  split at h
  · exact (hierarchical_eq_ok h).1
  · rw [← Except.ok.inj h]
  · rw [← Except.ok.inj h]

theorem localFile_segments {scheme : List Char} {p : Parts} {u : Url}
    (h : localFile scheme p = .ok u) : ∃ list, u.path = .segments list := by
  unfold localFile at h
  cases cut : cutFile scheme p.afterColon with
  | error fault =>
      rw [cut] at h
      cases h
  | ok file =>
      rw [cut] at h
      rw [← Except.ok.inj h]
      exact ⟨_, rfl⟩

/-- An address that is read on its own has segments if its scheme is special. -/
theorem ofText?_segments {address : String} {page : Url} (read : ofText? address = .ok page)
    (special : isSpecial page.scheme = true) : ∃ list, page.path = .segments list := by
  unfold ofText? resolve at read
  dsimp only at read
  split at read
  · unfold absolute at read
    dsimp only at read
    split at read
    · exact localFile_segments read
    · split at read
      · exact (hierarchical_eq_ok read).2
      · rename_i other
        rw [general_scheme read] at special
        exact absurd special other
  · cases read
  · rename_i base
    cases base

end Url

/-! ## The address of a mode -/

namespace Navigation

open Leaderboard.Text.Percent (encode IsAscii encode_all encode_encode decode_encode)

/-- A character that is not dropped from an address and means itself in the value of a pair. -/
def isPlain (c : Char) : Bool := 0x20 < c.toNat && c != '#' && c != '&' && c != '+'

theorem keptInComponent_plain (b : UInt8) (kept : keptInComponent b = true) :
    b.toNat < 0x80 ∧ isPlain (Char.ofNat b.toNat) = true := by
  have all : ∀ n : Fin 256, keptInComponent (UInt8.ofNat n) = true →
      (UInt8.ofNat n).toNat < 0x80 ∧ isPlain (Char.ofNat (UInt8.ofNat n).toNat) = true := by
    decide +kernel
  have own := all ⟨b.toNat, b.toNat_lt⟩
  rw [UInt8.ofNat_toNat] at own
  exact own kept

/-- The bytes of a slug that stand for themselves in a query. -/
def keptInSlug (special : Bool) (b : UInt8) : Bool := keptInComponent b && Url.keptInQuery special b

theorem keptInSlug_ascii (special : Bool) : IsAscii (keptInSlug special) := fun b kept =>
  (keptInComponent_plain b (Bool.and_eq_true_iff.mp kept).1).1

theorem encode_plain {keeps : UInt8 → Bool} (kept : ∀ b, keeps b = true → keptInComponent b = true)
    (cs : List Char) : ∀ c ∈ encode keeps cs, isPlain c = true :=
  encode_all (fun b own => (keptInComponent_plain b (kept b own)).2) (by decide) (by decide) cs

theorem keptInSlug_plain (special : Bool) (cs : List Char) :
    ∀ c ∈ encode (keptInSlug special) cs, isPlain c = true :=
  encode_plain (fun _ kept => (Bool.and_eq_true_iff.mp kept).1) cs

/-- The query of the address of a mode, before it is read. -/
def modeQuery (slug : String) : List Char :=
  (modeParameter ++ "=").toList ++ encode keptInComponent slug.toList

theorem toList_modeUrl (slug : String) :
    (modeUrl slug).toList = ("./" ++ explorerPage).toList ++ '?' :: modeQuery slug := by
  unfold modeUrl modeQuery component
  simp only [String.toList_append, String.toList_ofList, List.append_assoc]
  rfl

theorem modeUrl_plain (slug : String) : ∀ c ∈ (modeUrl slug).toList, isPlain c = true := by
  intro c mem
  unfold modeUrl component at mem
  rw [String.toList_append, List.mem_append, String.toList_ofList] at mem
  have page : ("./" ++ explorerPage ++ "?" ++ modeParameter ++ "=").toList.all isPlain = true := by
    decide
  rcases mem with front | value
  · exact List.all_eq_true.mp page c front
  · exact encode_plain (fun _ own => own) slug.toList c value

theorem isEdge_eq_false {c : Char} (plain : isPlain c = true) : Url.isEdge c = false := by
  unfold isPlain at plain
  simp only [Bool.and_eq_true, decide_eq_true_eq] at plain
  unfold Url.isEdge
  exact decide_eq_false (by omega)

/-- The address of a mode, read against a page with segments. -/
theorem join_modeUrl {page : Url} {list : List (List Char)} (path : page.path = .segments list)
    (slug : String) :
    page.join (modeUrl slug) = .ok { page with
      path := .segments (Url.segmentsFrom page.scheme list.dropLast ("./" ++ explorerPage).toList)
      query? := some (encode (Url.keptInQuery (Url.isSpecial page.scheme)) (modeQuery slug))
      fragment? := none } := by
  have plain := modeUrl_plain slug
  have counts : ∀ c ∈ (modeUrl slug).toList, Url.isEdge c = false := fun c mem =>
    isEdge_eq_false (plain c mem)
  have sign : '#' ∉ (modeUrl slug).toList := fun mem => absurd (plain _ mem) (by decide)
  have parts : Url.Parts.of (Url.trimmed (modeUrl slug)) =
      { front := ("./" ++ explorerPage).toList, query? := some (modeQuery slug)
        fragment? := none } := by
    rw [Url.trimmed_eq_self counts]
    rw [toList_modeUrl] at counts sign ⊢
    exact Url.Parts.of_query sign (by decide) fun c mem =>
      counts c (List.mem_append_right _ (List.mem_cons_of_mem _ mem))
  have front : Url.unbroken ("./" ++ explorerPage).toList = ("./" ++ explorerPage).toList := by
    decide
  have noScheme : Url.scheme? ("./" ++ explorerPage).toList = none := by decide
  have name : ("./" ++ explorerPage).toList = '.' :: '/' :: explorerPage.toList := by decide
  unfold Url.join Url.resolve Url.Parts.main
  rw [parts]
  dsimp only
  rw [front, noScheme]
  dsimp only
  rw [path]
  dsimp only
  rw [name, Url.relative_of_name rfl, path]
  rfl

/-! ## What the address asks for -/

theorem decoded_encode {keeps : UInt8 → Bool} (ascii : IsAscii keeps) (escaped : keeps 0x25 = false)
    {s : String} (blank : '+' ∉ encode keeps s.toList) :
    Url.Query.decoded (encode keeps s.toList) = s := by
  have kept : (encode keeps s.toList).map (fun c => if c = '+' then ' ' else c) =
      encode keeps s.toList := by
    refine (List.map_congr_left fun c mem => if_neg ?_).trans (List.map_id _)
    rintro rfl
    exact blank mem
  unfold Url.Query.decoded
  rw [kept, decode_encode ascii escaped, String.ofList_toList]

theorem decoded_slug (special : Bool) (slug : String) :
    Url.Query.decoded (encode (keptInSlug special) slug.toList) = slug := by
  have escaped : keptInSlug special 0x25 = false := by cases special <;> decide
  exact decoded_encode (keptInSlug_ascii special) escaped fun mem =>
    absurd (keptInSlug_plain special slug.toList _ mem) (by decide)

/-- In a query that is read only the apostrophe of a slug is escaped besides. -/
theorem encode_modeQuery (special : Bool) (slug : String) :
    encode (Url.keptInQuery special) (modeQuery slug) =
      modeParameter.toList ++ '=' :: encode (keptInSlug special) slug.toList := by
  have parameter : encode (Url.keptInQuery special) (modeParameter ++ "=").toList =
      modeParameter.toList ++ ['='] := by
    cases special <;> decide
  have escapes : Url.keptInQuery special 0x25 = true ∧
      ∀ n < 16, Url.keptInQuery special (Text.Percent.digit n) = true := by
    cases special <;> decide
  unfold modeQuery
  rw [Text.Percent.encode_append, parameter,
    encode_encode (fun b kept => (keptInComponent_plain b kept).1) escapes.1 escapes.2,
    List.append_assoc]
  rfl

theorem pairs_modeQuery (special : Bool) (slug : String) :
    Url.Query.pairs (encode (Url.keptInQuery special) (modeQuery slug)) =
      [(modeParameter, slug)] := by
  have name : encode (keptInSlug special) modeParameter.toList = modeParameter.toList := by
    cases special <;> decide
  have parameter : Url.Query.decoded modeParameter.toList = modeParameter := by
    rw [← name]
    exact decoded_slug special modeParameter
  rw [encode_modeQuery, Url.Query.pairs_single]
  · unfold Url.Query.pair
    rw [Text.cutAt_append (by decide)]
    dsimp only
    rw [Option.getD_some, parameter, decoded_slug]
  · rw [List.mem_append, List.mem_cons, not_or, not_or]
    exact ⟨by decide, by decide, fun mem =>
      absurd (keptInSlug_plain special slug.toList _ mem) (by decide)⟩
  · exact List.append_ne_nil_of_right_ne_nil _ (List.cons_ne_nil _ _)

/-- An address whose query is that of a mode asks for the mode. -/
theorem requestedMode_modeQuery {address : Url} {special : Bool} {slug : String}
    (query : address.query? = some (encode (Url.keptInQuery special) (modeQuery slug)))
    (named : slug ≠ "") (default? : Option String) :
    requestedMode address default? = some slug := by
  have pairs : address.queryPairs = [(modeParameter, slug)] := by
    unfold Url.queryPairs
    rw [query, Option.map_some, pairs_modeQuery]
    rfl
  have found : modeOfQuery? [(modeParameter, slug)] = some slug := by
    unfold modeOfQuery?
    rw [List.find?_cons_of_pos]
    · rfl
    · simpa using named
  unfold requestedMode
  rw [pairs, found]
  rfl

theorem modeUrl_injective : Function.Injective modeUrl := by
  intro a b same
  have queries : modeQuery a = modeQuery b := by
    have texts := congrArg String.toList same
    rw [toList_modeUrl, toList_modeUrl] at texts
    exact (List.cons.inj (List.append_cancel_left texts)).2
  have pairs := pairs_modeQuery true a
  rw [queries, pairs_modeQuery] at pairs
  exact (Prod.mk.inj (List.cons.inj pairs).1).2.symm

/-- **The address of a mode asks for that mode**, whatever page it is read against and whatever its
default is. So each link of the navigation leads to its own partition, as the keys of a dataset
differ (`Feed.keys_nodup`). -/
theorem modeUrl_opens {address : String} {page : Url} (read : Url.ofText? address = .ok page)
    (web : page.scheme = "http".toList ∨ page.scheme = "https".toList) (default? : Option String) :
    (∀ slug ≠ "", ∃ there, page.join (modeUrl slug) = .ok there ∧
        requestedMode there default? = some slug) ∧
      Function.Injective modeUrl ∧
      ∀ d : Dataset, d.keys.Nodup → ∀ (active : String) (i : Nat) (m : String × Partition),
        d.partitions[i]? = some m → m.1 ≠ "" →
          ∃ (entry : Entry) (there : Url), (entries d active)[i]? = some entry ∧
            page.join entry.href = .ok there ∧
            resolve? d (requestedMode there default?) = some m := by
  have special : Url.isSpecial page.scheme = true := by
    rcases web with http | https
    · rw [http]; decide
    · rw [https]; decide
  obtain ⟨list, path⟩ := Url.ofText?_segments read special
  have asks : ∀ slug ≠ "", ∃ there, page.join (modeUrl slug) = .ok there ∧
      requestedMode there default? = some slug := fun slug named =>
    ⟨_, join_modeUrl path slug, requestedMode_modeQuery rfl named default?⟩
  refine ⟨asks, modeUrl_injective, fun d distinct active i m place named => ?_⟩
  obtain ⟨there, joined, requested⟩ := asks m.1 named
  refine ⟨Entry.ofMode active m, there, ?_, joined, ?_⟩
  · unfold entries
    rw [List.getElem?_map, place]
    rfl
  · unfold resolve?
    rw [requested, Option.bind_some, Feed.find?_of_mem distinct (List.mem_of_getElem? place)]
    rfl

/-- A page with segments and a query of its own. -/
def benchPage : Url where
  scheme := "https".toList
  authority? := some { host := .name "bench.example".toList }
  path := .segments ["board".toList, []]
  query? := some "mode=x".toList
  fragment? := none

theorem ofText?_benchPage : Url.ofText? "https://bench.example/board/?mode=x" = .ok benchPage := by
  with_unfolding_all rfl

/-- Two modes, one with a key of marks. -/
def markedModes : Dataset := .ofMembers [("t2i", .object []), ("é+1 & 'a'=%25", .object [])]

theorem modeUrl_opens_markedModes :
    Url.ofText? "https://bench.example/board/?mode=x" = .ok benchPage ∧
      benchPage.scheme = "https".toList ∧
      (∃ there, benchPage.join (modeUrl "#") = .ok there ∧
        requestedMode there (some "t2i") = some "#") ∧
      ∃ m entry there, markedModes.partitions[1]? = some m ∧ m.1 = "é+1 & 'a'=%25" ∧
        (entries markedModes "t2i")[1]? = some entry ∧ benchPage.join entry.href = .ok there ∧
        resolve? markedModes (requestedMode there (some "t2i")) = some m := by
  obtain ⟨m, place, key⟩ : ∃ m, markedModes.partitions[1]? = some m ∧ m.1 = "é+1 & 'a'=%25" :=
    ⟨_, rfl, rfl⟩
  have distinct : markedModes.keys.Nodup := by decide
  have named : m.1 ≠ "" := by rw [key]; decide
  obtain ⟨asks, -, follow⟩ := modeUrl_opens ofText?_benchPage (.inr rfl) (some "t2i")
  obtain ⟨entry, there, second, joined, chosen⟩ := follow markedModes distinct "t2i" 1 m place named
  exact ⟨ofText?_benchPage, rfl, asks "#" (by decide), m, entry, there, place, key, second, joined,
    chosen⟩

end Navigation

end Leaderboard
