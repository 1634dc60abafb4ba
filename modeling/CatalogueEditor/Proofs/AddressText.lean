import CatalogueEditor.Proofs.AuthorityText

/-!
The text of addresses of the web. Reading what is written for an address gives its scheme, its authority,
its query and its fragment again, also if a field was added to the query.
-/

namespace CatalogueEditor

namespace UrlPath

variable {segment text : List Char} {segments before : List (List Char)}

/-- All characters of the segments stand for themselves. -/
def AllKept (segments : List (List Char)) : Prop :=
  ∀ segment ∈ segments, ∀ c ∈ segment, keeps c = true

theorem AllKept.append (front : AllKept before) (back : AllKept segments) :
    AllKept (before ++ segments) :=
  List.forall_mem_append.mpr ⟨front, back⟩

theorem allKept_open (isLast : Bool) : AllKept (if isLast then [[]] else []) := by
  cases isLast <;> simp [AllKept]

theorem AllKept.appendSegment (kept : AllKept before) (segment : List Char) (isLast : Bool) :
    AllKept (appendSegment .web before segment isLast) := by
  unfold UrlPath.appendSegment
  split
  · have fewer : AllKept (takeBack before) := by
      unfold takeBack
      split
      · exact kept
      · exact fun segment member => kept segment (List.mem_of_mem_dropLast member)
    exact fewer.append (allKept_open isLast)
  split
  · exact kept.append (allKept_open isLast)
  · refine kept.append ?_
    simp only [AllKept, List.mem_singleton, forall_eq, keepSegment]
    exact fun c => Url.keeps_settles.keeps_of_mem

theorem AllKept.appendAll (kept : AllKept before) (segments : List (List Char)) :
    AllKept (appendAll .web before segments) := by
  fun_induction UrlPath.appendAll .web before segments with
  | case1 => exact kept
  | case2 before last => exact kept.appendSegment last true
  | case3 before segment rest _ ih => exact ih (kept.appendSegment segment false)

theorem appendSegment_last (before : List (List Char)) (segment : List Char) :
    appendSegment .web before segment true ≠ [] := by
  unfold appendSegment
  split
  · simp
  · split <;> simp

theorem appendAll_ne_nil (nonempty : segments ≠ []) : appendAll .web before segments ≠ [] := by
  fun_induction appendAll .web before segments with
  | case1 => exact absurd rfl nonempty
  | case2 before last => exact appendSegment_last before last
  | case3 before segment rest more ih => exact ih (by simpa using more)

theorem read_ne_nil (text : List Char) : UrlPath.read .web [] text ≠ [] :=
  appendAll_ne_nil (List.splitOn_ne_nil _ _)

end UrlPath

namespace Url

open UrlPath

/-- An address of the web as it is read. -/
structure Settled (url : Url) : Prop where
  web : SchemeKind.ofScheme url.scheme = .web
  authority : ∃ authority, url.authority = some authority ∧ authority.Settled url.scheme
  path : ∃ segments, url.path = .segments segments ∧ segments ≠ [] ∧ AllKept segments
  query : ∀ query, url.query = some query → ∀ c ∈ query, keepsInQuery .web c = true
  fragment : ∀ fragment, url.fragment = some fragment → ∀ c ∈ fragment, keepsInFragment c = true

theorem withEnding_query {url : Url} (web : SchemeKind.ofScheme url.scheme = .web)
    (queryless : url.query = none) (text : List Char) :
    ∀ query, (url.withEnding text).query = some query → ∀ c ∈ query, keepsInQuery .web c = true := by
  unfold withEnding
  rw [web]
  split
  · rintro query ⟨⟩
    exact fun c => keepsInQuery_settles.keeps_of_mem
  · intro query given
    cases queryless.symm.trans given

theorem withEnding_fragment (url : Url) (text : List Char) :
    ∀ fragment, (url.withEnding text).fragment = some fragment →
      ∀ c ∈ fragment, keepsInFragment c = true := by
  unfold withEnding
  dsimp only
  split
  all_goals
    dsimp only
    split
    · rintro fragment ⟨⟩
    · rintro fragment ⟨⟩
      exact fun c => keepsInFragment_settles.keeps_of_mem

theorem settled_ofWeb {scheme : List Char} (web : SchemeKind.ofScheme scheme = .web)
    {authority : Authority} (settled : authority.Settled scheme) (text : List Char) :
    (ofWeb scheme authority text).Settled := by
  have same := ofWeb_same scheme authority text
  refine ⟨by rw [same.1, web], ⟨authority, same.2, by rwa [same.1]⟩, ?_, ?_, ?_⟩
  · refine ⟨_, (withEnding_same _ _).2.2, ?_⟩
    dsimp only [ofScheme]
    rw [web]
    have kept : AllKept [] := List.forall_mem_nil _
    exact ⟨read_ne_nil _, kept.appendAll _⟩
  · exact withEnding_query web rfl _
  · exact withEnding_fragment _ _

theorem settled_of_read {text : List Char} {url : Url} (read : Url.read text = .ok url)
    (web : SchemeKind.ofScheme url.scheme = .web) : url.Settled := by
  unfold Url.read at read
  split at read
  · cases read
  · rw [readBehind_scheme read] at web
    rw [readBehind_web web] at read
    obtain ⟨⟨authority, left⟩, split, rfl⟩ := exists_ok_of_map read
    exact settled_ofWeb web (Authority.settled_of_splitAuthority web split) _

theorem toNat_of_isPlain {c : Char} (plain : Form.isPlain c = true) : c.toNat < 128 := by
  have alphanum : c.isAlphanum = (decide (c.val ≥ 65 ∧ c.val ≤ 90) ||
    (decide (c.val ≥ 97) && decide (c.val ≤ 122)) || (decide (c.val ≥ 48) && decide (c.val ≤ 57))) := rfl
  have code : c.val.toNat = c.toNat := rfl
  simp only [Form.isPlain, alphanum, Bool.or_eq_true, Bool.and_eq_true, decide_eq_true_eq, beq_iff_eq,
    ge_iff_le, UInt32.le_iff_toNat_le, code] at plain
  rcases plain with (((letter | rfl) | rfl) | rfl) | rfl
  · simp only [UInt32.reduceToNat] at letter
    omega
  all_goals decide

theorem keepsInQuery_of_isPlain {c : Char} (plain : Form.isPlain c = true) :
    keepsInQuery .web c = true := by
  have each : ∀ n < 128, Form.isPlain (Char.ofNat n) = true →
      keepsInQuery .web (Char.ofNat n) = true := by decide
  have small := toNat_of_isPlain plain
  rw [← Char.ofNat_toNat c] at plain ⊢
  exact each _ small plain

theorem keepsInQuery_of_mem_encode {c : Char} {text : List Char} (member : c ∈ Form.encode text) :
    keepsInQuery .web c = true := by
  rcases Form.mem_encode member with plain | rfl | rfl
  · exact keepsInQuery_of_isPlain plain
  · decide
  · decide

theorem keepsInQuery_of_mem_encodeField {c : Char} {field : Form.Field}
    (member : c ∈ Form.encodeField field) : keepsInQuery .web c = true := by
  rcases List.mem_append.mp member with name | behind
  · exact keepsInQuery_of_mem_encode name
  · rcases List.mem_cons.mp behind with rfl | value
    · decide
    · exact keepsInQuery_of_mem_encode value

namespace Settled

variable {url : Url} (settled : url.Settled)
include settled

theorem addField (field : Form.Field) : (url.addField field).Settled := by
  refine ⟨settled.web, settled.authority, settled.path, ?_, settled.fragment⟩
  rintro query ⟨⟩ c member
  unfold Form.append at member
  split at member
  · exact keepsInQuery_of_mem_encodeField member
  · rcases List.mem_append.mp member with before | behind
    · cases given : url.query with
      | none => simp [given] at before
      | some query => exact settled.query query given c (by simpa [given] using before)
    · rcases List.mem_cons.mp behind with rfl | added
      · decide
      · exact keepsInQuery_of_mem_encodeField added

end Settled

theorem scheme_mem {scheme : List Char} (web : SchemeKind.ofScheme scheme = .web) :
    scheme ∈ webPorts.map Prod.fst := by
  unfold SchemeKind.ofScheme at web
  split at web
  · rename_i port
    obtain ⟨usual, found⟩ := Option.isSome_iff_exists.mp port
    obtain ⟨front, back, whole, _⟩ := List.lookup_eq_some_iff.mp found
    simp [whole]
  · split at web <;> cases web

/-- A scheme of the web is read back in front of its colon. -/
theorem splitScheme_web {scheme : List Char} (web : SchemeKind.ofScheme scheme = .web)
    (behind : List Char) : splitScheme (scheme ++ ':' :: behind) = some (scheme, behind) := by
  have known := scheme_mem web
  simp only [webPorts, List.map_cons, List.map_nil, List.mem_cons, List.not_mem_nil, or_false] at known
  rcases known with rfl | rfl | rfl | rfl | rfl <;> rfl

theorem scheme_solid {scheme : List Char} (web : SchemeKind.ofScheme scheme = .web) :
    ∀ c ∈ scheme, ¬ c ≤ ' ' := by
  have visible : (webPorts.map Prod.fst).all (·.all (32 < ·.toNat)) = true := by decide +kernel
  exact solid_of_visible (List.all_eq_true.mp visible scheme (scheme_mem web))

/-- The query and the fragment are read back behind a path. -/
theorem withEnding_render {url shown : Url} (settled : shown.Settled)
    (web : SchemeKind.ofScheme url.scheme = .web) (queryless : url.query = none) :
    let again := url.withEnding (shown.renderQuery ++ shown.renderFragment)
    again.query = shown.query ∧ again.fragment = shown.fragment := by
  have marked : ∀ fragment, shown.fragment = some fragment →
      Percent.encode keepsInFragment fragment = fragment := fun fragment given =>
    Percent.encode_of_keeps (settled.fragment fragment given)
  cases asked : shown.query with
  | none =>
      rw [renderQuery, asked, renderFragment]
      cases given : shown.fragment with
      | none => exact ⟨queryless, rfl⟩
      | some fragment => exact ⟨queryless, congrArg some (marked fragment given)⟩
  | some query =>
      have kept := settled.query query asked
      have encoded := Percent.encode_of_keeps kept
      have run : query.all (· != '#') = true := by
        simp only [List.all_eq_true, bne_iff_ne]
        rintro _ member rfl
        exact absurd (kept _ member) (by decide)
      have mark : ∀ c, shown.renderFragment.head? = some c → (c != '#') = false := by
        unfold renderFragment
        split <;> simp
      have front : (query ++ shown.renderFragment).takeWhile (· != '#') = query :=
        Markup.takeWhile_run run mark
      have behind : (query ++ shown.renderFragment).dropWhile (· != '#') = shown.renderFragment :=
        Markup.dropWhile_run run mark
      rw [renderQuery, asked]
      simp only [List.cons_append, withEnding, web, front, behind, encoded, true_and]
      rw [renderFragment]
      cases given : shown.fragment with
      | none => rfl
      | some fragment => exact congrArg some (marked fragment given)

namespace Settled

variable {url : Url} (settled : url.Settled)
include settled

/-- The parts of the text of an address: behind the authority a slash and a path without what would end
it. -/
theorem render_eq : ∃ authority path, url.authority = some authority ∧
    authority.Settled url.scheme ∧ (∀ c ∈ path, c = '/' ∨ keeps c = true) ∧
    url.render = url.scheme ++ ':' :: '/' :: '/' :: (authority.body ++
      '/' :: (path ++ (url.renderQuery ++ url.renderFragment))) := by
  obtain ⟨authority, given, parts⟩ := settled.authority
  obtain ⟨all, path, nonempty, kept⟩ := settled.path
  obtain ⟨segment, segments, rfl⟩ := List.exists_cons_of_ne_nil nonempty
  obtain ⟨first, later⟩ := List.forall_mem_cons.mp kept
  refine ⟨authority, segment ++ renderSegments segments, given, parts, ?_, ?_⟩
  · refine List.forall_mem_append.mpr ⟨fun c member => .inr (first c member), fun c member => ?_⟩
    obtain ⟨other, among, inside⟩ := List.mem_flatMap.mp member
    exact (List.mem_cons.mp inside).imp id (later other among c)
  · simp [render, renderAuthority, given, pathGuard, renderPath, path, renderSegments,
      Authority.render, Authority.body]

theorem ending_solid : ∀ c ∈ url.renderQuery ++ url.renderFragment, ¬ c ≤ ' ' := by
  have graphic : ∀ c, keepsInQuery .web c = true ∨ keepsInFragment c = true → ¬ c ≤ ' ' := by
    intro c kept
    refine Percent.not_control_of_isGraphic ?_
    simp only [keepsInQuery, keepsInFragment, Bool.and_eq_true] at kept
    exact kept.elim (·.1.1) (·.1)
  refine List.forall_mem_append.mpr ⟨?_, ?_⟩
  · unfold renderQuery
    split
    · exact List.forall_mem_nil _
    · rename_i query asked
      refine List.forall_mem_cons.mpr ⟨by decide, fun c member => ?_⟩
      exact graphic c (.inl (settled.query query asked c member))
  · unfold renderFragment
    split
    · exact List.forall_mem_nil _
    · rename_i fragment given
      refine List.forall_mem_cons.mpr ⟨by decide, fun c member => ?_⟩
      exact graphic c (.inr (settled.fragment fragment given c member))

/-- What is written for an address is read as an address with the same parts, its path apart. -/
theorem read_render : ∃ again, Url.read url.render = .ok again ∧ again.scheme = url.scheme ∧
    again.authority = url.authority ∧ again.query = url.query ∧ again.fragment = url.fragment := by
  obtain ⟨authority, path, given, parts, kept, whole⟩ := settled.render_eq
  have plain : ∀ c ∈ path, ¬ c ≤ ' ' ∧ endsPath c = false := by
    intro c member
    rcases kept c member with rfl | keeps
    · decide
    · refine ⟨?_, ?_⟩
      · simp only [UrlPath.keeps, Bool.and_eq_true] at keeps
        exact Percent.not_control_of_isGraphic keeps.1
      · rw [← Bool.not_eq_true]
        intro ends
        simp only [endsPath, Bool.or_eq_true, beq_iff_eq] at ends
        rcases ends with rfl | rfl <;> exact absurd keeps (by decide)
  have solid : ∀ c ∈ url.render, ¬ c ≤ ' ' := by
    rw [whole]
    simp only [List.forall_mem_append, List.forall_mem_cons]
    exact ⟨scheme_solid settled.web, by decide, by decide, by decide,
      fun c member => (parts.body_stays c member).1, by decide,
      fun c member => (plain c member).1, List.forall_mem_append.mp settled.ending_solid⟩
  have cleaned : clean url.render = url.render := clean_append [] (by simp) solid
  have inside : Inside authority.body := fun c member => (parts.body_stays c member).2
  have outside : Outside ('/' :: (path ++ (url.renderQuery ++ url.renderFragment))) := by
    rintro c ⟨⟩
    rfl
  have slashes : ('/' :: '/' :: (authority.body ++
      '/' :: (path ++ (url.renderQuery ++ url.renderFragment)))).dropWhile (isSlash .web) =
        authority.body ++ '/' :: (path ++ (url.renderQuery ++ url.renderFragment)) := by
    obtain ⟨c, rest, starts⟩ := List.exists_cons_of_ne_nil parts.body_ne_nil
    have first : isSlash .web c = false := by
      have ends := inside c (starts ▸ List.mem_cons_self)
      exact (Bool.or_eq_false_iff.mp ends).1
    rw [List.dropWhile_cons_of_pos rfl, List.dropWhile_cons_of_pos rfl, starts, List.cons_append,
      List.dropWhile_cons_of_neg (by simp [first])]
  have read : Url.read url.render = .ok (ofWeb url.scheme authority
      ('/' :: (path ++ (url.renderQuery ++ url.renderFragment)))) := by
    rw [Url.read, cleaned, whole, splitScheme_web settled.web]
    dsimp only
    rw [readBehind_web settled.web, slashes, readWeb, takeWhile_inside inside outside,
      dropWhile_inside inside outside, parts.splitAuthority settled.web]
    rfl
  have marks : ∀ c, (url.renderQuery ++ url.renderFragment).head? = some c → endsPath c = true := by
    unfold renderQuery renderFragment
    cases url.query <;> cases url.fragment <;> simp [endsPath]
  have behind : (path ++ (url.renderQuery ++ url.renderFragment)).dropWhile (!endsPath ·) =
      url.renderQuery ++ url.renderFragment :=
    Markup.dropWhile_run (by simpa using fun c member => (plain c member).2)
      fun c first => by simp [marks c first]
  refine ⟨_, read, (ofWeb_same ..).1, by rw [(ofWeb_same ..).2, given], ?_⟩
  rw [ofWeb, belowRoot, withPath, behind]
  exact withEnding_render settled settled.web rfl

end Settled

theorem belowRoot_suffix (text : List Char) : belowRoot text <:+ text := by
  unfold belowRoot
  split
  · exact List.suffix_cons _ _
  · exact List.suffix_cons _ _
  · exact List.suffix_refl _

theorem withEnding_queryless {url : Url} {text : List Char} (queryless : url.query = none)
    (unasked : '?' ∉ text) : (url.withEnding text).query = none := by
  unfold withEnding
  split
  · exact absurd List.mem_cons_self unasked
  · exact queryless

/-- Without a question mark there is no query. -/
theorem ofWeb_queryless {text : List Char} (unasked : '?' ∉ text) (scheme : List Char)
    (authority : Authority) : (ofWeb scheme authority text).query = none := by
  have suffix := (List.dropWhile_suffix (!UrlPath.endsPath ·)).trans (belowRoot_suffix text)
  exact withEnding_queryless rfl fun member => unasked (suffix.subset member)

theorem read_queryless {text : List Char} {url : Url} (unasked : '?' ∉ text)
    (read : Url.read text = .ok url) (web : SchemeKind.ofScheme url.scheme = .web) :
    url.query = none := by
  unfold Url.read at read
  split at read
  · cases read
  · rename_i scheme behind split
    rw [readBehind_scheme read] at web
    rw [readBehind_web web] at read
    obtain ⟨_, _, rfl⟩ := exists_ok_of_map read
    refine ofWeb_queryless (fun member => unasked ?_) _ _
    obtain ⟨name, whole, _⟩ := splitScheme_some split
    have inside : '?' ∈ clean text := by
      have rest := (List.dropWhile_suffix _).subset ((List.dropWhile_suffix _).subset member)
      rw [whole]
      exact List.mem_append_right name (List.mem_cons_of_mem _ rest)
    have trimmed := List.mem_of_mem_filter inside
    exact (List.dropWhile_suffix _).subset ((List.rdropWhile_prefix _ _).subset trimmed)

end Url

end CatalogueEditor
