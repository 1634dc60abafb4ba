import Mathlib.Data.List.DropRight
import CatalogueEditor.Proofs.FormDelivery
import CatalogueEditor.Proofs.WebAddress

/-!
Where the operations of a configuration are sent. The base is checked as an address of its own, but the
paths of the operations are appended to its text. What they meet there may be a query or a fragment, or
spaces that counted for nothing as long as the text ended in them.
-/

namespace CatalogueEditor

namespace Url

open UrlPath

/-! Text of addresses. -/

/-- Tabs and line breaks count for nothing anywhere. -/
def counts (c : Char) : Bool :=
  c != '\t' && c != '\n' && c != '\r'

/-- Apart from tabs and line breaks, the text ends in a space or in a control. -/
def EndsBlank (text : List Char) : Prop :=
  ∃ c, (text.filter counts).getLast? = some c ∧ c ≤ ' '

/-- Nothing is written behind the authority. -/
def EndsInAuthority (text : List Char) : Prop :=
  ∃ scheme behind, splitScheme (clean text) = some (scheme, behind) ∧
    ∀ c ∈ behind.dropWhile (isSlash .web), endsAuthority .web c = false

/-- What is read of text that goes on. -/
def shown (text : List Char) : List Char :=
  (text.dropWhile (· ≤ ' ')).filter counts

theorem counts_of_solid {c : Char} (solid : ¬ c ≤ ' ') : counts c = true := by
  simp only [counts, Bool.and_eq_true, bne_iff_ne]
  refine ⟨⟨?_, ?_⟩, ?_⟩ <;> rintro rfl <;> exact solid (by decide)

theorem solid_of_visible {text : List Char} (visible : text.all (32 < ·.toNat) = true) :
    ∀ c ∈ text, ¬ c ≤ ' ' := by
  intro c member control
  exact Nat.not_le.mpr (of_decide_eq_true (List.all_eq_true.mp visible c member))
    (Text.toNat_control control)

theorem clean_append (text : List Char) {more : List Char} (nonempty : more ≠ [])
    (solid : ∀ c ∈ more, ¬ c ≤ ' ') : clean (text ++ more) = shown text ++ more := by
  have front : (text ++ more).dropWhile (· ≤ ' ') = text.dropWhile (· ≤ ' ') ++ more := by
    obtain ⟨c, rest, rfl⟩ := List.exists_cons_of_ne_nil nonempty
    have first : ¬ c ≤ ' ' := solid c List.mem_cons_self
    rw [List.dropWhile_append]
    split
    · rename_i empty
      rw [List.isEmpty_iff.mp empty, List.dropWhile_cons_of_neg (by simpa using first)]
      rfl
    · rfl
  have back : Text.dropTrailing (· ≤ ' ') (text.dropWhile (· ≤ ' ') ++ more) =
      text.dropWhile (· ≤ ' ') ++ more := by
    obtain rfl | ⟨init, c, rfl⟩ := List.eq_nil_or_concat more
    · exact absurd rfl nonempty
    · have last : ¬ c ≤ ' ' := solid c (by simp)
      rw [List.concat_eq_append, ← List.append_assoc]
      exact List.rdropWhile_concat_neg (· ≤ ' ') _ c (by simpa using last)
  have kept : more.filter counts = more :=
    List.filter_eq_self.mpr fun c member => counts_of_solid (solid c member)
  rw [clean, front, back, List.filter_append]
  exact congrArg (shown text ++ ·) kept

/-- What counts for nothing at the end of text counts as soon as the text goes on. -/
theorem shown_eq (text : List Char) :
    ∃ blanks, shown text = clean text ++ blanks ∧ ∀ c ∈ blanks, c ≤ ' ' := by
  refine ⟨((text.dropWhile (· ≤ ' ')).rtakeWhile (· ≤ ' ')).filter counts, ?_, ?_⟩
  · have whole : (text.dropWhile (· ≤ ' ')).rdropWhile (· ≤ ' ') ++
        (text.dropWhile (· ≤ ' ')).rtakeWhile (· ≤ ' ') = text.dropWhile (· ≤ ' ') :=
      List.rdropWhile_append_rtakeWhile
    rw [shown, ← whole, List.filter_append, whole]
    rfl
  · intro c member
    simpa using List.mem_rtakeWhile_imp (List.mem_of_mem_filter member)

theorem clean_last {text : List Char} {c : Char} (last : (clean text).getLast? = some c) :
    ¬ c ≤ ' ' := by
  have same : clean text =
      ((text.dropWhile (· ≤ ' ')).rdropWhile (· ≤ ' ')).filter counts := rfl
  rw [same] at last
  by_cases empty : (text.dropWhile (· ≤ ' ')).rdropWhile (· ≤ ' ') = []
  · rw [empty] at last
    cases last
  · have solid : ¬ (((text.dropWhile (· ≤ ' ')).rdropWhile (· ≤ ' ')).getLast empty ≤ ' ') := by
      simpa using List.rdropWhile_last_not (· ≤ ' ') (text.dropWhile (· ≤ ' ')) empty
    rw [← List.dropLast_append_getLast empty, List.filter_append,
      List.filter_cons_of_pos (counts_of_solid solid), List.filter_nil,
      List.getLast?_concat] at last
    exact Option.some.inj last ▸ solid

theorem splitScheme_some {text scheme behind : List Char}
    (split : splitScheme text = some (scheme, behind)) :
    ∃ name, text = name ++ ':' :: behind ∧
      ∀ behind, splitScheme (name ++ ':' :: behind) = some (scheme, behind) := by
  unfold splitScheme at split
  split at split
  · rename_i c rest first colon
    split at split
    · rename_i letter
      cases split
      refine ⟨text.takeWhile isSchemeChar, ?_, fun behind => ?_⟩
      · rw [← colon, List.takeWhile_append_dropWhile]
      · have run : (text.takeWhile isSchemeChar).all isSchemeChar = true := List.all_takeWhile
        have stops : ∀ d, (':' :: behind).head? = some d → isSchemeChar d = false := by
          rintro d ⟨⟩
          rfl
        have start : (text.takeWhile isSchemeChar ++ ':' :: behind).head? = some c := by
          obtain ⟨rest, rfl⟩ := List.head?_eq_some_iff.mp first
          have scheme : isSchemeChar c = true := by simp [isSchemeChar, Char.isAlphanum, letter]
          rw [List.takeWhile_cons_of_pos scheme]
          rfl
        rw [splitScheme, start, Markup.dropWhile_run run stops, Markup.takeWhile_run run stops]
        exact if_pos letter
    · cases split
  · cases split

theorem withRootedPath_scheme (url : Url) (text : List Char) :
    (url.withRootedPath text).scheme = url.scheme := by
  unfold withRootedPath
  split
  · exact (withEnding_same _ _).1
  · exact (withEnding_same _ _).1
  · split <;> exact (withEnding_same _ _).1
  · exact (withEnding_same _ _).1
  · exact (withEnding_same _ _).1

theorem readAuthority_scheme {scheme text : List Char} {url : Url}
    (read : readAuthority scheme text = .ok url) : url.scheme = scheme := by
  obtain ⟨_, _, made⟩ := exists_ok_of_bind read
  cases made
  exact withRootedPath_scheme _ _

theorem ofFile_scheme (host : Option Host) (text : List Char) :
    (ofFile host text).scheme = "file".toList := by
  unfold ofFile
  dsimp only
  split
  · exact (withEnding_same _ _).1
  · exact (withEnding_same _ _).1

theorem readFile_scheme {text : List Char} {url : Url} (read : readFile text = .ok url) :
    url.scheme = "file".toList := by
  unfold readFile at read
  split at read
  · rename_i c d rest
    split at read
    · dsimp only at read
      split at read
      · cases read
        exact ofFile_scheme _ _
      · obtain ⟨_, _, made⟩ := exists_ok_of_bind read
        cases made
        exact ofFile_scheme _ _
    · cases read
      exact ofFile_scheme _ _
  · cases read
    exact ofFile_scheme _ _
  · cases read
    exact ofFile_scheme _ _

theorem readBehind_scheme {scheme text : List Char} {url : Url}
    (read : readBehind scheme text = .ok url) : url.scheme = scheme := by
  unfold readBehind at read
  split at read
  · rename_i kind
    have file : scheme = "file".toList := by
      unfold SchemeKind.ofScheme at kind
      split at kind
      · cases kind
      · split at kind
        · assumption
        · cases kind
    rw [file]
    exact readFile_scheme read
  · exact readAuthority_scheme read
  · exact readAuthority_scheme read
  · cases read
    exact (withEnding_same _ _).1
  · cases read
    exact (withEnding_same _ _).1

theorem endsBlank_iff {text : List Char} (nonempty : shown text ≠ []) :
    EndsBlank text ↔ ∃ c, (shown text).getLast? = some c ∧ c ≤ ' ' := by
  have whole : text.filter counts = (text.takeWhile (· ≤ ' ')).filter counts ++ shown text := by
    rw [shown, ← List.filter_append, List.takeWhile_append_dropWhile]
  rw [EndsBlank, whole, List.getLast?_append_of_ne_nil _ nonempty]

/-- Text in parts: what stays, the slashes at its end, and, if there are none, what counts for nothing
there until the text goes on. -/
structure Parted (text front slashes blanks : List Char) : Prop where
  cleaned : clean text = front ++ slashes
  goes : shown (Text.dropTrailing (· == '/') text) = front ++ blanks
  slash : ∀ c ∈ slashes, c = '/'
  control : ∀ c ∈ blanks, c ≤ ' '
  either : slashes = [] ∨ blanks = []
  blank : EndsBlank text ↔ blanks ≠ []

theorem dropTrailing_append_slashes (text : List Char) :
    Text.dropTrailing (· == '/') text ++ text.rtakeWhile (· == '/') = text :=
  List.rdropWhile_append_rtakeWhile

theorem parted_of_bare {text : List Char} (nonempty : clean text ≠ [])
    (bare : text.rtakeWhile (· == '/') = []) : ∃ blanks, Parted text (clean text) [] blanks := by
  have whole := dropTrailing_append_slashes text
  rw [bare, List.append_nil] at whole
  obtain ⟨blanks, same, controls⟩ := shown_eq text
  refine ⟨blanks, (List.append_nil _).symm, whole.symm ▸ same, List.forall_mem_nil _, controls,
    .inl rfl, ?_⟩
  have visible : shown text ≠ [] := by
    rw [same]
    exact List.append_ne_nil_of_left_ne_nil nonempty blanks
  rw [endsBlank_iff visible, same]
  constructor
  · rintro ⟨c, last, control⟩ rfl
    rw [List.append_nil] at last
    exact clean_last last control
  · intro some
    refine ⟨blanks.getLast some, ?_, controls _ (List.getLast_mem some)⟩
    rw [List.getLast?_append_of_ne_nil _ some, List.getLast?_eq_some_getLast some]

theorem parted_of_slashes {text : List Char} (slashed : text.rtakeWhile (· == '/') ≠ []) :
    Parted text (shown (Text.dropTrailing (· == '/') text)) (text.rtakeWhile (· == '/')) [] := by
  have whole := dropTrailing_append_slashes text
  have slash : ∀ c ∈ text.rtakeWhile (· == '/'), c = '/' := by
    intro c member
    simpa using List.mem_rtakeWhile_imp member
  have solid : ∀ c ∈ text.rtakeWhile (· == '/'), ¬ c ≤ ' ' := by
    intro c member
    rw [slash c member]
    decide
  have cleaned := clean_append (Text.dropTrailing (· == '/') text) slashed solid
  rw [whole] at cleaned
  refine ⟨cleaned, (List.append_nil _).symm, slash, List.forall_mem_nil _, .inr rfl, ?_⟩
  refine ⟨fun blank => ?_, fun absent => absurd rfl absent⟩
  obtain ⟨c, last, control⟩ := blank
  have kept : (text.rtakeWhile (· == '/')).filter counts = text.rtakeWhile (· == '/') :=
    List.filter_eq_self.mpr fun c member => counts_of_solid (solid c member)
  rw [← whole, List.filter_append, kept, List.getLast?_append_of_ne_nil _ slashed] at last
  exact absurd control (solid c (List.mem_of_getLast? last))

theorem exists_parted {text : List Char} (nonempty : clean text ≠ []) :
    ∃ front slashes blanks, Parted text front slashes blanks := by
  by_cases bare : text.rtakeWhile (· == '/') = []
  · exact ⟨_, _, parted_of_bare nonempty bare⟩
  · exact ⟨_, _, _, parted_of_slashes bare⟩

/-- The colon behind the scheme is none of the slashes at the end. -/
theorem scheme_before {front slashes name behind : List Char} (slash : ∀ c ∈ slashes, c = '/')
    (whole : front ++ slashes = name ++ ':' :: behind) :
    ∃ text, front = name ++ ':' :: text ∧ behind = text ++ slashes := by
  rcases List.append_eq_append_iff.mp whole with ⟨rest, _, colon⟩ | ⟨rest, front, colon⟩
  · cases slash ':' (colon ▸ by simp)
  · cases rest with
    | nil =>
        rw [List.nil_append] at colon
        cases slash ':' (colon ▸ List.mem_cons_self)
    | cons c text =>
        cases colon
        exact ⟨text, front, rfl⟩

/-- Nor does the authority stand among them. -/
theorem authority_before {scheme text slashes : List Char} {url : Url}
    (web : SchemeKind.ofScheme scheme = .web) (slash : ∀ c ∈ slashes, c = '/')
    (read : readBehind scheme (text ++ slashes) = .ok url) : text.dropWhile (isSlash .web) ≠ [] := by
  intro empty
  have none : slashes.dropWhile (isSlash .web) = [] :=
    List.dropWhile_eq_nil_iff.mpr fun c member => by rw [slash c member]; rfl
  rw [readBehind_web web, List.dropWhile_append, empty, List.isEmpty_nil, if_pos rfl, none,
    readWeb_nil web] at read
  cases read

end Url

namespace Operation

/-- The path below the base. -/
def segments (operation : Operation) : List (List Char) :=
  ["admin".toList, "catalogue".toList, "message".toList, operation.name.toList]

theorem path_eq (operation : Operation) :
    operation.path.toList = renderSegments operation.segments := by
  cases operation <;> decide +kernel

theorem segments_kept (operation : Operation) :
    ∀ segment ∈ operation.segments, Url.Kept segment := by
  have kept : ∀ segment ∈ operation.segments, UrlPath.isSingleDot segment = false ∧
      UrlPath.isDoubleDot segment = false ∧ Percent.encode UrlPath.keeps segment = segment ∧
      UrlPath.split .web segment = [segment] := by
    cases operation <;> decide +kernel
  intro segment member
  obtain ⟨single, double, encoded, whole⟩ := kept segment member
  exact ⟨single, double, encoded, whole⟩

/-- No path ends in the paths of two operations. -/
theorem eq_of_suffix {operation other : Operation} {path : List Char}
    (one : operation.path.toList <:+ path) (two : other.path.toList <:+ path) : operation = other := by
  have apart : operation.path.toList <:+ other.path.toList ∨
      other.path.toList <:+ operation.path.toList → operation = other := by
    cases operation <;> cases other <;> decide +kernel
  exact apart (List.suffix_or_suffix_of_suffix one two)

end Operation

namespace EndpointConfig

open Url UrlPath

theorem check_ok {config : EndpointConfig} (valid : config.check = .ok ()) :
    ∃ url, Url.ofText config.base = .ok url ∧ url.scheme ∈ schemes := by
  unfold check at valid
  split at valid
  · cases valid
  · rename_i url read
    split at valid
    · cases valid
    · rename_i web
      exact ⟨url, read, not_not.mp web⟩

theorem kind_of_schemes {scheme : List Char} (web : scheme ∈ schemes) :
    SchemeKind.ofScheme scheme = .web := by
  have each : ∀ scheme ∈ schemes, SchemeKind.ofScheme scheme = .web := by decide +kernel
  exact each scheme web

variable {config : EndpointConfig} {url : Url}

theorem clean_address (operation : Operation) :
    clean (config.address operation).toList =
      shown (Text.dropTrailing (· == '/') config.base.toList) ++
        renderSegments operation.segments := by
  have nonempty : renderSegments operation.segments ≠ [] := List.cons_ne_nil _ _
  have visible : (renderSegments operation.segments).all (32 < ·.toNat) = true := by
    cases operation <;> decide +kernel
  rw [address, withoutSlashes, String.toList_append, String.toList_ofList, operation.path_eq]
  exact clean_append _ nonempty (solid_of_visible visible)

/-- How the base and the addresses of the operations are read: alike up to where they part. -/
structure Layout (config : EndpointConfig) (page : Url) (front text slashes blanks : List Char) :
    Prop where
  parted : Parted config.base.toList front slashes blanks
  base : readWeb page.scheme (text ++ slashes) = .ok page
  address (operation : Operation) : Url.ofText (config.address operation) =
    readWeb page.scheme (text ++ blanks ++ renderSegments operation.segments)
  bare : EndsInAuthority config.base.toList ↔ Inside (text ++ slashes)

theorem exists_layout (read : Url.ofText config.base = .ok url) (web : url.scheme ∈ schemes) :
    ∃ front text slashes blanks, config.Layout url front text slashes blanks := by
  unfold Url.ofText Url.read at read
  split at read
  · cases read
  · rename_i scheme behind split
    obtain rfl := readBehind_scheme read
    have kind := kind_of_schemes web
    obtain ⟨name, named, renamed⟩ := splitScheme_some split
    have nonempty : clean config.base.toList ≠ [] := by simp [named]
    obtain ⟨_, slashes, blanks, parted⟩ := exists_parted nonempty
    obtain ⟨text, rfl, rfl⟩ := scheme_before parted.slash (parted.cleaned.symm.trans named)
    have started := authority_before kind parted.slash read
    have goesOn : ∀ more, (text ++ more).dropWhile (isSlash .web) =
        text.dropWhile (isSlash .web) ++ more := by
      intro more
      rw [List.dropWhile_append, if_neg (by simpa using started)]
    refine ⟨_, text.dropWhile (isSlash .web), slashes, blanks, parted, ?_, ?_, ?_⟩
    · rwa [readBehind_web kind, goesOn] at read
    · intro operation
      have address : clean (config.address operation).toList =
          name ++ ':' :: (text ++ (blanks ++ renderSegments operation.segments)) := by
        rw [clean_address, parted.goes]
        simp
      rw [Url.ofText, Url.read, address, renamed]
      exact (readBehind_web kind _).trans (by rw [goesOn, List.append_assoc])
    · rw [← goesOn]
      constructor
      · rintro ⟨_, behind, again, bare⟩
        cases split.symm.trans again
        exact bare
      · exact fun bare => ⟨_, _, split, bare⟩

/-- The operation is sent to the scheme and the authority of the host page's address, which includes its
host and its port, and to a path that ends in its own. -/
structure Sends (config : EndpointConfig) (page : Url) (operation : Operation) (target : Url) :
    Prop where
  address : Url.ofText (config.address operation) = .ok target
  scheme : target.scheme = page.scheme
  authority : target.authority = page.authority
  path : operation.path.toList <:+ target.renderPath

/-- All operations are sent to their places below the host page, which are three different paths. -/
def Reaches (config : EndpointConfig) (page : Url) : Prop :=
  ∃ target : Operation → Url, (∀ operation, config.Sends page operation (target operation)) ∧
    ∀ operation other, operation ≠ other →
      (target operation).renderPath ≠ (target other).renderPath

theorem Reaches.of_sends {page : Url}
    (sends : ∀ operation, ∃ target, config.Sends page operation target) : config.Reaches page := by
  choose target sends using sends
  refine ⟨target, sends, fun operation other apart same => apart ?_⟩
  exact Operation.eq_of_suffix (sends operation).path (same ▸ (sends other).path)

theorem outside_segments (operation : Operation) : Outside (renderSegments operation.segments) := by
  rintro c ⟨⟩
  rfl

section Open
variable {scheme text slashes blanks : List Char} (web : SchemeKind.ofScheme scheme = .web)

/-- Where something follows the authority of the base, or nothing that counts would come before the path
of an operation, the addresses have the same authority. -/
theorem addresses_of_open (slash : ∀ c ∈ slashes, c = '/')
    (read : readWeb scheme (text ++ slashes) = .ok url)
    (further : text.dropWhile (!endsAuthority .web ·) ≠ [] ∨ blanks = []) :
    let rest := text.dropWhile (!endsAuthority .web ·)
    ∃ authority, url = ofWeb scheme authority (rest ++ slashes) ∧
      ∀ operation : Operation,
        readWeb scheme (text ++ blanks ++ renderSegments operation.segments) =
          .ok (ofWeb scheme authority (rest ++ (blanks ++ renderSegments operation.segments))) := by
  intro rest
  have outside : Outside rest := outside_dropWhile text
  have outsideSlashes : Outside slashes := by
    intro c first
    rw [slash c (List.mem_of_head? first)]
    rfl
  rw [readWeb_append (outside.append outsideSlashes)] at read
  cases split : splitAuthority scheme (text.takeWhile (!endsAuthority .web ·)) with
  | error problem =>
      rw [split] at read
      cases read
  | ok result =>
      rw [split] at read
      refine ⟨result.1, (Except.ok.inj read).symm, fun operation => ?_⟩
      have goesOn : Outside (rest ++ (blanks ++ renderSegments operation.segments)) := by
        rcases further with something | rfl
        · exact outside.append_of_ne_nil something _
        · exact outside.append (outside_segments operation)
      rw [List.append_assoc, readWeb_append goesOn, split]
      rfl

include web

/-- A query or a fragment swallows the path of an operation. -/
theorem renderPath_swallowed {authority : Authority} {rest : List Char} {mark : Char}
    (member : mark ∈ rest) (ends : endsPath mark = true) (more : List Char) :
    (ofWeb scheme authority (rest ++ more)).renderPath =
      (ofWeb scheme authority rest).renderPath := by
  rw [ofWeb_renderPath _ _ _ web, ofWeb_renderPath _ _ _ web,
    belowRoot_append (List.ne_nil_of_mem member), List.takeWhile_append, if_neg]
  intro whole
  have all := List.takeWhile_eq_self_iff.mp
    (List.IsPrefix.eq_of_length (List.takeWhile_prefix _) whole)
  have none := mem_belowRoot_iff.mp (fun c member => by simpa using all c member) mark member
  cases ends.symm.trans none

theorem path_below {authority : Authority} {rest : List Char}
    (plain : ∀ c ∈ rest, endsPath c = false) (operation : Operation) :
    operation.path.toList <:+
      (ofWeb scheme authority (rest ++ renderSegments operation.segments)).renderPath := by
  have below : (renderSegments operation.segments).all (!endsPath ·) = true := by
    cases operation <;> decide +kernel
  have segments : ∀ c ∈ renderSegments operation.segments, endsPath c = false := by
    simpa using below
  have all := mem_belowRoot_iff.mpr (List.forall_mem_append.mpr ⟨plain, segments⟩)
  rw [ofWeb_renderPath _ _ _ web, List.takeWhile_eq_self_iff.mpr (by simpa using all),
    operation.path_eq]
  exact read_segments operation.segments_kept (List.cons_ne_nil _ _) rest

variable {page : Url} {authority : Authority} {rest : List Char}
  (sent : ∀ operation : Operation, Url.ofText (config.address operation) =
    .ok (ofWeb scheme authority (rest ++ (blanks ++ renderSegments operation.segments))))
include sent

/-- No query and no fragment stands before the paths of operations that reach their places: else all
operations have one path, which would end in that of each. -/
theorem plain_of_reaches (reaches : config.Reaches page) : ∀ c ∈ rest, endsPath c = false := by
  obtain ⟨target, sends, _⟩ := reaches
  intro mark member
  by_contra ends
  have swallowed : ∀ operation,
      (target operation).renderPath = (ofWeb scheme authority rest).renderPath := by
    intro operation
    rw [← Except.ok.inj ((sent operation).symm.trans (sends operation).address)]
    exact renderPath_swallowed web member (by simpa using ends) _
  have save := swallowed .save ▸ (sends .save).path
  have remove := swallowed .remove ▸ (sends .remove).path
  cases Operation.eq_of_suffix save remove

theorem reaches_of_plain (same : scheme = page.scheme ∧ some authority = page.authority)
    (plain : ∀ c ∈ rest, endsPath c = false) (controls : ∀ c ∈ blanks, c ≤ ' ') :
    config.Reaches page := by
  have ending : ∀ c ∈ rest ++ blanks, endsPath c = false := by
    refine List.forall_mem_append.mpr ⟨plain, fun c member => ?_⟩
    exact Text.control_cases (controls c member) (p := fun c => endsPath c = false) (by decide)
  refine Reaches.of_sends fun operation => ⟨_, sent operation, ?_, ?_, ?_⟩
  · exact (ofWeb_same ..).1.trans same.1
  · exact (ofWeb_same ..).2.trans same.2
  · rw [← List.append_assoc]
    exact path_below web ending operation

end Open

variable {page : Url} {front text slashes blanks : List Char}
  (layout : config.Layout page front text slashes blanks)
  (web : SchemeKind.ofScheme page.scheme = .web)
include layout web

/-- Right behind the authority, what counted for nothing in the base makes the addresses none. -/
theorem Layout.not_reaches (inside : Inside text) (some : blanks ≠ []) : ¬ config.Reaches page := by
  rintro ⟨target, sends, _⟩
  have address := (layout.address .save).symm.trans (sends .save).address
  exact readWeb_control web inside (outside_segments _) some layout.parted.control _ address

theorem Layout.reaches_iff_plain
    (further : text.dropWhile (!endsAuthority .web ·) ≠ [] ∨ blanks = []) :
    config.Reaches page ↔ page.query = none ∧ page.fragment = none := by
  obtain ⟨authority, same, sent⟩ := addresses_of_open layout.parted.slash layout.base further
  have addresses := fun operation => (layout.address operation).trans (sent operation)
  have scheme_same := ofWeb_same page.scheme authority
    (text.dropWhile (!endsAuthority .web ·) ++ slashes)
  have clear := ofWeb_none_iff page.scheme authority
    (text.dropWhile (!endsAuthority .web ·) ++ slashes)
  rw [← same] at clear scheme_same
  rw [clear, List.forall_mem_append]
  constructor
  · intro reaches
    refine ⟨plain_of_reaches web addresses reaches, fun c member => ?_⟩
    rw [layout.parted.slash c member]
    rfl
  · rintro ⟨plain, _⟩
    exact reaches_of_plain web addresses ⟨rfl, scheme_same.2.symm⟩ plain layout.parted.control

omit layout web

/-- A configuration that passes its check sends every operation to its place below the host page exactly
if the base has no query and no fragment, and does not end in spaces or controls right behind its
authority. -/
theorem reaches_iff {config : EndpointConfig} (valid : config.check = .ok ()) :
    ∃ page, Url.ofText config.base = .ok page ∧
      (config.Reaches page ↔ page.query = none ∧ page.fragment = none ∧
        ¬ (EndsBlank config.base.toList ∧ EndsInAuthority config.base.toList)) := by
  obtain ⟨page, read, web⟩ := check_ok valid
  have kind := kind_of_schemes web
  obtain ⟨front, text, slashes, blanks, layout⟩ := exists_layout read web
  refine ⟨page, read, ?_⟩
  rw [layout.parted.blank, layout.bare]
  by_cases closed : Inside text ∧ blanks ≠ []
  · obtain ⟨inside, some⟩ := closed
    obtain rfl := layout.parted.either.resolve_right some
    refine iff_of_false (layout.not_reaches kind inside some) ?_
    rintro ⟨_, _, neither⟩
    exact neither ⟨some, by rwa [List.append_nil]⟩
  · have further : text.dropWhile (!endsAuthority .web ·) ≠ [] ∨ blanks = [] := by
      by_contra neither
      obtain ⟨empty, some⟩ := not_or.mp neither
      refine closed ⟨fun c member => ?_, some⟩
      simpa using List.dropWhile_eq_nil_iff.mp (not_not.mp empty) c member
    have apart : ¬ (blanks ≠ [] ∧ Inside (text ++ slashes)) := by
      rintro ⟨some, inside⟩
      exact closed ⟨fun c member => inside c (List.mem_append_left _ member), some⟩
    rw [layout.reaches_iff_plain kind further]
    simp only [apart, not_false_eq_true, and_true]

/-- The base may end in a slash behind a port and a context. -/
theorem reaches_below_context :
    let config := EndpointConfig.ofBase "https://[::1]:8443/xmlui/" "CAT"
    config.check = .ok () ∧ ∃ page, Url.ofText config.base = .ok page ∧ config.Reaches page := by
  intro config
  have checked : config.check.isOk := by decide +kernel
  have valid := Client.eq_ok_of_isOk checked
  obtain ⟨page, read, iff⟩ := reaches_iff valid
  have none : (Url.ofText config.base).toOption.map (fun page => (page.query, page.fragment)) =
      some (none, none) := by
    decide +kernel
  rw [read] at none
  obtain ⟨query, fragment⟩ := Prod.mk.inj (Option.some.inj none)
  refine ⟨valid, page, read, iff.mpr ⟨query, fragment, ?_⟩⟩
  rintro ⟨⟨c, last, control⟩, _⟩
  have slash : (config.base.toList.filter counts).getLast? = some '/' := by decide +kernel
  cases slash.symm.trans last
  exact absurd control (by decide)

/-- With a query in the base all operations are sent to one path. -/
theorem query_swallows_paths :
    let config := EndpointConfig.ofBase "http://[::1]/xmlui?lang=en" "CAT"
    config.check = .ok () ∧
      (∀ operation, (Url.ofText (config.address operation)).toOption.map Url.renderPath =
        some "/xmlui".toList) ∧
      ∀ page, Url.ofText config.base = .ok page → ¬ config.Reaches page := by
  intro config
  have checked : config.check.isOk := by decide +kernel
  have paths : ∀ operation, (Url.ofText (config.address operation)).toOption.map Url.renderPath =
      some "/xmlui".toList := by
    intro operation
    cases operation <;> decide +kernel
  refine ⟨Client.eq_ok_of_isOk checked, paths, ?_⟩
  rintro page _ ⟨target, sends, _⟩
  have path := paths .save
  rw [(sends .save).address] at path
  have below := (sends .save).path
  rw [Option.some.inj path] at below
  exact absurd below (by decide +kernel)

end EndpointConfig

end CatalogueEditor
