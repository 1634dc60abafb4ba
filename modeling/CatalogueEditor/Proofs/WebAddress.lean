import Mathlib.Data.List.TakeWhile
import CatalogueEditor.Proofs.DomainControls
import CatalogueEditor.Url.Read

/-!
How addresses of the web are read, part by part. What stands behind the authority does not change how the
authority is read, and an authority does not end in a space or a control. The last segments of a path
are kept as they are written if nothing in them has to be encoded.
-/

namespace CatalogueEditor

section Results
variable {ε α β : Type} {result : Except ε α} {b : β}

theorem exists_ok_of_bind {f : α → Except ε β} (made : result.bind f = .ok b) :
    ∃ a, result = .ok a ∧ f a = .ok b := by
  cases result with
  | error cause => cases made
  | ok a => exact ⟨a, rfl, made⟩

theorem exists_ok_of_map {f : α → β} (made : result.map f = .ok b) :
    ∃ a, result = .ok a ∧ f a = b := by
  cases result with
  | error cause => cases made
  | ok a => exact ⟨a, rfl, Except.ok.inj made⟩

end Results

namespace Url

open UrlPath

/-! The authority. -/

/-- The text holds nothing that ends an authority. -/
def Inside (text : List Char) : Prop :=
  ∀ c ∈ text, endsAuthority .web c = false

/-- The text is empty, or starts with what ends an authority. -/
def Outside (text : List Char) : Prop :=
  ∀ c, text.head? = some c → endsAuthority .web c = true

theorem endsAuthority_cases {c : Char} (ends : endsAuthority .web c = true) :
    c = '/' ∨ c = '\\' ∨ c = '?' ∨ c = '#' := by
  simpa [endsAuthority, isSlash, endsPath, or_assoc] using ends

theorem inside_takeWhile (text : List Char) : Inside (text.takeWhile (!endsAuthority .web ·)) := by
  intro c member
  simpa using List.all_eq_true.mp List.all_takeWhile c member

theorem outside_dropWhile (text : List Char) : Outside (text.dropWhile (!endsAuthority .web ·)) := by
  intro c first
  simpa [first] using List.head?_dropWhile_not (!endsAuthority .web ·) text

theorem Inside.of_suffix {text tail : List Char} (inside : Inside text) (suffix : tail <:+ text) :
    Inside tail :=
  fun c member => inside c (suffix.subset member)

theorem Outside.append {text more : List Char} (outside : Outside text) (further : Outside more) :
    Outside (text ++ more) := by
  cases text with
  | nil => exact further
  | cons c rest => exact outside

theorem Outside.append_of_ne_nil {text : List Char} (outside : Outside text) (nonempty : text ≠ [])
    (more : List Char) : Outside (text ++ more) := by
  obtain ⟨c, rest, rfl⟩ := List.exists_cons_of_ne_nil nonempty
  exact outside

/-- Where a mark is, what stands behind the last one is not all. -/
theorem length_behind_lt {mark : Char} {text : List Char} (member : mark ∈ text) :
    (text.reverse.takeWhile (· != mark)).length < text.length := by
  by_contra whole
  have all : text.reverse.takeWhile (· != mark) = text.reverse :=
    List.IsPrefix.eq_of_length_le (List.takeWhile_prefix _) (by simpa using whole)
  have none := List.all_eq_true.mp (all ▸ List.all_takeWhile) mark (List.mem_reverse.mpr member)
  simp at none

section Authority
variable {body rest : List Char} (inside : Inside body) (outside : Outside rest)
include inside outside

theorem takeWhile_inside : (body ++ rest).takeWhile (!endsAuthority .web ·) = body :=
  Markup.takeWhile_run (List.all_eq_true.mpr fun c member => by simp [inside c member])
    fun c first => by simp [outside c first]

theorem dropWhile_inside : (body ++ rest).dropWhile (!endsAuthority .web ·) = rest :=
  Markup.dropWhile_run (List.all_eq_true.mpr fun c member => by simp [inside c member])
    fun c first => by simp [outside c first]

/-- The user is the same whatever follows, unless there is no host. -/
theorem splitUser_append :
    splitUser .web (body ++ rest) = (splitUser .web body).map (Prod.map id (· ++ rest)) ∨
      ∃ user, splitUser .web body = .ok (user, []) ∧
        splitUser .web (body ++ rest) = .error .emptyHost := by
  have alone : body.takeWhile (!endsAuthority .web ·) = body :=
    List.takeWhile_eq_self_iff.mpr fun c member => by simp [inside c member]
  unfold splitUser
  rw [takeWhile_inside inside outside, alone]
  by_cases named : '@' ∈ body
  · simp only [if_pos named]
    have before := length_behind_lt named
    generalize found : body.take (body.length -
      (body.reverse.takeWhile (· != '@')).reverse.length - 1) = user
    have short : user.length + 1 ≤ body.length := by
      rw [← found, List.length_take, List.length_reverse]
      omega
    rw [List.drop_append_of_le_length short]
    have left : Inside (body.drop (user.length + 1)) := inside.of_suffix (List.drop_suffix _ _)
    generalize body.drop (user.length + 1) = left' at left
    cases left' with
    | cons c left' =>
        have first : endsAuthority .web c = false := left c List.mem_cons_self
        left
        simp [first, Except.map]
    | nil =>
        by_cases bare : user = [] ∧ rest.head?.any (endsAuthority .web)
        · right
          exact ⟨_, if_neg (by simp), if_pos bare⟩
        · left
          rw [List.nil_append, if_neg bare, if_neg (by simp)]
          rfl
  · simp only [if_neg named]
    exact .inl rfl

theorem splitHost_append (bracketed : Bool) :
    splitHost .web bracketed (body ++ rest) =
      ((splitHost .web bracketed body).1, (splitHost .web bracketed body).2 ++ rest) := by
  induction body generalizing bracketed with
  | nil =>
      cases rest with
      | nil => rfl
      | cons c rest => simp [splitHost, outside c rfl]
  | cons c body ih =>
      rw [List.cons_append, splitHost, splitHost]
      split
      · rfl
      · rw [ih (inside.of_suffix (List.suffix_cons c body))]

omit inside in
theorem splitPort_append (scheme : List Char) :
    splitPort scheme (body ++ rest) = (splitPort scheme body).map (Prod.map id (· ++ rest)) := by
  have whole : body ++ rest =
      body.takeWhile Char.isDigit ++ (body.dropWhile Char.isDigit ++ rest) := by
    rw [← List.append_assoc, List.takeWhile_append_dropWhile]
  have ends : ∀ c, (body.dropWhile Char.isDigit ++ rest).head? = some c → c.isDigit = false := by
    intro c first
    cases left : body.dropWhile Char.isDigit with
    | nil =>
        rw [left, List.nil_append] at first
        rcases endsAuthority_cases (outside c first) with rfl | rfl | rfl | rfl <;> rfl
    | cons d left' =>
        rw [left] at first
        cases first
        have stop := List.head?_dropWhile_not Char.isDigit body
        simpa [left] using stop
  have digits : (body ++ rest).takeWhile Char.isDigit = body.takeWhile Char.isDigit := by
    rw [whole]
    exact Markup.takeWhile_run List.all_takeWhile ends
  have behind : (body ++ rest).dropWhile Char.isDigit = body.dropWhile Char.isDigit ++ rest := by
    rw [whole]
    exact Markup.dropWhile_run List.all_takeWhile ends
  have stops : (body.dropWhile Char.isDigit ++ rest).head?.any (!endsAuthority .web ·) =
      (body.dropWhile Char.isDigit).head?.any (!endsAuthority .web ·) := by
    cases body.dropWhile Char.isDigit with
    | cons c left => rfl
    | nil =>
        cases rest with
        | nil => rfl
        | cons c rest => simp [outside c rfl]
  unfold splitPort
  simp only [digits, behind, stops]
  split
  · rfl
  · split <;> rfl

end Authority

theorem splitUser_suffix {kind : SchemeKind} {text left : List Char} {user : List Char × List Char}
    (split : splitUser kind text = .ok (user, left)) : left <:+ text := by
  unfold splitUser at split
  dsimp only at split
  split at split
  · split at split
    · cases split
    · cases split
      exact List.drop_suffix _ _
  · cases split
    exact List.suffix_refl _

theorem splitHost_eq (kind : SchemeKind) (bracketed : Bool) (text : List Char) :
    (splitHost kind bracketed text).1 ++ (splitHost kind bracketed text).2 = text := by
  fun_induction splitHost kind bracketed text with
  | case1 => rfl
  | case2 => rfl
  | case3 bracketed c rest stays host left split ih =>
      rw [split] at ih
      exact congrArg (c :: ·) ih

/-- The authority with its host, and with the port that the text behind the host may start with. -/
def withPort (scheme : List Char) (user : List Char × List Char) (host : Option Host) :
    List Char → Except UrlProblem (Authority × List Char)
  | ':' :: text =>
      if host = none then .error .emptyHost
      else (splitPort scheme text).map fun port => (⟨user.1, user.2, host, port.1⟩, port.2)
  | text =>
      if host = none ∧ (user.1 ≠ [] ∨ user.2 ≠ []) then .error .emptyHost
      else .ok (⟨user.1, user.2, host, none⟩, text)

theorem withPort_none (scheme : List Char) (user : List Char × List Char) (host : Option Host)
    {text : List Char} (portless : text.head? ≠ some ':') :
    withPort scheme user host text =
      if host = none ∧ (user.1 ≠ [] ∨ user.2 ≠ []) then .error .emptyHost
      else .ok (⟨user.1, user.2, host, none⟩, text) := by
  unfold withPort
  split
  · exact absurd rfl portless
  · rfl

section Authority
variable {scheme : List Char} (web : SchemeKind.ofScheme scheme = .web)
include web

/-- The parts of an authority on the web, one behind the other. -/
theorem splitAuthority_web (text : List Char) :
    splitAuthority scheme text =
      (splitUser .web text).bind fun (user, text) =>
        (readHost .web (splitHost .web false text).1).bind fun host =>
          withPort scheme user host (splitHost .web false text).2 := by
  unfold splitAuthority
  simp only [web, bind]
  congr 1
  funext ⟨⟨user, password⟩, text⟩
  dsimp only
  congr 1
  funext host
  generalize (splitHost .web false text).2 = left
  split
  · rename_i left
    simp only [withPort]
    split
    · rfl
    · cases splitPort scheme left <;> rfl
  · rename_i other
    rw [withPort_none]
    · rfl
    · intro colon
      obtain ⟨rest, rfl⟩ := List.head?_eq_some_iff.mp colon
      exact other rest rfl

variable {body rest : List Char} (inside : Inside body) (outside : Outside rest)
include inside outside

omit web inside in
theorem withPort_append (user : List Char × List Char) (host : Option Host) :
    withPort scheme user host (body ++ rest) =
      (withPort scheme user host body).map (Prod.map id (· ++ rest)) := by
  have first : rest.head? ≠ some ':' := fun colon => by
    simpa using endsAuthority_cases (outside _ colon)
  by_cases colon : body.head? = some ':'
  · obtain ⟨text, rfl⟩ := List.head?_eq_some_iff.mp colon
    simp only [withPort, List.cons_append, splitPort_append outside scheme]
    split
    · rfl
    · cases splitPort scheme text <;> rfl
  · have neither : (body ++ rest).head? ≠ some ':' := by
      cases body with
      | nil => exact first
      | cons c text => exact colon
    rw [withPort_none _ _ _ neither, withPort_none _ _ _ colon]
    split <;> rfl

/-- An authority is the same whatever follows. -/
theorem splitAuthority_append :
    splitAuthority scheme (body ++ rest) =
      (splitAuthority scheme body).map (Prod.map id (· ++ rest)) := by
  rw [splitAuthority_web web, splitAuthority_web web]
  rcases splitUser_append inside outside with same | ⟨user, alone, missing⟩
  · rw [same]
    cases found : splitUser .web body with
    | error problem => rfl
    | ok split =>
        have within := inside.of_suffix (splitUser_suffix found)
        simp only [Except.map, Except.bind, Prod.map, id, splitHost_append within outside]
        cases readHost .web (splitHost .web false split.2).1 with
        | error problem => rfl
        | ok host => exact withPort_append outside split.1 host
  · rw [alone, missing]
    rfl

end Authority

theorem splitHost_stops {kind : SchemeKind} {bracketed : Bool} {text : List Char} {c : Char}
    (first : (splitHost kind bracketed text).2.head? = some c) :
    endsAuthority kind c = true ∨ c = ':' := by
  fun_induction splitHost kind bracketed text with
  | case1 => cases first
  | case2 bracketed d rest stops =>
      cases first
      simp only [Bool.or_eq_true, Bool.and_eq_true, beq_iff_eq] at stops
      exact stops.imp_right And.left
  | case3 bracketed d rest stays host left split ih =>
      rw [split] at ih
      exact ih first

theorem splitPort_ok {scheme text left : List Char} {port : Option Nat}
    (split : splitPort scheme text = .ok (port, left)) :
    left = text.dropWhile Char.isDigit ∧ Outside left := by
  unfold splitPort at split
  dsimp only at split
  split at split
  · cases split
  · split at split
    · cases split
    · rename_i within
      cases split
      refine ⟨rfl, fun c first => ?_⟩
      simp only [first, Option.any_some, Bool.not_eq_true', not_or, Bool.not_eq_false] at within
      exact within.2

theorem Inside.behind_host {body text : List Char} {user : List Char × List Char}
    (inside : Inside body) (named : splitUser .web body = .ok (user, text)) :
    Inside (splitHost .web false text).2 := by
  have suffix : (splitHost .web false text).2 <:+ text := ⟨_, splitHost_eq .web false text⟩
  exact inside.of_suffix (suffix.trans (splitUser_suffix named))

section Whole
variable {scheme body left : List Char} {authority : Authority}
  (web : SchemeKind.ofScheme scheme = .web) (inside : Inside body)
  (split : splitAuthority scheme body = .ok (authority, left))
include web inside split

/-- Behind the host nothing is left but a port. -/
theorem splitAuthority_parts :
    ∃ user text host, splitUser .web body = .ok (user, text) ∧
      readHost .web (splitHost .web false text).1 = .ok host ∧
      ((splitHost .web false text).2 = [] ∧ left = [] ∨
        ∃ port digits, (splitHost .web false text).2 = ':' :: digits ∧
          splitPort scheme digits = .ok (port, left)) := by
  rw [splitAuthority_web web] at split
  obtain ⟨⟨user, text⟩, named, split⟩ := exists_ok_of_bind split
  obtain ⟨host, read, split⟩ := exists_ok_of_bind split
  refine ⟨user, text, host, named, read, ?_⟩
  by_cases colon : (splitHost .web false text).2.head? = some ':'
  · obtain ⟨digits, behind⟩ := List.head?_eq_some_iff.mp colon
    simp only [behind, withPort] at split
    split at split
    · cases split
    · obtain ⟨⟨port, left'⟩, numbered, same⟩ := exists_ok_of_map split
      cases same
      exact .inr ⟨port, digits, behind, numbered⟩
  · have nothing : (splitHost .web false text).2 = [] := by
      by_contra something
      obtain ⟨c, first⟩ := Option.ne_none_iff_exists'.mp (mt List.head?_eq_none_iff.mp something)
      rcases splitHost_stops first with ends | rfl
      · have stays := inside.behind_host named c (List.mem_of_head? first)
        cases ends.symm.trans stays
      · exact colon first
    rw [withPort_none _ _ _ colon, nothing] at split
    split at split
    · cases split
    · cases split
      exact .inl ⟨nothing, rfl⟩

/-- Nothing is left of the text of an authority. -/
theorem splitAuthority_left : left = [] := by
  obtain ⟨user, text, host, named, _, ⟨_, nothing⟩ | ⟨port, digits, behind, split⟩⟩ :=
    splitAuthority_parts web inside split
  · exact nothing
  · obtain ⟨rfl, outside⟩ := splitPort_ok split
    by_contra something
    obtain ⟨c, first⟩ := Option.ne_none_iff_exists'.mp (mt List.head?_eq_none_iff.mp something)
    have member := (List.dropWhile_suffix _).subset (List.mem_of_head? first)
    have stays := inside.behind_host named c (behind ▸ List.mem_cons_of_mem _ member)
    cases (outside c first).symm.trans stays

/-- The text of an authority does not end in a space or a control. -/
theorem splitAuthority_control {text : List Char} {c : Char} (last : body = text ++ [c]) :
    ¬ c ≤ ' ' := by
  intro control
  have nothing := splitAuthority_left web inside split
  obtain ⟨user, named, host, split, read, behind⟩ := splitAuthority_parts web inside split
  have suffix := splitUser_suffix split
  rw [last, List.suffix_concat_iff] at suffix
  have whole := splitHost_eq .web false named
  rcases suffix with rfl | ⟨front, rfl, _⟩
  · cases read
  rcases behind with ⟨alone, _⟩ | ⟨port, digits, behind, numbered⟩
  · rw [alone, List.append_nil] at whole
    have reads : (if front ++ [c] = [] then .error .emptyHost
        else (Host.read (front ++ [c])).map some) = Except.ok host := whole ▸ read
    rw [if_neg (by simp)] at reads
    obtain ⟨host, found, _⟩ := exists_ok_of_map reads
    exact Host.read_control control front host found
  · obtain ⟨left, _⟩ := splitPort_ok numbered
    have all := List.dropWhile_eq_nil_iff.mp (left.symm.trans nothing)
    rw [behind] at whole
    rcases List.eq_nil_or_concat digits with rfl | ⟨init, final, rfl⟩
    · have same := (List.append_inj' whole rfl).2
      exact Text.control_cases control (p := (· ≠ ':')) (by decide) (List.singleton_injective same).symm
    · rw [List.concat_eq_append, ← List.cons_append, ← List.append_assoc] at whole
      obtain rfl : final = c := List.singleton_injective (List.append_inj' whole rfl).2
      exact absurd (all final (by simp)) (Text.control_cases control (p := fun c => ¬ c.isDigit) (by decide))

end Whole

/-! The path. -/

/-- Behind the slash that may stand before a path on the web. -/
def belowRoot : List Char → List Char
  | '/' :: rest => rest
  | '\\' :: rest => rest
  | text => text

theorem belowRoot_of_plain {text : List Char} (slash : ∀ rest, text ≠ '/' :: rest)
    (backslash : ∀ rest, text ≠ '\\' :: rest) : belowRoot text = text := by
  unfold belowRoot
  split
  · exact absurd rfl (slash _)
  · exact absurd rfl (backslash _)
  · rfl

/-- The address of an authority with the path, the query and the fragment behind it. -/
def ofWeb (scheme : List Char) (authority : Authority) (text : List Char) : Url :=
  { ofScheme scheme with authority := some authority }.withPath [] (belowRoot text)

theorem withRootedPath_web {url : Url} (web : SchemeKind.ofScheme url.scheme = .web)
    (text : List Char) : url.withRootedPath text = url.withPath [] (belowRoot text) := by
  unfold withRootedPath
  rw [web]
  split
  · rfl
  · rename_i other
    cases other
  · rename_i other
    cases other
  · rfl
  · rename_i slash backslash _ _
    rw [belowRoot_of_plain slash backslash]

/-- Reads what stands behind the slashes of an address on the web: its authority and the rest. -/
def readWeb (scheme text : List Char) : Except UrlProblem Url :=
  (splitAuthority scheme (text.takeWhile (!endsAuthority .web ·))).map fun result =>
    ofWeb scheme result.1 (text.dropWhile (!endsAuthority .web ·))

section ReadWeb
variable {scheme : List Char} (web : SchemeKind.ofScheme scheme = .web)
include web

theorem readBehind_web (text : List Char) :
    readBehind scheme text = readWeb scheme (text.dropWhile (isSlash .web)) := by
  have reads : readBehind scheme text = readAuthority scheme (text.dropWhile (isSlash .web)) := by
    unfold readBehind
    rw [web]
  rw [reads]
  generalize text.dropWhile (isSlash .web) = text
  have inside := inside_takeWhile text
  have outside := outside_dropWhile text
  have appended := splitAuthority_append web inside outside
  rw [List.takeWhile_append_dropWhile] at appended
  rw [readWeb, readAuthority, appended]
  cases split : splitAuthority scheme (text.takeWhile (!endsAuthority .web ·)) with
  | error problem => rfl
  | ok result =>
      obtain ⟨authority, left⟩ := result
      obtain rfl := splitAuthority_left web inside split
      exact congrArg Except.ok (withRootedPath_web web _)

theorem readWeb_nil : readWeb scheme [] = .error .emptyHost := by
  rw [readWeb, List.takeWhile_nil, splitAuthority_web web]
  rfl

omit web in
theorem readWeb_append {text more : List Char}
    (outside : Outside (text.dropWhile (!endsAuthority .web ·) ++ more)) :
    readWeb scheme (text ++ more) =
      (splitAuthority scheme (text.takeWhile (!endsAuthority .web ·))).map fun result =>
        ofWeb scheme result.1 (text.dropWhile (!endsAuthority .web ·) ++ more) := by
  have whole : text ++ more = text.takeWhile (!endsAuthority .web ·) ++
      (text.dropWhile (!endsAuthority .web ·) ++ more) := by
    rw [← List.append_assoc, List.takeWhile_append_dropWhile]
  have inside := inside_takeWhile text
  rw [readWeb, whole, takeWhile_inside inside outside, dropWhile_inside inside outside]

/-- Where text ends in its authority, a space or a control cannot follow. -/
theorem readWeb_control {text blanks more : List Char} (inside : Inside text)
    (outside : Outside more) (nonempty : blanks ≠ []) (controls : ∀ c ∈ blanks, c ≤ ' ') (url : Url) :
    readWeb scheme (text ++ blanks ++ more) ≠ .ok url := by
  have within : Inside (text ++ blanks) := by
    intro c member
    rcases List.mem_append.mp member with early | late
    · exact inside c early
    · exact Text.control_cases (controls c late) (p := fun c => endsAuthority .web c = false)
        (by decide)
  rw [readWeb, takeWhile_inside within outside]
  cases split : splitAuthority scheme (text ++ blanks) with
  | error problem => exact nofun
  | ok result =>
      obtain rfl | ⟨init, last, rfl⟩ := List.eq_nil_or_concat blanks
      · exact absurd rfl nonempty
      · rw [List.concat_eq_append] at controls
        have whole : text ++ init.concat last = (text ++ init) ++ [last] := by
          rw [List.concat_eq_append, List.append_assoc]
        exact absurd (controls last (by simp)) (splitAuthority_control web within split whole)

end ReadWeb

theorem withEnding_same (url : Url) (text : List Char) :
    (url.withEnding text).scheme = url.scheme ∧ (url.withEnding text).authority = url.authority ∧
      (url.withEnding text).path = url.path := by
  unfold withEnding
  split <;> exact ⟨rfl, rfl, rfl⟩

theorem withEnding_none_iff {url : Url} (queryless : url.query = none) {text : List Char}
    (ends : ∀ c, text.head? = some c → endsPath c = true) :
    (url.withEnding text).query = none ∧ (url.withEnding text).fragment = none ↔ text = [] := by
  cases text with
  | nil => simp [withEnding, queryless]
  | cons c rest =>
      have mark := ends c rfl
      simp only [endsPath, Bool.or_eq_true, beq_iff_eq] at mark
      rcases mark with rfl | rfl <;> simp [withEnding]

theorem mem_belowRoot_iff {text : List Char} :
    (∀ c ∈ belowRoot text, endsPath c = false) ↔ ∀ c ∈ text, endsPath c = false := by
  unfold belowRoot
  split
  · simp [endsPath]
  · simp [endsPath]
  · rfl

theorem belowRoot_append {text : List Char} (nonempty : text ≠ []) (more : List Char) :
    belowRoot (text ++ more) = belowRoot text ++ more := by
  obtain ⟨c, rest, rfl⟩ := List.exists_cons_of_ne_nil nonempty
  rw [List.cons_append]
  by_cases slash : c = '/'
  · rw [slash]
    rfl
  by_cases backslash : c = '\\'
  · rw [backslash]
    rfl
  have stays : ∀ rest, belowRoot (c :: rest) = c :: rest := fun rest =>
    belowRoot_of_plain (fun _ same => slash (List.cons.inj same).1)
      fun _ same => backslash (List.cons.inj same).1
  rw [stays, stays, List.cons_append]

section OfWeb
variable (scheme : List Char) (authority : Authority) (text : List Char)

theorem ofWeb_same :
    (ofWeb scheme authority text).scheme = scheme ∧
      (ofWeb scheme authority text).authority = some authority :=
  let same := withEnding_same _ _
  ⟨same.1, same.2.1⟩

theorem ofWeb_renderPath (web : SchemeKind.ofScheme scheme = .web) :
    (ofWeb scheme authority text).renderPath =
      renderSegments (UrlPath.read .web [] ((belowRoot text).takeWhile (!endsPath ·))) := by
  have path : (ofWeb scheme authority text).path = .segments
      (UrlPath.read (SchemeKind.ofScheme scheme) [] ((belowRoot text).takeWhile (!endsPath ·))) :=
    (withEnding_same _ _).2.2
  rw [renderPath, path, web]

theorem ofWeb_none_iff :
    (ofWeb scheme authority text).query = none ∧ (ofWeb scheme authority text).fragment = none ↔
      ∀ c ∈ text, endsPath c = false := by
  rw [← mem_belowRoot_iff]
  refine (withEnding_none_iff rfl fun c first => ?_).trans ?_
  · simpa [first] using List.head?_dropWhile_not (!endsPath ·) (belowRoot text)
  · simp [List.dropWhile_eq_nil_iff]

end OfWeb

/-- A segment that is kept as it is written. -/
structure Kept (segment : List Char) : Prop where
  single : isSingleDot segment = false
  double : isDoubleDot segment = false
  encoded : Percent.encode keeps segment = segment
  whole : UrlPath.split .web segment = [segment]

section Segments
variable {segments : List (List Char)} (kept : ∀ segment ∈ segments, Kept segment)
include kept

theorem split_segments (text : List Char) :
    UrlPath.split .web (text ++ renderSegments segments) = UrlPath.split .web text ++ segments := by
  induction segments generalizing text with
  | nil => simp [renderSegments]
  | cons segment rest ih =>
      have here := kept segment List.mem_cons_self
      have later := ih fun other member => kept other (List.mem_cons_of_mem _ member)
      have apart : UrlPath.split .web (text ++ '/' :: segment) =
          UrlPath.split .web text ++ UrlPath.split .web segment := by
        simp only [UrlPath.split, List.map_append, List.map_cons]
        exact List.splitOn_append_cons_self _ _
      calc UrlPath.split .web (text ++ renderSegments (segment :: rest))
          = UrlPath.split .web ((text ++ '/' :: segment) ++ renderSegments rest) := by
            simp [renderSegments]
        _ = UrlPath.split .web (text ++ '/' :: segment) ++ rest := later _
        _ = UrlPath.split .web text ++ segment :: rest := by
            rw [apart, here.whole, List.append_assoc]
            rfl

omit kept in
theorem appendSegment_kept {segment : List Char} (kept : Kept segment) (before : List (List Char))
    (isLast : Bool) : appendSegment .web before segment isLast = before ++ [segment] := by
  simp [appendSegment, keepSegment, kept.single, kept.double, kept.encoded]

theorem appendAll_segments (before : List (List Char)) :
    appendAll .web before segments = before ++ segments := by
  induction segments generalizing before with
  | nil => simp [appendAll]
  | cons segment rest ih =>
      have here := appendSegment_kept (kept segment List.mem_cons_self) before
      have later := ih fun other member => kept other (List.mem_cons_of_mem _ member)
      cases rest with
      | nil => rw [appendAll, here]
      | cons next rest =>
          rw [appendAll, here, later, List.append_assoc]
          · rfl
          · exact nofun

/-- The last segments of a path stay, whatever is before them. -/
theorem appendAll_kept (nonempty : segments ≠ []) (before front : List (List Char)) :
    ∃ others, appendAll .web before (front ++ segments) = others ++ segments := by
  induction front generalizing before with
  | nil => exact ⟨before, appendAll_segments kept before⟩
  | cons first front ih =>
      obtain ⟨others, same⟩ := ih (appendSegment .web before first false)
      refine ⟨others, ?_⟩
      obtain ⟨next, rest, more⟩ := List.exists_cons_of_ne_nil
        (List.append_ne_nil_of_right_ne_nil front nonempty)
      rw [List.cons_append, more, appendAll, ← more, same]
      exact nofun

theorem read_segments (nonempty : segments ≠ []) (text : List Char) :
    renderSegments segments <:+
      renderSegments (UrlPath.read .web [] (belowRoot (text ++ renderSegments segments))) := by
  have parts : ∃ front,
      UrlPath.split .web (belowRoot (text ++ renderSegments segments)) = front ++ segments := by
    by_cases bare : text = []
    · obtain ⟨first, rest, rfl⟩ := List.exists_cons_of_ne_nil nonempty
      have later := split_segments fun other member => kept other (List.mem_cons_of_mem _ member)
      refine ⟨[], ?_⟩
      have below : belowRoot (text ++ renderSegments (first :: rest)) =
          first ++ renderSegments rest := by
        rw [bare]
        rfl
      rw [below, later, (kept first List.mem_cons_self).whole]
      rfl
    · exact ⟨_, by rw [belowRoot_append bare, split_segments kept]⟩
  obtain ⟨front, split⟩ := parts
  obtain ⟨others, whole⟩ := appendAll_kept kept nonempty [] front
  rw [UrlPath.read, split, whole]
  exact ⟨renderSegments others, List.flatMap_append.symm⟩

end Segments

end Url

end CatalogueEditor
