import CatalogueEditor.Proofs.Markup.Grammar

/-!
A fragment is accepted exactly if it derives from the grammar. The checker reads the fragment inside
a root element whose end tag follows it, with a stack of open elements; what it accepts from a stack
on is content that closes the elements of the stack one after the other. No piece reaches into the
end tag of the root, and no fragment closes the root itself.
-/

namespace CatalogueEditor.Markup

/-- Stacks of open elements: the root below, and elements with proper names above it. -/
inductive Rooted : List OpenElement → Prop
  | root : Rooted [root]
  | inside (element : OpenElement) (opened : List OpenElement) (named : isName element.name = true)
      (outer : Rooted opened) : Rooted (element :: opened)

/-- Text that closes all open elements but the last, each after content in its scope. -/
inductive Closing : List OpenElement → List Char → Prop
  | last (bottom : OpenElement) (text : List Char) (content : Content (scopeOf [bottom]) text) :
      Closing [bottom] text
  | outer (element : OpenElement) (opened : List OpenElement) (inner spaces rest : List Char)
      (content : Content (scopeOf (element :: opened)) inner)
      (blank : spaces.all isSpace = true) (later : Closing opened rest) :
      Closing (element :: opened)
        (inner ++ ("</".toList ++ (element.name ++ spaces) ++ ">".toList ++ rest))

theorem closeRoot_ne_nil : closeRoot ≠ [] := by decide

theorem root_named : isName root.name = true := by decide +kernel

theorem Rooted.innermost {opened : List OpenElement} (rooted : Rooted opened) :
    ∃ innermost outer, opened = innermost :: outer ∧ isName innermost.name = true ∧
      (outer = [] ∨ Rooted outer) := by
  cases rooted with
  | root => exact ⟨Markup.root, [], rfl, root_named, .inl rfl⟩
  | inside element outer named below => exact ⟨element, outer, rfl, named, .inr below⟩

variable {opened : List OpenElement} {fragment lexeme rest text : List Char} {found : Piece}

theorem Closing.prepend {item : List Char} (closing : Closing opened text)
    (grow : ∀ inner, Content (scopeOf opened) inner →
      (∀ c, inner.head? = some c → text.head? = some c) →
        Content (scopeOf opened) (item ++ inner)) : Closing opened (item ++ text) := by
  cases closing with
  | last bottom text content => exact .last bottom _ (grow text content fun _ => id)
  | outer element opened inner spaces rest content blank later =>
      rw [← List.append_assoc]
      refine .outer element opened _ spaces rest (grow inner content fun c starts => ?_) blank later
      cases inner with
      | nil => cases starts
      | cons d others => exact starts

/-! No piece reaches into the end tag of the root. -/

-- Its only closing bracket is its last character.
theorem closeRoot_bracket {part : List Char} (parts : closeRoot = part ++ rest)
    (ends : '>' ∈ part) : rest = [] := by
  have cut : cutAt ['>'] closeRoot = some ("</root".toList, []) := by decide
  obtain ⟨front, back, rfl, first⟩ := List.eq_append_cons_of_mem ends
  rw [List.append_assoc, List.cons_append] at parts
  rw [cutAt_single_iff.mpr ⟨parts, first⟩] at cut
  have behind : back ++ rest = [] := congrArg Prod.snd (Option.some.inj cut)
  exact (List.append_eq_nil_iff.mp behind).2

theorem split_fragment (whole : lexeme ++ rest = fragment ++ closeRoot) :
    (∃ after, fragment = lexeme ++ after ∧ rest = after ++ closeRoot) ∨
      ∃ part, part ≠ [] ∧ lexeme = fragment ++ part ∧ closeRoot = part ++ rest := by
  rcases List.append_eq_append_iff.mp whole with ⟨after, inside, tail⟩ | ⟨part, across, tail⟩
  · exact .inl ⟨after, inside, tail⟩
  · cases part with
    | nil =>
        refine .inl ⟨[], by simpa using across.symm, by simpa using tail.symm⟩
    | cons c others => exact .inr ⟨c :: others, by simp, across, tail⟩

theorem contained_text {body : List Char} (run : '<' ∉ body)
    (whole : body ++ rest = fragment ++ closeRoot) :
    ∃ after, fragment = body ++ after ∧ rest = after ++ closeRoot := by
  rcases split_fragment whole with inside | ⟨part, nonempty, rfl, tail⟩
  · exact inside
  · cases part with
    | nil => exact absurd rfl nonempty
    | cons c others =>
        have bracket : some '<' = some c := congrArg List.head? tail
        cases bracket
        simp at run

theorem split_markup {front : List Char} (ends : lexeme = front ++ ['>'])
    (whole : lexeme ++ rest = fragment ++ closeRoot) :
    (∃ after, fragment = lexeme ++ after ∧ rest = after ++ closeRoot) ∨
      (rest = [] ∧ lexeme = fragment ++ closeRoot) := by
  -- Markup that reaches into the end tag of the root has all of it.
  rcases split_fragment whole with inside | ⟨part, nonempty, rfl, tail⟩
  · exact .inl inside
  · have bracket : '>' ∈ part := by
      have last := congrArg List.getLast? ends
      rw [List.getLast?_append_of_ne_nil _ nonempty, List.getLast?_concat] at last
      exact List.mem_of_getLast? last
    obtain rfl := closeRoot_bracket tail bracket
    exact .inr ⟨rfl, by rw [tail, List.append_nil]⟩

theorem contained_mark {before : List Char} {c : Char} (shape : lexeme = before ++ [c, '>'])
    (other : c ≠ 't') (whole : lexeme ++ rest = fragment ++ closeRoot) :
    ∃ after, fragment = lexeme ++ after ∧ rest = after ++ closeRoot := by
  have ends : lexeme = before ++ [c] ++ ['>'] := by simp [shape]
  rcases split_markup ends whole with inside | ⟨_, across⟩
  · exact inside
  · have last : before ++ [c, '>'] = fragment ++ "</roo".toList ++ ['t', '>'] := by
      rw [← shape, across, List.append_assoc]
      rfl
    have same := (List.append_inj' last rfl).2
    exact absurd (List.cons.inj same).1 other

theorem comment_shape (body : List Char) : "<!--".toList ++ body ++ "-->".toList =
    "<!--".toList ++ body ++ ['-'] ++ ['-', '>'] := by simp

theorem cdata_shape (body : List Char) : "<![CDATA[".toList ++ body ++ "]]>".toList =
    "<![CDATA[".toList ++ body ++ [']'] ++ [']', '>'] := by simp

theorem instruction_shape (body : List Char) : "<?".toList ++ body ++ "?>".toList =
    "<?".toList ++ body ++ ['?', '>'] := by simp

/-! Once the root is closed its end tag matches nothing. -/

theorem Spells.contained_after (spells : Spells lexeme found rest)
    (advanced : advanceAfter found = .ok ()) (whole : lexeme ++ rest = fragment ++ closeRoot) :
    ∃ after, fragment = lexeme ++ after ∧ rest = after ++ closeRoot := by
  cases spells with
  | text body _ run => exact contained_text run whole
  | comment body _ closed => exact contained_mark (comment_shape body) (by decide) whole
  | instruction body _ closed processing =>
      exact contained_mark (instruction_shape body) (by decide) whole
  | cdata | declaration | doctype | startTag | emptyTag | endTag => cases advanced

-- Only pieces that lie in the fragment may follow the root, so that its end tag is still to come.
theorem Accepts.not_closed (accepts : Accepts opened text) (closed : opened = [])
    (fragment : List Char) : text ≠ fragment ++ closeRoot := by
  induction accepts generalizing fragment with
  | done => exact (List.append_ne_nil_of_right_ne_nil fragment closeRoot_ne_nil).symm
  | piece opened next text found nonempty lexed advanced later ih =>
      subst closed
      intro same
      obtain ⟨⟨⟩, after, rfl⟩ := map_ok_iff.mp advanced
      obtain ⟨_, _, tail⟩ :=
        (lex_spells lexed).contained_after after ((lex_append text).trans same)
      exact ih rfl _ tail

/-! What is accepted derives from the grammar. -/

theorem not_mem_endTag {content name : List Char} (named : isName name = true)
    (read : readEndTag content = .ok (.endTag name)) : '<' ∉ content := by
  obtain ⟨spaces, rfl, blank⟩ := (readEndTag_ok_iff named).mp read
  intro member
  rcases List.mem_append.mp member with inside | space
  · exact not_mem_name named (by decide) inside
  · cases List.all_eq_true.mp blank _ space

theorem endTag_is_root {content : List Char} (noBracket : '<' ∉ content)
    (across : "</".toList ++ content ++ ">".toList = fragment ++ closeRoot) : fragment = [] := by
  cases fragment with
  | nil => rfl
  | cons c others =>
      have behind : '/' :: (content ++ ['>']) = others ++ closeRoot := congrArg List.tail across
      have bracket : '<' ∈ '/' :: (content ++ ['>']) := by
        rw [behind]
        exact List.mem_append_right _ (by decide)
      simp [noBracket] at bracket

section Step
variable {next : List OpenElement} {innermost : OpenElement}
  {content name tagged : List Char} {element : OpenElement}
  (later : Accepts next rest)
  (closes : ∀ after, Rooted next → rest = after ++ closeRoot → Closing next after)
include later closes

theorem Closing.startTag (rooted : Rooted opened) (tag : Tag (scopeOf opened) tagged element)
    (opens : next = element :: opened)
    (whole : "<".toList ++ tagged ++ ">".toList ++ rest = fragment ++ closeRoot) :
    Closing opened fragment := by
  subst opens
  rcases split_markup rfl whole with ⟨after, rfl, rfl⟩ | ⟨rfl, _⟩
  · have inside := closes after (.inside element _ tag.named rooted) rfl
    cases inside with
    | last => cases rooted
    | outer _ _ inner spaces after nested blank closing =>
        rw [← List.append_assoc, ← List.append_assoc]
        apply closing.prepend
        intro others content _
        exact .element _ tagged inner spaces others element tag nested blank content
  · cases later.nil

/-- An end tag closes the innermost element, and that of the root only as the last piece. -/
theorem Closing.endTag (named : isName name = true) (same : innermost.name = name)
    (below : next = [] ∨ Rooted next) (read : readEndTag content = .ok (.endTag name))
    (whole : "</".toList ++ content ++ ">".toList ++ rest = fragment ++ closeRoot) :
    Closing (innermost :: next) fragment := by
  subst same
  rcases split_markup rfl whole with ⟨after, rfl, rfl⟩ | ⟨rfl, across⟩
  · obtain ⟨spaces, rfl, blank⟩ := (readEndTag_ok_iff named).mp read
    rcases below with rfl | rooted
    · exact absurd rfl (later.not_closed rfl after)
    · exact .outer innermost _ [] spaces after (.nil _) blank (closes after rooted rfl)
  · obtain rfl := endTag_is_root (not_mem_endTag named read) across
    obtain rfl := later.nil
    exact .last innermost [] (.nil _)

theorem Spells.closing (spells : Spells lexeme found rest) (nonempty : lexeme ≠ [])
    (advanced : advance opened found = .ok next) (rooted : Rooted opened)
    (whole : lexeme ++ rest = fragment ++ closeRoot) : Closing opened fragment := by
  obtain ⟨innermost, outer, rfl, named, below⟩ := rooted.innermost
  change advanceInside (innermost :: outer) found = .ok next at advanced
  cases spells with
  | text _ _ run stops =>
      obtain ⟨⟨⟩, checked, rfl⟩ := map_ok_iff.mp advanced
      obtain ⟨noCdataEnd, resolved, resolves, allowed⟩ := checkText_ok_iff.mp checked
      obtain ⟨after, rfl, rfl⟩ := contained_text run whole
      apply (closes after rooted rfl).prepend
      intro inner content starts
      refine .text _ lexeme resolved inner nonempty run noCdataEnd resolves allowed ?_ content
      intro c first
      exact stops c (by simp [starts c first])
  | comment body _ closed =>
      obtain ⟨⟨⟩, checked, rfl⟩ := map_ok_iff.mp advanced
      obtain ⟨noHyphens, last⟩ := checkComment_ok_iff.mp checked
      obtain ⟨after, rfl, rfl⟩ := contained_mark (comment_shape body) (by decide) whole
      apply (closes after rooted rfl).prepend
      intro inner content _
      exact .comment _ body inner noHyphens last content
  | cdata body _ closed =>
      cases advanced
      obtain ⟨after, rfl, rfl⟩ := contained_mark (cdata_shape body) (by decide) whole
      apply (closes after rooted rfl).prepend
      intro inner content _
      exact .cdata _ body inner closed content
  | instruction body _ closed processing =>
      cases advanced
      obtain ⟨after, rfl, rfl⟩ := contained_mark (instruction_shape body) (by decide) whole
      apply (closes after rooted rfl).prepend
      intro inner content _
      exact .instruction _ body inner closed processing content
  | declaration | doctype => cases advanced
  | emptyTag tagged =>
      obtain ⟨element, checked, rfl⟩ := map_ok_iff.mp advanced
      have tag := checkTagIn_ok_iff.mp checked
      have ends : "<".toList ++ tagged ++ "/>".toList = '<' :: tagged ++ ['/'] ++ ['>'] := by
        simp
      rcases split_markup ends whole with ⟨after, rfl, rfl⟩ | ⟨rfl, _⟩
      · apply (closes after rooted rfl).prepend
        intro inner content _
        exact .emptyElement _ tagged inner element tag content
      · cases later.nil
  | startTag tagged _ apart =>
      obtain ⟨element, checked, opens⟩ := map_ok_iff.mp advanced
      exact Closing.startTag later closes rooted (checkTagIn_ok_iff.mp checked) opens.symm whole
  | endTag content name _ read =>
      change (if innermost.name = name then Except.ok outer else _) = Except.ok next at advanced
      split at advanced <;> cases advanced
      rename_i same
      exact Closing.endTag later closes (same ▸ named) same below read whole

end Step

theorem Accepts.closing (accepts : Accepts opened text) (rooted : Rooted opened)
    (fragment : List Char) (whole : text = fragment ++ closeRoot) : Closing opened fragment := by
  induction accepts generalizing fragment with
  | done => cases rooted
  | piece opened next text found nonempty lexed advanced later ih =>
      have spelled := (lex_append text).trans whole
      apply (lex_spells lexed).closing later ?_ (lex_lexeme nonempty) advanced rooted spelled
      intro after rooted tail
      exact ih rooted after tail

/-! Whole fragments. -/

theorem findForbidden_eq_none_iff {position : Nat} {fragment : List Char} :
    findForbidden position fragment = none ↔ ∀ c ∈ fragment, XmlChar c := by
  induction fragment generalizing position with
  | nil => simp [findForbidden]
  | cons c others ih =>
      rw [findForbidden, List.forall_mem_cons, ← isAllowed_iff]
      split
      · rename_i allowed
        rw [ih]
        exact ⟨fun later => ⟨allowed, later⟩, And.right⟩
      · rename_i forbidden
        exact ⟨fun nothing => (by cases nothing), fun both => absurd both.1 forbidden⟩

theorem accepts_closeRoot : Accepts [root] closeRoot := by
  have lexed : lex closeRoot = ⟨closeRoot, .ok (.endTag root.name), []⟩ :=
    lex_endTag root_named (List.all_nil : [].all isSpace = true)
  exact .step closeRoot_ne_nil lexed rfl .done

theorem accepts_iff : Accepts [root] (fragment ++ closeRoot) ↔ Content [] fragment := by
  constructor
  · intro accepts
    cases accepts.closing .root fragment rfl with
    | last _ _ content => exact content
    | outer _ _ _ _ _ _ _ later => cases later
  · intro content
    rcases content.parts with ⟨_, _, parts⟩
    have stops : ∀ c, closeRoot.head? = some c → c = '<' :=
      fun c starts => (Option.some.inj starts).symm
    have closes : checkFrom [root] 0 (fragment ++ closeRoot) = .ok () := by
      rw [parts.passes root [] 0 rfl stops]
      exact checkFrom_ok_iff.mpr accepts_closeRoot
    exact checkFrom_ok_iff.mp closes

/-- The validator accepts exactly the fragments that hold allowed characters only and derive from
the grammar by themselves, without a root. -/
theorem validate_ok_iff (fragment : String) :
    validate fragment = .ok () ↔
      (∀ c ∈ fragment.toList, XmlChar c) ∧ Content [] fragment.toList := by
  unfold validate validateChars
  cases forbidden : findForbidden 0 fragment.toList with
  | some found =>
      constructor
      · intro failed
        cases failed
      · rintro ⟨allowed, _⟩
        cases forbidden.symm.trans (findForbidden_eq_none_iff.mpr allowed)
  | none =>
      have allowed := findForbidden_eq_none_iff.mp forbidden
      simp only [checkFrom_ok_iff, accepts_iff]
      exact ⟨fun content => ⟨allowed, content⟩, And.right⟩

theorem isValid_iff {fragment : String} :
    isValid fragment = true ↔ validate fragment = .ok () := by
  unfold isValid
  cases validate fragment with
  | error problem => simp [Except.isOk, Except.toBool]
  | ok done => simp [Except.isOk, Except.toBool]

end CatalogueEditor.Markup
