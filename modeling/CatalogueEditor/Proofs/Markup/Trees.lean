import CatalogueEditor.Proofs.Markup.Composition

/-!
Trees of markup. A forest of elements, text, comments and CDATA sections is written with the marks of
markup escaped in text and in attribute values. What is written of a forest that fits is accepted,
whatever the depth: every legitimate content has a text that can be saved.
-/

namespace CatalogueEditor.Markup

open Text

/-- A node of a document. Values of attributes and bodies of text are meant as they are, before
anything in them is escaped. An element without children may be written as an empty tag. -/
inductive Node
  | text (body : List Char)
  | cdata (body : List Char)
  | comment (body : List Char)
  | emptyElement (name : List Char) (attributes : List Attribute)
  | element (name : List Char) (attributes : List Attribute) (children : List Node)

/-! Writing. -/

/-- The entity that stands for a mark of markup. -/
def entity : Char → List Char
  | '&' => "&amp;".toList
  | '<' => "&lt;".toList
  | '>' => "&gt;".toList
  | '"' => "&quot;".toList
  | c => [c]

def escape (marks text : List Char) : List Char :=
  text.flatMap fun c => if c ∈ marks then entity c else [c]

def textMarks : List Char := ['&', '<', '>']

def valueMarks : List Char := ['&', '<', '"']

/-- The attribute with its value as it is written. -/
def Attribute.escaped (given : Attribute) : Attribute :=
  ⟨given.key, escape valueMarks given.value⟩

def renderAttribute (given : Attribute) : List Char :=
  ' ' :: (given.key ++ '=' :: '"' :: (escape valueMarks given.value ++ ['"']))

def renderTag (name : List Char) (attributes : List Attribute) : List Char :=
  name ++ attributes.flatMap renderAttribute

def renderText (body : List Char) : List Char :=
  escape textMarks body

def renderCdata (body : List Char) : List Char :=
  "<![CDATA[".toList ++ body ++ "]]>".toList

def renderComment (body : List Char) : List Char :=
  "<!--".toList ++ body ++ "-->".toList

def renderEmptyElement (name : List Char) (attributes : List Attribute) : List Char :=
  "<".toList ++ renderTag name attributes ++ "/>".toList

def renderElement (name : List Char) (attributes : List Attribute) (inner : List Char) :
    List Char :=
  "<".toList ++ renderTag name attributes ++ ">".toList ++ inner ++
    ("</".toList ++ name ++ ">".toList)

mutual

def Node.render : Node → List Char
  | .text body => renderText body
  | .cdata body => renderCdata body
  | .comment body => renderComment body
  | .emptyElement name attributes => renderEmptyElement name attributes
  | .element name attributes children => renderElement name attributes (renderForest children)

def renderForest : List Node → List Char
  | [] => []
  | node :: others => node.render ++ renderForest others

end

/-! What fits. -/

/-- A name and attributes that an element may have where the prefixes of a scope are declared. -/
structure TagFits (scope : List (List Char)) (name : List Char) (attributes : List Attribute) :
    Prop where
  named : isName name = true
  keys : ∀ given ∈ attributes, isName given.key = true
  distinct : (attributes.map Attribute.key).Nodup
  allowed : ∀ given ∈ attributes, ∀ c ∈ given.value, XmlChar c
  bound : ∀ given ∈ attributes, given.Binds → given.value ≠ []
  known : ∀ candidate ∈ (namespacePart name).toList ++ used attributes,
    candidate = "xml".toList ∨ candidate ∈ declared attributes ++ scope

/-- The nodes that can be written where the prefixes of a scope are declared. -/
inductive Node.Fits : List (List Char) → Node → Prop
  | text (scope : List (List Char)) (body : List Char) (allowed : ∀ c ∈ body, XmlChar c) :
      Fits scope (.text body)
  | cdata (scope : List (List Char)) (body : List Char) (allowed : ∀ c ∈ body, XmlChar c)
      (closed : ¬ "]]>".toList <:+: body) : Fits scope (.cdata body)
  | comment (scope : List (List Char)) (body : List Char) (allowed : ∀ c ∈ body, XmlChar c)
      (noHyphens : ¬ "--".toList <:+: body) (last : body.getLast? ≠ some '-') :
      Fits scope (.comment body)
  | emptyElement (scope : List (List Char)) (name : List Char) (attributes : List Attribute)
      (tag : TagFits scope name attributes) : Fits scope (.emptyElement name attributes)
  | element (scope : List (List Char)) (name : List Char) (attributes : List Attribute)
      (children : List Node) (tag : TagFits scope name attributes)
      (inside : ∀ child ∈ children, Fits (declared attributes ++ scope) child) :
      Fits scope (.element name attributes children)

variable {scope : List (List Char)} {marks body name front back : List Char}
  {attributes : List Attribute} {c : Char}

/-! Escaped text stands for the text it was made of, and has none of the marks. -/

def escapable : List Char := ['&', '<', '>', '"']

theorem entity_denotes (marked : c ∈ escapable) :
    ∃ written, entity c = '&' :: (written ++ [';']) ∧ (written, c) ∈ knownNames := by
  simp only [escapable, List.mem_cons, List.not_mem_nil, or_false] at marked
  rcases marked with rfl | rfl | rfl | rfl
  · exact ⟨"amp".toList, rfl, by decide⟩
  · exact ⟨"lt".toList, rfl, by decide⟩
  · exact ⟨"gt".toList, rfl, by decide⟩
  · exact ⟨"quot".toList, rfl, by decide⟩

theorem entity_plain {d : Char} (marked : c ∈ escapable) (member : d ∈ entity c) :
    isAllowed d = true ∧ (d = '&' ∨ d ∉ escapable) := by
  have each : escapable.all (fun c => (entity c).all fun d =>
      isAllowed d && (d == '&' || !escapable.contains d)) = true := by decide
  have here := List.all_eq_true.mp (List.all_eq_true.mp each c marked) d member
  simpa using here

theorem escape_cons (rest : List Char) : escape marks (c :: rest) =
    (if c ∈ marks then entity c else [c]) ++ escape marks rest :=
  List.flatMap_cons

theorem escape_resolves (known : marks ⊆ escapable) (ampersand : '&' ∈ marks) :
    Resolves (escape marks body) body := by
  induction body with
  | nil => exact .nil
  | cons c rest ih =>
      rw [escape_cons]
      by_cases marked : c ∈ marks
      · rcases entity_denotes (known marked) with ⟨written, same, listed⟩
        have step := Resolves.reference written c _ _ (.name written c listed) ih
        simpa [marked, same] using step
      · rw [if_neg marked]
        exact .plain c _ _ (fun same => marked (same ▸ ampersand)) ih

theorem mem_escape (known : marks ⊆ escapable) (member : c ∈ escape marks body) :
    (c ∈ body ∧ c ∉ marks) ∨ (isAllowed c = true ∧ (c = '&' ∨ c ∉ escapable)) := by
  rcases List.mem_flatMap.mp member with ⟨d, inside, made⟩
  by_cases marked : d ∈ marks
  · rw [if_pos marked] at made
    exact .inr (entity_plain (known marked) made)
  · rw [if_neg marked, List.mem_singleton] at made
    exact .inl ⟨made ▸ inside, made ▸ marked⟩

theorem not_mem_escape (known : marks ⊆ escapable) (marked : c ∈ marks) (other : c ≠ '&') :
    c ∉ escape marks body := by
  intro member
  rcases mem_escape known member with ⟨_, plain⟩ | ⟨_, same | unknown⟩
  · exact plain marked
  · exact other same
  · exact unknown (known marked)

theorem escape_allowed (known : marks ⊆ escapable) (allowed : ∀ c ∈ body, XmlChar c) :
    ∀ c ∈ escape marks body, XmlChar c := by
  intro c member
  rcases mem_escape known member with ⟨inside, _⟩ | ⟨fine, _⟩
  · exact allowed c inside
  · exact isAllowed_iff.mp fine

theorem marks_known : textMarks ⊆ escapable ∧ valueMarks ⊆ escapable := by decide

/-! Tags. -/

theorem renderAttributes_made :
    Attributes (attributes.flatMap renderAttribute) (attributes.map Attribute.escaped) := by
  induction attributes with
  | nil => exact .nil [] rfl
  | cons given others ih =>
      have closed : '"' ∉ escape valueMarks given.value :=
        not_mem_escape marks_known.2 (by decide) (by decide)
      have written := Written.intro given.key [] [] (escape valueMarks given.value)
        (others.flatMap renderAttribute) '"' rfl rfl (.inl rfl) closed
      have grown := Attributes.cons [' '] _ _ _ _ rfl written ih
      rw [List.flatMap_cons, List.map_cons]
      simpa [renderAttribute, Attribute.escaped] using grown

theorem declared_escaped : declared (attributes.map Attribute.escaped) = declared attributes :=
  List.flatMap_map ..

theorem used_escaped : used (attributes.map Attribute.escaped) = used attributes :=
  List.flatMap_map ..

namespace TagFits

theorem attached (fits : TagFits scope name attributes) :
    Attached (attributes.flatMap renderAttribute) (attributes.map Attribute.escaped) := by
  refine ⟨renderAttributes_made, ?_, ?_⟩
  · intro written member
    rcases List.mem_map.mp member with ⟨given, listed, rfl⟩
    have resolves : Resolves (escape valueMarks given.value) given.value :=
      escape_resolves marks_known.2 (by decide)
    refine ⟨fits.keys given listed, not_mem_escape marks_known.2 (by decide) (by decide),
      ⟨given.value, resolves, fits.allowed given listed⟩, ?_⟩
    intro binds
    exact mt resolves.nil_iff.mpr (fits.bound given listed binds)
  · rw [List.map_map]
    exact fits.distinct

theorem tag (fits : TagFits scope name attributes) :
    Tag scope (renderTag name attributes) ⟨name, declared attributes⟩ := by
  have apart : ∀ c, (attributes.flatMap renderAttribute).head? = some c → isSpace c = true := by
    intro c starts
    cases attributes with
    | nil => cases starts
    | cons given others =>
        cases starts
        rfl
  have known := fits.known
  rw [← used_escaped, ← declared_escaped] at known
  rw [← declared_escaped]
  exact .intro name _ _ fits.named apart fits.attached known

theorem rendered (fits : TagFits scope name attributes) :
    ∀ c ∈ renderTag name attributes, XmlChar c := by
  have marks : ∀ c ∈ " =\"".toList, XmlChar c := allowed_of_all (by decide)
  intro c member
  rcases List.mem_append.mp member with inName | inAttributes
  · exact name_allowed fits.named c inName
  · rcases List.mem_flatMap.mp inAttributes with ⟨given, listed, inside⟩
    have key := name_allowed (fits.keys given listed)
    have value := escape_allowed marks_known.2 (fits.allowed given listed)
    simp only [renderAttribute, List.mem_cons, List.mem_append, List.not_mem_nil, or_false]
      at inside
    rcases inside with rfl | inKey | rfl | rfl | inValue | rfl
    · exact marks _ (by decide)
    · exact key c inKey
    · exact marks _ (by decide)
    · exact marks _ (by decide)
    · exact value c inValue
    · exact marks _ (by decide)

end TagFits

/-! Forests. -/

/-- What is written of nodes that fit. Its text has no closing bracket before the first markup, so
that the end mark of a CDATA section cannot come about where it starts. -/
structure Legible (scope : List (List Char)) (text : List Char) : Prop where
  allowed : ∀ c ∈ text, XmlChar c
  content : Content scope text
  noBracket : '>' ∉ text.takeWhile (· != '<')

theorem not_straddles (noBracket : '>' ∉ back.takeWhile (· != '<')) :
    ¬ Straddles "]]>".toList front back := by
  rintro ⟨left, right, _, nonempty, mark, _, rest, rfl⟩
  have plain : ∀ c ∈ right, (c != '<') = true := by
    intro c member
    have listed : c ∈ "]]>".toList := mark ▸ List.mem_append_right left member
    exact List.all_eq_true.mp (by decide : "]]>".toList.all (· != '<') = true) c listed
  have last : right.getLast? = some '>' := by
    rw [← List.getLast?_append_of_ne_nil left nonempty, ← mark]
    rfl
  rw [List.takeWhile_append_of_pos plain] at noBracket
  exact noBracket (List.mem_append_left _ (List.mem_of_getLast? last))

theorem markup_noBracket (starts : front.head? = some '<') :
    '>' ∉ front.takeWhile (· != '<') := by
  cases front with
  | nil => cases starts
  | cons c others =>
      cases starts
      simp

namespace Legible

theorem nil : Legible scope [] :=
  ⟨by simp, .nil scope, by simp⟩

theorem append (first : Legible scope front) (second : Legible scope back) :
    Legible scope (front ++ back) := by
  refine ⟨?_, first.content.append second.content (not_straddles second.noBracket), ?_⟩
  · rw [List.forall_mem_append]
    exact ⟨first.allowed, second.allowed⟩
  · rw [List.takeWhile_append]
    split
    · rename_i whole
      rw [← (List.takeWhile_prefix _).eq_of_length whole, List.mem_append, not_or]
      exact ⟨first.noBracket, second.noBracket⟩
    · exact first.noBracket

theorem text (allowed : ∀ c ∈ body, XmlChar c) : Legible scope (renderText body) := by
  have noBracket : '>' ∉ renderText body :=
    not_mem_escape marks_known.1 (by decide) (by decide)
  have noMarkup : '<' ∉ renderText body :=
    not_mem_escape marks_known.1 (by decide) (by decide)
  have resolves : Resolves (renderText body) body :=
    escape_resolves marks_known.1 (by decide)
  refine ⟨escape_allowed marks_known.1 allowed, ?_, ?_⟩
  · by_cases nonempty : renderText body = []
    · rw [nonempty]
      exact .nil scope
    · have noCdataEnd : ¬ "]]>".toList <:+: renderText body :=
        fun mark => noBracket (mark.subset (by decide))
      have content := Content.text scope _ body [] nonempty noMarkup noCdataEnd resolves allowed
        (by simp) (.nil scope)
      rwa [List.append_nil] at content
  · exact fun member => noBracket ((List.takeWhile_sublist _).subset member)

theorem cdata (allowed : ∀ c ∈ body, XmlChar c) (closed : ¬ "]]>".toList <:+: body) :
    Legible scope (renderCdata body) := by
  have content := Content.cdata scope body [] closed (.nil scope)
  rw [List.append_nil] at content
  exact ⟨enclosed_allowed (by decide) allowed (by decide), content, markup_noBracket rfl⟩

theorem comment (allowed : ∀ c ∈ body, XmlChar c) (noHyphens : ¬ "--".toList <:+: body)
    (last : body.getLast? ≠ some '-') : Legible scope (renderComment body) := by
  have content := Content.comment scope body [] noHyphens last (.nil scope)
  rw [List.append_nil] at content
  exact ⟨enclosed_allowed (by decide) allowed (by decide), content, markup_noBracket rfl⟩

theorem emptyElement (fits : TagFits scope name attributes) :
    Legible scope (renderEmptyElement name attributes) := by
  have content := Content.emptyElement scope _ [] _ fits.tag (.nil scope)
  rw [List.append_nil] at content
  exact ⟨enclosed_allowed (by decide) fits.rendered (by decide), content, markup_noBracket rfl⟩

theorem element {inner : List Char} (fits : TagFits scope name attributes)
    (nested : Legible (declared attributes ++ scope) inner) :
    Legible scope (renderElement name attributes inner) := by
  have content := Content.element scope _ _ [] [] _ fits.tag nested.content rfl (.nil scope)
  rw [List.append_nil, List.append_nil] at content
  refine ⟨?_, content, markup_noBracket rfl⟩
  rw [renderElement, List.forall_mem_append, List.forall_mem_append]
  exact ⟨⟨enclosed_allowed (by decide) fits.rendered (by decide), nested.allowed⟩,
    enclosed_allowed (by decide) (name_allowed fits.named) (by decide)⟩

theorem forest {nodes : List Node} (each : ∀ node ∈ nodes, Legible scope node.render) :
    Legible scope (renderForest nodes) := by
  induction nodes with
  | nil => exact nil
  | cons node others ih =>
      rw [List.forall_mem_cons] at each
      exact each.1.append (ih each.2)

end Legible

/-- What is written of a node that fits is legible, by induction on the tree. -/
theorem Node.Fits.legible {node : Node} (fits : node.Fits scope) : Legible scope node.render := by
  induction fits with
  | text _ body allowed => exact .text allowed
  | cdata _ body allowed closed => exact .cdata allowed closed
  | comment _ body allowed noHyphens last => exact .comment allowed noHyphens last
  | emptyElement _ name attributes tag => exact .emptyElement tag
  | element _ name attributes children tag inside ih =>
      rw [Node.render]
      exact .element tag (.forest ih)

/-- What is written of a forest is accepted, if its nodes fit where no prefix is declared. -/
theorem rendered_forest_accepted (forest : List Node) (fits : ∀ node ∈ forest, node.Fits []) :
    validate (String.ofList (renderForest forest)) = .ok () := by
  have legible := Legible.forest fun node member => (fits node member).legible
  rw [validate_ok_iff, String.toList_ofList]
  exact ⟨legible.allowed, legible.content⟩

/-- A prefix that is declared around its use, an attribute value with every mark in it, and bodies
that come close to an end mark. -/
theorem nested_forest_accepted :
    let forest : List Node := [
      .element "p".toList [⟨"xmlns:q".toList, "u".toList⟩] [
        .emptyElement "q:r".toList [⟨"q:s".toList, "<&> \"'".toList⟩, ⟨"xml:t".toList, []⟩],
        .text "]]".toList, .text ">".toList, .cdata "]]".toList, .comment "->".toList]]
    (∀ node ∈ forest, node.Fits []) ∧ validate (String.ofList (renderForest forest)) = .ok () := by
  intro forest
  have outer : TagFits [] "p".toList [⟨"xmlns:q".toList, "u".toList⟩] :=
    ⟨by decide +kernel, by decide +kernel, by decide,
      List.forall_mem_singleton.mpr (allowed_of_all (by decide)), by decide, by decide⟩
  have inner : TagFits [['q']] "q:r".toList
      [⟨"q:s".toList, "<&> \"'".toList⟩, ⟨"xml:t".toList, []⟩] := by
    refine ⟨by decide +kernel, by decide +kernel, by decide, ?_, by decide, by decide⟩
    rw [List.forall_mem_cons, List.forall_mem_singleton]
    exact ⟨allowed_of_all (by decide), allowed_of_all rfl⟩
  have fits : ∀ node ∈ forest, node.Fits [] := by
    rw [List.forall_mem_singleton]
    refine .element [] _ _ _ outer ?_
    simp only [List.forall_mem_cons]
    exact ⟨.emptyElement _ _ _ inner, .text _ _ (allowed_of_all (by decide)),
      .text _ _ (allowed_of_all (by decide)), .cdata _ _ (allowed_of_all (by decide)) (by decide),
      .comment _ _ (allowed_of_all (by decide)) (by decide) (by decide), by simp⟩
  exact ⟨fits, rendered_forest_accepted forest fits⟩

end CatalogueEditor.Markup
