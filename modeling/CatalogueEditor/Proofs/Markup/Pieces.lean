import CatalogueEditor.Proofs.Markup.Tags

/-!
What the pieces of a document are as text. Lexing finds a piece where its text stands, and a piece
that was found is the text that was consumed.
-/

namespace CatalogueEditor.Markup

open Text

/-- The text of a piece. Text goes on to the next opening bracket; of declarations it only matters
that no fragment may have them. -/
inductive Spells : List Char → Piece → List Char → Prop
  | text (body rest : List Char) (run : '<' ∉ body) (stops : ∀ c, rest.head? = some c → c = '<') :
      Spells body (.text body) rest
  | comment (body rest : List Char) (closed : ¬ "-->".toList <:+: body) :
      Spells ("<!--".toList ++ body ++ "-->".toList) (.comment body) rest
  | cdata (body rest : List Char) (closed : ¬ "]]>".toList <:+: body) :
      Spells ("<![CDATA[".toList ++ body ++ "]]>".toList) (.cdata body) rest
  | instruction (body rest : List Char) (closed : ¬ "?>".toList <:+: '?' :: body)
      (processing : isDeclaration body = false) :
      Spells ("<?".toList ++ body ++ "?>".toList) (.instruction body) rest
  | declaration (lexeme rest : List Char) : Spells lexeme .declaration rest
  | doctype (lexeme rest : List Char) : Spells lexeme .doctype rest
  | startTag (content rest : List Char) (apart : content.getLast? ≠ some '/') :
      Spells ("<".toList ++ content ++ ">".toList) (.startTag content) rest
  | emptyTag (content rest : List Char) :
      Spells ("<".toList ++ content ++ "/>".toList) (.emptyTag content) rest
  | endTag (content name rest : List Char) (named : readEndTag content = .ok (.endTag name)) :
      Spells ("</".toList ++ content ++ ">".toList) (.endTag name) rest

variable {text : List Char} {piece : Piece}

section LexTo
variable {opening mark before after : List Char} {cut : Option (List Char × List Char)}
  {unclosed : LexProblem} {read : List Char → Except LexProblem Piece}

theorem lexTo_some (found : cut = some (before, after)) :
    lexTo opening mark text cut unclosed read =
      ⟨opening ++ (before ++ mark), read before, after⟩ := by
  rw [found, lexTo]

theorem lexTo_found (found : (lexTo opening mark text cut unclosed read).found = .ok piece) :
    ∃ before after, cut = some (before, after) ∧ read before = .ok piece := by
  unfold lexTo at found
  split at found
  · rename_i before after
    exact ⟨before, after, rfl, found⟩
  · cases found

end LexTo

theorem marks_single : '>' ∉ "--".toList ∧ '>' ∉ "]]".toList ∧ '>' ∉ "?".toList := by decide

theorem readComment_ok {hyphen body : List Char} (found : readComment hyphen body = .ok piece) :
    hyphen = ['-'] ∧ piece = .comment body := by
  unfold readComment at found
  split at found
  · rename_i same
    cases found
    exact ⟨same, rfl⟩
  · cases found

theorem readCdata_ok {body : List Char} (found : readCdata body = .ok piece) :
    ∃ rest, body = "CDATA[".toList ++ rest ∧ piece = .cdata rest := by
  unfold readCdata at found
  split at found
  · rename_i starts
    cases found
    obtain ⟨rest, rfl⟩ := List.isPrefixOf_iff_prefix.mp starts
    exact ⟨rest, rfl, rfl⟩
  · cases found

theorem readDoctype_ok {body : List Char} (found : readDoctype body = .ok piece) :
    piece = .doctype := by
  unfold readDoctype at found
  split at found
  · split at found <;> cases found
    rfl
  · cases found

theorem readInstruction_ok {content : List Char} (found : readInstruction content = .ok piece) :
    ∃ mark body, content = mark :: body ∧
      piece = if isDeclaration body then .declaration else .instruction body := by
  cases content with
  | nil => cases found
  | cons mark body =>
      cases found
      exact ⟨mark, body, rfl, rfl⟩

theorem lexBang_spells (found : (lexBang text).found = .ok piece) :
    Spells (lexBang text).lexeme piece (lexBang text).rest := by
  unfold lexBang at found ⊢
  split at found
  · rename_i rest
    obtain ⟨before, after, cut, read⟩ := lexTo_found found
    obtain ⟨hyphen, rfl⟩ := readComment_ok read
    obtain ⟨_, closed⟩ := (cutAt_eq_some_iff marks_single.1).mp cut
    simp only [lexTo_some cut, hyphen]
    exact .comment before after closed
  · rename_i rest
    obtain ⟨before, after, cut, read⟩ := lexTo_found found
    obtain ⟨body, rfl, rfl⟩ := readCdata_ok read
    obtain ⟨_, closed⟩ := (cutAt_eq_some_iff marks_single.2.1).mp cut
    simp only [lexTo_some cut]
    exact .cdata body after fun inside => closed (inside.trans (List.suffix_append _ _).isInfix)
  · split at found
    · obtain ⟨before, after, cut, read⟩ := lexTo_found found
      obtain rfl := readDoctype_ok read
      exact .doctype _ _
    · cases found

theorem lexMarkup_spells (found : (lexMarkup text).found = .ok piece) :
    Spells (lexMarkup text).lexeme piece (lexMarkup text).rest := by
  unfold lexMarkup at found ⊢
  split at found
  · exact lexBang_spells found
  · rename_i rest
    obtain ⟨content, after, cut, read⟩ := lexTo_found found
    simp only [lexTo_some cut]
    unfold readEndTag at read
    cases read
    exact .endTag content _ after rfl
  · rename_i rest
    obtain ⟨content, after, cut, read⟩ := lexTo_found found
    obtain ⟨mark, body, rfl, rfl⟩ := readInstruction_ok read
    obtain ⟨starts, closed⟩ := (cutAt_eq_some_iff marks_single.2.2).mp cut
    cases starts
    simp only [lexTo_some cut]
    split
    · exact .declaration _ after
    · rename_i processing
      exact .instruction body after closed (Bool.eq_false_iff.mpr processing)
  · rename_i noBang noSlash noMark
    obtain ⟨content, after, cut, read⟩ := lexTo_found found
    simp only [lexTo_some cut]
    unfold readTag at read
    cases read
    split
    · rename_i slash
      have whole := List.dropLast_append_getLast? '/' slash
      have lexeme : "<".toList ++ content.dropLast ++ "/>".toList =
          ['<'] ++ (content ++ ['>']) := by
        rw [← congrArg (· ++ ['>']) whole]
        simp
      exact lexeme ▸ Spells.emptyTag content.dropLast after
    · rename_i apart
      exact .startTag content after apart

theorem lex_spells (found : (lex text).found = .ok piece) :
    Spells (lex text).lexeme piece (lex text).rest := by
  unfold lex at found ⊢
  split at found
  · exact lexMarkup_spells found
  · cases found
    refine .text _ _ (fun bracket => ?_) fun c starts => ?_
    · have plain := List.all_eq_true.mp List.all_takeWhile _ bracket
      simp at plain
    · have stops := List.head?_dropWhile_not (· != '<') text
      rw [starts] at stops
      simpa using stops

/-! The way back: each piece is found where its text stands. -/

variable {body rest : List Char}

theorem lex_text (nonempty : body ≠ []) (run : '<' ∉ body)
    (stops : ∀ c, rest.head? = some c → c = '<') :
    lex (body ++ rest) = ⟨body, .ok (.text body), rest⟩ := by
  have plain : body.all (· != '<') = true := by
    rw [List.all_eq_true]
    intro c member
    rw [bne_iff_ne]
    rintro rfl
    exact run member
  have ends : ∀ c, rest.head? = some c → (c != '<') = false := by
    intro c starts
    simp [stops c starts]
  unfold lex
  split
  · rename_i markup
    cases body with
    | nil => exact absurd rfl nonempty
    | cons c others =>
        rw [List.cons_append, List.cons.injEq] at markup
        rw [markup.1] at run
        exact absurd List.mem_cons_self run
  · rw [takeWhile_run plain ends, dropWhile_run plain ends]

theorem lex_comment (closed : ¬ "-->".toList <:+: body) :
    lex ("<!--".toList ++ body ++ "-->".toList ++ rest) =
      ⟨"<!--".toList ++ body ++ "-->".toList, .ok (.comment body), rest⟩ := by
  have cut : cutAt "-->".toList (body ++ "-->".toList ++ rest) = some (body, rest) :=
    (cutAt_eq_some_iff marks_single.1).mpr ⟨rfl, closed⟩
  exact lexTo_some cut

theorem lex_cdata (closed : ¬ "]]>".toList <:+: body) :
    lex ("<![CDATA[".toList ++ body ++ "]]>".toList ++ rest) =
      ⟨"<![CDATA[".toList ++ body ++ "]]>".toList, .ok (.cdata body), rest⟩ := by
  have cut : cutAt "]]>".toList ("CDATA[".toList ++ body ++ "]]>".toList ++ rest) =
      some ("CDATA[".toList ++ body, rest) := by
    refine (cutAt_eq_some_iff marks_single.2.1).mpr ⟨rfl, ?_⟩
    simpa [List.infix_cons_iff, List.cons_prefix_cons] using closed
  exact lexTo_some cut

theorem lex_instruction (closed : ¬ "?>".toList <:+: '?' :: body)
    (processing : isDeclaration body = false) :
    lex ("<?".toList ++ body ++ "?>".toList ++ rest) =
      ⟨"<?".toList ++ body ++ "?>".toList, .ok (.instruction body), rest⟩ := by
  have cut : cutAt "?>".toList ('?' :: body ++ "?>".toList ++ rest) = some ('?' :: body, rest) :=
    (cutAt_eq_some_iff marks_single.2.2).mpr ⟨rfl, closed⟩
  refine (lexTo_some cut).trans ?_
  simp [readInstruction, processing]

section Tags
variable {scope : List (List Char)} {content : List Char} {element : OpenElement}

theorem lexMarkup_tag {c : Char} (plain : c ≠ '!' ∧ c ≠ '/' ∧ c ≠ '?') :
    lexMarkup (c :: rest) =
      lexTo ['<'] ['>'] (c :: rest) (cutTag none (c :: rest)) .openTag readTag := by
  obtain ⟨noBang, noSlash, noMark⟩ := plain
  unfold lexMarkup
  split
  · rename_i same
    exact absurd (List.cons.inj same).1 noBang
  · rename_i same
    exact absurd (List.cons.inj same).1 noSlash
  · rename_i same
    exact absurd (List.cons.inj same).1 noMark
  · rfl

theorem Tag.starts (tag : Tag scope content element) :
    ∃ c others, content = c :: others ∧ c ≠ '!' ∧ c ≠ '/' ∧ c ≠ '?' := by
  obtain ⟨name, text, attributes, named, _, _, _⟩ := tag
  cases name with
  | nil => cases named
  | cons c others =>
      have apart : ∀ d ∈ delimiters, c ≠ d := by
        rintro d delimits rfl
        exact not_mem_name named delimits List.mem_cons_self
      exact ⟨c, others ++ text, rfl, apart '!' (by decide), apart '/' (by decide),
        apart '?' (by decide)⟩

theorem Tag.lexed {tail inside after : List Char} (tag : Tag scope content element)
    (cut : cutTag none (content ++ tail) = some (inside, after)) :
    lex ('<' :: (content ++ tail)) = ⟨['<'] ++ (inside ++ ['>']), readTag inside, after⟩ := by
  obtain ⟨c, others, rfl, plain⟩ := tag.starts
  rw [List.cons_append] at cut ⊢
  exact (lexMarkup_tag plain).trans (lexTo_some cut)

theorem lex_startTag (tag : Tag scope content element) :
    lex ("<".toList ++ content ++ ">".toList ++ rest) =
      ⟨"<".toList ++ content ++ ">".toList, .ok (.startTag content), rest⟩ := by
  have cut : cutTag none (content ++ '>' :: rest) = some (content, rest) := by
    simp [tag.cut, cutTag, behind]
  have lexed := tag.lexed cut
  rw [readTag, if_neg tag.last] at lexed
  simpa using lexed

theorem lex_emptyTag (tag : Tag scope content element) :
    lex ("<".toList ++ content ++ "/>".toList ++ rest) =
      ⟨"<".toList ++ content ++ "/>".toList, .ok (.emptyTag content), rest⟩ := by
  have cut : cutTag none (content ++ '/' :: '>' :: rest) = some (content ++ ['/'], rest) := by
    simp [tag.cut, cutTag, behind, quoteAfter]
  have lexed := tag.lexed cut
  rw [readTag, if_pos List.getLast?_concat, List.dropLast_concat] at lexed
  simpa using lexed

end Tags

/-! End tags. -/

theorem not_blank_of_isName {name spaces : List Char} (named : isName name = true) :
    (name ++ spaces).all isSpace ≠ true := by
  intro blank
  cases name with
  | nil => cases named
  | cons c others =>
      have unspaced := List.all_eq_true.mp (name_unspaced named) c List.mem_cons_self
      have space := List.all_eq_true.mp blank c List.mem_cons_self
      simp [space] at unspaced

theorem dropTrailing_append (p : Char → Bool) (cs : List Char) :
    dropTrailing p cs ++ (cs.reverse.takeWhile p).reverse = cs := by
  rw [dropTrailing, ← List.reverse_append, List.takeWhile_append_dropWhile, List.reverse_reverse]

theorem dropTrailing_spaces {name spaces : List Char} (named : isName name = true)
    (blank : spaces.all isSpace = true) : dropTrailing isSpace (name ++ spaces) = name := by
  have stops : ∀ c, name.reverse.head? = some c → isSpace c = false := by
    intro c last
    have member : c ∈ name := List.mem_reverse.mp (List.mem_of_head? last)
    simpa using List.all_eq_true.mp (name_unspaced named) c member
  rw [dropTrailing, List.reverse_append, dropWhile_run (by rwa [List.all_reverse]) stops,
    List.reverse_reverse]

theorem readEndTag_ok_iff {content name : List Char} (named : isName name = true) :
    readEndTag content = .ok (.endTag name) ↔
      ∃ spaces, content = name ++ spaces ∧ spaces.all isSpace = true := by
  unfold readEndTag
  constructor
  · intro read
    split at read
    · rename_i blank
      cases read
      rw [← List.append_nil content] at blank
      exact absurd blank (not_blank_of_isName named)
    · cases read
      refine ⟨(content.reverse.takeWhile isSpace).reverse, (dropTrailing_append _ _).symm, ?_⟩
      rw [List.all_reverse]
      exact List.all_takeWhile
  · rintro ⟨spaces, rfl, blank⟩
    rw [if_neg (not_blank_of_isName named), dropTrailing_spaces named blank]

theorem lex_endTag {name spaces : List Char} (named : isName name = true)
    (blank : spaces.all isSpace = true) :
    lex ("</".toList ++ (name ++ spaces) ++ ">".toList ++ rest) =
      ⟨"</".toList ++ (name ++ spaces) ++ ">".toList, .ok (.endTag name), rest⟩ := by
  have cut : cutTag none (name ++ spaces ++ '>' :: rest) = some (name ++ spaces, rest) := by
    rw [List.append_assoc, cutTag_plain (name_plain named), cutTag_plain (spaces_plain blank)]
    simp [cutTag, behind]
  have lexed : lex ("</".toList ++ (name ++ spaces) ++ ">".toList ++ rest) =
      ⟨"</".toList ++ ((name ++ spaces) ++ ['>']), readEndTag (name ++ spaces), rest⟩ := by
    rw [List.append_assoc _ _ rest]
    exact lexTo_some cut
  rw [lexed, (readEndTag_ok_iff named).mpr ⟨spaces, rfl, blank⟩, ← List.append_assoc]
  rfl

end CatalogueEditor.Markup
