import CatalogueEditor.Text.Blank
import CatalogueEditor.Markup.Character
import CatalogueEditor.Markup.Scan

/-!
The pieces of a document: runs of text and the constructs between angle brackets. `lex` takes the
first piece off a text. What it consumed and what is left are always the text it was given, and it
consumes something of every text that is not empty.
-/

namespace CatalogueEditor.Markup

/-- Tags carry what stands between their brackets, without the slash that closes an empty tag; an
end tag carries its name. -/
inductive Piece
  | text (body : List Char)
  | comment (body : List Char)
  | cdata (body : List Char)
  | instruction (body : List Char)
  | declaration
  | doctype
  | startTag (content : List Char)
  | emptyTag (content : List Char)
  | endTag (name : List Char)

inductive LexProblem
  | strayBang
  | openInstruction
  | openComment
  | openDoctype
  | openCdata
  | openTag
  | doctypeWithoutName

def LexProblem.message : LexProblem → String
  | strayBang => "syntax error: unknown or missed symbol in markup"
  | openInstruction =>
      "syntax error: processing instruction or xml declaration not closed: " ++
        "`?>` not found before end of input"
  | openComment => "syntax error: comment not closed: `-->` not found before end of input"
  | openDoctype => "syntax error: DOCTYPE not closed: `>` not found before end of input"
  | openCdata => "syntax error: CDATA not closed: `]]>` not found before end of input"
  | openTag => "syntax error: tag not closed: `>` not found before end of input"
  | doctypeWithoutName =>
      "ill-formed document: `<!DOCTYPE>` declaration does not contain a name of a document type"

/-- One step through a document: the characters consumed, what they are, and the rest. -/
structure Lexed where
  lexeme : List Char
  found : Except LexProblem Piece
  rest : List Char

/-- A construct that starts with `opening` and ends with `mark`. Without a mark it consumes all. -/
def lexTo (opening mark : List Char) (text : List Char) (cut : Option (List Char × List Char))
    (unclosed : LexProblem) (read : List Char → Except LexProblem Piece) : Lexed :=
  match cut with
  | some (before, after) => ⟨opening ++ (before ++ mark), read before, after⟩
  | none => ⟨opening ++ text, .error unclosed, []⟩

/-- A comment is told apart by its first hyphen and needs a second one. -/
def readComment (hyphen : List Char) (body : List Char) : Except LexProblem Piece :=
  if hyphen = ['-'] then .ok (.comment body) else .error .openComment

def readCdata (body : List Char) : Except LexProblem Piece :=
  if "CDATA[".toList.isPrefixOf body then .ok (.cdata (body.drop 6)) else .error .openCdata

def readDoctype (body : List Char) : Except LexProblem Piece :=
  if (body.take 7).map Char.toUpper = "DOCTYPE".toList then
    if (body.drop 7).all isSpace then .error .doctypeWithoutName else .ok .doctype
  else .error .openDoctype

/-- The word `xml`, alone or before white space, makes an instruction the declaration. -/
def isDeclaration (body : List Char) : Bool :=
  "xml".toList.isPrefixOf body && ((body.drop 3).take 1).all isSpace

/-- The content of an instruction still has its first question mark, which must not be the last. -/
def readInstruction : List Char → Except LexProblem Piece
  | [] => .error .openInstruction
  | _ :: body => .ok (if isDeclaration body then .declaration else .instruction body)

/-- White space ends the name of an end tag, unless the tag holds nothing else. -/
def readEndTag (content : List Char) : Except LexProblem Piece :=
  .ok (.endTag (if content.all isSpace then content else Text.dropTrailing isSpace content))

def readTag (content : List Char) : Except LexProblem Piece :=
  .ok (if content.getLast? = some '/' then .emptyTag content.dropLast else .startTag content)

/-- What follows an opening bracket and an exclamation mark. -/
def lexBang : List Char → Lexed
  -- The two hyphens that open a comment take no part in its end.
  | '-' :: rest =>
      lexTo ("<!-".toList ++ rest.take 1) "-->".toList (rest.drop 1)
        (cutAt "-->".toList (rest.drop 1)) .openComment (readComment (rest.take 1))
  | '[' :: rest =>
      lexTo "<![".toList "]]>".toList rest (cutAt "]]>".toList rest) .openCdata readCdata
  | rest =>
      if rest.head? = some 'D' ∨ rest.head? = some 'd' then
        lexTo "<!".toList ['>'] rest (cutNested 0 rest) .openDoctype readDoctype
      else ⟨['<'], .error .strayBang, '!' :: rest⟩

/-- What follows an opening bracket. -/
def lexMarkup : List Char → Lexed
  | '!' :: rest => lexBang rest
  | '/' :: rest => lexTo "</".toList ['>'] rest (cutTag none rest) .openTag readEndTag
  | '?' :: rest =>
      lexTo ['<'] "?>".toList ('?' :: rest) (cutAt "?>".toList ('?' :: rest)) .openInstruction
        readInstruction
  | rest => lexTo ['<'] ['>'] rest (cutTag none rest) .openTag readTag

def lex : List Char → Lexed
  | '<' :: rest => lexMarkup rest
  | text => ⟨text.takeWhile (· != '<'), .ok (.text (text.takeWhile (· != '<'))),
      text.dropWhile (· != '<')⟩

theorem lexTo_append {opening mark text : List Char} {cut : Option (List Char × List Char)}
    {unclosed : LexProblem} {read : List Char → Except LexProblem Piece}
    (whole : ∀ before after, cut = some (before, after) → before ++ mark ++ after = text) :
    (lexTo opening mark text cut unclosed read).lexeme ++
      (lexTo opening mark text cut unclosed read).rest = opening ++ text := by
  unfold lexTo
  split
  · rename_i before after
    simpa using whole before after rfl
  · simp

theorem lexBang_append (rest : List Char) :
    (lexBang rest).lexeme ++ (lexBang rest).rest = '<' :: '!' :: rest := by
  unfold lexBang
  split
  · rename_i rest
    rw [lexTo_append fun before after found => cutAt_append found]
    cases rest <;> simp
  · rw [lexTo_append fun before after found => cutAt_append found]
    simp
  · split
    · rw [lexTo_append fun before after found => by simpa using cutNested_append found]
      simp
    · simp

theorem lexMarkup_append (rest : List Char) :
    (lexMarkup rest).lexeme ++ (lexMarkup rest).rest = '<' :: rest := by
  unfold lexMarkup
  split
  · exact lexBang_append _
  · rw [lexTo_append fun before after found => by simpa using cutTag_append found]
    simp
  · rw [lexTo_append fun before after found => cutAt_append found]
    simp
  · rw [lexTo_append fun before after found => by simpa using cutTag_append found]
    simp

/-- Lexing splits the text and loses nothing of it. -/
theorem lex_append (text : List Char) : (lex text).lexeme ++ (lex text).rest = text := by
  unfold lex
  split
  · exact lexMarkup_append _
  · exact List.takeWhile_append_dropWhile

theorem lexTo_lexeme {opening mark text : List Char} {cut : Option (List Char × List Char)}
    {unclosed : LexProblem} {read : List Char → Except LexProblem Piece} (starts : opening ≠ []) :
    (lexTo opening mark text cut unclosed read).lexeme ≠ [] := by
  unfold lexTo
  split <;> simp [starts]

theorem lexMarkup_lexeme (rest : List Char) : (lexMarkup rest).lexeme ≠ [] := by
  unfold lexMarkup
  split
  · unfold lexBang
    split
    · exact lexTo_lexeme (by simp)
    · exact lexTo_lexeme (by simp)
    · split
      · exact lexTo_lexeme (by simp)
      · simp
  all_goals exact lexTo_lexeme (by simp)

theorem lex_lexeme {text : List Char} (some : text ≠ []) : (lex text).lexeme ≠ [] := by
  unfold lex
  split
  · exact lexMarkup_lexeme _
  · rename_i noBracket
    cases text with
    | nil => exact absurd rfl some
    | cons c rest =>
        have plain : (c != '<') = true := by
          simp only [bne_iff_ne]
          rintro rfl
          exact noBracket rest rfl
        simp [plain]

theorem lex_rest_length {text : List Char} (some : text ≠ []) :
    (lex text).rest.length < text.length := by
  have whole := congrArg List.length (lex_append text)
  have consumed := List.length_pos_iff.mpr (lex_lexeme some)
  simp only [List.length_append] at whole
  omega

end CatalogueEditor.Markup
