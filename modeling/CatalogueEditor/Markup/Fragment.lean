import CatalogueEditor.Markup.Element
import CatalogueEditor.Markup.Piece

/-!
Markup fragments: a message value is accepted if it is well-formed as the content of one element,
called root. A fragment that is refused is reported with the first problem and the number of bytes
of the fragment and of the end tag after it that were consumed when the problem was found.
-/

namespace CatalogueEditor.Markup

open Text

inductive Problem
  | forbidden (c : Char)
  | lexical (problem : LexProblem)
  | tag (problem : TagProblem)
  | mismatched (expected found : List Char)
  | unmatched (found : List Char)
  | unclosed (name : List Char)
  | cdataEndInText
  | value (problem : ValueProblem)
  | hyphensInComment
  | declaration
  | doctype
  | afterRoot

def Problem.message : Problem → String
  | forbidden c => "character " ++ codePointName c ++ " is not allowed"
  | lexical problem => problem.message
  | tag problem => problem.message
  | mismatched expected found =>
      "ill-formed document: expected `</" ++ String.ofList expected ++ ">`, but `</" ++
        String.ofList found ++ ">` was found"
  | unmatched found =>
      "ill-formed document: close tag `</" ++ String.ofList found ++
        ">` does not match any open tag"
  | unclosed name => "unclosed <" ++ String.ofList name ++ ">"
  | cdataEndInText => "']]>' in text"
  | value problem => problem.message
  | hyphensInComment => "'--' inside a comment"
  | declaration => "XML declaration inside the fragment"
  | doctype => "DOCTYPE inside the fragment"
  | afterRoot => "content after the root element"

structure MarkupError where
  position : Nat
  problem : Problem

def MarkupError.message (e : MarkupError) : String :=
  "at byte " ++ toString e.position ++ ": " ++ e.problem.message

def occurs (word text : List Char) : Bool :=
  (cutAt word text).isSome

def checkText (body : List Char) : Except Problem Unit :=
  if occurs "]]>".toList body then .error .cdataEndInText
  else
    match resolveAllowed body with
    | .error problem => .error (.value problem)
    | .ok _ => .ok ()

def checkComment (body : List Char) : Except Problem Unit :=
  if occurs "--".toList body || body.getLast? == some '-' then .error .hyphensInComment else .ok ()

def checkTagIn (opened : List OpenElement) (content : List Char) : Except Problem OpenElement :=
  match checkTag opened content with
  | .error problem => .error (.tag problem)
  | .ok element => .ok element

/-- The open elements after a piece inside the root. -/
def advanceInside (opened : List OpenElement) : Piece → Except Problem (List OpenElement)
  | .text body => (checkText body).map fun _ => opened
  | .comment body => (checkComment body).map fun _ => opened
  | .cdata _ => .ok opened
  | .instruction _ => .ok opened
  | .declaration => .error .declaration
  | .doctype => .error .doctype
  | .startTag content => (checkTagIn opened content).map fun element => element :: opened
  | .emptyTag content => (checkTagIn opened content).map fun _ => opened
  | .endTag name =>
      match opened with
      | [] => .error (.unmatched name)
      | innermost :: outer =>
          if innermost.name = name then .ok outer else .error (.mismatched innermost.name name)

/-- Once the root is closed only comments, instructions and white space may follow. -/
def advanceAfter : Piece → Except Problem Unit
  | .comment _ => .ok ()
  | .instruction _ => .ok ()
  | .text body => if body.all isSpace then .ok () else .error .afterRoot
  | .endTag name => .error (.unmatched name)
  | _ => .error .afterRoot

/-- The open elements after a piece; none are open once the root is closed. -/
def advance (opened : List OpenElement) (piece : Piece) : Except Problem (List OpenElement) :=
  match opened with
  | [] => (advanceAfter piece).map fun _ => []
  | _ :: _ => advanceInside opened piece

/-- Checks the rest of a document, `position` bytes of which were consumed. -/
def checkFrom (opened : List OpenElement) (position : Nat) (text : List Char) :
    Except MarkupError Unit :=
  if some : text = [] then
    -- The end tag of the root was the last text; what is open here was left open by the fragment.
    match opened with
    | [] => .ok ()
    | innermost :: _ => .error ⟨position, .unclosed innermost.name⟩
  else
    let step := lex text
    let next := position + utf8Length step.lexeme
    match step.found with
    | .error problem => .error ⟨next, .lexical problem⟩
    | .ok piece =>
        match advance opened piece with
        | .error problem => .error ⟨next, problem⟩
        | .ok opened =>
            have := lex_rest_length some
            checkFrom opened next step.rest
termination_by text.length

/-- The first character that no document may hold, with its place. -/
def findForbidden (position : Nat) : List Char → Option (Nat × Char)
  | [] => none
  | c :: rest =>
      if isAllowed c then findForbidden (position + c.utf8Size) rest else some (position, c)

/-- The element around every fragment. -/
def root : OpenElement := ⟨"root".toList, []⟩

def closeRoot : List Char := "</root>".toList

def validateChars (fragment : List Char) : Except MarkupError Unit :=
  match findForbidden 0 fragment with
  | some (position, c) => .error ⟨position, .forbidden c⟩
  | none => checkFrom [root] 0 (fragment ++ closeRoot)

/-- Accepts a fragment or reports its first problem. -/
def validate (fragment : String) : Except MarkupError Unit :=
  validateChars fragment.toList

def isValid (fragment : String) : Bool :=
  (validate fragment).isOk

end CatalogueEditor.Markup
