import CatalogueEditor.Text.Alphabetic
import CatalogueEditor.Text.Numeric

/-!
The characters of markup: those a document may hold at all, its white space, and those of names.
A name starts with a letter, an underscore or a colon, and goes on with letters, numbers and four
marks.
-/

namespace CatalogueEditor.Markup

open Text

/-- The characters that a document may hold: the controls tab, line feed and carriage return, and
everything from the space on except the two noncharacters that end the first plane. -/
def isAllowed (c : Char) : Bool :=
  c == '\t' || c == '\n' || c == '\r' || (' ' ≤ c && c.toNat ≤ 0xFFFD) || 0x10000 ≤ c.toNat

/-- The white space of markup, four characters only. -/
def isSpace (c : Char) : Bool :=
  c == ' ' || c == '\t' || c == '\r' || c == '\n'

def startsName (c : Char) : Bool :=
  isAlphabetic c || c == '_' || c == ':'

def continuesName (c : Char) : Bool :=
  isAlphabetic c || isNumeric c || c == '-' || c == '.' || c == '_' || c == ':'

def isName : List Char → Bool
  | [] => false
  | c :: rest => startsName c && rest.all continuesName

/-- The namespace part of a name, what stands before its first colon; none without a colon. -/
def namespacePart (name : List Char) : Option (List Char) :=
  if ':' ∈ name then some (name.takeWhile (· != ':')) else none

end CatalogueEditor.Markup
