import CatalogueEditor.Text.CodePoint

/-!
Blank characters, those with the property White_Space, and text without the blanks at its ends.
Trimmed text neither starts nor ends with a blank, so trimming twice changes nothing more.
-/

namespace CatalogueEditor.Text

/-- The ranges of the property White_Space, in ascending order. -/
def blankRanges : List (Nat × Nat) := [
    (0x9, 0xD), (0x20, 0x20), (0x85, 0x85), (0xA0, 0xA0), (0x1680, 0x1680), (0x2000, 0x200A),
    (0x2028, 0x2029), (0x202F, 0x202F), (0x205F, 0x205F), (0x3000, 0x3000)]

def isBlank (c : Char) : Bool :=
  inRanges blankRanges c

/-- The text without trailing members of a class. -/
def dropTrailing (p : Char → Bool) (cs : List Char) : List Char :=
  (cs.reverse.dropWhile p).reverse

def trimChars (cs : List Char) : List Char :=
  dropTrailing isBlank (cs.dropWhile isBlank)

def trim (s : String) : String :=
  String.ofList (trimChars s.toList)

end CatalogueEditor.Text
