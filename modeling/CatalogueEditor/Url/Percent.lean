import CatalogueEditor.Text.Digit
import CatalogueEditor.Text.Utf8

/-!
Percent encoding: each byte of a character that must not stand for itself is written as a percent
sign and two hexadecimal digits. Encoded text is ASCII as long as the characters that are kept are.
A percent sign without two digits decodes as itself.
-/

namespace CatalogueEditor.Percent

open Text

def encodeByte (b : UInt8) : List Char :=
  ['%', hexDigit (b.toNat / 16), hexDigit (b.toNat % 16)]

/-- A character that stands for itself if `keep` allows, and else is encoded. -/
def encodeChar (keep : Char → Bool) (c : Char) : List Char :=
  if keep c then [c] else (String.utf8EncodeChar c).flatMap encodeByte

def encode (keep : Char → Bool) (text : List Char) : List Char :=
  text.flatMap (encodeChar keep)

/-- The byte that two digits behind a percent sign stand for. -/
def byte? (high low : Char) : Option UInt8 := do
  let high ← digitValue 16 high
  let low ← digitValue 16 low
  return UInt8.ofNat (high * 16 + low)

/-- The bytes of text in which some are percent encoded. -/
def decode : List Char → List UInt8
  | '%' :: high :: low :: rest =>
      match byte? high low with
      | some b => b :: decode rest
      | none => String.utf8EncodeChar '%' ++ decode (high :: low :: rest)
  | c :: rest => String.utf8EncodeChar c ++ decode rest
  | [] => []
termination_by text => text.length

/-- The characters that ASCII shows; the space is not among them. -/
def isGraphic (c : Char) : Bool :=
  '!' ≤ c && c ≤ '~'

end CatalogueEditor.Percent
