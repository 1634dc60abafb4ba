import CatalogueEditor.Text.Composition
import CatalogueEditor.Text.Direction
import CatalogueEditor.Text.Folding
import CatalogueEditor.Text.Joining
import CatalogueEditor.Text.Quote
import CatalogueEditor.Url.Punycode

/-!
Domains, in the form in which they are looked up: labels of small ASCII letters, digits and marks.
Characters are folded first; labels that then hold others than ASCII are encoded. What is encoded
already must decode to a label that could have been written as it is.
-/

namespace CatalogueEditor.Domain

open Text

/-- Starts a label that is encoded. -/
def encodedMark : List Char := "xn--".toList

/-- The ASCII characters that no domain holds. -/
def isForbidden (c : Char) : Bool :=
  c ≤ ' ' || c == '\x7F' || "#%/:<>?@[\\]^|".toList.contains c

/-- Characters that make no names although they show or are marks: two vowels that are only implied,
descriptions of characters, and what stands for objects and unknown characters. -/
def namelessRanges : List (Nat × Nat) := [
    (0x17B4, 0x17B5), (0x2FF0, 0x2FFF), (0x31EF, 0x31EF), (0xFFFC, 0xFFFD)]

def isNameless (c : Char) : Bool :=
  128 ≤ c.toNat && (inRanges namelessRanges c || isHidden c && !isMark c)

/-- The joiners, which change how the characters around them join. -/
def isJoiner (c : Char) : Bool :=
  c == '\u200C' || c == '\u200D'

/-- What a character becomes in a domain. -/
def mapChar (c : Char) : Option (List Char) :=
  if isJoiner c then some [c]
  else if fold c ≠ [c] then some (fold c)
  else if isNameless c then none
  else some [c]

/-- A joiner stands behind a mark that suppresses a vowel; one that separates may also stand between
two letters that would join. -/
def joinerFits (before : List Char) (joiner : Char) (after : List Char) : Bool :=
  match before with
  | [] => false
  | c :: _ =>
      combiningClass c == 9 ||
        joiner == '\u200C' && (before.dropWhile isTransparent).head?.any joinsLeft &&
          (after.dropWhile isTransparent).head?.any joinsRight

/-- Whether all joiners of a label fit; what stands before is in reverse. -/
def joinersFit (before : List Char) : List Char → Bool
  | [] => true
  | c :: after => (!isJoiner c || joinerFits before c after) && joinersFit (c :: before) after

/-- Whether a label that is not encoded may stand in a domain. -/
def isLabel (label : List Char) : Bool :=
  label.all (fun c => mapChar c == some [c]) && compose label == label &&
    !(label.head?.any isMark) && joinersFit [] label

/-- The label that is written as this one. -/
def decodeLabel (label : List Char) : Option (List Char) :=
  if encodedMark.isPrefixOf label then
    match Punycode.decode (label.drop encodedMark.length) with
    | none => none
    | some decoded => if decoded.all (·.toNat < 128) then none else some decoded
  else some label

def encodeLabel (label : List Char) : List Char :=
  if label.all (·.toNat < 128) then label else encodedMark ++ Punycode.encode label

/-- Whether a label is written in one direction only. One that runs from the right starts with a
letter, holds no letter from the left nor numbers of two kinds, and ends with a letter or a number;
one that runs from the left holds nothing from the right. -/
def isOneDirectional (label : List Char) : Bool :=
  let all := label.map direction
  let last := (all.reverse.dropWhile (· == .mark)).head?
  match all with
  | [] => true
  | .left :: _ =>
      !(all.any [.right, .arabicLetter, .arabicNumber].contains) &&
        last.any [.left, .europeanNumber].contains
  | first :: _ =>
      [.right, .arabicLetter].contains first && !(all.contains .left) &&
        !(all.contains .europeanNumber && all.contains .arabicNumber) &&
        last.any [.right, .arabicLetter, .europeanNumber, .arabicNumber].contains

/-- Directions matter as soon as something in the domain runs from the right. -/
def directionsFit (labels : List (List Char)) : Bool :=
  let runsRight (c : Char) := [.right, .arabicLetter, .arabicNumber].contains (direction c)
  !(labels.any (·.any runsRight)) || labels.all isOneDirectional

def join : List (List Char) → List Char
  | [] => []
  | [label] => label
  | label :: rest => label ++ '.' :: join rest

/-- The form of a domain in which it is looked up, if the text is a domain. -/
def ofText? (text : List Char) : Option (List Char) := do
  let mapped ← text.mapM mapChar
  let labels ← ((compose mapped.flatten).splitOn '.').mapM decodeLabel
  let written := join (labels.map encodeLabel)
  if labels.all isLabel && directionsFit labels && !(written.any isForbidden) then some written
  else none

end CatalogueEditor.Domain
