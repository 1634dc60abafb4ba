import CatalogueEditor.Markup.Attribute
import CatalogueEditor.Markup.Reference

/-!
What a start tag or an empty tag must satisfy by itself and where it stands: names, quoted values
whose references stand for allowed characters, distinct keys, and namespace prefixes that are
declared on the element or around it.
-/

namespace CatalogueEditor.Markup

open Text

inductive TagProblem
  | elementName (name : List Char)
  | badAttribute (problem : AttributeProblem)
  | attributeName (key : List Char)
  | bracketInValue (key : List Char)
  | value (problem : ValueProblem)
  | emptyNamespace (bound : List Char)
  | undeclared (missing : List Char)

def TagProblem.message : TagProblem → String
  | elementName name => "invalid element name '" ++ String.ofList name ++ "'"
  | badAttribute problem => problem.message
  | attributeName key => "invalid attribute name '" ++ String.ofList key ++ "'"
  | bracketInValue key => "'<' in the value of '" ++ String.ofList key ++ "'"
  | value problem => problem.message
  | emptyNamespace bound => "prefix '" ++ String.ofList bound ++ "' bound to an empty namespace"
  | undeclared missing => "undeclared namespace prefix '" ++ String.ofList missing ++ "'"

/-- The namespace prefixes that the attributes of a tag declare, and those that their names use. -/
structure Namespaces where
  declared : List (List Char)
  used : List (List Char)

/-- The prefixes declared or used by one attribute. The attribute that sets the default namespace
declares and uses none. -/
def Attribute.namespaces (read : Attribute) (value : List Char) : Except TagProblem Namespaces :=
  if "xmlns:".toList.isPrefixOf read.key then
    if value = [] then .error (.emptyNamespace (read.key.drop 6))
    else .ok ⟨[read.key.drop 6], []⟩
  else .ok ⟨[], (namespacePart read.key).toList⟩

def Attribute.check (read : Attribute) : Except TagProblem Namespaces :=
  if !isName read.key then .error (.attributeName read.key)
  else if '<' ∈ read.value then .error (.bracketInValue read.key)
  else
    match resolveAllowed read.value with
    | .error problem => .error (.value problem)
    | .ok value => read.namespaces value

/-- Reads and checks the attributes at the end of a tag content of `size` bytes, one after the
other, so that the first fault from the left is reported. -/
def checkAttributes (size : Nat) (seen : SeenKeys) (text : List Char) :
    Except TagProblem Namespaces :=
  match h : text.dropWhile isSpace with
  | [] => .ok ⟨[], []⟩
  | first :: rest =>
      match read : readAttribute size seen first rest with
      | .error problem => .error (.badAttribute problem)
      | .ok (found, place, after) =>
          have : after.length < text.length := by
            have shorter := (List.dropWhile_sublist (l := text) isSpace).length_le
            have := readAttribute_length read
            rw [h] at shorter
            simp only [List.length_cons] at shorter
            omega
          match found.check with
          | .error problem => .error problem
          | .ok here =>
              match checkAttributes size (seen ++ [(found.key, place)]) after with
              | .error problem => .error problem
              | .ok later => .ok ⟨here.declared ++ later.declared, here.used ++ later.used⟩
termination_by text.length

/-- An element that is open: its name and the namespace prefixes that its tag declares. -/
structure OpenElement where
  name : List Char
  declared : List (List Char)

/-- A prefix is known if it is the reserved one or declared by one of the elements. -/
def inScope (elements : List OpenElement) (candidate : List Char) : Bool :=
  candidate == "xml".toList || elements.any (·.declared.contains candidate)

/-- Checks the content of a tag inside the open elements, innermost first. -/
def checkTag (opened : List OpenElement) (content : List Char) : Except TagProblem OpenElement :=
  let name := content.takeWhile (!isSpace ·)
  if !isName name then .error (.elementName name)
  else
    match checkAttributes (utf8Length content) [] (content.dropWhile (!isSpace ·)) with
    | .error problem => .error problem
    | .ok found =>
        let element : OpenElement := ⟨name, found.declared⟩
        let used := (namespacePart name).toList ++ found.used
        match used.find? (!inScope (element :: opened) ·) with
        | some missing => .error (.undeclared missing)
        | none => .ok element

end CatalogueEditor.Markup
