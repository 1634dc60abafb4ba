import CatalogueEditor.Json.Decode
import CatalogueEditor.Json.Tree

/-!
Tagged records: a tag tells which fields there are, and it may stand behind them. So the fields are
kept as trees until the tag is known, and then decoded. Faults that are found in trees have no place
in the text any more.
-/

namespace CatalogueEditor.Json

/-- How deep lists and objects may be nested in trees, the outermost one included. -/
def depthLimit : Nat := 127

namespace Reader

variable {α τ : Type}

/-- A value as a tree, inside so many more levels of brackets than it may open. -/
def tree : Nat → Reader Tree
  | 0 => fail .tooDeep
  | depth + 1 => do
      match ← peekToken with
      | none => fail .endInValue
      | some c =>
          if c = 'n' then
            skip
            letters "ull".toList
            return .null
          else if c = 't' then
            skip
            letters "rue".toList
            return .bool true
          else if c = 'f' then
            skip
            letters "alse".toList
            return .bool false
          else if startsNumber c then return .number (← number c)
          else if c = '"' then return .string (← quoted)
          else if c = '[' then
            if depth = 0 then failAhead .tooDeep
            else return .list (← inList (items (tree depth)))
          else if c = '{' then
            if depth = 0 then failAhead .tooDeep
            else
              return .object (← inObject (members (fun read name => do
                colon
                return read ++ [(name, ← tree depth)]) []))
          else failAhead .expectedValue

/-- A tagged record: its tag and what else it holds. -/
def tagged (tag : String) (known : List (String × τ)) (expected : String) :
    Reader (τ × Tree) := settled do
  match ← peekToken with
  | some '{' =>
      inObject do
        let (found, rest) ← members (fun (found, rest) name => do
          if name = tag then return (some (← once tag (found : Option τ).isSome (variant known)), rest)
          else
            colon
            return (found, rest ++ [(name, ← tree depthLimit)])) (none, [])
        return (← required tag found, .object rest)
  | some '[' =>
      inList do
        match ← nextItem true (variant known) with
        | none => failFloating (.missingField tag)
        | some found => return (found, .list (← moreItems (tree depthLimit) []))
  | _ => wrongTypeHere expected

end Reader

namespace Tree

def found : Tree → Found
  | null => .null
  | bool b => .bool b
  | number n => n.found
  | string s => .string s
  | list _ => .list
  | object _ => .object

end Tree

inductive Scalar
  | text
  | optionalText
  | naturalBelow (limit : Nat) (expected : String)

inductive Decoded
  | text (s : String)
  | optionalText (s : Option String)
  | natural (n : Nat)

def Tree.asText : Tree → Except Cause String
  | .string s => .ok s
  | other => .error (.wrongType other.found "a string")

def Tree.asScalar (tree : Tree) : Scalar → Except Cause Decoded
  | .text => tree.asText.map .text
  | .optionalText =>
      match tree with
      | .null => .ok (.optionalText none)
      | other => other.asText.map fun s => .optionalText (some s)
  | .naturalBelow limit expected =>
      match tree with
      | .number n => (n.below limit expected).map .natural
      | other => .error (.wrongType other.found expected)

/-- A variant of an enumeration without content: its name, or an object of it and null. -/
def Tree.asVariant {α : Type} (known : List (String × α)) : Tree → Except Cause α
  | .string name => variant? known name
  | .object [(name, content)] =>
      (variant? known name).bind fun a =>
        match content with
        | .null => .ok a
        | .object [] => .ok a
        | other => .error (.wrongType other.found "unit")
  | .object _ => .error (.wrongValue .object "map with a single key")
  | other => .error (.wrongType other.found "string or map")

def elements (count : Nat) : String :=
  toString count ++ (if count = 1 then " element" else " elements")

/-- Decodes the fields of a record that is written as a list. -/
def decodeList (expected : String) (index : Nat) :
    List (String × Scalar) → List Tree → Except Cause (List Decoded)
  | [], [] => .ok []
  | [], rest =>
      .error (.wrongLength (index + rest.length) (elements index ++ " in sequence"))
  | _ :: _, [] => .error (.wrongLength index expected)
  | (_, type) :: fields, item :: rest =>
      match item.asScalar type with
      | .error cause => .error cause
      | .ok value => (decodeList expected (index + 1) fields rest).map (value :: ·)

/-- Decodes the known members of a record, in the order in which they are written. -/
def decodeMembers (fields : List (String × Scalar)) (read : List (String × Decoded)) :
    List (String × Tree) → Except Cause (List (String × Decoded))
  | [] => .ok read
  | (name, value) :: rest =>
      match fields.lookup name with
      | none => decodeMembers fields read rest
      | some type =>
          if (read.lookup name).isSome then .error (.duplicateField name)
          else
            match value.asScalar type with
            | .error cause => .error cause
            | .ok value => decodeMembers fields (read ++ [(name, value)]) rest

/-- Puts decoded members into the order of the fields; only optional ones may be missing. -/
def inOrder (read : List (String × Decoded)) :
    List (String × Scalar) → Except Cause (List Decoded)
  | [] => .ok []
  | (name, type) :: fields =>
      match read.lookup name, type with
      | some value, _ => (inOrder read fields).map (value :: ·)
      | none, .optionalText => (inOrder read fields).map (.optionalText none :: ·)
      | none, _ => .error (.missingField name)

/-- Decodes the fields of the variant of a tagged record. -/
def Tree.fields (tree : Tree) (variant : String) (fields : List (String × Scalar)) :
    Except Cause (List Decoded) :=
  match tree with
  | .list items =>
      if fields = [] then
        if items = [] then .ok []
        else .error (.wrongLength items.length (elements 0 ++ " in sequence"))
      else
        decodeList ("struct variant " ++ variant ++ " with " ++ elements fields.length) 0 fields
          items
  | .object members =>
      if fields = [] then .ok []
      else (decodeMembers fields [] members).bind fun read => inOrder read fields
  | other => .error (.wrongType other.found ("struct variant " ++ variant))

end CatalogueEditor.Json
