import CatalogueEditor.Text.CodePoint

/-!
JSON values as trees, and their compact text. Members of objects keep their order and may repeat a
name.
-/

namespace CatalogueEditor.Json

/-- A number that was read: a natural number of 64 bits, a negative integer of 64 bits, or any
other number, which is kept only as the text of its nearest binary fraction. -/
inductive Number
  | natural (n : UInt64)
  | negative (n : Int)
  | fraction (text : String)
deriving DecidableEq

inductive Tree
  | null
  | bool (b : Bool)
  | number (n : Number)
  | string (s : String)
  | list (items : List Tree)
  | object (members : List (String × Tree))

namespace Tree

def nat (n : Nat) : Tree := number (.natural (UInt64.ofNat n))

def ofOption (f : α → Tree) : Option α → Tree
  | none => null
  | some a => f a

end Tree

def Number.render : Number → List Char
  | natural n => (toString n.toNat).toList
  | negative n => (toString n).toList
  | fraction text => text.toList

/-- The escape of a control character without one of its own: four hexadecimal digits. -/
def controlEscape (c : Char) : List Char :=
  let digits := Nat.toDigits 16 c.toNat
  '\\' :: 'u' :: List.replicate (4 - digits.length) '0' ++ digits

def escapeChar (c : Char) : List Char :=
  if c = '"' then ['\\', '"']
  else if c = '\\' then ['\\', '\\']
  else if c.toNat = 8 then ['\\', 'b']
  else if c.toNat = 9 then ['\\', 't']
  else if c.toNat = 10 then ['\\', 'n']
  else if c.toNat = 12 then ['\\', 'f']
  else if c.toNat = 13 then ['\\', 'r']
  else if c.toNat < 32 then controlEscape c
  else [c]

def renderString (s : String) : List Char :=
  '"' :: s.toList.flatMap escapeChar ++ ['"']

mutual

def Tree.render : Tree → List Char
  | .null => "null".toList
  | .bool b => if b then "true".toList else "false".toList
  | .number n => n.render
  | .string s => renderString s
  | .list [] => "[]".toList
  | .list (item :: rest) => '[' :: (item.render ++ renderItems rest)
  | .object [] => "{}".toList
  | .object ((name, value) :: rest) =>
      '{' :: (renderString name ++ ':' :: (value.render ++ renderMembers rest))

def renderItems : List Tree → List Char
  | [] => [']']
  | item :: rest => ',' :: (item.render ++ renderItems rest)

def renderMembers : List (String × Tree) → List Char
  | [] => ['}']
  | (name, value) :: rest =>
      ',' :: (renderString name ++ ':' :: (value.render ++ renderMembers rest))

end

def Tree.text (tree : Tree) : String :=
  String.ofList tree.render

end CatalogueEditor.Json
