import CatalogueEditor.Text.Digit

/-!
Tables about characters, written as text. A word of a table is about one code point or a range of
them, and may give values behind a colon; all numbers are hexadecimal. A range with a stride is
about every second, third, … code point only, and its values move on with the code points.
-/

namespace CatalogueEditor.Text

structure Row where
  first : Nat
  last : Nat
  stride : Nat
  values : List Nat

namespace Row

def covers (row : Row) (code : Nat) : Bool :=
  row.first ≤ code && code ≤ row.last && (code - row.first) % row.stride == 0

def valuesAt (row : Row) (code : Nat) : List Nat :=
  row.values.map (· + (code - row.first))

def number (digits : List Char) : Nat :=
  (digitsValue 16 0 digits).getD 0

/-- Reads a word such as `100-12E/2:101`. -/
def ofWord (word : List Char) : Row :=
  let subject := word.takeWhile (· != ':')
  let bounds := subject.takeWhile (· != '/')
  let stride := (subject.dropWhile (· != '/')).drop 1
  let first := bounds.takeWhile (· != '-')
  let last := (bounds.dropWhile (· != '-')).drop 1
  let values := (word.dropWhile (· != ':')).drop 1
  { first := number first
    last := number (if last = [] then first else last)
    stride := if stride = [] then 1 else number stride
    values := if values = [] then [] else (values.splitOn '.').map number }

end Row

/-- The rows of a table, whose words stand apart by spaces and line breaks. -/
def readTable (text : String) : List Row :=
  ((text.toList.map fun c => if c = '\n' then ' ' else c).splitOn ' ').filterMap fun word =>
    if word = [] then none else some (Row.ofWord word)

def row? (table : List Row) (code : Nat) : Option Row :=
  table.find? (·.covers code)

def inTable (table : List Row) (c : Char) : Bool :=
  table.any (·.covers c.toNat)

end CatalogueEditor.Text
