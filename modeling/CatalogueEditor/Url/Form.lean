import CatalogueEditor.Url.Percent

/-!
Form encoding: fields with a name and a value, joined into one line of ASCII. A space is written as
a plus sign, and so is read back as one; fields are separated by ampersands, and what stands before
the first equals sign is the name.
-/

namespace CatalogueEditor.Form

open Text

abbrev Field := List Char × List Char

/-- The characters that stand for themselves: ASCII letters and digits and four marks. -/
def isPlain (c : Char) : Bool :=
  c.isAlphanum || c == '*' || c == '-' || c == '.' || c == '_'

def encodeChar (c : Char) : List Char :=
  if c = ' ' then ['+'] else Percent.encodeChar isPlain c

def encode (text : List Char) : List Char :=
  text.flatMap encodeChar

def encodeField (field : Field) : List Char :=
  encode field.1 ++ '=' :: encode field.2

def append (written : List Char) (field : Field) : List Char :=
  if written = [] then encodeField field else written ++ '&' :: encodeField field

def write (fields : List Field) : List Char :=
  fields.foldl append []

def decode (text : List Char) : List Char :=
  ofUtf8 (Percent.decode (text.map fun c => if c = '+' then ' ' else c))

/-- The text before and behind the first occurrence of a character; all of it and nothing if there
is none. -/
def cut (mark : Char) (text : List Char) : List Char × List Char :=
  (text.takeWhile (· != mark), (text.dropWhile (· != mark)).drop 1)

def readField (text : List Char) : Field :=
  let (name, value) := cut '=' text
  (decode name, decode value)

/-- The fields of a line; between two ampersands that touch there is none. -/
def read (line : List Char) : List Field :=
  (line.splitOn '&').filterMap fun part => if part = [] then none else some (readField part)

def get? (fields : List Field) (name : String) : Option (List Char) :=
  fields.lookup name.toList

end CatalogueEditor.Form
