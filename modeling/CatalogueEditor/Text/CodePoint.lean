/-!
Sets of characters given as ranges of code points, the size of text in UTF-8, and code points
written in hexadecimal.
-/

namespace CatalogueEditor.Text

/-- Membership in a set of characters written as inclusive ranges of code points. -/
def inRanges (ranges : List (Nat × Nat)) (c : Char) : Bool :=
  ranges.any fun range => range.1 ≤ c.toNat && c.toNat ≤ range.2

/-- The number of bytes that the text takes in UTF-8. -/
def utf8Length : List Char → Nat
  | [] => 0
  | c :: rest => c.utf8Size + utf8Length rest

@[simp] theorem utf8Length_nil : utf8Length [] = 0 := rfl

@[simp] theorem utf8Length_cons (c : Char) (rest : List Char) :
    utf8Length (c :: rest) = c.utf8Size + utf8Length rest := rfl

@[simp] theorem utf8Length_append (front back : List Char) :
    utf8Length (front ++ back) = utf8Length front + utf8Length back := by
  induction front with
  | nil => simp
  | cons c rest ih => simp [ih, Nat.add_assoc]

theorem utf8ByteSize_ofList (text : List Char) :
    (String.ofList text).utf8ByteSize = utf8Length text := by
  induction text with
  | nil => rfl
  | cons c rest ih =>
      rw [String.ofList_cons, String.utf8ByteSize_append, String.utf8ByteSize_singleton, ih,
        utf8Length_cons]

theorem utf8Length_toList (text : String) : utf8Length text.toList = text.utf8ByteSize := by
  rw [← utf8ByteSize_ofList, String.ofList_toList]

/-- The hexadecimal digits of a number, most significant first, in upper case. -/
def hexUpper (n : Nat) : List Char :=
  (Nat.toDigits 16 n).map Char.toUpper

/-- A code point as it is named in messages: at least four hexadecimal digits after the mark. -/
def codePointName (c : Char) : String :=
  let digits := hexUpper c.toNat
  "U+" ++ String.ofList (List.replicate (4 - digits.length) '0' ++ digits)

end CatalogueEditor.Text
