import CatalogueEditor.Text.Digit

/-!
Numeric addresses. The older kind has four bytes and is written with up to four numbers, the last of
which stands for all bytes that are left; the newer kind has eight pieces of sixteen bits, of which
a run of zeros may be left out once.
-/

namespace CatalogueEditor.Address

open Text

/-- A number in an address: decimal, or octal behind a zero, or hexadecimal behind `0x`. -/
def number? : List Char → Option Nat
  | [] => none
  | '0' :: 'x' :: digits => digitsValue 16 0 digits
  | '0' :: 'X' :: digits => digitsValue 16 0 digits
  | '0' :: digits => digitsValue 8 0 digits
  | digits => digitsValue 10 0 digits

/-- The parts between the dots; a dot at the end counts for nothing. -/
def parts (text : List Char) : List (List Char) :=
  let parts := text.splitOn '.'
  if 1 < parts.length ∧ parts.getLast? = some [] then parts.dropLast else parts

/-- Text whose last part is a number, or looks like one, can only be an address. -/
def endsInNumber (text : List Char) : Bool :=
  match (parts text).getLast? with
  | none => false
  | some [] => false
  | some last => last.all Char.isDigit || (number? last).isSome

/-- Puts numbers together: all but the last are bytes, and the last takes what is left of four. -/
def join4 (value : Nat) : (left : Nat) → List Nat → Option Nat
  | 0, _ => none
  | _, [] => none
  | left, [last] => if last < 1 <<< (8 * left) then some ((value <<< (8 * left)) + last) else none
  | left + 1, n :: rest => if n < 256 then join4 (value * 256 + n) left rest else none

def read4? (text : List Char) : Option Nat :=
  ((parts text).mapM number?).bind (join4 0 4)

def write4 (address : Nat) : List Char :=
  let byte (index : Nat) := Nat.toDigits 10 ((address >>> (8 * index)) % 256)
  byte 3 ++ '.' :: (byte 2 ++ '.' :: (byte 1 ++ '.' :: byte 0))

/-- A piece of sixteen bits, one to four hexadecimal digits. -/
def piece? (text : List Char) : Option Nat :=
  if text = [] ∨ 4 < text.length then none else digitsValue 16 0 text

/-- A byte inside a newer address: decimal and without a leading zero. -/
def byte? (text : List Char) : Option Nat :=
  match text with
  | [] => none
  | '0' :: _ :: _ => none
  | digits => (digitsValue 10 0 digits).filter (· < 256)

/-- Two pieces written as an older address. -/
def embedded? (text : List Char) : Option (List Nat) :=
  match (text.splitOn '.').mapM byte? with
  | some [a, b, c, d] => some [a * 256 + b, c * 256 + d]
  | _ => none

/-- Pieces between colons; the last two may be written as an older address if nothing follows. -/
def pieces? (mayEmbed : Bool) : List (List Char) → Option (List Nat)
  | [] => some []
  | [last] => (piece? last).map ([·]) <|> if mayEmbed then embedded? last else none
  | text :: rest => do return (← piece? text) :: (← pieces? mayEmbed rest)

/-- The text before and behind the first pair of colons, if there is one. -/
def cutRun : List Char → Option (List Char × List Char)
  | ':' :: ':' :: rest => some ([], rest)
  | c :: rest => (cutRun rest).map fun (before, behind) => (c :: before, behind)
  | [] => none

/-- The pieces that text between colons stands for; empty text stands for none. -/
def side? (mayEmbed : Bool) (text : List Char) : Option (List Nat) :=
  if text = [] then some [] else pieces? mayEmbed (text.splitOn ':')

def read6? (text : List Char) : Option (List Nat) :=
  match cutRun text with
  | none => (pieces? true (text.splitOn ':')).filter (·.length == 8)
  | some (before, behind) => do
      let front ← side? false before
      let back ← side? true behind
      if front.length + back.length ≤ 7 then
        some (front ++ List.replicate (8 - front.length - back.length) 0 ++ back)
      else none

/-- How many zeros stand from a place on. -/
def zerosAt (pieces : List Nat) (place : Nat) : Nat :=
  ((pieces.drop place).takeWhile (· == 0)).length

/-- Where the longest run of zeros starts, the first one of several. -/
def longestRun (pieces : List Nat) : Nat :=
  (List.range pieces.length).foldl
    (fun best place => if zerosAt pieces best < zerosAt pieces place then place else best) 0

def writePieces : List Nat → List Char
  | [] => []
  | [piece] => Nat.toDigits 16 piece
  | piece :: rest => Nat.toDigits 16 piece ++ ':' :: writePieces rest

/-- The shortest text of an address: its longest run of two zeros or more is left out. -/
def write6 (pieces : List Nat) : List Char :=
  let start := longestRun pieces
  let size := zerosAt pieces start
  if size < 2 then writePieces pieces
  else writePieces (pieces.take start) ++ ':' :: ':' :: writePieces (pieces.drop (start + size))

end CatalogueEditor.Address
