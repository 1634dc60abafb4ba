import CatalogueEditor.Text.Digit

/-!
Punycode: text in ASCII letters, digits and hyphens. The ASCII characters stand first, behind them
the others in ascending order, each as a number that tells how far it lies from the one before, in
code points and places. Numbers have digits to the base 36; which digit ends a number depends on a
bias that follows the numbers written so far.
-/

namespace CatalogueEditor.Punycode

open Text

/-- The first code point that is not ASCII. -/
def firstCode : Nat := 128

def firstBias : Nat := 72

/-- A digit below this limit is the last one of its number; `position` counts from one, in steps of
36. -/
def threshold (position bias : Nat) : Nat :=
  if position ≤ bias then 1 else if bias + 26 ≤ position then 26 else position - bias

theorem threshold_pos (position bias : Nat) : 1 ≤ threshold position bias := by
  unfold threshold
  split
  · exact Nat.le_refl 1
  · split <;> omega

/-- Halves the wide distances: what is left, and the bias that was gained. -/
def narrow (distance gained : Nat) : Nat × Nat :=
  if 455 < distance then narrow (distance / 35) (gained + 36) else (distance, gained)
termination_by distance
decreasing_by omega

/-- The bias after a number, in text that has grown to `size` characters. -/
def adapt (delta size : Nat) (isFirst : Bool) : Nat :=
  let start := if isFirst then delta / 700 else delta / 2
  let (distance, gained) := narrow (start + start / size) 0
  gained + 36 * distance / (distance + 38)

/-- The letters stand for the first 26 digits. -/
def digitChar (digit : Nat) : Char :=
  if digit < 26 then Char.ofNat ('a'.toNat + digit) else Char.ofNat ('0'.toNat + digit - 26)

def digitOf (c : Char) : Option Nat :=
  (digitValue 36 c).map fun n => if n < 10 then n + 26 else n - 10

def encodeNumber (bias position n : Nat) : List Char :=
  let limit := threshold position bias
  if n < limit then [digitChar n]
  else
    digitChar (limit + (n - limit) % (36 - limit)) ::
      encodeNumber bias (position + 36) ((n - limit) / (36 - limit))
termination_by n
decreasing_by
  have positive := threshold_pos position bias
  have smaller := Nat.div_le_self (n - threshold position bias) (36 - threshold position bias)
  omega

/-- What is written so far, and what the next number starts from. -/
structure Writing where
  text : List Char
  /-- How many characters the text stands for. -/
  size : Nat
  delta : Nat
  bias : Nat

namespace Writing

def pass (asciiSize code : Nat) (state : Writing) (c : Char) : Writing :=
  if c.toNat < code then { state with delta := state.delta + 1 }
  else if c.toNat = code then
    { text := state.text ++ encodeNumber state.bias 36 state.delta
      size := state.size + 1
      delta := 0
      bias := adapt state.delta (state.size + 1) (state.size == asciiSize) }
  else state

/-- Writes the places of all given code points, which ascend from `next`. -/
def writeCodes (text : List Char) (asciiSize : Nat) (next : Nat) (state : Writing) :
    List Nat → Writing
  | [] => state
  | code :: rest =>
      let reached := { state with delta := state.delta + (code - next) * (state.size + 1) }
      let passed := text.foldl (pass asciiSize code) reached
      writeCodes text asciiSize (code + 1) { passed with delta := passed.delta + 1 } rest

end Writing

def encode (text : List Char) : List Char :=
  let ascii := text.filter (·.toNat < firstCode)
  let others := ((text.map Char.toNat).filter (firstCode ≤ ·)).eraseDups.mergeSort
  let start := if ascii = [] then [] else ascii ++ ['-']
  (Writing.writeCodes text ascii.length firstCode ⟨start, ascii.length, 0, firstBias⟩ others).text

/-- Reads a number: its value and what is left behind it. -/
def readNumber (bias position weight value : Nat) : List Char → Option (Nat × List Char)
  | [] => none
  | c :: rest =>
      match digitOf c with
      | none => none
      | some digit =>
          if digit < threshold position bias then some (value + digit * weight, rest)
          else
            readNumber bias (position + 36) (weight * (36 - threshold position bias))
              (value + digit * weight) rest

theorem readNumber_length {bias position weight value n : Nat} {text rest : List Char}
    (read : readNumber bias position weight value text = some (n, rest)) :
    rest.length < text.length := by
  induction text generalizing position weight value with
  | nil => simp [readNumber] at read
  | cons c tail ih =>
      unfold readNumber at read
      split at read
      · simp at read
      · split at read
        · simp only [Option.some.injEq, Prod.mk.injEq] at read
          simp [← read.2]
        · exact Nat.lt_succ_of_lt (ih read)

def char? (code : Nat) : Option Char :=
  if Nat.isValidChar code then some (Char.ofNat code) else none

/-- Reads the numbers behind the ASCII characters and puts each character at its place. A code point
and a place are told together, as the distance from the ones before. -/
def readNumbers (code place bias : Nat) (found : List Char) (text : List Char) :
    Option (List Char) :=
  if text = [] then some found
  else
    match _ : readNumber bias 36 1 0 text with
    | none => none
    | some (delta, rest) =>
        let size := found.length + 1
        let code := code + (place + delta) / size
        match char? code with
        | none => none
        | some c =>
            readNumbers code ((place + delta) % size + 1) (adapt delta size (place == 0))
              (found.insertIdx ((place + delta) % size) c) rest
termination_by text.length
decreasing_by exact readNumber_length (by assumption)

/-- The text that encoded text stands for. The ASCII characters end at the last hyphen; without a
hyphen there are none. -/
def decode (text : List Char) : Option (List Char) :=
  let numbers := (text.reverse.takeWhile (· != '-')).reverse
  if numbers.length = text.length then readNumbers firstCode 0 firstBias [] text
  else
    let ascii := text.take (text.length - numbers.length - 1)
    if ascii = [] ∨ ascii.any (firstCode ≤ ·.toNat) then none
    else readNumbers firstCode 0 firstBias ascii numbers

end CatalogueEditor.Punycode
