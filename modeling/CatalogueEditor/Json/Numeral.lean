import CatalogueEditor.Decimal.Shortest
import CatalogueEditor.Json.Reader
import CatalogueEditor.Json.Tree

/-!
Numbers in JSON text. A number without fraction and exponent that fits 64 bits is kept exactly. Any
other is scaled from those of its digits that fit 64 bits, and is too large if that overflows.
-/

namespace CatalogueEditor.Json

def isDigit (c : Char) : Bool :=
  '0' ≤ c && c ≤ '9'

def digitOf (c : Char) : Nat :=
  c.toNat - '0'.toNat

/-- The digits that were taken into a number of 64 bits, and how many were left out because with
them it would overflow. Once a digit is left out the others are too. -/
structure Significand where
  value : Nat
  dropped : Nat

def Significand.take (s : Significand) (c : Char) : Significand :=
  if s.dropped = 0 ∧ s.value * 10 + digitOf c < UInt64.size then ⟨s.value * 10 + digitOf c, 0⟩
  else ⟨s.value, s.dropped + 1⟩

/-- Takes digits behind those of a number. -/
def Significand.ofDigits (value : Nat) (digits : List Char) : Significand :=
  digits.foldl Significand.take ⟨value, 0⟩

def powerOfTen (n : Nat) : Float :=
  Float.ofScientific 1 false n

/-- Divides by ten so many times, in steps that the binary format can hold. -/
def scaleDown (x : Float) (n : Nat) : Float :=
  if n ≤ 308 then x / powerOfTen n
  else if x == 0 then x
  else scaleDown (x / powerOfTen 308) (n - 308)
termination_by n

/-- The number with this significand and exponent, or none if it is too large. -/
def scaled? (significand : Nat) (exponent : Int) : Option Float :=
  let x := Float.ofNat significand
  if exponent < 0 then some (scaleDown x exponent.natAbs)
  else if exponent ≤ 308 then
    let y := x * powerOfTen exponent.toNat
    if y.isInf then none else some y
  else if significand = 0 then some x
  else none

def fractionOf (positive : Bool) (x : Float) : Number :=
  .fraction (Decimal.render (if positive then x else -x))

namespace Reader

def scaledNumber (positive : Bool) (significand : Nat) (exponent : Int) : Reader Number :=
  match scaled? significand exponent with
  | some x => pure (fractionOf positive x)
  | none => fail .numberTooLarge

/-- The digits of an exponent as long as they make a number of 31 bits: the number, how many digits
were read, and whether all of them were. A digit too many counts as read. -/
def exponentDigits (value : Nat) : List Char → Nat × Nat × Bool
  | [] => (value, 0, true)
  | c :: rest =>
      if value * 10 + digitOf c < UInt32.size / 2 then
        let (total, count, all) := exponentDigits (value * 10 + digitOf c) rest
        (total, count + 1, all)
      else (value, 1, false)

def exponentPart (positive : Bool) (significand : Nat) (scale : Int) : Reader Number := do
  skip
  let sign ← peek
  if sign = some '+' ∨ sign = some '-' then skip
  match ← peek with
  | none => fail .endInValue
  | some c =>
      if !isDigit c then failAhead .badNumber
      else
        let (exponent, count, fits) := exponentDigits 0 (← lookWhile isDigit)
        skipMany count
        if fits then
          scaledNumber positive significand
            (if sign = some '-' then scale - exponent else scale + exponent)
        else if significand ≠ 0 ∧ sign ≠ some '-' then fail .numberTooLarge
        else
          let _ ← takeWhile isDigit
          return fractionOf positive 0

/-- The end of a number from its point on. -/
def decimalPart (positive : Bool) (whole : Significand) : Reader Number := do
  skip
  let digits ← takeWhile isDigit
  let next ← peek
  if digits = [] then
    if next = none then fail .endInValue else failAhead .badNumber
  else
    let all := Significand.ofDigits whole.value digits
    let scale : Int := whole.dropped - (digits.length - all.dropped : Nat)
    if next = some 'e' ∨ next = some 'E' then exponentPart positive all.value scale
    else scaledNumber positive all.value scale

/-- A number without fraction and exponent. There is no negative zero among the integers. -/
def wholeNumber (positive : Bool) (n : Nat) : Number :=
  if positive then .natural (UInt64.ofNat n)
  else if 0 < n ∧ n ≤ UInt64.size / 2 then .negative (-n)
  else fractionOf positive (Float.ofNat n)

def afterWhole (positive : Bool) (whole : Significand) : Reader Number := do
  let next ← peek
  if next = some '.' then decimalPart positive whole
  else if next = some 'e' ∨ next = some 'E' then exponentPart positive whole.value whole.dropped
  else if whole.dropped = 0 then return wholeNumber positive whole.value
  else scaledNumber positive whole.value whole.dropped

def unsigned (positive : Bool) : Reader Number := do
  match ← peek with
  | none => fail .endInValue
  | some c =>
      if c = '0' then
        skip
        match ← peek with
        | some d => if isDigit d then failAhead .badNumber else afterWhole positive ⟨0, 0⟩
        | none => afterWhole positive ⟨0, 0⟩
      else if isDigit c then
        afterWhole positive (.ofDigits 0 (← takeWhile isDigit))
      else failAhead .badNumber

/-- A number that starts with this character. -/
def number (first : Char) : Reader Number :=
  if first = '-' then do
    skip
    unsigned false
  else unsigned true

end Reader

def startsNumber (c : Char) : Bool :=
  c == '-' || isDigit c

def Number.found : Number → Found
  | natural n => .integer n.toNat
  | negative n => .integer n
  | fraction text => .fraction text

end CatalogueEditor.Json
