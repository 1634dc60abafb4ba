/-!
The shortest decimal text that reads back as a given binary fraction, and the form in which numbers
with a fraction are written. The digits are found on the decimal grids from coarse to fine: the
first grid with a point that rounds to the number wins, and on it the nearer point.
-/

namespace CatalogueEditor.Decimal

/-- A positive number `mantissa * 2 ^ exponent` of a binary format. -/
structure Binary where
  mantissa : Nat
  exponent : Int
  /-- Whether the neighbour below is half as far away as the one above. -/
  unevenBelow : Bool

/-- The number that has this pattern of bits, without its sign; none for zero, infinities and what
is no number. -/
def Binary.ofBits? (bits : UInt64) : Option Binary :=
  let raw : Nat := bits.toNat % (1 <<< 63)
  let field : Nat := raw >>> 52
  let fraction : Nat := raw % (1 <<< 52)
  if raw = 0 ∨ field = 2047 then none
  else if field = 0 then some ⟨fraction, -1074, false⟩
  else some ⟨(1 <<< 52) + fraction, (field : Int) - 1075, fraction = 0 ∧ 1 < field⟩

/-- A number written as digits with a scale: `digits * 10 ^ scale`. -/
structure Scaled where
  digits : Nat
  scale : Int

/-- Compares `a * 2 ^ p * 10 ^ s` with `b * 2 ^ q * 10 ^ t` by bringing both to natural numbers. -/
def compareScaled (a : Nat) (p s : Int) (b : Nat) (q t : Int) : Ordering :=
  let left := (a <<< (p - q).toNat) * Nat.pow 10 (s - t).toNat
  let right := (b <<< (q - p).toNat) * Nat.pow 10 (t - s).toNat
  compare left right

def digitCount (n : Nat) : Nat :=
  (Nat.toDigits 10 n).length

/-- The whole part of `mantissa * 2 ^ exponent / 10 ^ scale`. -/
def Binary.wholeAt (x : Binary) (scale : Int) : Nat :=
  (x.mantissa <<< x.exponent.toNat) * Nat.pow 10 (-scale).toNat /
    ((1 <<< (-x.exponent).toNat) * Nat.pow 10 scale.toNat)

/-- The power of ten at or below the number: the exponent of its first decimal digit. Below one it
is found by looking at a grid so fine that the number has a whole part on it. -/
def Binary.leading (x : Binary) : Int :=
  (digitCount (x.wholeAt (-400)) : Int) - 401

/-- Whether the grid point rounds to the number: it lies between the midpoints to the neighbours,
which themselves round to it if the mantissa is even. -/
def Binary.contains (x : Binary) (point : Scaled) : Bool :=
  let low := 4 * x.mantissa - (if x.unevenBelow then 1 else 2)
  let high := 4 * x.mantissa + 2
  let even := x.mantissa % 2 = 0
  let below := compareScaled low (x.exponent - 2) 0 point.digits 0 point.scale
  let above := compareScaled point.digits 0 point.scale high (x.exponent - 2) 0
  (below == .lt || (even && below == .eq)) && (above == .lt || (even && above == .eq))

/-- The nearer of two neighbouring grid points, the one with an even last digit in a tie between
them. -/
def Binary.nearer (x : Binary) (low high : Scaled) : Scaled :=
  match compareScaled (2 * x.mantissa) x.exponent 0 (low.digits + high.digits) 0 low.scale with
  | .lt => low
  | .gt => high
  | .eq => if low.digits % 2 = 0 then low else high

/-- The best point of the grid with so many digits, if one rounds to the number. -/
def Binary.onGrid? (x : Binary) (digits : Nat) : Option Scaled :=
  let scale := x.leading - digits + 1
  let low : Scaled := ⟨x.wholeAt scale, scale⟩
  let high : Scaled := ⟨x.wholeAt scale + 1, scale⟩
  match x.contains low, x.contains high with
  | true, true => some (x.nearer low high)
  | true, false => some low
  | false, true => some high
  | false, false => none

/-- Seventeen digits always suffice. -/
def Binary.shortest (x : Binary) : Scaled :=
  ((List.range 17).findSome? fun count => x.onGrid? (count + 1)).getD ⟨x.mantissa, 0⟩

def dropTrailingZeros (digits : List Char) : List Char :=
  (digits.reverse.dropWhile (· == '0')).reverse

/-- Numbers from 10 to the power -5 to below 10 to the power 16 are written by position, with at
least one digit on either side of the point; others with an exponent that always has a sign. -/
def Scaled.render (x : Scaled) : List Char :=
  let all := Nat.toDigits 10 x.digits
  let leading := x.scale + all.length - 1
  let digits := dropTrailingZeros all
  if -5 ≤ leading ∧ leading ≤ 15 then
    if leading < 0 then
      "0.".toList ++ List.replicate (-leading - 1).toNat '0' ++ digits
    else
      let whole := leading.toNat + 1
      let padded := digits ++ List.replicate (whole - digits.length) '0'
      let fraction := padded.drop whole
      padded.take whole ++ ['.'] ++ (if fraction = [] then ['0'] else fraction)
  else
    let power := Nat.toDigits 10 leading.natAbs
    digits.take 1 ++ (if digits.length = 1 then [] else '.' :: digits.drop 1) ++
      ['e', if leading < 0 then '-' else '+'] ++ power

def render (x : Float) : String :=
  let bits := x.toBits
  let sign := if 1 <<< 63 ≤ bits.toNat then ['-'] else []
  match Binary.ofBits? bits with
  | none => String.ofList (sign ++ "0.0".toList)
  | some binary => String.ofList (sign ++ binary.shortest.render)

end CatalogueEditor.Decimal
