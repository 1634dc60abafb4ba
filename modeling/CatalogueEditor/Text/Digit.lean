/-!
Digits to a base, the letters counting on from ten, and numbers written with them.
-/

namespace CatalogueEditor.Text

/-- The value of a digit whatever its case, if it is a digit to the base. -/
def digitValue (base : Nat) (c : Char) : Option Nat :=
  let value? :=
    if '0' ≤ c ∧ c ≤ '9' then some (c.toNat - '0'.toNat)
    else if 'a' ≤ c ∧ c ≤ 'z' then some (c.toNat - 'a'.toNat + 10)
    else if 'A' ≤ c ∧ c ≤ 'Z' then some (c.toNat - 'A'.toNat + 10)
    else none
  value?.filter (· < base)

/-- The number that digits make behind the digits of `value`. -/
def digitsValue (base value : Nat) : List Char → Option Nat
  | [] => some value
  | c :: rest => (digitValue base c).bind fun digit => digitsValue base (value * base + digit) rest

def hexDigit (n : Nat) : Char :=
  if n < 10 then Char.ofNat ('0'.toNat + n) else Char.ofNat ('A'.toNat + n - 10)

end CatalogueEditor.Text
