import Mathlib.Data.Nat.Digits.Lemmas
import CatalogueEditor.Text.Digit

/-!
Numbers as they are written: what is read of the digits of a number, and what its digits are.
-/

namespace CatalogueEditor.Text

theorem digitsValue_append (base value : Nat) (front back : List Char) :
    digitsValue base value (front ++ back) =
      (digitsValue base value front).bind fun value => digitsValue base value back := by
  induction front generalizing value with
  | nil => rfl
  | cons c front ih =>
      simp only [List.cons_append, digitsValue, Option.bind_assoc]
      congr 1
      funext digit
      exact ih _

theorem digitsValue_toDigits (n : Nat) : digitsValue 10 0 (Nat.toDigits 10 n) = some n := by
  have digit : ∀ d < 10, digitValue 10 d.digitChar = some d := by decide
  induction n using Nat.strong_induction_on with
  | _ n ih =>
    rw [Nat.toDigits_eq_if (by decide)]
    split
    · rename_i small
      simp [digitsValue, digit n small]
    · have last := digit (n % 10) (Nat.mod_lt n (by decide))
      rw [digitsValue_append, ih (n / 10) (by omega)]
      simp only [Option.bind_some, digitsValue, last, Nat.div_add_mod']

/-- What holds of the digits to a base holds of all characters of a number. -/
theorem forall_mem_toDigits {base n : Nat} {p : Char → Prop} (large : 1 < base)
    (each : ∀ d < base, p d.digitChar) {c : Char} (member : c ∈ Nat.toDigits base n) : p c := by
  induction n using Nat.strong_induction_on with
  | _ n ih =>
    rw [Nat.toDigits_eq_if large] at member
    split at member
    · rename_i small
      exact List.mem_singleton.mp member ▸ each n small
    · rename_i more
      rcases List.mem_append.mp member with front | last
      · exact ih (n / base) (Nat.div_lt_self (by omega) large) front
      · exact List.mem_singleton.mp last ▸ each _ (Nat.mod_lt n (by omega))

end CatalogueEditor.Text
