import Mathlib.Tactic.IntervalCases
import CatalogueEditor.Proofs.Json.Reading

/-!
Strings and numbers are read as they were written. Every character of a string is written as one that
stands for itself or as an escape that stands for it; a number of 64 bits is written by its decimal digits.
-/

namespace CatalogueEditor.Json

open Text

/-! Strings. -/
section Strings
variable {c letter : Char} {done text rest : List Char} {place : Place}

theorem Reader.escape_letter (found : letterEscape letter = some c) :
    Reader.escape.Reads (letter :: text) c text := by
  have plain : letter ≠ 'u' := by
    rintro rfl
    cases found
  refine .bind peek_reads ?_
  simp only [List.head?_cons, found]
  exact .bind skip_reads (.pure c text)

/-- The digits of the escape of a control character. -/
theorem control_digits {n : Nat} (control : n < 32) : ∃ a b x d,
    List.replicate (4 - (Nat.toDigits 16 n).length) '0' ++ Nat.toDigits 16 n = [a, b, x, d] ∧
      digitsValue 16 0 [a, b, x, d] = some n := by
  interval_cases n <;> exact ⟨_, _, _, _, rfl, rfl⟩

theorem Reader.escape_control (control : c.toNat < 32) (text : List Char) :
    ∃ digits, controlEscape c = '\\' :: 'u' :: digits ∧
      Reader.escape.Reads ('u' :: digits ++ text) c text := by
  obtain ⟨a, b, x, d, written, value⟩ := control_digits control
  refine ⟨[a, b, x, d], by rw [controlEscape, List.cons_append, List.cons_append, written], ?_⟩
  have code : hexEscape.Reads ([a, b, x, d] ++ text) c.toNat text := by
    intro place
    exact ⟨⟨place.line, place.column + 4⟩, by simp [hexEscape, value]⟩
  have trailing : isTrailing c.toNat = false := by
    simp only [isTrailing, Bool.and_eq_false_iff, decide_eq_false_iff_not]
    omega
  have leading : isLeading c.toNat = false := by
    simp only [isLeading, Bool.and_eq_false_iff, decide_eq_false_iff_not]
    omega
  refine .bind peek_reads (.bind skip_reads (.bind code ?_))
  simp only [escapedCode, trailing, leading, Char.ofNat_toNat]
  exact .pure c text

theorem stringFrom_escape (escape : List Char) (reads : Reader.escape.Reads (escape ++ text) c text)
    (done : List Char) (place : Place) :
    ∃ after, stringFrom done place ('\\' :: escape ++ text) = stringFrom (c :: done) after text := by
  obtain ⟨after, ran⟩ := reads (place.after '\\')
  refine ⟨after, ?_⟩
  rw [List.cons_append, stringFrom]
  simp only [Char.reduceEq, ↓reduceIte]
  split
  · rename_i failed
    cases ran.symm.trans failed
  · rename_i read
    cases ran.symm.trans read
    rfl

/-- What a character is written as stands for it. -/
theorem stringFrom_escapeChar (c : Char) (done text : List Char) (place : Place) :
    ∃ after, stringFrom done place (escapeChar c ++ text) = stringFrom (c :: done) after text := by
  have letter : ∀ {letter}, letterEscape letter = some c →
      ∃ after, stringFrom done place (['\\', letter] ++ text) = stringFrom (c :: done) after text :=
    fun found => stringFrom_escape [_] (Reader.escape_letter found) done place
  have code : ∀ n, c.toNat = n → c = Char.ofNat n := fun n same => same ▸ (Char.ofNat_toNat c).symm
  unfold escapeChar
  split_ifs with quote slash back tab line form carriage control
  · subst quote
    exact letter rfl
  · subst slash
    exact letter rfl
  · exact letter (code _ back ▸ rfl)
  · exact letter (code _ tab ▸ rfl)
  · exact letter (code _ line ▸ rfl)
  · exact letter (code _ form ▸ rfl)
  · exact letter (code _ carriage ▸ rfl)
  · obtain ⟨digits, written, reads⟩ := Reader.escape_control control text
    rw [written]
    exact stringFrom_escape _ reads done place
  · refine ⟨place.after c, ?_⟩
    rw [List.singleton_append, stringFrom, if_neg quote, if_neg slash, if_neg control]

theorem stringFrom_escaped (chars done rest : List Char) (place : Place) :
    ∃ after, stringFrom done place (chars.flatMap escapeChar ++ '"' :: rest) =
      .ok (String.ofList (done.reverse ++ chars), ⟨after, rest⟩) := by
  induction chars generalizing done place with
  | nil => exact ⟨place.after '"', by simp [stringFrom]⟩
  | cons c chars ih =>
      obtain ⟨between, one⟩ := stringFrom_escapeChar c done (chars.flatMap escapeChar ++ '"' :: rest) place
      obtain ⟨after, others⟩ := ih (c :: done) between
      refine ⟨after, ?_⟩
      rw [List.flatMap_cons, List.append_assoc, one, others, List.reverse_cons, List.append_assoc,
        List.singleton_append]

/-- A string behind its opening quote. -/
theorem Reader.stringBody_reads (s : String) (rest : List Char) :
    Reader.stringBody.Reads (s.toList.flatMap escapeChar ++ '"' :: rest) s rest := by
  intro place
  obtain ⟨after, read⟩ := stringFrom_escaped s.toList [] rest place
  exact ⟨after, by simpa [stringBody] using read⟩

theorem renderString_append (s : String) (rest : List Char) :
    renderString s ++ rest = '"' :: (s.toList.flatMap escapeChar ++ '"' :: rest) := by
  simp [renderString]

theorem Reader.quoted_reads (s : String) : Reader.quoted.Reads (renderString s ++ rest) s rest := by
  rw [renderString_append]
  exact .bind skip_reads (stringBody_reads s rest)

end Strings

/-! Numbers. -/
section Numbers
variable {n : Nat} {rest : List Char}

theorem isDigit_eq (c : Char) : isDigit c = c.isDigit := by
  simp [isDigit, Char.isDigit, Char.le_def]

theorem isDigit_of_mem {c : Char} (member : c ∈ Nat.toDigits 10 n) : isDigit c = true :=
  isDigit_eq c ▸ Nat.isDigit_of_mem_toDigits (by decide) (by decide) member

/-- No digit of a number of 64 bits is left out. -/
theorem ofDigits_toDigits (fits : n < UInt64.size) :
    Significand.ofDigits 0 (Nat.toDigits 10 n) = ⟨n, 0⟩ := by
  induction n using Nat.strong_induction_on with
  | _ n ih =>
    have digit : ∀ d, d < 10 → digitOf d.digitChar = d := fun d small =>
      Nat.toNat_digitChar_sub_48_of_lt_ten small
    rw [Nat.toDigits_eq_if (by decide)]
    split
    · rename_i small
      simp only [Significand.ofDigits, List.foldl_cons, List.foldl_nil, Significand.take, digit n small,
        Nat.zero_mul, Nat.zero_add, fits, and_self, ↓reduceIte]
    · have front := ih (n / 10) (by omega) (by omega)
      have whole : n / 10 * 10 + n % 10 = n := by omega
      simp only [Significand.ofDigits] at front
      simp only [Significand.ofDigits, List.foldl_append, front, List.foldl_cons, List.foldl_nil,
        Significand.take, digit (n % 10) (Nat.mod_lt _ (by decide)), whole, fits, and_self, ↓reduceIte]

/-- Only zero is written with a zero in front. -/
theorem toDigits_head (positive : 0 < n) :
    ∃ c digits, Nat.toDigits 10 n = c :: digits ∧ c ≠ '0' := by
  induction n using Nat.strong_induction_on with
  | _ n ih =>
    rw [Nat.toDigits_eq_if (by decide)]
    split
    · refine ⟨n.digitChar, [], rfl, fun zero => ?_⟩
      have := Nat.digitChar_eq_zero.mp zero
      omega
    · obtain ⟨c, digits, front, plain⟩ := ih (n / 10) (by omega) (by omega)
      exact ⟨c, digits ++ [(n % 10).digitChar], by rw [front, List.cons_append], plain⟩

/-- No number goes on where a value ends. -/
theorem Ends.stops (ends : Ends rest) : ∀ c ∈ rest.head?, isDigit c = false := by
  intro c head
  cases rest with
  | nil => cases head
  | cons first rest =>
      cases head
      rcases ends with rfl | rfl | rfl <;> rfl

theorem Reader.afterWhole_reads (n : Nat) (ends : Ends rest) :
    (Reader.afterWhole true ⟨n, 0⟩).Reads rest (.natural (UInt64.ofNat n)) rest := by
  refine .bind peek_reads ?_
  have plain : rest.head? ≠ some '.' ∧ rest.head? ≠ some 'e' ∧ rest.head? ≠ some 'E' := by
    cases rest with
    | nil => simp
    | cons first rest => rcases ends with rfl | rfl | rfl <;> simp
  simp only [plain, or_self, ↓reduceIte]
  exact .pure _ rest

theorem Reader.unsigned_reads (fits : n < UInt64.size) (ends : Ends rest) :
    (Reader.unsigned true).Reads (Nat.toDigits 10 n ++ rest) (.natural (UInt64.ofNat n)) rest := by
  refine .bind peek_reads ?_
  rcases Nat.eq_zero_or_pos n with rfl | positive
  · simp only [Nat.toDigits_zero, List.singleton_append, List.head?_cons, ↓reduceIte]
    refine .bind skip_reads (.bind peek_reads ?_)
    cases head : rest.head? with
    | none => exact afterWhole_reads _ ends
    | some d =>
        simp only [ends.stops d head]
        exact afterWhole_reads _ ends
  · obtain ⟨c, digits, written, plain⟩ := toDigits_head positive
    have digit : isDigit c = true := isDigit_of_mem (written ▸ List.mem_cons_self)
    have taken : (takeWhile isDigit).Reads (Nat.toDigits 10 n ++ rest) (Nat.toDigits 10 n) rest :=
      takeWhile_reads (fun _ => isDigit_of_mem) ends.stops
    have value := ofDigits_toDigits fits
    rw [written] at taken value ⊢
    simp only [List.cons_append, List.head?_cons, plain, digit, ↓reduceIte]
    refine .bind taken ?_
    rw [value]
    exact afterWhole_reads _ ends

end Numbers

end CatalogueEditor.Json
