import CatalogueEditor.Markup.Fragment

/-!
What references stand for. A reference is a known name or the number of a character, and a text with
references stands for the text in which each is replaced. Resolving a text gives that text and
nothing else, and fails exactly if there is none.
-/

namespace CatalogueEditor.Markup

open Text

/-- The characters that XML 1.0 lets a document hold. -/
def XmlChar (c : Char) : Prop :=
  c.toNat = 0x9 ∨ c.toNat = 0xA ∨ c.toNat = 0xD ∨ (0x20 ≤ c.toNat ∧ c.toNat ≤ 0xD7FF) ∨
    (0xE000 ≤ c.toNat ∧ c.toNat ≤ 0xFFFD) ∨ (0x10000 ≤ c.toNat ∧ c.toNat ≤ 0x10FFFF)

/-- The names that stand for characters. -/
def knownNames : List (List Char × Char) :=
  [("lt".toList, '<'), ("gt".toList, '>'), ("amp".toList, '&'), ("apos".toList, '\''),
    ("quot".toList, '"')]

/-- The digits are the number of the character. No digits are no number, and zero is no number of a
character. -/
def Numeral (base : Nat) (digits : List Char) (c : Char) : Prop :=
  digits ≠ [] ∧ digitsValue base 0 digits = some c.toNat ∧ c.toNat ≠ 0

/-- What may stand between an ampersand and a semicolon, and the character it stands for. -/
inductive Denotes : List Char → Char → Prop
  | name (written : List Char) (c : Char) (known : (written, c) ∈ knownNames) : Denotes written c
  | decimal (digits : List Char) (c : Char) (numeral : Numeral 10 digits c) :
      Denotes ('#' :: digits) c
  | hexadecimal (digits : List Char) (c : Char) (numeral : Numeral 16 digits c) :
      Denotes ('#' :: 'x' :: digits) c

/-- A text with references, and the text that it stands for. -/
inductive Resolves : List Char → List Char → Prop
  | nil : Resolves [] []
  | plain (c : Char) (rest resolved : List Char) (noReference : c ≠ '&')
      (later : Resolves rest resolved) : Resolves (c :: rest) (c :: resolved)
  | reference (written : List Char) (c : Char) (rest resolved : List Char)
      (denotes : Denotes written c) (later : Resolves rest resolved) :
      Resolves ('&' :: (written ++ ';' :: rest)) (c :: resolved)

-- Characters are never surrogates, so that the gap between the ranges need not be tested.
theorem isAllowed_iff {c : Char} : isAllowed c = true ↔ XmlChar c := by
  have valid : c.toNat < 0xD800 ∨ 0xDFFF < c.toNat ∧ c.toNat < 0x110000 := c.valid
  have same : ∀ d : Char, c = d ↔ c.toNat = d.toNat := fun d => Char.toNat_inj.symm
  have space : ' ' ≤ c ↔ ' '.toNat ≤ c.toNat := Iff.rfl
  simp only [isAllowed, XmlChar, Bool.or_eq_true, Bool.and_eq_true, beq_iff_eq, decide_eq_true_eq,
    same, space]
  have codes : '\t'.toNat = 0x9 ∧ '\n'.toNat = 0xA ∧ '\r'.toNat = 0xD ∧ ' '.toNat = 0x20 := by
    decide
  rw [codes.1, codes.2.1, codes.2.2.1, codes.2.2.2]
  omega

theorem map_ok_iff {ε α β : Type} {f : α → β} {tried : Except ε α} {b : β} :
    tried.map f = .ok b ↔ ∃ a, tried = .ok a ∧ f a = b := by
  cases tried <;> simp [Except.map]

/-! Numbers. -/

variable {base value number : Nat} {digits : List Char} {c : Char}

theorem le_of_digitsValue (positive : 0 < base)
    (read : digitsValue base value digits = some number) : value ≤ number := by
  induction digits generalizing value with
  | nil =>
      cases read
      exact Nat.le_refl _
  | cons first rest ih =>
      obtain ⟨digit, _, later⟩ := Option.bind_eq_some_iff.mp read
      have grown := ih later
      have scaled := Nat.le_mul_of_pos_right value positive
      omega

-- Numbers only grow as digits are read, so that none is too large before the last one is.
theorem readDigits_ok_iff (positive : 0 < base) (small : value < UInt32.size) :
    readDigits base value digits = .ok number ↔
      digitsValue base value digits = some number ∧ number < UInt32.size := by
  induction digits generalizing value with
  | nil =>
      simp only [readDigits, digitsValue, Except.ok.injEq, Option.some.injEq]
      constructor
      · rintro rfl
        exact ⟨rfl, small⟩
      · exact And.left
  | cons first rest ih =>
      rw [readDigits, digitsValue]
      cases digitValue base first with
      | none => simp
      | some digit =>
          simp only [Option.bind_some]
          split
          · rename_i fits
            exact ih fits
          · rename_i tooLarge
            constructor
            · intro failed
              cases failed
            · rintro ⟨read, fits⟩
              have grown := le_of_digitsValue positive read
              omega

theorem digitValue_sign (sign : c = '+' ∨ c = '-') : digitValue base c = none := by
  rcases sign with rfl | rfl <;> rfl

theorem readNumber_ok_iff (positive : 0 < base) : readNumber base digits = .ok number ↔
    digits ≠ [] ∧ digitsValue base 0 digits = some number ∧ number < UInt32.size := by
  cases digits with
  | nil => simp [readNumber]
  | cons first rest =>
      rw [readNumber]
      split
      · rename_i sign
        simp [digitsValue, digitValue_sign sign]
      · rw [readDigits_ok_iff positive (by decide)]
        simp

theorem characterOf_ok_iff : characterOf number = .ok c ↔ c.toNat = number ∧ number ≠ 0 := by
  unfold characterOf
  split
  · rename_i zero
    simp [zero]
  · rename_i positive
    split
    · rename_i valid
      simp only [Except.ok.injEq]
      constructor
      · rintro rfl
        refine ⟨?_, positive⟩
        rw [Char.ofNat, dif_pos valid]
        rfl
      · rintro ⟨rfl, _⟩
        exact Char.ofNat_toNat c
    · rename_i invalid
      constructor
      · intro failed
        cases failed
      · rintro ⟨rfl, _⟩
        exact absurd c.valid invalid

theorem readNumber_bind_ok_iff (positive : 0 < base) :
    (readNumber base digits).bind characterOf = .ok c ↔ Numeral base digits c := by
  constructor
  · intro read
    cases found : readNumber base digits with
    | error problem =>
        rw [found] at read
        cases read
    | ok number =>
        rw [found] at read
        obtain ⟨rfl, nonzero⟩ := characterOf_ok_iff.mp read
        obtain ⟨nonempty, value, _⟩ := (readNumber_ok_iff positive).mp found
        exact ⟨nonempty, value, nonzero⟩
  · rintro ⟨nonempty, value, nonzero⟩
    have small : c.toNat < UInt32.size := c.val.toNat_lt
    rw [(readNumber_ok_iff positive).mpr ⟨nonempty, value, small⟩]
    exact characterOf_ok_iff.mpr ⟨rfl, nonzero⟩

theorem numbered_ok_iff : numbered digits = .ok c ↔
    Numeral 10 digits c ∨ ∃ rest, digits = 'x' :: rest ∧ Numeral 16 rest c := by
  unfold numbered
  split
  · rename_i rest
    have noDecimal : ¬ Numeral 10 ('x' :: rest) c := by
      rintro ⟨_, value, _⟩
      cases value
    rw [readNumber_bind_ok_iff (by decide)]
    simp [noDecimal]
  · rename_i noHexadecimal
    rw [readNumber_bind_ok_iff (by decide)]
    constructor
    · exact .inl
    · rintro (decimal | ⟨rest, rfl, _⟩)
      · exact decimal
      · exact absurd rfl (noHexadecimal rest)

/-! Names. -/

theorem named_eq_some_iff {name : List Char} : named name = some c ↔ (name, c) ∈ knownNames := by
  constructor
  · intro found
    unfold named at found
    split at found <;> cases found
    all_goals
      rename_i same
      have written := congrArg String.toList same
      rw [String.toList_ofList] at written
      rw [written]
      decide
  · intro known
    simp only [knownNames, List.mem_cons, Prod.mk.injEq, List.not_mem_nil, or_false] at known
    rcases known with ⟨rfl, rfl⟩ | ⟨rfl, rfl⟩ | ⟨rfl, rfl⟩ | ⟨rfl, rfl⟩ | ⟨rfl, rfl⟩ <;> rfl

theorem resolveOne_ok_iff {first : Nat} {written : List Char} :
    resolveOne first written = .ok c ↔ Denotes written c := by
  constructor
  · intro resolved
    unfold resolveOne at resolved
    split at resolved
    · rename_i digits
      cases found : numbered digits with
      | error problem =>
          rw [found] at resolved
          cases resolved
      | ok other =>
          rw [found] at resolved
          cases resolved
          rcases numbered_ok_iff.mp found with decimal | ⟨rest, rfl, hexadecimal⟩
          · exact .decimal digits c decimal
          · exact .hexadecimal rest c hexadecimal
    · cases found : named written with
      | none =>
          rw [found] at resolved
          cases resolved
      | some other =>
          rw [found] at resolved
          cases resolved
          exact .name written c (named_eq_some_iff.mp found)
  · intro denotes
    cases denotes with
    | name _ _ known =>
        have found := named_eq_some_iff.mpr known
        unfold resolveOne
        split
        · rename_i digits
          simp [knownNames] at known
        · rw [found]
    | decimal digits _ numeral =>
        simp [resolveOne, numbered_ok_iff.mpr (.inl numeral)]
    | hexadecimal rest _ numeral =>
        simp [resolveOne, numbered_ok_iff.mpr (.inr ⟨rest, rfl, numeral⟩)]

/-! Texts. -/

theorem mem_of_digitsValue (read : digitsValue base value digits = some number)
    (member : c ∈ digits) : digitValue base c ≠ none := by
  induction digits generalizing value with
  | nil => cases member
  | cons first rest ih =>
      obtain ⟨digit, here, later⟩ := Option.bind_eq_some_iff.mp read
      rcases List.mem_cons.mp member with rfl | member
      · simp [here]
      · exact ih later member

theorem Denotes.goesOn {written : List Char} (denotes : Denotes written c) :
    ∀ d ∈ written, endsReference d = false := by
  have digit : ∀ base digits, Numeral base digits c → ∀ d ∈ digits, endsReference d = false := by
    intro base digits numeral d member
    have isDigit := mem_of_digitsValue numeral.2.1 member
    rw [← Bool.not_eq_true]
    intro ends
    simp only [endsReference, Bool.or_eq_true, beq_iff_eq] at ends
    rcases ends with rfl | rfl <;> exact isDigit rfl
  cases denotes with
  | name _ _ known =>
      have goOn : (knownNames.all fun entry => entry.1.all (!endsReference ·)) = true := by decide
      simpa using List.all_eq_true.mp goOn _ known
  | decimal digits _ numeral => simpa [endsReference] using digit 10 digits numeral
  | hexadecimal rest _ numeral => simpa [endsReference] using digit 16 rest numeral

theorem resolveIn_ok_iff {size : Nat} {text resolved : List Char} :
    resolveIn size text = .ok resolved ↔ Resolves text resolved := by
  constructor
  · intro found
    fun_induction resolveIn size text generalizing resolved with
    | case1 =>
        cases found
        exact .nil
    | case2 rest after h shorter problem failed => cases found
    | case3 rest after ends c one shorter ih =>
        obtain ⟨later, inner, rfl⟩ := map_ok_iff.mp found
        have whole := List.takeWhile_append_dropWhile (p := (!endsReference ·)) (l := rest)
        rw [ends] at whole
        rw [← whole]
        exact .reference _ c after later (resolveOne_ok_iff.mp one) (ih inner)
    | case4 => cases found
    | case5 c rest noReference ih =>
        obtain ⟨later, inner, rfl⟩ := map_ok_iff.mp found
        exact .plain c rest later noReference (ih inner)
  · intro derived
    induction derived with
    | nil => simp [resolveIn]
    | plain c rest resolved noReference later ih => simp [resolveIn, noReference, ih, Except.map]
    | reference written c rest resolved denotes later ih =>
        have goesOn : ∀ d ∈ written, (!endsReference d) = true := by
          simpa using denotes.goesOn
        have cut : (written ++ ';' :: rest).dropWhile (!endsReference ·) = ';' :: rest := by
          rw [List.dropWhile_append_of_pos goesOn]
          rfl
        have kept : (written ++ ';' :: rest).takeWhile (!endsReference ·) = written := by
          rw [List.takeWhile_append_of_pos goesOn]
          simp [endsReference]
        rw [resolveIn, if_pos rfl]
        split
        · rename_i after ends
          cases cut.symm.trans ends
          simp only [kept, resolveOne_ok_iff.mpr denotes, ih]
          rfl
        · rename_i unterminated
          exact absurd cut (unterminated rest)

theorem resolve_ok_iff {text resolved : List Char} :
    resolve text = .ok resolved ↔ Resolves text resolved :=
  resolveIn_ok_iff

theorem resolveAllowed_ok_iff {text resolved : List Char} :
    resolveAllowed text = .ok resolved ↔
      Resolves text resolved ∧ ∀ c ∈ resolved, XmlChar c := by
  constructor
  · intro found
    unfold resolveAllowed at found
    split at found
    · cases found
    · rename_i other read
      split at found
      · cases found
      · rename_i noForbidden
        cases found
        refine ⟨resolve_ok_iff.mp read, ?_⟩
        intro c member
        apply isAllowed_iff.mp
        simpa using List.find?_eq_none.mp noForbidden c member
  · rintro ⟨derived, allowed⟩
    have noForbidden : resolved.find? (!isAllowed ·) = none := by
      simpa [List.find?_eq_none, isAllowed_iff] using allowed
    simp [resolveAllowed, resolve_ok_iff.mpr derived, noForbidden]

theorem Resolves.nil_iff {text resolved : List Char} (resolves : Resolves text resolved) :
    resolved = [] ↔ text = [] := by
  cases resolves <;> simp

end CatalogueEditor.Markup
