import CatalogueEditor.Text.Summary
import CatalogueEditor.Proofs.Digits

/-!
Texts of log records: on one line, and no longer than a bound. Such texts put together are on one line
again, and their bounds add up. A number that fits in memory and a summary are short whatever they are
of.
-/

namespace CatalogueEditor

namespace Text

variable {limit other : Nat} {text more : String}

/-- The text holds no line break. -/
def OneLine (text : String) : Prop :=
  ∀ c ∈ text.toList, isLineBreak c = false

/-- The text takes no more bytes than there can be in memory. -/
def InMemory (text : String) : Prop :=
  utf8Length text.toList < 2 ^ 63

instance (text : String) : Decidable (InMemory text) :=
  inferInstanceAs (Decidable (utf8Length text.toList < 2 ^ 63))

theorem oneLine_append_iff : OneLine (text ++ more) ↔ OneLine text ∧ OneLine more := by
  unfold OneLine
  rw [String.toList_append]
  exact List.forall_mem_append

/-- The text is on one line and has no more characters than the limit. -/
structure Short (limit : Nat) (text : String) : Prop where
  line : OneLine text
  size : text.length ≤ limit

namespace Short

/-- A text that is written out is checked character by character. -/
theorem of_chars {cs : List Char} (same : text = String.ofList cs)
    (fits : (cs.all (!isLineBreak ·) && cs.length ≤ limit) = true) : Short limit text := by
  rw [Bool.and_eq_true, List.all_eq_true, decide_eq_true_eq] at fits
  subst same
  constructor
  · intro c member
    rw [String.toList_ofList] at member
    simpa using fits.1 c member
  · rw [String.length_ofList]
    exact fits.2

theorem mono (short : Short limit text) (within : limit ≤ other) : Short other text :=
  ⟨short.line, short.size.trans within⟩

theorem append (front : Short limit text) (back : Short other more) :
    Short (limit + other) (text ++ more) := by
  constructor
  · exact oneLine_append_iff.mpr ⟨front.line, back.line⟩
  · rw [String.length_append]
    exact Nat.add_le_add front.size back.size

theorem of_oneLine (line : OneLine text) : Short text.length text :=
  ⟨line, Nat.le_refl _⟩

end Short

/-- The word stands in the text. -/
def Repeats (text word : String) : Prop :=
  ∃ before behind, text = before ++ word ++ behind

theorem Repeats.behind {word : String} (repeats : Repeats text word) (front : String) :
    Repeats (front ++ text) word := by
  obtain ⟨before, behind, rfl⟩ := repeats
  exact ⟨front ++ before, behind, by simp only [String.append_assoc]⟩

/-- A word of a short text is short. -/
theorem Repeats.short {word : String} (repeats : Repeats text word) (whole : Short limit text) :
    Short limit word := by
  obtain ⟨before, behind, rfl⟩ := repeats
  constructor
  · exact (oneLine_append_iff.mp (oneLine_append_iff.mp whole.line).1).2
  · have size := whole.size
    simp only [String.length_append] at size
    omega

theorem not_isLineBreak_of_isDigit {c : Char} (digit : c.isDigit = true) : isLineBreak c = false := by
  rw [← Bool.not_eq_true]
  intro breaks
  simp only [isLineBreak, Bool.or_eq_true, beq_iff_eq] at breaks
  rcases breaks with rfl | rfl <;> cases digit

theorem oneLine_nat (n : Nat) : OneLine (toString n) := by
  intro c member
  rw [Nat.toString_eq_ofList_toDigits, String.toList_ofList] at member
  exact not_isLineBreak_of_isDigit (Nat.isDigit_of_mem_toDigits (by decide) (by decide) member)

/-- Numbers of 64 bits have at most twenty digits. -/
theorem short_nat {n : Nat} (fits : n < 2 ^ 64) : Short 20 (toString n) := by
  refine ⟨oneLine_nat n, ?_⟩
  rw [Nat.toString_eq_ofList_toDigits, String.length_ofList]
  exact Nat.toDigits_length 10 n 20 (by decide) (fits.trans (by decide))

/-- Code points have at most six hexadecimal digits. -/
theorem short_codePointName (c : Char) : Short 20 (codePointName c) := by
  have few : (Nat.toDigits 16 c.toNat).length ≤ 6 := by
    have valid : c.toNat < 55296 ∨ 57343 < c.toNat ∧ c.toNat < 1114112 := c.valid
    exact Nat.toDigits_length 16 c.toNat 6 (by decide) (by omega)
  have digits : Short 10
      (String.ofList (List.replicate (4 - (hexUpper c.toNat).length) '0' ++ hexUpper c.toNat)) := by
    constructor
    · intro d member
      rw [String.toList_ofList] at member
      rcases List.mem_append.mp member with zero | digit
      · rw [List.eq_of_mem_replicate zero]
        rfl
      · obtain ⟨source, among, rfl⟩ := List.mem_map.mp digit
        exact forall_mem_toDigits (p := fun d => isLineBreak d.toUpper = false) (by decide)
          (by decide) among
    · rw [String.length_ofList, List.length_append, List.length_replicate, hexUpper, List.length_map]
      omega
  have mark : Short 10 "U+" := .of_chars rfl (by decide)
  exact mark.append digits

theorem not_isLineBreak_flatten (c : Char) : isLineBreak (flatten c) = false := by
  unfold flatten
  split
  · rfl
  · rename_i stays
    simpa using stays

theorem oneLine_flattened (cs : List Char) : OneLine (String.ofList (cs.map flatten)) := by
  intro c member
  rw [String.toList_ofList] at member
  obtain ⟨source, _, rfl⟩ := List.mem_map.mp member
  exact not_isLineBreak_flatten source

theorem oneLine_summarize (text : String) : OneLine (summarize text) := by
  rcases Nat.lt_or_ge summaryLimit text.length with long | within
  · rw [summarize_cut long]
    have opening : Short 30 "... [truncated, total " := .of_chars rfl (by decide)
    have closing : Short 10 " bytes]" := .of_chars rfl (by decide)
    simp only [oneLine_append_iff]
    exact ⟨⟨⟨oneLine_flattened _, opening.line⟩, oneLine_nat _⟩, closing.line⟩
  · rw [summarize_whole within]
    exact oneLine_flattened _

/-- A summary is short, whatever it is of. -/
theorem short_summarize (fits : InMemory text) : Short 200 (summarize text) := by
  refine ⟨oneLine_summarize text, ?_⟩
  rcases Nat.lt_or_ge summaryLimit text.length with long | within
  · have front : (text.toList.take summaryLimit).length ≤ 120 := List.length_take_le _ _
    have digits : (toString text.utf8ByteSize).length ≤ 20 := by
      rw [InMemory, utf8Length_toList] at fits
      exact (short_nat (fits.trans (by decide))).size
    have opening : "... [truncated, total ".length ≤ 30 := by decide
    have closing : " bytes]".length ≤ 10 := by decide
    rw [summarize_cut long]
    simp only [String.length_append, String.length_ofList, List.length_map]
    omega
  · rw [summarize_whole within, String.length_ofList, List.length_map, String.length_toList]
    exact within.trans (by decide)

end Text
end CatalogueEditor
