import CatalogueEditor.Proofs.Markup.Attributes

/-!
Tags in the scope of namespace prefixes: a name, attributes, and prefixes that are all known. A tag
is cut from the text after it where its content ends.
-/

namespace CatalogueEditor.Markup

open Text

/-- The content of a tag where the prefixes of a scope are declared around it, and the element that
it opens. -/
inductive Tag (scope : List (List Char)) : List Char → OpenElement → Prop
  | intro (name text : List Char) (attributes : List Attribute) (named : isName name = true)
      (apart : ∀ c, text.head? = some c → isSpace c = true) (attached : Attached text attributes)
      (known : ∀ candidate ∈ (namespacePart name).toList ++ used attributes,
        candidate = "xml".toList ∨ candidate ∈ declared attributes ++ scope) :
      Tag scope (name ++ text) ⟨name, declared attributes⟩

/-- The prefixes that open elements declare. -/
def scopeOf (opened : List OpenElement) : List (List Char) :=
  opened.flatMap OpenElement.declared

variable {opened : List OpenElement} {scope : List (List Char)} {content : List Char}
  {element : OpenElement}

theorem inScope_iff {candidate : List Char} :
    inScope opened candidate = true ↔
      candidate = "xml".toList ∨ candidate ∈ scopeOf opened := by
  unfold inScope scopeOf
  rw [Bool.or_eq_true, beq_iff_eq, List.any_eq_true, List.mem_flatMap]
  simp only [List.contains_iff_mem]

theorem unknown_iff {prefixes : List (List Char)} :
    prefixes.find? (!inScope (element :: opened) ·) = none ↔
      ∀ candidate ∈ prefixes,
        candidate = "xml".toList ∨ candidate ∈ element.declared ++ scopeOf opened := by
  have scope : scopeOf (element :: opened) = element.declared ++ scopeOf opened := List.flatMap_cons
  rw [List.find?_eq_none, ← scope]
  simp only [Bool.not_eq_true', Bool.not_eq_false, inScope_iff]

theorem checkTag_ok_iff :
    checkTag opened content = .ok element ↔ Tag (scopeOf opened) content element := by
  constructor
  · intro checked
    simp only [checkTag] at checked
    split at checked
    · cases checked
    rename_i named
    split at checked
    · cases checked
    rename_i found read
    split at checked
    · cases checked
    rename_i known
    cases checked
    obtain ⟨attributes, attached, _, rfl⟩ := attached_of_check read
    have apart : ∀ c, (content.dropWhile (!isSpace ·)).head? = some c → isSpace c = true := by
      intro c starts
      have stops := List.head?_dropWhile_not (!isSpace ·) content
      rw [starts] at stops
      simpa using stops
    have tag := Tag.intro _ _ attributes (by simpa using named) apart attached
      (unknown_iff.mp known)
    rwa [List.takeWhile_append_dropWhile] at tag
  · rintro ⟨name, text, attributes, named, apart, attached, known⟩
    have stops : ∀ c, text.head? = some c → (!isSpace c) = false := by
      intro c starts
      simp [apart c starts]
    have read : checkAttributes (utf8Length (name ++ text)) [] text =
        .ok ⟨declared attributes, used attributes⟩ := check_of_attached attached (by simp)
    simp only [checkTag, takeWhile_run (name_unspaced named) stops,
      dropWhile_run (name_unspaced named) stops, named, read]
    rw [unknown_iff.mpr known]
    rfl

theorem checkTagIn_ok_iff :
    checkTagIn opened content = .ok element ↔ Tag (scopeOf opened) content element := by
  refine ⟨fun checked => ?_, fun tag => ?_⟩
  · unfold checkTagIn at checked
    split at checked <;> cases checked
    rename_i read
    exact checkTag_ok_iff.mp read
  · rw [checkTagIn, checkTag_ok_iff.mpr tag]

theorem Tag.named (tag : Tag scope content element) : isName element.name = true := by
  obtain ⟨name, text, attributes, named, _, _, _⟩ := tag
  exact named

/-! Where tags end. -/

variable {tail : List Char}

theorem behind_behind {first second : List Char} {cut : Option (List Char × List Char)} :
    behind first (behind second cut) = behind (first ++ second) cut := by
  simp [behind, Function.comp_def]

theorem Written.cut {found : Attribute} {text after : List Char}
    (written : Written found text after) (named : isName found.key = true)
    (later : cutTag none (after ++ tail) = behind after (cutTag none tail)) :
    cutTag none (text ++ tail) = behind text (cutTag none tail) := by
  obtain ⟨key, gap, gap', value, _, quote, blank, blank', quotes, closed⟩ := written
  have equals : ['='].all isPlain = true := rfl
  have plain : (key ++ gap ++ ['='] ++ gap').all isPlain = true := by
    rw [List.all_append, List.all_append, List.all_append, name_plain named, spaces_plain blank,
      equals, spaces_plain blank']
    rfl
  calc cutTag none (key ++ (gap ++ '=' :: (gap' ++ quote :: (value ++ quote :: after))) ++ tail)
      = cutTag none ((key ++ gap ++ ['='] ++ gap') ++
          quote :: (value ++ quote :: (after ++ tail))) := by simp
    _ = behind (key ++ gap ++ ['='] ++ gap')
          (behind (quote :: (value ++ [quote])) (behind after (cutTag none tail))) := by
        rw [cutTag_plain plain, cutTag_quoted quotes closed, later]
    _ = _ := by simp [behind_behind]

theorem Attributes.cut {text : List Char} {attributes : List Attribute}
    (made : Attributes text attributes) (sound : ∀ read ∈ attributes, read.Sound) :
    cutTag none (text ++ tail) = behind text (cutTag none tail) := by
  induction made with
  | nil spaces blank => exact cutTag_plain (spaces_plain blank)
  | cons spaces text after first others blank written later ih =>
      obtain ⟨firstSound, othersSound⟩ := List.forall_mem_cons.mp sound
      rw [List.append_assoc, cutTag_plain (spaces_plain blank),
        written.cut firstSound.named (ih othersSound), behind_behind]

theorem Tag.cut (tag : Tag scope content element) :
    cutTag none (content ++ tail) = behind content (cutTag none tail) := by
  -- A tag is cut where it ends, whatever follows.
  obtain ⟨name, text, attributes, named, _, attached, _⟩ := tag
  rw [List.append_assoc, cutTag_plain (name_plain named), attached.made.cut attached.sound,
    behind_behind]

theorem Attributes.last {text : List Char} {attributes : List Attribute}
    (made : Attributes text attributes) : text.getLast? ≠ some '/' := by
  -- No tag ends in a slash.
  induction made with
  | nil spaces blank =>
      intro slash
      cases List.all_eq_true.mp blank _ (List.mem_of_getLast? slash)
  | cons spaces text after first others blank written later ih =>
      obtain ⟨key, gap, gap', value, _, quote, _, _, quotes, _⟩ := written
      have ends : quote ≠ '/' := by
        rcases quotes with rfl | rfl <;> decide
      have whole : spaces ++ (key ++ (gap ++ '=' :: (gap' ++ quote :: (value ++ quote :: after)))) =
          spaces ++ key ++ gap ++ ['='] ++ gap' ++ [quote] ++ value ++ [quote] ++ after := by simp
      rw [whole, List.getLast?_append, List.getLast?_append, List.getLast?_singleton]
      cases last : after.getLast? with
      | none => simpa using ends
      | some c =>
          rw [last] at ih
          exact ih

theorem Tag.last (tag : Tag scope content element) : content.getLast? ≠ some '/' := by
  obtain ⟨name, text, attributes, named, _, attached, _⟩ := tag
  intro slash
  rw [List.getLast?_append] at slash
  cases ends : text.getLast? with
  | some c =>
      rw [ends] at slash
      exact attached.made.last (ends.trans slash)
  | none =>
      rw [ends] at slash
      exact not_mem_name named (by decide : '/' ∈ delimiters) (List.mem_of_getLast? slash)

end CatalogueEditor.Markup
