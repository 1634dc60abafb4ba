import CatalogueEditor.Proofs.Markup.Acceptance
import CatalogueEditor.Proofs.Markup.Names

/-!
The words of accepted fragments: the names of elements and attributes, the targets of instructions,
and the white space between the attributes of a tag. They are read off the pieces of a fragment, and
compared with what XML 1.0 has at their places. The checks ask less there: a name may have any
letters and numbers of Unicode, a target may be any text but the word that makes a declaration, and
no attribute needs white space in front of it.
-/

namespace CatalogueEditor.Markup

open Text

/-- What the tags and instructions of a text are made of. -/
structure Words where
  names : List (List Char)
  targets : List (List Char)
  /-- The white space between attributes that follow each other in a tag. -/
  gaps : List (List Char)
deriving DecidableEq

def Words.empty : Words :=
  ⟨[], [], []⟩

def Words.append (first second : Words) : Words :=
  ⟨first.names ++ second.names, first.targets ++ second.targets, first.gaps ++ second.gaps⟩

/-! Reading them. -/

/-- Attributes up to the end of a text, each with the white space in front of it. -/
def spacedAttributes (text : List Char) : Option (List (List Char × Attribute)) :=
  match starts : text.dropWhile isSpace with
  | [] => some []
  | first :: rest =>
      match read : readAttribute 0 [] first rest with
      | .error _ => none
      | .ok (found, _, after) =>
          have : after.length < text.length := by
            have shorter := (List.dropWhile_sublist (l := text) isSpace).length_le
            have consumed := readAttribute_length read
            rw [starts, List.length_cons] at shorter
            omega
          (spacedAttributes after).map ((text.takeWhile isSpace, found) :: ·)
termination_by text.length

def tagWords (content : List Char) : Option Words :=
  (spacedAttributes (content.dropWhile (!isSpace ·))).map fun attributes =>
    ⟨content.takeWhile (!isSpace ·) :: attributes.map (·.2.key), [], attributes.tail.map (·.1)⟩

/-- The words of one piece. The target of an instruction goes up to the first white space. -/
def Piece.words : Piece → Option Words
  | .startTag content => tagWords content
  | .emptyTag content => tagWords content
  | .endTag name => some ⟨[name], [], []⟩
  | .instruction body => some ⟨[], [body.takeWhile (!isSpace ·)], []⟩
  | .declaration => some ⟨[], ["xml".toList], []⟩
  | .text _ | .comment _ | .cdata _ | .doctype => some .empty

/-- The words of a text that is all pieces. -/
def words (text : List Char) : Option Words :=
  if nonempty : text = [] then some .empty
  else
    match (lex text).found with
    | .error _ => none
    | .ok found =>
        have := lex_rest_length nonempty
        found.words.bind fun here => (words (lex text).rest).map here.append
termination_by text.length

/-! What XML asks of them, what the checks ask, and what is left. -/

structure Words.WellFormed (found : Words) : Prop where
  names : ∀ name ∈ found.names, isXmlName name = true
  targets : ∀ target ∈ found.targets,
    isXmlName target = true ∧ target.map Char.toLower ≠ "xml".toList
  gaps : ∀ gap ∈ found.gaps, gap ≠ []

structure Words.Checked (found : Words) : Prop where
  names : ∀ name ∈ found.names, isName name = true
  targets : ∀ target ∈ found.targets, target ≠ "xml".toList

/-- No name has a letter or number that is foreign to XML, targets are names and not the word of a
declaration with capitals in it, and attributes are kept apart. -/
structure Words.Careful (found : Words) : Prop where
  names : ∀ name ∈ found.names, isForeign name = false
  targets : ∀ target ∈ found.targets, isXmlName target = true ∧
    (target.map Char.toLower = "xml".toList → target = "xml".toList)
  gaps : ∀ gap ∈ found.gaps, gap ≠ []

instance (found : Words) : Decidable found.WellFormed :=
  decidable_of_iff (_ ∧ _ ∧ _) ⟨fun ⟨names, targets, gaps⟩ => ⟨names, targets, gaps⟩,
    fun ⟨names, targets, gaps⟩ => ⟨names, targets, gaps⟩⟩

instance (found : Words) : Decidable found.Careful :=
  decidable_of_iff (_ ∧ _ ∧ _) ⟨fun ⟨names, targets, gaps⟩ => ⟨names, targets, gaps⟩,
    fun ⟨names, targets, gaps⟩ => ⟨names, targets, gaps⟩⟩

variable {found here : Words} {text content lexeme rest : List Char} {piece : Piece}

theorem Words.append_empty : found.append .empty = found := by
  simp [append, empty]

theorem Words.empty_append : empty.append found = found := rfl

theorem Words.append_assoc (first second third : Words) :
    (first.append second).append third = first.append (second.append third) := by
  simp [Words.append]

theorem Words.Checked.empty : Words.empty.Checked :=
  ⟨by simp [Words.empty], by simp [Words.empty]⟩

theorem Words.Checked.append {first second : Words} (checked : first.Checked)
    (later : second.Checked) : (first.append second).Checked :=
  ⟨List.forall_mem_append.mpr ⟨checked.names, later.names⟩,
    List.forall_mem_append.mpr ⟨checked.targets, later.targets⟩⟩

theorem Words.Checked.wellFormed_iff (checked : found.Checked) :
    found.WellFormed ↔ found.Careful := by
  have names : (∀ name ∈ found.names, isXmlName name = true) ↔
      ∀ name ∈ found.names, isForeign name = false :=
    forall₂_congr fun name member => isXmlName_iff (checked.names name member)
  constructor
  · rintro ⟨named, targets, gaps⟩
    refine ⟨names.mp named, fun target member => ?_, gaps⟩
    exact ⟨(targets target member).1, fun same => absurd same (targets target member).2⟩
  · rintro ⟨common, targets, gaps⟩
    refine ⟨names.mpr common, fun target member => ?_, gaps⟩
    exact ⟨(targets target member).1, fun same =>
      checked.targets target member ((targets target member).2 same)⟩

/-! The words of what is accepted. -/

theorem spacedAttributes_found {first : Char} {after : List Char} {read : Attribute} {place : Nat}
    (starts : text.dropWhile isSpace = first :: rest)
    (reads : readAttribute 0 [] first rest = .ok (read, place, after)) :
    spacedAttributes text =
      (spacedAttributes after).map ((text.takeWhile isSpace, read) :: ·) := by
  conv_lhs => rw [spacedAttributes]
  split
  · rename_i nothing
    cases nothing.symm.trans starts
  · rename_i same
    cases starts.symm.trans same
    split
    · rename_i failed
      cases reads.symm.trans failed
    · rename_i same
      cases reads.symm.trans same
      rfl

theorem Attributes.spaced {attributes : List Attribute} (made : Attributes text attributes)
    (named : ∀ read ∈ attributes, isName read.key = true) :
    ∃ found, spacedAttributes text = some found ∧ found.map Prod.snd = attributes := by
  induction made with
  | nil spaces blank =>
      have nothing : spaces.dropWhile isSpace = [] := by
        simpa [List.dropWhile_eq_nil_iff] using blank
      refine ⟨[], ?_, rfl⟩
      rw [spacedAttributes]
      split
      · rfl
      · rename_i starts
        cases nothing.symm.trans starts
  | cons spaces text after first others blank written later ih =>
      rcases List.forall_mem_cons.mp named with ⟨firstNamed, othersNamed⟩
      rcases ih othersNamed with ⟨found, reads, same⟩
      rcases written.starts firstNamed with ⟨c, rest, rfl, unspaced⟩
      have starts : (spaces ++ c :: rest).dropWhile isSpace = c :: rest :=
        dropWhile_run blank fun d head => by cases head; exact unspaced
      have step := spacedAttributes_found starts
        (readAttribute_of_written written firstNamed List.not_mem_nil rfl)
      exact ⟨_, by rw [step, reads, Option.map_some], by rw [List.map_cons, same]⟩

theorem Tag.words {scope : List (List Char)} {element : OpenElement}
    (tag : Tag scope content element) :
    ∃ found, tagWords content = some found ∧ found.Checked := by
  rcases tag with ⟨name, text, attributes, named, apart, attached, _⟩
  have keys : ∀ read ∈ attributes, isName read.key = true :=
    fun read member => (attached.sound read member).named
  rcases attached.made.spaced keys with ⟨found, reads, same⟩
  have stops : ∀ c, text.head? = some c → (!isSpace c) = false := by
    intro c starts
    simp [apart c starts]
  rw [tagWords, takeWhile_run (name_unspaced named) stops,
    dropWhile_run (name_unspaced named) stops, reads]
  refine ⟨_, rfl, ?_, by simp⟩
  rw [List.forall_mem_cons]
  refine ⟨named, fun key member => ?_⟩
  rcases List.mem_map.mp member with ⟨pair, listed, rfl⟩
  exact keys pair.2 (same ▸ List.mem_map_of_mem listed)

theorem not_xml_of_processing (processing : isDeclaration content = false) :
    content.takeWhile (!isSpace ·) ≠ "xml".toList := by
  intro target
  have whole := List.takeWhile_append_dropWhile (p := (!isSpace ·)) (l := content)
  have stops := List.head?_dropWhile_not (!isSpace ·) content
  rw [target] at whole
  cases behind : content.dropWhile (!isSpace ·) with
  | nil =>
      rw [behind] at whole
      rw [← whole] at processing
      cases processing
  | cons c others =>
      rw [behind] at whole stops
      rw [← whole] at processing
      have space : isSpace c = true := by simpa using stops
      simp [isDeclaration, space] at processing

theorem words_step (nonempty : text ≠ []) (lexed : lex text = ⟨lexeme, .ok piece, rest⟩)
    (reads : piece.words = some here) : words text = (words rest).map here.append := by
  conv_lhs => rw [words]
  rw [dif_neg nonempty]
  simp only [lexed, reads, Option.bind_some]

/-- The words of a text are checked, and come first among those of a longer text if what follows
starts with markup. -/
def Listed (text : List Char) : Prop :=
  ∃ found : Words, found.Checked ∧ ∀ tail : List Char, (∀ c, tail.head? = some c → c = '<') →
    words (text ++ tail) = (words tail).map found.append

theorem starts_append {front back : List Char} (starts : ∀ c, front.head? = some c → c = '<')
    (stops : ∀ c, back.head? = some c → c = '<') : ∀ c, (front ++ back).head? = some c → c = '<' := by
  cases front with
  | nil => exact stops
  | cons d others => exact starts

theorem Listed.nil : Listed [] := by
  refine ⟨.empty, .empty, fun tail _ => ?_⟩
  have same : Words.empty.append = id := funext fun _ => Words.empty_append
  rw [same, Option.map_id, List.nil_append]
  rfl

theorem Listed.append {front back : List Char} (first : Listed front) (second : Listed back)
    (starts : ∀ c, back.head? = some c → c = '<') : Listed (front ++ back) := by
  rcases first with ⟨found, checked, reads⟩
  rcases second with ⟨later, checked', reads'⟩
  refine ⟨found.append later, checked.append checked', fun tail stops => ?_⟩
  rw [List.append_assoc, reads _ (starts_append starts stops), reads' tail stops, Option.map_map]
  exact congrArg (Option.map · _) (funext fun others => (Words.append_assoc found later others).symm)

theorem Listed.behind (later : Listed text) (nonempty : lexeme ≠ [])
    (lexed : ∀ tail, (∀ c, tail.head? = some c → c = '<') →
      lex (lexeme ++ (text ++ tail)) = ⟨lexeme, .ok piece, text ++ tail⟩)
    (reads : ∃ here, piece.words = some here ∧ here.Checked) : Listed (lexeme ++ text) := by
  rcases reads with ⟨here, reads, checked⟩
  rcases later with ⟨found, checked', reads'⟩
  refine ⟨here.append found, checked.append checked', fun tail stops => ?_⟩
  rw [List.append_assoc, words_step (by simp [nonempty]) (lexed tail stops) reads,
    reads' tail stops, Option.map_map]
  exact congrArg (Option.map · _) (funext fun others => (Words.append_assoc here found others).symm)

theorem Content.listed {scope : List (List Char)} (derived : Content scope text) : Listed text := by
  induction derived with
  | nil => exact .nil
  | text _ run resolved rest nonempty noBracket _ _ _ stops _ ih =>
      exact ih.behind nonempty
        (fun tail ends => lex_text nonempty noBracket (starts_append stops ends))
        ⟨.empty, rfl, .empty⟩
  | comment _ body rest noHyphens _ _ ih =>
      exact ih.behind (by simp) (fun _ _ => lex_comment (not_ended noHyphens))
        ⟨.empty, rfl, .empty⟩
  | cdata _ body rest closed _ ih =>
      exact ih.behind (by simp) (fun _ _ => lex_cdata closed) ⟨.empty, rfl, .empty⟩
  | instruction _ body rest closed processing _ ih =>
      have checked : Words.Checked ⟨[], [body.takeWhile (!isSpace ·)], []⟩ :=
        ⟨by simp, by simpa using not_xml_of_processing processing⟩
      exact ih.behind (by simp) (fun _ _ => lex_instruction closed processing) ⟨_, rfl, checked⟩
  | emptyElement _ tagged rest element tag _ ih =>
      exact ih.behind (by simp) (fun _ _ => lex_emptyTag tag) tag.words
  | element _ tagged inner spaces rest element tag _ blank _ ihInner ih =>
      have checked : Words.Checked ⟨[element.name], [], []⟩ := ⟨by simp [tag.named], by simp⟩
      have closing := ih.behind (by simp) (fun _ _ => lex_endTag tag.named blank)
        ⟨_, rfl, checked⟩
      have whole := (ihInner.append closing (by simp)).behind (by simp)
        (fun _ _ => lex_startTag tag) tag.words
      simpa only [List.append_assoc] using whole

/-- The words of an accepted fragment can be read: its names are names, no target is the word of a
declaration, and they are those of a well-formed document exactly if the fragment is careful where
the checks are not. -/
theorem accepted_words (fragment : String) (accepted : validate fragment = .ok ()) :
    ∃ found, words fragment.toList = some found ∧ found.Checked ∧
      (found.WellFormed ↔ found.Careful) := by
  rcases ((validate_ok_iff fragment).mp accepted).2.listed with ⟨found, checked, reads⟩
  have ends : words [] = some .empty := by rw [words, dif_pos rfl]
  have whole := reads [] (by simp)
  rw [List.append_nil, ends, Option.map_some, Words.append_empty] at whole
  exact ⟨found, whole, checked, checked.wellFormed_iff⟩

theorem careful_fragment_conforms :
    validate "<a x='1' y='2'><?go on?></a>" = .ok () ∧
      ∃ found, words "<a x='1' y='2'><?go on?></a>".toList = some found ∧ found.WellFormed := by
  have accepted : validate "<a x='1' y='2'><?go on?></a>" = .ok () :=
    isValid_iff.mp (by decide +kernel)
  have read : words "<a x='1' y='2'><?go on?></a>".toList =
      some ⟨[['a'], ['x'], ['y'], ['a']], [['g', 'o']], [[' ']]⟩ := by decide +kernel
  rcases accepted_words _ accepted with ⟨found, reads, _, conforms⟩
  cases reads.symm.trans read
  exact ⟨accepted, _, read, conforms.mpr (by decide +kernel)⟩

/-- A letter that is foreign to XML, a target that is no name, and attributes that touch. -/
theorem careless_fragments_accepted :
    (validate "<ª/>" = .ok () ∧ words "<ª/>".toList = some ⟨[['ª']], [], []⟩ ∧
      ¬ Words.WellFormed ⟨[['ª']], [], []⟩) ∧
    (validate "<?1?>" = .ok () ∧ words "<?1?>".toList = some ⟨[], [['1']], []⟩ ∧
      ¬ Words.WellFormed ⟨[], [['1']], []⟩) ∧
    validate "<a x='1'y='2'/>" = .ok () ∧
      words "<a x='1'y='2'/>".toList = some ⟨[['a'], ['x'], ['y']], [], [[]]⟩ ∧
        ¬ Words.WellFormed ⟨[['a'], ['x'], ['y']], [], [[]]⟩ :=
  ⟨⟨isValid_iff.mp (by decide +kernel), by decide +kernel, by decide +kernel⟩,
    ⟨isValid_iff.mp (by decide +kernel), by decide +kernel, by decide +kernel⟩,
    isValid_iff.mp (by decide +kernel), by decide +kernel, by decide +kernel⟩

end CatalogueEditor.Markup
