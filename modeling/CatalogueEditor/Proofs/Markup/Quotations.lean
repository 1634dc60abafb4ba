import CatalogueEditor.Proofs.LogTexts
import CatalogueEditor.Proofs.Markup.Positions

/-!
What the message of a problem repeats: words of the fragment, as they are written there, and numbers.
The numbers are places in the fragment, or codes of 32 bits, so that only the words can make a message
long or break its line.
-/

namespace CatalogueEditor.Markup

open Text

/-! Words. -/

def AttributeProblem.quoted : AttributeProblem → List String
  | openQuote _ quote => [String.ofList [quote]]
  | _ => []

def ValueProblem.quoted : ValueProblem → List String
  | reference (.unknownName _ _ name) => [String.ofList name]
  | _ => []

def TagProblem.quoted : TagProblem → List String
  | elementName name => [String.ofList name]
  | badAttribute problem => problem.quoted
  | attributeName key => [String.ofList key]
  | bracketInValue key => [String.ofList key]
  | value problem => problem.quoted
  | emptyNamespace bound => [String.ofList bound]
  | undeclared missing => [String.ofList missing]

/-- The words of the fragment that a message repeats. -/
def Problem.quoted : Problem → List String
  | tag problem => problem.quoted
  | value problem => problem.quoted
  | mismatched expected found => [String.ofList expected, String.ofList found]
  | unmatched found => [String.ofList found]
  | unclosed name => [String.ofList name]
  | _ => []

/-! Numbers. -/

def AttributeProblem.numbers : AttributeProblem → List Nat
  | noEquals place => [place]
  | noValue place => [place]
  | unquoted place => [place]
  | openQuote place _ => [place]
  | duplicate place previous => [place, previous]

def ReferenceProblem.numbers : ReferenceProblem → List Nat
  | unterminated first last => [first, last]
  | unknownName first last _ => [first, last]
  | badNumber (.notCharacter code) => [code]
  | badNumber _ => []

def ValueProblem.numbers : ValueProblem → List Nat
  | reference problem => problem.numbers
  | forbidden _ => []

def TagProblem.numbers : TagProblem → List Nat
  | badAttribute problem => problem.numbers
  | value problem => problem.numbers
  | _ => []

/-- The numbers that a message repeats. -/
def Problem.numbers : Problem → List Nat
  | tag problem => problem.numbers
  | value problem => problem.numbers
  | _ => []

/-- Each is a place in a text of the size, or a code. -/
def Placed (size : Nat) (numbers : List Nat) : Prop :=
  ∀ n ∈ numbers, n ≤ size ∨ n < UInt32.size

/-- The size of the part of a piece that is checked for references. -/
def Piece.extent : Piece → Nat
  | text body => utf8Length body
  | startTag content => utf8Length content
  | emptyTag content => utf8Length content
  | _ => 0

variable {size : Nat} {text rest : List Char}

theorem Placed.mono {numbers : List Nat} {larger : Nat} (placed : Placed size numbers)
    (within : size ≤ larger) : Placed larger numbers :=
  fun n member => (placed n member).imp_left fun small => small.trans within

theorem placed_nil : Placed size [] :=
  List.forall_mem_nil _

theorem placed_cons {n : Nat} {numbers : List Nat} (small : n ≤ size) (placed : Placed size numbers) :
    Placed size (n :: numbers) :=
  List.forall_mem_cons.mpr ⟨.inl small, placed⟩

theorem characterOf_placed {code : Nat} {problem : NumberProblem} (small : code < UInt32.size)
    (failed : characterOf code = .error problem) :
    Placed size (ReferenceProblem.badNumber problem).numbers := by
  unfold characterOf at failed
  split at failed
  · cases failed
    exact placed_nil
  · split at failed
    · cases failed
    · cases failed
      exact List.forall_mem_cons.mpr ⟨.inr small, placed_nil⟩

theorem readDigits_error {base value : Nat} {problem : NumberProblem}
    (failed : readDigits base value text = .error problem) :
    problem = .badDigit ∨ problem = .tooLarge := by
  induction text generalizing value with
  | nil => cases failed
  | cons c rest ih =>
      rw [readDigits] at failed
      split at failed
      · exact .inl (Except.error.inj failed).symm
      · split at failed
        · exact ih failed
        · exact .inr (Except.error.inj failed).symm

theorem readNumber_error {base : Nat} {problem : NumberProblem}
    (failed : readNumber base text = .error problem) :
    (ReferenceProblem.badNumber problem).numbers = [] := by
  unfold readNumber at failed
  split at failed
  · cases failed
    rfl
  · split at failed
    · cases failed
      rfl
    · rcases readDigits_error failed with rfl | rfl <;> rfl

theorem readNumber_placed {base : Nat} {problem : NumberProblem} (positive : 0 < base)
    (failed : (readNumber base text).bind characterOf = .error problem) :
    Placed size (ReferenceProblem.badNumber problem).numbers := by
  cases read : readNumber base text with
  | ok code =>
      rw [read] at failed
      exact characterOf_placed ((readNumber_ok_iff positive).mp read).2.2 failed
  | error bad =>
      rw [read] at failed
      cases failed
      rw [readNumber_error read]
      exact placed_nil

theorem numbered_placed {problem : NumberProblem} (failed : numbered text = .error problem) :
    Placed size (ReferenceProblem.badNumber problem).numbers := by
  unfold numbered at failed
  split at failed
  · exact readNumber_placed (by decide) failed
  · exact readNumber_placed (by decide) failed

theorem resolveOne_placed {first : Nat} {written : List Char} {problem : ReferenceProblem}
    (within : first + utf8Length written ≤ size) (failed : resolveOne first written = .error problem) :
    Placed size problem.numbers := by
  unfold resolveOne at failed
  split at failed
  · split at failed
    · cases failed
    · rename_i bad
      cases failed
      exact numbered_placed bad
  · split at failed
    · cases failed
    · cases failed
      exact placed_cons (by omega) (placed_cons within placed_nil)

theorem utf8Length_takeWhile (p : Char → Bool) (text : List Char) :
    utf8Length (text.takeWhile p) + utf8Length (text.dropWhile p) = utf8Length text := by
  rw [← utf8Length_append, List.takeWhile_append_dropWhile]

/-- What failed behind what was read failed as it is reported. -/
theorem error_of_map {ε α β : Type} {f : α → β} {tried : Except ε α} {e : ε}
    (failed : tried.map f = .error e) : tried = .error e := by
  cases tried with
  | error cause =>
      cases failed
      rfl
  | ok a => cases failed

theorem resolveIn_placed {problem : ReferenceProblem} (within : utf8Length text ≤ size)
    (failed : resolveIn size text = .error problem) : Placed size problem.numbers := by
  fun_induction resolveIn size text with
  | case1 => cases failed
  | case2 rest after stops found bad =>
      cases failed
      have parts := utf8Length_takeWhile (!endsReference ·) rest
      rw [utf8Length_cons] at within
      exact resolveOne_placed (by omega) bad
  | case3 rest after stops found resolved shorter ih =>
      have parts := utf8Length_takeWhile (!endsReference ·) rest
      rw [stops, utf8Length_cons] at parts
      rw [utf8Length_cons] at within
      exact ih (by omega) (error_of_map failed)
  | case4 rest unterminated =>
      cases failed
      exact placed_cons (Nat.sub_le _ _) (placed_cons (Nat.le_refl _) placed_nil)
  | case5 c rest plain ih =>
      rw [utf8Length_cons] at within
      exact ih (by omega) (error_of_map failed)

theorem resolveAllowed_placed {problem : ValueProblem} (within : utf8Length text ≤ size)
    (failed : resolveAllowed text = .error problem) : Placed size problem.numbers := by
  unfold resolveAllowed at failed
  split at failed
  · rename_i bad
    cases failed
    exact (resolveIn_placed (Nat.le_refl _) bad).mono within
  · split at failed
    · cases failed
      exact placed_nil
    · cases failed

/-! Tags. -/

theorem readValue_placed {problem : AttributeProblem} (failed : readValue size text = .error problem) :
    Placed size problem.numbers := by
  unfold readValue at failed
  split at failed
  · cases failed
    exact placed_cons (Nat.le_refl _) placed_nil
  · split at failed
    · split at failed
      · cases failed
      · cases failed
        exact placed_cons (Nat.le_refl _) placed_nil
    · cases failed
      exact placed_cons (Nat.sub_le _ _) placed_nil

/-- The keys that were read have their places in the tag. -/
def SeenWithin (size : Nat) (seen : SeenKeys) : Prop :=
  ∀ entry ∈ seen, entry.2 ≤ size

variable {seen : SeenKeys} {first : Char}

theorem readAttribute_placed {problem : AttributeProblem} (earlier : SeenWithin size seen)
    (failed : readAttribute size seen first rest = .error problem) : Placed size problem.numbers := by
  simp only [readAttribute] at failed
  split at failed
  · split at failed
    · rename_i previous found
      cases failed
      have placed := earlier previous (List.mem_of_find?_eq_some found)
      exact placed_cons (Nat.sub_le _ _) (placed_cons placed placed_nil)
    · split at failed
      · rename_i bad
        cases failed
        exact readValue_placed bad
      · cases failed
  · cases failed
    exact placed_cons (Nat.sub_le _ _) placed_nil

theorem readAttribute_place {found : Attribute} {place : Nat} {after : List Char}
    (read : readAttribute size seen first rest = .ok (found, place, after)) : place ≤ size := by
  simp only [readAttribute] at read
  split at read
  · split at read
    · cases read
    · split at read
      · cases read
      · cases read
        exact Nat.sub_le _ _
  · cases read

theorem Written.utf8Length_le {found : Attribute} {after : List Char}
    (written : Written found text after) :
    utf8Length found.value + utf8Length after ≤ utf8Length text := by
  cases written
  simp only [utf8Length_append, utf8Length_cons]
  omega

theorem check_placed {found : Attribute} {problem : TagProblem}
    (within : utf8Length found.value ≤ size) (failed : found.check = .error problem) :
    Placed size problem.numbers := by
  unfold Attribute.check at failed
  split at failed
  · cases failed
    exact placed_nil
  split at failed
  · cases failed
    exact placed_nil
  split at failed
  · rename_i bad
    cases failed
    exact resolveAllowed_placed within bad
  · unfold Attribute.namespaces at failed
    split at failed
    · split at failed
      · cases failed
        exact placed_nil
      · cases failed
    · cases failed

theorem checkAttributes_placed {problem : TagProblem} (earlier : SeenWithin size seen)
    (within : utf8Length text ≤ size) (failed : checkAttributes size seen text = .error problem) :
    Placed size problem.numbers := by
  fun_induction checkAttributes size seen text with
  | case1 => cases failed
  | case2 seen text first rest starts bad read =>
      cases failed
      exact readAttribute_placed earlier read
  | case3 seen text first rest starts found place after read shorter bad checked =>
      cases failed
      have written := (written_of_readAttribute read).1.utf8Length_le
      have parts := utf8Length_takeWhile isSpace text
      rw [starts] at parts
      exact check_placed (by omega) checked
  | case4 seen text first rest starts found place after read shorter here checked bad later ih =>
      cases failed
      have written := (written_of_readAttribute read).1.utf8Length_le
      have parts := utf8Length_takeWhile isSpace text
      rw [starts] at parts
      refine ih (List.forall_mem_append.mpr ⟨earlier, ?_⟩) (by omega) later
      exact List.forall_mem_singleton.mpr (readAttribute_place read)
  | case5 => cases failed

theorem checkTag_placed {opened : List OpenElement} {content : List Char} {problem : TagProblem}
    (failed : checkTag opened content = .error problem) :
    Placed (utf8Length content) problem.numbers := by
  have parts := utf8Length_takeWhile (!isSpace ·) content
  simp only [checkTag] at failed
  split at failed
  · cases failed
    exact placed_nil
  split at failed
  · rename_i bad
    cases failed
    exact checkAttributes_placed (List.forall_mem_nil _) (by omega) bad
  · split at failed
    · cases failed
      exact placed_nil
    · cases failed

/-! The run of the checker. -/

theorem Spells.extent_le {lexeme : List Char} {piece : Piece} (spells : Spells lexeme piece rest) :
    piece.extent ≤ utf8Length lexeme := by
  cases spells with
  | text => exact Nat.le_refl _
  | startTag | emptyTag =>
      simp only [Piece.extent, utf8Length_append]
      omega
  | _ => exact Nat.zero_le _

theorem checkText_placed {problem : Problem} (failed : checkText text = .error problem) :
    Placed (utf8Length text) problem.numbers := by
  unfold checkText at failed
  split at failed
  · cases failed
    exact placed_nil
  · split at failed
    · rename_i bad
      cases failed
      exact resolveAllowed_placed (Nat.le_refl _) bad
    · cases failed

theorem checkTagIn_placed {opened : List OpenElement} {problem : Problem}
    (failed : checkTagIn opened text = .error problem) :
    Placed (utf8Length text) problem.numbers := by
  unfold checkTagIn at failed
  split at failed
  · rename_i bad
    cases failed
    exact checkTag_placed bad
  · cases failed

theorem advance_placed {opened : List OpenElement} {piece : Piece} {problem : Problem}
    (failed : advance opened piece = .error problem) : Placed piece.extent problem.numbers := by
  unfold advance at failed
  split at failed
  · have bad := error_of_map failed
    cases piece with
    | text body =>
        simp only [advanceAfter] at bad
        split at bad
        · cases bad
        · cases bad
          exact placed_nil
    | comment | instruction => cases bad
    | _ =>
        cases bad
        exact placed_nil
  · cases piece with
    | text body => exact checkText_placed (error_of_map failed)
    | startTag content => exact checkTagIn_placed (error_of_map failed)
    | emptyTag content => exact checkTagIn_placed (error_of_map failed)
    | comment body =>
        have bad := error_of_map failed
        unfold checkComment at bad
        split at bad
        · cases bad
          exact placed_nil
        · cases bad
    | endTag name =>
        simp only [advanceInside] at failed
        split at failed
        · cases failed
        · cases failed
          exact placed_nil
    | cdata | instruction => cases failed
    | declaration | doctype =>
        cases failed
        exact placed_nil

theorem checkFrom_placed {opened : List OpenElement} {position : Nat} {e : MarkupError}
    (failed : checkFrom opened position text = .error e) :
    Placed (utf8Length text) e.problem.numbers := by
  fun_induction checkFrom opened position text with
  | case1 => cases failed
  | case2 position innermost outer =>
      cases failed
      exact placed_nil
  | case3 opened position text nonempty step next problem lexed =>
      cases failed
      exact placed_nil
  | case4 opened position text nonempty step next found lexed problem refused =>
      cases failed
      have consumed := utf8Length_lex text
      have inside := (lex_spells lexed).extent_le
      exact (advance_placed refused).mono (by omega)
  | case5 opened position text nonempty step next found lexed opened' advanced shorter ih =>
      have consumed := utf8Length_lex text
      exact (ih failed).mono (by simp only [step]; omega)

theorem validate_placed {fragment : String} {e : MarkupError} (refused : validate fragment = .error e) :
    Placed (utf8Length fragment.toList + 7) e.problem.numbers := by
  unfold validate validateChars at refused
  split at refused
  · cases refused
    exact placed_nil
  · have placed := checkFrom_placed refused
    rwa [utf8Length_append, utf8Length_closeRoot] at placed

variable {n : Nat}

/-! Messages. -/

theorem LexProblem.message_short (problem : LexProblem) : Short 200 problem.message := by
  cases problem with
  | openInstruction =>
      have opening : Short 100 "syntax error: processing instruction or xml declaration not closed: " :=
        .of_chars rfl (by decide)
      have closing : Short 100 "`?>` not found before end of input" := .of_chars rfl (by decide)
      exact opening.append closing
  | _ => exact .of_chars rfl (by decide)

theorem AttributeProblem.message_short {problem : AttributeProblem}
    (small : ∀ k ∈ problem.numbers, k < 2 ^ 64) (words : ∀ word ∈ problem.quoted, Short n word) :
    Short (300 + n) problem.message := by
  have opening : Short 20 "position " := .of_chars rfl (by decide)
  cases problem with
  | noEquals place =>
      have number := short_nat (small place (by simp [numbers]))
      have closing : Short 200 ": attribute key must be directly followed by `=` or space" :=
        .of_chars rfl (by decide)
      exact ((opening.append number).append closing).mono (by omega)
  | noValue place =>
      have number := short_nat (small place (by simp [numbers]))
      have closing : Short 200 ": `=` must be followed by an attribute value" := .of_chars rfl (by decide)
      exact ((opening.append number).append closing).mono (by omega)
  | unquoted place =>
      have number := short_nat (small place (by simp [numbers]))
      have closing : Short 200 ": attribute value must be enclosed in `\"` or `'`" :=
        .of_chars rfl (by decide)
      exact ((opening.append number).append closing).mono (by omega)
  | openQuote place quote =>
      have number := short_nat (small place (by simp [numbers]))
      have missing : Short 100 ": missing closing quote `" := .of_chars rfl (by decide)
      have word := words (String.ofList [quote]) (by simp [quoted])
      have closing : Short 100 "` in attribute value" := .of_chars rfl (by decide)
      exact ((((opening.append number).append missing).append word).append closing).mono (by omega)
  | duplicate place previous =>
      have number := short_nat (small place (by simp [numbers]))
      have middle : Short 200 ": duplicated attribute, previous declaration at position " :=
        .of_chars rfl (by decide)
      have earlier := short_nat (small previous (by simp [numbers]))
      exact (((opening.append number).append middle).append earlier).mono (by omega)

theorem NumberProblem.message_short {problem : NumberProblem}
    (small : ∀ k ∈ (ReferenceProblem.badNumber problem).numbers, k < 2 ^ 64) :
    Short 200 problem.message := by
  cases problem with
  | notCharacter code =>
      have opening : Short 100 "`" := .of_chars rfl (by decide)
      have number := short_nat (small code (by simp [ReferenceProblem.numbers]))
      have closing : Short 50 "` is not a valid codepoint" := .of_chars rfl (by decide)
      exact ((opening.append number).append closing).mono (by omega)
  | _ => exact .of_chars rfl (by decide)

theorem ValueProblem.message_short {problem : ValueProblem}
    (small : ∀ k ∈ problem.numbers, k < 2 ^ 64) (words : ∀ word ∈ problem.quoted, Short n word) :
    Short (300 + n) problem.message := by
  have dots : Short 10 ".." := .of_chars rfl (by decide)
  cases problem with
  | reference problem =>
      cases problem with
      | unterminated first last =>
          have opening : Short 100 "Error while escaping character at range " := .of_chars rfl (by decide)
          have start := short_nat (small first (by simp [numbers, ReferenceProblem.numbers]))
          have stop := short_nat (small last (by simp [numbers, ReferenceProblem.numbers]))
          have closing : Short 100 ": Cannot find ';' after '&'" := .of_chars rfl (by decide)
          exact ((((opening.append start).append dots).append stop).append closing).mono (by omega)
      | unknownName first last name =>
          have opening : Short 100 "at " := .of_chars rfl (by decide)
          have start := short_nat (small first (by simp [numbers, ReferenceProblem.numbers]))
          have stop := short_nat (small last (by simp [numbers, ReferenceProblem.numbers]))
          have middle : Short 100 ": unrecognized entity `" := .of_chars rfl (by decide)
          have word := words (String.ofList name) (by simp [quoted])
          have closing : Short 10 "`" := .of_chars rfl (by decide)
          exact ((((((opening.append start).append dots).append stop).append middle).append
            word).append closing).mono (by omega)
      | badNumber problem =>
          have opening : Short 100 "invalid character reference: " := .of_chars rfl (by decide)
          exact (opening.append (NumberProblem.message_short small)).mono (by omega)
  | forbidden c =>
      have opening : Short 100 "reference to " := .of_chars rfl (by decide)
      have closing : Short 100 " is not allowed" := .of_chars rfl (by decide)
      exact ((opening.append (short_codePointName c)).append closing).mono (by omega)

theorem TagProblem.message_short {problem : TagProblem}
    (small : ∀ k ∈ problem.numbers, k < 2 ^ 64) (words : ∀ word ∈ problem.quoted, Short n word) :
    Short (400 + n) problem.message := by
  have quote : Short 10 "'" := .of_chars rfl (by decide)
  cases problem with
  | elementName name =>
      have opening : Short 100 "invalid element name '" := .of_chars rfl (by decide)
      have word := words (String.ofList name) (by simp [quoted])
      exact ((opening.append word).append quote).mono (by omega)
  | badAttribute problem => exact (AttributeProblem.message_short small words).mono (by omega)
  | attributeName key =>
      have opening : Short 100 "invalid attribute name '" := .of_chars rfl (by decide)
      have word := words (String.ofList key) (by simp [quoted])
      exact ((opening.append word).append quote).mono (by omega)
  | bracketInValue key =>
      have opening : Short 100 "'<' in the value of '" := .of_chars rfl (by decide)
      have word := words (String.ofList key) (by simp [quoted])
      exact ((opening.append word).append quote).mono (by omega)
  | value problem => exact (ValueProblem.message_short small words).mono (by omega)
  | emptyNamespace bound =>
      have opening : Short 100 "prefix '" := .of_chars rfl (by decide)
      have word := words (String.ofList bound) (by simp [quoted])
      have closing : Short 100 "' bound to an empty namespace" := .of_chars rfl (by decide)
      exact ((opening.append word).append closing).mono (by omega)
  | undeclared missing =>
      have opening : Short 100 "undeclared namespace prefix '" := .of_chars rfl (by decide)
      have word := words (String.ofList missing) (by simp [quoted])
      exact ((opening.append word).append quote).mono (by omega)

/-- Without the words that it repeats a message is short. -/
theorem Problem.message_short {problem : Problem}
    (small : ∀ k ∈ problem.numbers, k < 2 ^ 64) (words : ∀ word ∈ problem.quoted, Short n word) :
    Short (400 + 2 * n) problem.message := by
  cases problem with
  | forbidden c =>
      have opening : Short 100 "character " := .of_chars rfl (by decide)
      have closing : Short 100 " is not allowed" := .of_chars rfl (by decide)
      exact ((opening.append (short_codePointName c)).append closing).mono (by omega)
  | lexical problem => exact problem.message_short.mono (by omega)
  | tag problem => exact (TagProblem.message_short small words).mono (by omega)
  | mismatched expected found =>
      have opening : Short 100 "ill-formed document: expected `</" := .of_chars rfl (by decide)
      have word := words (String.ofList expected) (by simp [quoted])
      have middle : Short 100 ">`, but `</" := .of_chars rfl (by decide)
      have word' := words (String.ofList found) (by simp [quoted])
      have closing : Short 100 ">` was found" := .of_chars rfl (by decide)
      exact ((((opening.append word).append middle).append word').append closing).mono (by omega)
  | unmatched found =>
      have opening : Short 100 "ill-formed document: close tag `</" := .of_chars rfl (by decide)
      have word := words (String.ofList found) (by simp [quoted])
      have closing : Short 100 ">` does not match any open tag" := .of_chars rfl (by decide)
      exact ((opening.append word).append closing).mono (by omega)
  | unclosed name =>
      have opening : Short 100 "unclosed <" := .of_chars rfl (by decide)
      have word := words (String.ofList name) (by simp [quoted])
      have closing : Short 100 ">" := .of_chars rfl (by decide)
      exact ((opening.append word).append closing).mono (by omega)
  | value problem => exact (ValueProblem.message_short small words).mono (by omega)
  | _ =>
      refine Short.mono (?_ : Short 100 _) (by omega)
      exact .of_chars rfl (by decide)

/-- The message of an error has a bound that only the words it repeats add to. -/
theorem MarkupError.message_short {fragment : String} {e : MarkupError}
    (refused : validate fragment = .error e) (fits : InMemory fragment)
    (words : ∀ word ∈ e.problem.quoted, Short n word) : Short (500 + 2 * n) e.message := by
  have size : utf8Length fragment.toList < 2 ^ 63 := fits
  have placed := validate_placed refused
  have small : ∀ k ∈ e.problem.numbers, k < 2 ^ 64 := by
    intro k member
    have bound : UInt32.size < 2 ^ 64 := by decide
    have either := placed k member
    omega
  have position : e.position < 2 ^ 64 := by
    have within := validateChars_position refused
    omega
  have opening : Short 20 "at byte " := .of_chars rfl (by decide)
  have colon : Short 20 ": " := .of_chars rfl (by decide)
  exact (((opening.append (short_nat position)).append colon).append
    (Problem.message_short small words)).mono (by omega)

/-! What a message repeats is a part of it. -/

theorem AttributeProblem.repeats {problem : AttributeProblem} {word : String}
    (member : word ∈ problem.quoted) : Repeats problem.message word := by
  cases problem with
  | openQuote place quote =>
      obtain rfl := List.mem_singleton.mp member
      exact ⟨_, _, rfl⟩
  | _ => cases member

theorem ValueProblem.repeats {problem : ValueProblem} {word : String}
    (member : word ∈ problem.quoted) : Repeats problem.message word := by
  unfold quoted at member
  split at member
  · obtain rfl := List.mem_singleton.mp member
    exact ⟨_, _, rfl⟩
  · cases member

theorem TagProblem.repeats {problem : TagProblem} {word : String}
    (member : word ∈ problem.quoted) : Repeats problem.message word := by
  cases problem with
  | badAttribute problem => exact AttributeProblem.repeats member
  | value problem => exact ValueProblem.repeats member
  | _ =>
      obtain rfl := List.mem_singleton.mp member
      exact ⟨_, _, rfl⟩

theorem Problem.repeats {problem : Problem} {word : String} (member : word ∈ problem.quoted) :
    Repeats problem.message word := by
  cases problem with
  | tag problem => exact TagProblem.repeats member
  | value problem => exact ValueProblem.repeats member
  | mismatched expected found =>
      simp only [quoted, List.mem_cons, List.not_mem_nil, or_false] at member
      rcases member with rfl | rfl
      · refine ⟨"ill-formed document: expected `</",
          ">`, but `</" ++ String.ofList found ++ ">` was found", ?_⟩
        unfold message
        simp only [String.append_assoc]
      · exact ⟨"ill-formed document: expected `</" ++ String.ofList expected ++ ">`, but `</",
          ">` was found", rfl⟩
  | unmatched found =>
      obtain rfl := List.mem_singleton.mp member
      exact ⟨_, _, rfl⟩
  | unclosed name =>
      obtain rfl := List.mem_singleton.mp member
      exact ⟨_, _, rfl⟩
  | _ => cases member

/-- Where the message of an error is short, so are the words that it repeats. -/
theorem MarkupError.words_short {e : MarkupError} (short : Short n e.message) :
    ∀ word ∈ e.problem.quoted, Short n word := by
  intro word member
  exact ((Problem.repeats member).behind ("at byte " ++ toString e.position ++ ": ")).short short

end CatalogueEditor.Markup
