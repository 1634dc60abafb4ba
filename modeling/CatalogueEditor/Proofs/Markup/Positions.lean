import CatalogueEditor.Proofs.Markup.Acceptance

/-!
Where a problem is reported. A step of lexing that leaves something of a fragment depends on nothing
behind the fragment: its piece ends at a mark, or at a bracket that is still in the fragment. Only of
a stray exclamation mark nothing but the bracket before it is consumed, and then it takes two more
characters to tell what it is. So a problem that is reported further in front than that is one of
every text that starts like the fragment.
-/

namespace CatalogueEditor.Markup

open Text

variable {text word before after other kept rest : List Char} {quote : Option Char} {depth : Nat}

/-! Cuts fall where they fell, whatever is behind them. -/

theorem cutAt_again {front : List Char} {last : Char} (single : last ∉ front)
    (found : cutAt (front ++ [last]) text = some (before, after)) (other : List Char) :
    cutAt (front ++ [last]) (before ++ (front ++ [last]) ++ other) = some (before, other) :=
  (cutAt_eq_some_iff single).mpr ⟨rfl, ((cutAt_eq_some_iff single).mp found).2⟩

theorem cutTag_again (found : cutTag quote text = some (before, after)) (other : List Char) :
    cutTag quote (before ++ ['>'] ++ other) = some (before, other) := by
  induction text generalizing quote before with
  | nil => cases found
  | cons c rest ih =>
      rw [cutTag] at found
      split at found
      · rename_i ends
        cases found
        simp [cutTag, ends.1]
      · rename_i goesOn
        rcases Option.map_eq_some_iff.mp found with ⟨⟨front, back⟩, inner, same⟩
        cases same
        rw [List.cons_append, List.cons_append, cutTag, if_neg goesOn, ih inner]
        rfl

theorem cutNested_again (found : cutNested depth text = some (before, after))
    (other : List Char) : cutNested depth (before ++ ['>'] ++ other) = some (before, other) := by
  induction text generalizing depth before with
  | nil => cases found
  | cons c rest ih =>
      rw [cutNested] at found
      split at found
      · rename_i ends
        cases found
        simp [cutNested, ends.1]
      · rename_i goesOn
        rcases Option.map_eq_some_iff.mp found with ⟨⟨front, back⟩, inner, same⟩
        cases same
        rw [List.cons_append, List.cons_append, cutNested, if_neg goesOn]
        dsimp only
        rw [ih inner]
        rfl

/-! Steps of lexing. -/

theorem ne_nil_of_enough (enough : 2 ≤ utf8Length kept) : kept ≠ [] := by
  rintro rfl
  simp at enough

/-- A step of lexing is the same with any other text behind a part of what it left. -/
def Settled (step : Lexed) (kept : List Char) : Prop :=
  ∀ other, lex (step.lexeme ++ (kept ++ other)) = ⟨step.lexeme, step.found, kept ++ other⟩

/-- A construct that leaves something has its end mark, so that it is settled if it is found again
where it stands. -/
theorem lexTo_settled {opening mark : List Char} {cut : List Char → Option (List Char × List Char)}
    {unclosed : LexProblem} {read : List Char → Except LexProblem Piece}
    (left : (lexTo opening mark text (cut text) unclosed read).rest = kept ++ after)
    (nonempty : kept ≠ [])
    (again : ∀ before, cut text = some (before, kept ++ after) → ∀ other,
      lex (opening ++ (before ++ mark) ++ (kept ++ other)) =
        ⟨opening ++ (before ++ mark), read before, kept ++ other⟩) :
    Settled (lexTo opening mark text (cut text) unclosed read) kept := by
  cases found : cut text with
  | none =>
      rw [found, lexTo] at left
      exact absurd (List.append_eq_nil_iff.mp left.symm).1 nonempty
  | some parts =>
      rw [found] at left
      rcases parts with ⟨before, behind⟩
      cases left
      exact again before found

theorem lexBang_stray {c : Char} (noHyphen : c ≠ '-') (noBracket : c ≠ '[')
    (noDoctype : ¬ (c = 'D' ∨ c = 'd')) :
    lexBang (c :: rest) = ⟨['<'], .error .strayBang, '!' :: c :: rest⟩ := by
  unfold lexBang
  split
  · rename_i same
    exact absurd (List.cons.inj same).1 noHyphen
  · rename_i same
    exact absurd (List.cons.inj same).1 noBracket
  · simp [noDoctype]

theorem lexBang_settled (left : (lexBang text).rest = kept ++ after)
    (enough : 2 ≤ utf8Length kept) : Settled (lexBang text) kept := by
  have nonempty := ne_nil_of_enough enough
  unfold lexBang at left ⊢
  split at left
  · rename_i rest
    apply lexTo_settled left nonempty
    intro before found other
    cases rest with
    | nil => cases found
    | cons c others => exact lexTo_some (cutAt_again marks_single.1 found (kept ++ other))
  · apply lexTo_settled left nonempty
    intro before found other
    exact lexTo_some (cutAt_again marks_single.2.1 found (kept ++ other))
  · rename_i noHyphen noBracket
    split at left
    · rename_i starts
      rw [if_pos starts]
      apply lexTo_settled left nonempty
      intro before found other
      -- The letter that tells the construct stands before the mark that ends it.
      rw [← cutNested_append found] at starts
      cases before with
      | nil => simp at starts
      | cons c others =>
          rcases starts with capital | small
          · cases capital
            exact lexTo_some (cutNested_again found (kept ++ other))
          · cases small
            exact lexTo_some (cutNested_again found (kept ++ other))
    · rename_i noDoctype
      rw [if_neg noDoctype]
      intro other
      -- Two bytes are left at least: the exclamation mark, and the character that tells.
      cases kept with
      | nil => exact absurd rfl nonempty
      | cons mark kept =>
          cases left
          cases kept with
          | nil => exact absurd enough (by decide)
          | cons c more =>
              refine lexBang_stray ?_ ?_ (by simpa using noDoctype)
              · rintro rfl
                exact noHyphen _ rfl
              · rintro rfl
                exact noBracket _ rfl

theorem lexMarkup_settled (left : (lexMarkup text).rest = kept ++ after)
    (enough : 2 ≤ utf8Length kept) : Settled (lexMarkup text) kept := by
  have nonempty := ne_nil_of_enough enough
  unfold lexMarkup at left ⊢
  split at left
  · exact lexBang_settled left enough
  · apply lexTo_settled left nonempty
    intro before found other
    exact lexTo_some (cutTag_again found (kept ++ other))
  · apply lexTo_settled left nonempty
    intro before found other
    have again := cutAt_again marks_single.2.2 found (kept ++ other)
    have whole := cutAt_append found
    cases before with
    | nil => rfl
    | cons c others =>
        cases whole
        exact lexTo_some again
  · rename_i noBang noSlash noMark
    apply lexTo_settled left nonempty
    intro before found other
    have again := cutTag_again found (kept ++ other)
    have whole := cutTag_append found
    cases before with
    | nil => rfl
    | cons c others =>
        cases whole
        have plain : c ≠ '!' ∧ c ≠ '/' ∧ c ≠ '?' := by
          refine ⟨?_, ?_, ?_⟩
          · rintro rfl
            exact noBang _ rfl
          · rintro rfl
            exact noSlash _ rfl
          · rintro rfl
            exact noMark _ rfl
        exact (lexMarkup_tag plain).trans (lexTo_some again)

theorem lex_settled (left : (lex text).rest = kept ++ after) (enough : 2 ≤ utf8Length kept) :
    Settled (lex text) kept := by
  have nonempty := ne_nil_of_enough enough
  unfold lex at left ⊢
  split at left
  · exact lexMarkup_settled left enough
  · rename_i noBracket
    intro other
    cases kept with
    | nil => exact absurd rfl nonempty
    | cons d more =>
        change text.dropWhile (· != '<') = d :: more ++ after at left
        have bracket : d = '<' := by
          have stops := List.head?_dropWhile_not (· != '<') text
          rw [left] at stops
          simpa using stops
        refine lex_text ?_ (fun member => ?_) (by simp [bracket])
        · intro nothing
          have whole := List.takeWhile_append_dropWhile (p := (· != '<')) (l := text)
          change text.takeWhile (· != '<') = [] at nothing
          rw [nothing, left, bracket] at whole
          exact noBracket _ whole.symm
        · simpa using List.all_eq_true.mp List.all_takeWhile _ member

/-! The run of the checker. -/

variable {opened next : List OpenElement} {position : Nat} {e : MarkupError} {lexeme : List Char}
  {found : Piece}

theorem checkFrom_unlexed {problem : LexProblem} (nonempty : text ≠ [])
    (lexed : lex text = ⟨lexeme, .error problem, rest⟩) :
    checkFrom opened position text =
      .error ⟨position + utf8Length lexeme, .lexical problem⟩ := by
  unfold checkFrom
  rw [dif_neg nonempty]
  simp only [lexed]

theorem checkFrom_refused {problem : Problem} (nonempty : text ≠ [])
    (lexed : lex text = ⟨lexeme, .ok found, rest⟩) (refused : advance opened found = .error problem) :
    checkFrom opened position text = .error ⟨position + utf8Length lexeme, problem⟩ := by
  unfold checkFrom
  rw [dif_neg nonempty]
  simp only [lexed, refused]

theorem utf8Length_lex (text : List Char) :
    utf8Length (lex text).lexeme + utf8Length (lex text).rest = utf8Length text := by
  rw [← utf8Length_append, lex_append]

/-- A problem is reported at a place in what was still to be read. -/
theorem position_bounds (failed : checkFrom opened position text = .error e) :
    position ≤ e.position ∧ e.position ≤ position + utf8Length text := by
  fun_induction checkFrom opened position text with
  | case1 => cases failed
  | case2 position innermost outer =>
      cases failed
      exact ⟨Nat.le_refl _, Nat.le_add_right _ _⟩
  | case3 opened position text nonempty step next problem lexed =>
      cases failed
      have consumed := utf8Length_lex text
      exact ⟨Nat.le_add_right _ _, by simp only [next, step]; omega⟩
  | case4 opened position text nonempty step next found lexed problem refused =>
      cases failed
      have consumed := utf8Length_lex text
      exact ⟨Nat.le_add_right _ _, by simp only [next, step]; omega⟩
  | case5 opened position text nonempty step next found lexed opened' advanced shorter ih =>
      have consumed := utf8Length_lex text
      have bounds := ih failed
      simp only [next, step] at bounds
      omega

/-- A step that ends two bytes before the end of a text's beginning is one of every text with that
beginning. -/
theorem lex_again {front : List Char} (whole : text = front ++ after)
    (within : utf8Length (lex text).lexeme + 1 < utf8Length front) :
    ∃ kept, (lex text).rest = kept ++ after ∧ utf8Length front =
        utf8Length (lex text).lexeme + utf8Length kept ∧
      ∀ other, front ++ other ≠ [] ∧
        lex (front ++ other) = ⟨(lex text).lexeme, (lex text).found, kept ++ other⟩ := by
  have consumed := (lex_append text).trans whole
  rcases List.append_eq_append_iff.mp consumed with ⟨kept, inside, left⟩ | ⟨part, across, _⟩
  · have lengths := congrArg utf8Length inside
    rw [utf8Length_append] at lengths
    have settled := lex_settled left (by omega)
    refine ⟨kept, left, lengths, fun other => ⟨?_, ?_⟩⟩
    · intro nothing
      rw [(List.append_eq_nil_iff.mp nothing).1, utf8Length_nil] at within
      omega
    · rw [inside, List.append_assoc]
      exact settled other
  · have lengths := congrArg utf8Length across
    rw [utf8Length_append] at lengths
    omega

/-- A problem that is reported two bytes before the end of a text's beginning is one of every text
with that beginning. -/
theorem checkFrom_again {front : List Char} (failed : checkFrom opened position text = .error e)
    (whole : text = front ++ after) (inside : e.position + 1 < position + utf8Length front)
    (other : List Char) : checkFrom opened position (front ++ other) = .error e := by
  fun_induction checkFrom opened position text generalizing front with
  | case1 => cases failed
  | case2 position innermost outer =>
      cases failed
      rw [(List.append_eq_nil_iff.mp whole.symm).1, utf8Length_nil] at inside
      exact absurd inside (by simp)
  | case3 opened position text nonempty step next problem =>
      rename_i lexed
      cases failed
      have within : utf8Length step.lexeme + 1 < utf8Length front := by
        simp only [next] at inside
        omega
      rcases lex_again whole within with ⟨kept, _, _, again⟩
      rcases again other with ⟨nonempty', lexed'⟩
      exact checkFrom_unlexed nonempty' (lexed'.trans (by rw [lexed]))
  | case4 opened position text nonempty step next found lexed problem =>
      rename_i refused
      cases failed
      have within : utf8Length step.lexeme + 1 < utf8Length front := by
        simp only [next] at inside
        omega
      rcases lex_again whole within with ⟨kept, _, _, again⟩
      rcases again other with ⟨nonempty', lexed'⟩
      exact checkFrom_refused nonempty' (lexed'.trans (by rw [lexed])) refused
  | case5 opened position text nonempty step next found lexed opened' advanced shorter =>
      rename_i ih
      have bounds := position_bounds failed
      have within : utf8Length step.lexeme + 1 < utf8Length front := by
        simp only [next] at bounds
        omega
      rcases lex_again whole within with ⟨kept, left, lengths, again⟩
      rcases again other with ⟨nonempty', lexed'⟩
      rw [checkFrom_step nonempty' (lexed'.trans (by rw [lexed])) advanced]
      exact ih failed left (by simp only [next, step]; omega)

/-! Whole fragments. -/

variable {fragment more : List Char} {c : Char} {place : Nat}

theorem findForbidden_place (found : findForbidden position fragment = some (place, c)) :
    place < position + utf8Length fragment := by
  induction fragment generalizing position with
  | nil => cases found
  | cons first others ih =>
      rw [findForbidden] at found
      rw [utf8Length_cons, ← Nat.add_assoc]
      split at found
      · exact ih found
      · have positive := Char.utf8Size_pos first
        cases found
        omega

theorem findForbidden_again (found : findForbidden position fragment = some (place, c)) :
    findForbidden position (fragment ++ more) = some (place, c) := by
  induction fragment generalizing position with
  | nil => cases found
  | cons first others ih =>
      rw [findForbidden] at found
      rw [List.cons_append, findForbidden]
      split at found
      · rename_i allowed
        rw [if_pos allowed, ih found]
      · rename_i forbidden
        rw [if_neg forbidden, found]

theorem utf8Length_closeRoot : utf8Length closeRoot = 7 := by decide

theorem validateChars_position (refused : validateChars fragment = .error e) :
    e.position ≤ utf8Length fragment + 7 := by
  unfold validateChars at refused
  cases forbidden : findForbidden 0 fragment with
  | some found =>
      rw [forbidden] at refused
      cases refused
      have within := findForbidden_place forbidden
      rw [Nat.zero_add] at within
      exact within.le.trans (Nat.le_add_right _ _)
  | none =>
      rw [forbidden] at refused
      have bounds := position_bounds refused
      rw [utf8Length_append, utf8Length_closeRoot] at bounds
      omega

theorem validateChars_again (refused : validateChars fragment = .error e)
    (inside : e.position + 1 < utf8Length fragment) (more : List Char) :
    ∃ e', validateChars (fragment ++ more) = .error e' := by
  unfold validateChars at refused ⊢
  cases forbidden : findForbidden 0 fragment with
  | some found =>
      rw [findForbidden_again forbidden]
      exact ⟨_, rfl⟩
  | none =>
      rw [forbidden] at refused
      -- A forbidden character in what is written behind comes first, wherever the problem lies.
      cases behind : findForbidden 0 (fragment ++ more) with
      | some found => exact ⟨_, rfl⟩
      | none =>
          rw [← Nat.zero_add (utf8Length fragment)] at inside
          rw [List.append_assoc]
          exact ⟨e, checkFrom_again refused rfl inside (more ++ closeRoot)⟩

/-- The reported place lies in the fragment or in the end tag behind it, seven bytes long; and if it
lies further in front than the last byte of the fragment, the problem is one of the fragment itself:
nothing that is written behind it makes the text an accepted one. -/
theorem problem_lies_where_reported (fragment : String) (e : MarkupError)
    (refused : validate fragment = .error e) :
    e.position ≤ fragment.utf8ByteSize + 7 ∧
      (e.position + 1 < fragment.utf8ByteSize →
        ∀ more : String, ∃ e', validate (fragment ++ more) = .error e') := by
  rw [← utf8Length_toList]
  constructor
  · exact validateChars_position refused
  · intro inside more
    rw [validate, String.toList_append]
    exact validateChars_again refused inside more.toList

theorem mismatched_tag_stays_one :
    validate "<b>bold</i> text" = .error ⟨11, .mismatched "b".toList "i".toList⟩ ∧
      11 + 1 < "<b>bold</i> text".utf8ByteSize ∧
        ∀ more : String, ∃ e', validate ("<b>bold</i> text" ++ more) = .error e' := by
  have refused : validate "<b>bold</i> text" =
      .error ⟨11, .mismatched "b".toList "i".toList⟩ := by with_unfolding_all rfl
  have inside : 11 + 1 < "<b>bold</i> text".utf8ByteSize := by decide
  exact ⟨refused, inside, (problem_lies_where_reported _ _ refused).2 inside⟩

end CatalogueEditor.Markup
