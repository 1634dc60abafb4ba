import CatalogueEditor.Proofs.Markup.Pieces

/-!
The grammar of fragments. Content is derived as a tree: elements hold content of their own, and the
prefixes that an element declares are in scope inside it and nowhere else. The checker reads through
what is derived, and has the same elements open behind it as in front of it.
-/

namespace CatalogueEditor.Markup

open Text

/-- Content inside elements that declare the prefixes of a scope. A text run goes on to the next
markup or to the end. -/
inductive Content : List (List Char) → List Char → Prop
  | nil (scope : List (List Char)) : Content scope []
  | text (scope : List (List Char)) (run resolved rest : List Char) (nonempty : run ≠ [])
      (noBracket : '<' ∉ run) (noCdataEnd : ¬ "]]>".toList <:+: run)
      (resolves : Resolves run resolved) (allowed : ∀ c ∈ resolved, XmlChar c)
      (stops : ∀ c, rest.head? = some c → c = '<') (later : Content scope rest) :
      Content scope (run ++ rest)
  | comment (scope : List (List Char)) (body rest : List Char)
      (noHyphens : ¬ "--".toList <:+: body) (last : body.getLast? ≠ some '-')
      (later : Content scope rest) :
      Content scope ("<!--".toList ++ body ++ "-->".toList ++ rest)
  | cdata (scope : List (List Char)) (body rest : List Char)
      (closed : ¬ "]]>".toList <:+: body) (later : Content scope rest) :
      Content scope ("<![CDATA[".toList ++ body ++ "]]>".toList ++ rest)
  | instruction (scope : List (List Char)) (body rest : List Char)
      (closed : ¬ "?>".toList <:+: '?' :: body) (processing : isDeclaration body = false)
      (later : Content scope rest) :
      Content scope ("<?".toList ++ body ++ "?>".toList ++ rest)
  | emptyElement (scope : List (List Char)) (tagged rest : List Char) (element : OpenElement)
      (tag : Tag scope tagged element) (later : Content scope rest) :
      Content scope ("<".toList ++ tagged ++ "/>".toList ++ rest)
  | element (scope : List (List Char)) (tagged inner spaces rest : List Char)
      (element : OpenElement) (tag : Tag scope tagged element)
      (nested : Content (element.declared ++ scope) inner) (blank : spaces.all isSpace = true)
      (later : Content scope rest) :
      Content scope ("<".toList ++ tagged ++ ">".toList ++ inner ++
        ("</".toList ++ (element.name ++ spaces) ++ ">".toList) ++ rest)

/-! Positions take no part in what is accepted. -/

/-- A text is accepted piece by piece, each as the open elements allow, and leaves none open. -/
inductive Accepts : List OpenElement → List Char → Prop
  | done : Accepts [] []
  | piece (opened next : List OpenElement) (text : List Char) (found : Piece)
      (nonempty : text ≠ []) (lexed : (lex text).found = .ok found)
      (advanced : advance opened found = .ok next) (later : Accepts next (lex text).rest) :
      Accepts opened text

theorem checkFrom_ok_iff {opened : List OpenElement} {position : Nat} {text : List Char} :
    checkFrom opened position text = .ok () ↔ Accepts opened text := by
  constructor
  · intro accepted
    fun_induction checkFrom opened position text with
    | case1 => exact .done
    | case2 => cases accepted
    | case3 => cases accepted
    | case4 => cases accepted
    | case5 opened position text nonempty step next found lexed opened' advanced shorter ih =>
        exact .piece _ _ _ _ nonempty lexed advanced (ih accepted)
  · intro accepts
    induction accepts generalizing position with
    | done => simp [checkFrom]
    | piece opened next text found nonempty lexed advanced later ih =>
        unfold checkFrom
        rw [dif_neg nonempty]
        simp only [lexed, advanced]
        exact ih

variable {opened next : List OpenElement} {text lexeme rest : List Char} {found : Piece}

theorem Accepts.nil (accepts : Accepts opened []) : opened = [] := by
  cases accepts with
  | done => rfl
  | piece _ _ _ _ nonempty => exact absurd rfl nonempty

theorem Accepts.step (nonempty : text ≠ []) (lexed : lex text = ⟨lexeme, .ok found, rest⟩)
    (advanced : advance opened found = .ok next) (later : Accepts next rest) :
    Accepts opened text := by
  refine .piece opened next text found nonempty ?_ advanced ?_ <;> rw [lexed]
  exact later

/-! The checks on text and comments. -/

theorem checkText_ok_iff {body : List Char} :
    checkText body = .ok () ↔
      ¬ "]]>".toList <:+: body ∧
        ∃ resolved, Resolves body resolved ∧ ∀ c ∈ resolved, XmlChar c := by
  constructor
  · intro checked
    unfold checkText at checked
    split at checked
    · cases checked
    rename_i absent
    split at checked
    · cases checked
    rename_i resolved read
    exact ⟨mt (occurs_iff (by decide)).mpr absent, resolved, resolveAllowed_ok_iff.mp read⟩
  · rintro ⟨absent, resolved, resolves⟩
    unfold checkText
    rw [if_neg (mt (occurs_iff (by decide)).mp absent), resolveAllowed_ok_iff.mpr resolves]

theorem checkComment_ok_iff {body : List Char} :
    checkComment body = .ok () ↔ ¬ "--".toList <:+: body ∧ body.getLast? ≠ some '-' := by
  have hyphens : occurs "--".toList body = true ↔ "--".toList <:+: body :=
    occurs_iff (by decide)
  unfold checkComment
  split
  · rename_i bad
    rw [Bool.or_eq_true, hyphens, beq_iff_eq] at bad
    simp only [reduceCtorEq, false_iff, not_and_or, not_not, ne_eq]
    exact bad
  · rename_i good
    rw [Bool.or_eq_true, hyphens, beq_iff_eq, not_or] at good
    simp only [true_iff]
    exact good

theorem not_ended {body : List Char} (noHyphens : ¬ "--".toList <:+: body) :
    ¬ "-->".toList <:+: body :=
  fun ends => noHyphens (List.IsInfix.trans ⟨[], ['>'], rfl⟩ ends)

/-! What the grammar derives is read through, and leaves open what was open before it. -/

variable {scope : List (List Char)} {source front run : List Char} {position : Nat}

theorem checkFrom_step (nonempty : text ≠ []) (lexed : lex text = ⟨lexeme, .ok found, rest⟩)
    (advanced : advance opened found = .ok next) :
    checkFrom opened position text = checkFrom next (position + utf8Length lexeme) rest := by
  conv_lhs => unfold checkFrom
  rw [dif_neg nonempty]
  simp only [lexed, advanced]

/-- The checker reads through the text and has the same elements open behind it, whatever they are,
if they declare the prefixes of the scope, and whatever follows. -/
def Passed (scope : List (List Char)) (text : List Char) : Prop :=
  ∀ (innermost : OpenElement) (outer : List OpenElement) (position : Nat) (rest : List Char),
    scope = scopeOf (innermost :: outer) →
      checkFrom (innermost :: outer) position (text ++ rest) =
        checkFrom (innermost :: outer) (position + utf8Length text) rest

theorem Passed.nil : Passed scope [] :=
  fun _ _ _ _ _ => rfl

theorem Passed.append {back : List Char} (first : Passed scope front) (second : Passed scope back) :
    Passed scope (front ++ back) := by
  intro innermost outer position rest inScope
  rw [List.append_assoc, first _ _ _ _ inScope, second _ _ _ _ inScope, utf8Length_append,
    Nat.add_assoc]

theorem Passed.piece (nonempty : lexeme ≠ [])
    (lexed : ∀ rest, lex (lexeme ++ rest) = ⟨lexeme, .ok found, rest⟩)
    (keeps : ∀ opened, scope = scopeOf opened → advanceInside opened found = .ok opened) :
    Passed scope lexeme := by
  intro innermost outer position rest inScope
  exact checkFrom_step (List.append_ne_nil_of_left_ne_nil nonempty _) (lexed rest)
    (keeps _ inScope)

/-- Content in two parts: what ends in markup, and the run of text behind that. What follows goes on
the run if it is text; the first part stays as it is. -/
structure Parts (scope : List (List Char)) (source front run : List Char) : Prop where
  whole : source = front ++ run
  ends : ∀ c, front.getLast? = some c → c = '>'
  passed : Passed scope front
  plain : '<' ∉ run
  checked : checkText run = .ok ()

theorem Parts.passes (parts : Parts scope source front run) (innermost : OpenElement)
    (outer : List OpenElement) (position : Nat) (inScope : scope = scopeOf (innermost :: outer))
    (stops : ∀ c, rest.head? = some c → c = '<') :
    checkFrom (innermost :: outer) position (source ++ rest) =
      checkFrom (innermost :: outer) (position + utf8Length source) rest := by
  rw [parts.whole, List.append_assoc, parts.passed _ _ _ _ inScope, utf8Length_append,
    ← Nat.add_assoc]
  by_cases nonempty : run = []
  · rw [nonempty]
    rfl
  · refine checkFrom_step (by simp [nonempty]) (lex_text nonempty parts.plain stops) ?_
    simp [advance, advanceInside, parts.checked, Except.map]

theorem Parts.behind (parts : Parts scope source front run) (passed : Passed scope lexeme)
    (ends : lexeme.getLast? = some '>') : Parts scope (lexeme ++ source) (lexeme ++ front) run := by
  refine ⟨by rw [parts.whole, List.append_assoc], ?_, passed.append parts.passed, parts.plain,
    parts.checked⟩
  intro c last
  rw [List.getLast?_append] at last
  cases inside : front.getLast? with
  | none => simpa [inside, ends] using last.symm
  | some d =>
      obtain rfl : d = c := by simpa [inside] using last
      exact parts.ends d inside

theorem Passed.element {tagged inner spaces : List Char} {element : OpenElement}
    (tag : Tag scope tagged element) (blank : spaces.all isSpace = true)
    (parts : Parts (element.declared ++ scope) inner front run) :
    Passed scope ("<".toList ++ tagged ++ ">".toList ++ inner ++
      ("</".toList ++ (element.name ++ spaces) ++ ">".toList)) := by
  intro innermost outer position rest inScope
  subst inScope
  have opens : advance (innermost :: outer) (.startTag tagged) =
      .ok (element :: innermost :: outer) := by
    simp [advance, advanceInside, checkTagIn_ok_iff.mpr tag, Except.map]
  have closes : advance (element :: innermost :: outer) (.endTag element.name) =
      .ok (innermost :: outer) := by
    simp [advance, advanceInside]
  have stops : ∀ c, ("</".toList ++ (element.name ++ spaces) ++ ">".toList ++ rest).head? = some c →
      c = '<' := by simp
  rw [List.append_assoc, List.append_assoc]
  rw [checkFrom_step (by simp) (lex_startTag tag) opens,
    parts.passes _ _ _ List.flatMap_cons.symm stops,
    checkFrom_step (by simp) (lex_endTag tag.named blank) closes]
  simp only [utf8Length_append, Nat.add_assoc]

theorem Content.parts (content : Content scope source) :
    ∃ front run, Parts scope source front run := by
  induction content with
  | nil scope =>
      have checked := checkText_ok_iff.mpr ⟨by decide, [], .nil, by simp⟩
      exact ⟨[], [], rfl, by simp, .nil, by simp, checked⟩
  | text scope run resolved source nonempty noBracket noCdataEnd resolves allowed stops _ ih =>
      have checked := checkText_ok_iff.mpr ⟨noCdataEnd, resolved, resolves, allowed⟩
      rcases ih with ⟨front, last, parts⟩
      cases front with
      | nil =>
          -- What follows a run of text starts with a bracket or is empty.
          have nothing : source = [] := by
            cases source with
            | nil => rfl
            | cons c others =>
                have bracket : '<' ∈ last := by
                  rw [← stops c rfl, ← List.nil_append last, ← parts.whole]
                  exact List.mem_cons_self
                exact absurd bracket parts.plain
          rw [nothing, List.append_nil]
          exact ⟨[], run, rfl, by simp, .nil, noBracket, checked⟩
      | cons c others =>
          have bracket : c = '<' := stops c (by rw [parts.whole]; rfl)
          refine ⟨run ++ (c :: others), last, by rw [parts.whole, List.append_assoc], ?_, ?_,
            parts.plain, parts.checked⟩
          · intro d ends
            rw [List.getLast?_append_of_ne_nil _ (by simp)] at ends
            exact parts.ends d ends
          · intro innermost outer position rest inScope
            rw [List.append_assoc, utf8Length_append, ← Nat.add_assoc,
              ← parts.passed _ _ _ _ inScope]
            refine checkFrom_step (by simp) (lex_text nonempty noBracket (by simp [bracket])) ?_
            simp [advance, advanceInside, checked, Except.map]
  | comment scope body source noHyphens last _ ih =>
      have ends : ("<!--".toList ++ body ++ "-->".toList).getLast? = some '>' :=
        List.getLast?_append_of_ne_nil _ (by decide)
      have checked := checkComment_ok_iff.mpr ⟨noHyphens, last⟩
      rcases ih with ⟨front, run, parts⟩
      refine ⟨_, run,
        parts.behind (.piece (by simp) (fun _ => lex_comment (not_ended noHyphens)) ?_) ends⟩
      simp [advanceInside, checked, Except.map]
  | cdata scope body source closed _ ih =>
      have ends : ("<![CDATA[".toList ++ body ++ "]]>".toList).getLast? = some '>' :=
        List.getLast?_append_of_ne_nil _ (by decide)
      rcases ih with ⟨front, run, parts⟩
      refine ⟨_, run, parts.behind (.piece (by simp) (fun _ => lex_cdata closed) ?_) ends⟩
      simp [advanceInside]
  | instruction scope body source closed processing _ ih =>
      have ends : ("<?".toList ++ body ++ "?>".toList).getLast? = some '>' :=
        List.getLast?_append_of_ne_nil _ (by decide)
      rcases ih with ⟨front, run, parts⟩
      refine ⟨_, run,
        parts.behind (.piece (by simp) (fun _ => lex_instruction closed processing) ?_) ends⟩
      simp [advanceInside]
  | emptyElement scope tagged source element tag _ ih =>
      have ends : ("<".toList ++ tagged ++ "/>".toList).getLast? = some '>' :=
        List.getLast?_append_of_ne_nil _ (by decide)
      rcases ih with ⟨front, run, parts⟩
      refine ⟨_, run, parts.behind (.piece (by simp) (fun _ => lex_emptyTag tag) ?_) ends⟩
      rintro opened rfl
      simp [advanceInside, checkTagIn_ok_iff.mpr tag, Except.map]
  | element scope tagged inner spaces source element tag _ blank _ ihInner ih =>
      have ends : ("<".toList ++ tagged ++ ">".toList ++ inner ++
          ("</".toList ++ (element.name ++ spaces) ++ ">".toList)).getLast? = some '>' := by
        rw [← List.append_assoc]
        exact List.getLast?_append_of_ne_nil _ (by decide)
      rcases ihInner with ⟨_, _, inside⟩
      rcases ih with ⟨front, run, parts⟩
      exact ⟨_, run, parts.behind (.element tag blank inside) ends⟩

end CatalogueEditor.Markup
