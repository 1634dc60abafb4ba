import CatalogueEditor.Proofs.Markup.Acceptance
import CatalogueEditor.Proofs.Markup.Names

/-!
Accepted fragments compose. Content stays content where more prefixes are declared, so that it may
stand in any element, and two contents one after the other are content. Only the run of text that
ends the first goes on in the second, and there the end mark of a CDATA section may come about: then,
and only then, two accepted fragments make one that is refused.
-/

namespace CatalogueEditor.Markup

open Text

variable {scope wider : List (List Char)} {content source front back run rest word : List Char}
  {element : OpenElement}

/-! More prefixes. -/

theorem subset_behind {front : List (List Char)} (within : scope ⊆ wider) :
    front ++ scope ⊆ front ++ wider :=
  List.append_subset.mpr ⟨List.subset_append_left _ _, List.Subset.trans within (List.subset_append_right _ _)⟩

theorem Tag.widen (tag : Tag scope content element) (within : scope ⊆ wider) :
    Tag wider content element := by
  cases tag with
  | intro name text attributes named apart attached known =>
      refine .intro name text attributes named apart attached ?_
      intro candidate member
      rcases known candidate member with reserved | inside
      · exact .inl reserved
      · exact .inr (subset_behind within inside)

theorem Content.widen (derived : Content scope source) (within : scope ⊆ wider) :
    Content wider source := by
  induction derived generalizing wider with
  | nil => exact .nil wider
  | text _ run resolved rest nonempty noBracket noCdataEnd resolves allowed stops _ ih =>
      exact .text wider run resolved rest nonempty noBracket noCdataEnd resolves allowed stops
        (ih within)
  | comment _ body rest noHyphens last _ ih =>
      exact .comment wider body rest noHyphens last (ih within)
  | cdata _ body rest closed _ ih => exact .cdata wider body rest closed (ih within)
  | instruction _ body rest closed processing _ ih =>
      exact .instruction wider body rest closed processing (ih within)
  | emptyElement _ tagged rest element tag _ ih =>
      exact .emptyElement wider tagged rest element (tag.widen within) (ih within)
  | element _ tagged inner spaces rest element tag _ blank _ ihInner ih =>
      have inside := ihInner (subset_behind within)
      exact .element wider tagged inner spaces rest element (tag.widen within) inside blank
        (ih within)

/-! Words across a boundary. -/

/-- The word stands across the boundary between two texts, with characters on both sides. -/
def Straddles (word front back : List Char) : Prop :=
  ∃ left right, left ≠ [] ∧ right ≠ [] ∧ word = left ++ right ∧ left <:+ front ∧ right <+: back

theorem Straddles.grow_left (straddles : Straddles word run back) :
    Straddles word (front ++ run) back := by
  rcases straddles with ⟨left, right, nonempty, nonempty', whole, before, after⟩
  exact ⟨left, right, nonempty, nonempty', whole, List.suffix_append_of_suffix before, after⟩

theorem Straddles.grow_right (straddles : Straddles word front run) :
    Straddles word front (run ++ back) := by
  rcases straddles with ⟨left, right, nonempty, nonempty', whole, before, after⟩
  exact ⟨left, right, nonempty, nonempty', whole, before, List.prefix_append_of_prefix after⟩

theorem not_infix_append (first : ¬ word <:+: front) (second : ¬ word <:+: back)
    (apart : ¬ Straddles word front back) : ¬ word <:+: front ++ back := by
  intro inside
  rcases List.infix_append_iff_ne_nil.mp inside with before | after | across
  · exact first before
  · exact second after
  · exact apart across

/-! One content after another. -/

theorem Resolves.append {resolved resolved' : List Char} (first : Resolves front resolved)
    (second : Resolves back resolved') : Resolves (front ++ back) (resolved ++ resolved') := by
  induction first with
  | nil => exact second
  | plain c rest resolved noReference _ ih => exact .plain c _ _ noReference ih
  | reference written c rest resolved denotes _ ih =>
      have grown := Resolves.reference written c _ _ denotes ih
      simpa using grown

/-- A run of text in front of content. It goes on in the text that the content starts with, if it
does start with text. -/
theorem Content.behind_text {resolved : List Char} (derived : Content scope rest)
    (nonempty : run ≠ []) (noBracket : '<' ∉ run) (noCdataEnd : ¬ "]]>".toList <:+: run)
    (resolves : Resolves run resolved) (allowed : ∀ c ∈ resolved, XmlChar c)
    (apart : ¬ Straddles "]]>".toList run rest) : Content scope (run ++ rest) := by
  have later := derived
  cases derived with
  | text _ run' resolved' rest' _ noBracket' noCdataEnd' resolves' allowed' stops later' =>
      have closed := not_infix_append noCdataEnd noCdataEnd' (mt Straddles.grow_right apart)
      rw [← List.append_assoc]
      refine .text scope (run ++ run') (resolved ++ resolved') rest' (by simp [nonempty]) ?_ closed
        (resolves.append resolves') ?_ stops later'
      · rw [List.mem_append, not_or]
        exact ⟨noBracket, noBracket'⟩
      · intro c member
        exact (List.mem_append.mp member).elim (allowed c) (allowed' c)
  | nil | comment | cdata | instruction | emptyElement | element =>
      exact .text scope run resolved _ nonempty noBracket noCdataEnd resolves allowed (by simp)
        later

theorem Content.append (first : Content scope front) (second : Content scope back)
    (apart : ¬ Straddles "]]>".toList front back) : Content scope (front ++ back) := by
  induction first with
  | nil => exact second
  | text scope run resolved rest nonempty noBracket noCdataEnd resolves allowed stops _ ih =>
      have inside := ih second (mt Straddles.grow_left apart)
      rw [List.append_assoc]
      cases rest with
      | nil =>
          rw [List.append_nil] at apart
          exact second.behind_text nonempty noBracket noCdataEnd resolves allowed apart
      | cons c others =>
          exact .text scope run resolved _ nonempty noBracket noCdataEnd resolves allowed stops
            inside
  | comment scope body rest noHyphens last _ ih =>
      rw [List.append_assoc]
      exact .comment scope body _ noHyphens last (ih second (mt Straddles.grow_left apart))
  | cdata scope body rest closed _ ih =>
      rw [List.append_assoc]
      exact .cdata scope body _ closed (ih second (mt Straddles.grow_left apart))
  | instruction scope body rest closed processing _ ih =>
      rw [List.append_assoc]
      exact .instruction scope body _ closed processing
        (ih second (mt Straddles.grow_left apart))
  | emptyElement scope tagged rest element tag _ ih =>
      rw [List.append_assoc]
      exact .emptyElement scope tagged _ element tag (ih second (mt Straddles.grow_left apart))
  | element scope tagged inner spaces rest element tag nested blank _ _ ih =>
      rw [List.append_assoc]
      exact .element scope tagged inner spaces _ element tag nested blank
        (ih second (mt Straddles.grow_left apart))

/-! The one way in which they do not compose. -/

theorem cdataEnd_left {left right : List Char} (nonempty : right ≠ [])
    (whole : "]]>".toList = left ++ right) : left <+: "]]".toList := by
  refine List.prefix_of_prefix_length_le ⟨right, whole.symm⟩ ⟨['>'], rfl⟩ ?_
  have lengths := congrArg List.length whole
  have positive := List.length_pos_iff.mpr nonempty
  rw [List.length_append] at lengths
  change 3 = left.length + right.length at lengths
  change left.length ≤ 2
  omega

theorem suffix_behind (suffix : word <:+ front ++ run)
    (apart : ∀ c, front.getLast? = some c → c ∉ word) : word <:+ run := by
  rcases List.suffix_or_suffix_of_suffix suffix (List.suffix_append front run) with
    inside | ⟨part, whole⟩
  · exact inside
  · -- Otherwise the word would have the last character of the text in front.
    rw [← whole, List.suffix_append_self_iff] at suffix
    rcases suffix with ⟨before, same⟩
    cases last : part.getLast? with
    | none =>
        rw [List.getLast?_eq_none_iff.mp last, List.nil_append] at whole
        rw [whole]
    | some c =>
        have member : c ∈ part := List.mem_of_getLast? last
        have ends : front.getLast? = some c := by
          rw [← same, List.getLast?_append_of_ne_nil _ (List.ne_nil_of_mem member), last]
        exact absurd (whole ▸ List.mem_append_left run member) (apart c ends)

theorem lex_plain (plain : ∀ c, source.head? = some c → c ≠ '<') :
    lex source = ⟨source.takeWhile (· != '<'), .ok (.text (source.takeWhile (· != '<'))),
      source.dropWhile (· != '<')⟩ := by
  cases source with
  | nil => rfl
  | cons c others =>
      have noBracket := plain c rfl
      unfold lex
      split
      · rename_i same
        exact absurd (List.cons.inj same).1 noBracket
      · rfl

/-- The end mark of a CDATA section does not stand in a run of text. -/
theorem cdataEnd_refused {innermost : OpenElement} {outer : List OpenElement}
    (noBracket : '<' ∉ front) :
    ¬ Accepts (innermost :: outer) (front ++ "]]>".toList ++ rest) := by
  have plain : '<' ∉ front ++ "]]>".toList := by
    rw [List.mem_append, not_or]
    exact ⟨noBracket, by decide⟩
  have body : (front ++ "]]>".toList ++ rest).takeWhile (· != '<') =
      front ++ "]]>".toList ++ rest.takeWhile (· != '<') := by
    apply List.takeWhile_append_of_pos
    intro c member
    rw [bne_iff_ne]
    exact fun same => plain (same ▸ member)
  have starts : ∀ c, (front ++ "]]>".toList ++ rest).head? = some c → c ≠ '<' := by
    intro c first same
    rw [List.head?_append_of_ne_nil _ (by simp)] at first
    exact plain (same ▸ List.mem_of_head? first)
  intro accepts
  cases accepts with
  | piece _ next _ found nonempty lexed advanced later =>
      rw [lex_plain starts, body] at lexed
      cases lexed
      rcases map_ok_iff.mp advanced with ⟨⟨⟩, checked, _⟩
      refine (checkText_ok_iff.mp checked).1 ?_
      exact (List.suffix_append front _).isInfix.trans (List.prefix_append _ _).isInfix

/-- Two contents one after the other are content, unless the end mark of a CDATA section stands
across their boundary. -/
theorem content_append_iff (first : Content [] front) (second : Content [] back) :
    Content [] (front ++ back) ↔ ¬ Straddles "]]>".toList front back := by
  refine ⟨fun whole straddles => ?_, first.append second⟩
  rcases straddles with ⟨left, right, _, nonempty, mark, before, rest, after⟩
  rcases first.parts with ⟨closed, run, parts⟩
  have brackets : ∀ c ∈ left, c = ']' := by
    intro c member
    simpa using (cdataEnd_left nonempty mark).subset member
  -- The mark begins in the last run of text, where the checker comes after the markup before it.
  rw [parts.whole] at before
  have inRun : left <:+ run := by
    refine suffix_behind before ?_
    intro c last member
    cases (parts.ends c last).symm.trans (brackets c member)
  rcases inRun with ⟨init, rfl⟩
  have accepted : checkFrom [root] 0 (front ++ back ++ closeRoot) = .ok () :=
    checkFrom_ok_iff.mpr (accepts_iff.mpr whole)
  have text : closed ++ (init ++ left) ++ (right ++ rest) ++ closeRoot =
      closed ++ (init ++ "]]>".toList ++ (rest ++ closeRoot)) := by
    rw [mark]
    simp only [List.append_assoc]
  rw [parts.whole, ← after, text, parts.passed root [] 0 _ rfl] at accepted
  have plain : '<' ∉ init := fun bracket => parts.plain (List.mem_append_left left bracket)
  exact cdataEnd_refused plain (checkFrom_ok_iff.mp accepted)

/-! In an element. -/

theorem Tag.bare {name : List Char} (named : isName name = true) (noPrefix : ':' ∉ name) :
    Tag scope name ⟨name, []⟩ := by
  have attached : Attached [] [] := ⟨.nil [] rfl, by simp, List.nodup_nil⟩
  have tag : Tag scope (name ++ []) ⟨name, []⟩ :=
    .intro name [] [] named (by simp) attached (by simp [namespacePart, noPrefix, used])
  rwa [List.append_nil] at tag

theorem Content.enclose {name : List Char} (inner : Content [] source) (named : isName name = true)
    (noPrefix : ':' ∉ name) : Content [] ("<".toList ++ name ++ ">".toList ++ source ++
      ("</".toList ++ name ++ ">".toList)) := by
  have element := Content.element [] name source [] [] ⟨name, []⟩ (.bare named noPrefix) inner rfl
    (.nil [])
  simpa using element

/-- Two accepted fragments one after the other make an accepted one, unless the end mark of a CDATA
section comes about across their boundary; an accepted fragment may stand in any element whose name
has no prefix; and whatever elements are open around it, the checker comes out of it with the same
elements open, so that it closes none of them and leaves none open. -/
theorem accepted_fragments_compose (first second : String) (accepted : validate first = .ok ())
    (accepted' : validate second = .ok ()) :
    (validate (first ++ second) = .ok () ↔
      ¬ Straddles "]]>".toList first.toList second.toList) ∧
    (∀ name : String, isName name.toList = true → ':' ∉ name.toList →
      validate ("<" ++ name ++ ">" ++ first ++ "</" ++ name ++ ">") = .ok ()) ∧
    ∀ (innermost : OpenElement) (outer : List OpenElement) (position : Nat) (rest : List Char),
      rest.head? = some '<' →
        checkFrom (innermost :: outer) position (first.toList ++ rest) =
          checkFrom (innermost :: outer) (position + utf8Length first.toList) rest := by
  rcases (validate_ok_iff first).mp accepted with ⟨allowed, content⟩
  rcases (validate_ok_iff second).mp accepted' with ⟨allowed', content'⟩
  refine ⟨?_, ?_, ?_⟩
  · have allAllowed : ∀ c ∈ first.toList ++ second.toList, XmlChar c := by
      intro c member
      exact (List.mem_append.mp member).elim (allowed c) (allowed' c)
    rw [validate_ok_iff, String.toList_append, content_append_iff content content']
    exact and_iff_right allAllowed
  · intro name named noPrefix
    rw [validate_ok_iff]
    have text : ("<" ++ name ++ ">" ++ first ++ "</" ++ name ++ ">").toList =
        "<".toList ++ name.toList ++ ">".toList ++ first.toList ++
          ("</".toList ++ name.toList ++ ">".toList) := by
      simp only [String.toList_append, List.append_assoc]
    rw [text]
    refine ⟨?_, content.enclose named noPrefix⟩
    have names := name_allowed named
    rw [List.forall_mem_append, List.forall_mem_append]
    exact ⟨⟨enclosed_allowed (by decide) names (by decide), allowed⟩,
      enclosed_allowed (by decide) names (by decide)⟩
  · intro innermost outer position rest starts
    have inside := content.widen (List.nil_subset (scopeOf (innermost :: outer)))
    rcases inside.parts with ⟨_, _, parts⟩
    refine parts.passes innermost outer position rfl ?_
    intro c head
    exact (Option.some.inj (starts.symm.trans head)).symm

/-- Each half of an end mark may end or start a fragment, and both may stand in an element. -/
theorem halves_of_mark_apart :
    validate "a ]]" = .ok () ∧ validate "> b" = .ok () ∧ validate ("a ]]" ++ "> b") ≠ .ok () ∧
      validate ("<" ++ "i" ++ ">" ++ "a ]]" ++ "</" ++ "i" ++ ">") = .ok () := by
  have first : validate "a ]]" = .ok () := isValid_iff.mp (by decide +kernel)
  have second : validate "> b" = .ok () := isValid_iff.mp (by decide +kernel)
  have across : Straddles "]]>".toList "a ]]".toList "> b".toList :=
    ⟨"]]".toList, ">".toList, by decide, by decide, rfl, ⟨"a ".toList, rfl⟩, ⟨" b".toList, rfl⟩⟩
  have composes := accepted_fragments_compose "a ]]" "> b" first second
  exact ⟨first, second, fun whole => composes.1.mp whole across,
    composes.2.1 "i" (by decide +kernel) (by decide)⟩

end CatalogueEditor.Markup
