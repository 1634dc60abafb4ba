import Mathlib.Data.List.Infix
import CatalogueEditor.Markup.Fragment

/-!
Where cuts fall. A word whose last character occurs nowhere else in it is cut at its first
occurrence, and before that there is none. A tag is cut behind its names and quoted values,
whatever the values are.
-/

namespace CatalogueEditor.Markup

variable {word text before after : List Char}

theorem cutAt_eq_none_iff (nonempty : word ≠ []) : cutAt word text = none ↔ ¬ word <:+: text := by
  induction text with
  | nil => simp [cutAt, nonempty]
  | cons c rest ih =>
      rw [List.infix_cons_iff, not_or, cutAt]
      by_cases starts : word <+: c :: rest
      · simp [List.isPrefixOf_iff_prefix.mpr starts, starts]
      · have apart : word.isPrefixOf (c :: rest) = false := by
          simpa [← List.isPrefixOf_iff_prefix] using starts
        simp [apart, starts, ih]

theorem occurs_iff (nonempty : word ≠ []) : occurs word text = true ↔ word <:+: text := by
  rw [occurs, Option.isSome_iff_ne_none, Ne, cutAt_eq_none_iff nonempty, not_not]

theorem not_infix_of_cutAt (found : cutAt word text = some (before, after)) :
    word = [] ∨ ¬ word <:+: before := by
  by_cases empty : word = []
  · exact .inl empty
  right
  induction text generalizing before with
  | nil => cases found
  | cons c rest ih =>
      have whole := cutAt_append found
      rw [cutAt] at found
      split at found
      · cases found
        simpa using empty
      · rename_i apart
        obtain ⟨⟨front, back⟩, inner, same⟩ := Option.map_eq_some_iff.mp found
        cases same
        rw [List.infix_cons_iff, not_or]
        refine ⟨fun starts => apart ?_, ih inner⟩
        rw [List.isPrefixOf_iff_prefix, ← whole, List.append_assoc]
        exact starts.trans (List.prefix_append _ _)

/-- A word whose last character occurs nowhere else in it does not overlap itself: if it starts
before a place where it stands, it ends before that place too. -/
theorem prefix_of_prefix_append {front : List Char} {last : Char} (single : last ∉ front)
    (starts : front ++ [last] <+: before ++ (front ++ [last] ++ after)) (nonempty : before ≠ []) :
    front ++ [last] <+: before := by
  obtain ⟨tail, same⟩ := starts
  rcases List.append_eq_append_iff.mp same with ⟨rest, inside, _⟩ | ⟨rest, across, overlap⟩
  · exact ⟨rest, inside.symm⟩
  rcases List.eq_nil_or_concat rest with rfl | ⟨init, final, rfl⟩
  · rw [List.append_nil] at across
    exact across ▸ List.prefix_refl _
  -- Otherwise the last character stands in the part that both places share.
  rw [List.concat_eq_append, ← List.append_assoc] at across
  rw [List.concat_eq_append] at overlap
  obtain ⟨rfl, ends⟩ := List.append_inj' across rfl
  obtain rfl : last = final := List.singleton_injective ends
  have short : init ++ [last] <+: before ++ init := by
    refine List.prefix_of_prefix_length_le ⟨tail, overlap.symm⟩ ⟨[last] ++ after, by simp⟩ ?_
    have := List.length_pos_iff.mpr nonempty
    simp only [List.length_append, List.length_singleton]
    omega
  exact absurd (short.subset (by simp)) single

theorem cutAt_eq_some_iff {front : List Char} {last : Char} (single : last ∉ front) :
    cutAt (front ++ [last]) text = some (before, after) ↔
      text = before ++ (front ++ [last]) ++ after ∧ ¬ front ++ [last] <:+: before := by
  constructor
  · intro found
    refine ⟨(cutAt_append found).symm, ?_⟩
    exact (not_infix_of_cutAt found).resolve_left (by simp)
  · rintro ⟨rfl, apart⟩
    induction before with
    | nil =>
        cases whole : front ++ [last] with
        | nil => simp at whole
        | cons c rest => simp [cutAt]
    | cons c rest ih =>
        rw [List.infix_cons_iff, not_or] at apart
        have later : (front ++ [last]).isPrefixOf
            (c :: (rest ++ (front ++ [last]) ++ after)) = false := by
          rw [← Bool.not_eq_true, List.isPrefixOf_iff_prefix]
          intro starts
          rw [List.append_assoc, ← List.cons_append] at starts
          exact apart.1 (prefix_of_prefix_append single starts (by simp))
        rw [List.cons_append, List.cons_append, cutAt, later, ih apart.2]
        rfl

theorem cutAt_single_iff {mark : Char} :
    cutAt [mark] text = some (before, after) ↔ text = before ++ mark :: after ∧ mark ∉ before := by
  have cut : cutAt ([] ++ [mark]) text = some (before, after) ↔
      text = before ++ ([] ++ [mark]) ++ after ∧ ¬ [] ++ [mark] <:+: before :=
    cutAt_eq_some_iff List.not_mem_nil
  simpa [List.singleton_infix_iff] using cut

/-! Runs. -/

section Runs
variable {p : Char → Bool} {front back : List Char}

theorem dropWhile_run (run : front.all p = true) (stops : ∀ c, back.head? = some c → p c = false) :
    (front ++ back).dropWhile p = back := by
  rw [List.dropWhile_append_of_pos (List.all_eq_true.mp run)]
  cases back with
  | nil => rfl
  | cons c rest => simp [stops c rfl]

theorem takeWhile_run (run : front.all p = true) (stops : ∀ c, back.head? = some c → p c = false) :
    (front ++ back).takeWhile p = front := by
  rw [List.takeWhile_append_of_pos (List.all_eq_true.mp run)]
  cases back with
  | nil => simp
  | cons c rest => simp [stops c rfl]

theorem run_of_dropWhile (same : text.dropWhile p = back) :
    text.takeWhile p ++ back = text ∧ (text.takeWhile p).all p = true :=
  ⟨same ▸ List.takeWhile_append_dropWhile, List.all_takeWhile⟩

end Runs

/-! Tags. -/

/-- A cut moved behind a text that stands before it. -/
def behind (front : List Char) (cut : Option (List Char × List Char)) :
    Option (List Char × List Char) :=
  cut.map fun (before, after) => (front ++ before, after)

def isPlain (c : Char) : Bool :=
  c != '>' && c != '\'' && c != '"'

theorem cutTag_plain {front : List Char} (plain : front.all isPlain = true) :
    cutTag none (front ++ text) = behind front (cutTag none text) := by
  induction front with
  | nil => simp [behind]
  | cons c rest ih =>
      rw [List.all_cons, Bool.and_eq_true] at plain
      obtain ⟨here, later⟩ := plain
      simp only [isPlain, Bool.and_eq_true, bne_iff_ne] at here
      obtain ⟨⟨noBracket, noApostrophe⟩, noQuote⟩ := here
      simp [cutTag, quoteAfter, noBracket, noApostrophe, noQuote, ih later, behind,
        Function.comp_def]

theorem cutTag_inside {quote : Char} {value : List Char} (outside : quote ∉ value) :
    cutTag (some quote) (value ++ quote :: text) =
      behind (value ++ [quote]) (cutTag none text) := by
  induction value with
  | nil => simp [cutTag, quoteAfter, behind]
  | cons c rest ih =>
      rw [List.mem_cons, not_or] at outside
      simp [cutTag, quoteAfter, Ne.symm outside.1, ih outside.2, behind, Function.comp_def]

theorem cutTag_quoted {quote : Char} {value : List Char} (quotes : quote = '"' ∨ quote = '\'')
    (outside : quote ∉ value) :
    cutTag none (quote :: (value ++ quote :: text)) =
      behind (quote :: (value ++ [quote])) (cutTag none text) := by
  -- In quotes everything but the quote itself belongs to the tag.
  have opens : quoteAfter none quote = some quote := by
    rcases quotes with rfl | rfl <;> rfl
  have noBracket : quote ≠ '>' := by
    rcases quotes with rfl | rfl <;> decide
  simp [cutTag, opens, noBracket, cutTag_inside outside, behind, Function.comp_def]

end CatalogueEditor.Markup
