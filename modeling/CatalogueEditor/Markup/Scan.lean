import CatalogueEditor.Text.CodePoint

/-!
Cutting text at a mark: at the first occurrence of a word, at the end of a tag, and at the end of a
declaration with nested brackets. Each cut gives what stands before the mark and what stands after
it, and none if the mark does not occur; put together again they are the text that was cut.
-/

namespace CatalogueEditor.Markup

/-- The text before and after the first occurrence of a word. -/
def cutAt (word : List Char) : List Char → Option (List Char × List Char)
  | [] => none
  | c :: rest =>
      if word.isPrefixOf (c :: rest) then some ([], (c :: rest).drop word.length)
      else (cutAt word rest).map fun (before, after) => (c :: before, after)

/-- The quote that is open after a character of a tag. -/
def quoteAfter (quote : Option Char) (c : Char) : Option Char :=
  match quote with
  | none => if c = '\'' ∨ c = '"' then some c else none
  | some opened => if c = opened then none else some opened

/-- The text before and after the first closing bracket outside quotes, read from a place where
`quote` is open. -/
def cutTag (quote : Option Char) : List Char → Option (List Char × List Char)
  | [] => none
  | c :: rest =>
      if quote = none ∧ c = '>' then some ([], rest)
      else (cutTag (quoteAfter quote c) rest).map fun (before, after) => (c :: before, after)

/-- The text before and after the closing bracket that matches none of the opening brackets
before it, `depth` of which are still open. -/
def cutNested (depth : Nat) : List Char → Option (List Char × List Char)
  | [] => none
  | c :: rest =>
      if depth = 0 ∧ c = '>' then some ([], rest)
      else
        let next := if c = '<' then depth + 1 else if c = '>' then depth - 1 else depth
        (cutNested next rest).map fun (before, after) => (c :: before, after)

theorem cutAt_append {word text before after : List Char}
    (found : cutAt word text = some (before, after)) : before ++ word ++ after = text := by
  induction text generalizing before with
  | nil => simp [cutAt] at found
  | cons c rest ih =>
      unfold cutAt at found
      split at found
      · rename_i starts
        obtain ⟨tail, same⟩ := List.isPrefixOf_iff_prefix.mp starts
        simp only [Option.some.injEq, Prod.mk.injEq] at found
        rw [← found.1, ← found.2, ← same]
        simp
      · simp only [Option.map_eq_some_iff, Prod.mk.injEq, Prod.exists] at found
        obtain ⟨front, back, inner, rfl, rfl⟩ := found
        simpa using ih inner

theorem cutTag_append {quote : Option Char} {text before after : List Char}
    (found : cutTag quote text = some (before, after)) : before ++ '>' :: after = text := by
  induction text generalizing quote before with
  | nil => simp [cutTag] at found
  | cons c rest ih =>
      unfold cutTag at found
      split at found
      · rename_i ends
        simp only [Option.some.injEq, Prod.mk.injEq] at found
        simp [← found.1, ← found.2, ends.2]
      · simp only [Option.map_eq_some_iff, Prod.mk.injEq, Prod.exists] at found
        obtain ⟨front, back, inner, rfl, rfl⟩ := found
        simpa using ih inner

theorem cutNested_append {depth : Nat} {text before after : List Char}
    (found : cutNested depth text = some (before, after)) : before ++ '>' :: after = text := by
  induction text generalizing depth before with
  | nil => simp [cutNested] at found
  | cons c rest ih =>
      unfold cutNested at found
      split at found
      · rename_i ends
        simp only [Option.some.injEq, Prod.mk.injEq] at found
        simp [← found.1, ← found.2, ends.2]
      · simp only [Option.map_eq_some_iff, Prod.mk.injEq, Prod.exists] at found
        obtain ⟨front, back, inner, rfl, rfl⟩ := found
        simpa using ih inner

end CatalogueEditor.Markup
