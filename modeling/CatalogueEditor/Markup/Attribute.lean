import CatalogueEditor.Markup.Character
import CatalogueEditor.Markup.Scan

/-!
Attributes of a tag, read one at a time: a key, an equals sign and a quoted value, with white space
allowed around the sign and not needed before the next key. Places in problems count bytes from the
start of the tag's content.
-/

namespace CatalogueEditor.Markup

open Text

/-- An attribute as it is written: its value still has its references. -/
structure Attribute where
  key : List Char
  value : List Char

inductive AttributeProblem
  | noEquals (place : Nat)
  | noValue (place : Nat)
  | unquoted (place : Nat)
  | openQuote (place : Nat) (quote : Char)
  | duplicate (place previous : Nat)

def AttributeProblem.message : AttributeProblem → String
  | noEquals place =>
      "position " ++ toString place ++ ": attribute key must be directly followed by `=` or space"
  | noValue place =>
      "position " ++ toString place ++ ": `=` must be followed by an attribute value"
  | unquoted place =>
      "position " ++ toString place ++ ": attribute value must be enclosed in `\"` or `'`"
  | openQuote place quote =>
      "position " ++ toString place ++ ": missing closing quote `" ++ String.ofList [quote] ++
        "` in attribute value"
  | duplicate place previous =>
      "position " ++ toString place ++ ": duplicated attribute, previous declaration at position " ++
        toString previous

def endsKey (c : Char) : Bool :=
  c == '=' || isSpace c

/-- The keys read so far, each with its place. -/
abbrev SeenKeys := List (List Char × Nat)

/-- The value after an equals sign, and what follows its closing quote. -/
def readValue (size : Nat) (text : List Char) :
    Except AttributeProblem (List Char × List Char) :=
  match text.dropWhile isSpace with
  | [] => .error (.noValue size)
  | quote :: rest =>
      if quote = '"' ∨ quote = '\'' then
        match cutAt [quote] rest with
        | some found => .ok found
        | none => .error (.openQuote size quote)
      else .error (.unquoted (size - utf8Length (quote :: rest)))

/-- The attribute whose key starts with `first`, goes on in `rest`, and ends a tag content of `size`
bytes; with the place of the key and what follows the attribute. The first character of a key may be
any but white space. -/
def readAttribute (size : Nat) (seen : SeenKeys) (first : Char) (rest : List Char) :
    Except AttributeProblem (Attribute × Nat × List Char) :=
  let key := first :: rest.takeWhile (!endsKey ·)
  let place := size - utf8Length (first :: rest)
  match (rest.dropWhile (!endsKey ·)).dropWhile isSpace with
  | '=' :: text =>
      match seen.find? (·.1 == key) with
      | some previous => .error (.duplicate place previous.2)
      | none =>
          match readValue size text with
          | .error problem => .error problem
          | .ok (value, after) => .ok (⟨key, value⟩, place, after)
  | other => .error (.noEquals (size - utf8Length other))

theorem readValue_length {size : Nat} {text value after : List Char}
    (found : readValue size text = .ok (value, after)) : after.length < text.length := by
  have shorter := (List.dropWhile_sublist (l := text) isSpace).length_le
  unfold readValue at found
  split at found
  · simp at found
  · rename_i quote rest same
    split at found
    · split at found
      · rename_i pair cut
        simp only [Except.ok.injEq] at found
        subst found
        have whole := congrArg List.length (cutAt_append cut)
        rw [same] at shorter
        simp only [List.length_append, List.length_cons, List.length_nil] at whole shorter
        omega
      · simp at found
    · simp at found

theorem readAttribute_length {size : Nat} {seen : SeenKeys} {first : Char} {rest after : List Char}
    {read : Attribute} {place : Nat}
    (found : readAttribute size seen first rest = .ok (read, place, after)) :
    after.length ≤ rest.length := by
  have keyed := (List.dropWhile_sublist (l := rest) (!endsKey ·)).length_le
  have spaced := (List.dropWhile_sublist (l := rest.dropWhile (!endsKey ·)) isSpace).length_le
  unfold readAttribute at found
  simp only at found
  split at found
  · rename_i text same
    split at found
    · simp at found
    · split at found
      · simp at found
      · rename_i value tail reads
        simp only [Except.ok.injEq, Prod.mk.injEq] at found
        have := readValue_length reads
        rw [same] at spaced
        simp only [List.length_cons] at spaced
        rw [← found.2.2]
        omega
  · simp at found

end CatalogueEditor.Markup
