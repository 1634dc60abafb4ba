import CatalogueEditor.Text.CodePoint

/-!
Summaries for the log: a text on one line and of bounded length, whatever the text is. Line breaks
are written as a visible sign, and a long text is cut after its first characters and ends with its
size in bytes.

Three measures meet here. The limit counts characters; the cut is a byte of the flattened text, in
which a line break takes three bytes; the size is the one of the text itself, in which it takes one.
-/

namespace CatalogueEditor.Text

variable {text : List Char} {n : Nat}

/-- The most characters of a text that a summary shows. -/
def summaryLimit : Nat := 120

def isLineBreak (c : Char) : Bool :=
  c == '\n' || c == '\r'

def flatten (c : Char) : Char :=
  if isLineBreak c then '\u23CE' else c

/-- The byte at which a character starts, if there is one with so many in front of it. -/
def startOf? : Nat → List Char → Option Nat
  | _, [] => none
  | 0, _ :: _ => some 0
  | n + 1, c :: rest => (startOf? n rest).map (c.utf8Size + ·)

/-- What stands in front of a byte, if a character starts there or the text ends. -/
def upTo? : Nat → List Char → Option (List Char)
  | 0, _ => some []
  | _ + 1, [] => none
  | byte + 1, c :: rest =>
      if c.utf8Size ≤ byte + 1 then (upTo? (byte + 1 - c.utf8Size) rest).map (c :: ·) else none

theorem startOf?_eq_none (within : text.length ≤ n) : startOf? n text = none := by
  induction text generalizing n with
  | nil => rw [startOf?]
  | cons c rest ih =>
      cases n with
      | zero => cases within
      | succ n => rw [startOf?, ih (Nat.le_of_succ_le_succ within), Option.map_none]

theorem startOf?_eq_some (more : n < text.length) :
    startOf? n text = some (utf8Length (text.take n)) := by
  induction text generalizing n with
  | nil => cases more
  | cons c rest ih =>
      cases n with
      | zero => rfl
      | succ n =>
          rw [startOf?, ih (Nat.lt_of_succ_lt_succ more), List.take_succ_cons, utf8Length_cons,
            Option.map_some]

theorem upTo?_utf8Length (front back : List Char) :
    upTo? (utf8Length front) (front ++ back) = some front := by
  induction front with
  | nil => simp only [utf8Length_nil, upTo?]
  | cons c rest ih =>
      have size := c.utf8Size_pos
      obtain ⟨byte, within⟩ : ∃ byte, utf8Length (c :: rest) = byte + 1 :=
        ⟨utf8Length (c :: rest) - 1, by rw [utf8Length_cons]; omega⟩
      have left : byte + 1 - c.utf8Size = utf8Length rest := by
        rw [← within, utf8Length_cons, Nat.add_sub_cancel_left]
      rw [within, List.cons_append, upTo?, if_pos, left, ih, Option.map_some]
      rw [← within, utf8Length_cons]
      exact Nat.le_add_right _ _

/-- The byte of the flattened text at which it is cut, if it goes on behind the limit. -/
def cutByte? (text : List Char) : Option Nat :=
  startOf? summaryLimit (text.map flatten)

/-- There is no summary if the cut falls into a character. -/
def summarizeChars? (text : List Char) : Option (List Char) :=
  match cutByte? text with
  | none => some (text.map flatten)
  | some byte =>
      (upTo? byte (text.map flatten)).map
        (· ++ "... [truncated, total ".toList ++ (toString (utf8Length text)).toList ++
          " bytes]".toList)

theorem cutByte?_eq_none (within : text.length ≤ summaryLimit) : cutByte? text = none := by
  rw [← List.length_map flatten] at within
  exact startOf?_eq_none within

theorem cutByte?_eq_some (long : summaryLimit < text.length) :
    cutByte? text = some (utf8Length ((text.take summaryLimit).map flatten)) := by
  rw [← List.length_map flatten] at long
  rw [List.map_take]
  exact startOf?_eq_some long

theorem summarizeChars?_whole (within : text.length ≤ summaryLimit) :
    summarizeChars? text = some (text.map flatten) := by
  rw [summarizeChars?, cutByte?_eq_none within]

theorem summarizeChars?_cut (long : summaryLimit < text.length) :
    summarizeChars? text = some ((text.take summaryLimit).map flatten ++
      "... [truncated, total ".toList ++ (toString (utf8Length text)).toList ++
        " bytes]".toList) := by
  have parts : text.map flatten =
      (text.take summaryLimit).map flatten ++ (text.drop summaryLimit).map flatten := by
    rw [← List.map_append, List.take_append_drop]
  rw [summarizeChars?, cutByte?_eq_some long]
  dsimp only
  rw [parts, upTo?_utf8Length, Option.map_some]

/-- The cut falls between two characters, so every text has a summary. -/
theorem isSome_summarizeChars? (text : List Char) : (summarizeChars? text).isSome := by
  rcases Nat.lt_or_ge summaryLimit text.length with long | within
  · rw [summarizeChars?_cut long, Option.isSome_some]
  · rw [summarizeChars?_whole within, Option.isSome_some]

def summarize (text : String) : String :=
  String.ofList ((summarizeChars? text.toList).get (isSome_summarizeChars? text.toList))

theorem summarize_whole {text : String} (within : text.length ≤ summaryLimit) :
    summarize text = String.ofList (text.toList.map flatten) := by
  rw [← String.length_toList] at within
  unfold summarize
  congr 1
  exact Option.get_of_eq_some _ (summarizeChars?_whole within)

theorem summarize_cut {text : String} (long : summaryLimit < text.length) :
    summarize text = String.ofList ((text.toList.take summaryLimit).map flatten) ++
      "... [truncated, total " ++ toString text.utf8ByteSize ++ " bytes]" := by
  rw [← String.length_toList] at long
  have chars := Option.get_of_eq_some (isSome_summarizeChars? text.toList) (summarizeChars?_cut long)
  rw [summarize, chars]
  simp only [String.ofList_append, String.ofList_toList, utf8Length_toList]

end CatalogueEditor.Text
