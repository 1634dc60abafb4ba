import CatalogueEditor.Endpoint.RequestError
import CatalogueEditor.Proofs.LogTexts

/-!
What the log shows of a text: all of it, or its first characters and its size, and either on one line.
The limit, the cut and the size are in different measures. They fit together because the cut is where a
character starts in the very text that is cut.
-/

namespace CatalogueEditor

namespace Text

variable {text front : List Char} {byte : Nat}

/-- The text with a sign for each of its line breaks. -/
def unbroken (text : String) : String :=
  text.map fun c => if c = '\n' ∨ c = '\r' then '\u23CE' else c

theorem flatten_eq (c : Char) : flatten c = if c = '\n' ∨ c = '\r' then '\u23CE' else c := by
  simp only [flatten, isLineBreak, Bool.or_eq_true, beq_iff_eq]

theorem ofList_flattened (cs : List Char) :
    String.ofList (cs.map flatten) = unbroken (String.ofList cs) := by
  rw [← String.toList_inj, String.toList_ofList, unbroken, String.toList_map, String.toList_ofList]
  exact List.map_congr_left fun c _ => flatten_eq c

/-- What stands in front of a byte is a beginning of the text, and takes so many bytes. -/
theorem upTo?_eq_some_iff :
    upTo? byte text = some front ↔ ∃ back, text = front ++ back ∧ byte = utf8Length front := by
  constructor
  · intro found
    fun_induction upTo? byte text generalizing front with
    | case1 text =>
        cases found
        exact ⟨text, rfl, rfl⟩
    | case2 => cases found
    | case3 byte c rest fits ih =>
        obtain ⟨tail, within, rfl⟩ := Option.map_eq_some_iff.mp found
        obtain ⟨back, rfl, size⟩ := ih within
        refine ⟨back, rfl, ?_⟩
        rw [utf8Length_cons]
        omega
    | case4 => cases found
  · rintro ⟨back, rfl, rfl⟩
    exact upTo?_utf8Length front back

/-- A text can be cut at a byte exactly if the byte is a boundary of its characters. -/
theorem exists_upTo?_iff :
    (∃ front, upTo? byte text = some front) ↔
      (String.Pos.Raw.mk byte).IsValid (String.ofList text) := by
  rw [String.Pos.Raw.isValid_iff_exists_append]
  constructor
  · rintro ⟨front, found⟩
    obtain ⟨back, rfl, rfl⟩ := upTo?_eq_some_iff.mp found
    refine ⟨String.ofList front, String.ofList back, String.ofList_append, ?_⟩
    rw [String.rawEndPos, utf8ByteSize_ofList]
  · rintro ⟨front, back, same, place⟩
    refine ⟨front.toList, upTo?_eq_some_iff.mpr ⟨back.toList, ?_, ?_⟩⟩
    · rw [← String.toList_append, ← same, String.toList_ofList]
    · rw [utf8Length_toList]
      exact congrArg String.Pos.Raw.byteIdx place

/-- The byte at which a text is cut is a boundary of the flattened text: otherwise there would be no
summary. -/
theorem isValid_cutByte (cut : cutByte? text = some byte) :
    (String.Pos.Raw.mk byte).IsValid (String.ofList (text.map flatten)) := by
  have summary := isSome_summarizeChars? text
  rw [summarizeChars?, cut] at summary
  dsimp only at summary
  rw [Option.isSome_map] at summary
  exact exists_upTo?_iff.mp (Option.isSome_iff_exists.mp summary)

/-- The summary is on one line. A text of up to 120 characters is shown to its end; a longer one is cut
behind so many, at a boundary of characters, and the summary tells how many bytes it had. -/
structure Summarizes (text summary : String) : Prop where
  line : OneLine summary
  whole : text.length ≤ 120 →
    cutByte? text.toList = none ∧ summary = unbroken text ∧ summary.length = text.length
  cut : 120 < text.length →
    (∃ byte, cutByte? text.toList = some byte ∧
      (String.Pos.Raw.mk byte).IsValid (unbroken text)) ∧
    summary = unbroken (String.ofList (text.toList.take 120)) ++
      "... [truncated, total " ++ toString text.utf8ByteSize ++ " bytes]"

end Text

open Text

/-- Behind the name of the operation the message has no line break, whatever the body was. -/
theorem RequestError.oneLine_answered_iff (operation : String) (status : UInt16)
    (body : Option String) :
    OneLine (answered operation status body).message ↔ OneLine operation := by
  have bracket : Short 1 "[" := .of_chars rfl (by decide)
  have middle : Short 10 "] HTTP " := .of_chars rfl (by decide)
  have colon : Short 2 ": " := .of_chars rfl (by decide)
  have nothing : Short 0 "" := .of_chars rfl (by decide)
  have named : ∀ number shown, OneLine number → OneLine shown →
      (OneLine ("[" ++ operation ++ "] HTTP " ++ number ++ shown) ↔ OneLine operation) := by
    intro number shown digits line
    simp only [oneLine_append_iff, bracket.line, middle.line, digits, line, true_and, and_true]
  refine named (toString status) _ (oneLine_nat status.toNat) ?_
  cases body with
  | none => exact nothing.line
  | some text =>
      dsimp only
      split
      · exact nothing.line
      · exact oneLine_append_iff.mpr ⟨colon.line, oneLine_summarize text⟩

/-- Every text has a summary on one line that shows as much of it as the limit allows, and the message of
an answer that was no success is on one line if the name of the operation is, whatever the body was. -/
theorem summaries_on_one_line :
    (∀ text, Summarizes text (summarize text)) ∧
      ∀ operation status body,
        OneLine (RequestError.answered operation status body).message ↔ OneLine operation := by
  refine ⟨fun text => ⟨oneLine_summarize text, fun within => ?_, fun more => ?_⟩,
    RequestError.oneLine_answered_iff⟩
  · have short : text.toList.length ≤ summaryLimit := String.length_toList ▸ within
    have same : summarize text = unbroken text := by
      rw [summarize_whole within, ofList_flattened, String.ofList_toList]
    refine ⟨cutByte?_eq_none short, same, ?_⟩
    rw [same, unbroken, String.length_map]
  · have long : summaryLimit < text.toList.length := String.length_toList ▸ more
    have place := cutByte?_eq_some long
    have boundary := isValid_cutByte place
    rw [ofList_flattened, String.ofList_toList] at boundary
    refine ⟨⟨_, place, boundary⟩, ?_⟩
    rw [summarize_cut more, ofList_flattened, summaryLimit]

/-- A line break in front of the cut moves it, here behind the last byte of the text as it was. -/
theorem break_moves_cut :
    let text := String.ofList (List.replicate 119 '\u6D88' ++ ['\n', 'x'])
    120 < text.length ∧ text.utf8ByteSize = 359 ∧ cutByte? text.toList = some 360 ∧
      (String.Pos.Raw.mk 360).IsValid (unbroken text) ∧
      summarize text = String.ofList (List.replicate 119 '\u6D88' ++ ['\u23CE']) ++
        "... [truncated, total 359 bytes]" ∧
      OneLine "save" ∧ OneLine (RequestError.answered "save" 502 (some text)).message := by
  intro text
  have long : 120 < text.length := by
    rw [String.length_ofList, List.length_append, List.length_replicate]
    decide
  have size : text.utf8ByteSize = 359 := by
    rw [utf8ByteSize_ofList]
    decide +kernel
  have place : cutByte? text.toList = some 360 := by
    rw [String.toList_ofList]
    decide +kernel
  have front : (text.toList.take 120).map flatten = List.replicate 119 '\u6D88' ++ ['\u23CE'] := by
    rw [String.toList_ofList]
    decide +kernel
  have ending : "... [truncated, total " ++ (toString 359 ++ " bytes]") =
      "... [truncated, total 359 bytes]" := by decide
  have name : OneLine "save" := (Short.of_chars rfl (by decide) : Short 4 "save").line
  obtain ⟨⟨byte, found, boundary⟩, summary⟩ := (summaries_on_one_line.1 text).cut long
  rw [place] at found
  cases found
  refine ⟨long, size, place, boundary, ?_, name, ?_⟩
  · rw [summary, ← ofList_flattened, front, size, String.append_assoc, String.append_assoc, ending]
  · exact (summaries_on_one_line.2 "save" 502 (some text)).mpr name

end CatalogueEditor
