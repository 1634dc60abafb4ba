import Mathlib.Tactic.IntervalCases
import CatalogueEditor.Proofs.Markup.Cuts
import CatalogueEditor.Url.Form

/-!
Text that is written as a form is read back as it was.
-/

namespace CatalogueEditor

namespace Text

/-- The byte of a character behind its first one that holds these six bits. -/
theorem readMore_cons (low high : UInt8) (more bits tail : Nat) (small : tail < 64)
    (least : low.toNat ≤ tail + 128) (most : tail + 128 ≤ high.toNat) (rest : List UInt8) :
    readMore low high (more + 1) bits (UInt8.ofNat (tail + 128) :: rest) =
      readMore 0x80 0xBF more (bits * 64 + tail) rest := by
  have value : (UInt8.ofNat (tail + 128)).toNat = tail + 128 :=
    UInt8.toNat_ofNat_of_lt' (by change tail + 128 < 256; omega)
  have between : low ≤ UInt8.ofNat (tail + 128) ∧ UInt8.ofNat (tail + 128) ≤ high := by
    simp only [UInt8.le_iff_toNat_le, value]
    exact ⟨least, most⟩
  rw [readMore, if_pos between, value, Nat.add_sub_cancel]

theorem ofUtf8_lead {b : UInt8} {lead : Lead} {bytes rest : List UInt8} {code : Nat}
    (leads : Lead.ofByte? b = some lead)
    (reads : readMore lead.low lead.high lead.more lead.bits bytes = (some code, rest)) :
    ofUtf8 (b :: bytes) = Char.ofNat code :: ofUtf8 rest := by
  have long : ¬ b < 0x80 := by
    intro short
    have early : b < 0xC2 := UInt8.lt_trans short (by decide)
    simp [Lead.ofByte?, early] at leads
  rw [ofUtf8, if_neg long, leads]
  simp only [reads, Option.elim_some]

theorem Lead.ofByte?_two {head : Nat} (least : 2 ≤ head) (most : head < 32) :
    Lead.ofByte? (UInt8.ofNat (head + 192)) = some ⟨1, head, 0x80, 0xBF⟩ := by
  interval_cases head <;> rfl

/-- No character of less than three bytes is spelled with three, and no surrogate: behind two of the
first bytes the second one has closer bounds. -/
theorem Lead.ofByte?_three (head second : Nat) (most : head < 16) (small : second < 64)
    (long : head = 0 → 32 ≤ second) (whole : head = 13 → second < 32) :
    ∃ low high, Lead.ofByte? (UInt8.ofNat (head + 224)) = some ⟨2, head, low, high⟩ ∧
      low.toNat ≤ second + 128 ∧ second + 128 ≤ high.toNat := by
  interval_cases head <;> refine ⟨_, _, rfl, ?_, ?_⟩ <;> simp at * <;> omega

theorem Lead.ofByte?_four (head second : Nat) (most : head < 5) (small : second < 64)
    (long : head = 0 → 16 ≤ second) (last : head = 4 → second < 16) :
    ∃ low high, Lead.ofByte? (UInt8.ofNat (head + 240)) = some ⟨3, head, low, high⟩ ∧
      low.toNat ≤ second + 128 ∧ second + 128 ≤ high.toNat := by
  interval_cases head <;> refine ⟨_, _, rfl, ?_, ?_⟩ <;> simp at * <;> omega

theorem ofUtf8_encodeChar (c : Char) (rest : List UInt8) :
    ofUtf8 (String.utf8EncodeChar c ++ rest) = c :: ofUtf8 rest := by
  have valid : c.toNat < 55296 ∨ 57343 < c.toNat ∧ c.toNat < 1114112 := c.valid
  have same : ∀ code, code = c.toNat → Char.ofNat code = c := by
    rintro _ rfl
    exact Char.ofNat_toNat c
  have size : c.val.toNat = c.toNat := rfl
  simp only [String.utf8EncodeChar, size]
  generalize c.toNat = code at valid same
  split
  · rename_i one
    have value : (UInt8.ofNat code).toNat = code :=
      UInt8.toNat_ofNat_of_lt' (by change code < 256; omega)
    have short : UInt8.ofNat code < 0x80 := by
      rw [UInt8.lt_iff_toNat_lt, value]
      exact Nat.lt_succ_of_le one
    rw [List.singleton_append, ofUtf8, if_pos short, value, same code rfl]
  split
  · rename_i _ two
    have reads := readMore_cons 0x80 0xBF 0 (code / 64 % 32) (code % 64) (by omega) (by simp)
      (by simp; omega) rest
    refine (ofUtf8_lead (Lead.ofByte?_two (by omega) (by omega)) reads).trans ?_
    rw [same _ (by omega)]
  split
  · rename_i _ _ three
    obtain ⟨low, high, leads, least, most⟩ := Lead.ofByte?_three (code / 4096 % 16)
      (code / 64 % 64) (by omega) (by omega) (by omega) (by omega)
    have reads := (readMore_cons low high 1 (code / 4096 % 16) _ (by omega) least most
      (UInt8.ofNat (code % 64 + 128) :: rest)).trans
        (readMore_cons 0x80 0xBF 0 _ _ (by omega) (by simp) (by simp; omega) rest)
    refine (ofUtf8_lead leads reads).trans ?_
    rw [same _ (by omega)]
  · rename_i _ _ four
    obtain ⟨low, high, leads, least, most⟩ := Lead.ofByte?_four (code / 262144 % 8)
      (code / 4096 % 64) (by omega) (by omega) (by omega) (by omega)
    have reads := ((readMore_cons low high 2 (code / 262144 % 8) _ (by omega) least most
      (UInt8.ofNat (code / 64 % 64 + 128) :: UInt8.ofNat (code % 64 + 128) :: rest)).trans
        (readMore_cons 0x80 0xBF 1 _ _ (by omega) (by simp) (by simp; omega) _)).trans
        (readMore_cons 0x80 0xBF 0 _ _ (by omega) (by simp) (by simp; omega) rest)
    refine (ofUtf8_lead leads reads).trans ?_
    rw [same _ (by omega)]

theorem ofUtf8_toUtf8 (text : List Char) : ofUtf8 (toUtf8 text) = text := by
  induction text with
  | nil => rw [toUtf8, List.flatMap_nil, ofUtf8]
  | cons c rest ih =>
      rw [toUtf8, List.flatMap_cons, ofUtf8_encodeChar]
      exact congrArg (c :: ·) ih

end Text

namespace Percent

open Text

theorem byte?_hexDigit (b : UInt8) :
    byte? (hexDigit (b.toNat / 16)) (hexDigit (b.toNat % 16)) = some b := by
  have value : ∀ n < 16, digitValue 16 (hexDigit n) = some n := by decide
  have high : b.toNat / 16 < 16 := Nat.div_lt_of_lt_mul b.toNat_lt
  have low : b.toNat % 16 < 16 := Nat.mod_lt _ (by decide)
  simp only [byte?, value _ high, value _ low, Option.bind_eq_bind, Option.bind_some,
    Option.pure_def, Nat.div_add_mod', UInt8.ofNat_toNat]

theorem decode_encodeByte (b : UInt8) (rest : List Char) :
    decode (encodeByte b ++ rest) = b :: decode rest := by
  simp only [encodeByte, List.cons_append, List.nil_append]
  rw [decode, byte?_hexDigit]

theorem decode_encodeBytes (bytes : List UInt8) (rest : List Char) :
    decode (bytes.flatMap encodeByte ++ rest) = bytes ++ decode rest := by
  induction bytes with
  | nil => rfl
  | cons b bytes ih =>
      rw [List.flatMap_cons, List.append_assoc, decode_encodeByte, ih]
      rfl

theorem decode_cons {c : Char} (plain : c ≠ '%') (rest : List Char) :
    decode (c :: rest) = String.utf8EncodeChar c ++ decode rest := by
  rw [decode]
  rintro _ _ _ rfl
  exact absurd rfl plain

/-- What is written for bytes: percent signs and digits. -/
theorem mem_encodeBytes {c : Char} {bytes : List UInt8} (member : c ∈ bytes.flatMap encodeByte) :
    c = '%' ∨ ∃ n < 16, c = hexDigit n := by
  obtain ⟨b, _, digit⟩ := List.mem_flatMap.mp member
  simp only [encodeByte, List.mem_cons, List.not_mem_nil, or_false] at digit
  rcases digit with percent | high | low
  · exact .inl percent
  · exact .inr ⟨_, Nat.div_lt_of_lt_mul b.toNat_lt, high⟩
  · exact .inr ⟨_, Nat.mod_lt _ (by decide), low⟩

theorem mem_encodeChar {keep : Char → Bool} {c source : Char} (member : c ∈ encodeChar keep source) :
    keep c = true ∨ c = '%' ∨ ∃ n < 16, c = hexDigit n := by
  unfold encodeChar at member
  split at member
  · rename_i kept
    exact .inl (List.mem_singleton.mp member ▸ kept)
  · exact .inr (mem_encodeBytes member)

end Percent

namespace Form

open Text

theorem hexDigit_plain : ∀ n < 16, isPlain (hexDigit n) = true := by
  decide

/-- What is written for text: characters that stand for themselves, and the two marks that stand for
others. -/
theorem mem_encode {c : Char} {text : List Char} (member : c ∈ encode text) :
    isPlain c = true ∨ c = '+' ∨ c = '%' := by
  obtain ⟨source, _, written⟩ := List.mem_flatMap.mp member
  unfold encodeChar at written
  split at written
  · exact .inr (.inl (List.mem_singleton.mp written))
  · rcases Percent.mem_encodeChar written with plain | rfl | ⟨n, small, rfl⟩
    · exact .inl plain
    · exact .inr (.inr rfl)
    · exact .inl (hexDigit_plain n small)

/-- Neither mark between names, values and fields is written for text. -/
theorem not_mem_encode {mark : Char} (reserved : mark = '&' ∨ mark = '=') (text : List Char) :
    mark ∉ encode text := by
  intro member
  rcases reserved with rfl | rfl <;> simpa [isPlain] using mem_encode member

/-- Plus signs as the spaces that they stand for. -/
def spaced (text : List Char) : List Char :=
  text.map fun c => if c = '+' then ' ' else c

theorem spaced_of_not_mem {text : List Char} (without : '+' ∉ text) : spaced text = text := by
  refine (List.map_congr_left fun c member => if_neg ?_).trans (List.map_id text)
  rintro rfl
  exact without member

theorem not_mem_encodeBytes (bytes : List UInt8) : '+' ∉ bytes.flatMap Percent.encodeByte := by
  have digits : ∀ n < 16, '+' ≠ hexDigit n := by decide
  intro member
  rcases Percent.mem_encodeBytes member with percent | ⟨n, small, digit⟩
  · cases percent
  · exact digits n small digit

theorem decode_encodeChar (c : Char) (rest : List Char) :
    Percent.decode (spaced (encodeChar c) ++ rest) =
      String.utf8EncodeChar c ++ Percent.decode rest := by
  unfold encodeChar
  split
  · rename_i space
    rw [space]
    exact Percent.decode_cons (by decide) rest
  unfold Percent.encodeChar
  split
  · rename_i plain
    have standing : c ≠ '+' ∧ c ≠ '%' := by
      constructor <;> rintro rfl <;> exact absurd plain (by decide)
    rw [spaced_of_not_mem (by simpa using standing.1.symm)]
    exact Percent.decode_cons standing.2 rest
  · rw [spaced_of_not_mem (not_mem_encodeBytes _)]
    exact Percent.decode_encodeBytes _ rest

theorem decode_spaced_encode (text : List Char) :
    Percent.decode (spaced (encode text)) = toUtf8 text := by
  induction text with
  | nil => rw [encode, List.flatMap_nil, spaced, List.map_nil, Percent.decode]; rfl
  | cons c rest ih =>
      have split : spaced (encode (c :: rest)) = spaced (encodeChar c) ++ spaced (encode rest) :=
        List.map_append
      rw [split, decode_encodeChar, ih]
      rfl

theorem decode_encode (text : List Char) : decode (encode text) = text :=
  (congrArg ofUtf8 (decode_spaced_encode text)).trans (ofUtf8_toUtf8 text)

theorem cut_mark {mark : Char} {front : List Char} (absent : mark ∉ front) (back : List Char) :
    cut mark (front ++ mark :: back) = (front, back) := by
  have run : front.all (· != mark) = true := by
    simp only [List.all_eq_true, bne_iff_ne]
    rintro _ member rfl
    exact absent member
  unfold cut
  rw [Markup.takeWhile_run run (by simp), Markup.dropWhile_run run (by simp)]
  rfl

theorem readField_encodeField (field : Field) : readField (encodeField field) = field := by
  unfold readField encodeField
  rw [cut_mark (not_mem_encode (.inr rfl) _)]
  simp only [decode_encode]

theorem read_encodeField (field : Field) : read (encodeField field) = [field] := by
  have single : (encodeField field).splitOn '&' = [encodeField field] := by
    refine List.splitOn_eq_singleton fun member => ?_
    rcases List.mem_append.mp member with name | rest
    · exact not_mem_encode (.inl rfl) _ name
    · rcases List.mem_cons.mp rest with equals | value
      · cases equals
      · exact not_mem_encode (.inl rfl) _ value
  have written : encodeField field ≠ [] := by simp [encodeField]
  simp only [read, single, List.filterMap_cons, if_neg written, readField_encodeField,
    List.filterMap_nil]

/-- A field that is added to a line is read behind those that it held. -/
theorem read_append (written : List Char) (field : Field) :
    read (append written field) = read written ++ [field] := by
  unfold append
  split
  · rename_i empty
    rw [empty, read_encodeField]
    rfl
  · rw [read, List.splitOn_append_cons_self, List.filterMap_append]
    exact congrArg (read written ++ ·) (read_encodeField field)

/-- Whatever the fields hold, they are read as they were written, and in their order. -/
theorem read_write (fields : List Field) : read (write fields) = fields := by
  have further : ∀ written, read (fields.foldl append written) = read written ++ fields := by
    induction fields with
    | nil => exact fun written => (List.append_nil _).symm
    | cons field rest ih =>
        intro written
        rw [List.foldl_cons, ih, read_append, List.append_assoc]
        rfl
  exact further []

end Form
end CatalogueEditor
