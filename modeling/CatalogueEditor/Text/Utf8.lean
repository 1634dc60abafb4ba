/-!
Text as UTF-8 bytes and back. Every list of bytes reads as some text: where the bytes are no UTF-8,
each longest beginning of a character, or else each byte, is read as the replacement character.
-/

namespace CatalogueEditor.Text

def toUtf8 (text : List Char) : List UInt8 :=
  text.flatMap String.utf8EncodeChar

/-- What stands for bytes that are no character. -/
def replacement : Char := '\uFFFD'

/-- What the first byte of a character tells: how many bytes follow, the bits it holds itself, and
between which bounds the second byte lies. The bounds leave out longer spellings of short
characters, surrogates, and code points past the last one. -/
structure Lead where
  more : Nat
  bits : Nat
  low : UInt8
  high : UInt8

def Lead.ofByte? (b : UInt8) : Option Lead :=
  if b < 0xC2 then none
  else if b < 0xE0 then some ⟨1, b.toNat - 0xC0, 0x80, 0xBF⟩
  else if b = 0xE0 then some ⟨2, 0, 0xA0, 0xBF⟩
  else if b = 0xED then some ⟨2, 0xD, 0x80, 0x9F⟩
  else if b < 0xF0 then some ⟨2, b.toNat - 0xE0, 0x80, 0xBF⟩
  else if b = 0xF0 then some ⟨3, 0, 0x90, 0xBF⟩
  else if b = 0xF4 then some ⟨3, 4, 0x80, 0x8F⟩
  else if b < 0xF4 then some ⟨3, b.toNat - 0xF0, 0x80, 0xBF⟩
  else none

/-- Reads so many bytes behind the bits read so far, the first of them between two bounds. Gives the
code point, if all of them are there, and the bytes that are left. -/
def readMore (low high : UInt8) : (more bits : Nat) → List UInt8 → Option Nat × List UInt8
  | 0, bits, rest => (some bits, rest)
  | _ + 1, _, [] => (none, [])
  | more + 1, bits, b :: rest =>
      if low ≤ b ∧ b ≤ high then readMore 0x80 0xBF more (bits * 64 + (b.toNat - 0x80)) rest
      else (none, b :: rest)

theorem readMore_length (low high : UInt8) (more bits : Nat) (bytes : List UInt8) :
    (readMore low high more bits bytes).2.length ≤ bytes.length := by
  induction more generalizing low high bits bytes with
  | zero => simp [readMore]
  | succ more ih =>
      cases bytes with
      | nil => simp [readMore]
      | cons b rest =>
          unfold readMore
          split
          · exact Nat.le_succ_of_le (ih _ _ _ _)
          · simp

def ofUtf8 : List UInt8 → List Char
  | [] => []
  | b :: rest =>
      if b < 0x80 then Char.ofNat b.toNat :: ofUtf8 rest
      else
        match Lead.ofByte? b with
        | none => replacement :: ofUtf8 rest
        | some lead =>
            let read := readMore lead.low lead.high lead.more lead.bits rest
            read.1.elim replacement Char.ofNat :: ofUtf8 read.2
termination_by bytes => bytes.length
decreasing_by
  · simp
  · simp
  · have := readMore_length lead.low lead.high lead.more lead.bits rest
    simp only [List.length_cons]
    omega

end CatalogueEditor.Text
