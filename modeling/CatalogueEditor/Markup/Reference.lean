import CatalogueEditor.Markup.Character
import CatalogueEditor.Text.Digit

/-!
References: an ampersand, a name or a number, and a semicolon, standing for one character. `resolve`
replaces all references of a text, and `resolveAllowed` also asks that they stand for characters a
document may hold. Offsets in problems count bytes from the start of the text.
-/

namespace CatalogueEditor.Markup

open Text

inductive NumberProblem
  | signed
  | noDigits
  | badDigit
  | tooLarge
  | zero
  | notCharacter (code : Nat)

inductive ReferenceProblem
  /-- An ampersand whose next ampersand or semicolon is no semicolon; the range is from it to the
  end of the text. -/
  | unterminated (first last : Nat)
  /-- A name other than the five known ones; the range is that of the name. -/
  | unknownName (first last : Nat) (name : List Char)
  | badNumber (problem : NumberProblem)

def NumberProblem.message : NumberProblem → String
  | signed => "unexpected number sign"
  | noDigits => "cannot parse integer from empty string"
  | badDigit => "invalid digit found in string"
  | tooLarge => "number too large to fit in target type"
  | zero => "0x0 character is not permitted in XML"
  | notCharacter code => "`" ++ toString code ++ "` is not a valid codepoint"

def ReferenceProblem.message : ReferenceProblem → String
  | unterminated first last =>
      "Error while escaping character at range " ++ toString first ++ ".." ++ toString last ++
        ": Cannot find ';' after '&'"
  | unknownName first last name =>
      "at " ++ toString first ++ ".." ++ toString last ++ ": unrecognized entity `" ++
        String.ofList name ++ "`"
  | badNumber problem => "invalid character reference: " ++ problem.message

/-- Reads on in a number of at most 32 bits, of which `value` was read. Of two faults the one
further left is reported. -/
def readDigits (base value : Nat) : List Char → Except NumberProblem Nat
  | [] => .ok value
  | c :: rest =>
      match digitValue base c with
      | none => .error .badDigit
      | some digit =>
          if value * base + digit < UInt32.size then readDigits base (value * base + digit) rest
          else .error .tooLarge

def readNumber (base : Nat) : List Char → Except NumberProblem Nat
  | [] => .error .noDigits
  | c :: rest => if c = '+' ∨ c = '-' then .error .signed else readDigits base 0 (c :: rest)

def characterOf (code : Nat) : Except NumberProblem Char :=
  if code = 0 then .error .zero
  else if code.isValidChar then .ok (Char.ofNat code)
  else .error (.notCharacter code)

/-- The character that a number stands for. Hexadecimal numbers follow a small x. -/
def numbered (number : List Char) : Except NumberProblem Char :=
  match number with
  | 'x' :: digits => (readNumber 16 digits).bind characterOf
  | digits => (readNumber 10 digits).bind characterOf

def named (name : List Char) : Option Char :=
  match String.ofList name with
  | "lt" => some '<'
  | "gt" => some '>'
  | "amp" => some '&'
  | "apos" => some '\''
  | "quot" => some '"'
  | _ => none

/-- The character that stands for what is written between the ampersand, `first` bytes before which
end the text read so far, and the semicolon. -/
def resolveOne (first : Nat) (written : List Char) : Except ReferenceProblem Char :=
  match written with
  | '#' :: number =>
      match numbered number with
      | .ok c => .ok c
      | .error problem => .error (.badNumber problem)
  | name =>
      match named name with
      | some c => .ok c
      | none => .error (.unknownName first (first + utf8Length name) name)

def endsReference (c : Char) : Bool :=
  c == ';' || c == '&'

/-- Replaces the references in the end of a text of `size` bytes. -/
def resolveIn (size : Nat) : List Char → Except ReferenceProblem (List Char)
  | [] => .ok []
  | c :: rest =>
      if c = '&' then
        match h : rest.dropWhile (!endsReference ·) with
        | ';' :: after =>
            have : after.length < (c :: rest).length := by
              have := (List.dropWhile_sublist (l := rest) (!endsReference ·)).length_le
              rw [h] at this
              simp only [List.length_cons] at this ⊢
              omega
            match resolveOne (size - utf8Length rest) (rest.takeWhile (!endsReference ·)) with
            | .error problem => .error problem
            | .ok found => (resolveIn size after).map (found :: ·)
        | _ => .error (.unterminated (size - utf8Length (c :: rest)) size)
      else (resolveIn size rest).map (c :: ·)
termination_by text => text.length
decreasing_by
  · assumption
  · simp

/-- The text with every reference replaced by its character. -/
def resolve (text : List Char) : Except ReferenceProblem (List Char) :=
  resolveIn (utf8Length text) text

inductive ValueProblem
  | reference (problem : ReferenceProblem)
  | forbidden (c : Char)

def ValueProblem.message : ValueProblem → String
  | reference problem => problem.message
  | forbidden c => "reference to " ++ codePointName c ++ " is not allowed"

/-- The text with its references replaced, if they stand for allowed characters. -/
def resolveAllowed (text : List Char) : Except ValueProblem (List Char) :=
  match resolve text with
  | .error problem => .error (.reference problem)
  | .ok resolved =>
      match resolved.find? (!isAllowed ·) with
      | some c => .error (.forbidden c)
      | none => .ok resolved

end CatalogueEditor.Markup
