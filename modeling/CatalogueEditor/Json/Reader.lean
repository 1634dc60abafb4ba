import CatalogueEditor.Text.Quote

/-!
Readers of JSON text. A reader takes a cursor, a place in a text with what is left of it, and gives
a value and the cursor behind it, or a failure. No reader gives back more text than it was given,
which is what makes loops of readers end.

Places count lines from one and, in a line, bytes from zero. A failure has a place, or it is still
floating: then it is placed by the reader around it, where that reader's cursor comes to stand.
-/

namespace CatalogueEditor.Json

open Text

structure Place where
  line : Nat
  column : Nat
deriving DecidableEq

structure Cursor where
  place : Place
  rest : List Char

/-- What stands where something else was expected. -/
inductive Found
  | null
  | bool (b : Bool)
  | integer (n : Int)
  | fraction (text : String)
  | string (s : String)
  | list
  | object

inductive Cause
  | endInValue
  | endInString
  | endInList
  | endInObject
  | expectedValue
  | expectedIdent
  | expectedColon
  | expectedListEnd
  | expectedObjectEnd
  | trailingComma
  | trailingCharacters
  | keyNotString
  | badNumber
  | numberTooLarge
  | badEscape
  | unfinishedEscape
  | loneSurrogate
  | controlCharacter
  | tooDeep
  | missingField (name : String)
  | duplicateField (name : String)
  | unknownVariant (name : String) (known : List String)
  | wrongType (found : Found) (expected : String)
  | wrongValue (found : Found) (expected : String)
  | wrongLength (length : Nat) (expected : String)

def Found.message : Found → String
  | null => "null"
  | bool b => "boolean `" ++ toString b ++ "`"
  | integer n => "integer `" ++ toString n ++ "`"
  | fraction text => "floating point `" ++ text ++ "`"
  | string s => "string " ++ quote s
  | list => "sequence"
  | object => "map"

def backticked (s : String) : String :=
  "`" ++ s ++ "`"

/-- The alternatives of an enumeration in words. -/
def alternatives : List String → String
  | [] => "there are no variants"
  | [only] => "expected " ++ backticked only
  | [first, second] => "expected " ++ backticked first ++ " or " ++ backticked second
  | many => "expected one of " ++ ", ".intercalate (many.map backticked)

def Cause.message : Cause → String
  | endInValue => "EOF while parsing a value"
  | endInString => "EOF while parsing a string"
  | endInList => "EOF while parsing a list"
  | endInObject => "EOF while parsing an object"
  | expectedValue => "expected value"
  | expectedIdent => "expected ident"
  | expectedColon => "expected `:`"
  | expectedListEnd => "expected `,` or `]`"
  | expectedObjectEnd => "expected `,` or `\x7d`"
  | trailingComma => "trailing comma"
  | trailingCharacters => "trailing characters"
  | keyNotString => "key must be a string"
  | badNumber => "invalid number"
  | numberTooLarge => "number out of range"
  | badEscape => "invalid escape"
  | unfinishedEscape => "unexpected end of hex escape"
  | loneSurrogate => "lone leading surrogate in hex escape"
  | controlCharacter => "control character (\\u0000-\\u001F) found while parsing a string"
  | tooDeep => "recursion limit exceeded"
  | missingField name => "missing field " ++ backticked name
  | duplicateField name => "duplicate field " ++ backticked name
  | unknownVariant name known => "unknown variant " ++ backticked name ++ ", " ++ alternatives known
  | wrongType found expected => "invalid type: " ++ found.message ++ ", expected " ++ expected
  | wrongValue found expected => "invalid value: " ++ found.message ++ ", expected " ++ expected
  | wrongLength length expected =>
      "invalid length " ++ toString length ++ ", expected " ++ expected

inductive Failure
  | placed (cause : Cause) (place : Place)
  | floating (cause : Cause) (cursor : Cursor)

/-- A failure that nobody placed is told without a place. -/
def Failure.message : Failure → String
  | placed cause place =>
      cause.message ++ " at line " ++ toString place.line ++ " column " ++ toString place.column
  | floating cause _ => cause.message

namespace Place

def start : Place := ⟨1, 0⟩

def after (place : Place) (c : Char) : Place :=
  if c = '\n' then ⟨place.line + 1, 0⟩ else ⟨place.line, place.column + c.utf8Size⟩

/-- The place after the first byte of a character. -/
def inside (place : Place) (c : Char) : Place :=
  if c = '\n' then ⟨place.line + 1, 0⟩ else ⟨place.line, place.column + 1⟩

end Place

namespace Cursor

def start (text : String) : Cursor := ⟨.start, text.toList⟩

/-- The place one byte further on, or the place itself at the end of the text. -/
def ahead (c : Cursor) : Place :=
  match c.rest with
  | [] => c.place
  | first :: _ => c.place.inside first

def skip (c : Cursor) : Cursor :=
  match c.rest with
  | [] => c
  | first :: rest => ⟨c.place.after first, rest⟩

theorem skip_length (c : Cursor) : c.skip.rest.length ≤ c.rest.length := by
  unfold skip
  split <;> simp_all

/-- Passes over the characters of a class. -/
def passIn (p : Char → Bool) (place : Place) : List Char → Cursor
  | [] => ⟨place, []⟩
  | first :: rest => if p first then passIn p (place.after first) rest else ⟨place, first :: rest⟩

def pass (p : Char → Bool) (c : Cursor) : Cursor :=
  passIn p c.place c.rest

theorem passIn_length (p : Char → Bool) (place : Place) (text : List Char) :
    (passIn p place text).rest.length ≤ text.length := by
  induction text generalizing place with
  | nil => simp [passIn]
  | cons first rest ih =>
      unfold passIn
      split
      · exact Nat.le_succ_of_le (ih _)
      · simp

theorem pass_length (p : Char → Bool) (c : Cursor) : (c.pass p).rest.length ≤ c.rest.length :=
  passIn_length p c.place c.rest

def isSpace (c : Char) : Bool :=
  c == ' ' || c == '\n' || c == '\t' || c == '\r'

def passSpace (c : Cursor) : Cursor :=
  c.pass isSpace

end Cursor

/-- A reader never gives back more text than it got. -/
structure Reader (α : Type) where
  run : Cursor → Except Failure (α × Cursor)
  shrinks : ∀ {c value after}, run c = .ok (value, after) → after.rest.length ≤ c.rest.length

namespace Reader

variable {α β : Type}

def pure (a : α) : Reader α where
  run c := .ok (a, c)
  shrinks h := by
    simp only [Except.ok.injEq, Prod.mk.injEq] at h
    exact h.2 ▸ Nat.le_refl _

def bind (r : Reader α) (f : α → Reader β) : Reader β where
  run c :=
    match r.run c with
    | .error e => .error e
    | .ok (a, next) => (f a).run next
  shrinks h := by
    split at h
    · simp at h
    · rename_i a next first
      exact Nat.le_trans ((f a).shrinks h) (r.shrinks first)

instance : Monad Reader where
  pure := pure
  bind := bind

/-- A reader that always fails, in a way that depends on the cursor. -/
def failing (f : Cursor → Failure) : Reader α where
  run c := .error (f c)
  shrinks h := by simp at h

def fail (cause : Cause) : Reader α := failing fun c => .placed cause c.place

/-- Fails just behind the next byte. -/
def failAhead (cause : Cause) : Reader α := failing fun c => .placed cause c.ahead

/-- Fails at a place that is still to be found. -/
def failFloating (cause : Cause) : Reader α := failing fun c => .floating cause c

/-- The next character, which stays unread. -/
def peek : Reader (Option Char) where
  run c := .ok (c.rest.head?, c)
  shrinks h := by
    simp only [Except.ok.injEq, Prod.mk.injEq] at h
    exact h.2 ▸ Nat.le_refl _

/-- The next character that is no white space, which stays unread. -/
def peekToken : Reader (Option Char) where
  run c := .ok (c.passSpace.rest.head?, c.passSpace)
  shrinks h := by
    simp only [Except.ok.injEq, Prod.mk.injEq] at h
    rw [← h.2]
    exact Cursor.pass_length _ _

def next : Reader (Option Char) where
  run c := .ok (c.rest.head?, c.skip)
  shrinks h := by
    simp only [Except.ok.injEq, Prod.mk.injEq] at h
    rw [← h.2]
    exact Cursor.skip_length _

def skip : Reader Unit := bind next fun _ => pure ()

def takeWhile (p : Char → Bool) : Reader (List Char) where
  run c := .ok (c.rest.takeWhile p, c.pass p)
  shrinks h := by
    simp only [Except.ok.injEq, Prod.mk.injEq] at h
    rw [← h.2]
    exact Cursor.pass_length _ _

/-- The next characters as far as they belong to a class, which stay unread. -/
def lookWhile (p : Char → Bool) : Reader (List Char) where
  run c := .ok (c.rest.takeWhile p, c)
  shrinks h := by
    simp only [Except.ok.injEq, Prod.mk.injEq] at h
    exact h.2 ▸ Nat.le_refl _

/-- Reads so many characters, or all that are left. -/
def skipMany : Nat → Reader Unit
  | 0 => pure ()
  | n + 1 => bind skip fun _ => skipMany n

/-- Places the failures of a reader that have no place yet where it came to stand. -/
def settled (r : Reader α) : Reader α where
  run c :=
    match r.run c with
    | .ok found => .ok found
    | .error (.floating cause last) => .error (.placed cause last.place)
    | .error e => .error e
  shrinks h := by
    split at h
    · rename_i found same
      simp only [Except.ok.injEq] at h
      subst h
      exact r.shrinks same
    · simp at h
    · simp at h

/-- Reads an inner part and then its end. A floating failure of the inner part moves to where the
attempt to read the end leaves the cursor. -/
def closedBy (inner : Reader α) (finish : Reader Unit) (move : Cursor → Cursor) : Reader α where
  run c :=
    match inner.run c with
    | .error (.floating cause last) => .error (.floating cause (move last))
    | .error e => .error e
    | .ok (a, next) =>
        match finish.run next with
        | .error e => .error e
        | .ok (_, last) => .ok (a, last)
  shrinks h := by
    split at h
    · simp at h
    · simp at h
    · rename_i a next first
      split at h
      · simp at h
      · rename_i _ last second
        simp only [Except.ok.injEq, Prod.mk.injEq] at h
        rw [← h.2]
        exact Nat.le_trans (finish.shrinks second) (inner.shrinks first)

/-- Reads the letters of a word of which the first was read. -/
def letters : List Char → Reader Unit
  | [] => pure ()
  | letter :: rest => do
      match ← peek with
      | none => fail .endInValue
      | some c =>
          if c = letter then
            skip
            letters rest
          else failAhead .expectedIdent

end Reader

end CatalogueEditor.Json
